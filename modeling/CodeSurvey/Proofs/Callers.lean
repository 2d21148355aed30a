import CodeSurvey.Parser
import CodeSurvey.Proofs.Filing
import CodeSurvey.Proofs.Symbols

/-! Calls go by the keys that the functions around them have in the symbol table. The key of a
method is chosen before it is known whether its type is in the file, and put right at the end. -/
namespace CodeSurvey

namespace Walk

/-! ### Putting keys right -/

variable {ds : List (String × FunctionDecl)} {key owner : String} {m : FunctionDecl}

/-- What becomes of a key when the calls from methods without a class are renamed. -/
def renameKey (ds : List (String × FunctionDecl)) (key : String) : String :=
  ds.foldl (fun key d => if key = methodKey d.1 d.2.name then d.2.name else key) key

theorem renameAll_eq (ds : List (String × FunctionDecl)) (call : CallSite) :
    renameAll ds call = { call with caller := call.caller.map (renameKey ds) } := by
  induction ds generalizing call with
  | nil =>
    have hid : renameKey [] = id := rfl
    simp [renameAll, hid]
  | cons d ds ih =>
    have hcons : renameAll (d :: ds) call =
        renameAll ds (renameCaller (methodKey d.1 d.2.name) d.2.name call) := rfl
    rw [hcons, ih]
    rw [renameCaller]
    cases hc : call.caller with
    | none => simp [hc]
    | some key =>
      by_cases hk : key = methodKey d.1 d.2.name
      · simp [hk, renameKey]
      · simp [hc, hk, renameKey]

theorem renameKey_of_ne (h : ∀ d ∈ ds, key ≠ methodKey d.1 d.2.name) : renameKey ds key = key := by
  induction ds with
  | nil => rfl
  | cons d ds ih =>
    have hd := h d (by simp)
    simpa [renameKey, hd] using ih fun e he => h e (by simp [he])

/-- The key of a method without a class becomes its name. No other such method with a name of its
own has the same key. -/
theorem renameKey_of_mem (hdot : ∀ d ∈ ds, '.' ∉ d.2.name.toList) (h : (owner, m) ∈ ds) :
    renameKey ds (methodKey owner m.name) = m.name := by
  induction ds with
  | nil => cases h
  | cons d ds ih =>
    have hm := hdot _ h
    have hrest : ∀ e ∈ ds, '.' ∉ e.2.name.toList := fun e he => hdot e (by simp [he])
    by_cases hk : methodKey owner m.name = methodKey d.1 d.2.name
    · have hname : m.name = d.2.name := (methodKey_inj hm (hdot d (by simp)) hk).2
      have hfixed : renameKey ds m.name = m.name := renameKey_of_ne fun _ _ => ne_methodKey hm
      simpa [renameKey, hk, ← hname] using hfixed
    · rcases List.mem_cons.1 h with rfl | h
      · exact (hk rfl).elim
      · simpa [renameKey, hk] using ih hrest h

/-! ### The key of a function -/

section

variable (g : Grammar) (src : Source) (root : Tree)

/-- The key of a function in the symbol table. A method without a class goes by its name. -/
def filedKey (f : Place × FunctionHead) : String :=
  match owner? g src f, classAround? g src f.1 with
  | some owner, _ =>
    if (classNamed? g src root owner).isSome then methodKey owner f.2.name else f.2.name
  | none, some c => methodKey c.2.name f.2.name
  | none, none => f.2.name

/-- No method stands outside of its type, or all functions have names without dots. -/
def KeysTell : Prop :=
  (∀ f ∈ functionNodes g src root, owner? g src f = none) ∨
    ∀ f ∈ functionNodes g src root, '.' ∉ f.2.name.toList

end

variable {g : Grammar} {src : Source} {root : Tree} {p : Place} {f : Place × FunctionHead}
  {c : Place × ClassHead} {withOutline : Bool}

theorem entryKey_eq (f : Place × FunctionHead) :
    entryKey g src f =
      match owner? g src f, classAround? g src f.1 with
      | some owner, _ => methodKey owner f.2.name
      | none, some c => methodKey c.2.name f.2.name
      | none, none => f.2.name := by
  rw [entryKey]
  rw [attachmentAt_eq]
  cases owner? g src f with
  | some owner => rfl
  | none => cases classAround? g src f.1 <;> rfl

/-- The key of a function tells the class that it ends up in. -/
theorem filedKey_eq (f : Place × FunctionHead) :
    filedKey g src root f =
      match home? g src root f with
      | some c => methodKey c.2.name f.2.name
      | none => f.2.name := by
  rw [filedKey, home?]
  cases owner? g src f with
  | some owner =>
    cases hc : classNamed? g src root owner with
    | none => simp [hc]
    | some c =>
      have hname : c.2.name = owner := (firstNamed_eq_some hc).2
      simp [hc, hname]
  | none => cases classAround? g src f.1 <;> rfl

theorem mem_detachedMethods {d : String × FunctionDecl} :
    d ∈ detachedMethods g src root ↔
      ∃ f ∈ functionNodes g src root, owner? g src f = some d.1 ∧ d.2 = declOf g src f := by
  rw [detachedMethods]
  rw [List.mem_flatMap]
  constructor
  · rintro ⟨p, hp, hd⟩
    rw [detachedAt] at hd
    cases hn : functionNode? g src p with
    | none =>
      rw [functionAs_of_noFunctionNode _ hn] at hd
      cases hd
    | some f =>
      rw [functionAs_of_functionNode _ hn, attachmentAt_eq] at hd
      obtain ⟨rfl, ho⟩ := functionNode?_eq_some.1 hn
      refine ⟨f, mem_functionNodes.2 ⟨(Place.postorder_perm_subtree _).mem_iff.1 hp, ho⟩, ?_⟩
      cases howner : owner? g src f with
      | some owner =>
        simp only [howner, List.mem_singleton] at hd
        simp [hd]
      | none =>
        rw [howner] at hd
        split at hd <;> grind
  · rintro ⟨f, hf, ho, hd⟩
    obtain ⟨hp, hopen⟩ := mem_functionNodes.1 hf
    refine ⟨f.1, (Place.postorder_perm_subtree _).mem_iff.2 hp, ?_⟩
    rw [detachedAt]
    rw [functionAs_of_functionNode _ (functionNode?_eq_some.2 ⟨rfl, hopen⟩), attachmentAt_eq, ho]
    simp [← hd]

theorem mem_strayMethods {d : String × FunctionDecl} :
    d ∈ strayMethods g src root ↔
      d ∈ detachedMethods g src root ∧ classNamed? g src root d.1 = none := by
  simp [strayMethods, unclaimed, classNamed?]

theorem classNamed?_ne_none (hc : c ∈ classNodes g src root) :
    classNamed? g src root c.2.name ≠ none := by
  intro h
  exact firstNamed_eq_none.1 h c hc rfl

theorem strayMethods_eq_nil (h : ∀ f ∈ functionNodes g src root, owner? g src f = none) :
    strayMethods g src root = [] := by
  apply List.eq_nil_iff_forall_not_mem.2
  intro d hd
  obtain ⟨f, hf, ho, -⟩ := mem_detachedMethods.1 (mem_strayMethods.1 hd).1
  rw [h f hf] at ho
  cases ho

theorem dot_notMem_strayMethods (h : ∀ f ∈ functionNodes g src root, '.' ∉ f.2.name.toList)
    {d : String × FunctionDecl} (hd : d ∈ strayMethods g src root) : '.' ∉ d.2.name.toList := by
  obtain ⟨f, hf, -, hm⟩ := mem_detachedMethods.1 (mem_strayMethods.1 hd).1
  rw [hm, name_declOf]
  exact h f hf

/-- The key of a method of some class belongs to no stray method. -/
theorem methodKey_ne_of_classNamed (h : ∀ f ∈ functionNodes g src root, '.' ∉ f.2.name.toList)
    (hf : f ∈ functionNodes g src root) (hc : classNamed? g src root owner ≠ none)
    {d : String × FunctionDecl} (hd : d ∈ strayMethods g src root) :
    methodKey owner f.2.name ≠ methodKey d.1 d.2.name := by
  intro hk
  have ho := (methodKey_inj (h f hf) (dot_notMem_strayMethods h hd) hk).1
  exact hc (ho ▸ (mem_strayMethods.1 hd).2)

/-- The keys that calls went by on the way become those of the symbol table. -/
theorem renameKey_entryKey (h : KeysTell g src root) (hf : f ∈ functionNodes g src root) :
    renameKey (strayMethods g src root) (entryKey g src f) = filedKey g src root f := by
  rw [entryKey_eq]
  rw [filedKey]
  rcases h with h | h
  · rw [strayMethods_eq_nil h, h f hf]
    cases classAround? g src f.1 <;> rfl
  cases ho : owner? g src f with
  | some owner =>
    cases hc : classNamed? g src root owner with
    | some c =>
      have hne : classNamed? g src root owner ≠ none := by simp [hc]
      simpa [hc] using renameKey_of_ne fun d hd => methodKey_ne_of_classNamed h hf hne hd
    | none =>
      have hd : (owner, declOf g src f) ∈ strayMethods g src root :=
        mem_strayMethods.2 ⟨mem_detachedMethods.2 ⟨f, hf, ho, rfl⟩, hc⟩
      have hr := renameKey_of_mem (fun d hd => dot_notMem_strayMethods h hd) hd
      simpa [hc, name_declOf] using hr
  | none =>
    have hbare : renameKey (strayMethods g src root) f.2.name = f.2.name :=
      renameKey_of_ne fun d _ => ne_methodKey (h f hf)
    cases ha : classAround? g src f.1 with
    | none => exact hbare
    | some c =>
      have hc := classNamed?_ne_none (classAround?_mem (mem_functionNodes.1 hf).1 ha)
      exact renameKey_of_ne fun d hd => methodKey_ne_of_classNamed h hf hc hd

/-! ### Callers -/

theorem functionAround?_mem (hp : p ∈ (Place.root root).subtree)
    (h : functionAround? g src p = some f) : f ∈ functionNodes g src root := by
  obtain ⟨⟨q, o⟩, hmem, hin⟩ := List.exists_of_findSome?_eq_some h
  cases o with
  | function i =>
    cases hin
    exact mem_functionNodes.2 (mem_enclosing hp hmem)
  | classLike i => cases hin
  | impl i => cases hin

theorem caller_of_mem_callAt {keyOf : Place × FunctionHead → String} {call : CallSite}
    (h : call ∈ callAt g src keyOf p) (hkey : call.caller = some key) :
    ∃ f, functionAround? g src p = some f ∧ keyOf f = key := by
  rw [callAt] at h
  split at h
  · obtain ⟨callee, -, rfl⟩ := List.mem_map.1 h
    exact Option.map_eq_some_iff.1 hkey
  · cases h

theorem map_renameAll_callAt (h : KeysTell g src root) (hp : p ∈ (Place.root root).subtree) :
    (callAt g src (entryKey g src) p).map (renameAll (strayMethods g src root)) =
      callAt g src (filedKey g src root) p := by
  have hcaller : ((functionAround? g src p).map (entryKey g src)).map
      (renameKey (strayMethods g src root)) =
        (functionAround? g src p).map (filedKey g src root) := by
    cases ha : functionAround? g src p with
    | none => rfl
    | some f => simp [renameKey_entryKey h (functionAround?_mem hp ha)]
  simp only [callAt]
  split
  · simp [Function.comp_def, renameAll_eq, hcaller]
  · rfl

theorem calls_extract (h : KeysTell g src root)
    (hfatal : isFatal src root (run g src root).errorBytes = false) :
    (extract g src root withOutline).calls =
      (Place.root root).subtree.flatMap (callAt g src (filedKey g src root)) := by
  have he : (extract g src root withOutline).calls = (run g src root).assemble.calls := by
    simp [extract, hfatal]
  rw [he, assemble_run, List.map_flatMap]
  exact List.flatMap_congr fun p hp => map_renameAll_callAt h hp

/-! ### Keys of the symbol table -/

/-- A function is filed under a key: at top level under its name, or in a class of the list. -/
def FiledUnder (ds : List Declaration) (m : FunctionDecl) (key : String) : Prop :=
  .function m ∈ ds ∧ key = m.name ∨
    ∃ c, .classLike c ∈ ds ∧ m ∈ c.methods ∧ key = methodKey c.name m.name

theorem FiledUnder.lookup_isSome {ds : List Declaration} (h : FiledUnder ds m key)
    (globals : List Variable) (calls : List CallSite) :
    ((Symbols.of ds globals calls).lookup key).isSome := by
  rw [Symbols.lookup_isSome_iff]
  apply Symbols.mem_keys_ofBindings.2
  rw [Symbols.bindings]
  rw [List.map_append, List.mem_append]
  left
  rcases h with ⟨hm, hkey⟩ | ⟨c, hc, hm, hkey⟩
  · refine List.mem_map.2 ⟨_, List.mem_flatMap.2 ⟨_, hm, List.mem_singleton_self _⟩, ?_⟩
    exact hkey.symm
  · refine List.mem_map.2 ⟨(methodKey c.name m.name, ⟨.method, m.lineStart⟩),
      List.mem_flatMap.2 ⟨_, hc, ?_⟩, hkey.symm⟩
    exact List.mem_cons_of_mem _ (List.mem_map.2 ⟨m, hm, rfl⟩)

theorem filedUnder_filedKey (hf : f ∈ functionNodes g src root)
    (hfatal : isFatal src root (run g src root).errorBytes = false) :
    FiledUnder (extract g src root withOutline).declarations (declOf g src f)
      (filedKey g src root f) := by
  classical
  rw [filedKey_eq]
  cases hh : home? g src root f with
  | none => exact .inl ⟨function_mem_declarations hf hh hfatal, (name_declOf f).symm⟩
  | some c =>
    have hc : c ∈ classNodes g src root := home?_mem hf hh
    have hm : declOf g src f ∈ ((functionNodes g src root).filter fun f =>
        home? g src root f = some c).map (declOf g src) :=
      List.mem_map_of_mem (List.mem_filter.2 ⟨hf, by simp [hh]⟩)
    refine .inr ⟨listedClass g src root c, class_mem_declarations hc hfatal, ?_, ?_⟩
    · exact (ClassDecl.methods_sortMethods _).mem_iff.2 ((methods_filedClass hc).mem_iff.2 hm)
    · have hname : (listedClass g src root c).name = c.2.name := name_filedClass c
      rw [hname, name_declOf]

end Walk

/-! ### The grammars -/

namespace Dialect

def grammar : Dialect → Grammar
  | python => Python.grammar
  | javaScript => Ecma.grammar .javaScript
  | typeScript | tsx => Ecma.grammar .typeScript
  | java => Java.grammar
  | go => Go.grammar
  | rust => Rust.grammar

variable {d : Dialect} {src : Source} {root : Tree}

/-- Only Go and Rust have methods that stand outside of their type. -/
theorem function_owner (hd : ¬ (d = .go ∨ d = .rust)) {p : Place} {h : FunctionHead}
    (hf : d.grammar.function src p = some h) : h.owner = none := by
  cases d with
  | python => simp [grammar, Python.grammar, Python.function] at hf; grind
  | javaScript | typeScript | tsx => simp [grammar, Ecma.grammar, Ecma.function] at hf; grind
  | java => simp [grammar, Java.grammar, Java.function] at hf; grind
  | go => simp at hd
  | rust => simp at hd

theorem impl_eq_none (hd : ¬ (d = .go ∨ d = .rust)) (p : Place) : d.grammar.impl src p = none := by
  cases d with
  | go => simp at hd
  | rust => simp at hd
  | _ => rfl

theorem owner?_eq_none (hd : ¬ (d = .go ∨ d = .rust)) {f : Place × FunctionHead}
    (hf : f ∈ Walk.functionNodes d.grammar src root) : Walk.owner? d.grammar src f = none := by
  obtain ⟨hp, hopen⟩ := Walk.mem_functionNodes.1 hf
  have hown : f.2.owner = none := by
    rw [opening?] at hopen
    split at hopen
    · cases hh : d.grammar.function src f.1 with
      | none => simp [hh] at hopen
      | some h =>
        simp only [hh, Option.map_some, Option.some.injEq, Opening.function.injEq] at hopen
        exact hopen ▸ function_owner hd hh
    · simp at hopen
    · simp at hopen
    · simp at hopen
  rw [Walk.owner?]
  rw [hown, Option.none_or]
  split
  · next q i ha =>
    have := (around?_mem hp ha).2
    rw [opening?] at this
    simp only [impl_eq_none hd] at this
    split at this <;> simp at this
  · rfl

theorem keysTell (h : d = .go ∨ d = .rust →
      ∀ f ∈ Walk.functionNodes d.grammar src root, '.' ∉ f.2.name.toList) :
    Walk.KeysTell d.grammar src root := by
  by_cases hd : d = .go ∨ d = .rust
  · exact .inr (h hd)
  · exact .inl fun f hf => owner?_eq_none hd hf

end Dialect

namespace Walk

/-- The caller of a call is the key of the innermost function around it, and there is none only
if there is no such function. The key is the one that the declaration of the function is filed
under, so that every caller is a name of the symbol table. -/
theorem calls_attributed (d : Dialect) (src : Source) (root : Tree) (withOutline : Bool)
    (hnames : d = .go ∨ d = .rust →
      ∀ f ∈ functionNodes d.grammar src root, '.' ∉ f.2.name.toList)
    (hfatal : isFatal src root (run d.grammar src root).errorBytes = false) :
    let e := extract d.grammar src root withOutline
    let symbols := Symbols.of e.declarations e.globals e.calls
    e.calls = (Place.root root).subtree.flatMap
        (callAt d.grammar src (filedKey d.grammar src root)) ∧
      (∀ p ∈ (Place.root root).subtree, ∀ f, functionAround? d.grammar src p = some f →
        f ∈ functionNodes d.grammar src root) ∧
      (∀ f ∈ functionNodes d.grammar src root,
        FiledUnder e.declarations (declOf d.grammar src f) (filedKey d.grammar src root f)) ∧
      ∀ call ∈ symbols.calls, ∀ key, call.caller = some key → (symbols.lookup key).isSome := by
  intro e symbols
  have hcalls : e.calls = (Place.root root).subtree.flatMap
      (callAt d.grammar src (filedKey d.grammar src root)) :=
    calls_extract (Dialect.keysTell hnames) hfatal
  have hfiled : ∀ f ∈ functionNodes d.grammar src root, FiledUnder e.declarations
      (declOf d.grammar src f) (filedKey d.grammar src root f) :=
    fun f hf => filedUnder_filedKey hf hfatal
  refine ⟨hcalls, fun p hp f => functionAround?_mem hp, hfiled, ?_⟩
  intro call hcall key hkey
  have hcall : call ∈ e.calls := hcall
  rw [hcalls, List.mem_flatMap] at hcall
  obtain ⟨p, hp, hcall⟩ := hcall
  obtain ⟨f, hf, rfl⟩ := caller_of_mem_callAt hcall hkey
  exact (hfiled f (functionAround?_mem hp hf)).lookup_isSome _ _

theorem calls_attributed_sample :
    let e := extract Go.grammar sampleSource sampleTree false
    (∀ f ∈ functionNodes Go.grammar sampleSource sampleTree, '.' ∉ f.2.name.toList) ∧
      isFatal sampleSource sampleTree (run Go.grammar sampleSource sampleTree).errorBytes = false ∧
      e.calls = (Place.root sampleTree).subtree.flatMap
        (callAt Go.grammar sampleSource (filedKey Go.grammar sampleSource sampleTree)) ∧
      e.calls.map CallSite.caller = [some "T.f"] :=
  have hnames : ∀ f ∈ functionNodes Go.grammar sampleSource sampleTree,
      '.' ∉ f.2.name.toList := by decide +kernel
  have hfatal : isFatal sampleSource sampleTree
      (run Go.grammar sampleSource sampleTree).errorBytes = false := by decide +kernel
  ⟨hnames, hfatal,
    (calls_attributed .go sampleSource sampleTree false (fun _ => hnames) hfatal).1,
    by decide +kernel⟩

end Walk

end CodeSurvey
