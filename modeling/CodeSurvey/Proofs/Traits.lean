import CodeSurvey.Proofs.Moves
import CodeSurvey.Proofs.Scopes
import CodeSurvey.Proofs.UseTrees

/-! The traits that impl blocks give to the types of a Rust file, and the methods of these types.
Both are found wherever the blocks stand. -/
namespace CodeSurvey

/-- Names that are not among others, each once and in the order of their first occurrence. -/
def newNames (known names : List String) : List String :=
  (names.filter fun n => n ∉ known).eraseDups

theorem mem_newNames {known names : List String} {n : String} :
    n ∈ newNames known names ↔ n ∈ names ∧ n ∉ known := by
  simp [newNames, List.mem_eraseDups]

/-- A class takes the traits that it does not have yet. -/
theorem baseNames_foldl_addBase (ts : List (String × String)) (d : ClassDecl) :
    (ts.foldl (fun d t => d.addBase t.2) d).baseNames =
      d.baseNames ++ newNames d.baseNames (ts.map Prod.snd) := by
  induction ts generalizing d with
  | nil => simp [newNames]
  | cons t ts ih =>
    rw [List.foldl_cons, ih, ClassDecl.addBase, List.map_cons, newNames, newNames]
    by_cases hmem : t.2 ∈ d.baseNames
    · rw [if_pos (List.contains_iff_mem.2 hmem), List.filter_cons_of_neg (by simpa using hmem)]
    · -- From here on the new base is known too, which is what leaving out its copies amounts to.
      have hmore : (ts.map Prod.snd).filter (fun n => n ∉ d.baseNames ++ [t.2]) =
          ((ts.map Prod.snd).filter fun n => n ∉ d.baseNames).filter fun n => !n == t.2 := by
        rw [List.filter_filter]
        apply List.filter_congr
        intro n _
        rw [Bool.eq_iff_iff]
        simp [and_comm]
      rw [if_neg (mt List.contains_iff_mem.1 hmem), List.filter_cons_of_pos (by simpa using hmem),
        List.eraseDups_cons, hmore, List.append_assoc]
      rfl

namespace Walk

variable {g : Grammar} {src : Source} {root : Tree} {c : Place × ClassHead}

variable (g src root) in
/-- The traits that the file has for a type. -/
def traitsFor (name : String) : List String :=
  (((Place.root root).subtree.flatMap (traitAt g src)).filter (·.1 = name)).map Prod.snd

theorem baseNames_listedClass (c : Place × ClassHead) :
    (listedClass g src root c).baseNames = c.2.bases ++ newNames c.2.bases
      ((traitsOf (classNodes g src root) (·.2.name)
        ((Place.root root).subtree.flatMap (traitAt g src)) c).map Prod.snd) := by
  have hown : (ownClass g src c.1 c.2).baseNames = c.2.bases := by
    obtain ⟨_, h⟩ := @ownClass_eq g src c
    rw [h]
    rfl
  have hlisted : (listedClass g src root c).baseNames = (filedClass g src root c).baseNames := rfl
  rw [hlisted, filedClass, baseNames_foldl_addBase, ← hown]
  rfl

/-- The first class of a name has the traits of its name besides its own bases. -/
theorem baseNames_of_first (h : classNamed? g src root c.2.name = some c) :
    (listedClass g src root c).baseNames =
      c.2.bases ++ newNames c.2.bases (traitsFor g src root c.2.name) := by
  classical
  have htraits : traitsOf (classNodes g src root) (·.2.name)
      ((Place.root root).subtree.flatMap (traitAt g src)) c =
        ((Place.root root).subtree.flatMap (traitAt g src)).filter (·.1 = c.2.name) := by
    apply List.filter_congr
    intro t _
    rw [decide_eq_decide]
    constructor
    · intro ht
      exact (firstNamed_eq_some ht).2.symm
    · intro ht
      rw [ht]
      exact h
  rw [baseNames_listedClass, htraits]
  rfl

theorem baseNames_of_later (h : classNamed? g src root c.2.name ≠ some c) :
    (listedClass g src root c).baseNames = c.2.bases := by
  classical
  have htraits : traitsOf (classNodes g src root) (·.2.name)
      ((Place.root root).subtree.flatMap (traitAt g src)) c = [] := by
    rw [traitsOf, List.filter_eq_nil_iff]
    intro t _ ht
    have hfirst : classNamed? g src root t.1 = some c := by simpa [classNamed?] using ht
    rw [← (firstNamed_eq_some hfirst).2] at hfirst
    exact h hfirst
  rw [baseNames_listedClass, htraits]
  simp [newNames]

/-- The classes of a name are those of the nodes of this name. -/
theorem filter_classes_perm {ds : List ClassDecl}
    (hds : ds.Perm ((classNodes g src root).map (listedClass g src root))) (name : String) :
    (ds.filter (·.name = name)).Perm
      (((classNodes g src root).filter (·.2.name = name)).map (listedClass g src root)) := by
  have h := hds.filter (·.name = name)
  rw [List.filter_map] at h
  simpa only [Function.comp_def, name_listedClass] using h

theorem unique_of_filter_eq {name : String}
    (hc : (classNodes g src root).filter (·.2.name = name) = [c]) :
    c ∈ classNodes g src root ∧ c.2.name = name ∧
      ∀ d ∈ classNodes g src root, d.2.name = c.2.name → d = c := by
  have hmem : ∀ d, d ∈ (classNodes g src root).filter (·.2.name = name) ↔ d = c := by
    intro d
    rw [hc, List.mem_singleton]
  simp only [List.mem_filter, decide_eq_true_eq] at hmem
  obtain ⟨hcn, hname⟩ := (hmem c).2 rfl
  refine ⟨hcn, hname, ?_⟩
  intro d hd hdc
  exact (hmem d).1 ⟨hd, hdc.trans hname⟩

end Walk

namespace Rust

open Walk

section

variable (src : Source)

/-- The head of an impl block that is no fault. -/
def implHead? (p : Place) : Option ImplHead :=
  if p.kind == "impl_item" && !p.tree.isFault then impl src p else none

variable (root : Tree)

/-- The traits that the impl blocks of a type name, in the order of the blocks. -/
def traitsGiven (owner : String) : List String :=
  (Place.root root).subtree.filterMap fun p =>
    (implHead? src p).bind fun h => h.traitName.filter fun _ => h.owner = owner

/-- A type without its generic arguments, which start at the first angle bracket. -/
inductive Bare : String → String → Prop where
  | plain {type : String} (h : '<' ∉ type.toList) : Bare type (Text.trimmed type)
  | generic {name arguments : String} (h : '<' ∉ name.toList) :
      Bare (name ++ "<" ++ arguments) (Text.trimmed name)

/-- The head of an impl block names the type and the trait that are written there. -/
structure HeadOf (p : Place) (h : ImplHead) : Prop where
  owner : ∃ type, p.tree.fieldText? src "type" = some type ∧ Bare type h.owner
  traitName : Option.Rel Bare (p.tree.fieldText? src "trait") h.traitName

/-- A class as it is listed, and its bases: only the first of its name has more than those of its
head. -/
structure BasesOf (d : ClassDecl) (c : Place × ClassHead) : Prop where
  listed : d = listedClass grammar src root c
  name : d.name = c.2.name
  first : classNamed? grammar src root c.2.name = some c →
    d.baseNames = c.2.bases ++ newNames c.2.bases (traitsGiven src root c.2.name)
  later : classNamed? grammar src root c.2.name ≠ some c → d.baseNames = c.2.bases

/-- What a record says of the bases of its classes. The nodes of the classes, of which the first one
of a name is told, stand in the order in which the walk finds them. -/
structure Attached (r : FileRecord) : Prop where
  order : (run grammar src root).classes.toList.map ClassDecl.name =
    (classNodes grammar src root).map (·.2.name)
  bases : ∃ nodes, nodes.Perm (classNodes grammar src root) ∧
    List.Forall₂ (BasesOf src root) r.classes nodes
  heads : ∀ p h, implHead? src p = some h → HeadOf src p h
  /-- Where nothing that is made up has parts, every block that is no error counts. -/
  blocks : (∀ p ∈ (Place.root root).subtree, p.tree.isMissing = true → p.tree.children = []) →
    ∀ p ∈ (Place.root root).subtree, p.kind = "impl_item" → p.tree.isError = false →
      implHead? src p = impl src p

end

variable {src : Source} {root : Tree} {p : Place} {c : Place × ClassHead}

theorem role_eq_impl_iff (src : Source) (p : Place) :
    role src p = .impl ↔ p.kind = "impl_item" := by
  constructor
  · intro h
    rw [role] at h
    grind
  · intro h
    simp [role, h]

theorem traitAt_eq (p : Place) : traitAt grammar src p =
    ((implHead? src p).bind fun h => h.traitName.map (h.owner, ·)).toList := by
  have hrole : roleOf grammar src p = .impl ↔ p.kind = "impl_item" ∧ p.tree.isFault = false := by
    rw [← role_eq_impl_iff src, roleOf]
    cases p.tree.isFault <;> simp [grammar]
  by_cases himpl : roleOf grammar src p = .impl
  · obtain ⟨hkind, hfault⟩ := hrole.1 himpl
    have hhead : implHead? src p = impl src p := by simp [implHead?, hkind, hfault]
    have hopening : opening? grammar src p = (impl src p).map .impl := by
      rw [opening?, himpl]
      rfl
    rw [traitAt, hopening, hhead]
    cases impl src p with
    | none => rfl
    | some h => simp [Option.toList_map]
  · have hhead : implHead? src p = none := by
      rw [hrole] at himpl
      simp_all [implHead?]
    rw [hhead, traitAt_of_ne rfl himpl]
    rfl

theorem traitsFor_eq (owner : String) :
    traitsFor grammar src root owner = traitsGiven src root owner := by
  rw [traitsFor, traitsGiven, List.filterMap_eq_flatMap_toList, List.filter_flatMap,
    List.map_flatMap]
  apply List.flatMap_congr
  intro p _
  rw [traitAt_eq]
  cases implHead? src p with
  | none => rfl
  | some h =>
    obtain ⟨own, traitName⟩ := h
    cases traitName with
    | none => rfl
    | some name => by_cases howner : own = owner <;> simp [howner, Option.filter]

theorem implHead?_eq (hmissing : p.tree.isMissing = true → p.tree.children = [])
    (hkind : p.kind = "impl_item") (herror : p.tree.isError = false) :
    implHead? src p = impl src p := by
  cases hm : p.tree.isMissing with
  | false => simp [implHead?, hkind, Tree.isFault, herror, hm]
  | true =>
    have hnone : impl src p = none := by
      simp [impl, Tree.fieldText?, Tree.child?, hmissing hm]
    simp [implHead?, hkind, Tree.isFault, herror, hm, hnone]

theorem bare_stripGenerics (type : String) : Bare type (stripGenerics type) := by
  rw [stripGenerics]
  by_cases h : '<' ∈ type.toList
  · obtain ⟨name, arguments, htype, hname⟩ := List.eq_append_cons_of_mem h
    obtain rfl : type = String.ofList name ++ "<" ++ String.ofList arguments := by
      apply String.toList_inj.1
      simp [htype]
    have hbare : '<' ∉ (String.ofList name).toList := by simpa using hname
    rw [(Text.upTo_eq_iff rfl hbare).2 (.inr ⟨_, rfl⟩)]
    exact .generic hbare
  · rw [(Text.upTo_eq_iff rfl h).2 (.inl rfl)]
    exact .plain h

theorem headOf_implHead? {h : ImplHead} (hp : implHead? src p = some h) : HeadOf src p h := by
  rw [implHead?] at hp
  split at hp
  · obtain ⟨type, htype, rfl⟩ := Option.map_eq_some_iff.1 hp
    refine ⟨⟨type, htype, bare_stripGenerics type⟩, ?_⟩
    cases p.tree.fieldText? src "trait" with
    | none => exact .none
    | some traitType => exact .some (bare_stripGenerics traitType)
  · cases hp

theorem basesOf_listedClass (c : Place × ClassHead) :
    BasesOf src root (listedClass grammar src root c) c where
  listed := rfl
  name := name_listedClass c
  first h := by rw [baseNames_of_first h, traitsFor_eq]
  later h := baseNames_of_later h

/-! ### Types whose file is put in another order -/

section

variable {s t : Tree} {d : ClassDecl} {ds es : List ClassDecl} {name : String}
  (hlabel : s.label = t.label) (hroot : t.kind = "source_file")
  (hperm : s.children.Perm t.children)
  (hds : ds.Perm ((classNodes grammar src t).map (listedClass grammar src t)))
  (hes : es.Perm ((classNodes grammar src s).map (listedClass grammar src s)))
include hlabel hroot hperm

/-- There is one node of the name in either tree, and their heads say the same. -/
theorem exists_moved_node
    (hc : (classNodes grammar src t).filter (·.2.name = name) = [c]) :
    ∃ c', (classNodes grammar src s).filter (·.2.name = name) = [c'] ∧ c'.2.bases = c.2.bases := by
  have hfilter : ∀ r : Tree, (((classNodes grammar src r).map fun c =>
      (c.2.name, c.2.bases)).filter (·.1 = name)) =
        ((classNodes grammar src r).filter (·.2.name = name)).map fun c =>
          (c.2.name, c.2.bases) := by
    intro r
    rw [List.filter_map]
    rfl
  have hheads := (classHeads_perm hlabel hroot hperm src).filter (·.1 = name)
  rw [hfilter, hfilter, hc, List.map_singleton, List.perm_singleton, List.map_eq_singleton_iff]
    at hheads
  obtain ⟨c', hc', hhead⟩ := hheads
  exact ⟨c', hc', (Prod.mk.inj hhead).2⟩

include hds hes

theorem exists_moved_class (hd : ds.filter (·.name = name) = [d]) :
    ∃ e, es.filter (·.name = name) = [e] ∧ (∀ b, b ∈ e.baseNames ↔ b ∈ d.baseNames) ∧
      e.methods.Perm d.methods := by
  have hnodes := filter_classes_perm hds name
  rw [hd, List.singleton_perm, eq_comm, List.map_eq_singleton_iff] at hnodes
  obtain ⟨c, hc, rfl⟩ := hnodes
  obtain ⟨c', hc', hbases⟩ := exists_moved_node hlabel hroot hperm hc
  obtain ⟨hmem, hname, hunique⟩ := unique_of_filter_eq hc
  obtain ⟨hmem', hname', hunique'⟩ := unique_of_filter_eq hc'
  refine ⟨listedClass grammar src s c', ?_, ?_, ?_⟩
  · have hes := filter_classes_perm hes name
    rw [hc'] at hes
    exact List.perm_singleton.1 hes
  · intro b
    have htraits : b ∈ traitsFor grammar src s c'.2.name ↔
        b ∈ traitsFor grammar src t c.2.name := by
      rw [hname, hname']
      exact (((traits_perm hlabel hroot hperm).filter _).map _).mem_iff
    rw [baseNames_of_first (classNamed?_of_unique hmem hunique),
      baseNames_of_first (classNamed?_of_unique hmem' hunique')]
    simp only [List.mem_append, mem_newNames, hbases, htraits]
  · have hmethods := methods_listedClass hmem hunique
    have hmethods' := methods_listedClass hmem' hunique'
    rw [hname] at hmethods
    rw [hname'] at hmethods'
    exact hmethods'.trans ((functions_perm hlabel hroot hperm src name).trans hmethods.symm)

end

theorem attached_ofTree {text path : String} {options : ParseOptions} {r : FileRecord}
    (hr : Parser.ofTree grammar (some root) text path options = .record r)
    (hfatal : isFatal (.ofText text) root (run grammar (.ofText text) root).errorBytes = false) :
    Attached (.ofText text) root r where
  order := names_classes grammar (.ofText text) root
  bases := by
    have hpaired : List.Forall₂ (BasesOf (.ofText text) root)
        ((classNodes grammar (.ofText text) root).map (listedClass grammar (.ofText text) root))
        (classNodes grammar (.ofText text) root) := by
      rw [List.forall₂_map_left_iff, List.forall₂_same]
      intro c _
      exact basesOf_listedClass c
    have hclasses := allClasses_extract options.includeOutline hfatal
    rw [← declarations_ofTree hr] at hclasses
    obtain ⟨nodes, hnodes, hperm⟩ := List.perm_comp_forall₂ hclasses hpaired
    exact ⟨nodes, hperm, hnodes⟩
  heads _ _ := headOf_implHead?
  blocks hmissing p hp hkind herror := implHead?_eq (hmissing p hp) hkind herror

/-- The first class of a name has the bases of its head and, after them, the traits that impl blocks
anywhere in the file give to the name; every other class has the bases of its head. A type that is
the only one of its name has the same bases and the same methods, whatever the order of the items of
the file. -/
theorem traits_attached (text path : String) (root : Tree) (options : ParseOptions)
    (hfatal : isFatal (.ofText text) root (run grammar (.ofText text) root).errorBytes = false) :
    ∃ r, Parser.ofTree grammar (some root) text path options = .record r ∧
      Attached (.ofText text) root r ∧
      (root.kind = "source_file" → ∀ items, items.Perm root.children →
        ∃ r', Parser.ofTree grammar (some (.node root.label items)) text path options =
            .record r' ∧
          ∀ name d, r.classes.filter (·.name = name) = [d] →
            ∃ e, r'.classes.filter (·.name = name) = [e] ∧
              (∀ b, b ∈ e.baseNames ↔ b ∈ d.baseNames) ∧ e.methods.Perm d.methods) := by
  refine ⟨_, rfl, attached_ofTree rfl hfatal, ?_⟩
  intro hroot items hitems
  refine ⟨_, rfl, ?_⟩
  intro name d hd
  have hlabel : (Tree.node root.label items).label = root.label := rfl
  have hfatal' : isFatal (.ofText text) (.node root.label items)
      (run grammar (.ofText text) (.node root.label items)).errorBytes = false :=
    (isFatal_moved hlabel hitems).trans hfatal
  exact exists_moved_class hlabel hroot hitems (allClasses_extract _ hfatal)
    (allClasses_extract _ hfatal') hd

/-! A trait that is given before the type is declared, one after it to the type with an argument, and
the first once more. -/

def traitsText : String :=
  "impl A for T \x7b fn f() \x7b\x7d \x7d\nstruct T;\nimpl B for T<u8> \x7b\x7d\n" ++
    "impl A for T \x7b\x7d\n"

/-- The type takes some bytes. -/
def implSample (start stop size : Nat) (items : List Tree) : Tree :=
  sampleNode "impl_item" start stop none
    [sampleNode "type_identifier" (start + 5) (start + 6) (some "trait") [],
     sampleNode "type_identifier" (start + 11) (start + 11 + size) (some "type") [],
     sampleNode "declaration_list" (start + 12 + size) stop (some "body") items]

def structSample : Tree :=
  sampleNode "struct_item" 27 36 none [sampleNode "type_identifier" 34 35 (some "name") []]

def methodSample : Tree :=
  sampleNode "function_item" 15 24 none
    [sampleNode "identifier" 18 19 (some "name") [],
     sampleNode "parameters" 19 21 (some "parameters") [],
     sampleNode "block" 22 24 (some "body") []]

def traitsTree : Tree :=
  sampleNode "source_file" 0 73 none
    [implSample 0 26 1 [methodSample], structSample, implSample 37 56 5 [], implSample 57 72 1 []]

theorem traits_attached_sample :
    isFatal (.ofText traitsText) traitsTree
        (run grammar (.ofText traitsText) traitsTree).errorBytes = false ∧
      ∃ r d, Parser.ofTree grammar (some traitsTree) traitsText "a.rs" {} = .record r ∧
        Attached (.ofText traitsText) traitsTree r ∧ r.classes = [d] ∧
        d.baseNames = ["A", "B"] ∧ d.methods.map FunctionDecl.name = ["f"] ∧
        ∃ r' e, Parser.ofTree grammar
            (some (.node traitsTree.label traitsTree.children.reverse)) traitsText "a.rs" {} =
              .record r' ∧
          r'.classes.filter (·.name = "T") = [e] ∧ (∀ b, b ∈ e.baseNames ↔ b = "A" ∨ b = "B") ∧
          e.methods.Perm d.methods := by
  have hfatal : isFatal (.ofText traitsText) traitsTree
      (run grammar (.ofText traitsText) traitsTree).errorBytes = false := by decide +kernel
  have hwalked : (run grammar (.ofText traitsText) traitsTree).assemble.classes.map
      (fun c => (c.name, c.baseNames, c.methods.map FunctionDecl.name)) =
        [("T", ["A", "B"], ["f"])] := by decide +kernel
  obtain ⟨w, hw, hfound⟩ := List.map_eq_singleton_iff.1 hwalked
  simp only [Prod.mk.injEq] at hfound
  obtain ⟨hname, hbases, hmethods⟩ := hfound
  obtain ⟨r, hr, hattached, hmoved⟩ := traits_attached traitsText "a.rs" traitsTree {} hfatal
  have hclasses : r.classes = [w.sortMethods] := by
    have hperm := allClasses_declarations (run grammar (.ofText traitsText) traitsTree).assemble
    rw [hw, ← declarations_extract hfatal, ← declarations_ofTree hr] at hperm
    exact List.perm_singleton.1 hperm
  have hone : r.classes.filter (·.name = "T") = [w.sortMethods] := by
    have hsorted : w.sortMethods.name = "T" := hname
    simp [hclasses, hsorted]
  have hf : w.sortMethods.methods.map FunctionDecl.name = ["f"] := by
    have hperm := (ClassDecl.methods_sortMethods w).map FunctionDecl.name
    rw [hmethods] at hperm
    exact List.perm_singleton.1 hperm
  obtain ⟨r', hr', hsame⟩ := hmoved rfl _ (List.reverse_perm _)
  obtain ⟨e, he, hebases, hemethods⟩ := hsame "T" _ hone
  refine ⟨hfatal, r, w.sortMethods, hr, hattached, hclasses, hbases, hf, r', e, hr', he, ?_,
    hemethods⟩
  intro b
  have hsorted : w.sortMethods.baseNames = ["A", "B"] := hbases
  rw [hebases, hsorted]
  simp

end Rust

end CodeSurvey
