import CodeSurvey.Extraction
import CodeSurvey.Proofs.Assembly
import CodeSurvey.Proofs.Reading

/-! The declarations of a file are those of its nodes, each in one place. -/
namespace CodeSurvey.Walk

section

variable (g : Grammar) (src : Source)

def functionNode? (p : Place) : Option (Place × FunctionHead) :=
  match opening? g src p with
  | some (.function h) => some (p, h)
  | _ => none

def classNode? (p : Place) : Option (Place × ClassHead) :=
  match opening? g src p with
  | some (.classLike h) => some (p, h)
  | _ => none

/-- The declaration that a function ends up as. -/
def declOf (f : Place × FunctionHead) : FunctionDecl := functionAt g src f.1 f.2

/-- The type that a function belongs to without being inside it: its receiver, or the type of the
impl block around it. -/
def owner? (f : Place × FunctionHead) : Option String :=
  f.2.owner.or <| match around? g src f.1 with
    | some (_, .impl i) => some i.owner
    | _ => none

/-- The class that a node is directly in. -/
def classAround? (p : Place) : Option (Place × ClassHead) :=
  match around? g src p with
  | some (q, .classLike h) => some (q, h)
  | _ => none

variable (root : Tree)

/-- The functions of a tree, each before those inside it. -/
def functionNodes : List (Place × FunctionHead) :=
  (Place.root root).subtree.filterMap (functionNode? g src)

/-- The classes of a tree, each after those inside it. -/
def classNodes : List (Place × ClassHead) :=
  (Place.root root).postorder.filterMap (classNode? g src)

/-- The first class of a name. -/
def classNamed? (name : String) : Option (Place × ClassHead) :=
  firstNamed (classNodes g src root) (·.2.name) name

/-- The class that a function ends up in. -/
def home? (f : Place × FunctionHead) : Option (Place × ClassHead) :=
  match owner? g src f with
  | some owner => classNamed? g src root owner
  | none => classAround? g src f.1

end

variable {g : Grammar} {src : Source} {root : Tree} {p : Place} {f : Place × FunctionHead}
  {c : Place × ClassHead}

theorem functionNode?_eq_some :
    functionNode? g src p = some f ↔ f.1 = p ∧ opening? g src p = some (.function f.2) := by
  rw [functionNode?]
  split <;> grind

theorem classNode?_eq_some :
    classNode? g src p = some c ↔ c.1 = p ∧ opening? g src p = some (.classLike c.2) := by
  rw [classNode?]
  split <;> grind

theorem mem_functionNodes :
    f ∈ functionNodes g src root ↔
      f.1 ∈ (Place.root root).subtree ∧ opening? g src f.1 = some (.function f.2) := by
  simp only [functionNodes, List.mem_filterMap, functionNode?_eq_some]
  grind

theorem mem_classNodes :
    c ∈ classNodes g src root ↔
      c.1 ∈ (Place.root root).subtree ∧ opening? g src c.1 = some (.classLike c.2) := by
  simp only [classNodes, List.mem_filterMap, classNode?_eq_some,
    (Place.postorder_perm_subtree _).mem_iff]
  grind

theorem classNodes_nodup : (classNodes g src root).Nodup := by
  apply List.Nodup.filterMap
  · intro p q c hp hq
    rw [(classNode?_eq_some.1 hp).1.symm, (classNode?_eq_some.1 hq).1.symm]
  · exact (Place.postorder_perm_subtree _).nodup_iff.2 (Place.subtree_nodup _)

theorem classAround?_eq_some :
    classAround? g src p = some c ↔ around? g src p = some (c.1, .classLike c.2) := by
  rw [classAround?]
  split <;> grind

theorem classAround?_mem (hp : p ∈ (Place.root root).subtree) (h : classAround? g src p = some c) :
    c ∈ classNodes g src root :=
  mem_classNodes.2 (around?_mem hp (classAround?_eq_some.1 h))

/-- The class of a function is one of the classes of the tree. -/
theorem home?_mem (hf : f ∈ functionNodes g src root) (h : home? g src root f = some c) :
    c ∈ classNodes g src root := by
  rw [home?] at h
  split at h
  · exact (firstNamed_eq_some h).1
  · exact classAround?_mem (mem_functionNodes.1 hf).1 h

/-! ### Where functions belong -/

theorem attachmentAt_eq (f : Place × FunctionHead) :
    attachmentAt g src f.1 f.2 =
      match owner? g src f, classAround? g src f.1 with
      | some owner, _ => (.owner owner, owner ++ "." ++ f.2.name)
      | none, some c => (.method, c.2.name ++ "." ++ f.2.name)
      | none, none => (.topLevel, f.2.name) := by
  rw [attachmentAt, owner?, classAround?]
  cases f.2.owner with
  | some owner => rfl
  | none =>
    cases around? g src f.1 with
    | none => rfl
    | some a =>
      obtain ⟨q, o⟩ := a
      cases o <;> rfl

variable (g src) in
theorem declOf_eq (f : Place × FunctionHead) :
    ∃ nesting branches, declOf g src f =
      { (openFunction g src (attachmentAt g src f.1 f.2) f.1 f.2).decl with
        nestingDepth := nesting, cyclomaticComplexity := 1 + branches } := by
  obtain ⟨branches, _, nesting, h⟩ := sameFunction_readBodies g src f.1.children
    (openFunction g src (attachmentAt g src f.1 f.2) f.1 f.2)
  refine ⟨nesting, branches, ?_⟩
  rw [declOf, functionAt, h]
  rfl

theorem name_declOf (f : Place × FunctionHead) : (declOf g src f).name = f.2.name := by
  obtain ⟨_, _, h⟩ := declOf_eq g src f
  rw [h]
  rfl

theorem isMethod_declOf (f : Place × FunctionHead) :
    (declOf g src f).isMethod = ((attachmentAt g src f.1 f.2).1 != .topLevel) := by
  obtain ⟨_, _, h⟩ := declOf_eq g src f
  rw [h]
  rfl

theorem asMethod_declOf {owner : String} (h : owner? g src f = some owner) :
    (declOf g src f).asMethod = declOf g src f := by
  have hm : (declOf g src f).isMethod = true := by
    rw [isMethod_declOf, attachmentAt_eq, h]
    rfl
  rw [FunctionDecl.asMethod, ← hm]

/-! ### What a walk ends with -/

theorem ownClass_eq (c : Place × ClassHead) :
    ∃ isAbstract, ownClass g src c.1 c.2 =
      { openClass g src c.1 c.2 with
        methods := (interior g src c.1).flatMap (methodAt g src)
        fields := (interior g src c.1).flatMap (fieldsAt g src)
        isAbstract } :=
  ⟨_, g.finishClass_eq _⟩

theorem name_ownClass (c : Place × ClassHead) : (ownClass g src c.1 c.2).name = c.2.name := by
  obtain ⟨_, h⟩ := ownClass_eq (g := g) c
  rw [h]
  rfl

section

variable (g src root)

/-- The methods that are not inside their class, with the names of their types. -/
def detachedMethods : List (String × FunctionDecl) :=
  (Place.root root).postorder.flatMap (detachedAt g src)

/-- The class of a node with all methods and traits that the file has for it. -/
noncomputable def filedClass (c : Place × ClassHead) : ClassDecl :=
  let given := claimed (classNodes g src root) (·.2.name) (detachedMethods g src root) c
  let traits := traitsOf (classNodes g src root) (·.2.name)
    ((Place.root root).subtree.flatMap (traitAt g src)) c
  traits.foldl (fun d t => d.addBase t.2)
    ((ownClass g src c.1 c.2).addMethods (given.map (·.2.asMethod)))

/-- The methods that are functions of their own for want of a class. -/
def strayMethods : List (String × FunctionDecl) :=
  unclaimed (classNodes g src root) (·.2.name) (detachedMethods g src root)

end

theorem flatMap_classAt (ps : List Place) :
    ps.flatMap (classAt g src) =
      (ps.filterMap (classNode? g src)).map fun c => ownClass g src c.1 c.2 := by
  induction ps with
  | nil => rfl
  | cons p ps ih =>
    rw [List.flatMap_cons, ih, List.filterMap_cons]
    rw [classAt, classNode?]
    split <;> simp_all

theorem assemble_run (g : Grammar) (src : Source) (root : Tree) :
    (run g src root).assemble =
      ⟨(Place.root root).postorder.flatMap (topLevelAt g src) ++
         (strayMethods g src root).map (·.2.asMethod),
       (classNodes g src root).map (filedClass g src root),
       ((Place.root root).subtree.flatMap (callAt g src (entryKey g src))).map
         (renameAll (strayMethods g src root))⟩ := by
  have h := reads_run g src root
  have hs : (run g src root).classes.toList =
      (classNodes g src root).map fun c => ownClass g src c.1 c.2 := by
    rw [h.classes, flatMap_classAt]
    simp [classNodes]
  rw [assemble_eq hs classNodes_nodup fun c _ => name_ownClass c]
  rw [h.functions, h.detached, h.traits, h.calls]
  simp only [List.flatMap_singleton, List.nil_append]
  rfl

/-! ### Every function in one place -/

theorem functionAs_of_functionNode {β : Type} (select : Attach → FunctionDecl → List β)
    (h : functionNode? g src p = some f) :
    functionAs g src select p = select (attachmentAt g src f.1 f.2).1 (declOf g src f) := by
  obtain ⟨rfl, h⟩ := functionNode?_eq_some.1 h
  simp [functionAs, h, declOf]

theorem functionAs_of_noFunctionNode {β : Type} (select : Attach → FunctionDecl → List β)
    (h : functionNode? g src p = none) : functionAs g src select p = [] := by
  rw [functionNode?] at h
  rw [functionAs]
  split <;> simp_all

variable (g src) in
/-- The declaration of a function that has a property. -/
def declsWith (select : Place × FunctionHead → Bool) (p : Place) : List FunctionDecl :=
  ((functionNode? g src p).toList.filter select).map (declOf g src)

theorem map_filter_functionNodes (select : Place × FunctionHead → Bool) :
    ((functionNodes g src root).filter select).map (declOf g src) =
      (Place.root root).subtree.flatMap (declsWith g src select) := by
  unfold functionNodes declsWith
  rw [List.filterMap_eq_flatMap_toList, List.filter_flatMap, List.map_flatMap]

/-- The functions at top level: those that were filed so at once, and the stray methods. -/
theorem topLevelAt_append (p : Place) :
    topLevelAt g src p ++
        (unclaimed (classNodes g src root) (·.2.name) (detachedAt g src p)).map (·.2.asMethod) =
      declsWith g src (fun f => (home? g src root f).isNone) p := by
  rw [topLevelAt, detachedAt, declsWith]
  cases hn : functionNode? g src p with
  | none => simp [functionAs_of_noFunctionNode _ hn, unclaimed]
  | some f =>
    simp only [functionAs_of_functionNode _ hn, attachmentAt_eq]
    cases ho : owner? g src f with
    | some owner =>
      cases hc : firstNamed (classNodes g src root) (·.2.name) owner with
      | none => simp [home?, classNamed?, unclaimed, ho, hc, asMethod_declOf ho]
      | some c => simp [home?, classNamed?, unclaimed, ho, hc]
    | none =>
      cases ha : classAround? g src f.1 with
      | none => simp [home?, unclaimed, ho, ha]
      | some c => simp [home?, unclaimed, ho, ha]

/-- The functions that are filed at top level. -/
theorem topLevel_perm :
    ((Place.root root).postorder.flatMap (topLevelAt g src) ++
        (strayMethods g src root).map (·.2.asMethod)).Perm
      (((functionNodes g src root).filter fun f => (home? g src root f).isNone).map
        (declOf g src)) := by
  rw [strayMethods, detachedMethods]
  rw [unclaimed_flatMap, List.map_flatMap, map_filter_functionNodes]
  refine (List.flatMap_append_perm _ _ _).trans ?_
  simp only [topLevelAt_append]
  exact (Place.postorder_perm_subtree _).flatMap_right _

section

open Classical

/-- The methods of a class: those inside it, and those that are given to it. -/
theorem methodAt_append (c : Place × ClassHead) (p : Place) :
    (if classAround? g src p = some c then methodAt g src p else []) ++
        (claimed (classNodes g src root) (·.2.name) (detachedAt g src p) c).map (·.2.asMethod) =
      declsWith g src (fun f => home? g src root f = some c) p := by
  rw [methodAt, detachedAt, declsWith]
  cases hn : functionNode? g src p with
  | none => simp [functionAs_of_noFunctionNode _ hn, claimed]
  | some f =>
    simp only [functionAs_of_functionNode _ hn, attachmentAt_eq]
    rw [← (functionNode?_eq_some.1 hn).1]
    cases ho : owner? g src f with
    | some owner =>
      by_cases hc : firstNamed (classNodes g src root) (·.2.name) owner = some c
      · simp [home?, classNamed?, claimed, ho, hc, asMethod_declOf ho]
      · simp [home?, classNamed?, claimed, ho, hc]
    | none =>
      cases ha : classAround? g src f.1 with
      | none => simp [home?, claimed, ho, ha]
      | some d =>
        by_cases hd : d = c
        · simp [home?, claimed, ho, ha, hd]
        · simp [home?, claimed, ho, ha, hd]

theorem methods_ownClass_perm (hc : c ∈ classNodes g src root) :
    (ownClass g src c.1 c.2).methods.Perm
      ((Place.root root).subtree.flatMap fun p =>
        if classAround? g src p = some c then methodAt g src p else []) := by
  obtain ⟨hp, ho⟩ := mem_classNodes.1 hc
  obtain ⟨_, h⟩ := ownClass_eq (g := g) c
  rw [h]
  refine ((interior_perm hp ho).flatMap_right _).trans ?_
  induction (Place.root root).subtree with
  | nil => exact .nil
  | cons p ps ih =>
    simp only [classAround?_eq_some] at ih ⊢
    by_cases ha : around? g src p = some (c.1, .classLike c.2)
    · simpa [ha] using ih.append_left (methodAt g src p)
    · simpa [ha] using ih

/-- The functions that are filed in one class. -/
theorem methods_perm (hc : c ∈ classNodes g src root) :
    ((ownClass g src c.1 c.2).methods ++
        (claimed (classNodes g src root) (·.2.name) (detachedMethods g src root) c).map
          (·.2.asMethod)).Perm
      (((functionNodes g src root).filter fun f => home? g src root f = some c).map
        (declOf g src)) := by
  rw [detachedMethods]
  rw [claimed_flatMap, List.map_flatMap, map_filter_functionNodes]
  have hgiven := (Place.postorder_perm_subtree (.root root)).flatMap_right fun p =>
    (claimed (classNodes g src root) (·.2.name) (detachedAt g src p) c).map (·.2.asMethod)
  refine ((methods_ownClass_perm hc).append hgiven).trans ?_
  refine (List.flatMap_append_perm _ _ _).trans ?_
  simp only [methodAt_append]
  exact .refl _

end

end CodeSurvey.Walk
