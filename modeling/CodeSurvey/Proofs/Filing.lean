import CodeSurvey.Grammar.Go
import CodeSurvey.Proofs.Declarations

/-! No declaration of a file is lost, doubled or misplaced. -/
namespace CodeSurvey

/-- Sorting by lines leaves the lines in order. -/
theorem pairwise_mergeSort_line {α : Type} (line : α → Nat) (xs : List α) :
    (xs.mergeSort fun a b => decide (line a ≤ line b)).Pairwise fun a b => line a ≤ line b := by
  have h : (xs.mergeSort fun a b => decide (line a ≤ line b)).Pairwise fun a b =>
      decide (line a ≤ line b) = true := by
    apply List.pairwise_mergeSort
    · intro a b c hab hbc
      simp only [decide_eq_true_eq] at hab hbc ⊢
      omega
    · intro a b
      simp only [Bool.or_eq_true, decide_eq_true_eq]
      omega
  exact h.imp of_decide_eq_true

namespace ClassDecl

theorem methods_sortMethods (c : ClassDecl) : c.sortMethods.methods.Perm c.methods :=
  List.mergeSort_perm _ _

theorem sortMethods_sorted (c : ClassDecl) :
    c.sortMethods.methods.Pairwise fun a b => a.lineStart ≤ b.lineStart :=
  pairwise_mergeSort_line FunctionDecl.lineStart c.methods

end ClassDecl

namespace Walk

/-! ### The list of declarations -/

variable (a : Assembly)

theorem declarations_perm :
    a.declarations.Perm
      (a.functions.map .function ++ (a.classes.map ClassDecl.sortMethods).map .classLike) :=
  List.mergeSort_perm _ _

theorem declarations_sorted : a.declarations.Pairwise fun x y => x.lineStart ≤ y.lineStart :=
  pairwise_mergeSort_line Declaration.lineStart _

theorem allFunctions_declarations :
    (allFunctions a.declarations).Perm (a.functions ++ a.classes.flatMap ClassDecl.methods) := by
  refine ((declarations_perm a).flatMap_right _).trans ?_
  have hm : (a.classes.flatMap fun c => c.sortMethods.methods).Perm
      (a.classes.flatMap ClassDecl.methods) :=
    List.Perm.flatMap_left _ fun c _ => c.methods_sortMethods
  simpa [List.flatMap_map, Declaration.functions] using hm.append_left a.functions

theorem allClasses_declarations :
    (allClasses a.declarations).Perm (a.classes.map ClassDecl.sortMethods) := by
  refine ((declarations_perm a).filterMap _).trans ?_
  simp [List.filterMap_map, Function.comp_def, Declaration.asClass?]

theorem topLevel_declarations :
    (a.declarations.filterMap Declaration.asFunction?).Perm a.functions := by
  refine ((declarations_perm a).filterMap _).trans ?_
  simp [List.filterMap_map, Function.comp_def, Declaration.asFunction?]

/-! ### Every function in one place -/

/-- Things that go to at most one of some places are those that go nowhere and those that go to
each of the places. -/
theorem homes_perm {α κ : Type} [DecidableEq κ] (home : α → Option κ) {places : List κ}
    (hp : places.Nodup) (xs : List α) (hx : ∀ x ∈ xs, ∀ c, home x = some c → c ∈ places) :
    (xs.filter (fun x => (home x).isNone) ++
        places.flatMap fun c => xs.filter fun x => home x = some c).Perm xs := by
  induction xs with
  | nil => simp
  | cons x xs ih =>
    have ih := ih fun y hy => hx y (by simp [hy])
    cases hh : home x with
    | none => simpa [hh] using ih
    | some c =>
      obtain ⟨before, after, rfl⟩ := List.append_of_mem (hx x (by simp) c hh)
      have hne : c ∉ before ++ after := (List.nodup_middle.1 hp).notMem
      -- Only the place of `x` has anything more than it has for `xs`.
      have hrest : ∀ cs : List κ, c ∉ cs →
          (cs.flatMap fun d => (x :: xs).filter fun y => home y = some d) =
            cs.flatMap fun d => xs.filter fun y => home y = some d := by
        intro cs hc
        apply List.flatMap_congr
        intro d hd
        have : c ≠ d := fun he => hc (he ▸ hd)
        simp [hh, this]
      rw [List.mem_append, not_or] at hne
      rw [List.flatMap_append, List.flatMap_cons, hrest before hne.1, hrest after hne.2]
      simp only [List.filter_cons, hh, Option.isNone_some, Bool.false_eq_true, ↓reduceIte,
        decide_true, List.cons_append]
      rw [← List.append_assoc]
      refine List.perm_middle.trans (.cons x ?_)
      simpa using ih

variable {a} {g : Grammar} {src : Source} {root : Tree}

/-- Traits change nothing of a class but its bases. -/
theorem foldl_addBase_eq (ts : List (String × String)) (d : ClassDecl) :
    ∃ baseNames, ts.foldl (fun d t => d.addBase t.2) d = { d with baseNames } := by
  induction ts generalizing d with
  | nil => exact ⟨_, rfl⟩
  | cons t ts ih =>
    obtain ⟨_, hbase⟩ : ∃ baseNames, d.addBase t.2 = { d with baseNames } := by
      rw [ClassDecl.addBase]
      split <;> exact ⟨_, rfl⟩
    obtain ⟨all, hall⟩ := ih (d.addBase t.2)
    refine ⟨all, ?_⟩
    rw [List.foldl_cons, hall, hbase]

variable (g src root) in
/-- What comes from outside of a class is its later methods and bases. -/
theorem filedClass_eq (c : Place × ClassHead) :
    ∃ baseNames, filedClass g src root c =
      { (ownClass g src c.1 c.2).addMethods
          ((claimed (classNodes g src root) (·.2.name) (detachedMethods g src root) c).map
            (·.2.asMethod)) with baseNames } :=
  foldl_addBase_eq _ _

theorem name_filedClass (c : Place × ClassHead) : (filedClass g src root c).name = c.2.name := by
  obtain ⟨_, h⟩ := filedClass_eq g src root c
  rw [h]
  exact name_ownClass c

open Classical in
theorem methods_filedClass {c : Place × ClassHead} (hc : c ∈ classNodes g src root) :
    (filedClass g src root c).methods.Perm
      (((functionNodes g src root).filter fun f => home? g src root f = some c).map
        (declOf g src)) := by
  obtain ⟨_, h⟩ := filedClass_eq g src root c
  rw [h]
  exact methods_perm hc

variable (g src root) in
/-- The class of a node as a file lists it. -/
noncomputable def listedClass (c : Place × ClassHead) : ClassDecl :=
  (filedClass g src root c).sortMethods

theorem name_listedClass (c : Place × ClassHead) : (listedClass g src root c).name = c.2.name :=
  name_filedClass c

theorem declarations_extract {withOutline : Bool}
    (h : isFatal src root (run g src root).errorBytes = false) :
    (extract g src root withOutline).declarations = (run g src root).assemble.declarations := by
  simp [extract, h]

theorem allFunctions_extract (withOutline : Bool)
    (hfatal : isFatal src root (run g src root).errorBytes = false) :
    (allFunctions (extract g src root withOutline).declarations).Perm
      ((functionNodes g src root).map (declOf g src)) := by
  classical
  rw [declarations_extract hfatal, assemble_run]
  have hmethods : (((classNodes g src root).map (filedClass g src root)).flatMap
      ClassDecl.methods).Perm (((classNodes g src root).flatMap fun c =>
        (functionNodes g src root).filter fun f => home? g src root f = some c).map
          (declOf g src)) := by
    rw [List.flatMap_map, List.map_flatMap]
    exact List.Perm.flatMap_left _ fun c hc => methods_filedClass hc
  refine (allFunctions_declarations _).trans ((topLevel_perm.append hmethods).trans ?_)
  rw [← List.map_append]
  apply List.Perm.map
  exact homes_perm (home? g src root) classNodes_nodup _ fun f hf c => home?_mem hf

theorem allClasses_extract (withOutline : Bool)
    (hfatal : isFatal src root (run g src root).errorBytes = false) :
    (allClasses (extract g src root withOutline).declarations).Perm
      ((classNodes g src root).map (listedClass g src root)) := by
  rw [declarations_extract hfatal, assemble_run]
  refine (allClasses_declarations _).trans ?_
  rw [List.map_map]
  exact .refl _

/-- A function that belongs to no class is declared by itself. -/
theorem function_mem_declarations {withOutline : Bool} {f : Place × FunctionHead}
    (hf : f ∈ functionNodes g src root) (hhome : home? g src root f = none)
    (hfatal : isFatal src root (run g src root).errorBytes = false) :
    .function (declOf g src f) ∈ (extract g src root withOutline).declarations := by
  have hm : declOf g src f ∈ ((functionNodes g src root).filter fun f =>
      (home? g src root f).isNone).map (declOf g src) :=
    List.mem_map_of_mem (List.mem_filter.2 ⟨hf, by simp [hhome]⟩)
  rw [declarations_extract hfatal, assemble_run]
  apply (declarations_perm _).mem_iff.2
  exact List.mem_append_left _ (List.mem_map_of_mem (topLevel_perm.mem_iff.2 hm))

theorem class_mem_declarations {withOutline : Bool} {c : Place × ClassHead}
    (hc : c ∈ classNodes g src root)
    (hfatal : isFatal src root (run g src root).errorBytes = false) :
    .classLike (listedClass g src root c) ∈ (extract g src root withOutline).declarations := by
  rw [declarations_extract hfatal, assemble_run]
  apply (declarations_perm _).mem_iff.2
  apply List.mem_append_right
  exact List.mem_map_of_mem (List.mem_map_of_mem (List.mem_map_of_mem hc))

theorem names_classes (g : Grammar) (src : Source) (root : Tree) :
    (run g src root).classes.toList.map ClassDecl.name =
      (classNodes g src root).map (·.2.name) := by
  rw [(reads_run g src root).classes, flatMap_classAt]
  simp [classNodes, name_ownClass]

open Classical in
/-- What the declarations of a file are: one for each function and each class of its tree, with
the functions where they belong, and all in the order of their lines. -/
structure Files (g : Grammar) (src : Source) (root : Tree) (ds : List Declaration) : Prop where
  functions : (allFunctions ds).Perm ((functionNodes g src root).map (declOf g src))
  classes : (allClasses ds).Perm ((classNodes g src root).map (listedClass g src root))
  topLevel : (ds.filterMap Declaration.asFunction?).Perm
    (((functionNodes g src root).filter fun f => (home? g src root f).isNone).map (declOf g src))
  methods : ∀ c ∈ classNodes g src root, (listedClass g src root c).methods.Perm
    (((functionNodes g src root).filter fun f => home? g src root f = some c).map (declOf g src))
  home : ∀ f ∈ functionNodes g src root, ∀ c,
    home? g src root f = some c → c ∈ classNodes g src root
  functionNames : ∀ f ∈ functionNodes g src root, (declOf g src f).name = f.2.name
  classNames : ∀ c ∈ classNodes g src root, (listedClass g src root c).name = c.2.name
  isMethod : ∀ f ∈ functionNodes g src root,
    (declOf g src f).isMethod = ((owner? g src f).isSome || (home? g src root f).isSome)
  sorted : ds.Pairwise fun x y => x.lineStart ≤ y.lineStart
  methodsSorted : ∀ c ∈ allClasses ds, c.methods.Pairwise fun x y => x.lineStart ≤ y.lineStart
  /-- The nodes of classes stand in the order of the walker's list of classes. -/
  order : (run g src root).classes.toList.map ClassDecl.name =
    (classNodes g src root).map (·.2.name)

theorem isMethod_eq (f : Place × FunctionHead) :
    (declOf g src f).isMethod = ((owner? g src f).isSome || (home? g src root f).isSome) := by
  rw [isMethod_declOf, attachmentAt_eq]
  rw [home?]
  cases owner? g src f with
  | some owner => rfl
  | none => cases classAround? g src f.1 <;> rfl

/-- Every function and every class of a file is declared once and where it belongs. -/
theorem files_extract (withOutline : Bool)
    (h : isFatal src root (run g src root).errorBytes = false) :
    Files g src root (extract g src root withOutline).declarations := by
  classical
  exact {
    functions := allFunctions_extract withOutline h
    classes := allClasses_extract withOutline h
    topLevel := by
      rw [declarations_extract h, assemble_run]
      exact (topLevel_declarations _).trans topLevel_perm
    methods := fun c hc => (ClassDecl.methods_sortMethods _).trans (methods_filedClass hc)
    home := fun f hf c => home?_mem hf
    functionNames := fun f _ => name_declOf f
    classNames := fun c _ => name_filedClass c
    isMethod := fun f _ => isMethod_eq f
    sorted := by
      rw [declarations_extract h]
      exact declarations_sorted _
    methodsSorted := by
      intro c hc
      rw [declarations_extract h, (allClasses_declarations _).mem_iff, List.mem_map] at hc
      obtain ⟨d, _, rfl⟩ := hc
      exact d.sortMethods_sorted
    order := names_classes g src root }

/-! A method of Go that stands before its type. -/

def sampleNode (kind : String) (start stop : Nat) (field : Option String) (children : List Tree) :
    Tree :=
  .node
    { kind, start, stop, field, named := true, isError := false, isMissing := false } children

def sampleSource : Source := .ofText "func (t T) f() { g() }\ntype T struct{}"

def sampleTree : Tree :=
  sampleNode "source_file" 0 38 none
    [sampleNode "method_declaration" 0 22 none
      [sampleNode "parameter_list" 5 10 (some "receiver")
        [sampleNode "parameter_declaration" 6 9 none
          [sampleNode "type_identifier" 8 9 (some "type") []]],
       sampleNode "field_identifier" 11 12 (some "name") [],
       sampleNode "block" 15 22 (some "body")
        [sampleNode "call_expression" 17 20 none
          [sampleNode "identifier" 17 18 (some "function") []]]],
     sampleNode "type_declaration" 23 38 none
      [sampleNode "type_spec" 28 38 none
        [sampleNode "type_identifier" 28 29 (some "name") [],
         sampleNode "struct_type" 30 38 (some "type") []]]]

theorem files_extract_sample :
    isFatal sampleSource sampleTree (run Go.grammar sampleSource sampleTree).errorBytes = false ∧
      Files Go.grammar sampleSource sampleTree
        (extract Go.grammar sampleSource sampleTree false).declarations :=
  have h : isFatal sampleSource sampleTree
      (run Go.grammar sampleSource sampleTree).errorBytes = false := by decide +kernel
  ⟨h, files_extract false h⟩

end Walk

end CodeSurvey
