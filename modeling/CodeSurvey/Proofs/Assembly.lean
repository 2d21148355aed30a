import CodeSurvey.Walk.Finish
import Mathlib.Data.List.Nodup

/-! Giving detached methods and traits to the classes of a file. The classes are a list that is
read off some distinct nodes, of which the first of a name takes what belongs to the name. -/
namespace CodeSurvey

def FunctionDecl.asMethod (m : FunctionDecl) : FunctionDecl := { m with isMethod := true }

def ClassDecl.addMethods (ms : List FunctionDecl) (c : ClassDecl) : ClassDecl :=
  { c with methods := c.methods ++ ms }

namespace Walk

variable {ι : Type} {nodes : List ι} {name : ι → String} {cls : ι → ClassDecl}
  {functions : List FunctionDecl} {calls : List CallSite}

/-- The first node of a name. -/
def firstNamed (nodes : List ι) (name : ι → String) (owner : String) : Option ι :=
  nodes.find? fun i => name i = owner

theorem firstNamed_eq_none {owner : String} :
    firstNamed nodes name owner = none ↔ ∀ i ∈ nodes, name i ≠ owner := by
  simp [firstNamed]

theorem firstNamed_eq_some {owner : String} {i : ι} (h : firstNamed nodes name owner = some i) :
    i ∈ nodes ∧ name i = owner :=
  ⟨List.mem_of_find?_eq_some h, by simpa using List.find?_some h⟩

open Classical in
theorem updateClass_map (hn : nodes.Nodup) (hc : ∀ i ∈ nodes, (cls i).name = name i)
    (owner : String) (change : ClassDecl → ClassDecl) :
    updateClass owner change (nodes.map cls) =
      (firstNamed nodes name owner).map fun j =>
        nodes.map fun i => if i = j then change (cls i) else cls i := by
  rw [firstNamed]
  induction nodes with
  | nil => rfl
  | cons k ks ih =>
    obtain ⟨hk, hn⟩ := List.nodup_cons.1 hn
    rw [List.map_cons, updateClass, hc k (by simp), List.find?_cons]
    by_cases h : name k = owner
    · have hks : ∀ i ∈ ks, (if i = k then change (cls i) else cls i) = cls i := by
        intro i hi
        have : i ≠ k := fun he => hk (he ▸ hi)
        simp [this]
      simp [h, List.map_congr_left hks]
    · rw [if_neg h, ih hn fun i hi => hc i (by simp [hi])]
      cases hf : ks.find? fun i => name i = owner with
      | none => simp [h]
      | some j =>
        have hj : k ≠ j := by
          rintro rfl
          exact hk (List.mem_of_find?_eq_some hf)
        simp [h, hj]

/-- Calls from methods without a class go by the names of the methods. -/
def renameAll (ds : List (String × FunctionDecl)) (call : CallSite) : CallSite :=
  ds.foldl (fun call d => renameCaller (d.1 ++ "." ++ d.2.name) d.2.name call) call

section

variable (nodes name)

/-- The detached methods that no class takes. -/
def unclaimed (ds : List (String × FunctionDecl)) : List (String × FunctionDecl) :=
  ds.filter fun d => (firstNamed nodes name d.1).isNone

open Classical in
/-- The detached methods that one class takes. -/
noncomputable def claimed (ds : List (String × FunctionDecl)) (i : ι) :
    List (String × FunctionDecl) :=
  ds.filter fun d => firstNamed nodes name d.1 = some i

open Classical in
/-- The traits that one class takes. -/
noncomputable def traitsOf (ts : List (String × String)) (i : ι) : List (String × String) :=
  ts.filter fun t => firstNamed nodes name t.1 = some i

end

theorem unclaimed_flatMap {α : Type} (xs : List α) (k : α → List (String × FunctionDecl)) :
    unclaimed nodes name (xs.flatMap k) = xs.flatMap fun x => unclaimed nodes name (k x) :=
  List.filter_flatMap

theorem claimed_flatMap {α : Type} (xs : List α) (k : α → List (String × FunctionDecl)) (i : ι) :
    claimed nodes name (xs.flatMap k) i = xs.flatMap fun x => claimed nodes name (k x) i :=
  List.filter_flatMap

theorem attach_of_none (hn : nodes.Nodup) (hc : ∀ i ∈ nodes, (cls i).name = name i)
    {owner : String} (h : firstNamed nodes name owner = none) (m : FunctionDecl) :
    (⟨functions, nodes.map cls, calls⟩ : Assembly).attach owner m =
      ⟨functions ++ [m.asMethod], nodes.map cls,
       calls.map (renameCaller (owner ++ "." ++ m.name) m.name)⟩ := by
  simp only [Assembly.attach, updateClass_map hn hc, h]
  rfl

open Classical in
theorem attach_of_some (hn : nodes.Nodup) (hc : ∀ i ∈ nodes, (cls i).name = name i)
    {owner : String} {j : ι} (h : firstNamed nodes name owner = some j) (m : FunctionDecl) :
    (⟨functions, nodes.map cls, calls⟩ : Assembly).attach owner m =
      ⟨functions, nodes.map fun i => if i = j then (cls i).addMethods [m.asMethod] else cls i,
       calls⟩ := by
  simp only [Assembly.attach, updateClass_map hn hc, h]
  rfl

theorem foldl_attach (hn : nodes.Nodup) (hc : ∀ i ∈ nodes, (cls i).name = name i)
    (ds : List (String × FunctionDecl)) :
    ds.foldl (fun (a : Assembly) (owner, method) => a.attach owner method)
        ⟨functions, nodes.map cls, calls⟩ =
      ⟨functions ++ (unclaimed nodes name ds).map (·.2.asMethod),
       nodes.map fun i => (cls i).addMethods ((claimed nodes name ds i).map (·.2.asMethod)),
       calls.map (renameAll (unclaimed nodes name ds))⟩ := by
  induction ds generalizing functions cls calls with
  | nil =>
    have hr : renameAll [] = id := rfl
    simp [unclaimed, claimed, hr, ClassDecl.addMethods]
  | cons d ds ih =>
    obtain ⟨owner, m⟩ := d
    rw [List.foldl_cons]
    cases hf : firstNamed nodes name owner with
    | none =>
      simp only [attach_of_none hn hc hf]
      rw [ih hc]
      have hr : ∀ call, renameAll (unclaimed nodes name ((owner, m) :: ds)) call =
          renameAll (unclaimed nodes name ds)
            (renameCaller (owner ++ "." ++ m.name) m.name call) := by
        intro call
        simp [unclaimed, hf, renameAll]
      simp [hr, Function.comp_def]
      simp [unclaimed, claimed, hf]
    | some j =>
      simp only [attach_of_some hn hc hf]
      rw [ih]
      · have hu : unclaimed nodes name ((owner, m) :: ds) = unclaimed nodes name ds := by
          simp [unclaimed, hf]
        rw [hu]
        congr 1
        apply List.map_congr_left
        intro i _
        by_cases hi : i = j
        · simp [hi, claimed, hf, ClassDecl.addMethods]
        · have : j ≠ i := fun he => hi he.symm
          simp [hi, claimed, hf, this]
      · intro i hi
        split
        · exact hc i hi
        · exact hc i hi

theorem name_addBase (c : ClassDecl) (t : String) : (c.addBase t).name = c.name := by
  rw [ClassDecl.addBase]
  split <;> rfl

open Classical in
theorem addTrait_eq (hn : nodes.Nodup) (hc : ∀ i ∈ nodes, (cls i).name = name i)
    (owner t : String) :
    (⟨functions, nodes.map cls, calls⟩ : Assembly).addTrait owner t =
      ⟨functions,
       nodes.map fun i =>
         if firstNamed nodes name owner = some i then (cls i).addBase t else cls i,
       calls⟩ := by
  rw [Assembly.addTrait]
  rw [updateClass_map hn hc]
  cases hf : firstNamed nodes name owner with
  | none => simp
  | some j => simp [eq_comm]

theorem foldl_addTrait (hn : nodes.Nodup) (hc : ∀ i ∈ nodes, (cls i).name = name i)
    (ts : List (String × String)) :
    ts.foldl (fun (a : Assembly) (owner, t) => a.addTrait owner t)
        ⟨functions, nodes.map cls, calls⟩ =
      ⟨functions,
       nodes.map fun i => (traitsOf nodes name ts i).foldl (fun c t => c.addBase t.2) (cls i),
       calls⟩ := by
  induction ts generalizing cls with
  | nil => simp [traitsOf]
  | cons t ts ih =>
    obtain ⟨owner, t⟩ := t
    rw [List.foldl_cons]
    simp only [addTrait_eq hn hc]
    rw [ih]
    · congr 1
      apply List.map_congr_left
      intro i _
      by_cases hi : firstNamed nodes name owner = some i <;> simp [hi, traitsOf]
    · intro i hi
      split
      · rw [name_addBase, hc i hi]
      · exact hc i hi

/-- Everything is put together at once. -/
theorem assemble_eq {s : State} (hs : s.classes.toList = nodes.map cls) (hn : nodes.Nodup)
    (hc : ∀ i ∈ nodes, (cls i).name = name i) :
    s.assemble =
      ⟨s.functions.toList ++ (unclaimed nodes name s.detached.toList).map (·.2.asMethod),
       nodes.map fun i =>
         (traitsOf nodes name s.traits.toList i).foldl (fun c t => c.addBase t.2)
           ((cls i).addMethods ((claimed nodes name s.detached.toList i).map (·.2.asMethod))),
       s.calls.toList.map (renameAll (unclaimed nodes name s.detached.toList))⟩ := by
  have h : s.assemble =
      s.traits.toList.foldl (fun (a : Assembly) (owner, t) => a.addTrait owner t)
        (s.detached.toList.foldl (fun (a : Assembly) (owner, method) => a.attach owner method)
          ⟨s.functions.toList, s.classes.toList, s.calls.toList⟩) := rfl
  rw [h, hs, foldl_attach hn hc]
  apply foldl_addTrait hn
  intro i hi
  exact hc i hi

end Walk

end CodeSurvey
