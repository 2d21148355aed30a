import CodeSurvey.Grammar
import CodeSurvey.Proofs.Places

/-! Which nodes open a declaration or an impl block, and which of them is the nearest around a
node. -/
namespace CodeSurvey

inductive Opening where
  | function (h : FunctionHead)
  | classLike (h : ClassHead)
  | impl (h : ImplHead)

variable (g : Grammar) (src : Source) {p q f : Place} {o : Opening}

/-- The role of a node; a fault has none. -/
def roleOf (p : Place) : Role := if p.tree.isFault then .other else g.role src p

/-- What a node opens; what has no head opens nothing. -/
def opening? (p : Place) : Option Opening :=
  match roleOf g src p with
  | .function => (g.function src p).map .function
  | .classLike => (g.classLike src p).map .classLike
  | .impl => (g.impl src p).map .impl
  | _ => none

/-- The nodes above that open something, the nearest first. -/
def enclosing : Place → List (Place × Opening)
  | .root _ => []
  | .child p _ _ => ((opening? g src p).map (p, ·)).toList ++ enclosing p

/-- The nearest node above that opens something. -/
def around? (p : Place) : Option (Place × Opening) := (enclosing g src p).head?

variable {g src}

theorem enclosing_child_of_none (h : opening? g src p = none) (hq : q ∈ p.children) :
    enclosing g src q = enclosing g src p := by
  obtain ⟨b, t, rfl⟩ := Place.eq_child_of_mem_children hq
  simp [enclosing, h]

theorem enclosing_child_of_some (h : opening? g src p = some o) (hq : q ∈ p.children) :
    enclosing g src q = (p, o) :: enclosing g src p := by
  obtain ⟨b, t, rfl⟩ := Place.eq_child_of_mem_children hq
  simp [enclosing, h]

theorem around?_child_of_none (h : opening? g src p = none) (hq : q ∈ p.children) :
    around? g src q = around? g src p := by
  rw [around?, enclosing_child_of_none h hq, around?]

theorem around?_child_of_some (h : opening? g src p = some o) (hq : q ∈ p.children) :
    around? g src q = some (p, o) := by
  rw [around?, enclosing_child_of_some h hq, List.head?_cons]

/-- What is above a node in a tree is in the tree and opens what it is said to. -/
theorem mem_enclosing {root : Tree} (hf : f ∈ (Place.root root).subtree)
    (h : (q, o) ∈ enclosing g src f) :
    q ∈ (Place.root root).subtree ∧ opening? g src q = some o := by
  induction f with
  | root t => simp [enclosing] at h
  | child p b t ih =>
    rcases Place.mem_children_of_mem_subtree hf with he | ⟨m, hm, hc⟩
    · cases he
    obtain ⟨_, _, he⟩ := Place.eq_child_of_mem_children hc
    cases he
    rcases List.mem_append.1 h with h | h
    · simp only [Option.mem_toList, Option.map_eq_some_iff] at h
      obtain ⟨_, ho, he⟩ := h
      cases he
      exact ⟨hm, ho⟩
    · exact ih hm h

theorem around?_mem {root : Tree} (hf : f ∈ (Place.root root).subtree)
    (h : around? g src f = some (q, o)) :
    q ∈ (Place.root root).subtree ∧ opening? g src q = some o :=
  mem_enclosing hf (List.mem_of_mem_head? h)

variable (g src)

/-- The nodes at and below a node with nothing opened in between, each before its children. -/
def region : Place → List Place :=
  Place.fold fun p parts => p :: if (opening? g src p).isSome then [] else parts.flatten

/-- The nodes directly in what a node opens. -/
def interior (p : Place) : List Place := p.children.flatMap (region g src)

variable {g src}

theorem region_of_none (h : opening? g src p = none) :
    region g src p = p :: interior g src p := by
  rw [region, Place.fold_eq]
  simp [h, interior, region, List.flatMap_def]

theorem region_of_some (h : opening? g src p = some o) : region g src p = [p] := by
  rw [region, Place.fold_eq]
  simp [h]

theorem region_sublist (p : Place) : (region g src p).Sublist p.subtree := by
  induction p using Place.children_induction with
  | h p ih =>
    rw [Place.subtree_eq]
    cases ho : opening? g src p with
    | some o =>
      rw [region_of_some ho]
      exact (List.nil_sublist _).cons_cons p
    | none =>
      rw [region_of_none ho]
      exact (List.Sublist.flatMap_right _ ih).cons_cons p

theorem around?_of_mem_region (h : q ∈ region g src p) : around? g src q = around? g src p := by
  induction p using Place.children_induction with
  | h p ih =>
    cases ho : opening? g src p with
    | some o =>
      rw [region_of_some ho, List.mem_singleton] at h
      rw [h]
    | none =>
      rw [region_of_none ho] at h
      rcases List.mem_cons.1 h with rfl | h
      · rfl
      · obtain ⟨c, hc, h⟩ := List.mem_flatMap.1 h
        rw [ih c hc h, around?_child_of_none ho hc]

theorem self_mem_region (p : Place) : p ∈ region g src p := by
  rw [region, Place.fold_eq]
  exact List.mem_cons_self

theorem mem_region_of_mem_children (hq : q ∈ region g src p) (ho : opening? g src q = none)
    (hf : f ∈ q.children) : f ∈ region g src p := by
  induction p using Place.children_induction with
  | h p ih =>
    cases hp : opening? g src p with
    | some o =>
      rw [region_of_some hp, List.mem_singleton] at hq
      rw [hq, hp] at ho
      cases ho
    | none =>
      rw [region_of_none hp] at hq ⊢
      apply List.mem_cons_of_mem
      rw [interior, List.mem_flatMap]
      rcases List.mem_cons.1 hq with rfl | hq
      · exact ⟨f, hf, self_mem_region f⟩
      · obtain ⟨c, hc, hq⟩ := List.mem_flatMap.1 hq
        exact ⟨c, hc, ih c hc hq⟩

theorem around?_of_mem_interior (ho : opening? g src q = some o) (h : f ∈ interior g src q) :
    around? g src f = some (q, o) := by
  obtain ⟨c, hc, h⟩ := List.mem_flatMap.1 h
  rw [around?_of_mem_region h, around?_child_of_some ho hc]

theorem mem_interior {root : Tree} (hf : f ∈ (Place.root root).subtree)
    (h : around? g src f = some (q, o)) : f ∈ interior g src q := by
  induction f with
  | root t => simp [around?, enclosing] at h
  | child p b t ih =>
    rcases Place.mem_children_of_mem_subtree hf with he | ⟨m, hm, hc⟩
    · cases he
    obtain ⟨_, _, he⟩ := Place.eq_child_of_mem_children hc
    cases he
    cases hp : opening? g src p with
    | some o =>
      rw [around?_child_of_some hp hc] at h
      cases h
      exact List.mem_flatMap.2 ⟨_, hc, self_mem_region _⟩
    | none =>
      rw [around?_child_of_none hp hc] at h
      obtain ⟨c, hcq, hpc⟩ := List.mem_flatMap.1 (ih hm h)
      exact List.mem_flatMap.2 ⟨c, hcq, mem_region_of_mem_children hpc hp hc⟩

theorem interior_sublist (p : Place) : (interior g src p).Sublist p.subtree := by
  rw [Place.subtree_eq]
  exact (List.Sublist.flatMap_right _ fun c _ => region_sublist c).cons p

open Classical in
/-- The nodes directly in what a node opens are those that have it as the nearest around them. -/
theorem interior_perm {root : Tree} (hq : q ∈ (Place.root root).subtree)
    (ho : opening? g src q = some o) :
    (interior g src q).Perm
      ((Place.root root).subtree.filter fun f => around? g src f = some (q, o)) := by
  have hs : (interior g src q).Sublist q.subtree := interior_sublist q
  rw [List.perm_ext_iff_of_nodup (q.subtree_nodup.sublist hs)
    ((Place.subtree_nodup _).filter _)]
  intro f
  rw [List.mem_filter, decide_eq_true_iff]
  constructor
  · intro hf
    exact ⟨Place.subtree_trans hq (hs.subset hf), around?_of_mem_interior ho hf⟩
  · rintro ⟨hf, h⟩
    exact mem_interior hf h

open Classical in
/-- They stand in the order in which the tree is walked. -/
theorem interior_eq {root : Tree} (hq : q ∈ (Place.root root).subtree)
    (ho : opening? g src q = some o) :
    interior g src q =
      (Place.root root).subtree.filter fun f => around? g src f = some (q, o) := by
  have hs : (interior g src q).Sublist (Place.root root).subtree :=
    (interior_sublist q).trans (Place.subtree_sublist hq)
  have hself : (interior g src q).filter (fun f => around? g src f = some (q, o)) =
      interior g src q := by
    rw [List.filter_eq_self]
    intro f hf
    exact decide_eq_true (around?_of_mem_interior ho hf)
  have hsub := hs.filter fun f => decide (around? g src f = some (q, o))
  rw [hself] at hsub
  exact hsub.eq_of_length (interior_perm hq ho).length_eq

end CodeSurvey
