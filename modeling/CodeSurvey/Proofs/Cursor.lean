import CodeSurvey.Proofs.Places
import Mathlib.Data.List.Chain

/-! The tour of a tree is the way of a cursor that goes down where it can, else aside, else up. -/
namespace CodeSurvey

variable {p q r : Place}

/-! ### The moves of a cursor -/

def Place.firstChild? (p : Place) : Option Place := p.children.head?

def Place.nextSibling? : Place → Option Place
  | .root _ => none
  | .child p b t => (p.tree.children[b.length + 1]?).map (.child p (t :: b))

namespace Visit

/-- What comes next. A node without children is left at once, and after the last sibling the
parent is left. -/
def next? : Visit → Option Visit
  | enter p =>
    match p.firstChild? with
    | some c => some (enter c)
    | none => some (leave p)
  | leave p =>
    match p.nextSibling? with
    | some q => some (enter q)
    | none => p.parent?.map leave

/-- One visit comes right before another. -/
def Precedes (v w : Visit) : Prop := v.next? = some w

def entered? : Visit → Option Place
  | enter p => some p
  | leave _ => none

def left? : Visit → Option Place
  | enter _ => none
  | leave p => some p

end Visit

namespace Place

theorem head?_visits (p : Place) : p.visits.head? = some (.enter p) := by
  rw [visits_eq, List.head?_cons]

theorem getLast?_visits (p : Place) : p.visits.getLast? = some (.leave p) := by
  rw [visits_eq, ← List.cons_append, List.getLast?_append]
  rfl

theorem head?_flatMap_visits (ps : List Place) :
    (ps.flatMap visits).head? = ps.head?.map .enter := by
  cases ps with
  | nil => rfl
  | cons p ps =>
    rw [List.flatMap_cons, List.head?_append, head?_visits]
    rfl

/-- The children that are left of a node are visited one after another, and then it is left
itself. -/
theorem isChain_childrenFrom {b ts : List Tree} (h : p.tree.children = b.reverse ++ ts)
    (hts : ∀ q ∈ p.childrenFrom b ts, q.visits.IsChain Visit.Precedes) :
    List.IsChain Visit.Precedes ((p.childrenFrom b ts).flatMap visits ++ [.leave p]) := by
  induction ts generalizing b with
  | nil => exact List.isChain_singleton _
  | cons t ts ih =>
    have hrest := ih (b := t :: b) (by simp [h]) fun q hq => hts q (List.mem_cons_of_mem _ hq)
    rw [childrenFrom, List.flatMap_cons, List.append_assoc]
    refine (hts _ List.mem_cons_self).append hrest ?_
    intro v hv w hw
    rw [getLast?_visits, Option.mem_some_iff] at hv
    subst hv
    have hnext : (child p b t).nextSibling? = ts.head?.map (child p (t :: b)) := by
      rw [nextSibling?, h, List.getElem?_append_right (by simp)]
      cases ts <;> simp
    rw [List.head?_append, head?_flatMap_visits] at hw
    rw [Visit.Precedes, Visit.next?, hnext]
    cases ts with
    | nil => simpa [childrenFrom, parent?] using hw
    | cons u us => simpa [childrenFrom] using hw

theorem isChain_visits (p : Place) : p.visits.IsChain Visit.Precedes := by
  induction p using children_induction with
  | h p ih =>
    rw [visits_eq]
    refine List.isChain_cons.2 ⟨?_, isChain_childrenFrom rfl ih⟩
    intro w hw
    rw [List.head?_append, head?_flatMap_visits] at hw
    rw [Visit.Precedes, Visit.next?, firstChild?]
    cases hc : p.children with
    | nil => simpa [hc] using hw
    | cons c cs => simpa [hc] using hw

/-! ### Each node once -/

theorem filterMap_entered_visits (p : Place) :
    p.visits.filterMap Visit.entered? = p.subtree := by
  induction p using children_induction with
  | h p ih =>
    rw [visits_eq, subtree_eq]
    simp only [List.filterMap_cons, List.filterMap_append, List.filterMap_nil,
      List.filterMap_flatMap, Visit.entered?, List.append_nil]
    rw [List.flatMap_congr ih]

theorem filterMap_left_visits (p : Place) :
    p.visits.filterMap Visit.left? = p.postorder := by
  induction p using children_induction with
  | h p ih =>
    rw [visits_eq, postorder_eq]
    simp only [List.filterMap_cons, List.filterMap_append, List.filterMap_nil,
      List.filterMap_flatMap, Visit.left?]
    rw [List.flatMap_congr ih]

theorem perm_entered_left (vs : List Visit) : vs.Perm
    ((vs.filterMap Visit.entered?).map .enter ++ (vs.filterMap Visit.left?).map .leave) := by
  induction vs with
  | nil => exact .nil
  | cons v vs ih =>
    cases v with
    | enter p => exact ih.cons _
    | leave p => exact (ih.cons _).trans List.perm_middle.symm

/-- No node is entered twice or left twice. -/
theorem visits_nodup (p : Place) : p.visits.Nodup := by
  refine (perm_entered_left _).nodup_iff.2 ?_
  rw [filterMap_entered_visits, filterMap_left_visits, List.nodup_append]
  have hpost : p.postorder.Nodup := p.postorder_perm_subtree.nodup_iff.2 p.subtree_nodup
  refine ⟨p.subtree_nodup.map fun _ _ h => Visit.enter.inj h,
    hpost.map fun _ _ h => Visit.leave.inj h, ?_⟩
  intro v hv w hw
  obtain ⟨q, -, rfl⟩ := List.mem_map.1 hv
  obtain ⟨r, -, rfl⟩ := List.mem_map.1 hw
  exact Visit.noConfusion

theorem mem_subtree_of_leave_mem (h : .leave q ∈ p.visits) : q ∈ p.subtree := by
  rw [← p.postorder_perm_subtree.mem_iff, ← filterMap_left_visits]
  exact List.mem_filterMap.2 ⟨_, h, rfl⟩

end Place

/-! ### On the way to a node -/

/-- The visits at and below a node before another is entered there. -/
inductive Reaches : Place → List Visit → Place → Prop where
  | here (r : Place) : Reaches r [] r
  | down {r c p : Place} {cs ds : List Place} {outer : List Visit}
    (hc : r.children = cs ++ c :: ds) (h : Reaches c outer p) :
    Reaches r (.enter r :: (cs.flatMap Place.visits ++ outer)) p

variable {outer : List Visit}

theorem exists_reaches (h : p ∈ r.subtree) : ∃ outer, Reaches r outer p := by
  induction r using Place.children_induction with
  | h r ih =>
    rcases Place.mem_subtree.1 h with rfl | ⟨c, hc, h⟩
    · exact ⟨[], .here p⟩
    · obtain ⟨outer, hp⟩ := ih c hc h
      obtain ⟨cs, ds, hcs⟩ := List.append_of_mem hc
      exact ⟨_, .down hcs hp⟩

theorem Reaches.mem_subtree (h : Reaches r outer p) : p ∈ r.subtree := by
  induction h with
  | here r => exact r.self_mem_subtree
  | @down r c p cs ds outer hc h ih =>
    exact Place.mem_subtree.2 (Or.inr ⟨c, by rw [hc]; simp, ih⟩)

theorem Reaches.visits (h : Reaches r outer p) :
    ∃ rest, r.visits = outer ++ (p.visits ++ rest) := by
  induction h with
  | here r => exact ⟨[], by simp⟩
  | @down r c p cs ds outer hc h ih =>
    obtain ⟨rest, hrest⟩ := ih
    refine ⟨rest ++ (ds.flatMap Place.visits ++ [.leave r]), ?_⟩
    rw [Place.visits_eq, hc]
    simp [hrest]

/-- When a node is left, all that is below it has been visited since it was entered. -/
theorem exists_reaches_of_leave {before after : List Visit}
    (h : r.visits = before ++ .leave p :: after) :
    ∃ outer, Reaches r outer p ∧
      before = outer ++ .enter p :: p.children.flatMap Place.visits := by
  have hmem : p ∈ r.subtree := Place.mem_subtree_of_leave_mem (by rw [h]; simp)
  obtain ⟨outer, hp⟩ := exists_reaches hmem
  obtain ⟨rest, hrest⟩ := hp.visits
  refine ⟨outer, hp, ?_⟩
  rw [Place.visits_eq p] at hrest
  have hsplit : before ++ .leave p :: after =
      (outer ++ .enter p :: p.children.flatMap Place.visits) ++ .leave p :: rest := by
    rw [← h, hrest]
    simp
  -- A tour leaves no node twice, so the two splits are the same.
  have hnodup := r.visits_nodup
  rw [h] at hnodup
  have hnot := (List.nodup_middle.1 hnodup).notMem
  rw [List.mem_append, not_or] at hnot
  exact ((List.append_cons_inj_of_notMem hnot.1 hnot.2).1 hsplit).1

/-! ### The whole tour -/

/-- A tour of a tree: the way of a cursor from entering the root to leaving it. -/
structure Tours (root : Tree) (vs : List Visit) : Prop where
  starts : vs.head? = some (.enter (.root root))
  moves : vs.IsChain Visit.Precedes
  stops : vs.getLast? = some (.leave (.root root)) ∧ (Visit.leave (.root root)).next? = none
  /-- Nodes are entered in preorder. -/
  entered : vs.filterMap Visit.entered? = (Place.root root).subtree
  left : (vs.filterMap Visit.left?).Perm (Place.root root).subtree
  once : vs.Nodup
  /-- Between entering and leaving a node, just the nodes below it are entered and left. -/
  encloses : ∀ p ∈ (Place.root root).subtree, ∃ outer inner rest,
    vs = outer ++ .enter p :: (inner ++ .leave p :: rest) ∧
      inner.filterMap Visit.entered? = p.children.flatMap Place.subtree ∧
      (inner.filterMap Visit.left?).Perm (p.children.flatMap Place.subtree)

theorem tours_visits (root : Tree) : Tours root (Place.root root).visits where
  starts := Place.head?_visits _
  moves := Place.isChain_visits _
  stops := ⟨Place.getLast?_visits _, rfl⟩
  entered := Place.filterMap_entered_visits _
  left := by
    rw [Place.filterMap_left_visits]
    exact Place.postorder_perm_subtree _
  once := Place.visits_nodup _
  encloses p hp := by
    obtain ⟨outer, h⟩ := exists_reaches hp
    obtain ⟨rest, hrest⟩ := h.visits
    refine ⟨outer, p.children.flatMap Place.visits, rest, ?_, ?_, ?_⟩
    · rw [hrest, Place.visits_eq p]
      simp
    · rw [List.filterMap_flatMap]
      exact List.flatMap_congr fun q _ => q.filterMap_entered_visits
    · rw [List.filterMap_flatMap, List.flatMap_congr fun q _ => q.filterMap_left_visits]
      exact List.Perm.flatMap_left _ fun q _ => q.postorder_perm_subtree

end CodeSurvey
