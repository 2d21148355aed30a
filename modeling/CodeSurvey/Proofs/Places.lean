import CodeSurvey.Walk.Tour
import Mathlib.Data.List.Nodup
import Mathlib.Data.List.Perm.Basic
import Mathlib.Data.List.Flatten

/-! The nodes of a tree as places: recursion over them, their order, and what is above them. -/
namespace CodeSurvey

/-- What is gathered from the things that are kept. -/
theorem flatMap_filter {α β : Type} (keep : α → Bool) (f : α → List β) (xs : List α) :
    (xs.filter keep).flatMap f = xs.flatMap fun x => if keep x then f x else [] := by
  induction xs with
  | nil => rfl
  | cons x xs ih =>
    rw [List.filter_cons, List.flatMap_cons, ← ih]
    split <;> rfl

namespace Place

variable {α : Type} {p q r : Place}

theorem mem_childrenFrom {b ts : List Tree} (h : q ∈ p.childrenFrom b ts) :
    ∃ c t, q = child p c t ∧ t ∈ ts ∧ b.length ≤ c.length := by
  induction ts generalizing b with
  | nil => simp [childrenFrom] at h
  | cons t ts ih =>
    rcases List.mem_cons.1 h with rfl | h
    · exact ⟨b, t, rfl, by simp, Nat.le_refl _⟩
    · obtain ⟨c, u, rfl, hu, hc⟩ := ih h
      exact ⟨c, u, rfl, by simp [hu], by simp at hc; omega⟩

theorem eq_child_of_mem_children (h : q ∈ p.children) : ∃ b t, q = child p b t := by
  obtain ⟨b, t, hq, _, _⟩ := mem_childrenFrom h
  exact ⟨b, t, hq⟩

theorem map_tree_children (p : Place) : p.children.map tree = p.tree.children := by
  suffices h : ∀ b ts, (p.childrenFrom b ts).map tree = ts from h _ _
  intro b ts
  induction ts generalizing b with
  | nil => rfl
  | cons t ts ih => rw [childrenFrom, List.map_cons, ih, tree]

theorem exists_place_of_mem_children {t : Tree} (h : t ∈ p.tree.children) :
    ∃ q ∈ p.children, q.tree = t := by
  rw [← map_tree_children] at h
  exact List.mem_map.1 h

theorem parent?_of_mem_children (h : q ∈ p.children) : q.parent? = some p := by
  obtain ⟨b, t, rfl⟩ := eq_child_of_mem_children h
  rfl

/-- What holds of a node if it holds of its children holds of every node. -/
@[elab_as_elim]
theorem children_induction {P : Place → Prop} (h : ∀ p, (∀ q ∈ p.children, P q) → P p)
    (p : Place) : P p := by
  apply h
  intro q hq
  have : sizeOf q.tree < sizeOf p.tree := by
    obtain ⟨b, t, rfl, ht, _⟩ := mem_childrenFrom hq
    cases hp : p.tree with
    | node l cs =>
      rw [hp] at ht
      have := List.sizeOf_lt_of_mem ht
      simp only [Place.tree, Tree.node.sizeOf_spec]
      simp only [Tree.children] at this
      omega
  exact children_induction h q
termination_by sizeOf p.tree

/-! ### Recursion -/

mutual

def foldTree (f : Place → List α → α) (place : Tree → Place) : Tree → α
  | .node l cs =>
    let p := place (.node l cs)
    f p (foldTrees f p [] cs)

def foldTrees (f : Place → List α → α) (parent : Place) (before : List Tree) :
    List Tree → List α
  | [] => []
  | t :: ts => foldTree f (.child parent before) t :: foldTrees f parent (t :: before) ts

end

/-- Works out a value at a node from the values at its children. -/
def fold (f : Place → List α → α) : Place → α
  | root t => foldTree f .root t
  | child parent before t => foldTree f (.child parent before) t

theorem foldTrees_eq (f : Place → List α → α) (p : Place) (b ts : List Tree) :
    foldTrees f p b ts = (p.childrenFrom b ts).map (fold f) := by
  induction ts generalizing b with
  | nil => rfl
  | cons t ts ih => simp [foldTrees, childrenFrom, ih, fold]

theorem fold_eq (f : Place → List α → α) (p : Place) :
    p.fold f = f p (p.children.map (fold f)) := by
  cases p with
  | root t =>
    cases t with
    | node l cs => simp [fold, foldTree, foldTrees_eq, children, tree, Tree.children]
  | child q b t =>
    cases t with
    | node l cs => simp [fold, foldTree, foldTrees_eq, children, tree, Tree.children]

/-- The node and all below it, each before its children. -/
def subtree : Place → List Place := fold fun p parts => p :: parts.flatten

/-- The node and all below it, each after its children. -/
def postorder : Place → List Place := fold fun p parts => parts.flatten ++ [p]

/-- The tour of all that is at and below a node. -/
def visits : Place → List Visit := fold fun p parts => .enter p :: (parts.flatten ++ [.leave p])

theorem subtree_eq (p : Place) : p.subtree = p :: p.children.flatMap subtree := by
  rw [subtree, fold_eq, List.flatMap_def]

theorem postorder_eq (p : Place) : p.postorder = p.children.flatMap postorder ++ [p] := by
  rw [postorder, fold_eq, List.flatMap_def]

theorem visits_eq (p : Place) :
    p.visits = .enter p :: (p.children.flatMap visits ++ [.leave p]) := by
  rw [visits, fold_eq, List.flatMap_def]

mutual

theorem tour_eq_foldTree (place : Tree → Place) (t : Tree) :
    tour place t =
      foldTree (fun p parts => .enter p :: (parts.flatten ++ [.leave p])) place t := by
  cases t with
  | node l cs =>
    rw [tour, foldTree]
    simp only [tourOfAll_eq_foldTrees]

theorem tourOfAll_eq_foldTrees (parent : Place) (before ts : List Tree) :
    tourOfAll parent before ts =
      (foldTrees (fun p parts => .enter p :: (parts.flatten ++ [.leave p])) parent before
        ts).flatten := by
  cases ts with
  | nil => rfl
  | cons t ts =>
    rw [tourOfAll, foldTrees, List.flatten_cons, tour_eq_foldTree, tourOfAll_eq_foldTrees]

end

theorem tour_root (t : Tree) : tour .root t = (root t).visits := tour_eq_foldTree .root t

theorem postorder_perm_subtree (p : Place) : p.postorder.Perm p.subtree := by
  induction p using children_induction with
  | h p ih =>
    rw [postorder_eq, subtree_eq]
    exact (List.perm_append_singleton _ _).trans (.cons _ (List.Perm.flatMap_left _ ih))

/-! ### What is above a node -/

theorem self_mem_subtree (p : Place) : p ∈ p.subtree := by simp [subtree_eq p]

theorem mem_subtree : q ∈ p.subtree ↔ q = p ∨ ∃ c ∈ p.children, q ∈ c.subtree := by
  rw [subtree_eq, List.mem_cons, List.mem_flatMap]

theorem mem_subtree_of_mem_children (h : q ∈ p.subtree) (hr : r ∈ q.children) :
    r ∈ p.subtree := by
  induction p using children_induction with
  | h p ih =>
    rw [mem_subtree] at h ⊢
    rcases h with rfl | ⟨c, hc, h⟩
    · exact Or.inr ⟨r, hr, r.self_mem_subtree⟩
    · exact Or.inr ⟨c, hc, ih c hc h⟩

/-- A node of a tree that is not its root is a child of a node of the tree. -/
theorem mem_children_of_mem_subtree (h : r ∈ p.subtree) :
    r = p ∨ ∃ q ∈ p.subtree, r ∈ q.children := by
  induction p using children_induction with
  | h p ih =>
    rcases mem_subtree.1 h with rfl | ⟨c, hc, h⟩
    · exact Or.inl rfl
    · right
      rcases ih c hc h with rfl | ⟨q, hq, hr⟩
      · exact ⟨p, p.self_mem_subtree, hc⟩
      · exact ⟨q, mem_subtree.2 (Or.inr ⟨c, hc, hq⟩), hr⟩

theorem subtree_trans (hq : q ∈ p.subtree) (hr : r ∈ q.subtree) : r ∈ p.subtree := by
  induction q using children_induction with
  | h q ih =>
    rcases mem_subtree.1 hr with rfl | ⟨c, hc, hr⟩
    · exact hq
    · exact ih c hc (mem_subtree_of_mem_children hq hc) hr

theorem subtree_sublist (h : q ∈ p.subtree) : q.subtree.Sublist p.subtree := by
  induction p using children_induction with
  | h p ih =>
    rcases mem_subtree.1 h with rfl | ⟨c, hc, h⟩
    · exact .refl _
    · have hsub : c.subtree.Sublist (p.children.map subtree).flatten :=
        List.sublist_flatten_of_mem (List.mem_map_of_mem hc)
      rw [subtree_eq p, List.flatMap_def]
      exact ((ih c hc h).trans hsub).cons p

/-- The node and all above it, the nearest first. -/
def lineage : Place → List Place
  | root t => [root t]
  | child p b t => child p b t :: p.lineage

/-- The nodes above a node, the nearest first. -/
def above : Place → List Place
  | root _ => []
  | child p _ _ => p.lineage

def depth : Place → Nat
  | root _ => 0
  | child p _ _ => p.depth + 1

theorem lineage_eq (p : Place) : p.lineage = p :: p.above := by cases p <;> rfl

theorem self_mem_lineage (p : Place) : p ∈ p.lineage := by cases p <;> simp [lineage]

theorem depth_le_of_mem_lineage (h : p ∈ q.lineage) : p.depth ≤ q.depth := by
  induction q with
  | root t => simp_all [lineage]
  | child q b t ih =>
    rcases List.mem_cons.1 h with rfl | h
    · exact Nat.le_refl _
    · exact Nat.le_succ_of_le (ih h)

/-- There is one node of each depth above a node. -/
theorem eq_of_mem_lineage (hp : p ∈ r.lineage) (hq : q ∈ r.lineage) (h : p.depth = q.depth) :
    p = q := by
  induction r with
  | root t => simp_all [lineage]
  | child r b t ih =>
    rcases List.mem_cons.1 hp with rfl | hp <;> rcases List.mem_cons.1 hq with rfl | hq
    · rfl
    · have := depth_le_of_mem_lineage hq
      simp only [depth] at h
      omega
    · have := depth_le_of_mem_lineage hp
      simp only [depth] at h
      omega
    · exact ih hp hq

theorem length_lineage (p : Place) : p.lineage.length = p.depth + 1 := by
  induction p with
  | root t => rfl
  | child p b t ih => rw [lineage, List.length_cons, ih, depth]

theorem lineage_nodup (p : Place) : p.lineage.Nodup := by
  induction p with
  | root t => exact List.nodup_singleton _
  | child p b t ih =>
    refine List.nodup_cons.2 ⟨?_, ih⟩
    intro h
    have hle := depth_le_of_mem_lineage h
    rw [depth] at hle
    omega

theorem mem_lineage_of_mem_children (hc : r ∈ p.children) (h : r ∈ q.lineage) :
    p ∈ q.lineage := by
  obtain ⟨b, t, rfl⟩ := eq_child_of_mem_children hc
  induction q with
  | root t => simp [lineage] at h
  | child q c u ih =>
    rcases List.mem_cons.1 h with he | h
    · cases he
      exact List.mem_cons_of_mem _ p.self_mem_lineage
    · exact List.mem_cons_of_mem _ (ih h)

theorem mem_lineage_of_mem_subtree (h : q ∈ p.subtree) : p ∈ q.lineage := by
  induction p using children_induction with
  | h p ih =>
    rcases mem_subtree.1 h with rfl | ⟨c, hc, h⟩
    · exact q.self_mem_lineage
    · exact mem_lineage_of_mem_children hc (ih c hc h)

theorem lineage_trans (hq : q ∈ p.lineage) (hr : r ∈ q.lineage) : r ∈ p.lineage := by
  induction p with
  | root t =>
    obtain rfl := List.mem_singleton.1 hq
    exact hr
  | child p b t ih =>
    rcases List.mem_cons.1 hq with rfl | hq
    · exact hr
    · exact List.mem_cons_of_mem _ (ih hq)

theorem parent?_mem_lineage (h : p.parent? = some q) : q ∈ p.lineage := by
  cases p with
  | root t => cases h
  | child p b t =>
    cases h
    exact List.mem_cons_of_mem _ (self_mem_lineage _)

/-- A node of a tree lies below all that is above it. -/
theorem mem_subtree_of_mem_lineage {tree : Tree} (hp : p ∈ (root tree).subtree)
    (hq : q ∈ p.lineage) : q ∈ (root tree).subtree ∧ p ∈ q.subtree := by
  induction p with
  | root t =>
    obtain rfl := List.mem_singleton.1 hq
    exact ⟨hp, self_mem_subtree _⟩
  | child p b t ih =>
    rcases List.mem_cons.1 hq with rfl | hq
    · exact ⟨hp, self_mem_subtree _⟩
    · rcases mem_children_of_mem_subtree hp with he | ⟨m, hm, hc⟩
      · cases he
      obtain ⟨_, _, he⟩ := eq_child_of_mem_children hc
      cases he
      obtain ⟨hroot, hbelow⟩ := ih hm hq
      exact ⟨hroot, mem_subtree_of_mem_children hbelow hc⟩

/-- There are more nodes in a tree than above any of them. -/
theorem depth_lt_length {tree : Tree} (hp : p ∈ (root tree).subtree) :
    p.depth < (root tree).subtree.length := by
  have hsub : p.lineage ⊆ (root tree).subtree := fun q hq => (mem_subtree_of_mem_lineage hp hq).1
  have hle := (List.subperm_of_subset p.lineage_nodup hsub).length_le
  rw [length_lineage] at hle
  omega

theorem depth_of_mem_children (h : q ∈ p.children) : q.depth = p.depth + 1 := by
  obtain ⟨b, t, rfl⟩ := eq_child_of_mem_children h
  rfl

theorem children_nodup (p : Place) : p.children.Nodup := by
  suffices h : ∀ b ts, (p.childrenFrom b ts).Nodup from h _ _
  intro b ts
  induction ts generalizing b with
  | nil => exact .nil
  | cons t ts ih =>
    refine List.nodup_cons.2 ⟨?_, ih (t :: b)⟩
    intro h
    obtain ⟨c, u, he, _, hc⟩ := mem_childrenFrom h
    cases he
    simp only [List.length_cons] at hc
    omega

/-- No node of a tree is met twice. -/
theorem subtree_nodup (p : Place) : p.subtree.Nodup := by
  induction p using children_induction with
  | h p ih =>
    rw [subtree_eq, List.nodup_cons, List.nodup_flatMap]
    refine ⟨?_, ih, p.children_nodup.imp_of_mem ?_⟩
    · intro h
      obtain ⟨c, hc, h⟩ := List.mem_flatMap.1 h
      have := depth_le_of_mem_lineage (mem_lineage_of_mem_subtree h)
      rw [depth_of_mem_children hc] at this
      omega
    · intro c d hc hd hne x hx hy
      apply hne
      apply eq_of_mem_lineage (mem_lineage_of_mem_subtree hx) (mem_lineage_of_mem_subtree hy)
      rw [depth_of_mem_children hc, depth_of_mem_children hd]

/-! ### Ranges -/

/-- Below a node, every range lies inside that of the parent. -/
def Nested (p : Place) : Prop :=
  ∀ q ∈ p.subtree, ∀ c ∈ q.children,
    q.tree.start ≤ c.tree.start ∧ c.tree.start ≤ c.tree.stop ∧ c.tree.stop ≤ q.tree.stop

/-- Below a node, siblings stand one after another. -/
def InOrder (p : Place) : Prop :=
  ∀ q ∈ p.subtree, q.children.Pairwise fun c d => c.tree.stop ≤ d.tree.start

theorem Nested.of_mem_subtree (h : p.Nested) (hq : q ∈ p.subtree) : q.Nested :=
  fun _ hr => h _ (subtree_trans hq hr)

theorem InOrder.of_mem_subtree (h : p.InOrder) (hq : q ∈ p.subtree) : q.InOrder :=
  fun _ hr => h _ (subtree_trans hq hr)

theorem mem_subtree_of_child (h : q ∈ p.children) : q ∈ p.subtree :=
  mem_subtree_of_mem_children p.self_mem_subtree h

/-- All ranges below a node lie inside its own. -/
theorem Nested.within (h : p.Nested) (hq : q ∈ p.subtree) :
    p.tree.start ≤ q.tree.start ∧ q.tree.stop ≤ p.tree.stop := by
  induction p using children_induction with
  | h p ih =>
    rcases mem_subtree.1 hq with rfl | ⟨c, hc, hq⟩
    · exact ⟨Nat.le_refl _, Nat.le_refl _⟩
    · obtain ⟨hstart, -, hstop⟩ := h p p.self_mem_subtree c hc
      obtain ⟨hcs, hce⟩ := ih c hc (h.of_mem_subtree (mem_subtree_of_child hc)) hq
      exact ⟨Nat.le_trans hstart hcs, Nat.le_trans hce hstop⟩

end Place

end CodeSurvey
