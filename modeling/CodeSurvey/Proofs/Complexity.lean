import CodeSurvey.Grammar.Python
import CodeSurvey.Proofs.Filing
import Mathlib.Algebra.GroupWithZero.Nat
import Mathlib.Data.List.Forall2

/-! The complexity of a function and the nesting of its body are those of its decisions in the
tree. -/
namespace CodeSurvey

/-- The greatest of some numbers, or zero. -/
def greatest (ns : List Nat) : Nat := ns.foldr max 0

theorem greatest_le_iff {ns : List Nat} {n : Nat} : greatest ns ≤ n ↔ ∀ x ∈ ns, x ≤ n := by
  rw [greatest]
  induction ns with
  | nil => simp
  | cons x ns ih => rw [List.foldr_cons, Nat.max_le, ih, List.forall_mem_cons]

theorem toNat_max_le_iff (a b : UInt32) (n : Nat) :
    (max a b).toNat ≤ n ↔ a.toNat ≤ n ∧ b.toNat ≤ n := by
  change (if a ≤ b then b else a).toNat ≤ n ↔ _
  split
  · next h =>
    rw [UInt32.le_iff_toNat_le] at h
    omega
  · next h =>
    rw [UInt32.le_iff_toNat_le] at h
    omega

namespace Walk

section

variable (g : Grammar) (src : Source)

def isDecision (p : Place) : Bool := (branchAt? g src p).isSome

/-- A decision whose body lies one level deeper. -/
def nests (p : Place) : Bool := branchAt? g src p == some true

open Classical in
/-- The decisions directly in what a node opens: nothing else is opened in between. -/
noncomputable def decisions (root : Tree) (f : Place) : List Place :=
  (Place.root root).subtree.filter fun b =>
    isDecision g src b ∧ (around? g src b).map Prod.fst = some f

open Classical in
/-- How many of the decisions of a function nest, on the way from its node down to a node. -/
noncomputable def nestingAt (root : Tree) (f b : Place) : Nat :=
  b.lineage.countP fun q => q ∈ decisions g src root f ∧ nests g src q

/-- The level around a node: how many decisions nest between it and what is opened nearest around
it. -/
def levelAround : Place → Nat
  | .root _ => 0
  | .child p _ _ =>
    if (opening? g src p).isSome then 0 else levelAround p + (nests g src p).toNat

/-- The level of the body of a node. -/
def level (p : Place) : Nat := levelAround g src p + (nests g src p).toNat

end

variable {g : Grammar} {src : Source} {root : Tree} {p q b : Place} {o : Opening}
  {f f' f'' : FunctionFrame}

theorem mem_decisions {f : Place} :
    b ∈ decisions g src root f ↔ b ∈ (Place.root root).subtree ∧ isDecision g src b = true ∧
      (around? g src b).map Prod.fst = some f := by
  simp [decisions]

theorem branchAt?_of_some (h : opening? g src p = some o) : branchAt? g src p = none := by
  rw [branchAt?]
  rw [opening?] at h
  cases hr : roleOf g src p <;> simp_all

theorem isDecision_of_some (h : opening? g src p = some o) : isDecision g src p = false := by
  rw [isDecision, branchAt?_of_some h]
  rfl

theorem levelAround_child_of_some (h : opening? g src p = some o) (hq : q ∈ p.children) :
    levelAround g src q = 0 := by
  obtain ⟨b, t, rfl⟩ := Place.eq_child_of_mem_children hq
  simp [levelAround, h]

theorem levelAround_child_of_none (h : opening? g src p = none) (hq : q ∈ p.children) :
    levelAround g src q = level g src p := by
  obtain ⟨b, t, rfl⟩ := Place.eq_child_of_mem_children hq
  simp [levelAround, level, h]

/-! ### Reading a body -/

variable (g src) in
/-- What a frame counts while some nodes are read. -/
structure Counted (ps : List Place) (f f' : FunctionFrame) : Prop where
  branches : f'.branches.toNat = f.branches.toNat + ps.countP (isDecision g src)
  depth : f'.depth = f.depth
  nesting (n : Nat) : f'.decl.nestingDepth.toNat ≤ n ↔
    f.decl.nestingDepth.toNat ≤ n ∧ ∀ b ∈ ps, isDecision g src b = true → level g src b ≤ n

/-- The depth of a frame at some level. It cannot overflow as long as the branches do not. -/
structure AtLevel (n : Nat) (f : FunctionFrame) : Prop where
  depth : f.depth.toNat = n
  nesting : n ≤ f.decl.nestingDepth.toNat
  branches : n ≤ f.branches.toNat

theorem Counted.nesting_le {ps : List Place} (h : Counted g src ps f f') :
    f.decl.nestingDepth.toNat ≤ f'.decl.nestingDepth.toNat :=
  ((h.nesting _).1 (Nat.le_refl _)).1

theorem Counted.trans {ps qs : List Place} (h : Counted g src ps f f')
    (h' : Counted g src qs f' f'') : Counted g src (ps ++ qs) f f'' where
  branches := by
    rw [h'.branches, h.branches, List.countP_append]
    omega
  depth := h'.depth.trans h.depth
  nesting n := by
    rw [h'.nesting, h.nesting]
    grind

theorem Counted.atLevel {ps : List Place} {n : Nat} (h : Counted g src ps f f')
    (hf : AtLevel n f) : AtLevel n f' where
  depth := h.depth ▸ hf.depth
  nesting := Nat.le_trans hf.nesting h.nesting_le
  branches := by
    rw [h.branches]
    have := hf.branches
    omega

/-- Siblings stand at one level, so what is read of each adds up. -/
theorem readBodies_counted {ps : List Place} {n : Nat}
    (h : ∀ p ∈ ps, ∀ f, AtLevel n f →
      f.branches.toNat + (region g src p).countP (isDecision g src) < 2 ^ 32 →
      Counted g src (region g src p) f (readBody g src p f))
    (hf : AtLevel n f)
    (hlt : f.branches.toNat + (ps.flatMap (region g src)).countP (isDecision g src) < 2 ^ 32) :
    Counted g src (ps.flatMap (region g src)) f (readBodies g src ps f) := by
  induction ps generalizing f with
  | nil => exact ⟨rfl, rfl, by simp [readBodies]⟩
  | cons p ps ih =>
    rw [List.flatMap_cons, List.countP_append] at hlt
    have hp := h p (by simp) f hf (by omega)
    rw [List.flatMap_cons]
    apply hp.trans
    apply ih (fun q hq => h q (by simp [hq])) (hp.atLevel hf)
    rw [hp.branches]
    omega

theorem counted_of_some (h : opening? g src p = some o) (f : FunctionFrame) :
    Counted g src [p] f f where
  branches := by simp [isDecision_of_some h]
  depth := rfl
  nesting n := by simp [isDecision_of_some h]

/-- A node that decides nothing leaves all to what is below it. -/
theorem Counted.plain {ps : List Place} (h : Counted g src ps f f')
    (hb : branchAt? g src p = none) : Counted g src (p :: ps) f f' where
  branches := by simp [h.branches, isDecision, hb]
  depth := h.depth
  nesting n := by simp [h.nesting, isDecision, hb]

theorem level_of_branch {nested : Bool} (hb : branchAt? g src p = some nested) :
    level g src p = levelAround g src p + nested.toNat := by
  cases nested <;> simp [level, nests, hb]

theorem branches_branch (f : FunctionFrame) (nested : Bool)
    (hlt : f.branches.toNat + 1 < 2 ^ 32) :
    (f.branch nested).branches.toNat = f.branches.toNat + 1 := by
  cases nested <;> simp [FunctionFrame.branch] <;> omega

theorem depth_branch (f : FunctionFrame) (nested : Bool) (hlt : f.depth.toNat + 1 < 2 ^ 32) :
    (f.branch nested).depth.toNat = f.depth.toNat + nested.toNat := by
  cases nested <;> simp [FunctionFrame.branch]
  omega

/-- The nesting takes in the level of the body that is entered. -/
theorem nesting_branch {nested : Bool} (hb : branchAt? g src p = some nested)
    (hf : AtLevel (levelAround g src p) f) (hlt : f.branches.toNat + 1 < 2 ^ 32) (n : Nat) :
    (f.branch nested).decl.nestingDepth.toNat ≤ n ↔
      f.decl.nestingDepth.toNat ≤ n ∧ level g src p ≤ n := by
  obtain ⟨hd, hn, hbr⟩ := hf
  rw [level_of_branch hb]
  cases nested with
  | false =>
    simp only [FunctionFrame.branch, Bool.toNat_false, Bool.false_eq_true, ↓reduceIte]
    omega
  | true =>
    have hdepth := depth_branch f true (by omega)
    simp only [FunctionFrame.branch, ↓reduceIte, Bool.toNat_true] at hdepth ⊢
    rw [toNat_max_le_iff, hdepth, hd]

theorem branch_atLevel {nested : Bool} (hb : branchAt? g src p = some nested)
    (hf : AtLevel (levelAround g src p) f) (hlt : f.branches.toNat + 1 < 2 ^ 32) :
    AtLevel (level g src p) (f.branch nested) := by
  have hd := hf.depth
  have hbr := hf.branches
  refine ⟨?_, ((nesting_branch hb hf hlt _).1 (Nat.le_refl _)).2, ?_⟩
  · rw [depth_branch f nested (by omega), hd, level_of_branch hb]
  · rw [branches_branch f nested hlt, level_of_branch hb]
    cases nested <;> simp <;> omega

theorem depth_ascend_branch (f : FunctionFrame) (hlt : f.depth.toNat + 1 < 2 ^ 32)
    (h : f'.depth = (f.branch true).depth) : f'.ascend.depth = f.depth := by
  have hd := depth_branch f true hlt
  rw [← h] at hd
  have hne : f'.depth ≠ 0 := by
    intro h0
    simp [h0] at hd
  rw [h] at hne
  simp only [FunctionFrame.branch, ↓reduceIte] at h hne
  simp [FunctionFrame.ascend, h, hne]

/-- A decision counts itself and what is below it, and its level ends with it. -/
theorem Counted.decision {ps : List Place} {nested : Bool} (hb : branchAt? g src p = some nested)
    (hf : AtLevel (levelAround g src p) f) (hlt : f.branches.toNat + 1 < 2 ^ 32)
    (h : Counted g src ps (f.branch nested) f') :
    Counted g src (p :: ps) f (if nested then f'.ascend else f') := by
  have hp : isDecision g src p = true := by simp [isDecision, hb]
  have hbr : f'.branches.toNat = f.branches.toNat + (p :: ps).countP (isDecision g src) := by
    rw [h.branches, branches_branch f nested hlt, List.countP_cons_of_pos hp]
    omega
  have hn : ∀ n, f'.decl.nestingDepth.toNat ≤ n ↔ f.decl.nestingDepth.toNat ≤ n ∧
      ∀ b ∈ p :: ps, isDecision g src b = true → level g src b ≤ n := by
    intro n
    rw [h.nesting, nesting_branch hb hf hlt, List.forall_mem_cons, and_assoc]
    simp only [hp, true_imp_iff]
  cases nested with
  | false => exact ⟨hbr, h.depth, hn⟩
  | true =>
    have hd := hf.depth
    have hle := hf.branches
    exact ⟨hbr, depth_ascend_branch f (by omega) h.depth, hn⟩

/-- The induction is on the tree; the frame is at the level around the node that is read. -/
theorem readBody_counted (p : Place) (hf : AtLevel (levelAround g src p) f)
    (hlt : f.branches.toNat + (region g src p).countP (isDecision g src) < 2 ^ 32) :
    Counted g src (region g src p) f (readBody g src p f) := by
  induction p using Place.children_induction generalizing f with
  | h p ih =>
    cases ho : opening? g src p with
    | some o =>
      rw [region_of_some ho, readBody_of_some ho]
      exact counted_of_some ho f
    | none =>
      have hchildren : ∀ q ∈ p.children, ∀ f, AtLevel (level g src p) f →
          f.branches.toNat + (region g src q).countP (isDecision g src) < 2 ^ 32 →
          Counted g src (region g src q) f (readBody g src q f) := by
        intro q hq f hf hlt
        exact ih q hq (levelAround_child_of_none ho hq ▸ hf) hlt
      rw [region_of_none ho] at hlt ⊢
      rw [readBody_of_none ho]
      cases hb : branchAt? g src p with
      | none =>
        have hlevel : level g src p = levelAround g src p := by simp [level, nests, hb]
        rw [hlevel] at hchildren
        simp only [List.countP_cons, isDecision, hb] at hlt
        exact (readBodies_counted hchildren hf hlt).plain hb
      | some nested =>
        have hp : isDecision g src p = true := by simp [isDecision, hb]
        rw [List.countP_cons_of_pos hp] at hlt
        have hlt' : f.branches.toNat + 1 < 2 ^ 32 := by omega
        have hbody := readBodies_counted hchildren (branch_atLevel hb hf hlt')
          (by rw [branches_branch f nested hlt', ← interior]; omega)
        have hdecision := Counted.decision hb hf hlt' hbody
        cases nested <;> exact hdecision

/-! ### The decisions of a function -/

theorem depth_lt_of_mem_enclosing (h : (p, o) ∈ enclosing g src q) : p.depth < q.depth := by
  induction q with
  | root t => simp [enclosing] at h
  | child q b t ih =>
    rcases List.mem_append.1 h with h | h
    · simp only [Option.mem_toList, Option.map_eq_some_iff] at h
      obtain ⟨_, _, he⟩ := h
      cases he
      exact Nat.lt_succ_self _
    · exact Nat.lt_succ_of_lt (ih h)

theorem around?_iff {root : Tree} (hq : q ∈ (Place.root root).subtree)
    (ho : opening? g src p = some o) :
    (around? g src q).map Prod.fst = some p ↔ around? g src q = some (p, o) := by
  constructor
  · intro h
    obtain ⟨⟨r, o'⟩, ha, rfl⟩ := Option.map_eq_some_iff.1 h
    have ho' := (around?_mem hq ha).2
    rw [ho] at ho'
    rw [ha, Option.some.inj ho']
  · intro h
    rw [h]
    rfl

theorem decisions_perm (hp : p ∈ (Place.root root).subtree) (ho : opening? g src p = some o) :
    (decisions g src root p).Perm ((interior g src p).filter (isDecision g src)) := by
  refine .trans ?_ ((interior_perm hp ho).filter _).symm
  rw [List.filter_filter, decisions]
  apply List.Perm.of_eq
  apply List.filter_congr
  intro b hb
  rw [Bool.eq_iff_iff]
  simp only [Bool.and_eq_true, decide_eq_true_eq, around?_iff hb ho]

/-- What nests around a node directly in a function are the decisions of the function above it. -/
theorem nestingAt_eq_level {f : Place} (hp : p ∈ (Place.root root).subtree)
    (h : (around? g src p).map Prod.fst = some f) :
    nestingAt g src root f p = level g src p := by
  induction p with
  | root t => simp [around?, enclosing] at h
  | child p before t ih =>
    rcases Place.mem_children_of_mem_subtree hp with he | ⟨m, hm, hc⟩
    · cases he
    obtain ⟨_, _, he⟩ := Place.eq_child_of_mem_children hc
    cases he
    have hself : (Place.child p before t ∈ decisions g src root f ∧
        nests g src (.child p before t) = true) ↔ nests g src (.child p before t) = true := by
      rw [and_iff_right_iff_imp]
      intro hn
      refine mem_decisions.2 ⟨hp, ?_, h⟩
      rw [nests, beq_iff_eq] at hn
      simp [isDecision, hn]
    have habove : nestingAt g src root f p = levelAround g src (.child p before t) := by
      cases ho : opening? g src p with
      | none =>
        rw [around?_child_of_none ho hc] at h
        rw [ih hm h, levelAround_child_of_none ho hc]
      | some o =>
        rw [around?_child_of_some ho hc] at h
        cases h
        rw [levelAround_child_of_some ho hc, nestingAt, List.countP_eq_zero]
        intro q hq
        simp only [mem_decisions, decide_eq_true_eq, not_and]
        intro hmem
        obtain ⟨⟨r, o'⟩, ha, rfl⟩ := Option.map_eq_some_iff.1 hmem.2.2
        have hlt := depth_lt_of_mem_enclosing (List.mem_of_mem_head? ha)
        have hle : q.depth ≤ r.depth := Place.depth_le_of_mem_lineage hq
        omega
    rw [level, ← habove, nestingAt, Place.lineage, List.countP_cons]
    simp only [hself]
    cases nests g src (.child p before t) <;> rfl

/-! ### What a function is scored -/

theorem length_decisions_lt (hp : p ∈ (Place.root root).subtree)
    (ho : opening? g src p = some o) :
    (decisions g src root p).length < (Place.root root).subtree.length := by
  apply List.length_filter_lt_length_iff_exists.2
  exact ⟨p, hp, by simp [isDecision_of_some ho]⟩

variable (g src) in
/-- Reading the body of a function whose tree is not too large. -/
theorem counted_body {h : FunctionHead} (hp : p ∈ (Place.root root).subtree)
    (ho : opening? g src p = some (.function h))
    (hsize : (Place.root root).subtree.length < 2 ^ 32) :
    Counted g src (interior g src p) (openFunction g src (attachmentAt g src p h) p h)
      (readBodies g src p.children (openFunction g src (attachmentAt g src p h) p h)) := by
  have hlt := length_decisions_lt hp ho
  rw [(decisions_perm hp ho).length_eq, ← List.countP_eq_length_filter] at hlt
  refine readBodies_counted (n := 0) ?_ ⟨rfl, Nat.zero_le _, Nat.zero_le _⟩ ?_
  · intro q hq f hf hlt
    exact readBody_counted q (levelAround_child_of_some ho hq ▸ hf) hlt
  · rw [← interior]
    simp only [openFunction, UInt32.toNat_zero]
    omega

variable (g src root) in
/-- What a declaration says of the function at a node. -/
structure Scored (f : Place × FunctionHead) (d : FunctionDecl) : Prop where
  /-- All but the scores is known when the function is entered. -/
  opened : d = { (openFunction g src (attachmentAt g src f.1 f.2) f.1 f.2).decl with
    cyclomaticComplexity := d.cyclomaticComplexity, nestingDepth := d.nestingDepth }
  complexity : d.cyclomaticComplexity.toNat = 1 + (decisions g src root f.1).length
  nesting : d.nestingDepth.toNat =
    greatest ((decisions g src root f.1).map (nestingAt g src root f.1))

theorem scored_declOf {f : Place × FunctionHead} (hf : f ∈ functionNodes g src root)
    (hsize : (Place.root root).subtree.length < 2 ^ 32) :
    Scored g src root f (declOf g src f) := by
  obtain ⟨hp, ho⟩ := mem_functionNodes.1 hf
  have hc := counted_body g src hp ho hsize
  have hperm := decisions_perm hp ho
  have hlt := length_decisions_lt hp ho
  refine ⟨?_, ?_, ?_⟩
  · obtain ⟨_, _, h⟩ := declOf_eq g src f
    rw [h]
  · have hb := hc.branches
    rw [List.countP_eq_length_filter, ← hperm.length_eq] at hb
    have hsum : (declOf g src f).cyclomaticComplexity.toNat =
        (1 + (decisions g src root f.1).length) % 2 ^ 32 := by
      rw [declOf, functionAt, FunctionFrame.finished, UInt32.toNat_add, hb]
      simp [openFunction]
    rw [hsum, Nat.mod_eq_of_lt (by omega)]
  · have hn : ∀ n, (declOf g src f).nestingDepth.toNat ≤ n ↔
        greatest ((decisions g src root f.1).map (nestingAt g src root f.1)) ≤ n := by
      intro n
      rw [greatest_le_iff, List.forall_mem_map]
      refine (hc.nesting n).trans ⟨?_, ?_⟩
      · rintro ⟨-, h⟩ b hb
        obtain ⟨hroot, hd, ha⟩ := mem_decisions.1 hb
        rw [nestingAt_eq_level hroot ha]
        exact h b (List.mem_filter.1 (hperm.mem_iff.1 hb)).1 hd
      · intro h
        refine ⟨Nat.zero_le _, fun b hb hd => ?_⟩
        have hmem := hperm.mem_iff.2 (List.mem_filter.2 ⟨hb, hd⟩)
        obtain ⟨hroot, -, ha⟩ := mem_decisions.1 hmem
        rw [← nestingAt_eq_level hroot ha]
        exact h b hmem
    exact Nat.le_antisymm ((hn _).2 (Nat.le_refl _)) ((hn _).1 (Nat.le_refl _))

/-- What is below a node that opens something is directly in what is opened there or below. -/
theorem around?_mem_subtree (ho : opening? g src q = some o) (hb : b ∈ q.subtree) (hne : b ≠ q) :
    ∃ r ∈ q.subtree, (around? g src b).map Prod.fst = some r := by
  induction b with
  | root t =>
    rcases Place.mem_children_of_mem_subtree hb with rfl | ⟨m, _, hc⟩
    · exact absurd rfl hne
    · obtain ⟨_, _, he⟩ := Place.eq_child_of_mem_children hc
      cases he
  | child p before t ih =>
    rcases Place.mem_children_of_mem_subtree hb with rfl | ⟨m, hm, hc⟩
    · exact absurd rfl hne
    obtain ⟨_, _, he⟩ := Place.eq_child_of_mem_children hc
    cases he
    cases hp : opening? g src p with
    | some o' => exact ⟨p, hm, by rw [around?_child_of_some hp hc]; rfl⟩
    | none =>
      rw [around?_child_of_none hp hc]
      apply ih hm
      rintro rfl
      rw [ho] at hp
      cases hp

/-- What a declaration inside a function contains does not count for the function. -/
theorem notMem_decisions_of_mem_subtree {f : Place} (ho : opening? g src q = some o)
    (hq : q ∈ f.subtree) (hne : q ≠ f) (hb : b ∈ q.subtree) : b ∉ decisions g src root f := by
  intro h
  obtain ⟨-, hd, ha⟩ := mem_decisions.1 h
  by_cases he : b = q
  · rw [he, isDecision_of_some ho] at hd
    cases hd
  · obtain ⟨r, hr, har⟩ := around?_mem_subtree ho hb he
    rw [ha] at har
    cases har
    have hfq := Place.mem_lineage_of_mem_subtree hq
    have hqf := Place.mem_lineage_of_mem_subtree hr
    apply hne
    apply Place.eq_of_mem_lineage q.self_mem_lineage hfq
    have := Place.depth_le_of_mem_lineage hfq
    have := Place.depth_le_of_mem_lineage hqf
    omega

/-- What a function without a name contains counts for the function around it. -/
theorem mem_decisions_of_mem_interior {f : Place} (hq : q ∈ (Place.root root).subtree)
    (ho : opening? g src q = none) (ha : (around? g src q).map Prod.fst = some f)
    (hb : b ∈ interior g src q) (hd : isDecision g src b = true) :
    b ∈ decisions g src root f := by
  have hregion : b ∈ region g src q := by
    rw [region_of_none ho]
    exact List.mem_cons_of_mem q hb
  refine mem_decisions.2 ⟨Place.subtree_trans hq ((region_sublist q).subset hregion), hd, ?_⟩
  rw [around?_of_mem_region hregion, ha]

/-- The functions that a file declares are those of its tree, and each has the complexity and the
nesting of the decisions directly in it. Those in a function or class inside it are not among
them, those in a function without a name are. -/
theorem functions_scored (withOutline : Bool)
    (hsize : (Place.root root).subtree.length < 2 ^ 32)
    (hfatal : isFatal src root (run g src root).errorBytes = false) :
    (∃ fs, List.Forall₂ (fun d f => Scored g src root f d)
        (allFunctions (extract g src root withOutline).declarations) fs ∧
        fs.Perm (functionNodes g src root)) ∧
      ∀ f ∈ functionNodes g src root,
        (∀ q ∈ f.1.subtree, q ≠ f.1 → (opening? g src q).isSome →
          ∀ b ∈ q.subtree, b ∉ decisions g src root f.1) ∧
        ∀ q ∈ (Place.root root).subtree, roleOf g src q = .function → g.function src q = none →
          (around? g src q).map Prod.fst = some f.1 →
          ∀ b ∈ interior g src q, isDecision g src b = true → b ∈ decisions g src root f.1 := by
  constructor
  · apply List.perm_comp_forall₂ (allFunctions_extract withOutline hfatal)
    rw [List.forall₂_map_left_iff, List.forall₂_same]
    intro f hf
    exact scored_declOf hf hsize
  · intro f hf
    constructor
    · intro q hq hne ho b hb
      obtain ⟨o, ho⟩ := Option.isSome_iff_exists.1 ho
      exact notMem_decisions_of_mem_subtree ho hq hne hb
    · intro q hq hr hn ha b hb hd
      exact mem_decisions_of_mem_interior hq (by simp [opening?, hr, hn]) ha hb hd

/-! A function with a loop in a condition, and a function inside it. -/

def nestedSource : Source :=
  .ofText "def f():\n if a:\n  while a: x\n def g():\n  if a: x\n"

def nestedTree : Tree :=
  sampleNode "module" 0 49 none
    [sampleNode "function_definition" 0 48 none
      [sampleNode "identifier" 4 5 (some "name") [],
       sampleNode "block" 10 48 (some "body")
        [sampleNode "if_statement" 10 28 none
          [sampleNode "while_statement" 18 28 none []],
         sampleNode "function_definition" 30 48 none
          [sampleNode "identifier" 34 35 (some "name") [],
           sampleNode "block" 41 48 (some "body")
            [sampleNode "if_statement" 41 48 none []]]]]]

theorem functions_scored_sample :
    (Place.root nestedTree).subtree.length < 2 ^ 32 ∧
      isFatal nestedSource nestedTree
        (run Python.grammar nestedSource nestedTree).errorBytes = false ∧
      (∃ fs, List.Forall₂ (fun d f => Scored Python.grammar nestedSource nestedTree f d)
        (allFunctions (extract Python.grammar nestedSource nestedTree false).declarations) fs ∧
        fs.Perm (functionNodes Python.grammar nestedSource nestedTree)) ∧
      (functionNodes Python.grammar nestedSource nestedTree).map (fun f =>
        let d := declOf Python.grammar nestedSource f
        (d.name, d.cyclomaticComplexity, d.nestingDepth)) = [("f", 3, 2), ("g", 2, 1)] :=
  have hsize : (Place.root nestedTree).subtree.length < 2 ^ 32 := by decide +kernel
  have hfatal : isFatal nestedSource nestedTree
      (run Python.grammar nestedSource nestedTree).errorBytes = false := by decide +kernel
  ⟨hsize, hfatal, (functions_scored false hsize hfatal).1, by decide +kernel⟩

end Walk

end CodeSurvey
