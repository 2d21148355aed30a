import CodeSurvey.Proofs.Cursor
import CodeSurvey.Proofs.Scopes
import Mathlib.Algebra.Order.BigOperators.Group.List
import Mathlib.Algebra.Order.Field.Rat
import Mathlib.Tactic.Linarith

/-! The scores of a file fit into words of 32 bits, since no node of its tree is counted twice, and
the averages of a file lie between its scores. -/
namespace CodeSurvey

namespace Walk

variable {g : Grammar} {src : Source} {root : Tree} {s : State} {p b : Place}
  {f f' : FunctionFrame} {n : Nat}

/-! ### Each node counts for one function -/

theorem map_fst_functionNodes :
    (functionNodes g src root).map Prod.fst =
      (Place.root root).subtree.filter fun p => (functionNode? g src p).isSome := by
  rw [functionNodes]
  induction (Place.root root).subtree with
  | nil => rfl
  | cons p ps ih =>
    cases hf : functionNode? g src p with
    | none => simpa [hf] using ih
    | some f =>
      have hfst : f.1 = p := (functionNode?_eq_some.1 hf).1
      simpa [hf, hfst] using ih

theorem map_fst_functionNodes_nodup : ((functionNodes g src root).map Prod.fst).Nodup := by
  rw [map_fst_functionNodes]
  exact (Place.subtree_nodup _).filter _

variable (g src root) in
/-- The nodes that a function is scored for: its own and its decisions. -/
noncomputable def chargedTo (f : Place × FunctionHead) : List Place :=
  f.1 :: decisions g src root f.1

theorem chargedTo_nodup {f : Place × FunctionHead} (hf : f ∈ functionNodes g src root) :
    (chargedTo g src root f).Nodup := by
  refine List.nodup_cons.2 ⟨?_, (Place.subtree_nodup _).filter _⟩
  intro h
  have hd := (mem_decisions.1 h).2.1
  rw [isDecision_of_some (mem_functionNodes.1 hf).2] at hd
  cases hd

/-- No node is charged to two functions: a function is no decision, and a decision has one nearest
opening around it. -/
theorem chargedTo_disjoint {f f' : Place × FunctionHead} (hf : f ∈ functionNodes g src root)
    (hf' : f' ∈ functionNodes g src root) (hne : f.1 ≠ f'.1) :
    (chargedTo g src root f).Disjoint (chargedTo g src root f') := by
  have hopen : ∀ f ∈ functionNodes g src root, isDecision g src f.1 = false :=
    fun f hf => isDecision_of_some (mem_functionNodes.1 hf).2
  intro b hb hb'
  -- The node is one of the functions itself or a decision, on either side.
  rcases List.mem_cons.1 hb with rfl | hb <;> rcases List.mem_cons.1 hb' with he | hb'
  · exact hne he
  · have hd := (mem_decisions.1 hb').2.1
    rw [hopen f hf] at hd
    cases hd
  · have hd := (mem_decisions.1 hb).2.1
    rw [he, hopen f' hf'] at hd
    cases hd
  · have ha := (mem_decisions.1 hb).2.2
    rw [(mem_decisions.1 hb').2.2] at ha
    exact hne (Option.some.inj ha).symm

theorem charged_nodup : ((functionNodes g src root).flatMap (chargedTo g src root)).Nodup := by
  rw [List.nodup_flatMap]
  refine ⟨fun f hf => chargedTo_nodup hf, ?_⟩
  have hfst : (functionNodes g src root).Pairwise fun f f' => f.1 ≠ f'.1 :=
    List.pairwise_map.1 map_fst_functionNodes_nodup
  exact hfst.imp_of_mem fun hf hf' hne => chargedTo_disjoint hf hf' hne

theorem charged_subset :
    (functionNodes g src root).flatMap (chargedTo g src root) ⊆ (Place.root root).subtree := by
  intro b hb
  obtain ⟨f, hf, hb⟩ := List.mem_flatMap.1 hb
  rcases List.mem_cons.1 hb with rfl | hb
  · exact (mem_functionNodes.1 hf).1
  · exact (mem_decisions.1 hb).1

/-- The complexity of a function, as a number. -/
def complexityOf (d : FunctionDecl) : Nat := d.cyclomaticComplexity.toNat

theorem complexityOf_declOf {f : Place × FunctionHead} (hf : f ∈ functionNodes g src root)
    (hsize : (Place.root root).subtree.length < 2 ^ 32) :
    complexityOf (declOf g src f) = (chargedTo g src root f).length := by
  rw [complexityOf, (scored_declOf hf hsize).complexity, chargedTo, List.length_cons]
  omega

theorem sum_complexityOf_le (withOutline : Bool)
    (hsize : (Place.root root).subtree.length < 2 ^ 32)
    (hfatal : isFatal src root (run g src root).errorBytes = false) :
    ((allFunctions (extract g src root withOutline).declarations).map complexityOf).sum ≤
      (Place.root root).subtree.length := by
  have hlengths : ((functionNodes g src root).map (declOf g src)).map complexityOf =
      (functionNodes g src root).map fun f => (chargedTo g src root f).length := by
    rw [List.map_map]
    exact List.map_congr_left fun f hf => complexityOf_declOf hf hsize
  calc ((allFunctions (extract g src root withOutline).declarations).map complexityOf).sum
      = (((functionNodes g src root).map (declOf g src)).map complexityOf).sum :=
        ((allFunctions_extract withOutline hfatal).map _).sum_eq
    _ = ((functionNodes g src root).flatMap (chargedTo g src root)).length := by
        rw [hlengths, List.length_flatMap]
    _ ≤ (Place.root root).subtree.length :=
        (List.subperm_of_subset charged_nodup charged_subset).length_le

/-! ### The levels of a function -/

/-- Only decisions of a function lie around its decisions. -/
theorem nestingAt_le (f b : Place) :
    nestingAt g src root f b ≤ (decisions g src root f).length := by
  classical
  rw [nestingAt, List.countP_eq_length_filter]
  refine (List.subperm_of_subset (b.lineage_nodup.filter _) ?_).length_le
  intro q hq
  have hq := (List.mem_filter.1 hq).2
  rw [decide_eq_true_eq] at hq
  exact hq.1

theorem nesting_lt_complexityOf {f : Place × FunctionHead} (hf : f ∈ functionNodes g src root)
    (hsize : (Place.root root).subtree.length < 2 ^ 32) :
    (declOf g src f).nestingDepth.toNat < complexityOf (declOf g src f) := by
  have hscored := scored_declOf hf hsize
  have hle : greatest ((decisions g src root f.1).map (nestingAt g src root f.1)) ≤
      (decisions g src root f.1).length := by
    rw [greatest_le_iff, List.forall_mem_map]
    intro b _
    exact nestingAt_le f.1 b
  rw [complexityOf, hscored.complexity, hscored.nesting]
  omega

/-! ### The counters of a walk -/

/-- The next decision and the end of the body are counted without overflow. -/
structure Exact (f : FunctionFrame) : Prop where
  branches (nests : Bool) : (f.branch nests).branches.toNat = f.branches.toNat + 1
  depth : (f.branch true).depth.toNat = f.depth.toNat + 1
  complexity : complexityOf f.finished = 1 + f.branches.toNat

/-- The counters of all functions around the current node are below some number. -/
def CountsBelow (n : Nat) (s : State) : Prop :=
  ∀ f, .function f ∈ s.frames → f.branches.toNat < n ∧ f.depth.toNat < n

theorem mem_modifyHead {k : Frame → Frame} {x : Frame} {xs : List Frame}
    (h : x ∈ xs.modifyHead k) : x ∈ xs ∨ ∃ y ∈ xs, x = k y := by
  cases xs with
  | nil => cases h
  | cons y ys =>
    rcases List.mem_cons.1 h with rfl | h
    · exact .inr ⟨y, List.mem_cons_self, rfl⟩
    · exact .inl (List.mem_cons_of_mem y h)

/-- Where the functions around come from as a node is entered. -/
theorem function_mem_enter (h : .function f ∈ (enter g src s p).2.frames) :
    .function f ∈ s.frames ∨ (f.branches = 0 ∧ f.depth = 0) ∨
      ∃ f' nests, .function f' ∈ s.frames ∧ f = f'.branch nests := by
  cases ho : opening? g src p with
  | some o =>
    rw [(enter_of_some ho).2.2.1] at h
    rcases List.mem_cons.1 h with he | h
    · cases o with
      | function head =>
        cases he
        exact .inr (.inl ⟨rfl, rfl⟩)
      | classLike head => cases he
      | impl head => cases he
    · exact .inl h
  | none =>
    rw [(enter_of_none ho).frames] at h
    rcases mem_modifyHead h with h | ⟨y, hy, he⟩
    · exact .inl h
    · cases y with
      | classLike c => cases he
      | impl i => cases he
      | function f' =>
        rw [onEntry] at he
        split at he
        · next nests _ =>
          cases he
          exact .inr (.inr ⟨f', nests, hy, rfl⟩)
        · cases he
          exact .inl hy

theorem function_mem_closeFunction (h : .function f ∈ (s.closeFunction f').frames) :
    .function f ∈ s.frames := by
  rw [State.closeFunction] at h
  split at h
  · exact h
  · next c rest _ hs =>
    rcases List.mem_cons.1 h with he | h
    · cases he
    · rw [hs]
      exact List.mem_cons_of_mem _ h
  · exact h

theorem function_mem_leaveFunction (h : .function f ∈ (leaveFunction s).frames) :
    .function f ∈ s.frames := by
  rw [leaveFunction] at h
  split at h
  · next f' rest hs =>
    rw [hs]
    exact List.mem_cons_of_mem _ (function_mem_closeFunction h)
  · next x rest _ hs =>
    rw [hs]
    exact List.mem_cons_of_mem _ h
  · exact h

theorem function_mem_leaveClass (h : .function f ∈ (leaveClass g s).frames) :
    .function f ∈ s.frames := by
  rw [leaveClass] at h
  split at h
  · next c rest hs =>
    rw [hs]
    exact List.mem_cons_of_mem _ h
  · next x rest _ hs =>
    rw [hs]
    exact List.mem_cons_of_mem _ h
  · exact h

theorem depth_ascend_le (f : FunctionFrame) : f.ascend.depth.toNat ≤ f.depth.toNat := by
  by_cases h : f.depth = 0
  · simp [FunctionFrame.ascend, h]
  · have hpos : (1 : UInt32) ≤ f.depth := by
      rw [UInt32.le_iff_toNat_le]
      have hne : f.depth.toNat ≠ 0 := fun h0 => h (UInt32.toNat_inj.1 h0)
      simp only [UInt32.toNat_one]
      omega
    simp only [FunctionFrame.ascend, beq_iff_eq, h, if_false]
    rw [UInt32.toNat_sub_of_le _ _ hpos]
    omega

theorem function_mem_leaveBranch (h : .function f ∈ (leaveBranch s).frames) :
    .function f ∈ s.frames ∨ ∃ f', .function f' ∈ s.frames ∧ f = f'.ascend := by
  rw [leaveBranch] at h
  split at h
  · next f' rest hs =>
    rw [hs]
    rcases List.mem_cons.1 h with he | h
    · cases he
      exact .inr ⟨f', List.mem_cons_self, rfl⟩
    · exact .inl (List.mem_cons_of_mem _ h)
  · exact .inl h

/-- No counter grows as a node is left. -/
theorem function_mem_leave (h : .function f ∈ (leave g s).frames) :
    ∃ f', .function f' ∈ s.frames ∧ f.branches = f'.branches ∧
      f.depth.toNat ≤ f'.depth.toNat := by
  have hkept : .function f ∈ s.frames → ∃ f', .function f' ∈ s.frames ∧
      f.branches = f'.branches ∧ f.depth.toNat ≤ f'.depth.toNat :=
    fun h => ⟨f, h, rfl, Nat.le_refl _⟩
  rw [leave] at h
  split at h
  · exact hkept h
  · next exit exits _ =>
    cases exit with
    | function => exact hkept (function_mem_leaveFunction (s := { s with exits }) h)
    | classLike => exact hkept (function_mem_leaveClass (s := { s with exits }) h)
    | impl => exact hkept (List.mem_of_mem_tail h)
    | error => exact hkept h
    | nothing => exact hkept h
    | branch nested =>
      cases nested with
      | false => exact hkept h
      | true =>
        rcases function_mem_leaveBranch h with hf | ⟨f', hf', rfl⟩
        · exact hkept hf
        · exact ⟨f', hf', rfl, depth_ascend_le f'⟩

theorem CountsBelow.enter (h : CountsBelow n s) (hn : n + 1 < 2 ^ 32) :
    CountsBelow (n + 1) (step g src s (.enter p)) := by
  intro f hf
  rcases function_mem_enter hf with hf | ⟨hb, hd⟩ | ⟨f', nests, hf', rfl⟩
  · obtain ⟨hb, hd⟩ := h f hf
    omega
  · simp [hb, hd]
  · obtain ⟨hb, hd⟩ := h f' hf'
    rw [branches_branch f' nests (by omega), depth_branch f' nests (by omega)]
    have := nests.toNat_le
    omega

theorem CountsBelow.leave (h : CountsBelow n s) : CountsBelow n (step g src s (.leave p)) := by
  intro f hf
  obtain ⟨f', hf', hb, hd⟩ := function_mem_leave hf
  have := h f' hf'
  rw [hb]
  omega

/-- The counters stay below the number of nodes that have been entered. -/
theorem CountsBelow.foldl (vs : List Visit) (h : CountsBelow n s)
    (hn : n + (vs.filterMap Visit.entered?).length < 2 ^ 32) :
    CountsBelow (n + (vs.filterMap Visit.entered?).length) (vs.foldl (step g src) s) := by
  -- The bound rises with each node that is entered, and no visit lets a counter pass it.
  induction vs generalizing n s with
  | nil => exact h
  | cons v vs ih =>
    cases v with
    | leave p => exact ih h.leave hn
    | enter p =>
      simp only [List.filterMap_cons, Visit.entered?, List.length_cons] at hn ⊢
      have henter : CountsBelow (n + 1) (step g src s (.enter p)) := h.enter (by omega)
      have hrest := ih henter (by omega)
      rw [Nat.add_assoc, Nat.add_comm 1] at hrest
      exact hrest

theorem exact_of_lt (hb : f.branches.toNat + 1 < 2 ^ 32) (hd : f.depth.toNat + 1 < 2 ^ 32) :
    Exact f where
  branches nests := branches_branch f nests hb
  depth := depth_branch f true hd
  complexity := by
    rw [complexityOf, FunctionFrame.finished, UInt32.toNat_add, UInt32.toNat_one,
      Nat.mod_eq_of_lt (by omega)]

/-- At no point of a walk is a counter about to overflow. -/
theorem exact_of_prefix {before : List Visit}
    (hsize : (Place.root root).subtree.length < 2 ^ 32) (hb : before <+: tour .root root)
    (hf : .function f ∈ (before.foldl (step g src) {}).frames) : Exact f := by
  have hlen : (before.filterMap Visit.entered?).length ≤ (Place.root root).subtree.length := by
    rw [← Place.filterMap_entered_visits, ← Place.tour_root]
    exact (hb.sublist.filterMap _).length_le
  have hstart : CountsBelow 0 {} := by
    intro f hf
    cases hf
  obtain ⟨hbranches, hdepth⟩ := hstart.foldl before (by omega) f hf
  exact exact_of_lt (by omega) (by omega)

end Walk

/-! ### Sums and averages -/

/-- A quotient as a number. Nothing out of nothing is zero. -/
def Ratio.toRat (r : Ratio) : ℚ := r.num / r.den

namespace Metrics

open Walk (complexityOf)

variable {fs : List FunctionDecl} {ds : List Declaration} {n : Nat}

theorem toNat_totalComplexity (h : (fs.map complexityOf).sum < 2 ^ 32) :
    (totalComplexity fs).toNat = (fs.map complexityOf).sum := by
  induction fs with
  | nil => rfl
  | cons f fs ih =>
    rw [List.map_cons, List.sum_cons] at h ⊢
    have hrest : (totalComplexity fs).toNat = (fs.map complexityOf).sum := ih (by omega)
    have hcons : totalComplexity (f :: fs) = f.cyclomaticComplexity + totalComplexity fs := rfl
    rw [hcons, UInt32.toNat_add, hrest]
    exact Nat.mod_eq_of_lt h

theorem toNat_greatest_le_iff (ns : List UInt32) :
    (greatest ns).toNat ≤ n ↔ ∀ x ∈ ns, x.toNat ≤ n := by
  suffices h : ∀ a : UInt32, (ns.foldl max a).toNat ≤ n ↔ a.toNat ≤ n ∧ ∀ x ∈ ns, x.toNat ≤ n by
    simpa [greatest] using h 0
  induction ns with
  | nil => simp
  | cons x ns ih =>
    intro a
    rw [List.foldl_cons, ih, toNat_max_le_iff, List.forall_mem_cons, and_assoc]

/-- What a file says of its scores. -/
structure Consistent (m : Metrics) : Prop where
  average : 0 < m.functionCount →
    1 ≤ m.complexity.toRat ∧ m.complexity.toRat ≤ m.maxComplexity.toNat
  empty : m.functionCount = 0 → m.complexity.toRat = 0 ∧ m.maxComplexity = 0
  nesting : 0 < m.functionCount → m.maxNesting < m.maxComplexity
  documented : m.documented.num ≤ m.functionCount + m.classCount
  coverage : 0 ≤ m.documented.toRat * 100 ∧ m.documented.toRat * 100 ≤ 100

theorem documentedCount_le (ds : List Declaration) :
    documentedCount ds ≤ (allFunctions ds).length + (allClasses ds).length :=
  Nat.add_le_add List.countP_le_length List.countP_le_length

theorem complexityOf_le_greatest {f : FunctionDecl} (hf : f ∈ fs) :
    complexityOf f ≤ (greatest (fs.map FunctionDecl.cyclomaticComplexity)).toNat :=
  (toNat_greatest_le_iff _).1 (Nat.le_refl _) _ (List.mem_map_of_mem hf)

/-- An average of numbers from one on lies between one and the greatest of them. -/
theorem average_bounds (hfs : fs ≠ []) (hpos : ∀ f ∈ fs, 1 ≤ complexityOf f) :
    1 ≤ Ratio.toRat ⟨(fs.map complexityOf).sum, fs.length⟩ ∧
      Ratio.toRat ⟨(fs.map complexityOf).sum, fs.length⟩ ≤
        (greatest (fs.map FunctionDecl.cyclomaticComplexity)).toNat := by
  have hlen : (0 : ℚ) < fs.length := Nat.cast_pos.2 (List.length_pos_iff.2 hfs)
  have hlow : fs.length ≤ (fs.map complexityOf).sum := by
    have h := List.length_le_sum_of_one_le (fs.map complexityOf)
      (List.forall_mem_map.2 hpos)
    rwa [List.length_map] at h
  have hhigh : (fs.map complexityOf).sum ≤
      (greatest (fs.map FunctionDecl.cyclomaticComplexity)).toNat * fs.length := by
    have h := List.sum_le_card_nsmul (fs.map complexityOf) _
      (List.forall_mem_map.2 fun f hf => complexityOf_le_greatest hf)
    rwa [List.length_map, nsmul_eq_mul, Nat.cast_id, Nat.mul_comm] at h
  constructor
  · rw [Ratio.toRat, one_le_div₀ hlen]
    exact Nat.cast_le.2 hlow
  · rw [Ratio.toRat, div_le_iff₀ hlen]
    exact_mod_cast hhigh

theorem greatest_nesting_lt (hfs : fs ≠ [])
    (hnesting : ∀ f ∈ fs, f.nestingDepth.toNat < complexityOf f) :
    greatest (fs.map FunctionDecl.nestingDepth) <
      greatest (fs.map FunctionDecl.cyclomaticComplexity) := by
  have hlt : ∀ f ∈ fs, f.nestingDepth.toNat <
      (greatest (fs.map FunctionDecl.cyclomaticComplexity)).toNat := fun f hf =>
    Nat.lt_of_lt_of_le (hnesting f hf) (complexityOf_le_greatest hf)
  obtain ⟨f, hf⟩ := List.exists_mem_of_ne_nil fs hfs
  have hpos := hlt f hf
  have hle : (greatest (fs.map FunctionDecl.nestingDepth)).toNat ≤
      (greatest (fs.map FunctionDecl.cyclomaticComplexity)).toNat - 1 := by
    rw [toNat_greatest_le_iff, List.forall_mem_map]
    intro f hf
    have := hlt f hf
    omega
  rw [UInt32.lt_iff_toNat_lt]
  omega

theorem coverage_bounds {num den : Nat} (h : num ≤ den) :
    0 ≤ Ratio.toRat ⟨num, den⟩ * 100 ∧ Ratio.toRat ⟨num, den⟩ * 100 ≤ 100 := by
  have hlow : 0 ≤ Ratio.toRat ⟨num, den⟩ := div_nonneg (Nat.cast_nonneg _) (Nat.cast_nonneg _)
  have hhigh : Ratio.toRat ⟨num, den⟩ ≤ 1 :=
    div_le_one_of_le₀ (Nat.cast_le.2 h) (Nat.cast_nonneg _)
  constructor
  · exact mul_nonneg hlow (by norm_num)
  · linarith

/-- Scores that fit into words are averaged without overflow. -/
theorem consistent_compute (text : String) (style : CommentStyle) (tokens : Option Tally)
    (hsum : ((allFunctions ds).map complexityOf).sum < 2 ^ 32)
    (hnesting : ∀ f ∈ allFunctions ds, f.nestingDepth.toNat < complexityOf f) :
    Consistent (compute ds text style tokens) := by
  have hpos : ∀ f ∈ allFunctions ds, 1 ≤ complexityOf f :=
    fun f hf => Nat.lt_of_le_of_lt (Nat.zero_le _) (hnesting f hf)
  have haverage : (compute ds text style tokens).complexity =
      ⟨((allFunctions ds).map complexityOf).sum, (allFunctions ds).length⟩ := by
    rw [compute, toNat_totalComplexity hsum]
  exact {
    average := by
      intro hcount
      rw [haverage]
      exact average_bounds (List.length_pos_iff.1 hcount) hpos
    empty := by
      intro hcount
      have hnil : allFunctions ds = [] := List.length_eq_zero_iff.1 hcount
      rw [haverage]
      simp [compute, hnil, Ratio.toRat, greatest]
    nesting := fun hcount => greatest_nesting_lt (List.length_pos_iff.1 hcount) hnesting
    documented := documentedCount_le ds
    coverage := coverage_bounds (documentedCount_le ds) }

end Metrics

namespace Walk

variable {g : Grammar} {src : Source} {root : Tree}

/-- What a record says of the scores of a file, in terms of the nodes of its tree. -/
structure Bounded (nodes : Nat) (r : FileRecord) : Prop where
  total : (r.functions.map complexityOf).sum ≤ nodes
  /-- No sum on the way to the total overflows. -/
  sums : ∀ part, part.Sublist r.functions →
    (Metrics.totalComplexity part).toNat = (part.map complexityOf).sum
  metrics : r.metrics.Consistent

theorem bounded_build (language : Language) (path text : String) (style : CommentStyle)
    (options : ParseOptions) (withOutline : Bool)
    (hsize : (Place.root root).subtree.length < 2 ^ 32)
    (hfatal : isFatal src root (run g src root).errorBytes = false) :
    Bounded (Place.root root).subtree.length
      (.build language path text (extract g src root withOutline) style options) := by
  have htotal := sum_complexityOf_le withOutline hsize hfatal
  exact {
    total := htotal
    sums := by
      intro part hpart
      apply Metrics.toNat_totalComplexity
      have hpart : (part.map complexityOf).sum ≤
          ((allFunctions (extract g src root withOutline).declarations).map complexityOf).sum :=
        (hpart.map complexityOf).sum_le_sum fun _ _ => Nat.zero_le _
      omega
    metrics := by
      refine Metrics.consistent_compute _ _ _ (by omega) ?_
      intro d hd
      rw [(allFunctions_extract withOutline hfatal).mem_iff, List.mem_map] at hd
      obtain ⟨f, hf, rfl⟩ := hd
      exact nesting_lt_complexityOf hf hsize }

/-- In a file with less nodes than a word can count no score overflows, neither while the tree is
walked nor while the scores are summed up, and the averages lie between the scores. -/
theorem scores_bounded (g : Grammar) (text path : String) (root : Tree) (options : ParseOptions)
    (hsize : (Place.root root).subtree.length < 2 ^ 32) :
    (∀ before f, before <+: tour .root root →
      .function f ∈ (before.foldl (step g (.ofText text)) {}).frames → Exact f) ∧
    (isFatal (.ofText text) root (run g (.ofText text) root).errorBytes = false →
      ∃ r, Parser.ofTree g (some root) text path options = .record r ∧
        Bounded (Place.root root).subtree.length r) := by
  refine ⟨fun before f hb hf => exact_of_prefix hsize hb hf, ?_⟩
  intro hfatal
  exact ⟨_, rfl, bounded_build _ _ _ _ _ _ hsize hfatal⟩

theorem scores_bounded_sample :
    (Place.root nestedTree).subtree.length < 2 ^ 32 ∧
      isFatal nestedSource nestedTree
        (run Python.grammar nestedSource nestedTree).errorBytes = false ∧
      ∃ r, Parser.ofTree Python.grammar (some nestedTree) nestedSource.text "a.py" {} =
          .record r ∧
        Bounded (Place.root nestedTree).subtree.length r ∧ r.metrics.functionCount = 2 ∧
        r.metrics.maxNesting < r.metrics.maxComplexity := by
  have hsize : (Place.root nestedTree).subtree.length < 2 ^ 32 := by decide +kernel
  have hfatal : isFatal nestedSource nestedTree
      (run Python.grammar nestedSource nestedTree).errorBytes = false := by decide +kernel
  obtain ⟨-, hbounded⟩ :=
    scores_bounded Python.grammar nestedSource.text "a.py" nestedTree {} hsize
  obtain ⟨r, hr, hb⟩ := hbounded hfatal
  have hcount : r.metrics.functionCount = 2 := by
    cases hr
    have hlen := (allFunctions_extract (g := Python.grammar) false hfatal).length_eq
    rw [List.length_map] at hlen
    exact hlen.trans (by decide +kernel)
  exact ⟨hsize, hfatal, r, hr, hb, hcount, hb.metrics.nesting (by omega)⟩

end Walk

end CodeSurvey
