import CodeSurvey.Extraction
import CodeSurvey.Grammar.Python
import CodeSurvey.Proofs.Tallies
import Mathlib.Algebra.BigOperators.Group.List.Basic
import Mathlib.Algebra.GroupWithZero.Nat
import Mathlib.Data.List.Induction

/-! The faults of a tree: which of them are reported, how much of the text lies in errors, and when
nothing but the faults is kept. -/
namespace CodeSurvey

/-! ### Bytes in ranges -/

theorem countP_drop_take {α : Type} (q : α → Bool) (l : List α) (a b : Nat) :
    ((l.drop a).take (b - a)).countP q =
      l.zipIdx.countP fun x => q x.1 && (decide (a ≤ x.2) && decide (x.2 < b)) := by
  induction l using List.reverseRecOn with
  | nil => simp
  | append_singleton l x ih =>
    rw [List.drop_append, List.take_append, List.countP_append, List.zipIdx_append,
      List.countP_append, ih, List.length_drop]
    congr 1
    by_cases ha : a ≤ l.length
    · have hdrop : a - l.length = 0 := by omega
      by_cases hb : l.length < b
      · obtain ⟨n, hn⟩ : ∃ n, b - a - (l.length - a) = n + 1 := ⟨b - l.length - 1, by omega⟩
        simp [hdrop, hn, ha, hb]
      · have htake : b - a - (l.length - a) = 0 := by omega
        simp [htake, hb]
    · obtain ⟨n, hn⟩ : ∃ n, a - l.length = n + 1 := ⟨a - l.length - 1, by omega⟩
      simp [hn, ha]

theorem countP_or_of_disjoint {α : Type} (xs : List α) {p q : α → Bool}
    (h : ∀ x, p x = true → q x = false) :
    xs.countP (fun x => p x || q x) = xs.countP p + xs.countP q := by
  induction xs with
  | nil => rfl
  | cons x xs ih =>
    simp only [List.countP_cons, ih]
    cases hp : p x with
    | true => simp [h x hp]; omega
    | false => simp; omega

/-- Where things lie in at most one of some ranges each, they can be counted range by range. -/
theorem sum_countP_of_disjoint {α β : Type} (xs : List α) (covers : β → α → Bool) {ps : List β}
    (h : ps.Pairwise fun p q => ∀ x, covers p x = true → covers q x = false) :
    (ps.map fun p => xs.countP (covers p)).sum = xs.countP fun x => ps.any (covers · x) := by
  induction ps with
  | nil => simp
  | cons p ps ih =>
    obtain ⟨hp, h⟩ := List.pairwise_cons.1 h
    rw [List.map_cons, List.sum_cons, ih h, ← countP_or_of_disjoint]
    · rfl
    · intro x hx
      simp only [List.any_eq_false]
      intro q hq
      simp [hp q hq x hx]

namespace Source

variable (src : Source)

/-- The offsets of the bytes that are not blank. -/
def written : List Nat :=
  (src.bytes.data.toList.zipIdx.filter fun x => !isAsciiSpace x.1).map Prod.snd

theorem significant_eq (a b : Nat) :
    src.significant a b = src.written.countP fun i => decide (a ≤ i) && decide (i < b) := by
  rw [significant, written, ByteArray.data_extract, Array.toList_extract, List.countP_map,
    List.countP_filter, List.extract_eq_take_drop, countP_drop_take]
  apply List.countP_congr
  intro x _
  simp only [Function.comp, Bool.and_eq_true, decide_eq_true_eq]
  tauto

theorem significant_all : src.significant 0 src.bytes.size = src.written.length := by
  rw [significant_eq, List.countP_eq_length]
  intro i hi
  obtain ⟨x, hx, rfl⟩ := List.mem_map.1 hi
  have := List.snd_lt_of_mem_zipIdx (List.mem_filter.1 hx).1
  simpa using this

end Source

/-! ### Errors in a tree -/

namespace Place

variable {p q : Place}

/-- The faults that are not inside an error. -/
def outerFaults (p : Place) : List Place :=
  p.subtree.filter fun q => q.tree.isFault && q.errorsAbove == 0

/-- The errors that are not inside another one. -/
def outerErrors (p : Place) : List Place :=
  p.subtree.filter fun q => q.tree.isError && q.errorsAbove == 0

def covers (p : Place) (i : Nat) : Bool := decide (p.tree.start ≤ i) && decide (i < p.tree.stop)

/-- Whether a byte lies in an error at or below a node. -/
def inError (p : Place) (i : Nat) : Bool := p.subtree.any fun q => q.tree.isError && q.covers i

theorem outerErrors_of_error (he : p.tree.isError = true) (h0 : p.errorsAbove = 0) :
    p.outerErrors = [p] := by
  have hbelow : (p.children.flatMap subtree).filter
      (fun q => q.tree.isError && q.errorsAbove == 0) = [] := by
    rw [List.filter_eq_nil_iff]
    intro q hq
    obtain ⟨c, hc, hq⟩ := List.mem_flatMap.1 hq
    have hpos := errorsAbove_pos he hc hq
    simp only [Bool.and_eq_true, beq_iff_eq]
    omega
  rw [outerErrors, subtree_eq, List.filter_cons, hbelow]
  simp [he, h0]

theorem outerErrors_of_not_error (he : p.tree.isError = false) :
    p.outerErrors = p.children.flatMap outerErrors := by
  rw [outerErrors, subtree_eq, List.filter_cons_of_neg (by simp [he]), List.filter_flatMap]
  rfl

/-- Errors that are not inside one another lie one after another. -/
theorem pairwise_outerErrors (hn : p.Nested) (ho : p.InOrder) (h0 : p.errorsAbove = 0) :
    p.outerErrors.Pairwise fun a b => a.tree.stop ≤ b.tree.start := by
  induction p using children_induction with
  | h p ih =>
    cases he : p.tree.isError with
    | true =>
      rw [outerErrors_of_error he h0]
      exact List.pairwise_singleton _ _
    | false =>
      rw [outerErrors_of_not_error he, List.pairwise_flatMap]
      constructor
      · intro c hc
        have hcp := mem_subtree_of_child hc
        apply ih c hc (hn.of_mem_subtree hcp) (ho.of_mem_subtree hcp)
        exact (errorsAbove_child_of_not_error hc he).trans h0
      · refine (ho p p.self_mem_subtree).imp_of_mem ?_
        intro c d hc hd hcd a ha b hb
        have hc' := (hn.of_mem_subtree (mem_subtree_of_child hc)).within (List.mem_filter.1 ha).1
        have hd' := (hn.of_mem_subtree (mem_subtree_of_child hd)).within (List.mem_filter.1 hb).1
        omega

/-- What lies in an error lies in one that is not inside another. -/
theorem inError_eq (hn : p.Nested) (h0 : p.errorsAbove = 0) (i : Nat) :
    p.inError i = p.outerErrors.any (·.covers i) := by
  induction p using children_induction with
  | h p ih =>
    cases he : p.tree.isError with
    | true =>
      rw [outerErrors_of_error he h0, inError, List.any_cons, List.any_nil, Bool.or_false,
        Bool.eq_iff_iff, List.any_eq_true]
      constructor
      · rintro ⟨q, hq, hqi⟩
        have hwithin := hn.within hq
        simp only [covers, Bool.and_eq_true, decide_eq_true_eq] at hqi ⊢
        omega
      · intro hp
        exact ⟨p, p.self_mem_subtree, by simp [he, hp]⟩
    | false =>
      rw [outerErrors_of_not_error he, inError, subtree_eq, List.any_cons, he, Bool.false_and,
        Bool.false_or, List.any_flatMap, List.any_flatMap, Bool.eq_iff_iff, List.any_eq_true,
        List.any_eq_true]
      have hchild : ∀ c ∈ p.children, c.inError i = c.outerErrors.any (·.covers i) := by
        intro c hc
        apply ih c hc (hn.of_mem_subtree (mem_subtree_of_child hc))
        exact (errorsAbove_child_of_not_error hc he).trans h0
      constructor
      · rintro ⟨c, hc, h⟩
        exact ⟨c, hc, (hchild c hc).symm.trans h⟩
      · rintro ⟨c, hc, h⟩
        exact ⟨c, hc, (hchild c hc).trans h⟩

/-- A tree with a fault has one that is not inside an error. -/
theorem outerFaults_eq_nil (h0 : p.errorsAbove = 0) :
    p.outerFaults = [] ↔ ∀ q ∈ p.subtree, q.tree.isFault = false := by
  rw [outerFaults, List.filter_eq_nil_iff]
  constructor
  · intro h
    induction p using children_induction with
    | h p ih =>
      have hp : p.tree.isFault = false := by
        have := h p p.self_mem_subtree
        simpa [h0] using this
      intro q hq
      rcases mem_subtree.1 hq with rfl | ⟨c, hc, hq⟩
      · exact hp
      · apply ih c hc ?_ ?_ q hq
        · exact (errorsAbove_child_of_not_error hc (Tree.isError_eq_false hp)).trans h0
        · intro r hr
          exact h r (mem_subtree.2 (.inr ⟨c, hc, hr⟩))
  · intro h q hq
    simp [h q hq]

end Place

/-! ### Errors in a walk -/

namespace Walk

variable {g : Grammar} {src : Source} {root : Tree}

theorem errors_countToken (s : State) (t : Tree) :
    (s.countToken g src t).errors = s.errors ∧
      (s.countToken g src t).errorBytes = s.errorBytes := by
  rw [State.countToken]
  repeat' split
  all_goals exact ⟨rfl, rfl⟩

variable (g src) in
/-- A node is reported if it is a fault outside of all errors, as long as there is room. -/
theorem errors_add (t : Tallies) (p : Place) :
    (t.add g src p).errors.toList =
      if p.tree.isFault && p.errorsAbove == 0 && decide (t.errors.size < maxErrors) then
        t.errors.toList ++ [faultOf src p.tree]
      else t.errors.toList := by
  rw [Tallies.add]
  by_cases h0 : p.errorsAbove = 0
  · cases hf : p.tree.isFault with
    | true =>
      by_cases hm : t.errors.size < maxErrors <;>
        simp [h0, hm, State.reportFault, State.tallies, Tallies.state]
    | false => simp [h0, State.tallies, errors_countToken, Tallies.state]
  · simp [h0, Nat.pos_of_ne_zero h0]

theorem errorBytes_add (t : Tallies) (p : Place) :
    (t.add g src p).errorBytes =
      t.errorBytes + if p.tree.isError && p.errorsAbove == 0 then
        src.significant p.tree.start p.tree.stop else 0 := by
  rw [Tallies.add]
  by_cases h0 : p.errorsAbove = 0
  · cases hf : p.tree.isFault with
    | true =>
      cases he : p.tree.isError <;>
        simp [h0, he, State.reportFault, State.tallies, Tallies.state]
    | false =>
      simp [h0, Tree.isError_eq_false hf, State.tallies, errors_countToken, Tallies.state]
  · simp [h0, Nat.pos_of_ne_zero h0]

theorem errors_foldl (ps : List Place) (t : Tallies) (ht : t.errors.size ≤ maxErrors) :
    (ps.foldl (Tallies.add g src) t).errors.toList =
      (t.errors.toList ++ (ps.filter fun p => p.tree.isFault && p.errorsAbove == 0).map
        fun p => faultOf src p.tree).take maxErrors := by
  induction ps generalizing t with
  | nil => simp [List.take_of_length_le, ht]
  | cons p ps ih =>
    have hadd := errors_add g src t p
    rw [List.foldl_cons, List.filter_cons]
    cases hp : p.tree.isFault && p.errorsAbove == 0 with
    | false =>
      rw [hp, Bool.false_and, if_neg (by simp)] at hadd
      rw [ih _ (by rwa [← Array.length_toList, hadd, Array.length_toList]), hadd]
      simp
    | true =>
      by_cases hm : t.errors.size < maxErrors
      · rw [hp, Bool.true_and, if_pos (by simpa using hm)] at hadd
        have hsize : (t.add g src p).errors.size ≤ maxErrors := by
          rw [← Array.length_toList, hadd, List.length_append, Array.length_toList]
          exact hm
        rw [ih _ hsize, hadd]
        simp
      · rw [hp, Bool.true_and, if_neg (by simpa using hm)] at hadd
        have hfull : t.errors.toList.length = maxErrors := by
          rw [Array.length_toList]
          omega
        rw [ih _ (by rwa [← Array.length_toList, hadd, Array.length_toList]), hadd,
          List.take_left' hfull, List.take_left' hfull]

theorem errorBytes_foldl (ps : List Place) (t : Tallies) :
    (ps.foldl (Tallies.add g src) t).errorBytes =
      t.errorBytes + ((ps.filter fun p => p.tree.isError && p.errorsAbove == 0).map
        fun p => src.significant p.tree.start p.tree.stop).sum := by
  induction ps generalizing t with
  | nil => simp
  | cons p ps ih =>
    rw [List.foldl_cons, ih, errorBytes_add, List.filter_cons]
    split
    · rw [List.map_cons, List.sum_cons, Nat.add_assoc]
    · rw [Nat.add_zero]

theorem errors_run (g : Grammar) (src : Source) (root : Tree) :
    (run g src root).errors.toList =
      ((Place.root root).outerFaults.take maxErrors).map fun p => faultOf src p.tree := by
  have h : (run g src root).tallies.errors = (run g src root).errors := rfl
  rw [← h, tallies_run, errors_foldl _ _ (Nat.zero_le _), List.map_take]
  rfl

/-- No byte is counted twice. -/
theorem errorBytes_run (g : Grammar) (src : Source) (hn : (Place.root root).Nested)
    (ho : (Place.root root).InOrder) :
    (run g src root).errorBytes = src.written.countP (Place.root root).inError := by
  have h : (run g src root).tallies.errorBytes = (run g src root).errorBytes := rfl
  have hdisjoint : (Place.root root).outerErrors.Pairwise fun p q =>
      ∀ i, p.covers i = true → q.covers i = false := by
    refine (Place.pairwise_outerErrors hn ho rfl).imp ?_
    intro p q hpq i hi
    simp only [Place.covers, Bool.and_eq_true, decide_eq_true_eq] at hi
    simp only [Place.covers, Bool.and_eq_false_iff, decide_eq_false_iff_not]
    omega
  have hcovered : ∀ i, (Place.root root).inError i =
      (Place.root root).outerErrors.any (·.covers i) := Place.inError_eq hn rfl
  rw [← h, tallies_run, errorBytes_foldl, funext hcovered, ← sum_countP_of_disjoint _ _ hdisjoint]
  simp only [Source.significant_eq]
  exact Nat.zero_add _

/-! ### What is kept of a file -/

/-- Nothing but its faults is kept of a file that is an error as a whole, or half of whose bytes,
blanks aside, lie in errors. -/
def Irrecoverable (src : Source) (root : Tree) : Prop :=
  root.isError = true ∨ 0 < src.written.length ∧
    src.written.length ≤ 2 * src.written.countP (Place.root root).inError

theorem isFatal_iff (g : Grammar) (src : Source) (hn : (Place.root root).Nested)
    (ho : (Place.root root).InOrder) :
    isFatal src root (run g src root).errorBytes = true ↔ Irrecoverable src root := by
  rw [isFatal, Irrecoverable, errorBytes_run g src hn ho, Source.significant_all]
  simp only [Bool.or_eq_true, Bool.and_eq_true, decide_eq_true_eq, Nat.mul_comm]

theorem exists_fault_of_irrecoverable (h : Irrecoverable src root) :
    ∃ p ∈ (Place.root root).subtree, p.tree.isFault = true := by
  rcases h with h | ⟨hpos, hle⟩
  · exact ⟨.root root, Place.self_mem_subtree _, by simp [Tree.isFault, Place.tree, h]⟩
  · have hcount : 0 < src.written.countP (Place.root root).inError := by omega
    obtain ⟨i, -, hi⟩ := List.countP_pos_iff.1 hcount
    obtain ⟨p, hp, hpi⟩ := List.any_eq_true.1 hi
    rw [Bool.and_eq_true] at hpi
    exact ⟨p, hp, by simp [Tree.isFault, hpi.1]⟩

theorem errors_run_ne_nil (h : Irrecoverable src root) : (run g src root).errors.toList ≠ [] := by
  obtain ⟨p, hp, hf⟩ := exists_fault_of_irrecoverable h
  intro hnil
  rw [errors_run, List.map_eq_nil_iff, List.take_eq_nil_iff] at hnil
  rcases hnil with hnil | hnil
  · cases hnil
  · rw [Place.outerFaults_eq_nil rfl] at hnil
    rw [hnil p hp] at hf
    cases hf

theorem faultMessage_ne (src : Source) (t : Tree) :
    faultMessage src t ≠ "unparseable source" := by
  rw [faultMessage]
  split
  · intro h
    have := congrArg (fun s => s.toList.head?) h
    simp at this
  · intro h
    have := congrArg (fun s => s.toList[2]?) h
    simp at this

theorem parseErrors_extract (g : Grammar) (src : Source) (withOutline : Bool)
    (hn : (Place.root root).Nested) (ho : (Place.root root).InOrder) :
    (extract g src root withOutline).parseErrors = (run g src root).errors.toList := by
  rw [extract]
  cases hf : isFatal src root (run g src root).errorBytes with
  | false => rfl
  | true =>
    have hne := errors_run_ne_nil (g := g) ((isFatal_iff g src hn ho).1 hf)
    simp only [↓reduceIte]
    rw [if_neg (by simpa using hne)]

/-- What the faults of a tree come to. -/
structure Diagnosed (g : Grammar) (src : Source) (root : Tree) (e : Extraction) : Prop where
  fatal : isFatal src root (run g src root).errorBytes = true ↔ Irrecoverable src root
  errorBytes : (run g src root).errorBytes = src.written.countP (Place.root root).inError
  errorBytes_le : (run g src root).errorBytes ≤ src.written.length
  /-- Only what is kept has its tokens counted. -/
  kept : e.tally = none ↔ Irrecoverable src root
  reported : e.parseErrors =
    ((Place.root root).outerFaults.take 50).map fun p => faultOf src p.tree
  count : e.parseErrors.length = min 50 (Place.root root).outerFaults.length
  clean : e.parseErrors = [] ↔ ∀ p ∈ (Place.root root).subtree, p.tree.isFault = false
  lost : Irrecoverable src root →
    e.declarations = [] ∧ e.imports = [] ∧ e.globals = [] ∧ e.calls = [] ∧
      e.moduleDocstring = none ∧ e.tally = none ∧ e.parseErrors ≠ []
  message : ∀ x ∈ e.parseErrors, x.message ≠ "unparseable source"

/-- The faults outside of errors are reported, up to fifty of them, and a file is lost exactly if it
is irrecoverable. -/
theorem extract_diagnosed (g : Grammar) (src : Source) (root : Tree) (withOutline : Bool)
    (hn : (Place.root root).Nested) (ho : (Place.root root).InOrder) :
    Diagnosed g src root (extract g src root withOutline) := by
  have hfatal := isFatal_iff g src hn ho
  have hbytes := errorBytes_run g src hn ho
  have hreported : (extract g src root withOutline).parseErrors =
      ((Place.root root).outerFaults.take 50).map fun p => faultOf src p.tree :=
    (parseErrors_extract g src withOutline hn ho).trans (errors_run g src root)
  exact {
    fatal := hfatal
    errorBytes := hbytes
    errorBytes_le := by
      rw [hbytes]
      exact List.countP_le_length
    kept := by
      rw [← hfatal, extract]
      cases isFatal src root (run g src root).errorBytes <;> simp
    reported := hreported
    count := by rw [hreported, List.length_map, List.length_take]
    clean := by
      rw [hreported, List.map_eq_nil_iff, List.take_eq_nil_iff, Place.outerFaults_eq_nil rfl]
      simp
    lost := by
      intro h
      have hne := errors_run_ne_nil (g := g) h
      rw [parseErrors_extract g src withOutline hn ho]
      rw [extract, if_pos (hfatal.2 h)]
      exact ⟨rfl, rfl, rfl, rfl, rfl, rfl, hne⟩
    message := by
      intro x hx
      rw [hreported] at hx
      obtain ⟨p, -, rfl⟩ := List.mem_map.1 hx
      exact faultMessage_ne src p.tree }

/-! An error inside an error. They are less than half of the text, but would be more if the inner one
were counted for itself. -/

def errorNode (start stop : Nat) (children : List Tree) : Tree :=
  .node { kind := "ERROR", start, stop, field := none, named := true, isError := true,
          isMissing := false } children

def brokenSource : Source := .ofText "abc ))"

def brokenTree : Tree :=
  .node { kind := "module", start := 0, stop := 6, field := none, named := true, isError := false,
          isMissing := false }
    [.node { kind := "identifier", start := 0, stop := 3, field := none, named := true,
             isError := false, isMissing := false } [],
     errorNode 4 6 [errorNode 5 6 []]]

theorem extract_diagnosed_sample :
    (Place.root brokenTree).Nested ∧ (Place.root brokenTree).InOrder ∧
      Diagnosed Python.grammar brokenSource brokenTree
        (extract Python.grammar brokenSource brokenTree false) ∧
      (run Python.grammar brokenSource brokenTree).errorBytes = 2 ∧
      (extract Python.grammar brokenSource brokenTree false).parseErrors.length = 1 :=
  have hn : (Place.root brokenTree).Nested := by
    unfold Place.Nested
    decide +kernel
  have ho : (Place.root brokenTree).InOrder := by
    unfold Place.InOrder
    decide +kernel
  ⟨hn, ho, extract_diagnosed Python.grammar brokenSource brokenTree false hn ho,
    by decide +kernel, by decide +kernel⟩

end Walk

end CodeSurvey
