import CodeSurvey.Proofs.Reading

/-! What a walk counts of tokens and faults is counted node by node, in preorder. -/
namespace CodeSurvey

theorem Tree.isError_eq_false {t : Tree} (h : t.isFault = false) : t.isError = false := by
  rw [isFault, Bool.or_eq_false_iff] at h
  exact h.1

namespace Place

variable {p q : Place}

def errorsAbove (p : Place) : Nat := p.above.countP (·.tree.isError)

theorem errorsAbove_child (h : q ∈ p.children) :
    q.errorsAbove = p.errorsAbove + if p.tree.isError then 1 else 0 := by
  obtain ⟨b, t, rfl⟩ := eq_child_of_mem_children h
  rw [errorsAbove, above, lineage_eq, List.countP_cons]
  rfl

theorem errorsAbove_child_of_not_error (h : q ∈ p.children) (he : p.tree.isError = false) :
    q.errorsAbove = p.errorsAbove := by
  rw [errorsAbove_child h, he]
  rfl

theorem errorsAbove_le (h : q ∈ p.subtree) : p.errorsAbove ≤ q.errorsAbove := by
  induction p using children_induction with
  | h p ih =>
    rcases mem_subtree.1 h with rfl | ⟨c, hc, h⟩
    · exact Nat.le_refl _
    · have hle := ih c hc h
      rw [errorsAbove_child hc] at hle
      omega

/-- What is below an error is in it. -/
theorem errorsAbove_pos {c : Place} (he : p.tree.isError = true) (hc : c ∈ p.children)
    (hq : q ∈ c.subtree) : 0 < q.errorsAbove := by
  have hle := errorsAbove_le hq
  rw [errorsAbove_child hc, if_pos he] at hle
  omega

end Place

namespace Walk

/-- The part of a state that nodes are counted in. -/
structure Tallies where
  errors : Array ParseError := #[]
  errorBytes : Nat := 0
  tokens : Array Token := #[]
  countedTo : Nat := 0

def State.tallies (s : State) : Tallies := ⟨s.errors, s.errorBytes, s.tokens, s.countedTo⟩

/-- Tallies outside of all errors. -/
def Tallies.state (t : Tallies) : State :=
  { errors := t.errors, errorBytes := t.errorBytes, tokens := t.tokens, countedTo := t.countedTo }

/-- What a node adds. Nothing is counted inside an error. -/
def Tallies.add (g : Grammar) (src : Source) (t : Tallies) (p : Place) : Tallies :=
  if 0 < p.errorsAbove then t
  else if p.tree.isFault then (t.state.reportFault src p.tree).tallies
  else (t.state.countToken g src p.tree).tallies

variable {g : Grammar} {src : Source} {s t u : State} {p q : Place}

/-! ### One event -/

theorem tallies_reportFault (s : State) (t : Tree) :
    (s.reportFault src t).tallies =
      if s.errorDepth = 0 then (s.tallies.state.reportFault src t).tallies else s.tallies := by
  rw [State.reportFault]
  simp only [beq_iff_eq]
  split
  · rfl
  · rfl

theorem tallies_countToken (s : State) (t : Tree) :
    (s.countToken g src t).tallies = (s.tallies.state.countToken g src t).tallies := by
  simp only [State.countToken, State.tallies, Tallies.state]
  grind

/-- A step that counts nothing and stays inside the same errors. -/
structure Uncounted (s t : State) : Prop where
  tallies : t.tallies = s.tallies
  exits : t.exits = s.exits
  errorDepth : t.errorDepth = s.errorDepth

variable (g src) in
/-- What a role asks for is no matter of tokens and faults. -/
theorem enterRole_uncounted (s : State) (p : Place) (r : Role) :
    Uncounted s (enterRole g src s p r).2 ∧ (enterRole g src s p r).1 ≠ .error := by
  cases r <;> simp only [enterRole, enterFunction, enterClass, enterImpl, enterBranch,
    State.addBindings, State.addCall, State.push] <;> (try split) <;>
    exact ⟨⟨rfl, rfl, rfl⟩, by simp⟩

theorem closeFunction_uncounted (s : State) (f : FunctionFrame) :
    Uncounted s (s.closeFunction f) := by
  rw [State.closeFunction]
  split <;> exact ⟨rfl, rfl, rfl⟩

theorem leaveFunction_uncounted (s : State) : Uncounted s (leaveFunction s) := by
  rw [leaveFunction]
  split
  · next f rest _ =>
    have h := closeFunction_uncounted { s with frames := rest } f
    exact ⟨h.tallies, h.exits, h.errorDepth⟩
  · exact ⟨rfl, rfl, rfl⟩
  · exact ⟨rfl, rfl, rfl⟩

theorem undo_uncounted (s : State) {e : Exit} (he : e ≠ .error) : Uncounted s (undo g s e) := by
  cases e with
  | function => exact leaveFunction_uncounted s
  | classLike =>
    simp only [undo, leaveClass]
    split <;> exact ⟨rfl, rfl, rfl⟩
  | branch nested =>
    cases nested with
    | true =>
      simp only [undo, leaveBranch]
      split <;> exact ⟨rfl, rfl, rfl⟩
    | false => exact ⟨rfl, rfl, rfl⟩
  | error => exact absurd rfl he
  | impl => exact ⟨rfl, rfl, rfl⟩
  | nothing => exact ⟨rfl, rfl, rfl⟩

variable (g src) in
/-- Entering a node counts it, and an error is one more error around what is below. -/
structure Enters (p : Place) (s : State) (r : Exit × State) : Prop where
  tallies : r.2.tallies = s.tallies.add g src p
  exits : r.2.exits = s.exits
  errorDepth : r.2.errorDepth = s.errorDepth + if p.tree.isError then 1 else 0
  exit : r.1 = .error ↔ p.tree.isError = true

theorem SameButTallies.exits_errorDepth (h : SameButTallies s t) :
    t.exits = s.exits ∧ t.errorDepth = s.errorDepth := by
  obtain ⟨_, _, _, _, rfl⟩ := h
  exact ⟨rfl, rfl⟩

theorem enterFault_enters (h : s.errorDepth = p.errorsAbove) (hf : p.tree.isFault = true) :
    Enters g src p s (enterFault src s p.tree) := by
  have hadd : (s.reportFault src p.tree).tallies = s.tallies.add g src p := by
    rw [tallies_reportFault, Tallies.add, ← h]
    simp only [hf, ↓reduceIte]
    split
    · next h0 => rw [if_neg (by omega)]
    · next h0 => rw [if_pos (by omega)]
  have hsame : SameButTallies s (s.reportFault src p.tree) := sameButTallies_reportFault s p.tree
  obtain ⟨hexits, hdepth⟩ := hsame.exits_errorDepth
  rw [enterFault]
  split
  · next he => exact ⟨hadd, hexits, by simp [hdepth, he], by simp [he]⟩
  · next he => exact ⟨hadd, hexits, by simp [hdepth, he], by simp [he]⟩

variable (g src) in
/-- A node that is no fault is counted before its role is looked at. -/
theorem enter_eq_enterRole (h : s.errorDepth = p.errorsAbove) (hf : p.tree.isFault = false) :
    ∃ t, enter g src s p = enterRole g src t p (g.role src p) ∧
      t.tallies = s.tallies.add g src p ∧ t.exits = s.exits ∧ t.errorDepth = s.errorDepth := by
  rw [enter]
  simp only [hf, Bool.false_eq_true, ↓reduceIte, Tallies.add, ← h]
  by_cases h0 : s.errorDepth = 0
  · have hsame : SameButTallies s (s.countToken g src p.tree) := sameButTallies_countToken s p.tree
    obtain ⟨hx, hd⟩ := hsame.exits_errorDepth
    refine ⟨s.countToken g src p.tree, by simp [h0], ?_, hx, hd⟩
    rw [if_neg (by omega), tallies_countToken]
  · exact ⟨s, by simp [h0], by rw [if_pos (by omega)], rfl, rfl⟩

variable (g src) in
theorem enter_enters (h : s.errorDepth = p.errorsAbove) : Enters g src p s (enter g src s p) := by
  cases hf : p.tree.isFault with
  | true =>
    rw [enter, if_pos hf]
    exact enterFault_enters h hf
  | false =>
    have he : p.tree.isError = false := Tree.isError_eq_false hf
    obtain ⟨t, henter, ht, hx, hd⟩ := enter_eq_enterRole g src h hf
    obtain ⟨hrole, hexit⟩ := enterRole_uncounted g src t p (g.role src p)
    rw [henter]
    refine ⟨hrole.tallies.trans ht, hrole.exits.trans hx, ?_, ?_⟩
    · rw [hrole.errorDepth, hd]
      simp [he]
    · simp [hexit, he]

theorem leave_counted {e : Exit} {exits : List Exit} (h : u.exits = e :: exits) :
    (leave g u).tallies = u.tallies ∧ (leave g u).exits = exits ∧
      (leave g u).errorDepth = u.errorDepth - if e = .error then 1 else 0 := by
  rw [leave]
  rw [h]
  by_cases he : e = .error
  · subst he
    exact ⟨rfl, rfl, rfl⟩
  · have hu := undo_uncounted (g := g) { u with exits } he
    exact ⟨hu.tallies, hu.exits, by simp [he, hu.errorDepth]⟩

/-! ### Reading a node -/

variable (g src) in
/-- Reading some nodes counts them in turn and ends inside the same errors. -/
structure Counts (ps : List Place) (s t : State) : Prop where
  tallies : t.tallies = ps.foldl (Tallies.add g src) s.tallies
  exits : t.exits = s.exits
  errorDepth : t.errorDepth = s.errorDepth

theorem Counts.trans {ps qs : List Place} (h : Counts g src ps s t) (h' : Counts g src qs t u) :
    Counts g src (ps ++ qs) s u where
  tallies := by rw [h'.tallies, h.tallies, List.foldl_append]
  exits := h'.exits.trans h.exits
  errorDepth := h'.errorDepth.trans h.errorDepth

theorem counts_readAll {ps : List Place} {n : Nat}
    (h : ∀ p ∈ ps, ∀ s, s.errorDepth = n → Counts g src p.subtree s (read g src p s))
    (hs : s.errorDepth = n) : Counts g src (ps.flatMap Place.subtree) s (readAll g src ps s) := by
  induction ps generalizing s with
  | nil => exact ⟨rfl, rfl, rfl⟩
  | cons p ps ih =>
    have hp := h p (by simp) s hs
    rw [List.flatMap_cons]
    apply hp.trans
    exact ih (fun q hq => h q (by simp [hq])) (hp.errorDepth.trans hs)

theorem counts_read (p : Place) (h : s.errorDepth = p.errorsAbove) :
    Counts g src p.subtree s (read g src p s) := by
  induction p using Place.children_induction generalizing s with
  | h p ih =>
    have he := enter_enters g src h
    have hdepth : (step g src s (.enter p)).errorDepth =
        p.errorsAbove + if p.tree.isError then 1 else 0 := he.errorDepth.trans (by rw [h])
    have hc : Counts g src (p.children.flatMap Place.subtree) (step g src s (.enter p))
        (readAll g src p.children (step g src s (.enter p))) := by
      apply counts_readAll _ hdepth
      intro q hq s hs
      exact ih q hq (hs.trans (Place.errorsAbove_child hq).symm)
    have hexits : (readAll g src p.children (step g src s (.enter p))).exits =
        (enter g src s p).1 :: s.exits := by
      rw [hc.exits, ← he.exits]
      rfl
    obtain ⟨ht, hx, hd⟩ := leave_counted (g := g) hexits
    rw [read_eq]
    refine ⟨?_, hx, ?_⟩
    · rw [ht, hc.tallies, Place.subtree_eq, List.foldl_cons, ← he.tallies]
      rfl
    · rw [hd, hc.errorDepth, hdepth, h]
      simp only [he.exit]
      omega

variable (g src) in
theorem tallies_run (root : Tree) :
    (run g src root).tallies = (Place.root root).subtree.foldl (Tallies.add g src) {} := by
  rw [run_eq_read]
  exact (counts_read (.root root) rfl).tallies

end Walk

end CodeSurvey
