import CodeSurvey.Proofs.Fates
import CodeSurvey.Survey.Pool

/-! Workers deliver what comes of the files, each file once, in whatever order they take them. -/
namespace CodeSurvey

namespace Pool

/-- The files whose outcomes were sent, in this order. -/
def sent : List Event → List Entry
  | [] => []
  | .send e :: events => e :: sent events
  | _ :: events => sent events

/-- The files that workers passed by. -/
def passed : List Event → List Entry
  | [] => []
  | .pass e :: events => e :: passed events
  | _ :: events => passed events

/-- A worker came to the file after the survey had been cancelled. -/
def Late (events : List Event) (e : Entry) : Prop :=
  ∃ before after, events = before ++ .pass e :: after ∧ .cancel ∈ before

variable {v : Surveyor} {fetch : Fetch} {s t u : Pool} {a : Event} {events : List Event}

/-- What some events do to a pool. No file is lost or doubled, and outcomes are received in the
order in which they were sent. -/
structure Moves (v : Surveyor) (fetch : Fetch) (s : Pool) (events : List Event) (t : Pool) :
    Prop where
  files : (s.waiting ++ s.working).Perm
    (t.waiting ++ t.working ++ (sent events ++ passed events))
  outcomes : t.received ++ t.channel =
    s.received ++ s.channel ++ (sent events).map (v.process fetch)
  cancelled : t.cancelled = true ↔ s.cancelled = true ∨ .cancel ∈ events
  late : ∀ e ∈ passed events, s.cancelled = true ∨ Late events e

theorem Step.moves (h : Step v fetch s a t) : Moves v fetch s [a] t := by
  cases h with
  | cancel =>
    refine ⟨?_, ?_, ?_, ?_⟩
    · simp [sent, passed]
    · simp [sent]
    · simp
    · simp [passed]
  | take hw hfree hc =>
    refine ⟨?_, ?_, ?_, ?_⟩
    · apply List.perm_iff_count.2
      intro x
      simp only [hw, sent, passed, List.count_append, List.count_cons, List.count_nil]
      omega
    · simp [sent]
    · simp
    · simp [passed]
  | pass hw hfree hc =>
    refine ⟨?_, ?_, ?_, ?_⟩
    · apply List.perm_iff_count.2
      intro x
      simp only [hw, sent, passed, List.count_append, List.count_cons, List.count_nil]
      omega
    · simp [sent]
    · simp
    · intro e he
      exact .inl hc
  | send hw =>
    refine ⟨?_, ?_, ?_, ?_⟩
    · apply List.perm_iff_count.2
      intro x
      simp only [hw, sent, passed, List.count_append, List.count_cons, List.count_nil]
      omega
    · simp [sent]
    · simp
    · simp [passed]
  | receive hc =>
    refine ⟨?_, ?_, ?_, ?_⟩
    · simp [sent, passed]
    · simp [sent, hc]
    · simp
    · simp [passed]

theorem sent_cons (a : Event) (events : List Event) :
    sent (a :: events) = sent [a] ++ sent events := by
  cases a <;> rfl

theorem passed_cons (a : Event) (events : List Event) :
    passed (a :: events) = passed [a] ++ passed events := by
  cases a <;> rfl

theorem Late.cons {e : Entry} (h : Late events e) (a : Event) : Late (a :: events) e := by
  obtain ⟨before, after, rfl, hc⟩ := h
  exact ⟨a :: before, after, rfl, by simp [hc]⟩

theorem late_of_cancel {e : Entry} (h : e ∈ passed events) : Late (.cancel :: events) e := by
  have hmem : .pass e ∈ events := by
    induction events with
    | nil => cases h
    | cons a events ih => cases a <;> simp [passed] at h ⊢ <;> tauto
  obtain ⟨before, after, rfl⟩ := List.append_of_mem hmem
  exact ⟨.cancel :: before, after, rfl, by simp⟩

theorem Moves.cons (h : Moves v fetch s [a] t) (h' : Moves v fetch t events u) :
    Moves v fetch s (a :: events) u where
  files := by
    have h₁ := List.perm_iff_count.1 h.files
    have h₂ := List.perm_iff_count.1 h'.files
    apply List.perm_iff_count.2
    intro x
    have hx₁ := h₁ x
    have hx₂ := h₂ x
    rw [sent_cons a events, passed_cons a events]
    simp only [List.count_append] at hx₁ hx₂ ⊢
    omega
  outcomes := by
    rw [h'.outcomes, h.outcomes, sent_cons a events]
    simp
  cancelled := by
    rw [h'.cancelled, h.cancelled]
    simp [or_assoc, List.mem_cons]
  late := by
    intro e he
    rw [passed_cons, List.mem_append] at he
    rcases he with he | he
    · rcases h.late e he with hs | ⟨before, after, hb, hc⟩
      · exact .inl hs
      · have happend : a :: events = before ++ .pass e :: (after ++ events) := by
          rw [← List.singleton_append, hb, List.append_assoc, List.cons_append]
        exact .inr ⟨before, after ++ events, happend, hc⟩
    · rcases h'.late e he with ht | hl
      · rcases h.cancelled.1 ht with hs | ha
        · exact .inl hs
        · exact .inr (List.mem_singleton.1 ha ▸ late_of_cancel he)
      · exact .inr (hl.cons a)

/-- What holds of each event holds of a whole run. -/
theorem Trace.moves (h : Trace v fetch s events t) : Moves v fetch s events t := by
  induction h with
  | nil => exact ⟨by simp [sent, passed], by simp [sent], by simp, by simp [passed]⟩
  | cons hs _ ih => exact hs.moves.cons ih

/-! ### Progress -/

/-- How many events are left for the files of a pool. -/
def weight (s : Pool) : Nat := 3 * s.waiting.length + 2 * s.working.length + s.channel.length

theorem Step.weight_lt (h : Step v fetch s a t) (ha : a ≠ .cancel) : t.weight < s.weight := by
  cases h with
  | cancel => exact (ha rfl).elim
  | take hw hfree hc =>
    simp only [weight, hw, List.length_append, List.length_cons]
    omega
  | pass hw hfree hc =>
    simp only [weight, hw, List.length_append, List.length_cons]
    omega
  | send hw =>
    simp only [weight, hw, List.length_append, List.length_cons, List.length_nil]
    omega
  | receive hc =>
    simp only [weight, hc, List.length_cons]
    omega

variable (fetch) in
/-- As long as anything is left to do, something can be done. -/
theorem exists_step (hp : 0 < v.parallelism) (hs : ¬ s.Drained) :
    ∃ a t, a ≠ .cancel ∧ Step v fetch s a t := by
  cases hchannel : s.channel with
  | cons o rest => exact ⟨.receive, _, by simp, .receive hchannel⟩
  | nil =>
    cases hworking : s.working with
    | cons e rest =>
      have hw : s.working = [] ++ e :: rest := hworking
      exact ⟨.send e, _, by simp, .send hw⟩
    | nil =>
      have hfree : s.working.length < v.parallelism := by simpa [hworking] using hp
      cases hwaiting : s.waiting with
      | nil => exact (hs ⟨hwaiting, hworking, hchannel⟩).elim
      | cons e rest =>
        have hw : s.waiting = [] ++ e :: rest := hwaiting
        cases hc : s.cancelled with
        | false => exact ⟨.take e, _, by simp, .take hw hfree hc⟩
        | true => exact ⟨.pass e, _, by simp, .pass hw hfree hc⟩

variable (fetch) in
/-- The workers come to an end from wherever they are, without a cancellation. -/
theorem exists_drained (hp : 0 < v.parallelism) (s : Pool) :
    ∃ events t, Trace v fetch s events t ∧ t.Drained ∧ .cancel ∉ events := by
  induction hn : s.weight using Nat.strong_induction_on generalizing s with
  | _ n ih =>
    by_cases hs : s.Drained
    · exact ⟨[], s, .nil, hs, by simp⟩
    · obtain ⟨a, t, ha, hstep⟩ := exists_step fetch hp hs
      obtain ⟨events, u, ht, hu, hc⟩ := ih t.weight (hn ▸ hstep.weight_lt ha) t rfl
      refine ⟨a :: events, u, .cons hstep ht, hu, ?_⟩
      simp [hc, ha.symm]

variable (fetch) in
/-- The workers may be done with the files in any order. -/
theorem exists_sent (hp : 0 < v.parallelism) {order waiting : List Entry}
    (horder : order.Perm waiting) (received : List Outcome) :
    ∃ events t, Trace v fetch { waiting, received } events t ∧ t.Drained ∧ .cancel ∉ events ∧
      sent events = order := by
  induction order generalizing waiting received with
  | nil => exact ⟨[], _, .nil, ⟨List.nil_perm.1 horder, rfl, rfl⟩, by simp, rfl⟩
  | cons e order ih =>
    obtain ⟨before, after, rfl⟩ := List.append_of_mem (horder.mem_iff.1 List.mem_cons_self)
    have hrest : order.Perm (before ++ after) := (horder.trans List.perm_middle).cons_inv
    obtain ⟨events, t, ht, hd, hc, hsent⟩ := ih hrest (received ++ [v.process fetch e])
    -- The next file is taken up, sent and received before the one after it is taken up.
    have htrace : Trace v fetch { waiting := before ++ e :: after, received }
        (.take e :: .send e :: .receive :: events) t :=
      .cons (.take rfl hp rfl) <|
      .cons (.send (show [e] = [] ++ e :: [] from rfl)) <|
      .cons (.receive rfl) ht
    exact ⟨_, t, htrace, hd, by simp [hc], by simp [sent, hsent]⟩

end Pool

namespace Surveyor

open Pool (Trace sent passed Late)

variable {v : Surveyor} {fetch : Fetch} {files : List Entry} {events : List Pool.Event} {p : Pool}

/-- When nothing is left to do, the outcomes of the files that were sent have been received, and
the others were passed by. -/
theorem received_of_drained (h : Trace v fetch (v.start files) events p) (hd : p.Drained) :
    (v.pending files).Perm (sent events ++ passed events) ∧
      p.received = (sent events).map (v.process fetch) := by
  have hm := h.moves
  obtain ⟨hwaiting, hworking, hchannel⟩ := hd
  have hfiles := hm.files
  have houtcomes := hm.outcomes
  rw [hwaiting, hworking] at hfiles
  rw [hchannel] at houtcomes
  constructor
  · simpa [start] using hfiles
  · simpa [start] using houtcomes

theorem cancelled_iff (h : Trace v fetch (v.start files) events p) :
    p.cancelled = true ↔ .cancel ∈ events := by
  rw [h.moves.cancelled]
  simp [start]

theorem late_of_passed (h : Trace v fetch (v.start files) events p) {e : Entry}
    (he : e ∈ passed events) : Late events e := by
  rcases h.moves.late e he with hc | hl
  · cases hc
  · exact hl

theorem passed_eq_nil (h : Trace v fetch (v.start files) events p) (hc : .cancel ∉ events) :
    passed events = [] := by
  apply List.eq_nil_iff_forall_not_mem.2
  intro e he
  obtain ⟨before, after, rfl, hcancel⟩ := late_of_passed h he
  exact hc (by simp [hcancel])

theorem dispatch_never (taken : Nat) (es : List Entry) :
    v.dispatch fetch .never taken es = es.map (v.process fetch) := by
  induction es generalizing taken with
  | nil => rfl
  | cons e es ih => simp [dispatch, Cancellation.never, ← ih (taken + 1)]

theorem run_never (files : List Entry) :
    v.run files fetch .never =
      Survey.collect files.length (v.skips files) ((v.pending files).map (v.process fetch))
        false := by
  rw [run]
  rw [dispatch_never]
  rfl

/-- Without a cancellation all files are sent, and put together in this order. -/
theorem pooled_eq_collect (h : Trace v fetch (v.start files) events p) (hd : p.Drained)
    (hc : .cancel ∉ events) :
    (sent events).Perm (v.pending files) ∧
      v.pooled files p = Survey.collect files.length (v.skips files)
        ((sent events).map (v.process fetch)) false := by
  obtain ⟨hperm, hreceived⟩ := received_of_drained h hd
  rw [passed_eq_nil h hc, List.append_nil] at hperm
  have hcancelled : p.cancelled = false := by
    have := (cancelled_iff h).not.2 hc
    simpa using this
  rw [pooled, hreceived, hcancelled]
  exact ⟨hperm.symm, rfl⟩

/-- Without a cancellation the workers come to the same as one file after another: the counts
agree in any case, and if all listed paths differ everything does. -/
theorem pooled_agrees (h : Trace v fetch (v.start files) events p) (hd : p.Drained)
    (hc : .cancel ∉ events) :
    Survey.Agrees (v.pooled files p) (v.run files fetch .never) ∧
      (v.registry.KeepsPaths → (files.map Entry.path).Nodup →
        v.pooled files p = v.run files fetch .never) := by
  obtain ⟨hperm, hpooled⟩ := pooled_eq_collect h hd hc
  have houtcomes := hperm.map (v.process fetch)
  rw [hpooled, run_never]
  refine ⟨Survey.collect_agrees houtcomes, ?_⟩
  intro hk hn
  obtain ⟨fates, hf⟩ : ∃ fates, v.Fates fetch (Late events) files (v.pending files) [] fates :=
    exists_fates (by simp) (by simp)
  exact (Survey.collect_eq_of_perm houtcomes.symm (hf.nodup_records hk hn)
    (hf.nodup_errors hn)).symm

/-! Two workers that deliver two files the other way round. -/

def sampleSurveyor : Surveyor where
  registry := .standard fun _ _ => none
  languages := []
  excludes := []
  maxFileSize := 100
  parallelism := 2
  options := {}

def sampleEntry (path : String) : Entry := { path, id := path, size := 1 }

def sampleFetch : Fetch := fun id => .ok id.toUTF8

theorem pooled_agrees_sample :
    ∃ events p, Trace sampleSurveyor sampleFetch
        (sampleSurveyor.start [sampleEntry "a", sampleEntry "b"]) events p ∧ p.Drained ∧
      .cancel ∉ events ∧ sent events = [sampleEntry "b", sampleEntry "a"] ∧
      sampleSurveyor.pooled [sampleEntry "a", sampleEntry "b"] p =
        sampleSurveyor.run [sampleEntry "a", sampleEntry "b"] sampleFetch .never := by
  let a := sampleEntry "a"
  let b := sampleEntry "b"
  have hkeeps : sampleSurveyor.registry.KeepsPaths := Registry.keepsPaths_standard _
  have htrace : Trace sampleSurveyor sampleFetch (sampleSurveyor.start [a, b])
      [.take a, .take b, .send b, .send a, .receive, .receive] _ :=
    .cons (.take (show _ = [] ++ a :: [b] from rfl) (by decide) rfl) <|
    .cons (.take (show _ = [] ++ b :: [] from rfl) (by decide) rfl) <|
    .cons (.send (show _ = [] ++ b :: [a] from rfl)) <|
    .cons (.send (show _ = [] ++ a :: [] from rfl)) <|
    .cons (.receive rfl) <|
    .cons (.receive rfl) .nil
  exact ⟨_, _, htrace, ⟨rfl, rfl, rfl⟩, by decide, rfl,
    (pooled_agrees htrace ⟨rfl, rfl, rfl⟩ (by decide)).2 hkeeps (by decide)⟩

end Surveyor

end CodeSurvey
