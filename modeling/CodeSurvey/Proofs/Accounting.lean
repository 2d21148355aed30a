import CodeSurvey.Proofs.Pool

/-! A survey accounts for every file, whenever it is cancelled. -/
namespace CodeSurvey.Surveyor

open Pool (Trace sent passed Late)

variable {v : Surveyor} {fetch : Fetch} {late : Entry → Prop} {files : List Entry} {s : Survey}

/-- The ways a survey can go, with the files whose turn comes after it was cancelled: one file after
another, or by workers. A survey that has been cancelled stays so. -/
inductive Runs (v : Surveyor) (files : List Entry) (fetch : Fetch) :
    (Entry → Prop) → Survey → Prop where
  | inOrder {cancel : Cancellation}
      (hcancel : ∀ i j, i ≤ j → cancel i = true → cancel j = true) :
      Runs v files fetch (fun e => ∃ i, (v.pending files)[i]? = some e ∧ cancel i = true)
        (v.run files fetch cancel)
  | pooled {events : List Pool.Event} {p : Pool}
      (h : Trace v fetch (v.start files) events p) (hd : p.Drained) :
      Runs v files fetch (Late events) (v.pooled files p)

variable (v fetch) in
/-- Files one after another are the first so many of the list, and all of them unless the survey is
cancelled. -/
theorem dispatch_eq (cancel : Cancellation) (taken : Nat) (es : List Entry) :
    ∃ n ≤ es.length, v.dispatch fetch cancel taken es = (es.take n).map (v.process fetch) ∧
      (n < es.length → cancel (taken + n) = true) := by
  induction es generalizing taken with
  | nil => exact ⟨0, by simp, rfl, by simp⟩
  | cons e es ih =>
    by_cases hc : cancel taken = true
    · exact ⟨0, by simp, by simp [dispatch, hc], by simp [hc]⟩
    · obtain ⟨n, hn, hd, hlast⟩ := ih (taken + 1)
      refine ⟨n + 1, by simpa using hn, by simp [dispatch, hc, hd], ?_⟩
      intro hlt
      have hlt' : n < es.length := by simpa using hlt
      have hcancel := hlast hlt'
      rwa [Nat.add_assoc, Nat.add_comm 1 n] at hcancel

/-- Every run puts together the outcomes of some files, and the others are late. -/
theorem Runs.collected (h : v.Runs files fetch late s) :
    ∃ done left asked, (v.pending files).Perm (done ++ left) ∧ (∀ e ∈ left, late e) ∧
      (left ≠ [] → asked = true) ∧
      s = Survey.collect files.length (v.skips files) (done.map (v.process fetch)) asked := by
  cases h with
  | @inOrder cancel hcancel =>
    obtain ⟨n, hn, hd, hlast⟩ := dispatch_eq v fetch cancel 0 (v.pending files)
    have hlen : (v.dispatch fetch cancel 0 (v.pending files)).length = n := by
      simp [hd, Nat.min_eq_left hn]
    rw [Nat.zero_add] at hlast
    refine ⟨(v.pending files).take n, (v.pending files).drop n, cancel n, ?_, ?_, ?_, ?_⟩
    · rw [List.take_append_drop]
    · intro e he
      obtain ⟨i, hi, rfl⟩ := List.getElem_of_mem he
      have hlt : n + i < (v.pending files).length := by
        rw [List.length_drop] at hi
        omega
      refine ⟨n + i, by simp, hcancel n _ (by omega) (hlast (by omega))⟩
    · intro hne
      apply hlast
      have := List.length_pos_iff.2 hne
      rw [List.length_drop] at this
      omega
    · simp only [run, hlen]
      rw [hd]
  | @pooled events p h hd =>
    obtain ⟨hperm, hreceived⟩ := received_of_drained h hd
    refine ⟨sent events, passed events, p.cancelled, hperm, ?_, ?_, ?_⟩
    · intro e he
      exact late_of_passed h he
    · intro hne
      obtain ⟨e, he⟩ := List.exists_mem_of_ne_nil _ hne
      obtain ⟨before, after, hb, hc⟩ := late_of_passed h he
      apply (cancelled_iff h).2
      rw [hb]
      simp [hc]
    · rw [← hreceived]
      rfl

theorem length_skips_add (v : Surveyor) (files : List Entry) :
    (v.skips files).length + (v.pending files).length = files.length := by
  induction files with
  | nil => rfl
  | cons e files ih =>
    rw [skips, pending] at ih ⊢
    cases hs : v.screen e with
    | some x => simp [hs]; omega
    | none => simp [hs]; omega

/-- The ways a survey can go that has taken up every file: nothing was late. -/
def Completes (v : Surveyor) (files : List Entry) (fetch : Fetch) (s : Survey) : Prop :=
  ∃ late, v.Runs files fetch late s ∧ ∀ e, ¬ late e

theorem completes_run (v : Surveyor) (files : List Entry) (fetch : Fetch) :
    v.Completes files fetch (v.run files fetch .never) := by
  refine ⟨_, .inOrder fun _ _ _ h => h, ?_⟩
  rintro e ⟨i, -, hc⟩
  cases hc

/-- Every file is taken up, in some order. -/
theorem Completes.collected (h : v.Completes files fetch s) :
    ∃ os, os.Perm ((v.pending files).map (v.process fetch)) ∧
      s = Survey.collect files.length (v.skips files) os false := by
  obtain ⟨late, hruns, hlate⟩ := h
  obtain ⟨done, left, asked, hperm, hleft, -, rfl⟩ := hruns.collected
  obtain rfl : left = [] :=
    List.eq_nil_iff_forall_not_mem.2 fun e he => hlate e (hleft e he)
  rw [List.append_nil] at hperm
  refine ⟨done.map (v.process fetch), (hperm.map _).symm, Survey.collect_of_all ?_⟩
  rw [List.length_map, ← hperm.length_eq]
  exact length_skips_add v files

/-- But for the order of records and errors it comes to the same as one file after another. -/
theorem Completes.agrees (h : v.Completes files fetch s) : s.Agrees (v.run files fetch .never) := by
  obtain ⟨os, hperm, rfl⟩ := h.collected
  rw [run_never]
  exact Survey.collect_agrees hperm

theorem exists_fates_all (v : Surveyor) (files : List Entry) (fetch : Fetch) :
    ∃ fates, v.Fates fetch (fun _ => False) files (v.pending files) [] fates :=
  exists_fates (by simp) (by simp)

/-- Where all listed paths differ, errors come in one order. -/
theorem Completes.errors_eq (h : v.Completes files fetch s) (hn : (files.map Entry.path).Nodup) :
    s.summary.errors = (v.run files fetch .never).summary.errors := by
  obtain ⟨os, hperm, rfl⟩ := h.collected
  obtain ⟨fates, hf⟩ := exists_fates_all v files fetch
  have herrors : (v.skips files ++ Survey.errorsOf ((v.pending files).map (v.process fetch))).Perm
      (v.skips files ++ Survey.errorsOf os) := (hperm.symm.filterMap _).append_left _
  rw [run_never]
  simp only [Survey.summary_collect]
  exact (FileError.mergeSort_eq (filter_key_eq_of_perm herrors (hf.nodup_errors hn))).symm

theorem Completes.records_eq (h : v.Completes files fetch s) (hk : v.registry.KeepsPaths)
    (hn : (files.map Entry.path).Nodup) : s.records = (v.run files fetch .never).records := by
  obtain ⟨os, hperm, rfl⟩ := h.collected
  obtain ⟨fates, hf⟩ := exists_fates_all v files fetch
  have hrecords : (Survey.recordsOf ((v.pending files).map (v.process fetch))).Perm
      (Survey.recordsOf os) := hperm.symm.filterMap _
  rw [run_never]
  exact (FileRecord.mergeSort_eq (filter_key_eq_of_perm hrecords (hf.nodup_records hk hn))).symm

/-- A listing is all records when no file has an error or nothing. -/
theorem all_records_iff (fates : List Fate) :
    (fates.filterMap Fate.error?).length = 0 ∧ fates.countP Fate.isNothing = 0 ↔
      ∀ x ∈ fates, ∃ r, x = .record r := by
  induction fates with
  | nil => simp
  | cons x fates ih => cases x <;> simp_all [Fate.error?, Fate.isNothing]

theorem isClean_iff (s : Summary) :
    s.isClean = true ↔ s.failedCount = 0 ∧ ¬ s.cancelled = true := by
  simp [Summary.isClean]

/-- Some of the files give some of the records. -/
theorem subperm_recordsOf {done left : List Entry} (h : (v.pending files).Perm (done ++ left)) :
    (Survey.recordsOf (done.map (v.process fetch))).Subperm
      (Survey.recordsOf ((v.pending files).map (v.process fetch))) := by
  have hall : (Survey.recordsOf ((v.pending files).map (v.process fetch))).Perm
      (Survey.recordsOf (done.map (v.process fetch)) ++
        Survey.recordsOf (left.map (v.process fetch))) := by
    have := (h.map (v.process fetch)).filterMap Outcome.record?
    rwa [List.map_append, List.filterMap_append] at this
  exact (List.sublist_append_left _ _).subperm.trans hall.symm.subperm

/-- How the numbers of a survey fit together, and what became of each file of the listing. -/
structure Accounts (v : Surveyor) (files : List Entry) (fetch : Fetch) (late : Entry → Prop)
    (s : Survey) : Prop where
  fates : ∃ fates, List.Forall₂ (v.FateOf fetch late) files fates ∧
    s.records.Perm (fates.filterMap Fate.record?) ∧
    s.summary.errors.Perm (fates.filterMap Fate.error?) ∧
    (s.summary.isClean = true ↔ ∀ x ∈ fates, ∃ r, x = .record r)
  totalFiles : s.summary.totalFiles = files.length
  parsed : s.records.length = s.summary.parsedCount
  languages : (s.summary.languages.map Prod.snd).sum = s.summary.parsedCount
  failed : s.summary.errors.length = s.summary.failedCount
  lines : s.summary.totalLines = (s.records.map FileRecord.lineCount).sum
  counted : s.summary.parsedCount + s.summary.failedCount ≤ s.summary.totalFiles
  total : s.summary.parsedCount + s.summary.failedCount + s.summary.undispatched =
    s.summary.totalFiles
  records : s.records.Subperm (v.run files fetch .never).records
  cancelled : s.summary.cancelled = true ↔ 0 < s.summary.undispatched
  state : s.state = if s.summary.cancelled then .cancelled else .completed

/-- However a survey goes and whenever it is cancelled, it accounts for every file. -/
theorem accounts_of_runs (h : v.Runs files fetch late s) : v.Accounts files fetch late s := by
  obtain ⟨done, left, asked, hperm, hlate, hasked, rfl⟩ := h.collected
  obtain ⟨fates, hf⟩ : ∃ fates, v.Fates fetch late files done left fates :=
    exists_fates hperm hlate
  have hlen : (v.skips files).length + (done.map (v.process fetch)).length + left.length =
      files.length := by
    have hskips := length_skips_add v files
    have hpending := hperm.length_eq
    rw [List.length_append] at hpending
    rw [List.length_map]
    omega
  set os := done.map (v.process fetch)
  have htotal := Survey.totalFiles_collect files.length (v.skips files) os asked
  have hcounted := Survey.counted_collect files.length (v.skips files) os asked
  have hundispatched := Survey.undispatched_collect files.length (v.skips files) os asked
  have hcancelled := Survey.cancelled_collect_iff files.length (v.skips files) os asked fun hlt =>
    hasked (List.ne_nil_of_length_pos (by omega))
  have hrecords := Survey.records_collect_perm files.length (v.skips files) os asked
  have herrors := (Survey.errors_collect_perm files.length (v.skips files) os asked).trans hf.errors
  exact {
    fates := by
      refine ⟨fates, hf.each, hrecords.trans hf.records, herrors, ?_⟩
      rw [← all_records_iff, hf.nothing, ← herrors.length_eq, Survey.length_errors_collect,
        isClean_iff, hcancelled]
      omega
    totalFiles := htotal
    parsed := Survey.length_records_collect _ _ _ _
    languages := Survey.sum_languages_collect _ _ _ _
    failed := Survey.length_errors_collect _ _ _ _
    lines := Survey.totalLines_collect _ _ _ _
    counted := by omega
    total := by omega
    records := by
      rw [run_never]
      have hall := Survey.records_collect_perm files.length (v.skips files)
        ((v.pending files).map (v.process fetch)) false
      exact hrecords.subperm.trans ((subperm_recordsOf hperm).trans hall.symm.subperm)
    cancelled := hcancelled
    state := rfl }

/-- A survey of two files that is cancelled while a worker has the first. -/
theorem accounts_of_runs_sample :
    ∃ late s, sampleSurveyor.Runs [sampleEntry "a", sampleEntry "b"] sampleFetch late s ∧
      sampleSurveyor.Accounts [sampleEntry "a", sampleEntry "b"] sampleFetch late s ∧
      s.state = .cancelled ∧ s.summary.undispatched = 1 := by
  let a := sampleEntry "a"
  let b := sampleEntry "b"
  obtain ⟨p, htrace, hdrained, hreceived⟩ : ∃ p, Trace sampleSurveyor sampleFetch
      (sampleSurveyor.start [a, b]) [.take a, .cancel, .pass b, .send a, .receive] p ∧
        p.Drained ∧ p.received.length = 1 :=
    ⟨_, .cons (.take (show _ = [] ++ a :: [b] from rfl) (by decide) rfl) <|
      .cons .cancel <|
      .cons (.pass (show _ = [] ++ b :: [] from rfl) (by decide) rfl) <|
      .cons (.send (show _ = [] ++ a :: [] from rfl)) <|
      .cons (.receive rfl) .nil, ⟨rfl, rfl, rfl⟩, rfl⟩
  have hruns : sampleSurveyor.Runs [a, b] sampleFetch _ _ := .pooled htrace hdrained
  have h := accounts_of_runs hruns
  have hundispatched : (sampleSurveyor.pooled [a, b] p).summary.undispatched = 1 := by
    rw [pooled, Survey.undispatched_collect, hreceived]
    rfl
  have hcancelled : (sampleSurveyor.pooled [a, b] p).summary.cancelled = true :=
    h.cancelled.2 (by omega)
  exact ⟨_, _, hruns, h, h.state.trans (if_pos hcancelled), hundispatched⟩

end CodeSurvey.Surveyor
