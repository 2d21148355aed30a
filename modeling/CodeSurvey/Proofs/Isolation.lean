import CodeSurvey.Proofs.Accounting

/-! What goes wrong with one file stays with it. A survey of all files is put together from what
each of them comes to for itself. -/
namespace CodeSurvey

theorem filter_filterMap_congr {α β : Type} {f g : α → Option β} {keep : β → Bool} {xs : List α}
    (h : ∀ x ∈ xs, (f x).filter keep = (g x).filter keep) :
    (xs.filterMap f).filter keep = (xs.filterMap g).filter keep := by
  rw [List.filter_filterMap, List.filter_filterMap]
  exact List.filterMap_congr h

namespace Surveyor

/-! ### File by file -/

section

variable (v : Surveyor) (fetch : Fetch)

/-- The record that a file comes to. -/
def recordAt? (e : Entry) : Option FileRecord :=
  if (v.screen e).isNone then Outcome.record? (v.process fetch e) else none

/-- The error that a file comes to that has not been skipped. -/
def failureAt? (e : Entry) : Option FileError :=
  if (v.screen e).isNone then Outcome.error? (v.process fetch e) else none

theorem filterMap_pending {α : Type} (select : Outcome → Option α) (files : List Entry) :
    ((v.pending files).map (v.process fetch)).filterMap select =
      files.filterMap fun e =>
        if (v.screen e).isNone then select (v.process fetch e) else none := by
  rw [pending, List.filterMap_map, List.filterMap_filter]
  rfl

theorem records_run (files : List Entry) :
    (v.run files fetch .never).records =
      (files.filterMap (v.recordAt? fetch)).mergeSort fun a b => decide (a.path ≤ b.path) := by
  rw [run_never, Survey.collect, filterMap_pending]
  rfl

theorem errors_run (files : List Entry) :
    (v.run files fetch .never).summary.errors =
      (v.skips files ++ files.filterMap (v.failureAt? fetch)).mergeSort FileError.le := by
  rw [run_never, Survey.summary_collect, Survey.errorsOf, filterMap_pending]
  rfl

end

variable {v w : Surveyor} {fetch fetch' : Fetch} {e : Entry} {files : List Entry}

theorem recordAt?_eq_some {r : FileRecord} :
    v.recordAt? fetch e = some r ↔ v.screen e = none ∧ v.process fetch e = .ok r := by
  rw [recordAt?]
  cases v.screen e with
  | some x => simp
  | none => cases v.process fetch e <;> simp [Outcome.record?]

theorem failureAt?_eq_some {x : FileError} :
    v.failureAt? fetch e = some x ↔ v.screen e = none ∧ v.process fetch e = .error x := by
  rw [failureAt?]
  cases v.screen e with
  | some x => simp
  | none => cases v.process fetch e <;> simp [Outcome.error?]

theorem filter_records_run (keep : FileRecord → Bool) (files : List Entry) :
    (v.run files fetch .never).records.filter keep =
      ((files.filterMap (v.recordAt? fetch)).filter keep).mergeSort
        fun a b => decide (a.path ≤ b.path) := by
  rw [records_run, FileRecord.filter_mergeSort]

theorem filter_errors_run (keep : FileError → Bool) (files : List Entry) :
    (v.run files fetch .never).summary.errors.filter keep =
      ((v.skips files).filter keep ++
        (files.filterMap (v.failureAt? fetch)).filter keep).mergeSort FileError.le := by
  rw [errors_run, FileError.filter_mergeSort, List.filter_append]

theorem state_run (v : Surveyor) (files : List Entry) (fetch : Fetch) :
    (v.run files fetch .never).state = .completed := by
  rw [run_never]
  rfl

/-- Every file is counted as parsed or as failed. -/
theorem counted_run (v : Surveyor) (files : List Entry) (fetch : Fetch) :
    (v.run files fetch .never).summary.parsedCount +
      (v.run files fetch .never).summary.failedCount = files.length := by
  have hlen := length_skips_add v files
  rw [run_never, Survey.counted_collect, List.length_map]
  exact hlen

/-! ### Two surveys that treat most files alike -/

/-- What is read of a file: its content and what the parser of its language does with it, or why
there is no content. -/
def reading (v : Surveyor) (fetch : Fetch) (e : Entry) :
    Except ContentError (ByteArray × Except AnalysisError Attempt) :=
  (fetch e.id).map fun bytes =>
    let text := Text.ofBytes bytes
    let language := (identify e.path (some text) e.languageHint).language
    (bytes, (v.registry.resolve language).map fun p => p.parseWith text e.path v.options)

theorem analyze_eq_of_parse {bytes : ByteArray}
    (h : (v.registry.resolve
          (identify e.path (some (Text.ofBytes bytes)) e.languageHint).language).map
            (fun p => p.parseWith (Text.ofBytes bytes) e.path v.options) =
        (w.registry.resolve
          (identify e.path (some (Text.ofBytes bytes)) e.languageHint).language).map
            fun p => p.parseWith (Text.ofBytes bytes) e.path w.options) :
    v.analyze e bytes = w.analyze e bytes := by
  simp only [analyze]
  cases hv : v.registry.resolve
      (identify e.path (some (Text.ofBytes bytes)) e.languageHint).language with
  | error err =>
    cases hw : w.registry.resolve
        (identify e.path (some (Text.ofBytes bytes)) e.languageHint).language with
    | error err' =>
      rw [hv, hw] at h
      cases h
      rfl
    | ok p' =>
      rw [hv, hw] at h
      cases h
  | ok p =>
    cases hw : w.registry.resolve
        (identify e.path (some (Text.ofBytes bytes)) e.languageHint).language with
    | error err' =>
      rw [hv, hw] at h
      cases h
    | ok p' =>
      rw [hv, hw] at h
      have hparse : p.parseWith (Text.ofBytes bytes) e.path v.options =
          p'.parseWith (Text.ofBytes bytes) e.path w.options := Except.ok.inj h
      simp only [hparse]

/-- What comes of a file is told by what is read of it. -/
theorem process_eq_of_reading (h : v.reading fetch e = w.reading fetch' e) :
    v.process fetch e = w.process fetch' e := by
  simp only [reading] at h
  simp only [process]
  cases hv : fetch e.id with
  | error cause =>
    cases hw : fetch' e.id with
    | error cause' =>
      rw [hv, hw] at h
      cases h
      rfl
    | ok bytes' =>
      rw [hv, hw] at h
      cases h
  | ok bytes =>
    cases hw : fetch' e.id with
    | error cause' =>
      rw [hv, hw] at h
      cases h
    | ok bytes' =>
      rw [hv, hw] at h
      obtain ⟨rfl, hparse⟩ := Prod.mk.inj (Except.ok.inj h)
      simp only [analyze_eq_of_parse hparse]

/-- The records of the files of a path are of that path. -/
def KeepsPath (v : Surveyor) (files : List Entry) (fetch : Fetch) (path : String) : Prop :=
  ∀ e ∈ files, e.path = path → ∀ r, v.process fetch e = .ok r → r.path = path

theorem keepsPath_of_keepsPaths (hk : v.registry.KeepsPaths) (files : List Entry) (fetch : Fetch)
    (path : String) : v.KeepsPath files fetch path := by
  rintro e - rfl r hr
  exact path_of_process_ok hk hr

theorem filter_recordAt?_eq_none (hk : v.KeepsPath files fetch e.path) (he : e ∈ files) :
    (v.recordAt? fetch e).filter (·.path != e.path) = none := by
  apply Option.filter_eq_none_iff.2
  intro r hr
  have hpath := hk e he rfl r (recordAt?_eq_some.1 hr).2
  simp [hpath]

theorem filter_failureAt?_eq_none : (v.failureAt? fetch e).filter (·.path != e.path) = none := by
  apply Option.filter_eq_none_iff.2
  intro x hx
  have hpath := path_of_process_error (failureAt?_eq_some.1 hx).2
  simp [hpath]

/-- Two surveys that read all files alike but those of one path differ in nothing but the records
and errors of that path. -/
theorem run_isolated (v : Surveyor) (registry : Registry) (files : List Entry)
    (fetch fetch' : Fetch) (path : String)
    (h : ∀ e ∈ files, e.path ≠ path →
      v.reading fetch e = { v with registry }.reading fetch' e) :
    ∃ s t, v.runListing (.ok files) fetch .never = .ok s ∧
      { v with registry }.runListing (.ok files) fetch' .never = .ok t ∧
      s.state = .completed ∧ t.state = .completed ∧
      s.summary.parsedCount + s.summary.failedCount =
        t.summary.parsedCount + t.summary.failedCount ∧
      s.summary.errors.filter (·.path != path) = t.summary.errors.filter (·.path != path) ∧
      (v.KeepsPath files fetch path → { v with registry }.KeepsPath files fetch' path →
        s.records.filter (·.path != path) = t.records.filter (·.path != path)) := by
  set w : Surveyor := { v with registry }
  have hprocess : ∀ e ∈ files, e.path ≠ path → v.process fetch e = w.process fetch' e :=
    fun e he hne => process_eq_of_reading (h e he hne)
  -- Files are screened without a look at them, so the surveys skip the same ones.
  have hscreen : ∀ e, w.screen e = v.screen e := fun _ => rfl
  refine ⟨_, _, rfl, rfl, state_run .., state_run .., ?_, ?_, ?_⟩
  · rw [counted_run, counted_run]
  · have hfailures : (files.filterMap (v.failureAt? fetch)).filter (·.path != path) =
        (files.filterMap (w.failureAt? fetch')).filter (·.path != path) := by
      apply filter_filterMap_congr
      intro e he
      by_cases hne : e.path = path
      · subst hne
        rw [filter_failureAt?_eq_none, filter_failureAt?_eq_none]
      · rw [failureAt?, failureAt?, hscreen, hprocess e he hne]
    rw [filter_errors_run, filter_errors_run, hfailures]
    rfl
  · intro hk hk'
    have hrecords : (files.filterMap (v.recordAt? fetch)).filter (·.path != path) =
        (files.filterMap (w.recordAt? fetch')).filter (·.path != path) := by
      apply filter_filterMap_congr
      intro e he
      by_cases hne : e.path = path
      · subst hne
        rw [filter_recordAt?_eq_none hk he, filter_recordAt?_eq_none hk' he]
      · rw [recordAt?, recordAt?, hscreen, hprocess e he hne]
    rw [filter_records_run, filter_records_run, hrecords]

/-! A parser that crashes, where the other survey has one that does not. -/

def crashing : Parser where
  language := .python
  features := []
  parseWith _ _ _ := .crash (some "grammar bug")

def sampleFiles : List Entry := [sampleEntry "a.go", sampleEntry "b.py"]

theorem run_isolated_sample :
    let registry := sampleSurveyor.registry.register .python crashing
    ∃ s t, sampleSurveyor.runListing (.ok sampleFiles) sampleFetch .never = .ok s ∧
      { sampleSurveyor with registry }.runListing (.ok sampleFiles) sampleFetch .never = .ok t ∧
      s.summary.failedCount = 0 ∧ t.summary.failedCount = 1 ∧
      s.records.filter (·.path != "b.py") = t.records.filter (·.path != "b.py") := by
  intro registry
  have hkeeps : sampleSurveyor.registry.KeepsPaths := Registry.keepsPaths_standard _
  have hreading : ∀ e ∈ sampleFiles, e.path ≠ "b.py" →
      sampleSurveyor.reading sampleFetch e =
        { sampleSurveyor with registry }.reading sampleFetch e := by
    intro e he hne
    simp only [sampleFiles, List.mem_cons, List.not_mem_nil, or_false] at he
    rcases he with rfl | rfl
    · have hlanguage :
          (identify "a.go" (some (Text.ofBytes "a.go".toUTF8)) none).language = .go := by
        decide +kernel
      simp only [reading, sampleFetch, sampleEntry, Except.map, hlanguage]
      rfl
    · exact absurd rfl hne
  obtain ⟨s, t, hs, ht, -, -, -, -, hrecords⟩ := run_isolated sampleSurveyor registry sampleFiles
    sampleFetch sampleFetch "b.py" hreading
  have hcrashing : registry.KeepsPaths := by
    apply hkeeps.register
    intro text path options r h
    cases h
  refine ⟨s, t, hs, ht, ?_, ?_, ?_⟩
  · cases hs
    decide +kernel
  · cases ht
    decide +kernel
  · apply hrecords
    · exact keepsPath_of_keepsPaths hkeeps _ _ _
    · exact keepsPath_of_keepsPaths hcrashing _ _ _

end Surveyor

end CodeSurvey
