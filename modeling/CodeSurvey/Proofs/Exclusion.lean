import CodeSurvey.Proofs.Arrival
import CodeSurvey.Proofs.Isolation
import CodeSurvey.Proofs.Lookup

/-! Who excludes more files loses exactly those files. -/
namespace CodeSurvey

/-- A path is matched by the globs of a configuration if it is by one of them. -/
theorem Config.any_isMatch_iff {c : Config} {globs : List Glob} {path : String}
    (h : c.excludeGlobs = .ok globs) :
    globs.any (·.isMatch path) = true ↔
      ∃ pattern ∈ c.excludePatterns, ∃ g, Glob.ofText pattern = .ok g ∧ g.isMatch path = true := by
  have hread : ∀ pattern g, readGlob pattern = .ok g ↔ Glob.ofText pattern = .ok g := by
    intro pattern g
    rw [readGlob]
    cases Glob.ofText pattern <;> simp
  rw [List.any_eq_true]
  constructor
  · rintro ⟨g, hg, hmatch⟩
    obtain ⟨pattern, hpattern, hglob⟩ := (mem_of_mapM_ok h).1 hg
    exact ⟨pattern, hpattern, g, (hread pattern g).1 hglob, hmatch⟩
  · rintro ⟨pattern, hpattern, g, hglob, hmatch⟩
    exact ⟨g, (mem_of_mapM_ok h).2 ⟨pattern, hpattern, (hread pattern g).2 hglob⟩, hmatch⟩

namespace Surveyor

variable {v : Surveyor} {files order order' : List Entry} {fetch : Fetch} {e : Entry}
  {x : FileError} {r : FileRecord} {excludes : List Glob} {s t : Survey}

/-! ### One file -/

theorem screen_of_excluded (h : v.isExcluded e.path = true) :
    v.screen e = some { path := e.path, reason := .excluded } := by
  rw [screen, if_pos h]

/-- Files that are excluded are the only ones that are skipped as such. -/
theorem isExcluded_iff_reason (h : v.screen e = some x) :
    v.isExcluded e.path = true ↔ x.reason = .excluded := by
  rw [screen] at h
  grind

theorem reason_of_process (h : v.process fetch e = .error x) : x.reason ≠ .excluded := by
  rw [process] at h
  split at h
  · cases h
    simp [FileError.ofError, Reason.ofError]
  · split at h
    · cases h
    · next err herr =>
      cases h
      cases err <;> simp [FileError.ofError, Reason.ofError]
    · cases h
      simp

theorem filter_reason_errorsOf (v : Surveyor) (fetch : Fetch) (es : List Entry) :
    (Survey.errorsOf (es.map (v.process fetch))).filter (·.reason != Reason.excluded) =
      Survey.errorsOf (es.map (v.process fetch)) := by
  rw [List.filter_eq_self]
  intro x hx
  obtain ⟨o, ho, hx⟩ := List.mem_filterMap.1 hx
  obtain ⟨e, -, rfl⟩ := List.mem_map.1 ho
  rw [bne_iff_ne]
  cases hp : v.process fetch e with
  | ok r => rw [hp] at hx; cases hx
  | error y =>
    rw [hp] at hx
    cases hx
    exact reason_of_process hp

section

variable (hmore : ∀ path, v.isExcluded path = true → { v with excludes }.isExcluded path = true)

include hmore

/-- A file that is not excluded is treated as before. -/
theorem screen_of_not_excluded (h : { v with excludes }.isExcluded e.path = false) :
    { v with excludes }.screen e = v.screen e := by
  have hbefore : v.isExcluded e.path = false := by
    cases hv : v.isExcluded e.path with
    | false => rfl
    | true => rw [hmore _ hv] at h; cases h
  rw [screen, screen, h, hbefore]
  rfl

theorem screen_eq_some_iff :
    { v with excludes }.screen e = some x ∧ x.reason ≠ .excluded ↔
      v.screen e = some x ∧ { v with excludes }.isExcluded x.path = false := by
  cases hx : { v with excludes }.isExcluded e.path with
  | true =>
    constructor
    · rintro ⟨hs, hr⟩
      exact absurd ((isExcluded_iff_reason hs).1 hx) hr
    · rintro ⟨hs, hp⟩
      rw [path_of_screen hs, hx] at hp
      cases hp
  | false =>
    rw [screen_of_not_excluded hmore hx]
    refine and_congr_right fun hs => ?_
    have hs' := (screen_of_not_excluded hmore hx).trans hs
    rw [path_of_screen hs, ne_eq, ← isExcluded_iff_reason hs', Bool.not_eq_true]

theorem recordAt?_excludes (fetch : Fetch) (e : Entry) :
    { v with excludes }.recordAt? fetch e =
      if !{ v with excludes }.isExcluded e.path then v.recordAt? fetch e else none := by
  cases hx : { v with excludes }.isExcluded e.path with
  | true => simp [recordAt?, screen_of_excluded hx]
  | false =>
    rw [recordAt?, recordAt?, screen_of_not_excluded hmore hx]
    rfl

/-! ### A whole survey -/

/-- The records are those of the files that are left. -/
theorem records_run_excludes (files : List Entry) (fetch : Fetch) :
    ({ v with excludes }.run files fetch .never).records =
      (v.run (files.filter fun e => !{ v with excludes }.isExcluded e.path) fetch
        .never).records := by
  rw [records_run, records_run, List.filterMap_filter]
  rw [funext (recordAt?_excludes hmore fetch)]

theorem filter_skips_excludes (files : List Entry) :
    ({ v with excludes }.skips files).filter (·.reason != Reason.excluded) =
      (v.skips files).filter fun x => !{ v with excludes }.isExcluded x.path := by
  rw [skips, skips, List.filter_filterMap, List.filter_filterMap]
  apply List.filterMap_congr
  intro e _
  apply Option.ext
  intro x
  simpa using screen_eq_some_iff hmore

/-- Files that are left are taken up as before. -/
theorem inStep_run (files : List Entry) (fetch : Fetch) :
    InStep v { v with excludes } files fetch (fun path => !{ v with excludes }.isExcluded path)
      (v.run files fetch .never) ({ v with excludes }.run files fetch .never) := by
  refine ⟨_, _, .inOrder, .inOrder, ?_⟩
  intro path hpath
  rw [pending, pending, List.filter_filter, List.filter_filter]
  apply List.filter_congr
  intro e _
  by_cases he : e.path = path
  · have hx : { v with excludes }.isExcluded e.path = false := by simpa [he] using hpath
    rw [screen_of_not_excluded hmore hx]
  · simp [he]

end

section

variable {w : Surveyor} {keep : String → Bool} (hs : v.Arrives files fetch order s)
  (ht : w.Arrives files fetch order' t) (hprocess : w.process fetch = v.process fetch)
  (hkept : ∀ path, order'.filter (·.path = path) =
    if keep path then order.filter (·.path = path) else [])

include hs ht hprocess hkept

/-- Where the files of a path all come in as before or not at all, so do their records. -/
theorem records_of_kept (hk : v.registry.KeepsPaths) :
    t.records = s.records.filter fun r => keep r.path := by
  obtain ⟨-, rfl⟩ := hs.collected
  obtain ⟨-, rfl⟩ := ht.collected
  rw [Survey.records_collect, Survey.records_collect, hprocess,
    FileRecord.filter_mergeSort]
  apply FileRecord.mergeSort_eq
  intro path
  rw [filter_filter_key keep, filter_recordsOf hk, filter_recordsOf hk, hkept]
  split <;> rfl

/-- So do their errors, besides those of the files that are skipped. -/
theorem errors_of_kept
    (hskips : (w.skips files).filter (·.reason != Reason.excluded) =
      (v.skips files).filter fun x => keep x.path) :
    t.summary.errors.filter (·.reason != Reason.excluded) =
      s.summary.errors.filter fun x => keep x.path := by
  obtain ⟨-, rfl⟩ := hs.collected
  obtain ⟨-, rfl⟩ := ht.collected
  rw [Survey.errors_collect, Survey.errors_collect, hprocess, FileError.filter_mergeSort,
    FileError.filter_mergeSort, List.filter_append, List.filter_append, hskips,
    filter_reason_errorsOf]
  apply FileError.mergeSort_eq
  intro path
  rw [List.filter_append, List.filter_append, filter_filter_key keep (Survey.errorsOf _),
    filter_errorsOf, filter_errorsOf, hkept]
  split <;> rfl

end

/-- Files that are excluded are not taken up, whatever the order. -/
theorem filter_path_of_perm (h : order.Perm (v.pending files)) {path : String}
    (hx : v.isExcluded path = true) : order.filter (·.path = path) = [] := by
  rw [List.filter_eq_nil_iff]
  intro e he hpath
  rw [decide_eq_true_eq] at hpath
  obtain ⟨-, hs⟩ := mem_pending.1 (h.mem_iff.1 he)
  rw [screen_of_excluded (hpath ▸ hx)] at hs
  cases hs

/-- Surveys in step on the files that are left have the same of them, in the same order. -/
theorem InStep.narrows
    (hmore : ∀ path, v.isExcluded path = true → { v with excludes }.isExcluded path = true)
    (h : InStep v { v with excludes } files fetch
      (fun path => !{ v with excludes }.isExcluded path) s t) :
    t.summary.errors.filter (·.reason != .excluded) =
        s.summary.errors.filter (fun x => !{ v with excludes }.isExcluded x.path) ∧
      (v.registry.KeepsPaths →
        t.records = s.records.filter fun r => !{ v with excludes }.isExcluded r.path) := by
  obtain ⟨order, order', hs, ht, hsame⟩ := h
  have hkept : ∀ path, order'.filter (·.path = path) =
      if !{ v with excludes }.isExcluded path then order.filter (·.path = path) else [] := by
    intro path
    cases hx : { v with excludes }.isExcluded path with
    | true => exact filter_path_of_perm ht.collected.1 hx
    | false => exact (hsame path (by simp [hx])).symm
  exact ⟨errors_of_kept hs ht rfl hkept (filter_skips_excludes hmore files),
    records_of_kept hs ht rfl hkept⟩

theorem filter_skips (v : Surveyor) (files : List Entry) :
    ((v.skips files).filter fun x => v.isExcluded x.path) =
      (files.filter fun e => v.isExcluded e.path).map fun e =>
        { path := e.path, reason := .excluded } := by
  rw [skips, List.filter_filterMap, ← List.filterMap_eq_map, List.filterMap_filter]
  apply List.filterMap_congr
  intro e _
  cases hx : v.isExcluded e.path with
  | true => simp [screen_of_excluded hx, hx]
  | false =>
    simp only [Bool.false_eq_true, ↓reduceIte, Option.filter_eq_none_iff]
    intro x hs
    rw [path_of_screen hs, hx]
    simp

/-- Each excluded file has one error, which says so and nothing more. -/
theorem excluded_run_perm (v : Surveyor) (files : List Entry) (fetch : Fetch) :
    ((v.run files fetch .never).summary.errors.filter fun x => v.isExcluded x.path).Perm
      ((files.filter fun e => v.isExcluded e.path).map fun e =>
        { path := e.path, reason := .excluded }) := by
  have hfailures : ((files.filterMap (v.failureAt? fetch)).filter fun x => v.isExcluded x.path) =
      [] := by
    rw [List.filter_eq_nil_iff]
    intro x hx
    obtain ⟨e, -, hx⟩ := List.mem_filterMap.1 hx
    obtain ⟨hs, hp⟩ := failureAt?_eq_some.1 hx
    intro hexcluded
    rw [path_of_process_error hp] at hexcluded
    rw [screen_of_excluded hexcluded] at hs
    cases hs
  rw [filter_errors_run, filter_skips, hfailures, List.append_nil]
  exact List.mergeSort_perm _ _

variable {registry : Registry} {config : Config} {patterns : List String} {w : Surveyor}

theorem isExcluded_iff_of_new (h : Surveyor.new registry config = .ok v) (path : String) :
    v.isExcluded path = true ↔ ∃ pattern ∈ config.excludePatterns, ∃ g,
      Glob.ofText pattern = .ok g ∧ g.isMatch path = true := by
  obtain ⟨languages, excludes, -, hexcludes, rfl⟩ := exists_of_new h
  exact Config.any_isMatch_iff hexcludes

theorem exists_excludes_of_new (hv : Surveyor.new registry config = .ok v)
    (hw : Surveyor.new registry { config with excludePatterns := patterns } = .ok w) :
    ∃ excludes, w = { v with excludes } := by
  obtain ⟨languages, excludes, hlanguages, -, rfl⟩ := exists_of_new hv
  obtain ⟨languages', excludes', hlanguages', -, rfl⟩ := exists_of_new hw
  obtain rfl : languages = languages' := Except.ok.inj (hlanguages.symm.trans hlanguages')
  exact ⟨excludes', rfl⟩

theorem map_path_of_perm {rs rs' : List FileRecord} (h : rs.Perm rs') (hrs : Survey.Sorted rs)
    (hrs' : Survey.Sorted rs') : rs.map (·.path) = rs'.map (·.path) := by
  apply (h.map _).eq_of_pairwise
  · intro a b _ _
    exact le_antisymm
  · exact List.pairwise_map.2 hrs
  · exact List.pairwise_map.2 hrs'

/-- What a survey that excludes more has of another one, but for the order within a path. -/
structure Narrows (v : Surveyor) (excluded : String → Bool) (files : List Entry) (fetch : Fetch)
    (s t : Survey) : Prop where
  errors : (t.summary.errors.filter (·.reason != .excluded)).Perm
    (s.summary.errors.filter fun x => !excluded x.path)
  skipped : (t.summary.errors.filter fun x => excluded x.path).Perm
    ((files.filter fun e => excluded e.path).map fun e => { path := e.path, reason := .excluded })
  rest : t.records.Perm (v.run (files.filter fun e => !excluded e.path) fetch .never).records
  records : v.registry.KeepsPaths → t.records.Perm (s.records.filter fun r => !excluded r.path)
  paths : v.registry.KeepsPaths →
    t.records.map (·.path) = (s.records.filter fun r => !excluded r.path).map (·.path)

/-- Who excludes more files loses exactly those files: each of them has one error that says so, and
all other records and errors stay as they were. They keep their order unless workers come to files
of one path in another order. -/
theorem excluding_narrows (hv : Surveyor.new registry config = .ok v)
    (hw : Surveyor.new registry { config with excludePatterns := patterns } = .ok w)
    (hsub : config.excludePatterns ⊆ patterns) (hs : v.Completes files fetch s)
    (ht : w.Completes files fetch t) :
    (∀ path, w.isExcluded path = true ↔ ∃ pattern ∈ patterns, ∃ g,
      Glob.ofText pattern = .ok g ∧ g.isMatch path = true) ∧
    Narrows v w.isExcluded files fetch s t ∧
    (s = v.run files fetch .never ∧ t = w.run files fetch .never ∨
        (files.map Entry.path).Nodup ∨
        InStep v w files fetch (fun path => !w.isExcluded path) s t →
      t.summary.errors.filter (·.reason != .excluded) =
          s.summary.errors.filter (fun x => !w.isExcluded x.path) ∧
        (v.registry.KeepsPaths →
          t.records = s.records.filter fun r => !w.isExcluded r.path)) := by
  have hpatterns := isExcluded_iff_of_new hw
  have hmore : ∀ path, v.isExcluded path = true → w.isExcluded path = true := by
    intro path hx
    obtain ⟨pattern, hp, g, hg, hm⟩ := (isExcluded_iff_of_new hv path).1 hx
    exact (hpatterns path).2 ⟨pattern, hsub hp, g, hg, hm⟩
  obtain ⟨excludes, rfl⟩ := exists_excludes_of_new hv hw
  have hsa := hs.agrees
  have hta := ht.agrees
  obtain ⟨herrors, hrecords⟩ := (inStep_run hmore files fetch).narrows hmore
  have hperm : v.registry.KeepsPaths →
      t.records.Perm (s.records.filter fun r => !{ v with excludes }.isExcluded r.path) :=
    fun hk => hta.records.trans (hrecords hk ▸ (hsa.records.filter _).symm)
  refine ⟨hpatterns, ⟨?_, ?_, ?_, hperm, ?_⟩, ?_⟩
  · exact (hta.errors.filter _).trans (herrors ▸ (hsa.errors.filter _).symm)
  · exact (hta.errors.filter _).trans (excluded_run_perm _ files fetch)
  · exact records_run_excludes hmore files fetch ▸ hta.records
  · intro hk
    obtain ⟨late, hruns, -⟩ := hs
    obtain ⟨late', hruns', -⟩ := ht
    exact map_path_of_perm (hperm hk) hruns'.sorted (hruns.sorted.filter _)
  · rintro (⟨rfl, rfl⟩ | hn | hstep)
    · exact ⟨herrors, hrecords⟩
    · rw [hs.errors_eq hn, ht.errors_eq hn]
      refine ⟨herrors, fun hk => ?_⟩
      rw [hs.records_eq hk hn, ht.records_eq hk hn]
      exact hrecords hk
    · exact hstep.narrows hmore

/-- Who excludes all Python files besides loses the Python file of two. -/
theorem excluding_narrows_sample :
    ∃ v w, Surveyor.new .lineMetrics { excludePatterns := [] } = .ok v ∧
      Surveyor.new .lineMetrics { excludePatterns := ["*.py"] } = .ok w ∧
      (w.run sampleFiles sampleFetch .never).summary.errors.filter (w.isExcluded ·.path) =
        [{ path := "b.py", reason := .excluded }] ∧
      (w.run sampleFiles sampleFetch .never).records =
        (v.run sampleFiles sampleFetch .never).records.filter fun r => !w.isExcluded r.path := by
  obtain ⟨v, hv, -⟩ : ∃ v, Surveyor.new .lineMetrics { excludePatterns := [] } = .ok v ∧ true :=
    exists_ok_of_any (by decide +kernel)
  obtain ⟨w, hw, hpaths⟩ : ∃ w, Surveyor.new .lineMetrics { excludePatterns := ["*.py"] } = .ok w ∧
      (!w.isExcluded "a.go" && w.isExcluded "b.py") = true :=
    exists_ok_of_any (by decide +kernel)
  rw [Bool.and_eq_true, Bool.not_eq_true'] at hpaths
  have hkeeps : v.registry.KeepsPaths :=
    registry_of_new hv ▸ Registry.built_lineMetrics.keepsPaths
  obtain ⟨-, hnarrows, hordered⟩ := excluding_narrows hv hw (by simp)
    (completes_run v sampleFiles sampleFetch) (completes_run w sampleFiles sampleFetch)
  obtain ⟨-, hrecords⟩ := hordered (.inl ⟨rfl, rfl⟩)
  have hexcluded : sampleFiles.filter (w.isExcluded ·.path) = [sampleEntry "b.py"] := by
    simp [sampleFiles, sampleEntry, hpaths]
  refine ⟨v, w, hv, hw, ?_, hrecords hkeeps⟩
  have hskipped := hnarrows.skipped
  rw [hexcluded] at hskipped
  exact List.perm_singleton.1 hskipped

def twin (id : String) : Entry := { path := "a.go", id, size := 1 }

/-- Two files of one path and another one. -/
def twinFiles : List Entry := [twin "1", twin "22", sampleEntry "b.py"]

/-- Workers may come to the two files of one path in the other order when the third is excluded. -/
theorem excluding_reorders :
    ∃ v w s t, Surveyor.new .lineMetrics { excludePatterns := [] } = .ok v ∧
      Surveyor.new .lineMetrics { excludePatterns := ["*.py"] } = .ok w ∧
      v.registry.KeepsPaths ∧ v.Completes twinFiles sampleFetch s ∧
      w.Completes twinFiles sampleFetch t ∧
      t.records ≠ s.records.filter fun r => !w.isExcluded r.path := by
  obtain ⟨v, hv, hfiles⟩ : ∃ v, Surveyor.new .lineMetrics { excludePatterns := [] } = .ok v ∧
      decide (0 < v.parallelism ∧ v.pending twinFiles = twinFiles ∧
        ∀ e ∈ twinFiles, (v.process sampleFetch e).toOption.any fun r =>
          r.path = e.path && r.byteSize = e.id.utf8ByteSize) = true :=
    exists_ok_of_any (by decide +kernel)
  obtain ⟨w, hw, hleft⟩ : ∃ w, Surveyor.new .lineMetrics { excludePatterns := ["*.py"] } = .ok w ∧
      decide (0 < w.parallelism ∧ w.pending twinFiles = [twin "1", twin "22"] ∧
        w.isExcluded "a.go" = false) = true :=
    exists_ok_of_any (by decide +kernel)
  obtain ⟨hparallel, hpending, hfiles⟩ := of_decide_eq_true hfiles
  obtain ⟨hparallel', hleft, hkept⟩ := of_decide_eq_true hleft
  have hread : ∀ e ∈ twinFiles, ∃ r, v.process sampleFetch e = .ok r ∧ r.path = e.path ∧
      r.byteSize = e.id.utf8ByteSize := by
    intro e he
    obtain ⟨r, hr, hheader⟩ := exists_ok_of_any (hfiles e he)
    exact ⟨r, hr, by simpa using hheader⟩
  obtain ⟨r₁, hr₁, hp₁, hb₁⟩ := hread (twin "1") (by simp [twinFiles])
  obtain ⟨r₂, hr₂, hp₂, hb₂⟩ := hread (twin "22") (by simp [twinFiles])
  obtain ⟨r₃, hr₃, hp₃, hb₃⟩ := hread (sampleEntry "b.py") (by simp [twinFiles])
  have hkeeps : v.registry.KeepsPaths :=
    registry_of_new hv ▸ Registry.built_lineMetrics.keepsPaths
  have hprocess : w.process = v.process := by
    obtain ⟨excludes, rfl⟩ := exists_excludes_of_new hv hw
    rfl
  -- The first survey receives the two files as they are listed, the second one the other way round.
  have horder : twinFiles.Perm (v.pending twinFiles) := by rw [hpending]
  have horder' : [twin "22", twin "1"].Perm (w.pending twinFiles) := by
    rw [hleft]
    exact .swap _ _ []
  obtain ⟨s, hs⟩ := exists_arrives sampleFetch hparallel horder
  obtain ⟨t, ht⟩ := exists_arrives sampleFetch hparallel' horder'
  have hsr : s.records = [r₁, r₂, r₃] := by
    apply hs.records_of_sorted
    · simp [twinFiles, hr₁, hr₂, hr₃]
    · simp [hp₁, hp₂, hp₃, twin, sampleEntry]
  have htr : t.records = [r₂, r₁] := by
    apply ht.records_of_sorted
    · simp [hprocess, hr₁, hr₂]
    · simp [hp₁, hp₂, twin]
  refine ⟨v, w, s, t, hv, hw, hkeeps, hs.completes, ht.completes, ?_⟩
  intro h
  have hfirst : (!w.isExcluded r₁.path) = true := by simp [hp₁, twin, hkept]
  rw [hsr, htr, List.filter_cons, if_pos hfirst] at h
  obtain rfl : r₂ = r₁ := (List.cons.inj h).1
  exact absurd (hb₁.symm.trans hb₂) (by decide)

end Surveyor

end CodeSurvey
