import CodeSurvey.Command.Run
import CodeSurvey.Proofs.LanguageFilter

/-! How the command that surveys files ends: without a report if it is hindered, and else with one
report and an exit that tells whether every file has a record. -/
namespace CodeSurvey

/-! ### Valid configurations -/

section

variable {α β ε : Type} {x : Except ε α} {f : α → Except ε β}

theorem exists_ok_bind_iff : (∃ b, (x >>= f) = .ok b) ↔ ∃ a, x = .ok a ∧ ∃ b, f a = .ok b := by
  constructor
  · rintro ⟨b, h⟩
    obtain ⟨a, ha, hb⟩ := exists_ok_of_bind h
    exact ⟨a, ha, b, hb⟩
  · rintro ⟨a, rfl, b, hb⟩
    exact ⟨b, hb⟩

/-- What is gathered one after another can be gathered if each of it can. -/
theorem exists_mapM_ok_iff {xs : List α} :
    (∃ ys, xs.mapM f = .ok ys) ↔ ∀ x ∈ xs, ∃ y, f x = .ok y := by
  induction xs with
  | nil => exact ⟨fun _ _ h => (List.not_mem_nil h).elim, fun _ => ⟨[], rfl⟩⟩
  | cons x xs ih =>
    rw [List.mapM_cons, exists_ok_bind_iff, List.forall_mem_cons, ← ih]
    constructor
    · rintro ⟨y, hy, h⟩
      obtain ⟨ys, hys, -⟩ := exists_ok_bind_iff.1 h
      exact ⟨⟨y, hy⟩, ys, hys⟩
    · rintro ⟨⟨y, hy⟩, ys, hys⟩
      exact ⟨y, hy, exists_ok_bind_iff.2 ⟨ys, hys, y :: ys, rfl⟩⟩

end

namespace Config

/-- Why a configuration cannot be used. -/
def Invalid (c : Config) : Prop :=
  c.parallelism = 0 ∨ (∃ name ∈ c.languages, Language.parse? name = none) ∨
    ∃ pattern ∈ c.excludePatterns, ∀ g, Glob.ofText pattern ≠ .ok g

theorem exists_requestedLanguages_iff {c : Config} :
    (∃ ls, c.requestedLanguages = .ok ls) ↔ ∀ name ∈ c.languages, Language.parse? name ≠ none := by
  rw [requestedLanguages, exists_ok_bind_iff]
  have hall : ∀ ls : List Language, ∃ found,
      (pure (Language.sorted ls) : Except AnalysisError _) = .ok found :=
    fun ls => ⟨_, rfl⟩
  simp only [hall, and_true, exists_mapM_ok_iff]
  refine forall₂_congr fun name _ => ?_
  cases Language.parse? name <;> simp

theorem exists_excludeGlobs_iff {c : Config} :
    (∃ globs, c.excludeGlobs = .ok globs) ↔
      ∀ pattern ∈ c.excludePatterns, ∃ g, Glob.ofText pattern = .ok g := by
  rw [excludeGlobs, exists_mapM_ok_iff]
  refine forall₂_congr fun pattern _ => ?_
  rw [readGlob]
  cases Glob.ofText pattern <;> simp

theorem exists_validate_iff {c : Config} :
    (∃ u, c.validate = .ok u) ↔ c.parallelism ≠ 0 ∧ (∃ ls, c.requestedLanguages = .ok ls) ∧
      ∃ globs, c.excludeGlobs = .ok globs := by
  have hrest : (∃ u, (do let _ ← c.requestedLanguages; let _ ← c.excludeGlobs :
      Except AnalysisError Unit) = .ok u) ↔
      (∃ ls, c.requestedLanguages = .ok ls) ∧ ∃ globs, c.excludeGlobs = .ok globs := by
    simp only [exists_ok_bind_iff]
    constructor
    · rintro ⟨ls, hls, globs, hglobs, -⟩
      exact ⟨⟨ls, hls⟩, globs, hglobs⟩
    · rintro ⟨⟨ls, hls⟩, globs, hglobs⟩
      exact ⟨ls, hls, globs, hglobs, (), rfl⟩
  by_cases hp : c.parallelism = 0
  · have hthrow : c.validate = .error (.invalidConfig "parallelism must be at least 1") := by
      rw [validate, if_pos (beq_iff_eq.2 hp)]
      rfl
    simp [hthrow, hp]
  · have hpass : c.validate = (do let _ ← c.requestedLanguages; let _ ← c.excludeGlobs) := by
      rw [validate, if_neg fun h => hp (beq_iff_eq.1 h)]
    rw [hpass, hrest]
    exact ⟨fun h => ⟨hp, h⟩, fun h => h.2⟩

/-- Why the content of a file is no configuration: there is none, it is no text, or the text does not
say what a configuration has to say. -/
inductive Unread (content : Except FileFault ByteArray) : Prop where
  | missing {fault : FileFault} (h : content = .error fault)
  | notText {bytes : ByteArray} (h : content = .ok bytes) (hutf8 : String.fromUTF8? bytes = none)
  | malformed {bytes : ByteArray} {text : String} (h : content = .ok bytes)
      (hutf8 : String.fromUTF8? bytes = some text) (hyaml : ofYaml? text = none)

theorem exists_ofFile_error_iff {content : Except FileFault ByteArray} :
    (∃ e, ofFile content = .error e) ↔ Unread content := by
  cases content with
  | error fault => exact ⟨fun _ => .missing rfl, fun _ => ⟨_, rfl⟩⟩
  | ok bytes =>
    rw [ofFile]
    constructor
    · rintro ⟨e, h⟩
      cases hutf8 : String.fromUTF8? bytes with
      | none => exact .notText rfl hutf8
      | some text =>
        cases hyaml : ofYaml? text with
        | none => exact .malformed rfl hutf8 hyaml
        | some c => simp [hutf8, hyaml] at h
    · intro h
      cases h with
      | missing h => cases h
      | notText h hutf8 =>
        cases h
        simp [hutf8]
      | malformed h hutf8 hyaml =>
        cases h
        simp [hutf8, hyaml]

end Config

theorem Surveyor.exists_new_iff {registry : Registry} {c : Config} :
    (∃ v, Surveyor.new registry c = .ok v) ↔ ¬ c.Invalid := by
  have hvalid : (∃ v, Surveyor.new registry c = .ok v) ↔ ∃ u, c.validate = .ok u := by
    constructor
    · rintro ⟨v, h⟩
      obtain ⟨u, hu, -⟩ := exists_ok_of_bind h
      exact ⟨u, hu⟩
    · rintro ⟨u, hu⟩
      obtain ⟨-, ⟨ls, hls⟩, globs, hglobs⟩ := Config.exists_validate_iff.1 ⟨u, hu⟩
      rw [Surveyor.new]
      exact exists_ok_bind_iff.2 ⟨u, hu, exists_ok_bind_iff.2 ⟨ls, hls,
        exists_ok_bind_iff.2 ⟨globs, hglobs, _, rfl⟩⟩⟩
  rw [hvalid, Config.exists_validate_iff, Config.exists_requestedLanguages_iff,
    Config.exists_excludeGlobs_iff, Config.Invalid]
  push Not
  rfl

/-! ### What is fetched -/

/-- Gives a content and notes that it was asked for. -/
def Fetch.noting (fetch : Fetch) (id : String) :
    StateM (List String) (Except ContentError ByteArray) := do
  modify (· ++ [id])
  return fetch id

namespace Surveyor

variable (v : Surveyor) (fetch : Fetch)

/-- A file is fetched once, by its id. -/
theorem processVia_noting (e : Entry) (log : List String) :
    (v.processVia fetch.noting e).run log = (v.process fetch e, log ++ [e.id]) := rfl

theorem mapM_processVia_noting (es : List Entry) (log : List String) :
    (es.mapM (v.processVia fetch.noting)).run log =
      (es.map (v.process fetch), log ++ es.map Entry.id) := by
  induction es generalizing log with
  | nil =>
    simp only [List.map_nil, List.append_nil]
    rfl
  | cons e es ih =>
    have hrest := ih (log ++ [e.id])
    rw [List.append_assoc] at hrest
    rw [List.mapM_cons, StateT.run_bind, processVia_noting]
    change ((es.mapM (v.processVia fetch.noting) >>= fun os =>
      pure (v.process fetch e :: os) : StateM (List String) _)).run (log ++ [e.id]) = _
    rw [StateT.run_bind, hrest]
    rfl

/-- Contents that are gone for come to the same, and each file that is not skipped is fetched
once. -/
theorem runVia_noting (files : List Entry) (log : List String) :
    (v.runVia fetch.noting files).run log =
      (v.run files fetch .never, log ++ (v.pending files).map Entry.id) := by
  rw [runVia, StateT.run_bind, mapM_processVia_noting, run_never]
  rfl

end Surveyor

/-! ### Surveys that have taken up every file -/

namespace Surveyor

variable {v : Surveyor} {files : List Entry} {fetch : Fetch} {s : Survey}

/-- A file is skipped, or fails. -/
def FailsWith (v : Surveyor) (fetch : Fetch) (e : Entry) (x : FileError) : Prop :=
  v.screen e = some x ∨ v.screen e = none ∧ v.process fetch e = .error x

theorem Completes.mem_errors_iff (h : v.Completes files fetch s) {x : FileError} :
    x ∈ s.summary.errors ↔ ∃ e ∈ files, v.FailsWith fetch e x := by
  obtain ⟨os, hperm, rfl⟩ := h.collected
  have herrors := Survey.errors_collect_perm files.length (v.skips files) os false
  have hprocess : x ∈ Survey.errorsOf os ↔ ∃ e ∈ v.pending files, v.process fetch e = .error x := by
    rw [Survey.errorsOf, (hperm.filterMap _).mem_iff]
    simp only [List.mem_filterMap, List.mem_map, exists_exists_and_eq_and]
    refine exists_congr fun e => and_congr_right fun _ => ?_
    cases v.process fetch e <;> simp [Outcome.error?]
  rw [herrors.mem_iff, List.mem_append, hprocess, skips, List.mem_filterMap]
  constructor
  · rintro (⟨e, he, hs⟩ | ⟨e, he, hp⟩)
    · exact ⟨e, he, Or.inl hs⟩
    · obtain ⟨hfile, hs⟩ := mem_pending.1 he
      exact ⟨e, hfile, Or.inr ⟨hs, hp⟩⟩
  · rintro ⟨e, he, hs | ⟨hs, hp⟩⟩
    · exact Or.inl ⟨e, he, hs⟩
    · exact Or.inr ⟨e, mem_pending.2 ⟨he, hs⟩, hp⟩

/-- Every file has a record or an error, and nothing is left. -/
theorem Completes.counted (h : v.Completes files fetch s) :
    s.summary.totalFiles = files.length ∧
      s.summary.parsedCount + s.summary.failedCount = files.length ∧
      s.summary.errors.length = s.summary.failedCount ∧ s.summary.cancelled = false := by
  obtain ⟨os, hperm, rfl⟩ := h.collected
  have hskips := length_skips_add v files
  have hlen := hperm.length_eq
  rw [List.length_map] at hlen
  have hcounted := Survey.counted_collect files.length (v.skips files) os false
  refine ⟨Survey.totalFiles_collect _ _ _ _, by omega, Survey.length_errors_collect _ _ _ _, ?_⟩
  rw [Survey.summary_collect]
  rfl

theorem Completes.mem_records (h : v.Completes files fetch s) {e : Entry} {r : FileRecord}
    (he : e ∈ files) (hs : v.screen e = none) (hp : v.process fetch e = .ok r) : r ∈ s.records := by
  obtain ⟨os, hperm, rfl⟩ := h.collected
  have hrecords := Survey.records_collect_perm files.length (v.skips files) os false
  apply hrecords.mem_iff.2
  apply (hperm.filterMap _).mem_iff.2
  exact mem_recordsOf_process.2 ⟨e, mem_pending.2 ⟨he, hs⟩, hp⟩

/-- No file has failed when every file has a record. -/
theorem Completes.failedCount_eq_zero_iff (h : v.Completes files fetch s) :
    s.summary.failedCount = 0 ↔
      ∀ e ∈ files, v.screen e = none ∧ ∃ r ∈ s.records, v.process fetch e = .ok r := by
  obtain ⟨-, -, herrors, -⟩ := h.counted
  rw [← herrors, List.length_eq_zero_iff, List.eq_nil_iff_forall_not_mem]
  constructor
  · intro hnone e he
    cases hs : v.screen e with
    | some x => exact absurd (h.mem_errors_iff.2 ⟨e, he, Or.inl hs⟩) (hnone x)
    | none =>
      cases hp : v.process fetch e with
      | error x => exact absurd (h.mem_errors_iff.2 ⟨e, he, Or.inr ⟨hs, hp⟩⟩) (hnone x)
      | ok r => exact ⟨rfl, r, h.mem_records he hs hp, rfl⟩
  · intro hall x hx
    obtain ⟨e, he, hfails⟩ := h.mem_errors_iff.1 hx
    obtain ⟨hs, r, -, hp⟩ := hall e he
    rcases hfails with hs' | ⟨-, hp'⟩
    · rw [hs] at hs'
      cases hs'
    · rw [hp] at hp'
      cases hp'

theorem Completes.failedCount_pos_iff (h : v.Completes files fetch s) :
    0 < s.summary.failedCount ↔
      ∃ e ∈ files, ∃ x ∈ s.summary.errors, v.FailsWith fetch e x := by
  obtain ⟨-, -, herrors, -⟩ := h.counted
  rw [← herrors, List.length_pos_iff_exists_mem]
  constructor
  · rintro ⟨x, hx⟩
    obtain ⟨e, he, hfails⟩ := h.mem_errors_iff.1 hx
    exact ⟨e, he, x, hx, hfails⟩
  · rintro ⟨-, -, x, hx, -⟩
    exact ⟨x, hx⟩

end Surveyor

/-- Every report has at least one line. -/
theorem Report.render_ne_empty (color : Bool) (format : Report.Format) (root : String)
    (s : Survey) : Report.render color format root s ≠ "" := by
  cases format with
  | json => simp [Report.render, Report.json]
  | pretty => simp [Report.render, Report.pretty, Report.header]

namespace AnalyzeOptions

variable {o : AnalyzeOptions} {registry : Registry} {files files' : FileTree ByteArray}
  {root : String} {color : Bool} {format : Report.Format} {v : Surveyor} {r : Reply} {s : Survey}

/-! ### What hinders the command -/

/-- The configuration that is asked for: that of the file, or else the default one. -/
def loaded (o : AnalyzeOptions) (files : FileTree ByteArray) : Except AnalysisError Config :=
  match o.configPath? files.exists? with
  | none => .ok {}
  | some path => Config.ofFile (files.read path)

/-- Why there is no report. -/
inductive Hindered (o : AnalyzeOptions) (files : FileTree ByteArray) (root : String) : Prop where
  | format (h : o.format.getD "pretty" ∉ ["pretty", "json"])
  | config {path : String} (hpath : o.configPath? files.exists? = some path)
      (h : Config.Unread (files.read path))
  | invalid {c : Config} (hc : o.loaded files = .ok c) (h : (o.override c).Invalid)
  | listing {e : AnalysisError} (h : files.listing ByteArray.size root o.followLinks = .error e)

theorem exists_loaded_error_iff :
    (∃ e, o.loaded files = .error e) ↔
      ∃ path, o.configPath? files.exists? = some path ∧ Config.Unread (files.read path) := by
  rw [loaded]
  cases o.configPath? files.exists? with
  | none => simp
  | some path => simp [Config.exists_ofFile_error_iff]

theorem exists_reportFormat_iff :
    (∃ format, o.reportFormat = .ok format) ↔ o.format.getD "pretty" ∈ ["pretty", "json"] := by
  rw [reportFormat]
  generalize hname : o.format.getD Report.Format.pretty.name = name
  have hname' : o.format.getD "pretty" = name := hname
  rw [hname']
  have hfound : (∃ f, Report.Format.ofName? name = some f) ↔ name ∈ ["pretty", "json"] := by
    have hall : (Report.Format.ofName? name).isSome ↔ "pretty" = name ∨ "json" = name := by
      simp [Report.Format.ofName?, Report.Format.all, Report.Format.name]
    rw [← Option.isSome_iff_exists, hall]
    constructor
    · rintro (rfl | rfl) <;> simp
    · intro h
      rcases List.mem_cons.1 h with h | h
      · exact Or.inl h.symm
      · exact Or.inr (List.mem_singleton.1 h).symm
  rw [← hfound]
  cases Report.Format.ofName? name <;> simp

theorem mapError_ok_iff {α ε ε' : Type} {x : Except ε α} {f : ε → ε'} {a : α} :
    x.mapError f = .ok a ↔ x = .ok a := by
  cases x <;> simp [Except.mapError]

/-- A configuration that is there, from wherever it comes, gives a surveyor or not. -/
theorem prepared_ok_iff (config : Except Refusal Config) :
    (do
      let format ← o.reportFormat
      let c ← config
      let surveyor ← (Surveyor.new registry (o.override c)).mapError .failed
      return (format, surveyor)) = .ok (format, v) ↔
    o.reportFormat = .ok format ∧ ∃ c, config = .ok c ∧
      Surveyor.new registry (o.override c) = .ok v := by
  constructor
  · intro h
    obtain ⟨format', hformat, h⟩ := exists_ok_of_bind h
    obtain ⟨c, hc, h⟩ := exists_ok_of_bind h
    obtain ⟨v', hv, h⟩ := exists_ok_of_bind h
    cases h
    exact ⟨hformat, c, hc, mapError_ok_iff.1 hv⟩
  · rintro ⟨hformat, c, rfl, hv⟩
    rw [hformat]
    change (((Surveyor.new registry (o.override c)).mapError Refusal.failed) >>= _) = _
    rw [mapError_ok_iff.2 hv]
    rfl

theorem prepare_ok_iff :
    o.prepare registry (o.configFile? files) = .ok (format, v) ↔
      o.reportFormat = .ok format ∧ ∃ c, o.loaded files = .ok c ∧
        Surveyor.new registry (o.override c) = .ok v := by
  rw [prepare, configFile?, loaded]
  cases o.configPath? files.exists? with
  | none =>
    refine (prepared_ok_iff (.ok {})).trans ?_
    simp only [Except.ok.injEq]
  | some path =>
    refine (prepared_ok_iff
      ((Config.ofFile (files.read path)).mapError (.badConfigFile path))).trans ?_
    simp only [mapError_ok_iff]

theorem survey_ok_iff {format : Report.Format} :
    o.survey registry files root = .ok (format, s) ↔
      ∃ v entries, o.prepare registry (o.configFile? files) = .ok (format, v) ∧
        files.listing ByteArray.size root o.followLinks = .ok entries ∧
        s = v.run entries files.fetch .never := by
  constructor
  · intro h
    obtain ⟨⟨format', v⟩, hp, h⟩ := exists_ok_of_bind h
    obtain ⟨s', hs, h⟩ := exists_ok_of_bind h
    cases h
    have hrun := mapError_ok_iff.1 hs
    cases hl : files.listing ByteArray.size root o.followLinks with
    | error e =>
      rw [hl] at hrun
      cases hrun
    | ok entries =>
      rw [hl] at hrun
      cases hrun
      exact ⟨v, entries, hp, rfl, rfl⟩
  · rintro ⟨v, entries, hp, hl, rfl⟩
    simp only [survey, hp, hl]
    rfl

/-- The command is carried out unless something hinders it. -/
theorem exists_survey_iff :
    (∃ x, o.survey registry files root = .ok x) ↔ ¬ o.Hindered files root := by
  constructor
  · rintro ⟨⟨format, s⟩, h⟩ hindered
    obtain ⟨v, entries, hp, hl, -⟩ := survey_ok_iff.1 h
    obtain ⟨hformat, c, hc, hv⟩ := prepare_ok_iff.1 hp
    cases hindered with
    | format hf => exact hf (exists_reportFormat_iff.1 ⟨format, hformat⟩)
    | config hpath hread =>
      obtain ⟨e, he⟩ := exists_loaded_error_iff.2 ⟨_, hpath, hread⟩
      rw [hc] at he
      cases he
    | invalid hc' hi =>
      rw [hc] at hc'
      cases hc'
      exact Surveyor.exists_new_iff.1 ⟨v, hv⟩ hi
    | listing he =>
      rw [hl] at he
      cases he
  · intro h
    obtain ⟨format, hformat⟩ : ∃ format, o.reportFormat = .ok format :=
      exists_reportFormat_iff.2 (by_contra fun hf => h (.format hf))
    cases hc : o.loaded files with
    | error e =>
      obtain ⟨path, hpath, hread⟩ := exists_loaded_error_iff.1 ⟨e, hc⟩
      exact absurd (.config hpath hread) h
    | ok c =>
      obtain ⟨v, hv⟩ : ∃ v, Surveyor.new registry (o.override c) = .ok v :=
        Surveyor.exists_new_iff.2 fun hi => h (.invalid hc hi)
      cases hl : files.listing ByteArray.size root o.followLinks with
      | error e => exact absurd (.listing hl) h
      | ok entries =>
        have hp := prepare_ok_iff.2 ⟨hformat, c, hc, hv⟩
        exact ⟨(format, _), survey_ok_iff.2 ⟨v, entries, hp, hl, rfl⟩⟩

/-! ### The command and its fetches -/

/-- The command with a note of what it fetches. -/
def surveyNoting (o : AnalyzeOptions) (registry : Registry) (files : FileTree ByteArray)
    (root : String) : StateM (List String) (Except Refusal (Report.Format × Survey)) :=
  o.surveyVia registry (o.configFile? files)
    (pure (files.listing ByteArray.size root o.followLinks)) files.fetch.noting

theorem surveyNoting_of_error {refusal : Refusal}
    (h : o.survey registry files root = .error refusal) :
    (o.surveyNoting registry files root).run [] = (.error refusal, []) := by
  rw [surveyNoting, surveyVia]
  rw [survey] at h
  cases hp : o.prepare registry (o.configFile? files) with
  | error e =>
    rw [hp] at h
    cases h
    rfl
  | ok x =>
    rw [hp] at h
    cases hl : files.listing ByteArray.size root o.followLinks with
    | error e =>
      rw [hl] at h
      cases h
      rfl
    | ok entries =>
      rw [hl] at h
      cases h

theorem surveyNoting_of_ok {entries : List Entry}
    (hp : o.prepare registry (o.configFile? files) = .ok (format, v))
    (hl : files.listing ByteArray.size root o.followLinks = .ok entries) :
    (o.surveyNoting registry files root).run [] =
      (o.survey registry files root, (v.pending entries).map Entry.id) := by
  have hs := survey_ok_iff.2 ⟨v, entries, hp, hl, rfl⟩
  have hrun := v.runVia_noting files.fetch entries []
  rw [hs, surveyNoting, surveyVia, hp, hl]
  change (v.runVia files.fetch.noting entries >>= fun s =>
    (pure (.ok (format, s)) : StateM (List String) (Except Refusal _))).run [] = _
  rw [StateT.run_bind, hrun]
  rfl

/-! ### The exit -/

/-- The replies that the command can give: workers may be done with the files in any order. -/
inductive Replies (o : AnalyzeOptions) (registry : Registry) (files : FileTree ByteArray)
    (color : Bool) (root : String) : Reply → Prop where
  | refused {refusal : Refusal} (h : o.survey registry files root = .error refusal) :
      Replies o registry files color root (o.reply color root (.error refusal))
  | reported {format : Report.Format} {v : Surveyor} {entries : List Entry} {s : Survey}
      (hp : o.prepare registry (o.configFile? files) = .ok (format, v))
      (hl : files.listing ByteArray.size root o.followLinks = .ok entries)
      (hs : v.Completes entries files.fetch s) :
      Replies o registry files color root (o.reply color root (.ok (format, s)))

theorem replies_run (o : AnalyzeOptions) (registry : Registry) (files : FileTree ByteArray)
    (color : Bool) (root : String) :
    o.Replies registry files color root (o.run registry files color root) := by
  rw [run]
  cases h : o.survey registry files root with
  | error refusal => exact .refused h
  | ok x =>
    obtain ⟨v, entries, hp, hl, hs⟩ := survey_ok_iff.1 h
    exact .reported hp hl (hs ▸ v.completes_run entries files.fetch)

/-- One report goes to the terminal, or to one file. It is not empty. -/
def Delivers (o : AnalyzeOptions) (color : Bool) (root : String) (format : Report.Format)
    (s : Survey) (r : Reply) (files files' : FileTree ByteArray) : Prop :=
  (o.output = none ∧ r.stdout = Report.render color format root s ∧ r.stdout ≠ "" ∧
    r.file = none ∧ files' = files) ∨
  ∃ path report, o.output = some path ∧ r.stdout = "" ∧
    report = Report.render false format root s ∧ report ≠ "" ∧ r.file = some (path, report) ∧
    files.write path report.toUTF8 = .ok files'

/-- The exit of a command that surveys some entries: all have records, or some have not. -/
structure Tells (v : Surveyor) (entries : List Entry) (fetch : Fetch) (s : Survey) (code : UInt32) :
    Prop where
  success : code = 0 ↔
    ∀ e ∈ entries, v.screen e = none ∧ ∃ r ∈ s.records, v.process fetch e = .ok r
  counts : code = 0 ↔ s.summary.parsedCount = s.summary.totalFiles
  incomplete : code = 1 ↔ ∃ e ∈ entries, ∃ x ∈ s.summary.errors, v.FailsWith fetch e x

theorem tells_exitOf {entries : List Entry} {fetch : Fetch} (h : v.Completes entries fetch s) :
    Tells v entries fetch s (exitOf s).code := by
  obtain ⟨htotal, hcounted, -, hcancelled⟩ := h.counted
  have hexit : exitOf s = if 0 < s.summary.failedCount then .incomplete else .success := by
    simp only [exitOf, hcancelled, Bool.or_false, decide_eq_true_eq]
  have hzero : (exitOf s).code = 0 ↔ s.summary.failedCount = 0 := by
    rw [hexit]
    split
    · next hpos => exact ⟨fun hc => absurd hc (by decide), fun hc => absurd hpos (by omega)⟩
    · next hpos => exact ⟨fun _ => by omega, fun _ => rfl⟩
  have hone : (exitOf s).code = 1 ↔ 0 < s.summary.failedCount := by
    rw [hexit]
    split
    · next hpos => exact ⟨fun _ => hpos, fun _ => rfl⟩
    · next hpos => exact ⟨fun hc => absurd hc (by decide), fun hc => absurd hc hpos⟩
  exact {
    success := hzero.trans h.failedCount_eq_zero_iff
    counts := by
      rw [hzero, htotal]
      omega
    incomplete := hone.trans h.failedCount_pos_iff }

/-- How the command ends with a reply that has been delivered. -/
structure Ends (o : AnalyzeOptions) (registry : Registry) (files : FileTree ByteArray)
    (color : Bool) (root : String) (r : Reply) (files' : FileTree ByteArray) : Prop where
  /-- The exit is 2 exactly if the command is hindered. -/
  refused : r.exit.code = 2 ↔ o.Hindered files root
  /-- Then nothing is fetched, and nothing written. -/
  silent : r.exit.code = 2 → ((o.surveyNoting registry files root).run []).2 = [] ∧
    r.stdout = "" ∧ r.file = none ∧ files' = files
  /-- Else there is one report on all that is listed. -/
  reported : r.exit.code ≠ 2 → ∃ format v entries s,
    o.prepare registry (o.configFile? files) = .ok (format, v) ∧
    files.listing ByteArray.size root o.followLinks = .ok entries ∧
    v.Completes entries files.fetch s ∧ o.Delivers color root format s r files files' ∧
    Tells v entries files.fetch s r.exit.code

theorem code_exitOf_ne (s : Survey) : (exitOf s).code ≠ 2 := by
  rw [exitOf]
  split <;> decide

theorem delivers_reply
    (hw : (o.reply color root (.ok (format, s))).applyTo files = .ok files') :
    o.Delivers color root format s (o.reply color root (.ok (format, s))) files files' := by
  cases ho : o.output with
  | none =>
    simp only [reply, ho, Reply.applyTo, Except.ok.injEq] at hw ⊢
    exact Or.inl ⟨ho, rfl, Report.render_ne_empty color format root s, rfl, hw.symm⟩
  | some path =>
    simp only [reply, ho, Reply.applyTo] at hw ⊢
    exact Or.inr ⟨path, _, ho, rfl, rfl, Report.render_ne_empty false format root s, rfl, hw⟩

theorem exit_reply (s : Survey) :
    (o.reply color root (.ok (format, s))).exit = exitOf s := by
  cases ho : o.output <;> simp only [reply, ho]

/-- The note is of the command itself; and whoever gets a reply can tell from the exit whether the
command was hindered, or else whether every listed file has a record. -/
theorem run_ends (o : AnalyzeOptions) (registry : Registry) (files : FileTree ByteArray)
    (color : Bool) (root : String) :
    ((o.surveyNoting registry files root).run []).1 = o.survey registry files root ∧
      o.Replies registry files color root (o.run registry files color root) ∧
      ∀ r files', o.Replies registry files color root r → r.applyTo files = .ok files' →
        o.Ends registry files color root r files' := by
  refine ⟨?_, replies_run o registry files color root, ?_⟩
  · cases h : o.survey registry files root with
    | error refusal => rw [surveyNoting_of_error h]
    | ok x =>
      obtain ⟨v, entries, hp, hl, -⟩ := survey_ok_iff.1 h
      rw [surveyNoting_of_ok hp hl, h]
  · intro r files' hr hw
    cases hr with
    | refused h =>
      have hindered : o.Hindered files root := by
        by_contra hno
        obtain ⟨x, hx⟩ := exists_survey_iff.2 hno
        rw [h] at hx
        cases hx
      have hsame : files' = files := (Except.ok.inj hw).symm
      refine ⟨⟨fun _ => hindered, fun _ => rfl⟩, fun _ => ?_, fun hne => absurd rfl hne⟩
      rw [surveyNoting_of_error h]
      exact ⟨rfl, rfl, rfl, hsame⟩
    | @reported format v entries s hp hl hs =>
      have hcode : (o.reply color root (.ok (format, s))).exit.code ≠ 2 := by
        rw [exit_reply]
        exact code_exitOf_ne s
      have hfree : ¬ o.Hindered files root :=
        exists_survey_iff.1 ⟨_, survey_ok_iff.2 ⟨v, entries, hp, hl, rfl⟩⟩
      refine ⟨⟨fun hc => absurd hc hcode, fun hh => absurd hh hfree⟩, fun hc => absurd hc hcode,
        fun _ => ⟨format, v, entries, s, hp, hl, hs, delivers_reply hw, ?_⟩⟩
      rw [exit_reply]
      exact tells_exitOf hs

/-! A tree with a file that is excluded, and a report to a file. -/

def reportedTree : FileTree ByteArray where
  root := .dir [("src", .dir [("a.py", .file "x = 1\n".toUTF8), ("b.min.js", .file "y".toUTF8)])]

def reportedOptions : AnalyzeOptions := { output := some "report", parallelism := some 3 }

def idleOptions : AnalyzeOptions := { parallelism := some 0 }

/-- The excluded file makes the exit 1; without workers it is 2. -/
theorem run_ends_sample :
    (∃ files', reportedOptions.Ends .lineMetrics reportedTree false "src"
      (reportedOptions.run .lineMetrics reportedTree false "src") files' ∧
      (reportedOptions.run .lineMetrics reportedTree false "src").exit.code = 1) ∧
    ∃ files', idleOptions.Ends .lineMetrics reportedTree false "src"
      (idleOptions.run .lineMetrics reportedTree false "src") files' ∧
      (idleOptions.run .lineMetrics reportedTree false "src").exit.code = 2 := by
  constructor
  · obtain ⟨-, hr, hends⟩ := run_ends reportedOptions .lineMetrics reportedTree false "src"
    have hany : ((reportedOptions.run .lineMetrics reportedTree false "src").applyTo
        reportedTree).toOption.any (fun _ => true) = true := by decide +kernel
    obtain ⟨files', hw, -⟩ := exists_ok_of_any hany
    exact ⟨files', hends _ files' hr hw, by decide +kernel⟩
  · obtain ⟨-, hr, hends⟩ := run_ends idleOptions .lineMetrics reportedTree false "src"
    have hany : ((idleOptions.run .lineMetrics reportedTree false "src").applyTo
        reportedTree).toOption.any (fun _ => true) = true := by decide +kernel
    obtain ⟨files', hw, -⟩ := exists_ok_of_any hany
    exact ⟨files', hends _ files' hr hw, by decide +kernel⟩

end AnalyzeOptions

end CodeSurvey
