import CodeSurvey.Proofs.Arrival
import CodeSurvey.Proofs.Filing
import CodeSurvey.Proofs.Isolation
import CodeSurvey.Proofs.LanguageFilter

/-! A survey comes to the same summary whatever parsers there are. -/
namespace CodeSurvey

/-! ### What a record says of its file -/

namespace FileRecord

/-- What a record says of a file whoever has parsed it. -/
structure Header where
  path : String
  language : Language
  confidence : Float
  lineCount : Nat
  byteSize : Nat

def header (r : FileRecord) : Header where
  path := r.path
  language := r.language
  confidence := r.confidence
  lineCount := r.lineCount
  byteSize := r.byteSize

end FileRecord

open FileRecord (Header header)

/-- An outcome without what only its parser knows. -/
def Outcome.heading (o : Outcome) : Except FileError Header := o.map header

/-- Whether the parser of a file ran out of time. -/
def Outcome.isTimeout (o : Outcome) : Bool := (Outcome.error? o).any (·.reason == .timeout)

namespace Survey

variable {os os' : List Outcome}

theorem headers_recordsOf (os : List Outcome) :
    (recordsOf os).map header = (os.map Outcome.heading).filterMap Except.toOption := by
  induction os with
  | nil => rfl
  | cons o os ih =>
    cases o with
    | error e => exact ih
    | ok r => exact congrArg (header r :: ·) ih

theorem errorsOf_eq (os : List Outcome) :
    errorsOf os = (os.map Outcome.heading).filterMap fun o =>
      match o with
      | .error e => some e
      | .ok _ => none := by
  induction os with
  | nil => rfl
  | cons o os ih =>
    cases o with
    | error e => exact congrArg (e :: ·) ih
    | ok r => exact ih

/-- A summary is made of errors and headers. -/
theorem summary_eq_of_heading (h : os.map Outcome.heading = os'.map Outcome.heading) (total : Nat)
    (skips : List FileError) (asked : Bool) :
    (collect total skips os asked).summary = (collect total skips os' asked).summary := by
  have hheaders : (recordsOf os).map header = (recordsOf os').map header := by
    rw [headers_recordsOf, headers_recordsOf, h]
  have herrors : errorsOf os = errorsOf os' := by rw [errorsOf_eq, errorsOf_eq, h]
  have hrecords : (recordsOf os).length = (recordsOf os').length := by
    simpa using congrArg List.length hheaders
  have hlines : (recordsOf os).map FileRecord.lineCount =
      (recordsOf os').map FileRecord.lineCount := by
    have := congrArg (List.map Header.lineCount) hheaders
    rwa [List.map_map, List.map_map] at this
  have hcounts : ∀ l, (recordsOf os).countP (·.language = l) =
      (recordsOf os').countP (·.language = l) := by
    intro l
    have := congrArg (List.countP fun x => decide (Header.language x = l)) hheaders
    rwa [List.countP_map, List.countP_map] at this
  have hlength : os.length = os'.length := by simpa using congrArg List.length h
  simp only [summary_collect, herrors, hrecords, hlines, hcounts, hlength]

/-- Records are sorted by what their headers say. -/
theorem headers_collect (total : Nat) (skips : List FileError) (os : List Outcome) (asked : Bool) :
    (collect total skips os asked).records.map header =
      ((recordsOf os).map header).mergeSort fun a b => decide (a.path ≤ b.path) := by
  apply List.map_mergeSort
  intro a _ b _
  rfl

theorem headers_eq_of_heading (h : os.map Outcome.heading = os'.map Outcome.heading) (total : Nat)
    (skips : List FileError) (asked : Bool) :
    (collect total skips os asked).records.map header =
      (collect total skips os' asked).records.map header := by
  rw [headers_collect, headers_collect, headers_recordsOf, headers_recordsOf, h]

end Survey

namespace Surveyor

variable {v w : Surveyor} {files : List Entry} {fetch : Fetch} {e : Entry} {s t : Survey}

/-- What is known of a file before it is parsed. -/
def headingAt (fetch : Fetch) (e : Entry) : Except FileError Header :=
  match fetch e.id with
  | .error cause => .error (.ofError e.path (.contentUnavailable e.path cause))
  | .ok bytes =>
    let text := Text.ofBytes bytes
    let found := identify e.path (some text) e.languageHint
    .ok { path := e.path, language := found.language, confidence := found.confidence,
          lineCount := Text.countLines text, byteSize := bytes.size }

/-- No time limit is reached. -/
def InTime (v : Surveyor) (files : List Entry) (fetch : Fetch) : Prop :=
  ∀ e ∈ v.pending files, Outcome.isTimeout (v.process fetch e) = false

theorem heading_process (hb : v.registry.Built) (hg : v.registry.isSupported .generic = true)
    (hin : v.InTime files fetch) (he : e ∈ v.pending files) :
    Outcome.heading (v.process fetch e) = headingAt fetch e := by
  have htime := hin e he
  rw [process] at htime ⊢
  rw [headingAt]
  cases hbytes : fetch e.id with
  | error cause => rfl
  | ok bytes =>
    obtain ⟨p, hp, htakes⟩ := hb.exists_resolve hg
      (identify e.path (some (Text.ofBytes bytes)) e.languageHint).language
    rcases htakes (Text.ofBytes bytes) e.path v.options with ⟨x, hx, hpath, hlines⟩ | ⟨limit, -, hx⟩
    · simp only [analyze, hp, hx, Outcome.heading, Except.map, header, hpath, hlines]
    · simp only [hbytes, analyze, hp, hx] at htime
      cases htime

theorem filter_headers (hk : v.registry.KeepsPaths) (fetch : Fetch) (es : List Entry)
    (path : String) :
    ((Survey.recordsOf (es.map (v.process fetch))).map header).filter (·.path = path) =
      (Survey.recordsOf ((es.filter (·.path = path)).map (v.process fetch))).map header := by
  rw [List.filter_map, ← filter_recordsOf hk]
  rfl

section

variable {registry : Registry} (hb : v.registry.Built) (hb' : registry.Built)
  (hg : v.registry.isSupported .generic = true) (hg' : registry.isSupported .generic = true)
  (hin : v.InTime files fetch) (hin' : { v with registry }.InTime files fetch)

include hb hb' hg hg' hin hin'

/-- Files are screened without a look at the parsers, and those that are not skipped come to the
same headings. -/
theorem headings_of_registry {es : List Entry} (hes : ∀ e ∈ es, e ∈ v.pending files) :
    (es.map (v.process fetch)).map Outcome.heading =
      (es.map ({ v with registry }.process fetch)).map Outcome.heading := by
  rw [List.map_map, List.map_map]
  apply List.map_congr_left
  intro e he
  exact (heading_process hb hg hin (hes e he)).trans (heading_process hb' hg' hin' (hes e he)).symm

theorem run_of_registry :
    (v.run files fetch .never).summary = ({ v with registry }.run files fetch .never).summary ∧
      (v.run files fetch .never).records.map header =
        ({ v with registry }.run files fetch .never).records.map header := by
  have hheadings := headings_of_registry hb hb' hg hg' hin hin' fun _ he => he
  rw [run_never, run_never]
  exact ⟨Survey.summary_eq_of_heading hheadings _ _ _, Survey.headers_eq_of_heading hheadings _ _ _⟩

/-- Surveys in step come to the same also in the order. -/
theorem InStep.of_registry (h : InStep v { v with registry } files fetch (fun _ => true) s t) :
    s.summary.errors = t.summary.errors ∧ s.records.map header = t.records.map header := by
  obtain ⟨order, order', hs, ht, hsame⟩ := h
  obtain ⟨hperm, rfl⟩ := hs.collected
  obtain ⟨-, rfl⟩ := ht.collected
  have hheadings : ∀ path, ((order.filter (·.path = path)).map (v.process fetch)).map
        Outcome.heading =
      ((order'.filter (·.path = path)).map ({ v with registry }.process fetch)).map
        Outcome.heading := by
    intro path
    rw [← hsame path rfl]
    apply headings_of_registry hb hb' hg hg' hin hin'
    intro e he
    exact hperm.mem_iff.1 (List.mem_of_mem_filter he)
  constructor
  · rw [Survey.errors_collect, Survey.errors_collect]
    apply FileError.mergeSort_eq
    intro path
    rw [List.filter_append, List.filter_append, filter_errorsOf, filter_errorsOf,
      Survey.errorsOf_eq, Survey.errorsOf_eq, hheadings]
    rfl
  · rw [Survey.headers_collect, Survey.headers_collect]
    refine mergeSort_eq_of_filter_key (keyLe_trans Header.path) (keyLe_total Header.path)
      (fun _ _ => of_decide_eq_true) fun path => ?_
    rw [filter_headers hb.keepsPaths, filter_headers (v := { v with registry }) hb'.keepsPaths,
      Survey.headers_recordsOf, Survey.headers_recordsOf, hheadings]

end

/-- Surveys with one configuration and whatever parsers agree in their summaries and in what their
records say of the files, also in the order unless workers come to files of one path in another
order. -/
theorem summary_of_parsers {registry registry' : Registry} {config : Config}
    (hv : Surveyor.new registry config = .ok v) (hw : Surveyor.new registry' config = .ok w)
    (hb : registry.Built) (hb' : registry'.Built) (hg : registry.isSupported .generic = true)
    (hg' : registry'.isSupported .generic = true) (hin : v.InTime files fetch)
    (hin' : w.InTime files fetch) (hs : v.Completes files fetch s)
    (ht : w.Completes files fetch t) :
    s.summary = { t.summary with errors := s.summary.errors } ∧
      s.summary.errors.Perm t.summary.errors ∧
      (s.records.map header).Perm (t.records.map header) ∧
      (s = v.run files fetch .never ∧ t = w.run files fetch .never ∨
          (files.map Entry.path).Nodup ∨ InStep v w files fetch (fun _ => true) s t →
        s.summary = t.summary ∧ s.records.map header = t.records.map header) := by
  obtain ⟨hregistry, rfl⟩ : v.registry = registry ∧ w = { v with registry := registry' } := by
    obtain ⟨languages, excludes, hlanguages, hexcludes, rfl⟩ := exists_of_new hv
    obtain ⟨languages', excludes', hlanguages', hexcludes', rfl⟩ := exists_of_new hw
    obtain rfl : languages = languages' := Except.ok.inj (hlanguages.symm.trans hlanguages')
    obtain rfl : excludes = excludes' := Except.ok.inj (hexcludes.symm.trans hexcludes')
    exact ⟨rfl, rfl⟩
  subst hregistry
  obtain ⟨hsummary, hheaders⟩ := run_of_registry hb hb' hg hg' hin hin'
  have hsa := hs.agrees
  have hta := ht.agrees
  have herrors : s.summary.errors.Perm t.summary.errors :=
    hsa.errors.trans (hsummary ▸ hta.errors.symm)
  have hcounts : s.summary = { t.summary with errors := s.summary.errors } := by
    apply Summary.ext
    · rw [hsa.totalFiles, hsummary, hta.totalFiles]
    · rw [hsa.parsedCount, hsummary, hta.parsedCount]
    · rw [hsa.failedCount, hsummary, hta.failedCount]
    · rw [hsa.totalLines, hsummary, hta.totalLines]
    · rw [hsa.distribution, hsummary, hta.distribution]
    · rfl
    · rw [hsa.cancelled, hsummary, hta.cancelled]
  refine ⟨hcounts, herrors, ?_, ?_⟩
  · exact (hsa.records.map _).trans (hheaders ▸ (hta.records.map _).symm)
  · rintro (⟨rfl, rfl⟩ | hn | hstep)
    · exact ⟨hsummary, hheaders⟩
    · rw [hs.records_eq hb.keepsPaths hn, ht.records_eq hb'.keepsPaths hn]
      refine ⟨?_, hheaders⟩
      have hsame : s.summary.errors = t.summary.errors := by
        rw [hs.errors_eq hn, ht.errors_eq hn, hsummary]
      rw [hcounts, hsame]
    · obtain ⟨hsame, hheaders⟩ := hstep.of_registry hb hb' hg hg' hin hin'
      refine ⟨?_, hheaders⟩
      rw [hcounts, hsame]

/-! A file with a function, and one that cannot be read. -/

def functionTree : Tree :=
  Walk.sampleNode "module" 0 14 none
    [Walk.sampleNode "function_definition" 0 13 none
      [Walk.sampleNode "identifier" 4 5 (some "name") [],
       Walk.sampleNode "parameters" 5 7 (some "parameters") [],
       Walk.sampleNode "block" 9 13 (some "body") [Walk.sampleNode "pass_statement" 9 13 none []]]]

def functionTrees : TreeBuilder
  | .python, _ => some functionTree
  | _, _ => none

def functionStore : Store := [("a.py", "def f(): pass\n".toUTF8)]

def functionFiles : List Entry := [sampleEntry "a.py", sampleEntry "b.py"]

/-- Whether a survey of these files is in time and finds so many functions. -/
def findsFunctions (v : Surveyor) (n : Nat) : Bool :=
  functionFiles.all (fun e => !Outcome.isTimeout (v.process functionStore.fetch e)) &&
    ((functionFiles.filterMap (v.recordAt? functionStore.fetch)).map (·.functions.length)).sum == n

theorem inTime_of_findsFunctions {n : Nat} (h : v.findsFunctions n = true) :
    v.InTime functionFiles functionStore.fetch := by
  intro e he
  simp only [findsFunctions, Bool.and_eq_true, List.all_eq_true, Bool.not_eq_true'] at h
  exact h.1 e (mem_pending.1 he).1

/-- Line metrics find no function where the grammar finds one, with one and the same summary. -/
theorem summary_of_parsers_sample :
    ∃ v w, Surveyor.new .lineMetrics {} = .ok v ∧
      Surveyor.new (.standard functionTrees) {} = .ok w ∧
      v.findsFunctions 0 = true ∧ w.findsFunctions 1 = true ∧
      (v.run functionFiles functionStore.fetch .never).summary =
        (w.run functionFiles functionStore.fetch .never).summary ∧
      (v.run functionFiles functionStore.fetch .never).records.map header =
        (w.run functionFiles functionStore.fetch .never).records.map header := by
  obtain ⟨v, hv, hnone⟩ : ∃ v, Surveyor.new .lineMetrics {} = .ok v ∧ v.findsFunctions 0 = true :=
    exists_ok_of_any (by decide +kernel)
  obtain ⟨w, hw, hone⟩ : ∃ w, Surveyor.new (.standard functionTrees) {} = .ok w ∧
      w.findsFunctions 1 = true := exists_ok_of_any (by decide +kernel)
  obtain ⟨-, -, -, hordered⟩ := summary_of_parsers hv hw Registry.built_lineMetrics
    (Registry.built_standard _) rfl rfl (inTime_of_findsFunctions hnone)
    (inTime_of_findsFunctions hone) (completes_run v functionFiles functionStore.fetch)
    (completes_run w functionFiles functionStore.fetch)
  exact ⟨v, w, hv, hw, hnone, hone, hordered (.inl ⟨rfl, rfl⟩)⟩

end Surveyor

end CodeSurvey
