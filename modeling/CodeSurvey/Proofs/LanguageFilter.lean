import CodeSurvey.Proofs.Accounting

/-! The languages of a survey that only some are asked for. Files are screened by their hints and
paths, and their records go by their contents too; the two differ where neither hint nor path tells
anything. -/
namespace CodeSurvey

/-! ### Identification with and without content -/

/-- Neither the hint nor the path of a file tells its language. -/
def Entry.Unnamed (e : Entry) : Prop :=
  e.languageHint.bind hintedLanguage? = none ∧ languageOfPath? e.path = none

theorem identify_of_unnamed {e : Entry} (h : e.Unnamed) (content : Option String) :
    identify e.path content e.languageHint = (content.map identifyContent).getD .generic := by
  rw [identify, h.1]
  simp only [h.2]

/-- What the hint or the path says stands, whatever the content. -/
theorem identify_of_not_unnamed {e : Entry} (h : ¬ e.Unnamed) (content : Option String) :
    identify e.path content e.languageHint = identify e.path none e.languageHint := by
  simp only [identify]
  cases hh : e.languageHint.bind hintedLanguage? with
  | some language => rfl
  | none =>
    cases hp : languageOfPath? e.path with
    | some language => rfl
    | none => exact absurd ⟨hh, hp⟩ h

/-! ### Configurations -/

theorem Language.mem_all (l : Language) : l ∈ Language.all := by
  cases l <;> decide

theorem exists_ok_of_bind {α β ε : Type} {x : Except ε α} {f : α → Except ε β} {b : β}
    (h : (x >>= f) = .ok b) : ∃ a, x = .ok a ∧ f a = .ok b := by
  cases x with
  | error e => cases h
  | ok a => exact ⟨a, rfl, h⟩

theorem exists_ok_of_any {α ε : Type} {x : Except ε α} {test : α → Bool}
    (h : x.toOption.any test = true) : ∃ a, x = .ok a ∧ test a = true := by
  cases x with
  | error e => cases h
  | ok a => exact ⟨a, rfl, h⟩

/-- What is gathered one after another stands in the order in which it was asked for. -/
theorem forall₂_of_mapM_ok {α β ε : Type} {f : α → Except ε β} {xs : List α} {ys : List β}
    (h : xs.mapM f = .ok ys) : List.Forall₂ (fun x y => f x = .ok y) xs ys := by
  induction xs generalizing ys with
  | nil =>
    cases h
    exact .nil
  | cons x xs ih =>
    rw [List.mapM_cons] at h
    obtain ⟨y, hy, h⟩ := exists_ok_of_bind h
    obtain ⟨zs, hzs, h⟩ := exists_ok_of_bind h
    cases h
    exact .cons hy (ih hzs)

theorem length_of_mapM_ok {α β ε : Type} {f : α → Except ε β} {xs : List α} {ys : List β}
    (h : xs.mapM f = .ok ys) : ys.length = xs.length :=
  (forall₂_of_mapM_ok h).length_eq.symm

theorem mem_of_mapM_ok {α β ε : Type} {f : α → Except ε β} {xs : List α} {ys : List β} {y : β}
    (h : xs.mapM f = .ok ys) : y ∈ ys ↔ ∃ x ∈ xs, f x = .ok y := by
  have hall := forall₂_of_mapM_ok h
  clear h
  induction hall with
  | nil => simp
  | @cons x z xs ys hx _ ih =>
    constructor
    · intro hy
      rcases List.mem_cons.1 hy with rfl | hy
      · exact ⟨x, List.mem_cons_self, hx⟩
      · obtain ⟨x', hx', he⟩ := ih.1 hy
        exact ⟨x', List.mem_cons_of_mem _ hx', he⟩
    · rintro ⟨x', hx', he⟩
      rcases List.mem_cons.1 hx' with rfl | hx'
      · rw [hx] at he
        cases he
        exact List.mem_cons_self
      · exact List.mem_cons_of_mem _ (ih.2 ⟨x', hx', he⟩)

/-- Who asks for languages by name asks for some. -/
theorem Config.requestedLanguages_ne_nil {c : Config} {ls : List Language}
    (h : c.requestedLanguages = .ok ls) (hne : c.languages ≠ []) : ls ≠ [] := by
  obtain ⟨asked, hasked, h⟩ := exists_ok_of_bind h
  cases h
  have hlen : 0 < asked.length := by
    rw [length_of_mapM_ok hasked]
    exact List.length_pos_iff.2 hne
  obtain ⟨l, hl⟩ := List.exists_mem_of_length_pos hlen
  have hmem : l ∈ Language.all.filter asked.contains :=
    List.mem_filter.2 ⟨l.mem_all, List.contains_iff_mem.2 hl⟩
  exact List.ne_nil_of_mem hmem

namespace Surveyor

variable {v : Surveyor} {files : List Entry} {fetch : Fetch} {late : Entry → Prop} {s : Survey}
  {e : Entry} {r : FileRecord} {registry : Registry} {config : Config}

/-- What a valid configuration makes of a surveyor. -/
theorem exists_of_new (h : Surveyor.new registry config = .ok v) :
    ∃ languages excludes, config.requestedLanguages = .ok languages ∧
      config.excludeGlobs = .ok excludes ∧
      v = { registry, languages, excludes, maxFileSize := config.maxFileSize,
            parallelism := config.parallelism, options := config.options } := by
  obtain ⟨-, -, h⟩ := exists_ok_of_bind h
  obtain ⟨languages, hlanguages, h⟩ := exists_ok_of_bind h
  obtain ⟨excludes, hexcludes, h⟩ := exists_ok_of_bind h
  cases h
  exact ⟨languages, excludes, hlanguages, hexcludes, rfl⟩

theorem requestedLanguages_of_new (h : Surveyor.new registry config = .ok v) :
    config.requestedLanguages = .ok v.languages := by
  obtain ⟨languages, excludes, hlanguages, -, rfl⟩ := exists_of_new h
  exact hlanguages

theorem registry_of_new (h : Surveyor.new registry config = .ok v) : v.registry = registry := by
  obtain ⟨languages, excludes, -, -, rfl⟩ := exists_of_new h
  rfl

/-! ### Records -/

theorem isRequested_of_screen (h : v.screen e = none) : v.isRequested e = true := by
  rw [screen] at h
  grind

/-- The language of a record is that of the file with its content. -/
theorem language_of_process (h : v.process fetch e = .ok r) :
    ∃ bytes, fetch e.id = .ok bytes ∧
      r.language = (identify e.path (some (Text.ofBytes bytes)) e.languageHint).language := by
  obtain ⟨bytes, p, x, hbytes, -, -, rfl⟩ := exists_parsed h
  exact ⟨bytes, hbytes, rfl⟩

theorem mem_pending : e ∈ v.pending files ↔ e ∈ files ∧ v.screen e = none := by
  simp [pending]

theorem mem_recordsOf_process {done : List Entry} :
    r ∈ Survey.recordsOf (done.map (v.process fetch)) ↔ ∃ e ∈ done, v.process fetch e = .ok r := by
  simp only [Survey.recordsOf, List.mem_filterMap, List.mem_map, exists_exists_and_eq_and]
  refine exists_congr fun e => and_congr_right fun _ => ?_
  cases v.process fetch e <;> simp [Outcome.record?]

/-- Every record comes of a file that was not skipped. -/
theorem Runs.mem_records (h : v.Runs files fetch late s) (hr : r ∈ s.records) :
    ∃ e ∈ files, v.screen e = none ∧ v.process fetch e = .ok r := by
  obtain ⟨done, left, asked, hperm, -, -, rfl⟩ := h.collected
  have hr' := (Survey.records_collect_perm ..).mem_iff.1 hr
  obtain ⟨e, he, hp⟩ := mem_recordsOf_process.1 hr'
  have hpending : e ∈ v.pending files := hperm.mem_iff.2 (List.mem_append_left _ he)
  obtain ⟨hfile, hscreen⟩ := mem_pending.1 hpending
  exact ⟨e, hfile, hscreen, hp⟩

theorem mem_records_run (he : e ∈ files) (hs : v.screen e = none)
    (hp : v.process fetch e = .ok r) : r ∈ (v.run files fetch .never).records := by
  rw [run_never]
  apply (Survey.records_collect_perm ..).mem_iff.2
  exact mem_recordsOf_process.2 ⟨e, mem_pending.2 ⟨he, hs⟩, hp⟩

/-! ### The filter -/

/-- Where languages are asked for, every record has one of them, unless `generic` is asked for and
nothing but its content tells the language of the file. -/
theorem languages_of_runs (hnew : Surveyor.new registry config = .ok v)
    (hne : config.languages ≠ []) (h : v.Runs files fetch late s) :
    ∃ ls, config.requestedLanguages = .ok ls ∧
      (∀ r ∈ s.records, r.language ∈ ls ∨ .generic ∈ ls ∧ ∃ e ∈ files, e.Unnamed ∧
        ∃ bytes, fetch e.id = .ok bytes ∧
          r.language = (identifyContent (Text.ofBytes bytes)).language) ∧
      (.generic ∉ ls → ∀ r ∈ s.records, r.language ∈ ls) := by
  have hls := requestedLanguages_of_new hnew
  have hsome : v.languages ≠ [] := Config.requestedLanguages_ne_nil hls hne
  have hrecord : ∀ r ∈ s.records, r.language ∈ v.languages ∨ .generic ∈ v.languages ∧
      ∃ e ∈ files, e.Unnamed ∧ ∃ bytes, fetch e.id = .ok bytes ∧
        r.language = (identifyContent (Text.ofBytes bytes)).language := by
    intro r hr
    obtain ⟨e, he, hscreen, hp⟩ := h.mem_records hr
    obtain ⟨bytes, hbytes, hlanguage⟩ := language_of_process hp
    have hasked : (identify e.path none e.languageHint).language ∈ v.languages := by
      have := isRequested_of_screen hscreen
      simpa [isRequested, hsome] using this
    by_cases hu : e.Unnamed
    · right
      rw [identify_of_unnamed hu] at hasked hlanguage
      exact ⟨hasked, e, he, hu, bytes, hbytes, hlanguage⟩
    · left
      rw [hlanguage, identify_of_not_unnamed hu]
      exact hasked
  refine ⟨v.languages, hls, hrecord, ?_⟩
  intro hgeneric r hr
  rcases hrecord r hr with hmem | ⟨hmem, -⟩
  · exact hmem
  · exact absurd hmem hgeneric

theorem runs_never (v : Surveyor) (files : List Entry) (fetch : Fetch) :
    ∃ late, v.Runs files fetch late (v.run files fetch .never) :=
  ⟨_, .inOrder fun _ _ _ h => h⟩

/-- Whether a survey for one language gives a file a record of some language. -/
def givesRecord (registry : Registry) (config : Config) (fetch : Fetch) (e : Entry)
    (asked found : Language) : Bool :=
  (Surveyor.new registry config).toOption.any fun v =>
    v.languages == [asked] && (v.screen e).isNone &&
      (v.process fetch e).toOption.any (·.language == found)

theorem exists_record {asked found : Language}
    (h : givesRecord registry config fetch e asked found = true) :
    ∃ v r, Surveyor.new registry config = .ok v ∧ config.requestedLanguages = .ok [asked] ∧
      r.language = found ∧ ∀ files, e ∈ files → r ∈ (v.run files fetch .never).records := by
  obtain ⟨v, hnew, hv⟩ := exists_ok_of_any h
  simp only [Bool.and_eq_true, Option.isNone_iff_eq_none, beq_iff_eq] at hv
  obtain ⟨⟨hlanguages, hscreen⟩, hprocess⟩ := hv
  obtain ⟨r, hr, hfound⟩ := exists_ok_of_any hprocess
  refine ⟨v, r, hnew, ?_, beq_iff_eq.1 hfound, fun files he => mem_records_run he hscreen hr⟩
  rw [requestedLanguages_of_new hnew, hlanguages]

/-! A program in a file whose path tells nothing, and in one whose path tells what it is not. -/

def programStore : Store :=
  [("prog", "int main(void) \x7b return 0; \x7d\n".toUTF8),
   ("prog.py", "int main(void) \x7b return 0; \x7d\n".toUTF8)]

def programEntry (path : String) : Entry := { path, id := path, size := 29 }

def programFiles : List Entry := [programEntry "prog", programEntry "prog.py"]

/-- Who asks for one language gets files of that one only. -/
theorem languages_of_runs_sample :
    ∃ v s, Surveyor.new .lineMetrics { languages := ["py"] } = .ok v ∧
      (∃ late, v.Runs programFiles programStore.fetch late s) ∧ s.records ≠ [] ∧
      ∀ r ∈ s.records, r.language = .python := by
  have hrecord : givesRecord .lineMetrics { languages := ["py"] } programStore.fetch
      (programEntry "prog.py") .python .python = true := by decide +kernel
  obtain ⟨v, r, hnew, hasked, -, hr⟩ := exists_record hrecord
  obtain ⟨late, hruns⟩ := runs_never v programFiles programStore.fetch
  obtain ⟨ls, hls, -, hfiltered⟩ := languages_of_runs hnew (by simp) hruns
  obtain rfl : ls = [.python] := Except.ok.inj (hls.symm.trans hasked)
  have hmem : programEntry "prog.py" ∈ programFiles := by simp [programFiles]
  refine ⟨v, _, hnew, ⟨late, hruns⟩, List.ne_nil_of_mem (hr programFiles hmem), ?_⟩
  intro x hx
  exact List.mem_singleton.1 (hfiltered (by decide) x hx)

/-- Who asks for `generic` gets a file in a language that was not asked for. -/
theorem generic_filter_leaks :
    ∃ v, Surveyor.new (.standard fun _ _ => none) { languages := ["generic"] } = .ok v ∧
      ∃ ls, Config.requestedLanguages { languages := ["generic"] } = .ok ls ∧
        ∃ r ∈ (v.run [programEntry "prog"] programStore.fetch .never).records,
          r.language ∉ ls := by
  have hrecord : givesRecord (.standard fun _ _ => none) { languages := ["generic"] }
      programStore.fetch (programEntry "prog") .generic .c = true := by decide +kernel
  obtain ⟨v, r, hnew, hasked, hfound, hr⟩ := exists_record hrecord
  refine ⟨v, hnew, [.generic], hasked, r, hr _ (by simp), ?_⟩
  rw [hfound]
  decide

end Surveyor

end CodeSurvey
