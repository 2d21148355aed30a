import CodeSurvey.Proofs.Collect
import CodeSurvey.Proofs.Parsers

/-! What becomes of each file of a listing. -/
namespace CodeSurvey

namespace Surveyor

variable {v : Surveyor} {fetch : Fetch} {e : Entry} {x : FileError} {r : FileRecord}

theorem path_of_screen (h : v.screen e = some x) : x.path = e.path := by
  rw [screen] at h
  grind

/-- A record is what the parser of the file's language makes of its content, with the language as it
was found and the size as it was fetched. -/
theorem exists_parsed (h : v.process fetch e = .ok r) :
    ∃ bytes p x, fetch e.id = .ok bytes ∧
      v.registry.resolve
        (identify e.path (some (Text.ofBytes bytes)) e.languageHint).language = .ok p ∧
      p.parseWith (Text.ofBytes bytes) e.path v.options = .record x ∧
      r = { x with
        language := (identify e.path (some (Text.ofBytes bytes)) e.languageHint).language
        confidence := (identify e.path (some (Text.ofBytes bytes)) e.languageHint).confidence
        byteSize := bytes.size } := by
  rw [process] at h
  split at h
  · cases h
  · next bytes hbytes =>
    split at h
    · next hr =>
      cases h
      simp only [analyze] at hr
      split at hr
      · cases hr
      · next p hp =>
        split at hr
        · next x hx =>
          cases hr
          exact ⟨bytes, p, x, hbytes, hp, hx, rfl⟩
        · next hother => exact absurd hr (hother _)
    · cases h
    · cases h

theorem path_of_process_ok (hk : v.registry.KeepsPaths) (h : v.process fetch e = .ok r) :
    r.path = e.path := by
  obtain ⟨bytes, p, x, -, hp, hx, rfl⟩ := exists_parsed h
  exact hk.resolve hp _ _ _ x hx

theorem path_of_process_error (h : v.process fetch e = .error x) : x.path = e.path := by
  rw [process] at h
  split at h
  · cases h
    rfl
  · split at h
    · cases h
    · cases h
      rfl
    · cases h
      rfl

/-! ### Fates -/

end Surveyor

/-- What becomes of a file. -/
inductive Fate where
  | record (r : FileRecord)
  | error (x : FileError)
  | nothing

namespace Fate

def record? : Fate → Option FileRecord
  | record r => some r
  | _ => none

def error? : Fate → Option FileError
  | error x => some x
  | _ => none

def isNothing : Fate → Bool
  | nothing => true
  | _ => false

def ofOutcome : Outcome → Fate
  | .ok r => record r
  | .error x => error x

end Fate

namespace Surveyor

variable {v : Surveyor} {fetch : Fetch} {late : Entry → Prop} {files waiting : List Entry}
  {done left : List Entry} {fates : List Fate}

/-- What may become of a file: a record or an error, either with its path, or nothing if the file
was not skipped and its turn came late. The path of a record is up to the parser. -/
def FateOf (v : Surveyor) (fetch : Fetch) (late : Entry → Prop) (e : Entry) : Fate → Prop
  | .record r =>
    v.screen e = none ∧ v.process fetch e = .ok r ∧ (v.registry.KeepsPaths → r.path = e.path)
  | .error x =>
    (v.screen e = some x ∨ v.screen e = none ∧ v.process fetch e = .error x) ∧ x.path = e.path
  | .nothing => v.screen e = none ∧ late e

theorem fateOf_ofOutcome {e : Entry} (hs : v.screen e = none) :
    v.FateOf fetch late e (.ofOutcome (v.process fetch e)) := by
  cases hp : v.process fetch e with
  | ok r => exact ⟨hs, hp, fun hk => path_of_process_ok hk hp⟩
  | error x => exact ⟨.inr ⟨hs, hp⟩, path_of_process_error hp⟩

/-- The records and errors of a survey are told apart by files. -/
structure Fates (v : Surveyor) (fetch : Fetch) (late : Entry → Prop) (files done left : List Entry)
    (fates : List Fate) : Prop where
  each : List.Forall₂ (v.FateOf fetch late) files fates
  records : (Survey.recordsOf (done.map (v.process fetch))).Perm (fates.filterMap Fate.record?)
  errors : (v.skips files ++ Survey.errorsOf (done.map (v.process fetch))).Perm
    (fates.filterMap Fate.error?)
  nothing : fates.countP Fate.isNothing = left.length

theorem Fates.perm (h : v.Fates fetch late files done left fates) {done' left' : List Entry}
    (hd : done.Perm done') (hl : left.Perm left') :
    v.Fates fetch late files done' left' fates where
  each := h.each
  records := ((hd.map _).filterMap _).symm.trans h.records
  errors := (((hd.map _).filterMap _).append_left _).symm.trans h.errors
  nothing := h.nothing.trans hl.length_eq

theorem Fates.skipped (h : v.Fates fetch late files done left fates) {e : Entry} {x : FileError}
    (hs : v.screen e = some x) :
    v.Fates fetch late (e :: files) done left (.error x :: fates) where
  each := .cons ⟨.inl hs, path_of_screen hs⟩ h.each
  records := h.records
  errors := by
    have hskips : v.skips (e :: files) = x :: v.skips files := by simp [skips, hs]
    rw [hskips]
    exact h.errors.cons x
  nothing := h.nothing

theorem Fates.processed (h : v.Fates fetch late files done left fates) {e : Entry}
    (hs : v.screen e = none) :
    v.Fates fetch late (e :: files) (e :: done) left
      (.ofOutcome (v.process fetch e) :: fates) := by
  have hskips : v.skips (e :: files) = v.skips files := by simp [skips, hs]
  have heach := List.Forall₂.cons (fateOf_ofOutcome hs) h.each
  cases hp : v.process fetch e with
  | ok r =>
    rw [hp] at heach
    refine ⟨heach, ?_, ?_, h.nothing⟩
    · rw [List.map_cons, hp]
      exact h.records.cons r
    · rw [hskips, List.map_cons, hp]
      exact h.errors
  | error x =>
    rw [hp] at heach
    refine ⟨heach, ?_, ?_, h.nothing⟩
    · rw [List.map_cons, hp]
      exact h.records
    · rw [hskips, List.map_cons, hp]
      exact List.perm_middle.trans (h.errors.cons x)

theorem Fates.unreached (h : v.Fates fetch late files done left fates) {e : Entry}
    (hs : v.screen e = none) (he : late e) :
    v.Fates fetch late (e :: files) done (e :: left) (.nothing :: fates) where
  each := .cons ⟨hs, he⟩ h.each
  records := h.records
  errors := by
    have hskips : v.skips (e :: files) = v.skips files := by simp [skips, hs]
    rw [hskips]
    exact h.errors
  nothing := by rw [List.countP_cons_of_pos rfl, h.nothing, List.length_cons]

/-- Every file of a listing has its fate, also where files are listed more than once: the files
that were processed and those that were not are dealt out to the listing one by one. -/
theorem exists_fates (h : (v.pending files).Perm (done ++ left)) (hl : ∀ e ∈ left, late e) :
    ∃ fates, v.Fates fetch late files done left fates := by
  induction files generalizing done left with
  | nil =>
    obtain ⟨rfl, rfl⟩ := List.append_eq_nil_iff.1 (List.nil_perm.1 h)
    exact ⟨[], .nil, .refl _, .refl _, rfl⟩
  | cons e files ih =>
    cases hs : v.screen e with
    | some x =>
      have hpending : v.pending (e :: files) = v.pending files := by simp [pending, hs]
      obtain ⟨fates, hf⟩ := ih (hpending ▸ h) hl
      exact ⟨_, hf.skipped hs⟩
    | none =>
      have hpending : v.pending (e :: files) = e :: v.pending files := by simp [pending, hs]
      rw [hpending] at h
      rcases List.mem_append.1 (h.subset List.mem_cons_self) with he | he
      · obtain ⟨before, after, rfl⟩ := List.append_of_mem he
        have hrest : (v.pending files).Perm ((before ++ after) ++ left) := by
          refine (h.trans ?_).cons_inv
          exact List.perm_middle.append_right left
        obtain ⟨fates, hf⟩ := ih hrest hl
        exact ⟨_, (hf.processed hs).perm List.perm_middle.symm (.refl _)⟩
      · obtain ⟨before, after, rfl⟩ := List.append_of_mem he
        have hrest : (v.pending files).Perm (done ++ (before ++ after)) := by
          refine (h.trans ?_).cons_inv
          exact (List.perm_middle.append_left done).trans List.perm_middle
        obtain ⟨fates, hf⟩ := ih hrest fun x hx => hl x (by grind)
        exact ⟨_, (hf.unreached hs (hl e he)).perm (.refl _) List.perm_middle.symm⟩

theorem paths_sublist {α : Type} {R : Entry → Fate → Prop} {select : Fate → Option α}
    {path : α → String} (h : List.Forall₂ R files fates)
    (hpath : ∀ e x y, R e x → select x = some y → path y = e.path) :
    ((fates.filterMap select).map path).Sublist (files.map Entry.path) := by
  induction h with
  | nil => exact .slnil
  | @cons e x files fates hx _ ih =>
    cases hs : select x with
    | none => simpa [List.filterMap_cons, hs] using ih.cons _
    | some y => simpa [List.filterMap_cons, hs, hpath e x y hx hs] using ih.cons_cons e.path

/-- Where all listed paths differ, so do those of the records. -/
theorem Fates.nodup_records (h : v.Fates fetch late files done left fates)
    (hk : v.registry.KeepsPaths) (hn : (files.map Entry.path).Nodup) :
    ((Survey.recordsOf (done.map (v.process fetch))).map FileRecord.path).Nodup := by
  apply (h.records.map _).nodup_iff.2
  apply List.Nodup.sublist (paths_sublist h.each ?_) hn
  intro e x r hx hr
  cases x with
  | record r' =>
    cases hr
    exact hx.2.2 hk
  | error _ => cases hr
  | nothing => cases hr

theorem Fates.nodup_errors (h : v.Fates fetch late files done left fates)
    (hn : (files.map Entry.path).Nodup) :
    ((v.skips files ++ Survey.errorsOf (done.map (v.process fetch))).map FileError.path).Nodup := by
  apply (h.errors.map _).nodup_iff.2
  apply List.Nodup.sublist (paths_sublist h.each ?_) hn
  intro e x y hx hy
  cases x with
  | record _ => cases hy
  | error y' =>
    cases hy
    exact hx.2
  | nothing => cases hy

end Surveyor

end CodeSurvey
