import CodeSurvey.Proofs.ByteOrder
import CodeSurvey.Proofs.LanguageFilter

/-! The record of a path is found by halving, because records are sorted by path. -/
namespace CodeSurvey

namespace Survey

variable {rs : List FileRecord} {path : String} {base size i j : Nat} {a b r : FileRecord}
  {s : Survey}

/-- Records stand in the order of their paths; those of one path stand in any order. -/
def Sorted (rs : List FileRecord) : Prop := rs.Pairwise fun a b => a.path ≤ b.path

theorem Sorted.path_le (h : Sorted rs) (hij : i ≤ j) (ha : rs[i]? = some a)
    (hb : rs[j]? = some b) : a.path ≤ b.path := by
  rcases Nat.lt_or_eq_of_le hij with hlt | rfl
  · obtain ⟨hi, rfl⟩ := List.getElem?_eq_some_iff.1 ha
    obtain ⟨hj, rfl⟩ := List.getElem?_eq_some_iff.1 hb
    exact List.pairwise_iff_getElem.1 h i j hi hj hlt
  · rw [ha] at hb
    cases hb
    exact le_rfl

/-- Where the search for a path stands. All records behind the stretch lie behind the path, and the
first of the stretch does not, unless it is the first of all. -/
structure Within (rs : List FileRecord) (path : String) (base size : Nat) : Prop where
  pos : 0 < size
  start : base = 0 ∨ ∃ r, rs[base]? = some r ∧ r.path ≤ path
  behind : ∀ i r, base + size ≤ i → rs[i]? = some r → path < r.path

/-- The middle record does not lie behind the path: the search goes on from there. -/
theorem Within.upper (h : Within rs path base size) (hsize : 1 < size)
    (hr : rs[base + size / 2]? = some r) (hle : r.path ≤ path) :
    Within rs path (base + size / 2) (size - size / 2) where
  pos := by omega
  start := .inr ⟨r, hr, hle⟩
  behind := by
    intro i r' hi hr'
    exact h.behind i r' (by omega) hr'

/-- The middle record lies behind the path, or there is none: so it is with all that follow. -/
theorem Within.lower (h : Within rs path base size) (hsize : 1 < size) (hs : Sorted rs)
    (hmid : ∀ r, rs[base + size / 2]? = some r → ¬ r.path ≤ path) :
    Within rs path base (size - size / 2) where
  pos := by omega
  start := h.start
  behind := by
    intro i r hi hr
    have hlt : base + size / 2 < rs.length := by
      have := (List.getElem?_eq_some_iff.1 hr).1
      omega
    have hget := List.getElem?_eq_getElem hlt
    exact (not_le.1 (hmid _ hget)).trans_le (hs.path_le (by omega) hget hr)

theorem Within.narrow (h : Within rs path base size) (hs : Sorted rs) :
    Within rs path (narrow rs.toArray path base size) 1 := by
  fun_induction Survey.narrow rs.toArray path base size with
  | case1 base size hle =>
    have := h.pos
    obtain rfl : size = 1 := by omega
    exact h
  | case2 base size hsize half mid next ih =>
    apply ih
    by_cases hmid : (rs.toArray[mid]?).any (fun r => decide (r.path ≤ path)) = true
    · obtain ⟨r, hr, hle⟩ := (Option.any_eq_true ..).1 hmid
      rw [List.getElem?_toArray] at hr
      rw [show next = mid from if_pos hmid]
      exact h.upper (by omega) hr (of_decide_eq_true hle)
    · rw [show next = base from if_neg hmid]
      apply h.lower (by omega) hs
      intro r hr hle
      apply hmid
      rw [List.getElem?_toArray, show rs[mid]? = some r from hr]
      exact decide_eq_true hle

theorem mem_of_record? (h : s.record? path = some r) : r ∈ s.records ∧ r.path = path := by
  obtain ⟨hget, hpath⟩ := Option.filter_eq_some_iff.1 h
  rw [List.getElem?_toArray] at hget
  exact ⟨List.mem_of_getElem? hget, beq_iff_eq.1 hpath⟩

/-- At the end of the search the stretch is one record, and the path is there if it is anywhere. -/
theorem exists_record? (hs : Sorted s.records) (hr : r ∈ s.records) :
    ∃ found, s.record? r.path = some found := by
  obtain ⟨i, hi⟩ := List.mem_iff_getElem?.1 hr
  have hlength : i < s.records.length := (List.getElem?_eq_some_iff.1 hi).1
  have hstart : Within s.records r.path 0 s.records.length := by
    refine ⟨by omega, .inl rfl, ?_⟩
    intro j b hj hb
    have := (List.getElem?_eq_some_iff.1 hb).1
    omega
  have hend := hstart.narrow hs
  set last := narrow s.records.toArray r.path 0 s.records.length with hlast
  have hle : i ≤ last := by
    by_contra hlt
    exact lt_irrefl _ (hend.behind i r (by omega) hi)
  obtain ⟨b, hb, hpath⟩ : ∃ b, s.records[last]? = some b ∧ b.path = r.path := by
    rcases hend.start with hzero | ⟨b, hb, hbr⟩
    · obtain rfl : i = last := by omega
      exact ⟨r, hi, rfl⟩
    · exact ⟨b, hb, le_antisymm hbr (hs.path_le hle hi hb)⟩
  refine ⟨b, Option.filter_eq_some_iff.2 ⟨?_, beq_iff_eq.2 hpath⟩⟩
  rw [List.getElem?_toArray, List.size_toArray, ← hlast]
  exact hb

theorem exists_record?_iff (hs : Sorted s.records) :
    (∃ r, s.record? path = some r) ↔ ∃ r ∈ s.records, r.path = path := by
  constructor
  · rintro ⟨r, h⟩
    exact ⟨r, mem_of_record? h⟩
  · rintro ⟨r, hr, rfl⟩
    exact exists_record? hs hr

theorem sorted_collect (total : Nat) (skips : List FileError) (os : List Outcome) (asked : Bool) :
    Sorted (collect total skips os asked).records := by
  have hsorted := List.pairwise_mergeSort (keyLe_trans FileRecord.path) (keyLe_total FileRecord.path)
    (recordsOf os)
  exact hsorted.imp of_decide_eq_true

end Survey

namespace Surveyor

open Survey (Sorted)

variable {v : Surveyor} {fetch : Fetch} {late : Entry → Prop} {files : List Entry} {s : Survey}
  {fates : List Fate} {path : String}

theorem Runs.sorted (h : v.Runs files fetch late s) : Sorted s.records := by
  obtain ⟨done, left, asked, -, -, -, rfl⟩ := h.collected
  exact Survey.sorted_collect _ _ _ _

/-- Where parsers keep paths, the paths of the records are those of the files they came of. -/
theorem exists_record_iff (hf : List.Forall₂ (v.FateOf fetch late) files fates)
    (hk : v.registry.KeepsPaths) :
    (∃ r ∈ fates.filterMap Fate.record?, r.path = path) ↔
      ∃ e r, (e, Fate.record r) ∈ files.zip fates ∧ e.path = path := by
  obtain ⟨hlength, hzip⟩ := List.forall₂_iff_zip.1 hf
  constructor
  · rintro ⟨r, hr, rfl⟩
    obtain ⟨x, hx, hrecord⟩ := List.mem_filterMap.1 hr
    obtain rfl : x = .record r := by
      cases x <;> cases hrecord
      rfl
    rw [← List.map_snd_zip hlength.ge] at hx
    obtain ⟨⟨e, x⟩, he, rfl⟩ := List.mem_map.1 hx
    exact ⟨e, r, he, ((hzip he).2.2 hk).symm⟩
  · rintro ⟨e, r, he, rfl⟩
    refine ⟨r, ?_, (hzip he).2.2 hk⟩
    exact List.mem_filterMap.2 ⟨_, (List.of_mem_zip he).2, rfl⟩

/-- How records are found. -/
structure Finds (v : Surveyor) (files : List Entry) (fetch : Fetch) (late : Entry → Prop)
    (s : Survey) : Prop where
  sorted : s.records.Pairwise fun a b => Text.bytes a.path ≤ Text.bytes b.path
  /-- What is found is a record of the path that was asked for. -/
  path : ∀ path r, s.record? path = some r → r ∈ s.records ∧ r.path = path
  /-- A record is found for each path that has one, whatever the parsers do with paths. -/
  record : ∀ path, (∃ r, s.record? path = some r) ↔ ∃ r ∈ s.records, r.path = path
  /-- These are the paths of the files with a record, where parsers keep the paths that they are
  given. Those of this library do. -/
  file : ∃ fates, List.Forall₂ (v.FateOf fetch late) files fates ∧
    s.records.Perm (fates.filterMap Fate.record?) ∧
    (v.registry.KeepsPaths → ∀ path, (∃ r, s.record? path = some r) ↔
      ∃ e r, (e, Fate.record r) ∈ files.zip fates ∧ e.path = path)

/-- However a survey goes and whenever it is cancelled, each path is found that has a record. -/
theorem records_found (h : v.Runs files fetch late s) : v.Finds files fetch late s := by
  have hsorted := h.sorted
  have hrecord : ∀ path, (∃ r, s.record? path = some r) ↔ ∃ r ∈ s.records, r.path = path :=
    fun path => Survey.exists_record?_iff hsorted
  obtain ⟨done, left, asked, hperm, hlate, -, hcollect⟩ := h.collected
  obtain ⟨fates, hf⟩ : ∃ fates, v.Fates fetch late files done left fates :=
    exists_fates hperm hlate
  have hrecords : s.records.Perm (fates.filterMap Fate.record?) := by
    rw [hcollect]
    exact (Survey.records_collect_perm _ _ _ _).trans hf.records
  exact {
    sorted := hsorted.imp Text.bytes_le_iff.2
    path := fun _ _ hr => Survey.mem_of_record? hr
    record := hrecord
    file := by
      refine ⟨fates, hf.each, hrecords, ?_⟩
      intro hk path
      rw [hrecord, ← exists_record_iff hf.each hk]
      simp only [hrecords.mem_iff] }

/-- A file that is listed twice, and one that stands between in the listing and before it in the
records. -/
def repeatedFiles : List Entry := [sampleEntry "b", sampleEntry "a", sampleEntry "b"]

theorem records_found_sample :
    ∃ late s, sampleSurveyor.Runs repeatedFiles sampleFetch late s ∧
      sampleSurveyor.registry.KeepsPaths ∧ sampleSurveyor.Finds repeatedFiles sampleFetch late s ∧
      (∃ r, s.record? "b" = some r ∧ r.path = "b") ∧ s.record? "c" = none := by
  have hkeeps : sampleSurveyor.registry.KeepsPaths := Registry.keepsPaths_standard _
  obtain ⟨late, hruns⟩ := runs_never sampleSurveyor repeatedFiles sampleFetch
  have hfinds := records_found hruns
  refine ⟨late, _, hruns, hkeeps, hfinds, ?_, ?_⟩
  · have hany : (sampleSurveyor.process sampleFetch (sampleEntry "b")).toOption.any
        (fun _ => true) = true := by decide +kernel
    obtain ⟨r, hr, -⟩ := exists_ok_of_any hany
    have hmem : r ∈ (sampleSurveyor.run repeatedFiles sampleFetch .never).records :=
      mem_records_run List.mem_cons_self rfl hr
    obtain ⟨found, hfound⟩ := (hfinds.record "b").2 ⟨r, hmem, path_of_process_ok hkeeps hr⟩
    exact ⟨found, hfound, (hfinds.path "b" found hfound).2⟩
  · apply Option.eq_none_iff_forall_ne_some.2
    intro r hr
    obtain ⟨hmem, hpath⟩ := hfinds.path "c" r hr
    obtain ⟨e, he, -, hp⟩ := hruns.mem_records hmem
    have hother : ∀ e ∈ repeatedFiles, e.path ≠ "c" := by decide
    exact hother e he ((path_of_process_ok hkeeps hp).symm.trans hpath)

end Surveyor

end CodeSurvey
