import CodeSurvey.Survey
import Mathlib.Algebra.BigOperators.Group.List.Basic
import Mathlib.Algebra.GroupWithZero.Nat
import Mathlib.Data.List.Nodup
import Mathlib.Data.String.Basic

/-! What a survey puts together, whatever the order in which the outcomes come in. -/
namespace CodeSurvey

attribute [ext] Summary Survey

def Outcome.error? : Outcome → Option FileError
  | .ok _ => none
  | .error e => some e

namespace Survey

variable {os os' : List Outcome} {skips : List FileError} {total : Nat} {asked : Bool}

def recordsOf (os : List Outcome) : List FileRecord := os.filterMap Outcome.record?

def errorsOf (os : List Outcome) : List FileError := os.filterMap Outcome.error?

@[simp]
theorem recordsOf_ok (r : FileRecord) : recordsOf (.ok r :: os) = r :: recordsOf os := rfl

@[simp]
theorem recordsOf_error (e : FileError) : recordsOf (.error e :: os) = recordsOf os := rfl

@[simp]
theorem errorsOf_ok (r : FileRecord) : errorsOf (.ok r :: os) = errorsOf os := rfl

@[simp]
theorem errorsOf_error (e : FileError) : errorsOf (.error e :: os) = e :: errorsOf os := rfl

theorem length_recordsOf_add (os : List Outcome) :
    (recordsOf os).length + (errorsOf os).length = os.length := by
  induction os with
  | nil => rfl
  | cons o os ih => cases o <;> simp <;> omega

theorem foldl_addFailed (skips : List FileError) (s : Summary) :
    skips.foldl Summary.addFailed s =
      { s with failedCount := s.failedCount + skips.length, errors := s.errors ++ skips } := by
  induction skips generalizing s with
  | nil => simp
  | cons e skips ih =>
    rw [List.foldl_cons, ih]
    simp [Summary.addFailed]
    omega

theorem foldl_addOutcome (os : List Outcome) (s : Summary) :
    os.foldl addOutcome s =
      { s with
        parsedCount := s.parsedCount + (recordsOf os).length
        failedCount := s.failedCount + (errorsOf os).length
        totalLines := s.totalLines + ((recordsOf os).map FileRecord.lineCount).sum
        distribution := fun l => s.distribution l + (recordsOf os).countP (·.language = l)
        errors := s.errors ++ errorsOf os } := by
  induction os generalizing s with
  | nil => simp [recordsOf, errorsOf]
  | cons o os ih =>
    rw [List.foldl_cons, ih]
    cases o with
    | error e =>
      simp [addOutcome, Summary.addFailed]
      omega
    | ok r =>
      have hcount : ∀ l, (if l = r.language then s.distribution l + 1 else s.distribution l) +
          (recordsOf os).countP (·.language = l) =
            s.distribution l + (r :: recordsOf os).countP (·.language = l) := by
        intro l
        by_cases hl : l = r.language
        · simp [hl]
          omega
        · have : r.language ≠ l := fun he => hl he.symm
          simp [hl, this]
      simp only [addOutcome, Summary.addParsed, hcount]
      simp
      omega

theorem summary_collect (total : Nat) (skips : List FileError) (os : List Outcome)
    (asked : Bool) :
    (collect total skips os asked).summary =
      { totalFiles := total
        parsedCount := (recordsOf os).length
        failedCount := skips.length + (errorsOf os).length
        totalLines := ((recordsOf os).map FileRecord.lineCount).sum
        distribution := fun l => (recordsOf os).countP (·.language = l)
        errors := (skips ++ errorsOf os).mergeSort FileError.le
        cancelled := asked && 0 < total - (skips.length + os.length) } := by
  have hlen := length_recordsOf_add os
  have hsum : (recordsOf os).length + (skips.length + (errorsOf os).length) =
      skips.length + os.length := by omega
  simp [collect, foldl_addFailed, foldl_addOutcome, Summary.finish, Summary.undispatched, hsum]

theorem sum_indicator_language (k : Language) :
    (Language.all.map fun l => if k = l then 1 else 0).sum = 1 := by
  cases k <;> rfl

/-- As many records as are counted for the languages together. -/
theorem sum_countP_language (rs : List FileRecord) :
    (Language.all.map fun l => rs.countP (·.language = l)).sum = rs.length := by
  induction rs with
  | nil => rfl
  | cons r rs ih =>
    have hsplit : ∀ l, (r :: rs).countP (·.language = l) =
        rs.countP (·.language = l) + if r.language = l then 1 else 0 := by
      intro l
      simp [List.countP_cons]
    simp only [hsplit, List.sum_map_add, ih, sum_indicator_language, List.length_cons]

theorem sum_map_filter_pos {α : Type} (xs : List α) (n : α → Nat) :
    ((xs.filter fun x => 0 < n x).map n).sum = (xs.map n).sum := by
  induction xs with
  | nil => rfl
  | cons x xs ih =>
    by_cases hx : 0 < n x
    · simp [hx, ih]
    · simp [hx, ih]
      omega

theorem sum_languages (s : Summary) :
    (s.languages.map Prod.snd).sum = (Language.all.map s.distribution).sum := by
  rw [Summary.languages]
  rw [((List.mergeSort_perm _ _).map _).sum_eq, List.map_map]
  exact sum_map_filter_pos _ _

end Survey

/-! ### Sorting -/

section

variable {α : Type} {le : α → α → Bool}

/-- Sorting puts the first thing behind those that it does not come before, and before the
others. -/
theorem mergeSort_cons_eq (htrans : ∀ a b c, le a b → le b c → le a c)
    (htotal : ∀ a b, le a b || le b a) (a : α) (xs : List α) :
    (a :: xs).mergeSort le =
        (xs.mergeSort le).filter (!le a ·) ++ a :: (xs.mergeSort le).filter (le a ·) ∧
      xs.mergeSort le =
        (xs.mergeSort le).filter (!le a ·) ++ (xs.mergeSort le).filter (le a ·) := by
  obtain ⟨before, after, hcons, hrest, hbefore⟩ := List.mergeSort_cons htrans htotal a xs
  have hsorted := List.pairwise_mergeSort htrans htotal (a :: xs)
  rw [hcons] at hsorted
  have hafter : ∀ b ∈ after, le a b :=
    (List.pairwise_cons.1 (List.pairwise_append.1 hsorted).2.1).1
  have hleft : (before ++ after).filter (!le a ·) = before := by
    rw [List.filter_append, List.filter_eq_self.2 hbefore, List.filter_eq_nil_iff.2,
      List.append_nil]
    intro b hb
    simp [hafter b hb]
  have hright : (before ++ after).filter (le a ·) = after := by
    rw [List.filter_append, List.filter_eq_self.2 hafter, List.filter_eq_nil_iff.2,
      List.nil_append]
    intro b hb
    simpa using hbefore b hb
  rw [hcons, hrest, hleft, hright]
  exact ⟨rfl, rfl⟩

/-- Things may be left out before the rest is sorted or after. -/
theorem filter_mergeSort (htrans : ∀ a b c, le a b → le b c → le a c)
    (htotal : ∀ a b, le a b || le b a) (keep : α → Bool) (xs : List α) :
    (xs.mergeSort le).filter keep = (xs.filter keep).mergeSort le := by
  induction xs with
  | nil => simp
  | cons a xs ih =>
    obtain ⟨hcons, hrest⟩ := mergeSort_cons_eq htrans htotal a xs
    cases hk : keep a with
    | true =>
      have hkept := (mergeSort_cons_eq htrans htotal a (xs.filter keep)).1
      rw [← ih, List.filter_filter, List.filter_filter] at hkept
      rw [hcons, List.filter_cons_of_pos hk, hkept, List.filter_append, List.filter_cons_of_pos hk,
        List.filter_filter, List.filter_filter]
      simp only [Bool.and_comm]
    | false =>
      have hneg : ¬ keep a = true := by simp [hk]
      rw [hcons, List.filter_cons_of_neg hneg, ← ih, List.filter_append,
        List.filter_cons_of_neg hneg, ← List.filter_append, ← hrest]

variable {κ : Type} [LinearOrder κ] {key : α → κ} {xs ys : List α}

/-- Lists in the order of some keys are the same if they have the same of each key. -/
theorem eq_of_filter_key (hxs : xs.Pairwise fun a b => key a ≤ key b)
    (hys : ys.Pairwise fun a b => key a ≤ key b)
    (h : ∀ k, xs.filter (key · = k) = ys.filter (key · = k)) : xs = ys := by
  induction xs generalizing ys with
  | nil =>
    cases ys with
    | nil => rfl
    | cons b ys =>
      have hb := h (key b)
      simp at hb
  | cons a xs ih =>
    cases ys with
    | nil =>
      have ha := h (key a)
      simp at ha
    | cons b ys =>
      rw [List.pairwise_cons] at hxs hys
      have hmem : ∀ {c}, c ∈ a :: xs ↔ c ∈ b :: ys := by
        intro c
        have hc : c ∈ (a :: xs).filter (key · = key c) ↔ c ∈ (b :: ys).filter (key · = key c) := by
          rw [h]
        simpa only [List.mem_filter, decide_true, and_true] using hc
      have hkey : key a = key b := by
        apply le_antisymm
        · rcases List.mem_cons.1 (hmem.2 List.mem_cons_self) with hb | hb
          · exact hb ▸ le_rfl
          · exact hxs.1 b hb
        · rcases List.mem_cons.1 (hmem.1 List.mem_cons_self) with ha | ha
          · exact ha ▸ le_rfl
          · exact hys.1 a ha
      obtain rfl : a = b := by
        have hfirst := h (key a)
        rw [List.filter_cons_of_pos (by simp), List.filter_cons_of_pos (by simp [hkey])] at hfirst
        exact (List.cons.inj hfirst).1
      congr 1
      apply ih hxs.2 hys.2
      intro k
      have hk := h k
      rw [List.filter_cons, List.filter_cons] at hk
      split at hk
      · exact (List.cons.inj hk).2
      · exact hk

/-- A sorted list is told by what comes in which order of each key. -/
theorem mergeSort_eq_of_filter_key (htrans : ∀ a b c, le a b → le b c → le a c)
    (htotal : ∀ a b, le a b || le b a) (hle : ∀ a b, le a b = true → key a ≤ key b)
    (h : ∀ k, xs.filter (key · = k) = ys.filter (key · = k)) :
    xs.mergeSort le = ys.mergeSort le := by
  have hsorted : ∀ zs : List α, (zs.mergeSort le).Pairwise fun a b => key a ≤ key b :=
    fun zs => (List.pairwise_mergeSort htrans htotal zs).imp fun {a b} => hle a b
  refine eq_of_filter_key (hsorted xs) (hsorted ys) fun k => ?_
  rw [filter_mergeSort htrans htotal, filter_mergeSort htrans htotal, h]

theorem keyLe_trans (key : α → κ) (a b c : α) (hab : decide (key a ≤ key b) = true)
    (hbc : decide (key b ≤ key c) = true) : decide (key a ≤ key c) = true := by
  rw [decide_eq_true_eq] at hab hbc ⊢
  exact hab.trans hbc

theorem keyLe_total (key : α → κ) (a b : α) :
    (decide (key a ≤ key b) || decide (key b ≤ key a)) = true := by
  rw [Bool.or_eq_true, decide_eq_true_eq, decide_eq_true_eq]
  exact le_total (key a) (key b)

/-- Where all keys differ there is at most one thing of each. -/
theorem filter_key_eq_of_perm (h : xs.Perm ys) (hn : (xs.map key).Nodup) (k : κ) :
    xs.filter (key · = k) = ys.filter (key · = k) := by
  have hperm := h.filter (key · = k)
  have hnodup : ((xs.filter (key · = k)).map key).Nodup := hn.sublist (List.filter_sublist.map key)
  have hkey : ∀ a ∈ xs.filter (key · = k), key a = k := by
    intro a ha
    simpa using (List.mem_filter.1 ha).2
  generalize xs.filter (key · = k) = zs at hperm hnodup hkey
  cases zs with
  | nil => exact (List.nil_perm.1 hperm).symm
  | cons a zs =>
    cases zs with
    | nil => exact List.singleton_perm.1 hperm
    | cons b zs =>
      have hab : key a = key b := (hkey a (by simp)).trans (hkey b (by simp)).symm
      simp [hab] at hnodup

/-- What is left of a key once some keys have been left out: all or nothing. -/
theorem filter_filter_key (keep : κ → Bool) (xs : List α) (k : κ) :
    (xs.filter fun a => keep (key a)).filter (key · = k) =
      if keep k then xs.filter (key · = k) else [] := by
  rw [List.filter_filter]
  split
  · next hk =>
    apply List.filter_congr
    intro a _
    rw [Bool.and_eq_left_iff_imp]
    intro ha
    rw [of_decide_eq_true ha, hk]
  · next hk =>
    rw [List.filter_eq_nil_iff]
    intro a _ ha
    rw [Bool.and_eq_true, decide_eq_true_eq] at ha
    exact hk (ha.1 ▸ ha.2)

end

namespace FileError

variable {a b c : FileError}

theorem le_iff : le a b ↔ a.path < b.path ∨ a.path = b.path ∧ a.reason.rank ≤ b.reason.rank := by
  simp [le]

theorem le_trans (hab : le a b) (hbc : le b c) : le a c := by
  rw [le_iff] at hab hbc ⊢
  rcases hab with hab | ⟨hab, hr⟩
  · rcases hbc with hbc | ⟨hbc, -⟩
    · exact .inl (hab.trans hbc)
    · exact .inl (hbc ▸ hab)
  · rcases hbc with hbc | ⟨hbc, hr'⟩
    · exact .inl (hab ▸ hbc)
    · exact .inr ⟨hab.trans hbc, by omega⟩

theorem le_total (a b : FileError) : (le a b || le b a) = true := by
  rw [Bool.or_eq_true, le_iff, le_iff]
  rcases lt_trichotomy a.path b.path with h | h | h
  · exact .inl (.inl h)
  · rcases Nat.le_total a.reason.rank b.reason.rank with hr | hr
    · exact .inl (.inr ⟨h, hr⟩)
    · exact .inr (.inr ⟨h.symm, hr⟩)
  · exact .inr (.inl h)

/-- Errors are sorted alike if those of each path come in the same order. -/
theorem mergeSort_eq {xs ys : List FileError}
    (h : ∀ p, xs.filter (·.path = p) = ys.filter (·.path = p)) :
    xs.mergeSort le = ys.mergeSort le := by
  refine mergeSort_eq_of_filter_key (fun a b c hab hbc => le_trans hab hbc) le_total ?_ h
  intro a b hab
  rcases le_iff.1 hab with hlt | ⟨heq, -⟩
  · exact hlt.le
  · exact heq.le

theorem filter_mergeSort (keep : FileError → Bool) (xs : List FileError) :
    (xs.mergeSort le).filter keep = (xs.filter keep).mergeSort le := by
  apply CodeSurvey.filter_mergeSort
  · intro a b c hab hbc
    exact le_trans hab hbc
  · exact le_total

end FileError

namespace FileRecord

/-- So are records. -/
theorem mergeSort_eq {xs ys : List FileRecord}
    (h : ∀ p, xs.filter (·.path = p) = ys.filter (·.path = p)) :
    (xs.mergeSort fun a b => decide (a.path ≤ b.path)) =
      ys.mergeSort fun a b => decide (a.path ≤ b.path) :=
  mergeSort_eq_of_filter_key (keyLe_trans path) (keyLe_total path) (fun _ _ => of_decide_eq_true) h

theorem filter_mergeSort (keep : FileRecord → Bool) (xs : List FileRecord) :
    (xs.mergeSort fun a b => decide (a.path ≤ b.path)).filter keep =
      (xs.filter keep).mergeSort fun a b => decide (a.path ≤ b.path) :=
  CodeSurvey.filter_mergeSort (keyLe_trans path) (keyLe_total path) keep xs

end FileRecord

namespace Survey

variable {os os' : List Outcome} {skips : List FileError} {total : Nat} {asked : Bool}

theorem state_collect (total : Nat) (skips : List FileError) (os : List Outcome) (asked : Bool) :
    (collect total skips os asked).state =
      if (collect total skips os asked).summary.cancelled then .cancelled else .completed := rfl

section

variable (total : Nat) (skips : List FileError) (os : List Outcome) (asked : Bool)

theorem totalFiles_collect : (collect total skips os asked).summary.totalFiles = total := by
  rw [summary_collect]

theorem records_collect : (collect total skips os asked).records =
    (recordsOf os).mergeSort fun a b => decide (a.path ≤ b.path) := rfl

theorem errors_collect : (collect total skips os asked).summary.errors =
    (skips ++ errorsOf os).mergeSort FileError.le := by
  rw [summary_collect]

theorem records_collect_perm : (collect total skips os asked).records.Perm (recordsOf os) :=
  List.mergeSort_perm _ _

theorem errors_collect_perm :
    (collect total skips os asked).summary.errors.Perm (skips ++ errorsOf os) := by
  rw [errors_collect]
  exact List.mergeSort_perm _ _

theorem counted_collect :
    (collect total skips os asked).summary.parsedCount +
      (collect total skips os asked).summary.failedCount = skips.length + os.length := by
  have hlen := length_recordsOf_add os
  simp only [summary_collect]
  omega

theorem undispatched_collect :
    (collect total skips os asked).summary.undispatched = total - (skips.length + os.length) := by
  rw [Summary.undispatched, counted_collect, totalFiles_collect]

theorem length_records_collect :
    (collect total skips os asked).records.length =
      (collect total skips os asked).summary.parsedCount := by
  rw [(records_collect_perm _ _ _ _).length_eq, summary_collect]

theorem length_errors_collect :
    (collect total skips os asked).summary.errors.length =
      (collect total skips os asked).summary.failedCount := by
  rw [(errors_collect_perm _ _ _ _).length_eq, summary_collect, List.length_append]

theorem sum_languages_collect :
    ((collect total skips os asked).summary.languages.map Prod.snd).sum =
      (collect total skips os asked).summary.parsedCount := by
  rw [sum_languages]
  simp only [summary_collect, sum_countP_language]

theorem totalLines_collect :
    (collect total skips os asked).summary.totalLines =
      ((collect total skips os asked).records.map FileRecord.lineCount).sum := by
  rw [((records_collect_perm _ _ _ _).map _).sum_eq, summary_collect]

theorem cancelled_collect_iff (h : 0 < total - (skips.length + os.length) → asked = true) :
    (collect total skips os asked).summary.cancelled = true ↔
      0 < (collect total skips os asked).summary.undispatched := by
  rw [undispatched_collect]
  simp only [summary_collect, Bool.and_eq_true, decide_eq_true_eq]
  exact ⟨fun hc => hc.2, fun hc => ⟨h hc, hc⟩⟩

end

/-- Two surveys that are the same but for the order of their records and errors. -/
structure Agrees (s t : Survey) : Prop where
  state : s.state = t.state
  totalFiles : s.summary.totalFiles = t.summary.totalFiles
  parsedCount : s.summary.parsedCount = t.summary.parsedCount
  failedCount : s.summary.failedCount = t.summary.failedCount
  totalLines : s.summary.totalLines = t.summary.totalLines
  distribution : s.summary.distribution = t.summary.distribution
  cancelled : s.summary.cancelled = t.summary.cancelled
  errors : s.summary.errors.Perm t.summary.errors
  records : s.records.Perm t.records

theorem Agrees.eq {s t : Survey} (h : Agrees s t)
    (herrors : s.summary.errors = t.summary.errors) (hrecords : s.records = t.records) :
    s = t :=
  Survey.ext h.state
    (Summary.ext h.totalFiles h.parsedCount h.failedCount h.totalLines h.distribution herrors
      h.cancelled) hrecords

/-- Only the order of records and errors depends on the order of the outcomes. -/
theorem collect_agrees (h : os.Perm os') :
    Agrees (collect total skips os asked) (collect total skips os' asked) := by
  have hr : (recordsOf os).Perm (recordsOf os') := h.filterMap _
  have he : (errorsOf os).Perm (errorsOf os') := h.filterMap _
  have hcancelled : (collect total skips os asked).summary.cancelled =
      (collect total skips os' asked).summary.cancelled := by
    simp only [summary_collect, h.length_eq]
  exact {
    state := by rw [state_collect, state_collect, hcancelled]
    totalFiles := by rw [totalFiles_collect, totalFiles_collect]
    parsedCount := by simp only [summary_collect, hr.length_eq]
    failedCount := by simp only [summary_collect, he.length_eq]
    totalLines := by
      simp only [summary_collect]
      exact (hr.map _).sum_eq
    distribution := by
      simp only [summary_collect]
      funext l
      exact hr.countP_eq _
    cancelled := hcancelled
    errors := (errors_collect_perm _ _ _ _).trans
      ((he.append_left skips).trans (errors_collect_perm _ _ _ _).symm)
    records := (records_collect_perm _ _ _ _).trans
      (hr.trans (records_collect_perm _ _ _ _).symm) }

/-- Where all paths differ, nothing depends on the order of the outcomes. -/
theorem collect_eq_of_perm (h : os.Perm os') (hr : ((recordsOf os).map FileRecord.path).Nodup)
    (he : ((skips ++ errorsOf os).map FileError.path).Nodup) :
    collect total skips os asked = collect total skips os' asked := by
  have ha : Agrees (collect total skips os asked) (collect total skips os' asked) :=
    collect_agrees h
  have hrecords : (recordsOf os).Perm (recordsOf os') := h.filterMap _
  have herrors : (skips ++ errorsOf os).Perm (skips ++ errorsOf os') :=
    (h.filterMap _).append_left skips
  apply ha.eq
  · simp only [summary_collect]
    exact FileError.mergeSort_eq (filter_key_eq_of_perm herrors he)
  · exact FileRecord.mergeSort_eq (filter_key_eq_of_perm hrecords hr)

/-- When no file is left it makes no difference whether the survey was asked to stop. -/
theorem collect_of_all (h : skips.length + os.length = total) :
    collect total skips os asked = collect total skips os false := by
  have hsummary : (collect total skips os asked).summary =
      (collect total skips os false).summary := by
    simp [summary_collect, h]
  apply Survey.ext
  · rw [state_collect, state_collect, hsummary]
  · exact hsummary
  · rfl

end Survey

end CodeSurvey
