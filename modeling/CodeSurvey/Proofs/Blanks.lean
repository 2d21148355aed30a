import CodeSurvey.Text.Blank
import CodeSurvey.Text.Line
import Mathlib.Data.List.TakeWhile

/-! Blanks around a text, and what is written in its lines. -/
namespace CodeSurvey.Text

def Blank (s : List Char) : Prop := ∀ c ∈ s, isBlank c = true

/-- What is written in a text, without its blanks. -/
def letters (s : List Char) : List Char := s.filter fun c => !isBlank c

/-- A text that neither starts nor ends with a blank. -/
structure Tight (s : List Char) : Prop where
  head : ∀ c ∈ s.head?, isBlank c = false
  last : ∀ c ∈ s.getLast?, isBlank c = false

variable {c : Char} {l s t : List Char} {ls : List (List Char)}

/-! ### Trimming -/

theorem letters_append (s t : List Char) : letters (s ++ t) = letters s ++ letters t :=
  List.filter_append ..

theorem letters_eq_nil_iff : letters s = [] ↔ Blank s := by
  simp [letters, Blank]

theorem not_blank_of_mem (hc : c ∈ s) (h : isBlank c = false) : ¬ Blank s := by
  intro hs
  rw [hs c hc] at h
  cases h

theorem head?_dropWhile_isBlank (h : c ∈ (s.dropWhile isBlank).head?) : isBlank c = false := by
  have hnot := List.head?_dropWhile_not isBlank s
  rw [Option.mem_def.1 h] at hnot
  exact hnot

theorem trimEnd_append (s : List Char) : ∃ trail, trimEnd s ++ trail = s ∧ Blank trail := by
  refine ⟨(s.reverse.takeWhile isBlank).reverse, ?_, ?_⟩
  · rw [trimEnd, ← List.reverse_append, List.takeWhile_append_dropWhile, List.reverse_reverse]
  · intro c hc
    exact List.mem_takeWhile_imp (List.mem_reverse.1 hc)

/-- Trimming takes nothing but blanks from both ends. -/
theorem append_trim_append (s : List Char) :
    ∃ lead trail, lead ++ trim s ++ trail = s ∧ Blank lead ∧ Blank trail := by
  obtain ⟨trail, htrail, hblank⟩ := trimEnd_append (trimStart s)
  refine ⟨s.takeWhile isBlank, trail, ?_, fun c hc => List.mem_takeWhile_imp hc, hblank⟩
  rw [List.append_assoc, trim, htrail, trimStart, List.takeWhile_append_dropWhile]

theorem letters_trim (s : List Char) : letters (trim s) = letters s := by
  obtain ⟨lead, trail, hs, hlead, htrail⟩ := append_trim_append s
  have hall := congrArg letters hs
  rw [letters_append, letters_append, letters_eq_nil_iff.2 hlead, letters_eq_nil_iff.2 htrail,
    List.nil_append, List.append_nil] at hall
  exact hall

theorem mem_of_mem_trim (h : c ∈ trim s) : c ∈ s := by
  obtain ⟨lead, trail, hs, -, -⟩ := append_trim_append s
  rw [← hs]
  exact List.mem_append_left _ (List.mem_append_right _ h)

theorem trim_of_blank (h : Blank s) : trim s = [] := by
  rw [trim, trimStart, List.dropWhile_eq_nil_iff.2 h]
  rfl

theorem trim_eq_nil_iff : trim s = [] ↔ Blank s := by
  refine ⟨?_, trim_of_blank⟩
  intro h
  rw [← letters_eq_nil_iff, ← letters_trim, h]
  rfl

theorem tight_nil : Tight [] := ⟨by simp, by simp⟩

theorem tight_trim (s : List Char) : Tight (trim s) := by
  constructor
  · intro c hc
    obtain ⟨trail, htrail, -⟩ := trimEnd_append (trimStart s)
    refine head?_dropWhile_isBlank (s := s) ?_
    rw [trimStart] at htrail
    rw [Option.mem_def] at hc ⊢
    rw [← htrail, List.head?_append, ← trimStart, ← trim, hc]
    rfl
  · intro c hc
    rw [trim, trimEnd, List.getLast?_reverse] at hc
    exact head?_dropWhile_isBlank hc

theorem dropWhile_isBlank_eq_self (h : ∀ c ∈ s.head?, isBlank c = false) :
    s.dropWhile isBlank = s := by
  cases s with
  | nil => rfl
  | cons c s => rw [List.dropWhile_cons_of_neg (by simp [h c rfl])]

theorem Tight.trim_eq (h : Tight s) : trim s = s := by
  rw [trim, trimStart, dropWhile_isBlank_eq_self h.head, trimEnd, dropWhile_isBlank_eq_self,
    List.reverse_reverse]
  intro c hc
  rw [List.head?_reverse] at hc
  exact h.last c hc

theorem exists_ends_trim (h : ¬ Blank s) :
    (∃ c, (trim s).head? = some c ∧ isBlank c = false) ∧
      ∃ c, (trim s).getLast? = some c ∧ isBlank c = false := by
  have hne : trim s ≠ [] := mt trim_eq_nil_iff.1 h
  have hhead := List.head?_eq_some_head hne
  have hlast := List.getLast?_eq_some_getLast hne
  exact ⟨⟨_, hhead, (tight_trim s).head _ hhead⟩, _, hlast, (tight_trim s).last _ hlast⟩

/-! ### Lines -/

theorem flatten_lines_sublist (s : List Char) : (lines s).flatten.Sublist s := by
  fun_induction lines s with
  | case1 => exact List.Sublist.refl _
  | case2 cs ih => exact ih.cons _
  | case3 cs ih => exact (ih.cons _).cons _
  | case4 c cs _ _ hnil ih => simp
  | case5 c cs _ _ l ls hcons ih =>
    rw [hcons] at ih
    exact ih.cons_cons c

theorem mem_of_mem_lines (hl : l ∈ lines s) (hc : c ∈ l) : c ∈ s :=
  (flatten_lines_sublist s).subset (List.mem_flatten_of_mem hl hc)

theorem blank_of_mem_lines (h : Blank s) (hl : l ∈ lines s) : Blank l := by
  intro c hc
  exact h c (mem_of_mem_lines hl hc)

theorem newline_notMem_lines (hl : l ∈ lines s) : '\n' ∉ l := by
  fun_induction lines s generalizing l with
  | case1 => cases hl
  | case2 cs ih =>
    rcases List.mem_cons.1 hl with rfl | hl
    · exact List.not_mem_nil
    · exact ih hl
  | case3 cs ih =>
    rcases List.mem_cons.1 hl with rfl | hl
    · exact List.not_mem_nil
    · exact ih hl
  | case4 c cs hc _ hnil ih =>
    rw [List.mem_singleton] at hl
    rw [hl, List.mem_singleton]
    exact Ne.symm hc
  | case5 c cs hc _ l' ls hcons ih =>
    rw [hcons] at ih
    rcases List.mem_cons.1 hl with rfl | hl
    · rw [List.mem_cons, not_or]
      exact ⟨Ne.symm hc, ih List.mem_cons_self⟩
    · exact ih (List.mem_cons_of_mem _ hl)

/-- The endings of lines are blank, so that nothing that is written is lost with them. -/
theorem flatMap_letters_lines (s : List Char) : (lines s).flatMap letters = letters s := by
  fun_induction lines s with
  | case1 => rfl
  | case2 cs ih => exact ih
  | case3 cs ih => exact ih
  | case4 c cs _ _ hnil ih =>
    rw [hnil] at ih
    rw [← List.singleton_append (l := cs), letters_append, ← ih]
    simp
  | case5 c cs _ _ l ls hcons ih =>
    rw [hcons, List.flatMap_cons] at ih
    rw [← List.singleton_append (l := cs), letters_append, ← ih, List.flatMap_cons,
      ← List.singleton_append (l := l), letters_append, List.append_assoc]

/-- A character that is not of the ending of a line belongs to the first line. -/
theorem lines_cons (hn : c ≠ '\n') (hr : c = '\r' → s.head? ≠ some '\n') :
    lines (c :: s) = (c :: (lines s).headD []) :: (lines s).tail := by
  rw [lines.eq_4 c s hn fun t hc hs => hr hc (by rw [hs]; rfl)]
  cases lines s <;> rfl

theorem lines_cons_of_not_blank (hc : isBlank c = false) (s : List Char) :
    lines (c :: s) = (c :: (lines s).headD []) :: (lines s).tail := by
  apply lines_cons
  · rintro rfl
    cases hc
  · rintro rfl
    cases hc

theorem exists_lines_concat (hc : isBlank c = false) (s : List Char) :
    ∃ ls l, lines (s ++ [c]) = ls ++ [l ++ [c]] := by
  induction s with
  | nil => exact ⟨[], [], by rw [List.nil_append, lines_cons_of_not_blank hc]; rfl⟩
  | cons a s ih =>
    obtain ⟨ls, l, h⟩ := ih
    rw [List.cons_append]
    by_cases hn : a = '\n'
    · subst hn
      exact ⟨[] :: ls, l, by rw [lines, h]; rfl⟩
    by_cases hr : a = '\r' → (s ++ [c]).head? ≠ some '\n'
    · rw [lines_cons hn hr, h]
      cases ls with
      | nil => exact ⟨[], a :: l, rfl⟩
      | cons k ls => exact ⟨(a :: k) :: ls, l, rfl⟩
    · -- the carriage return belongs to the line feed after it
      rw [Classical.not_imp, not_not] at hr
      obtain ⟨rfl, hhead⟩ := hr
      obtain ⟨t, ht⟩ := List.head?_eq_some_iff.1 hhead
      refine ⟨ls, l, ?_⟩
      rw [← h, ht]
      rfl

/-- A text that starts with no blank starts like its first line. -/
theorem head?_lines (h : s.head? = some c) (hc : isBlank c = false) :
    ∃ l, (lines s).head? = some l ∧ l.head? = some c := by
  obtain ⟨t, rfl⟩ := List.head?_eq_some_iff.1 h
  exact ⟨_, by rw [lines_cons_of_not_blank hc]; rfl, rfl⟩

/-- A text that ends with no blank ends like its last line. -/
theorem getLast?_lines (h : s.getLast? = some c) (hc : isBlank c = false) :
    ∃ l, (lines s).getLast? = some l ∧ l.getLast? = some c := by
  obtain ⟨t, rfl⟩ := List.getLast?_eq_some_iff.1 h
  obtain ⟨ls, l, hl⟩ := exists_lines_concat hc t
  exact ⟨l ++ [c], by rw [hl, List.getLast?_concat], List.getLast?_concat⟩

theorem lines_append_newline (hn : '\n' ∉ l) (hr : '\r' ∉ l) (s : List Char) :
    lines (l ++ '\n' :: s) = l :: lines s := by
  induction l with
  | nil => rfl
  | cons c l ih =>
    simp only [List.mem_cons, not_or] at hn hr
    rw [List.cons_append, lines_cons (Ne.symm hn.1) fun h => absurd h.symm hr.1, ih hn.2 hr.2]
    rfl

theorem lines_of_no_ending (hne : l ≠ []) (hn : '\n' ∉ l) (hr : '\r' ∉ l) : lines l = [l] := by
  induction l with
  | nil => exact absurd rfl hne
  | cons c l ih =>
    simp only [List.mem_cons, not_or] at hn hr
    rw [lines_cons (Ne.symm hn.1) fun h => absurd h.symm hr.1]
    cases l with
    | nil => rfl
    | cons d l => rw [ih (List.cons_ne_nil d l) hn.2 hr.2]; rfl

/-! ### Lines put together -/

theorem unlines_cons_cons (l l' : List Char) (ls : List (List Char)) :
    unlines (l :: l' :: ls) = l ++ '\n' :: unlines (l' :: ls) := by
  simp [unlines, List.intercalate_cons_cons]

theorem letters_unlines (ls : List (List Char)) : letters (unlines ls) = ls.flatMap letters := by
  induction ls with
  | nil => rfl
  | cons l ls ih =>
    cases ls with
    | nil => simp [unlines]
    | cons l' ls =>
      rw [unlines_cons_cons, letters_append, List.flatMap_cons, ← ih]
      rfl

theorem blank_unlines_iff : Blank (unlines ls) ↔ ∀ l ∈ ls, Blank l := by
  simp only [← letters_eq_nil_iff, letters_unlines, List.flatMap_eq_nil_iff]

theorem head?_unlines (hl : ls.head? = some l) (hc : l.head? = some c) :
    (unlines ls).head? = some c := by
  obtain ⟨ls, rfl⟩ := List.head?_eq_some_iff.1 hl
  cases ls with
  | nil => simpa [unlines] using hc
  | cons l' ls => rw [unlines_cons_cons, List.head?_append, hc]; rfl

theorem getLast?_unlines (hl : ls.getLast? = some l) (hc : l.getLast? = some c) :
    (unlines ls).getLast? = some c := by
  induction ls with
  | nil => cases hl
  | cons k ls ih =>
    cases ls with
    | nil =>
      cases hl
      simpa [unlines] using hc
    | cons k' ls =>
      rw [List.getLast?_cons_cons] at hl
      rw [unlines_cons_cons, List.getLast?_append, List.getLast?_cons, ih hl]
      rfl

/-- Lines without endings of their own can be told from each other, if the last is not empty. -/
theorem lines_unlines (hn : ∀ l ∈ ls, '\n' ∉ l) (hr : ∀ l ∈ ls, '\r' ∉ l)
    (hlast : ls.getLast? ≠ some []) : lines (unlines ls) = ls := by
  induction ls with
  | nil => rfl
  | cons l ls ih =>
    have hl := hn l List.mem_cons_self
    have hl' := hr l List.mem_cons_self
    cases ls with
    | nil =>
      have hne : l ≠ [] := by simpa using hlast
      simpa [unlines] using lines_of_no_ending hne hl hl'
    | cons l' ls =>
      rw [List.getLast?_cons_cons] at hlast
      rw [unlines_cons_cons, lines_append_newline hl hl',
        ih (fun k hk => hn k (List.mem_cons_of_mem _ hk))
          (fun k hk => hr k (List.mem_cons_of_mem _ hk)) hlast]

end CodeSurvey.Text
