import CodeSurvey.Proofs.Blanks
import Mathlib.Data.List.Chain

/-! The words of a text. Divided by single spaces they are its normal form. -/
namespace CodeSurvey.Text

variable {c : Char} {lead rest s t w : List Char} {ws : List (List Char)}

/-- Some characters, none of them blank. -/
structure IsWord (w : List Char) : Prop where
  ne_nil : w ≠ []
  solid : ∀ c ∈ w, isBlank c = false

/-- The words that stand in a text. A word starts at the first character that is not blank and goes
on up to the next blank. -/
inductive HasWords : List Char → List (List Char) → Prop where
  | blank {s : List Char} (hs : Blank s) : HasWords s []
  | word {lead w rest : List Char} {ws : List (List Char)} (hlead : Blank lead) (hw : IsWord w)
      (hstop : ∀ c ∈ rest.head?, isBlank c = true) (hrest : HasWords rest ws) :
      HasWords (lead ++ w ++ rest) (w :: ws)

/-! ### Splitting at blanks -/

/-- A blank belongs to no word, and parts the words before it from those behind it. -/
theorem words_append_cons (hc : isBlank c = true) (s t : List Char) :
    words (s ++ c :: t) = words s ++ words t := by
  rw [words, List.splitOnP_append_cons s t hc, List.filter_append, words, words]

theorem words_append_of_blank (h : Blank lead) (s : List Char) : words (lead ++ s) = words s := by
  induction lead with
  | nil => rfl
  | cons c lead ih =>
    have hc : isBlank c = true := h c List.mem_cons_self
    have hsplit := words_append_cons hc [] (lead ++ s)
    rw [List.nil_append] at hsplit
    rw [List.cons_append, hsplit, ih fun d hd => h d (List.mem_cons_of_mem c hd)]
    rfl

theorem words_of_blank (h : Blank s) : words s = [] := by
  have hall := words_append_of_blank h []
  rwa [List.append_nil] at hall

theorem IsWord.words_eq (h : IsWord w) : words w = [w] := by
  rw [words, List.splitOnP_eq_singleton h.solid]
  simp [h.ne_nil]

theorem IsWord.words_append (h : IsWord w) (hstop : ∀ c ∈ rest.head?, isBlank c = true) :
    words (w ++ rest) = w :: words rest := by
  cases rest with
  | nil =>
    rw [List.append_nil, h.words_eq]
    rfl
  | cons c rest =>
    have hc : isBlank c = true := hstop c rfl
    have hrest := words_append_cons hc [] rest
    rw [List.nil_append] at hrest
    rw [words_append_cons hc, h.words_eq, hrest]
    rfl

theorem HasWords.eq_words (h : HasWords s ws) : ws = words s := by
  induction h with
  | blank hs => rw [words_of_blank hs]
  | word hlead hw hstop hrest ih =>
    rw [List.append_assoc, words_append_of_blank hlead, hw.words_append hstop, ih]

/-- What is left of a text behind its first word is shorter. -/
theorem exists_hasWords (s : List Char) : ∃ ws, HasWords s ws := by
  by_cases hs : Blank s
  · exact ⟨[], .blank hs⟩
  · let solid := fun c => !isBlank c
    have hlead : Blank (s.takeWhile isBlank) := fun c hc => List.mem_takeWhile_imp hc
    have hword : IsWord ((s.dropWhile isBlank).takeWhile solid) := by
      constructor
      · have hne : s.dropWhile isBlank ≠ [] := mt List.dropWhile_eq_nil_iff.1 hs
        obtain ⟨c, t, ht⟩ := List.exists_cons_of_ne_nil hne
        have hc : isBlank c = false := head?_dropWhile_isBlank (s := s) (by rw [ht]; rfl)
        simp [ht, solid, hc]
      · intro c hc
        have := List.mem_takeWhile_imp hc
        simpa [solid] using this
    have hstop : ∀ c ∈ ((s.dropWhile isBlank).dropWhile solid).head?, isBlank c = true := by
      intro c hc
      have hnot := List.head?_dropWhile_not solid (s.dropWhile isBlank)
      rw [Option.mem_def.1 hc] at hnot
      simpa [solid] using hnot
    have hsplit : s.takeWhile isBlank ++ (s.dropWhile isBlank).takeWhile solid ++
        (s.dropWhile isBlank).dropWhile solid = s := by
      rw [List.append_assoc, List.takeWhile_append_dropWhile, List.takeWhile_append_dropWhile]
    have hshorter : ((s.dropWhile isBlank).dropWhile solid).length < s.length := by
      have hlength := congrArg List.length hsplit
      have hpos := List.length_pos_iff.2 hword.ne_nil
      rw [List.length_append, List.length_append] at hlength
      omega
    obtain ⟨ws, hws⟩ := exists_hasWords ((s.dropWhile isBlank).dropWhile solid)
    have hall := HasWords.word hlead hword hstop hws
    rw [hsplit] at hall
    exact ⟨_, hall⟩
  termination_by s.length

theorem hasWords_iff : HasWords s ws ↔ ws = words s := by
  constructor
  · exact HasWords.eq_words
  · rintro rfl
    obtain ⟨ws, h⟩ := exists_hasWords s
    rwa [← h.eq_words]

theorem HasWords.isWord (h : HasWords s ws) (hw : w ∈ ws) : IsWord w := by
  induction h with
  | blank hs => cases hw
  | word hlead hfirst hstop hrest ih =>
    rcases List.mem_cons.1 hw with rfl | hw
    · exact hfirst
    · exact ih hw

theorem isWord_of_mem_words (h : w ∈ words s) : IsWord w :=
  (hasWords_iff.2 rfl).isWord h

/-! ### Joining by spaces -/

theorem isBlank_space : isBlank ' ' = true := by decide

theorem spaced_cons_cons (w w' : List Char) (ws : List (List Char)) :
    [' '].intercalate (w :: w' :: ws) = w ++ ' ' :: [' '].intercalate (w' :: ws) := by
  simp [List.intercalate_cons_cons]

/-- Splitting undoes joining. -/
theorem words_spaced (h : ∀ w ∈ ws, IsWord w) : words ([' '].intercalate ws) = ws := by
  induction ws with
  | nil => rfl
  | cons w ws ih =>
    have hw := h w List.mem_cons_self
    have hrest := ih fun v hv => h v (List.mem_cons_of_mem w hv)
    cases ws with
    | nil => rw [List.intercalate_singleton, hw.words_eq]
    | cons w' ws => rw [spaced_cons_cons, words_append_cons isBlank_space, hw.words_eq, hrest]; rfl

theorem words_squashChars (s : List Char) : words (squashChars s) = words s :=
  words_spaced fun _ => isWord_of_mem_words

theorem squashChars_eq_iff : squashChars s = squashChars t ↔ words s = words t := by
  constructor
  · intro h
    rw [← words_squashChars s, h, words_squashChars]
  · intro h
    rw [squashChars, h, squashChars]

/-- Blanks stand between words only, one space at a time. -/
structure Squashed (s : List Char) : Prop where
  tight : Tight s
  space : ∀ c ∈ s, isBlank c = true → c = ' '
  single : s.IsChain fun a b => isBlank a = true → isBlank b = false

theorem squashed_nil : Squashed [] := ⟨tight_nil, by simp, .nil⟩

theorem IsWord.squashed (h : IsWord w) : Squashed w where
  tight := by
    constructor
    · intro c hc
      exact h.solid c (List.mem_of_mem_head? hc)
    · intro c hc
      exact h.solid c (List.mem_of_mem_getLast? hc)
  space := by
    intro c hc hblank
    rw [h.solid c hc] at hblank
    cases hblank
  single := by
    apply List.Pairwise.isChain
    apply List.pairwise_of_forall_mem_list
    intro a _ b hb _
    exact h.solid b hb

/-- A word and a space may be put before a text that starts with a word. -/
theorem Squashed.word (h : Squashed s) (hne : s ≠ []) (hw : IsWord w) :
    Squashed (w ++ ' ' :: s) where
  tight := by
    constructor
    · intro c hc
      rw [List.head?_append_of_ne_nil _ hw.ne_nil] at hc
      exact hw.squashed.tight.head c hc
    · intro c hc
      obtain ⟨d, t, rfl⟩ := List.exists_cons_of_ne_nil hne
      rw [List.getLast?_append_cons, List.getLast?_cons_cons] at hc
      exact h.tight.last c hc
  space := by
    intro c hc hblank
    rcases List.mem_append.1 hc with hc | hc
    · exact hw.squashed.space c hc hblank
    · rcases List.mem_cons.1 hc with rfl | hc
      · rfl
      · exact h.space c hc hblank
  single := by
    refine hw.squashed.single.append (List.isChain_cons.2 ⟨?_, h.single⟩) ?_
    · intro b hb _
      exact h.tight.head b hb
    · intro a ha b _ hblank
      rw [hw.squashed.tight.last a ha] at hblank
      cases hblank

theorem squashed_spaced (h : ∀ w ∈ ws, IsWord w) : Squashed ([' '].intercalate ws) := by
  induction ws with
  | nil => exact squashed_nil
  | cons w ws ih =>
    have hw := h w List.mem_cons_self
    have hrest := ih fun v hv => h v (List.mem_cons_of_mem w hv)
    cases ws with
    | nil =>
      rw [List.intercalate_singleton]
      exact hw.squashed
    | cons w' ws =>
      have hne : [' '].intercalate (w' :: ws) ≠ [] := by
        intro hnil
        have hwords := words_spaced fun v hv => h v (List.mem_cons_of_mem w hv)
        rw [hnil] at hwords
        cases hwords
      rw [spaced_cons_cons]
      exact hrest.word hne hw

theorem squashed_squashChars (s : List Char) : Squashed (squashChars s) :=
  squashed_spaced fun _ => isWord_of_mem_words

@[simp]
theorem toList_squash (s : String) : (squash s).toList = squashChars s.toList :=
  String.toList_ofList

/-- Two texts are squashed to one exactly if they have the same words, and what they are squashed to
is the text with these words that has no blanks to spare. -/
theorem squash_normalizes (s t : String) :
    (∃! ws, HasWords s.toList ws) ∧
      (squash s = squash t ↔ ∃ ws, HasWords s.toList ws ∧ HasWords t.toList ws) ∧
      (∀ ws, HasWords (squash s).toList ws ↔ HasWords s.toList ws) ∧
      Squashed (squash s).toList ∧ squash (squash s) = squash s := by
  have heq : ∀ u : String, squash s = squash u ↔ words s.toList = words u.toList := by
    intro u
    rw [← String.toList_inj, toList_squash, toList_squash, squashChars_eq_iff]
  simp only [hasWords_iff]
  refine ⟨⟨_, rfl, fun _ h => h⟩, ?_, ?_, ?_, ?_⟩
  · rw [heq]
    constructor
    · intro h
      exact ⟨_, rfl, h⟩
    · rintro ⟨ws, hs, ht⟩
      rw [← hs, ht]
  · intro ws
    rw [toList_squash, words_squashChars]
  · rw [toList_squash]
    exact squashed_squashChars _
  · apply Eq.symm
    rw [heq, toList_squash, words_squashChars]

example : squash "\t dict [ str ,\n\x0b int\u3000] " = "dict [ str , int ]" := by decide

end CodeSurvey.Text
