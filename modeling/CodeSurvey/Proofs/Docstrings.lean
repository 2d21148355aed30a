import CodeSurvey.Proofs.Blanks
import CodeSurvey.Text.Docstring
import Mathlib.Data.List.Forall2
import Mathlib.Order.Bounds.Defs

/-! Cleaning a docstring takes blanks from it and nothing else, the same indentation from each line
after the first, and nothing from a docstring that is clean. -/
namespace CodeSurvey.Text

/-- The blanks that open a line are of one byte each. -/
def AsciiIndented (line : List Char) : Prop := ∀ c ∈ line.takeWhile isBlank, c.val ≤ 127

/-- What is left of a line without so many bytes at its start. -/
def Loses (n : Nat) (line short : List Char) : Prop := ∃ cut, cut ++ short = line ∧ byteSize cut = n

/-- Lines moved to the left by so many bytes, up to the first column. Blank lines stay blank. -/
structure Dedented (n : Nat) (before after : List (List Char)) : Prop where
  moved : List.Forall₂ (fun line short => (Blank line → Blank short) ∧
    (¬ Blank line → Loses n line short ∧ indentOf line = n + indentOf short)) before after
  least : (∃ line ∈ before, ¬ Blank line) →
    IsLeast {k | ∃ line ∈ before, ¬ Blank line ∧ indentOf line = k} n
  flush : (∃ line ∈ before, ¬ Blank line) →
    ∃ short ∈ after, ∃ c, short.head? = some c ∧ isBlank c = false
  whole : ∀ short ∈ after, '\n' ∉ short

variable {c : Char} {n : Nat} {cut l r s : List Char} {ls : List (List Char)}

/-! ### Bytes -/

theorem dropBytes?_append (s t : List Char) : dropBytes? (byteSize s) (s ++ t) = some t := by
  induction s with
  | nil => rw [byteSize, List.nil_append, dropBytes?]
  | cons c s ih =>
    obtain ⟨n, hn⟩ : ∃ n, byteSize (c :: s) = n + 1 := by
      refine ⟨byteSize (c :: s) - 1, ?_⟩
      have hpos := c.utf8Size_pos
      rw [byteSize]
      omega
    have hle : c.utf8Size ≤ n + 1 := by
      rw [← hn, byteSize]
      omega
    have hrest : n + 1 - c.utf8Size = byteSize s := by
      rw [← hn, byteSize, Nat.add_sub_cancel_left]
    rw [hn, List.cons_append, dropBytes?, if_pos hle, hrest, ih]

theorem dropBytes?_eq_some_iff : dropBytes? n l = some r ↔ Loses n l r := by
  constructor
  · intro h
    fun_induction dropBytes? n l with
    | case1 s =>
      cases h
      exact ⟨[], rfl, rfl⟩
    | case2 n => cases h
    | case3 n c cs hle ih =>
      obtain ⟨cut, hcut, hsize⟩ := ih h
      refine ⟨c :: cut, by rw [List.cons_append, hcut], ?_⟩
      rw [byteSize]
      omega
    | case4 n c cs hlt => cases h
  · rintro ⟨cut, rfl, rfl⟩
    exact dropBytes?_append cut r

/-! ### The indentation of a line -/

theorem indentOf_cons_of_blank (hc : isBlank c = true) (s : List Char) :
    indentOf (c :: s) = c.utf8Size + indentOf s := by
  rw [indentOf, List.takeWhile_cons_of_pos hc, byteSize, indentOf]

theorem indentOf_cons_of_not_blank (hc : isBlank c = false) (s : List Char) :
    indentOf (c :: s) = 0 := by
  rw [indentOf, List.takeWhile_cons_of_neg (by simp [hc]), byteSize]

theorem indentOf_append (h : Blank cut) (s : List Char) :
    indentOf (cut ++ s) = byteSize cut + indentOf s := by
  induction cut with
  | nil => rw [List.nil_append, byteSize, Nat.zero_add]
  | cons c cut ih =>
    rw [List.cons_append, indentOf_cons_of_blank (h c List.mem_cons_self),
      ih fun d hd => h d (List.mem_cons_of_mem _ hd), byteSize, Nat.add_assoc]

/-- No more bytes than the indentation are all blank. -/
theorem blank_of_byteSize_le (h : byteSize cut ≤ indentOf (cut ++ s)) : Blank cut := by
  induction cut with
  | nil => exact fun c hc => absurd hc List.not_mem_nil
  | cons c cut ih =>
    rw [List.cons_append, byteSize] at h
    cases hc : isBlank c with
    | false =>
      rw [indentOf_cons_of_not_blank hc] at h
      have hpos := c.utf8Size_pos
      omega
    | true =>
      rw [indentOf_cons_of_blank hc] at h
      have hcut : Blank cut := ih (by omega)
      intro d hd
      rcases List.mem_cons.1 hd with rfl | hd
      · exact hc
      · exact hcut d hd

/-- A line that is not blank is its indentation and a text that starts in the first column. -/
theorem exists_loses_indent (h : ¬ Blank l) :
    ∃ r, Loses (indentOf l) l r ∧ ∃ c, r.head? = some c ∧ isBlank c = false := by
  refine ⟨l.dropWhile isBlank, ⟨l.takeWhile isBlank, List.takeWhile_append_dropWhile, rfl⟩, ?_⟩
  cases hr : l.dropWhile isBlank with
  | nil => exact absurd (List.dropWhile_eq_nil_iff.1 hr) h
  | cons c r =>
    refine ⟨c, rfl, head?_dropWhile_isBlank (s := l) ?_⟩
    rw [hr]
    rfl

/-- Each byte of such an indentation ends a character. -/
theorem AsciiIndented.exists_loses (h : AsciiIndented l) (hn : n ≤ indentOf l) :
    ∃ r, Loses n l r := by
  induction l generalizing n with
  | nil =>
    have : n = 0 := Nat.le_zero.1 hn
    exact ⟨[], [], rfl, this.symm⟩
  | cons c l ih =>
    cases n with
    | zero => exact ⟨c :: l, [], rfl, rfl⟩
    | succ n =>
      cases hc : isBlank c with
      | false =>
        rw [indentOf_cons_of_not_blank hc] at hn
        omega
      | true =>
        -- The first blank is one byte, so one byte less is asked of the rest.
        rw [AsciiIndented, List.takeWhile_cons_of_pos hc] at h
        have hsize : c.utf8Size = 1 := Char.utf8Size_eq_one_iff.2 (h c List.mem_cons_self)
        rw [indentOf_cons_of_blank hc] at hn
        obtain ⟨r, cut, rfl, hcut⟩ :=
          @ih n (fun d hd => h d (List.mem_cons_of_mem _ hd)) (by omega)
        refine ⟨r, c :: cut, rfl, ?_⟩
        rw [byteSize]
        omega

/-! ### The common indentation -/

theorem mem_indents_iff :
    n ∈ (ls.filter fun l => !(trim l).isEmpty).map indentOf ↔
      ∃ l ∈ ls, ¬ Blank l ∧ indentOf l = n := by
  simp [trim_eq_nil_iff, and_assoc]

theorem isLeast_commonIndent (h : ∃ l ∈ ls, ¬ Blank l) :
    IsLeast {n | ∃ l ∈ ls, ¬ Blank l ∧ indentOf l = n} (commonIndent ls) := by
  obtain ⟨l, hl, hblank⟩ := h
  have hmem := mem_indents_iff.2 ⟨l, hl, hblank, rfl⟩
  obtain ⟨n, hn⟩ := Option.isSome_iff_exists.1 (List.isSome_min?_of_mem hmem)
  obtain ⟨hleast, hle⟩ := List.min?_eq_some_iff.1 hn
  rw [commonIndent, hn]
  exact ⟨mem_indents_iff.1 hleast, fun m hm => hle m (mem_indents_iff.2 hm)⟩

theorem commonIndent_le (hl : l ∈ ls) (h : ¬ Blank l) : commonIndent ls ≤ indentOf l :=
  (isLeast_commonIndent ⟨l, hl, h⟩).2 ⟨l, hl, h, rfl⟩

theorem commonIndent_of_blank (h : ∀ l ∈ ls, Blank l) : commonIndent ls = 0 := by
  have hnone : ls.filter (fun l => !(trim l).isEmpty) = [] := by
    rw [List.filter_eq_nil_iff]
    intro l hl
    simp [trim_of_blank (h l hl)]
  rw [commonIndent, hnone]
  rfl

/-! ### Dedented lines -/

/-- A line loses the bytes asked for, or it is trimmed. -/
theorem dedentLine_cases (n : Nat) (l : List Char) :
    Loses n l (dedentLine n l) ∨ dedentLine n l = trim l := by
  rw [dedentLine]
  cases h : dropBytes? n l with
  | none => exact .inr rfl
  | some r => exact .inl (dropBytes?_eq_some_iff.1 h)

theorem dedentLine_of_loses (h : Loses n l r) : dedentLine n l = r := by
  rw [dedentLine, dropBytes?_eq_some_iff.2 h]
  rfl

theorem dedentLine_zero (l : List Char) : dedentLine 0 l = l :=
  dedentLine_of_loses ⟨[], rfl, rfl⟩

theorem mem_of_mem_dedentLine (h : c ∈ dedentLine n l) : c ∈ l := by
  rcases dedentLine_cases n l with ⟨cut, hcut, -⟩ | htrim
  · rw [← hcut]
    exact List.mem_append_right _ h
  · rw [htrim] at h
    exact mem_of_mem_trim h

theorem blank_dedentLine (h : Blank l) (n : Nat) : Blank (dedentLine n l) :=
  fun c hc => h c (mem_of_mem_dedentLine hc)

/-- What is cut from an indented line is a part of its indentation. -/
theorem Loses.blank (h : Loses n l r) (hn : n ≤ indentOf l) :
    ∃ cut, cut ++ r = l ∧ byteSize cut = n ∧ Blank cut := by
  obtain ⟨cut, rfl, rfl⟩ := h
  exact ⟨cut, rfl, rfl, blank_of_byteSize_le hn⟩

theorem letters_dedentLine (h : ¬ Blank l → n ≤ indentOf l) :
    letters (dedentLine n l) = letters l := by
  by_cases hblank : Blank l
  · rw [letters_eq_nil_iff.2 hblank, letters_eq_nil_iff.2 (blank_dedentLine hblank n)]
  rcases dedentLine_cases n l with hloses | htrim
  · obtain ⟨cut, hcut, -, hb⟩ := hloses.blank (h hblank)
    rw [← hcut, letters_append, letters_eq_nil_iff.2 hb, List.nil_append, hcut]
  · rw [htrim, letters_trim]

/-- A line that ends with no blank does so when it is dedented. -/
theorem getLast?_dedentLine (hn : n ≤ indentOf l) (hl : l.getLast? = some c)
    (hc : isBlank c = false) :
    ∃ d, (dedentLine n l).getLast? = some d ∧ isBlank d = false := by
  rcases dedentLine_cases n l with hloses | htrim
  · obtain ⟨cut, hcut, -, hb⟩ := hloses.blank hn
    refine ⟨c, ?_, hc⟩
    rw [← hcut, List.getLast?_append] at hl
    cases hr : (dedentLine n l).getLast? with
    | some d => rwa [hr] at hl
    | none =>
      rw [hr] at hl
      exact absurd hb (not_blank_of_mem (List.mem_of_getLast? hl) hc)
  · rw [htrim]
    exact (exists_ends_trim (not_blank_of_mem (List.mem_of_getLast? hl) hc)).2

/-- The least indented line is moved to the first column. -/
theorem exists_flush (h : ∃ l ∈ ls, ¬ Blank l) :
    ∃ r ∈ ls.map (dedentLine (commonIndent ls)), ∃ c, r.head? = some c ∧ isBlank c = false := by
  obtain ⟨⟨l, hl, hblank, heq⟩, -⟩ := isLeast_commonIndent h
  obtain ⟨r, hloses, hhead⟩ := exists_loses_indent hblank
  rw [heq] at hloses
  exact ⟨r, List.mem_map.2 ⟨l, hl, dedentLine_of_loses hloses⟩, hhead⟩

theorem commonIndent_dedented (ls : List (List Char)) :
    commonIndent (ls.map (dedentLine (commonIndent ls))) = 0 := by
  by_cases h : ∃ l ∈ ls, ¬ Blank l
  · obtain ⟨r, hr, c, hhead, hc⟩ := exists_flush h
    obtain ⟨s, rfl⟩ := List.head?_eq_some_iff.1 hhead
    have hle := commonIndent_le hr (not_blank_of_mem List.mem_cons_self hc)
    rw [indentOf_cons_of_not_blank hc] at hle
    omega
  · apply commonIndent_of_blank
    intro l hl
    obtain ⟨k, hk, rfl⟩ := List.mem_map.1 hl
    exact blank_dedentLine (not_not.1 fun hb => h ⟨k, hk, hb⟩) _

theorem dedented_map (hwhole : ∀ l ∈ ls, '\n' ∉ l) (h : ∀ l ∈ ls, ¬ Blank l → AsciiIndented l) :
    Dedented (commonIndent ls) ls (ls.map (dedentLine (commonIndent ls))) where
  moved := by
    rw [List.forall₂_map_right_iff, List.forall₂_same]
    intro l hl
    refine ⟨fun hb => blank_dedentLine hb _, fun hb => ?_⟩
    have hle := commonIndent_le hl hb
    obtain ⟨r, hloses⟩ := (h l hl hb).exists_loses hle
    rw [dedentLine_of_loses hloses]
    refine ⟨hloses, ?_⟩
    obtain ⟨cut, rfl, hsize, hcut⟩ := hloses.blank hle
    rw [indentOf_append hcut, hsize]
  least := isLeast_commonIndent
  flush := exists_flush
  whole := by
    intro short hshort hn
    obtain ⟨l, hl, rfl⟩ := List.mem_map.1 hshort
    exact hwhole l hl (mem_of_mem_dedentLine hn)

/-! ### Dedented texts -/

theorem flatMap_letters_dedent (ls : List (List Char)) :
    (dedent ls).flatMap letters = ls.flatMap letters := by
  cases ls with
  | nil => rfl
  | cons first rest =>
    rw [dedent, List.flatMap_cons, List.flatMap_cons, letters_trim, List.flatMap_map]
    congr 1
    apply List.flatMap_congr
    intro l hl
    exact letters_dedentLine (commonIndent_le hl)

theorem dedent_dedent (ls : List (List Char)) : dedent (dedent ls) = dedent ls := by
  cases ls with
  | nil => rfl
  | cons first rest =>
    rw [dedent, dedent, (tight_trim first).trim_eq, commonIndent_dedented, funext dedentLine_zero,
      List.map_id']

theorem mem_of_mem_dedent (hl : l ∈ dedent ls) (hc : c ∈ l) : ∃ k ∈ ls, c ∈ k := by
  cases ls with
  | nil => cases hl
  | cons first rest =>
    rcases List.mem_cons.1 hl with rfl | hl
    · exact ⟨first, List.mem_cons_self, mem_of_mem_trim hc⟩
    · obtain ⟨k, hk, rfl⟩ := List.mem_map.1 hl
      exact ⟨k, List.mem_cons_of_mem _ hk, mem_of_mem_dedentLine hc⟩

theorem head?_dedent (h : ls.head? = some l) : (dedent ls).head? = some (trim l) := by
  obtain ⟨rest, rfl⟩ := List.head?_eq_some_iff.1 h
  rfl

theorem getLast?_dedent (h : ls.getLast? = some l) (hl : l.getLast? = some c)
    (hc : isBlank c = false) :
    ∃ k d, (dedent ls).getLast? = some k ∧ k.getLast? = some d ∧ isBlank d = false := by
  have hblank : ¬ Blank l := not_blank_of_mem (List.mem_of_getLast? hl) hc
  cases ls with
  | nil => cases h
  | cons first rest =>
    cases rest with
    | nil =>
      cases h
      obtain ⟨-, d, hd⟩ := exists_ends_trim hblank
      exact ⟨trim first, d, rfl, hd⟩
    | cons second rest =>
      rw [List.getLast?_cons_cons] at h
      obtain ⟨d, hd⟩ := getLast?_dedentLine
        (commonIndent_le (List.mem_of_getLast? h) hblank) hl hc
      refine ⟨_, d, ?_, hd⟩
      rw [dedent, List.map_cons, List.getLast?_cons_cons, ← List.map_cons, List.getLast?_map, h]
      rfl

variable {raw : List Char}

/-! ### Docstrings -/

theorem letters_cleanDocstringChars (raw : List Char) :
    letters (cleanDocstringChars raw) = letters raw := by
  rw [cleanDocstringChars, letters_trim, letters_unlines, flatMap_letters_dedent,
    flatMap_letters_lines, letters_trim]

theorem trim_cleanDocstringChars (raw : List Char) :
    trim (cleanDocstringChars raw) = cleanDocstringChars raw :=
  (tight_trim _).trim_eq

theorem cleanDocstringChars_eq_nil_iff : cleanDocstringChars raw = [] ↔ Blank raw := by
  rw [← trim_cleanDocstringChars, trim_eq_nil_iff, ← letters_eq_nil_iff,
    letters_cleanDocstringChars, letters_eq_nil_iff]

/-- The lines of a docstring that says something start and end with no blank. -/
theorem ends_lines (h : ¬ Blank raw) :
    (∃ l c, (lines (trim raw)).head? = some l ∧ l.head? = some c ∧ isBlank c = false) ∧
      ∃ l c, (lines (trim raw)).getLast? = some l ∧ l.getLast? = some c ∧ isBlank c = false := by
  obtain ⟨⟨c, hhead, hc⟩, d, hlast, hd⟩ := exists_ends_trim h
  obtain ⟨l, hl, hlc⟩ := head?_lines hhead hc
  obtain ⟨k, hk, hkd⟩ := getLast?_lines hlast hd
  exact ⟨⟨l, c, hl, hlc, hc⟩, k, d, hk, hkd, hd⟩

theorem tight_dedent (raw : List Char) : Tight (unlines (dedent (lines (trim raw)))) := by
  by_cases hraw : Blank raw
  · rw [trim_of_blank hraw]
    exact tight_nil
  obtain ⟨⟨first, c, hfirst, hhead, hc⟩, last, d, hlast, hend, hd⟩ := ends_lines hraw
  obtain ⟨⟨a, ha, hblank⟩, -⟩ := exists_ends_trim (not_blank_of_mem (List.mem_of_head? hhead) hc)
  obtain ⟨k, e, hk, he, hsolid⟩ := getLast?_dedent hlast hend hd
  constructor
  · intro x hx
    rw [head?_unlines (head?_dedent hfirst) ha] at hx
    cases hx
    exact hblank
  · intro x hx
    rw [getLast?_unlines hk he] at hx
    cases hx
    exact hsolid

theorem cleanDocstringChars_eq (raw : List Char) :
    cleanDocstringChars raw = unlines (dedent (lines (trim raw))) :=
  (tight_dedent raw).trim_eq

/-- The lines of a clean docstring are those that it was put together of. -/
theorem lines_cleanDocstringChars (h : '\r' ∉ raw) :
    lines (cleanDocstringChars raw) = dedent (lines (trim raw)) := by
  rw [cleanDocstringChars_eq]
  apply lines_unlines
  · intro l hl hn
    obtain ⟨k, hk, hn⟩ := mem_of_mem_dedent hl hn
    exact newline_notMem_lines hk hn
  · intro l hl hr
    obtain ⟨k, hk, hr⟩ := mem_of_mem_dedent hl hr
    exact h (mem_of_mem_trim (mem_of_mem_lines hk hr))
  · by_cases hraw : Blank raw
    · rw [trim_of_blank hraw]
      exact fun hnil => by cases hnil
    · -- An empty last line would be lost; this one ends with no blank.
      obtain ⟨-, last, d, hlast, hend, hd⟩ := ends_lines hraw
      obtain ⟨k, e, hk, he, -⟩ := getLast?_dedent hlast hend hd
      rw [hk]
      rintro ⟨⟩
      cases he

theorem cleanDocstringChars_idem (h : '\r' ∉ raw) :
    cleanDocstringChars (cleanDocstringChars raw) = cleanDocstringChars raw := by
  rw [cleanDocstringChars_eq (cleanDocstringChars raw), trim_cleanDocstringChars,
    lines_cleanDocstringChars h, dedent_dedent, cleanDocstringChars_eq]

theorem cleanDocstring_eq_none_iff {raw : String} :
    cleanDocstring raw = none ↔ Blank raw.toList := by
  rw [← cleanDocstringChars_eq_nil_iff, cleanDocstring]
  split <;> simp_all

theorem cleanDocstring_eq_some_iff {raw s : String} :
    cleanDocstring raw = some s ↔
      ¬ Blank raw.toList ∧ s.toList = cleanDocstringChars raw.toList := by
  rw [← cleanDocstringChars_eq_nil_iff, cleanDocstring]
  split
  · simp_all
  · next hne =>
    rw [Option.some_inj, ← String.toList_inj, String.toList_ofList]
    exact ⟨fun h => ⟨hne, h.symm⟩, fun h => h.2.symm⟩

/-- Nothing but blanks is lost from a docstring, and all of it only where there is nothing else.
The lines after the first move to the left together, as far as the least indented of them can, if
their indentation is of one byte a blank. A clean docstring stays as it is. -/
theorem docstrings_cleaned (raw : String) :
    (cleanDocstring raw = none ↔ Blank raw.toList) ∧
    (∀ s, cleanDocstring raw = some s → letters s.toList = letters raw.toList) ∧
    (∀ first rest, lines (trim raw.toList) = first :: rest →
      (∀ line ∈ rest, ¬ Blank line → AsciiIndented line) →
        ∃ n after, Dedented n rest after ∧
          cleanDocstring raw = some (String.ofList (unlines (trim first :: after)))) ∧
    ('\r' ∉ raw.toList → ∀ s, cleanDocstring raw = some s → cleanDocstring s = some s) := by
  refine ⟨cleanDocstring_eq_none_iff, ?_, ?_, ?_⟩
  · intro s hs
    rw [(cleanDocstring_eq_some_iff.1 hs).2, letters_cleanDocstringChars]
  · intro first rest hlines hascii
    refine ⟨commonIndent rest, rest.map (dedentLine (commonIndent rest)), ?_, ?_⟩
    · refine dedented_map ?_ hascii
      intro l hl
      exact newline_notMem_lines (hlines ▸ List.mem_cons_of_mem _ hl)
    · rw [cleanDocstring_eq_some_iff, String.toList_ofList, cleanDocstringChars_eq, hlines, dedent]
      refine ⟨?_, rfl⟩
      intro hblank
      rw [trim_of_blank hblank] at hlines
      cases hlines
  · intro hr s hs
    obtain ⟨hblank, hclean⟩ := cleanDocstring_eq_some_iff.1 hs
    rw [cleanDocstring_eq_some_iff, hclean, cleanDocstringChars_idem hr]
    refine ⟨?_, rfl⟩
    rw [← letters_eq_nil_iff, letters_cleanDocstringChars, letters_eq_nil_iff]
    exact hblank

/-! A docstring of three lines and a blank one, as it stands in an indented body. -/

def indentedDocstring : String := "Adds.\n\n    Both.\n      Twice.\n  "

theorem docstrings_cleaned_sample :
    let rest := [[], "    Both.".toList, "      Twice.".toList]
    lines (trim indentedDocstring.toList) = "Adds.".toList :: rest ∧
      (∀ line ∈ rest, ¬ Blank line → AsciiIndented line) ∧ '\r' ∉ indentedDocstring.toList ∧
      (∃ n after, Dedented n rest after ∧ cleanDocstring indentedDocstring =
        some (String.ofList (unlines (trim "Adds.".toList :: after)))) ∧
      cleanDocstring indentedDocstring = some "Adds.\n\nBoth.\n  Twice." ∧
      cleanDocstring "Adds.\n\nBoth.\n  Twice." = some "Adds.\n\nBoth.\n  Twice." := by
  intro rest
  have hlines : lines (trim indentedDocstring.toList) = "Adds.".toList :: rest := by
    decide +kernel
  have hindents : rest.map (·.takeWhile isBlank) =
      [[], List.replicate 4 ' ', List.replicate 6 ' '] := by decide +kernel
  have hascii : ∀ line ∈ rest, ¬ Blank line → AsciiIndented line := by
    intro line hline _ c hc
    have hmem := List.mem_map_of_mem hline (f := fun l => l.takeWhile isBlank)
    rw [hindents] at hmem
    have hspace : c = ' ' := by
      simp only [List.mem_cons, List.not_mem_nil, or_false] at hmem
      rcases hmem with hmem | hmem | hmem <;> simp_all
    rw [hspace]
    decide
  have hr : '\r' ∉ indentedDocstring.toList := by decide +kernel
  have hclean : cleanDocstring indentedDocstring = some "Adds.\n\nBoth.\n  Twice." := by
    decide +kernel
  obtain ⟨-, -, hdedent, hidem⟩ := docstrings_cleaned indentedDocstring
  exact ⟨hlines, hascii, hr, hdedent _ rest hlines hascii, hclean, hidem hr _ hclean⟩

/-- A cut inside a blank of several bytes trims the line instead. -/
example : cleanDocstring "a\n\u3000b\n  c" = some "a\nb\nc" := by decide +kernel

end CodeSurvey.Text
