import CodeSurvey.Proofs.Declarators

/-! What is left of a block comment: the lines between its delimiters, each without its marker. A
block with nothing but blanks in it documents nothing; one with nothing at all in it does. -/
namespace CodeSurvey

namespace Text

/-- A line of a comment without the marker that opens it. -/
def unmarked : List Char → List Char
  | '/' :: '/' :: '/' :: s => s
  | '/' :: '/' :: '!' :: s => s
  | '/' :: '/' :: s => s
  | '#' :: s => s
  | '*' :: s => s
  | s => s

def lineText (line : List Char) : List Char := trim (unmarked (trim line))

/-- What stands in a block. A star or a bang at its start belongs to the opening. -/
def opened : List Char → List Char
  | '*' :: s => s
  | '!' :: s => s
  | s => s

/-- The words of a block, told from what stands between its delimiters. -/
def blockText (b : String) : String :=
  String.ofList (trim (unlines ((lines (opened b.toList)).map lineText)))

/-- A block that is not empty, and has nothing but blanks in it. -/
def BlankBlock (s : String) : Prop :=
  ∃ b : String, s = "/*" ++ b ++ "*/" ∧ b ≠ "" ∧ Blank (opened b.toList)

section

variable {c : Char} {m : String} {ms : List String} {b l s : List Char}

/-! ### Markers -/

theorem isPrefixOf?_of_ne {p : List Char} (h : ∀ r, s ≠ p ++ r) : p.isPrefixOf? s = none := by
  rw [Option.eq_none_iff_forall_ne_some]
  intro r hr
  exact h r (List.isPrefixOf?_eq_some_iff_append_eq.1 hr).symm

theorem stripFirst_cons_of_ne (h : ∀ r, s ≠ m.toList ++ r) :
    stripFirst (m :: ms) s = stripFirst ms s := by
  simp only [stripFirst, List.findSome?_cons, isPrefixOf?_of_ne h]

theorem stripFirst_eq_none (h : ∀ m ∈ ms, ∀ r, s ≠ m.toList ++ r) : stripFirst ms s = none := by
  rw [stripFirst, List.findSome?_eq_none_iff]
  intro m hm
  exact isPrefixOf?_of_ne (h m hm)

theorem stripFirst_lineMarkers (s : List Char) :
    (stripFirst lineMarkers s).getD s = unmarked s := by
  fun_cases unmarked s with
  | case1 s => rfl
  | case2 s => rfl
  | case3 s hslash hbang =>
    -- the two longer markers start with the one that is there
    rw [lineMarkers, stripFirst_cons_of_ne, stripFirst_cons_of_ne]
    · rfl
    · rintro r ⟨⟩
      exact hbang r rfl
    · rintro r ⟨⟩
      exact hslash r rfl
  | case4 s => rfl
  | case5 s => rfl
  | case6 s hslash hbang hslashes hhash hstar =>
    rw [stripFirst_eq_none]
    · rfl
    intro m hm
    simp only [lineMarkers, List.mem_cons, List.not_mem_nil, or_false] at hm
    rcases hm with rfl | rfl | rfl | rfl | rfl
    · exact hslash
    · exact hbang
    · exact hslashes
    · exact hhash
    · exact hstar

theorem cleanLine_eq (line : List Char) : cleanLine line = lineText line := by
  rw [cleanLine, stripFirst_lineMarkers, lineText]

theorem stripFirst_blockOpeners (h : b ≠ []) :
    stripFirst blockOpeners ("/*".toList ++ (b ++ "*/".toList)) =
      some (opened b ++ "*/".toList) := by
  fun_cases opened b with
  | case1 s => rfl
  | case2 s => rfl
  | case3 b hstar hbang =>
    -- the character after the opening is one of the block, not the star of the closing
    obtain ⟨c, s, rfl⟩ := List.exists_cons_of_ne_nil h
    rw [blockOpeners, stripFirst_cons_of_ne, stripFirst_cons_of_ne]
    · rfl
    · rintro r ⟨⟩
      exact hbang s rfl
    · rintro r ⟨⟩
      exact hstar s rfl

theorem commentBody_block (h : b ≠ []) :
    commentBody ("/*".toList ++ (b ++ "*/".toList)) = opened b := by
  rw [commentBody, stripFirst_blockOpeners h]
  simp only [List.isSuffixOf?_eq_some_iff_append_eq.2 rfl, Option.getD_some]

/-! ### Blanks -/

/-- What starts and ends with the same character, and that no blank, is left as it is. -/
theorem trim_between (hc : isBlank c = false) (s : List Char) :
    trim (c :: (s ++ [c])) = c :: (s ++ [c]) := by
  simp [trim, trimStart, trimEnd, hc]

theorem lineText_of_blank (h : Blank l) : lineText l = [] := by
  rw [lineText, trim_of_blank h]
  rfl

end

variable {b : String}

theorem cleanComment_block (h : b ≠ "") : cleanComment ("/*" ++ b ++ "*/") = blockText b := by
  have hb : b.toList ≠ [] := by simpa using h
  have hchars : ("/*" ++ b ++ "*/").toList = "/*".toList ++ (b.toList ++ "*/".toList) := by
    simp only [String.toList_append, List.append_assoc]
  have htrim : trim ("/*".toList ++ (b.toList ++ "*/".toList)) =
      "/*".toList ++ (b.toList ++ "*/".toList) := by
    simpa using trim_between (c := '/') rfl ('*' :: (b.toList ++ ['*']))
  rw [cleanComment, cleanCommentChars, hchars, htrim, commentBody_block hb, blockText,
    funext cleanLine_eq]

/-- The shortest block has one star for its opening and its closing. The opening takes it. -/
theorem cleanComment_empty_block : cleanComment ("/*" ++ "" ++ "*/") ≠ blockText "" := by
  decide +kernel

theorem blockText_of_blank (h : Blank (opened b.toList)) : blockText b = "" := by
  have hlines : ∀ l ∈ (lines (opened b.toList)).map lineText, Blank l := by
    intro l hl
    obtain ⟨line, hline, rfl⟩ := List.mem_map.1 hl
    rw [lineText_of_blank (blank_of_mem_lines h hline)]
    simp [Blank]
  rw [blockText, trim_of_blank (blank_unlines_iff.2 hlines)]

theorem BlankBlock.cleanComment {s : String} (h : BlankBlock s) : cleanComment s = "" := by
  obtain ⟨b, rfl, hne, hblank⟩ := h
  rw [cleanComment_block hne, blockText_of_blank hblank]

end Text

open Text

theorem docText_eq_none_iff {parts : List String} :
    docText parts = none ↔ ∀ part ∈ parts, Blank part.toList := by
  have hblank : Blank (unlines (parts.map String.toList)) ↔
      ∀ part ∈ parts, Blank part.toList := by
    rw [blank_unlines_iff, List.forall_mem_map]
  rw [← hblank, ← trim_eq_nil_iff, docText]
  split <;> simp_all

theorem docText_of_blankBlocks {src : Source} {comments : List Tree}
    (h : ∀ t ∈ comments, BlankBlock (t.text src)) :
    docText (comments.map fun t => cleanComment (t.text src)) = none := by
  refine docText_eq_none_iff.2 ?_
  intro part hpart
  obtain ⟨t, ht, rfl⟩ := List.mem_map.1 hpart
  rw [(h t ht).cleanComment]
  simp [Blank]

theorem leadingComments_of_blankBlocks {src : Source} {kinds : DocKinds} {anchor : Place}
    (h : ∀ t ∈ commentRun src kinds (anchor.tree.startRow src) anchor.before,
      BlankBlock (t.text src)) :
    leadingComments src kinds anchor = none :=
  docText_of_blankBlocks fun t ht => h t (List.mem_reverse.1 ht)

theorem Rust.docstring_of_blankBlocks {src : Source} {p : Place}
    (h : ∀ t ∈ Rust.outerDocs src (p.tree.startRow src) p.before, BlankBlock (t.text src)) :
    Rust.docstring src p = none :=
  docText_of_blankBlocks fun t ht => h t (List.mem_reverse.1 ht)

theorem fileHeader_of_blankBlocks {src : Source} {kinds : List String} {root : Tree}
    (h : ∀ t ∈ root.children.takeWhile (·.isOf kinds), BlankBlock (t.text src)) :
    fileHeader src kinds root = none := by
  rw [fileHeader]
  split
  · rfl
  · rw [docText_of_blankBlocks h, ite_self]

/-- A block is cleaned to its lines, each without its marker, if and only if it is not empty.
Where only blanks are between the delimiters nothing is left, and such blocks document nothing,
neither what follows them nor the file they open. -/
theorem blocks_cleaned (b : String) (src : Source) (kinds : DocKinds) (anchor : Place)
    (root : Tree) :
    (cleanComment ("/*" ++ b ++ "*/") = blockText b ↔ b ≠ "") ∧
    (b ≠ "" → Blank (opened b.toList) → cleanComment ("/*" ++ b ++ "*/") = "") ∧
    ((∀ t ∈ commentRun src kinds (anchor.tree.startRow src) anchor.before,
      BlankBlock (t.text src)) → leadingComments src kinds anchor = none) ∧
    ((∀ t ∈ Rust.outerDocs src (anchor.tree.startRow src) anchor.before,
      BlankBlock (t.text src)) → Rust.docstring src anchor = none) ∧
    ((∀ t ∈ root.children.takeWhile (·.isOf kinds.comments), BlankBlock (t.text src)) →
      fileHeader src kinds.comments root = none) := by
  refine ⟨⟨?_, cleanComment_block⟩, ?_, ?_, ?_, ?_⟩
  · rintro h rfl
    exact cleanComment_empty_block h
  · intro hb hblank
    rw [cleanComment_block hb, blockText_of_blank hblank]
  · intro h
    exact leadingComments_of_blankBlocks h
  · intro h
    exact Rust.docstring_of_blankBlocks h
  · intro h
    exact fileHeader_of_blankBlocks h

/-! A function under a comment. -/

def commentedText (comment : String) : String := comment ++ "\nfunction f() \x7b\x7d\n"

def commentNode (size : Nat) : Tree := Walk.sampleNode "comment" 0 size none []

def commentedNode (start : Nat) : Tree :=
  Walk.sampleNode "function_declaration" start (start + 15) none
    [Ecma.sampleToken "function" start (start + 8),
     Walk.sampleNode "identifier" (start + 9) (start + 10) (some "name") [],
     Walk.sampleNode "formal_parameters" (start + 10) (start + 12) (some "parameters")
      [Ecma.sampleToken "(" (start + 10) (start + 11),
       Ecma.sampleToken ")" (start + 11) (start + 12)],
     Walk.sampleNode "statement_block" (start + 13) (start + 15) (some "body")
      [Ecma.sampleToken "\x7b" (start + 13) (start + 14),
       Ecma.sampleToken "\x7d" (start + 14) (start + 15)]]

/-- The comment has some size in bytes. -/
def commentedTree (size : Nat) : Tree :=
  Walk.sampleNode "program" 0 (size + 17) none [commentNode size, commentedNode (size + 1)]

theorem blocks_cleaned_sample :
    let src : Source := .ofText (commentedText "/* */")
    let anchor : Place := .child (.root (commentedTree 5)) [commentNode 5] (commentedNode 6)
    cleanComment ("/*" ++ "* Adds.\n * # Twice\n " ++ "*/") = "Adds.\n# Twice" ∧
      cleanComment ("/*" ++ " " ++ "*/") = "" ∧
      leadingComments src { comments := ["comment"] } anchor = none ∧
      fileHeader src ["comment"] (commentedTree 5) = none := by
  intro src anchor
  have hspace : Blank (opened " ".toList) := by simp [Blank, opened, isBlank]
  have hrun : ∀ t ∈ commentRun src { comments := ["comment"] } (anchor.tree.startRow src)
      anchor.before, t.text src = "/*" ++ " " ++ "*/" := by decide +kernel
  have hopening : ∀ t ∈ (commentedTree 5).children.takeWhile (·.isOf ["comment"]),
      t.text src = "/*" ++ " " ++ "*/" := by decide +kernel
  obtain ⟨hblock, -⟩ := blocks_cleaned "* Adds.\n * # Twice\n " src { comments := [] } anchor
    (commentedTree 5)
  obtain ⟨-, hblank, hleading, -, hheader⟩ :=
    blocks_cleaned " " src { comments := ["comment"] } anchor (commentedTree 5)
  refine ⟨?_, hblank (by decide) hspace, ?_, ?_⟩
  · rw [hblock.2 (by decide)]
    decide +kernel
  · exact hleading fun t ht => ⟨" ", hrun t ht, by decide, hspace⟩
  · exact hheader fun t ht => ⟨" ", hopening t ht, by decide, hspace⟩

/-- The slash that is left of the shortest block documents what follows it. -/
theorem empty_block_documents :
    blockText "" = "" ∧ cleanComment ("/*" ++ "" ++ "*/") ≠ "" ∧
      ∃ r, Parser.ofTree (Ecma.grammar .javaScript) (some (commentedTree 4))
          (commentedText "/**/") "a.js" {} = .record r ∧
        r.declarations.map Declaration.docstring = [some "/"] :=
  ⟨by decide +kernel, by decide +kernel, _, rfl, by decide +kernel⟩

end CodeSurvey
