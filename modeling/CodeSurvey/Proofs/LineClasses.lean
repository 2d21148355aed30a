import CodeSurvey.Metrics.Lines
import CodeSurvey.Proofs.Blanks

/-! The class of a line goes by the block around it, told from the lines before it. -/
namespace CodeSurvey

open Text

namespace Text

variable {c : Char} {part s : List Char}

end Text

namespace CommentStyle

/-- The styles of all languages, known and unknown. -/
def all : List CommentStyle := [hash, slashes, generic]

variable (style : CommentStyle)

def StartsMarked (line : List Char) : Prop := ∃ m ∈ style.linePrefixes, m.toList <+: line

def StartsBlock (line : List Char) : Prop := ∃ b ∈ style.block, b.1.toList <+: line

variable {style} {line : List Char} {ls : List (List Char)} {i : Nat} {inBlock : Bool}

variable (style) in
/-- What can come of a trimmed line, in a block or outside: its class, and whether the next line
is in a block. -/
inductive Reads : Bool → List Char → LineClass × Bool → Prop
  | inside (line : List Char) : Reads true line (.comment, !style.closes line)
  | blank : Reads false [] (.blank, false)
  | marked {line : List Char} (hne : line ≠ []) (hmarked : style.StartsMarked line) :
      Reads false line (.comment, false)
  | opened {line : List Char} (b : String × String) (hne : line ≠ [])
      (hmarked : ¬ style.StartsMarked line) (hblock : style.block = some b)
      (hopen : b.1.toList <+: line) :
      Reads false line (.comment, !occurs b.2.toList (line.drop b.1.toList.length))
  | code {line : List Char} (hne : line ≠ []) (hmarked : ¬ style.StartsMarked line)
      (hopen : ¬ style.StartsBlock line) : Reads false line (.code, false)

variable {read : LineClass × Bool}

variable (style) in
/-- Whether the line after some lines is in a block. -/
def carried (inBlock : Bool) (ls : List (List Char)) : Bool :=
  ls.foldl (fun inBlock line => (classifyLine style inBlock (trim line)).2) inBlock

end CommentStyle

open CommentStyle

end CodeSurvey
