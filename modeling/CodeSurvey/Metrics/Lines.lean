import CodeSurvey.Text.Blank
import CodeSurvey.Text.Line
import CodeSurvey.Text.Occurs

/-! Lines of code, of comments and blank lines. -/
namespace CodeSurvey

/-- How comments are written: markers that make a line one, and delimiters of blocks. -/
structure CommentStyle where
  linePrefixes : List String
  block : Option (String × String)

namespace CommentStyle

def hash : CommentStyle := ⟨["#"], none⟩

def slashes : CommentStyle := ⟨["//"], some ("/*", "*/")⟩

/-- For unknown languages: openers of any kind, and no block is followed to its end. -/
def generic : CommentStyle := ⟨["#", "//", "/*"], none⟩

/-- The block that a trimmed line opens. -/
def opened? (style : CommentStyle) (line : List Char) : Option (String × String) :=
  style.block.filter fun b => b.1.toList.isPrefixOf line

def hasLinePrefix (style : CommentStyle) (line : List Char) : Bool :=
  style.linePrefixes.any fun p => p.toList.isPrefixOf line

def closes (style : CommentStyle) (line : List Char) : Bool :=
  style.block.any fun b => Text.occurs b.2.toList line

end CommentStyle

inductive LineClass where
  | code | comment | blank
  deriving DecidableEq, Repr

/-- The class of a trimmed line, and whether the next one lies inside a block. -/
def classifyLine (style : CommentStyle) (inBlock : Bool) (line : List Char) : LineClass × Bool :=
  if inBlock then (.comment, !style.closes line)
  else if line.isEmpty then (.blank, false)
  else if style.hasLinePrefix line then (.comment, false)
  else match style.opened? line with
    | some (opening, closing) =>
      (.comment, !Text.occurs closing.toList (line.drop opening.toList.length))
    | none => (.code, false)

def classifyLines (style : CommentStyle) (inBlock : Bool) : List (List Char) → List LineClass
  | [] => []
  | line :: rest =>
    let (c, next) := classifyLine style inBlock (Text.trim line)
    c :: classifyLines style next rest

structure LineCounts where
  code : Nat
  comment : Nat
  blank : Nat
  deriving DecidableEq, Repr

def LineCounts.of (classes : List LineClass) : LineCounts :=
  ⟨classes.count .code, classes.count .comment, classes.count .blank⟩

def lineCounts (style : CommentStyle) (text : String) : LineCounts :=
  .of (classifyLines style false (Text.lines text.toList))

end CodeSurvey
