import CodeSurvey.Text.Comment
import CodeSurvey.Tree

/-! Comments that document what follows them. -/
namespace CodeSurvey

/-- Parts of a documentation text, one under the other; blanks alone document nothing. -/
def docText (parts : List String) : Option String :=
  match Text.trim (Text.unlines (parts.map String.toList)) with
  | [] => none
  | cs => some (String.ofList cs)

variable (src : Source)

/-- Which siblings belong to the documentation of the node after them. -/
structure DocKinds where
  comments : List String
  /-- Kinds that may stand between a declaration and its comments. -/
  skipped : List String := []

/-- The comments directly above a row, nearest first, out of the siblings before it. A comment
that ends above the row before breaks the run, and so does any other node. -/
def commentRun (kinds : DocKinds) (row : Nat) : List Tree → List Tree
  | [] => []
  | t :: before =>
    if t.isOf kinds.skipped then commentRun kinds (t.startRow src) before
    else if t.isOf kinds.comments then
      if t.endLine src < row then []
      else t :: commentRun kinds (t.startRow src) before
    else []

def leadingComments (kinds : DocKinds) (anchor : Place) : Option String :=
  let run := commentRun src kinds (anchor.tree.startRow src) anchor.before
  docText (run.reverse.map fun t => Text.cleanComment (t.text src))

/-- The comments that open a file, if a blank line divides them from what follows. -/
def fileHeader (comments : List String) (root : Tree) : Option String :=
  let opening := root.children.takeWhile (·.isOf comments)
  let rest := root.children.dropWhile (·.isOf comments)
  match opening.getLast? with
  | none => none
  | some last =>
    if rest.head?.any fun t => t.startLine src ≤ last.endLine src + 1 then none
    else docText (opening.map fun t => Text.cleanComment (t.text src))

end CodeSurvey
