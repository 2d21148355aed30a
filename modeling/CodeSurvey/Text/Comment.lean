import CodeSurvey.Text.Blank
import CodeSurvey.Text.Line

/-! The words of a comment without its markers. -/
namespace CodeSurvey.Text

/-- The rest of a text after the first of some markers that opens it. -/
def stripFirst (markers : List String) (s : List Char) : Option (List Char) :=
  markers.findSome? fun m => m.toList.isPrefixOf? s

def blockOpeners : List String := ["/**", "/*!", "/*"]

def lineMarkers : List String := ["///", "//!", "//", "#", "*"]

/-- One line of a comment: at most one marker is dropped. -/
def cleanLine (line : List Char) : List Char :=
  let line := trim line
  trim ((stripFirst lineMarkers line).getD line)

/-- What stands between the delimiters of a block comment; any other text is its own body. -/
def commentBody (s : List Char) : List Char :=
  match stripFirst blockOpeners s with
  | some body => ("*/".toList.isSuffixOf? body).getD body
  | none => s

def cleanCommentChars (raw : List Char) : List Char :=
  trim (unlines ((lines (commentBody (trim raw))).map cleanLine))

def cleanComment (raw : String) : String := String.ofList (cleanCommentChars raw.toList)

end CodeSurvey.Text
