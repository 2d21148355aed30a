import CodeSurvey.Text.Blank
import CodeSurvey.Text.Line

/-! Documentation strings: the common indentation of their later lines is dropped. -/
namespace CodeSurvey.Text

/-- The number of bytes a text takes in UTF-8. -/
def byteSize : List Char → Nat
  | [] => 0
  | c :: cs => c.utf8Size + byteSize cs

/-- Drops so many bytes, if a character ends there. -/
def dropBytes? : Nat → List Char → Option (List Char)
  | 0, s => some s
  | _ + 1, [] => none
  | n + 1, c :: cs => if c.utf8Size ≤ n + 1 then dropBytes? (n + 1 - c.utf8Size) cs else none

/-- The bytes of blanks that open a line. -/
def indentOf (line : List Char) : Nat := byteSize (line.takeWhile isBlank)

/-- The least indentation among the lines that are not blank. -/
def commonIndent (ls : List (List Char)) : Nat :=
  (((ls.filter fun l => !(trim l).isEmpty).map indentOf).min?).getD 0

def dedentLine (indent : Nat) (line : List Char) : List Char :=
  (dropBytes? indent line).getD (trim line)

/-- Trims the first line and takes the common indentation from the others. -/
def dedent : List (List Char) → List (List Char)
  | [] => []
  | first :: rest => trim first :: rest.map (dedentLine (commonIndent rest))

def cleanDocstringChars (raw : List Char) : List Char := trim (unlines (dedent (lines (trim raw))))

/-- A docstring of blanks only says nothing. -/
def cleanDocstring (raw : String) : Option String :=
  match cleanDocstringChars raw.toList with
  | [] => none
  | cs => some (String.ofList cs)

end CodeSurvey.Text
