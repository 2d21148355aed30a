/-! The lines of a text. -/
namespace CodeSurvey.Text

/-- A line ends at a line feed, and a carriage return just before it belongs to the ending. The
empty piece after a last line feed is no line. -/
def lines : List Char → List (List Char)
  | [] => []
  | '\n' :: cs => [] :: lines cs
  | '\r' :: '\n' :: cs => [] :: lines cs
  | c :: cs =>
    match lines cs with
    | [] => [[c]]
    | l :: ls => (c :: l) :: ls

/-- The number of lines as an editor shows them. -/
def countLines (text : String) : Nat := (lines text.toList).length

/-- Joins lines by line feeds. -/
def unlines (ls : List (List Char)) : List Char := ['\n'].intercalate ls

end CodeSurvey.Text
