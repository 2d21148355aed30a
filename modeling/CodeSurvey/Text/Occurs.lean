/-! Texts inside texts. -/
namespace CodeSurvey.Text

/-- Whether a text occurs somewhere in another one. -/
def occurs (part : List Char) : List Char → Bool
  | [] => part.isEmpty
  | c :: cs => part.isPrefixOf (c :: cs) || occurs part cs

end CodeSurvey.Text
