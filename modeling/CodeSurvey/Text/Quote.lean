/-! String literals and what they quote. -/
namespace CodeSurvey.Text

/-- Letters that may stand before an opening quote. -/
def isQuoteLetter (c : Char) : Bool := "rRbBuUfF".toList.contains c

def quotes : List String := ["\"\"\"", "'''", "\"", "'", "`"]

/-- The text between two copies of a quote. -/
def between (quote s : List Char) : Option (List Char) := do
  quote.isSuffixOf? (← quote.isPrefixOf? s)

/-- Drops the letters before the quote and the outermost pair of quotes. -/
def unquoteChars (raw : List Char) : List Char :=
  let s := raw.dropWhile isQuoteLetter
  (quotes.findSome? fun q => between q.toList s).getD s

def unquote (raw : String) : String := String.ofList (unquoteChars raw.toList)

end CodeSurvey.Text
