import CodeSurvey.Text.Blank

/-! Texts cut at a separator. -/
namespace CodeSurvey.Text

/-- What stands before and after the first separator. -/
def cutFirst? (sep : List Char) : List Char → Option (List Char × List Char)
  | [] => none
  | c :: cs =>
    match sep.isPrefixOf? (c :: cs) with
    | some rest => some ([], rest)
    | none => (cutFirst? sep cs).map fun (a, b) => (c :: a, b)

/-- What stands before and after the last separator. -/
def cutLast? (sep : List Char) : List Char → Option (List Char × List Char)
  | [] => none
  | c :: cs =>
    match cutLast? sep cs with
    | some (a, b) => some (c :: a, b)
    | none => (sep.isPrefixOf? (c :: cs)).map ([], ·)

/-- The text before the first separator, all of it if there is none. -/
def upTo (sep s : String) : String :=
  match cutFirst? sep.toList s.toList with
  | some (a, _) => String.ofList a
  | none => s

/-- The text after the last separator, all of it if there is none. -/
def pastLast (sep s : String) : String :=
  match cutLast? sep.toList s.toList with
  | some (_, b) => String.ofList b
  | none => s

def splitLast? (sep s : String) : Option (String × String) :=
  (cutLast? sep.toList s.toList).map fun (a, b) => (String.ofList a, String.ofList b)

def dropLeading (c : Char) (s : String) : String := String.ofList (s.toList.dropWhile (· == c))

def startsWith (opening s : String) : Bool := opening.toList.isPrefixOf s.toList

def endsWith (ending s : String) : Bool := ending.toList.isSuffixOf s.toList

/-- The name in a marker such as `@name(arguments)`. -/
def markerName? (s : String) : Option String :=
  some (trimmed (upTo "(" (trimmed (dropLeading '@' s)))) |>.filter (!·.isEmpty)

end CodeSurvey.Text
