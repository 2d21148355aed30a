/-! Slash-separated paths, read as text. -/
namespace CodeSurvey.Path

/-- The pieces between slashes that name something: empty ones and single dots say nothing. -/
def components (path : String) : List String :=
  ((path.toList.splitOn '/').map String.ofList).filter fun c => c != "" && c != "."

/-- The last component, unless it leads upwards. -/
def fileName? (path : String) : Option String :=
  (components path).getLast?.filter (· != "..")

/-- The text after the last dot of the file name; a name that only starts with a dot has none. -/
def extension? (path : String) : Option String := do
  let name := (← fileName? path).toList
  let after := name.reverse.takeWhile (· != '.')
  let before := name.reverse.drop (after.length + 1)
  if before.isEmpty then none else some (String.ofList after.reverse)

/-- A path of more bytes than this leads nowhere. -/
def maxBytes : Nat := 4095

def isTooLong (path : String) : Bool := maxBytes < path.utf8ByteSize

/-- Joins a path below a directory. An absolute path stands for itself. -/
def join (dir path : String) : String :=
  if path.startsWith "/" || dir.isEmpty then path
  else if dir.endsWith "/" then dir ++ path
  else dir ++ "/" ++ path

end CodeSurvey.Path
