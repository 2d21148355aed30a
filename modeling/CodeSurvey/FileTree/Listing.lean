import CodeSurvey.Entry
import CodeSurvey.FileTree

/-! The files below a directory. Names go in order, hidden directories are not entered, and links
are left out unless they are to be followed. -/
namespace CodeSurvey

/-- Fetches contents by reading paths. -/
def Fetch.ofRead (read : String → Except FileFault ByteArray) : Fetch := fun id =>
  match read id with
  | .ok content => .ok content
  | .error .notFound => .error (.notFound id)
  | .error fault => .error (.io fault.message)

namespace FileTree

/-- A directory on the way from the root of a listing. -/
structure Ancestor where
  place : Location
  path : String

/-- The directory being listed: the names that lead to it from the root of the listing, and the
directories entered so far, this one first. -/
structure Trail where
  names : List String := []
  here : Ancestor
  above : List Ancestor := []

namespace Trail

variable (r : Trail)

def pathOf (name : String) : String := Path.join r.here.path name

def entryOf (name : String) (size : Nat) : Entry :=
  { path := "/".intercalate (r.names ++ [name]), id := r.pathOf name, size }

/-- An entry that was seen but cannot be read. -/
def unreadable (name message : String) : Entry :=
  { r.entryOf name 0 with listingError := some message }

/-- Goes down into an entry, which lies at some place. -/
def enter (name : String) (place : Location) : Trail :=
  { names := r.names ++ [name]
    here := { place, path := r.pathOf name }
    above := r.here :: r.above }

/-- The directory of the trail that lies at a place. -/
def find? (place : Location) : Option Ancestor := (r.here :: r.above).find? (·.place == place)

end Trail

def isHidden (name : String) : Bool := name.startsWith "."

/-- What is said of a path that cannot be used. -/
def faultMessage (path : String) (fault : FileFault) : String :=
  "IO error for operation on " ++ path ++ ": " ++ fault.message

variable {α : Type} (t : FileTree α) (size : α → Nat)

/-- An entry that is a link, when links are followed. A link to a directory of the trail would
never end. -/
def listLink (descend : Trail → FileNode α → List Entry) (r : Trail) (name : String) : List Entry :=
  let path := r.pathOf name
  match t.find path with
  | .error fault => [r.unreadable name (faultMessage path fault)]
  | .ok (_, .file content) => [r.entryOf name (size content)]
  | .ok (place, node) =>
    match r.find? place with
    | some a =>
      [r.unreadable name
        ("File system loop found: " ++ path ++ " points to an ancestor " ++ a.path)]
    | none => if isHidden name then [] else descend (r.enter name place) node

mutual

/-- The files below a node that is an entry of a directory. A file is seen in its directory but
asked for its size by its path, and so is a directory for its entries. -/
def listNode (onLink : Trail → String → List Entry) (r : Trail) (name : String) :
    FileNode α → List Entry
  | .file content =>
    if Path.isTooLong (r.pathOf name) then
      [r.unreadable name ("cannot stat: " ++ faultMessage (r.pathOf name) .nameTooLong)]
    else [r.entryOf name (size content)]
  | .dir entries =>
    if isHidden name then []
    else if Path.isTooLong (r.pathOf name) then
      [r.unreadable name (faultMessage (r.pathOf name) .nameTooLong)]
    else listEntries onLink (r.enter name (r.here.place ++ [name])) entries
  | .link _ => onLink r name

def listEntries (onLink : Trail → String → List Entry) (r : Trail) :
    List (String × FileNode α) → List Entry
  | [] => []
  | (name, node) :: rest => listNode onLink r name node ++ listEntries onLink r rest

end

def listDir (onLink : Trail → String → List Entry) (r : Trail) : FileNode α → List Entry
  | .dir entries => listEntries size onLink r entries
  | _ => []

/-- The files below a directory, through so many links to directories. -/
def listFollowing : Nat → Trail → FileNode α → List Entry
  | 0 => fun _ _ => []
  | links + 1 => listDir size (t.listLink size (listFollowing links))

/-- The files below a directory. Every link that is followed leads to a directory that is not on
the trail, so that there are no more of them than directories. -/
def listBelow (followLinks : Bool) : Trail → FileNode α → List Entry :=
  if followLinks then t.listFollowing size (t.root.countDirs + 1)
  else listDir size fun _ _ => []

/-- The files below a root. A root that is a file is listed under its own name. -/
def listing (root : String) (followLinks : Bool) : Except AnalysisError (List Entry) :=
  match t.find root with
  | .error fault => .error (.runFault ("cannot list " ++ root ++ ": " ++ fault.message))
  | .ok (_, .file content) =>
    .ok <|
      if t.isLink root && !followLinks then []
      else [{ path := (Path.fileName? root).getD "", id := root, size := size content }]
  | .ok (place, node) => .ok (t.listBelow size followLinks { here := { place, path := root } } node)

/-- Gives the content of a file by its path. -/
def fetch (t : FileTree ByteArray) : Fetch := Fetch.ofRead t.read

end FileTree

end CodeSurvey
