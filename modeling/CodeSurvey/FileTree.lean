import CodeSurvey.Path

/-! Files, directories and symbolic links, and where a path leads among them. -/
namespace CodeSurvey

/-- What keeps a path from being used. -/
inductive FileFault where
  | notFound
  | notDirectory
  | isDirectory
  | nameTooLong
  | linkLoop
  | zeroByte
  | other (message : String)
  deriving DecidableEq, Repr

def FileFault.message : FileFault → String
  | notFound => "No such file or directory (os error 2)"
  | notDirectory => "Not a directory (os error 20)"
  | isDirectory => "Is a directory (os error 21)"
  | nameTooLong => "File name too long (os error 36)"
  | linkLoop => "Too many levels of symbolic links (os error 40)"
  | zeroByte => "file name contained an unexpected NUL byte"
  | other message => message

inductive FileNode (α : Type) where
  | file (content : α)
  /-- The entries of a directory stand in the order of their names. -/
  | dir (entries : List (String × FileNode α))
  | link (target : String)

/-- The names that lead from the root to a node. No link is on the way. -/
abbrev Location := List String

namespace FileNode

variable {α : Type}

def lookup (node : FileNode α) : Location → Option (FileNode α)
  | [] => some node
  | name :: names =>
    match node with
    | dir entries => (entries.lookup name).bind (·.lookup names)
    | _ => none

/-- Puts an entry where its name belongs. -/
def insertEntry (name : String) (node : FileNode α) :
    List (String × FileNode α) → List (String × FileNode α)
  | [] => [(name, node)]
  | (n, old) :: rest =>
    if n = name then (name, node) :: rest
    else if name < n then (name, node) :: (n, old) :: rest
    else (n, old) :: insertEntry name node rest

/-- Puts a node at a place. Directories on the way are made where they are missing, and a
directory keeps its entries when it is put again. -/
def put (new : FileNode α) : Location → Option (FileNode α) → FileNode α
  | [], old =>
    match new, old with
    | dir [], some (dir entries) => dir entries
    | _, _ => new
  | name :: names, old =>
    let entries := match old with
      | some (dir entries) => entries
      | _ => []
    dir (insertEntry name (put new names (entries.lookup name)) entries)

mutual

def countDirs : FileNode α → Nat
  | dir entries => countDirsIn entries + 1
  | _ => 0

def countDirsIn : List (String × FileNode α) → Nat
  | [] => 0
  | (_, node) :: rest => node.countDirs + countDirsIn rest

end

end FileNode

/-- A tree of files, with the directory in which relative paths start. -/
structure FileTree (α : Type) where
  root : FileNode α := .dir []
  workingDir : Location := []

namespace FileTree

/-- Where a path leads: to a node, or to a name that is free in a directory. -/
inductive Spot (α : Type) where
  | found (place : Location) (node : FileNode α)
  | free (place : Location)

variable {α : Type} (t : FileTree α)

/-- How the last step of a path is taken. -/
inductive LastStep where
  /-- A link is followed. -/
  | follow
  /-- A link stands for itself. -/
  | keep
  /-- A link is followed, and a file may be made. -/
  | create
  deriving DecidableEq

/-- The steps of a path. A slash at the end asks for a directory, by a step without a name. -/
def steps (path : String) : List String :=
  let pieces := ((path.toList.splitOn '/').map String.ofList).filter (· != "")
  if path.endsWith "/" then pieces ++ [""] else pieces

/-- Where a path starts: at the root if it says so, else at the place it is used from. -/
def startOf (place : Location) (path : String) : Location :=
  if path.startsWith "/" then [] else place

/-- Takes the steps of a path from a node. The function goes on from another place, which is where
a link leads. No file is made under a name that asks for a directory. -/
def walk (jump : Location → List String → Except FileFault (Spot α)) (last : LastStep) :
    Location → FileNode α → List String → Except FileFault (Spot α)
  | place, node, [] => .ok (.found place node)
  | place, .dir entries, step :: rest =>
    if step = "" || step = "." then walk jump last place (.dir entries) rest
    else if step = ".." then
      let place := place.dropLast
      match t.root.lookup place with
      | some node => walk jump last place node rest
      | none => .error .notFound
    else if last = .create && rest = [""] then .error .isDirectory
    else if 255 < step.utf8ByteSize then .error .nameTooLong
    else match entries.lookup step with
      | none => if rest.isEmpty then .ok (.free (place ++ [step])) else .error .notFound
      | some (.link target) =>
        if rest.isEmpty && last = .keep then .ok (.found (place ++ [step]) (.link target))
        else jump (startOf place target) (steps target ++ rest)
      | some node => walk jump last (place ++ [step]) node rest
  | _, _, _ :: _ => .error .notDirectory

/-- Takes steps from a place. -/
def walkFrom (jump : Location → List String → Except FileFault (Spot α)) (last : LastStep)
    (place : Location) (rest : List String) : Except FileFault (Spot α) :=
  match t.root.lookup place with
  | some node => t.walk jump last place node rest
  | none => .error .notFound

/-- Takes steps from a place, through so many links. -/
def travel (last : LastStep) : Nat → Location → List String → Except FileFault (Spot α)
  | 0 => t.walkFrom (fun _ _ => .error .linkLoop) last
  | links + 1 => t.walkFrom (travel last links) last

/-- One path leads through no more than this many links. -/
def maxLinks : Nat := 40

def locate (last : LastStep) (path : String) : Except FileFault (Spot α) :=
  if path.isEmpty then .error .notFound
  else if path.toList.contains (Char.ofNat 0) then .error .zeroByte
  else if Path.isTooLong path then .error .nameTooLong
  else t.travel last maxLinks (startOf t.workingDir path) (steps path)

/-- The node that a path leads to, all links followed. -/
def find (path : String) : Except FileFault (Location × FileNode α) := do
  match ← t.locate .follow path with
  | .found place node => .ok (place, node)
  | .free _ => .error .notFound

/-- Whether a path names a link, which is not followed. -/
def isLink (path : String) : Bool :=
  match t.locate .keep path with
  | .ok (.found _ (.link _)) => true
  | _ => false

def exists? (path : String) : Bool := (t.find path).isOk

def read (path : String) : Except FileFault α := do
  match ← t.find path with
  | (_, .file content) => .ok content
  | _ => .error .isDirectory

/-- Puts a node at a place. -/
def put (node : FileNode α) (place : Location) : FileTree α :=
  { t with root := FileNode.put node place (some t.root) }

/-- Goes down into directories, which are made where they are missing. -/
def makeDirs (t : FileTree α) (place : Location) : List String → FileTree α × Location
  | [] => (t, place)
  | name :: rest =>
    match t.travel .follow maxLinks place [name] with
    | .ok (.found place (.dir _)) => makeDirs t place rest
    | _ => makeDirs (t.put (.dir []) (place ++ [name])) (place ++ [name]) rest

/-- Adds a node under a path, with the directories that lead to it. A file is written through
links. -/
def add (node : FileNode α) (path : String) : FileTree α :=
  let names := Path.components path
  let (t, place) := t.makeDirs t.workingDir names.dropLast
  match node, names.getLast? with
  | .dir _, some name => (t.makeDirs place [name]).1
  | .file _, some name =>
    match t.travel .create maxLinks place [name] with
    | .ok (.found place _) | .ok (.free place) => t.put node place
    | .error _ => t
  | .link _, some name => t.put node (place ++ [name])
  | _, none => t

/-- Writes a file, which may be a new one. -/
def write (path : String) (content : α) : Except FileFault (FileTree α) := do
  match ← t.locate .create path with
  | .found _ (.dir _) => .error .isDirectory
  | .found place _ | .free place => .ok (t.put (.file content) place)

end FileTree

end CodeSurvey
