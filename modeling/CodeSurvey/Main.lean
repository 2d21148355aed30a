import CodeSurvey.Command.Run
import CodeSurvey.Command.Usage

/-! The program. It builds no syntax trees, so that all files get line metrics. -/
namespace CodeSurvey.Disk

/-- The fault that an error of the system stands for. -/
def faultOf : IO.Error → FileFault
  | .noFileOrDirectory .. => .notFound
  | .inappropriateType _ 20 _ => .notDirectory
  | .inappropriateType _ 21 _ => .isDirectory
  | e => .other (toString e)

def read (path : String) : IO (Except FileFault ByteArray) := do
  try return .ok (← IO.FS.readBinFile path) catch e => return .error (faultOf e)

def fetch (id : String) : IO (Except ContentError ByteArray) := do
  let content ← read id
  return Fetch.ofRead (fun _ => content) id

def fileExists (path : String) : IO Bool := do
  match ← read path with
  | .error .notFound => return false
  | _ => return true

def entryAt (l : Location) : IO.FS.DirEntry := { root := "/", fileName := "/".intercalate l }

/-- The part of a disk that has been looked at. Files are known by their sizes. -/
structure Snapshot where
  tree : FileTree Nat
  visited : List Location := []

abbrev SnapshotM := StateT Snapshot IO

def put (node : FileNode Nat) (l : Location) : SnapshotM Unit :=
  modify fun s => { s with tree := s.tree.put node l }

/-- Where the links of a location end, as a path. -/
def target (l : Location) : IO String := do
  try return (← IO.FS.realPath (entryAt l).path).toString catch _ => return ""

mutual

/-- Looks along the steps of a path, and at what lies below its end. -/
partial def look (followLinks : Bool) (l : Location) : List String → SnapshotM Unit
  | [] => lookBelow followLinks l
  | "" :: rest | "." :: rest => look followLinks l rest
  | ".." :: rest => look followLinks l.dropLast rest
  | step :: rest => do
    let next := l ++ [step]
    let metadata ← try some <$> (entryAt next).path.symlinkMetadata catch _ => pure none
    match metadata with
    | none => return
    | some m =>
      match m.type with
      | .file => put (.file m.byteSize.toNat) next
      | .dir => do
        put (.dir []) next
        look followLinks next rest
      | .symlink => do
        let path ← target next
        put (.link path) next
        look followLinks [] (FileTree.steps path ++ rest)
      | .other => return

partial def lookBelow (followLinks : Bool) (l : Location) : SnapshotM Unit := do
  if (← get).visited.contains l then return
  modify fun s => { s with visited := l :: s.visited }
  for e in ← (try (entryAt l).path.readDir catch _ => pure #[]) do
    let next := l ++ [e.fileName]
    let isLink ← try pure ((← e.path.symlinkMetadata).type == .symlink) catch _ => pure false
    if isLink && !followLinks then put (.link "") next else look followLinks l [e.fileName]

end

/-- The part of the disk that a listing needs. -/
def snapshot (path : String) (followLinks : Bool) : IO (FileTree Nat) := do
  let workingDir := FileTree.steps (← IO.currentDir).toString
  let start := if path.startsWith "/" then [] else workingDir
  let way := look followLinks [] (start ++ FileTree.steps path)
  let (_, s) ← way.run { tree := { workingDir } }
  return s.tree

end CodeSurvey.Disk

namespace CodeSurvey

def Registry.program : Registry := lineMetrics

/-- Surveys the files of a disk, each read when its turn comes. -/
def AnalyzeOptions.surveyDisk (o : AnalyzeOptions) (root : String) :
    IO (Except Refusal (Report.Format × Survey)) := do
  let existing ← defaultConfigPaths.filterM Disk.fileExists
  let file ← (o.configPath? existing.contains).mapM fun p => do return (p, ← Disk.read p)
  let listing : IO (Except AnalysisError (List Entry)) := do
    return (← Disk.snapshot root o.followLinks).listing id root o.followLinks
  o.surveyVia .program file listing Disk.fetch

/-- Prints a reply and writes its file. -/
def Reply.deliver (r : Reply) : IO UInt32 := do
  IO.print r.stdout
  IO.eprint r.stderr
  match r.file with
  | none => return r.exit.code
  | some (path, text) =>
    try
      IO.FS.writeFile path text
      return r.exit.code
    catch e =>
      IO.eprintln ("Error: " ++ (Disk.faultOf e).message)
      return Exit.refused.code

end CodeSurvey

open CodeSurvey in
def main (args : List String) : IO UInt32 := do
  match Invocation.ofArguments args with
  | .error e =>
    if e == .help || e == .version then
      IO.print e.text
      return Exit.success.code
    else
      IO.eprint e.text
      return Exit.refused.code
  | .ok invocation =>
    let color ← (← IO.getStdout).isTty
    match invocation.command with
    | .languages asJson => (Registry.program.languagesReply color asJson).deliver
    | .analyze root options => (options.reply color root (← options.surveyDisk root)).deliver
