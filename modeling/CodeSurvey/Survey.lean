import CodeSurvey.Config
import CodeSurvey.Entry
import CodeSurvey.Record.Json
import CodeSurvey.Registry
import CodeSurvey.Summary
import CodeSurvey.Text.Utf8

/-! The survey of a codebase: files are screened, read, identified and parsed, each on its own, and
what comes of them is put together. -/
namespace CodeSurvey

inductive RunState where
  | created | filtering | dispatching | aggregating | completed | cancelled | failed
  deriving DecidableEq, Repr

namespace RunState

def all : List RunState :=
  [created, filtering, dispatching, aggregating, completed, cancelled, failed]

def tag : RunState → String
  | created => "created"
  | filtering => "filtering"
  | dispatching => "dispatching"
  | aggregating => "aggregating"
  | completed => "completed"
  | cancelled => "cancelled"
  | failed => "failed"

def isTerminal : RunState → Bool
  | completed | cancelled | failed => true
  | _ => false

end RunState

/-- A finished survey. Records are sorted by path. -/
structure Survey where
  state : RunState
  summary : Summary
  records : List FileRecord

/-- What comes of one file. -/
abbrev Outcome := Except FileError FileRecord

def Outcome.record? : Outcome → Option FileRecord
  | .ok r => some r
  | .error _ => none

/-- A configuration that has been found valid, with the parsers to use. -/
structure Surveyor where
  registry : Registry
  languages : List Language
  excludes : List Glob
  maxFileSize : Nat
  /-- How many files may be looked at at a time. -/
  parallelism : Nat
  options : ParseOptions

namespace Surveyor

def new (registry : Registry) (config : Config) : Except AnalysisError Surveyor := do
  config.validate
  return {
    registry
    languages := ← config.requestedLanguages
    excludes := ← config.excludeGlobs
    maxFileSize := config.maxFileSize
    parallelism := config.parallelism
    options := config.options }

variable (v : Surveyor)

def isExcluded (path : String) : Bool := v.excludes.any (·.isMatch path)

/-- Whether the language that the path and the hint speak for is asked for. -/
def isRequested (e : Entry) : Bool :=
  v.languages.isEmpty || v.languages.contains (identify e.path none e.languageHint).language

/-- Why a file is not looked at, if it is not. -/
def screen (e : Entry) : Option FileError :=
  if v.isExcluded e.path then some { path := e.path, reason := .excluded }
  else match e.listingError with
    | some message => some { path := e.path, reason := .contentUnavailable, message := some message }
    | none =>
      if v.maxFileSize < e.size then some { path := e.path, reason := .oversized }
      else if !v.isRequested e then some { path := e.path, reason := .languageNotRequested }
      else none

/-- The record of a file whose content has been read. It keeps the size of the bytes, which may
differ from that of the text. -/
def analyze (e : Entry) (bytes : ByteArray) : Attempt :=
  let text := Text.ofBytes bytes
  let found := identify e.path (some text) e.languageHint
  match v.registry.resolve found.language with
  | .error err => .error err
  | .ok parser =>
    match parser.parseWith text e.path v.options with
    | .record r =>
      .record { r with
        language := found.language
        confidence := found.confidence
        byteSize := bytes.size }
    | other => other

def crashMessage (detail : Option String) : String :=
  "parser panicked: " ++ detail.getD "unknown panic"

/-- What comes of one file. Nothing that goes wrong with it reaches another file. -/
def process (fetch : Fetch) (e : Entry) : Outcome :=
  match fetch e.id with
  | .error cause => .error (.ofError e.path (.contentUnavailable e.path cause))
  | .ok bytes =>
    match v.analyze e bytes with
    | .record r => .ok r
    | .error err => .error (.ofError e.path err)
    | .crash detail =>
      .error { path := e.path, reason := .internal, message := some (crashMessage detail) }

end Surveyor

namespace Survey

def addOutcome (s : Summary) : Outcome → Summary
  | .ok r => s.addParsed r.language r.lineCount
  | .error e => s.addFailed e

/-- Puts together the files that were skipped and the outcomes of the others, in the order in
which they came in. The survey is cancelled if that was asked for and files are left. -/
def collect (total : Nat) (skips : List FileError) (outcomes : List Outcome)
    (cancelAsked : Bool) : Survey :=
  let summary := outcomes.foldl addOutcome (skips.foldl Summary.addFailed { totalFiles := total })
  let cancelled := cancelAsked && 0 < summary.undispatched
  { state := if cancelled then .cancelled else .completed
    summary := summary.finish cancelled
    records :=
      (outcomes.filterMap Outcome.record?).mergeSort fun a b => decide (a.path ≤ b.path) }

/-- Halves a stretch of the records until one is left, the last that does not lie behind a path. -/
def narrow (records : Array FileRecord) (path : String) (base size : Nat) : Nat :=
  if size ≤ 1 then base
  else
    let half := size / 2
    let mid := base + half
    let base := if records[mid]?.any (decide <| ·.path ≤ path) then mid else base
    narrow records path base (size - half)
  termination_by size

/-- The record of a path. -/
def record? (s : Survey) (path : String) : Option FileRecord :=
  let records := s.records.toArray
  (records[narrow records path 0 records.size]?).filter (·.path == path)

end Survey

/-- Whether a survey has been asked to stop, once so many files have been taken up. -/
abbrev Cancellation := Nat → Bool

namespace Cancellation

def never : Cancellation := fun _ => false

/-- Asked for while the file of this number is being read; zero is before the survey. -/
def during (n : Nat) : Cancellation := fun taken => n ≤ taken

end Cancellation

namespace Surveyor

variable (v : Surveyor)

/-- Files one after another, until the survey is asked to stop. -/
def dispatch (fetch : Fetch) (cancel : Cancellation) (taken : Nat) : List Entry → List Outcome
  | [] => []
  | e :: es =>
    if cancel taken then [] else v.process fetch e :: dispatch fetch cancel (taken + 1) es

def skips (files : List Entry) : List FileError := files.filterMap v.screen

def pending (files : List Entry) : List Entry := files.filter fun e => (v.screen e).isNone

def run (files : List Entry) (fetch : Fetch) (cancel : Cancellation) : Survey :=
  let outcomes := v.dispatch fetch cancel 0 (v.pending files)
  Survey.collect files.length (v.skips files) outcomes (cancel outcomes.length)

section

variable {m : Type → Type} [Monad m] (fetch : String → m (Except ContentError ByteArray))

/-- What comes of one file, whose content has to be gone for. -/
def processVia (e : Entry) : m Outcome := do
  let content ← fetch e.id
  return v.process (fun _ => content) e

/-- A survey that is not asked to stop, with contents that have to be gone for. -/
def runVia (files : List Entry) : m Survey := do
  let outcomes ← (v.pending files).mapM (v.processVia fetch)
  return Survey.collect files.length (v.skips files) outcomes false

end

/-- A listing that fails ends the run. -/
def listingFault : AnalysisError → AnalysisError
  | .runFault message => .runFault message
  | other => .runFault other.message

def runListing (listing : Except AnalysisError (List Entry)) (fetch : Fetch)
    (cancel : Cancellation) : Except AnalysisError Survey :=
  match listing with
  | .ok files => .ok (v.run files fetch cancel)
  | .error e => .error (listingFault e)

end Surveyor

end CodeSurvey
