import CodeSurvey.Command
import CodeSurvey.Config.Read
import CodeSurvey.FileTree.Listing
import CodeSurvey.Report.Pretty

/-! The command that surveys files and reports on them. -/
namespace CodeSurvey

/-- Why there is no report. -/
inductive Refusal where
  | unknownFormat (name : String)
  | badConfigFile (path : String) (cause : AnalysisError)
  | failed (cause : AnalysisError)
  deriving DecidableEq, Repr

def Refusal.message : Refusal → String
  | unknownFormat name =>
    "Error: invalid format " ++ Text.escaped name ++ ", must be one of: " ++
      ", ".intercalate (Report.Format.all.map (·.name))
  | badConfigFile path cause => "Error loading config: " ++ path ++ ": " ++ cause.message
  | failed cause => "Error: " ++ cause.message

/-- The configuration in a file. -/
def Config.ofFile (content : Except FileFault ByteArray) : Except AnalysisError Config :=
  match content with
  | .error fault => .error (.io fault.message)
  | .ok bytes =>
    match String.fromUTF8? bytes with
    | none => .error (.io "stream did not contain valid UTF-8")
    | some text =>
      match Config.ofYaml? text with
      | some c => .ok c
      | none => .error (.invalidConfig "the file does not hold a configuration")

namespace AnalyzeOptions

variable (o : AnalyzeOptions)

def defaultConfigPaths : List String := ["codescope.yaml", ".codescope.yaml", "codescope.json"]

/-- The configuration file to read: the one asked for, or else the first that exists. -/
def configPath? (fileExists : String → Bool) : Option String :=
  o.config.or (defaultConfigPaths.find? fileExists)

def reportFormat : Except Refusal Report.Format :=
  let name := o.format.getD Report.Format.pretty.name
  match Report.Format.ofName? name with
  | some f => .ok f
  | none => .error (.unknownFormat name)

/-- Puts what the options say in place of what a configuration says. Globs are added. -/
def override (c : Config) : Config :=
  { c with
    parallelism := o.parallelism.getD c.parallelism
    languages := if o.languages.isEmpty then c.languages else o.languages
    excludePatterns := c.excludePatterns ++ o.excludes
    maxFileSize := o.maxFileSize.getD c.maxFileSize
    includeOutline := c.includeOutline && !o.noOutline
    includeSymbols := c.includeSymbols && !o.noSymbols }

/-- What is settled before any file is looked at. The configuration file comes with its path. -/
def prepare (registry : Registry) (file : Option (String × Except FileFault ByteArray)) :
    Except Refusal (Report.Format × Surveyor) := do
  let format ← o.reportFormat
  let config ←
    match file with
    | none => .ok {}
    | some (path, content) => (Config.ofFile content).mapError (.badConfigFile path)
  let surveyor ← (Surveyor.new registry (o.override config)).mapError .failed
  return (format, surveyor)

/-- Surveys what is listed. The listing is asked for once there is a surveyor, and contents once
there is a listing. -/
def surveyVia {m : Type → Type} [Monad m] (registry : Registry)
    (file : Option (String × Except FileFault ByteArray))
    (listing : m (Except AnalysisError (List Entry)))
    (fetch : String → m (Except ContentError ByteArray)) :
    m (Except Refusal (Report.Format × Survey)) := do
  match o.prepare registry file with
  | .error refusal => return .error refusal
  | .ok (format, surveyor) =>
    match ← listing with
    | .error e => return .error (.failed (Surveyor.listingFault e))
    | .ok files => return .ok (format, ← surveyor.runVia fetch files)

/-- Every listed file has a record, or the command tells that some have none. -/
def exitOf (s : Survey) : Exit :=
  if 0 < s.summary.failedCount || s.summary.cancelled then .incomplete else .success

/-- A report goes to the file asked for, without colors, or else to the terminal. -/
def reply (color : Bool) (root : String) (outcome : Except Refusal (Report.Format × Survey)) : Reply :=
  match outcome with
  | .error refusal => { exit := .refused, stderr := refusal.message ++ "\n" }
  | .ok (format, s) =>
    match o.output with
    | none => { exit := exitOf s, stdout := Report.render color format root s }
    | some path => { exit := exitOf s, file := some (path, Report.render false format root s) }

/-- The configuration file of a tree, with its path. -/
def configFile? (files : FileTree ByteArray) : Option (String × Except FileFault ByteArray) :=
  (o.configPath? files.exists?).map fun path => (path, files.read path)

/-- Surveys the files of a tree. -/
def survey (registry : Registry) (files : FileTree ByteArray) (root : String) :
    Except Refusal (Report.Format × Survey) := do
  let (format, surveyor) ← o.prepare registry (o.configFile? files)
  let listing := files.listing ByteArray.size root o.followLinks
  let s ← (surveyor.runListing listing files.fetch .never).mapError .failed
  return (format, s)

def run (registry : Registry) (files : FileTree ByteArray) (color : Bool) (root : String) : Reply :=
  o.reply color root (o.survey registry files root)

end AnalyzeOptions

end CodeSurvey
