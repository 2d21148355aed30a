import CodeSurvey.Failure
import CodeSurvey.Glob.Parse
import CodeSurvey.Json
import CodeSurvey.Record
import CodeSurvey.Text.Escape

/-! The configuration of a survey. -/
namespace CodeSurvey

structure Config where
  includeOutline : Bool := true
  includeSymbols : Bool := true
  /-- The languages asked for, by name; none means all. -/
  languages : List String := []
  excludePatterns : List String :=
    ["*.min.js", "*.bundle.js", "node_modules/*", "__pycache__/*", "*.pyc", "*.class", "target/*",
     "build/*", "dist/*"]
  maxFileSize : Nat := 10485760
  /-- The number of workers. -/
  parallelism : Nat := 4
  /-- The limit for one parse in milliseconds. -/
  parseTimeout : Option Nat := some 10000

namespace Config

variable (c : Config)

/-- The languages asked for as a set. -/
def requestedLanguages : Except AnalysisError (List Language) := do
  let languages ← c.languages.mapM fun name =>
    match Language.parse? name with
    | some l => .ok l
    | none => .error (.invalidConfig (Language.unknown name))
  return Language.sorted languages

def readGlob (pattern : String) : Except AnalysisError Glob :=
  match Glob.ofText pattern with
  | .ok g => .ok g
  | .error fault =>
    .error (.invalidConfig ("bad exclude pattern " ++ Text.escaped pattern ++
      ": error parsing glob '" ++ pattern ++ "': " ++ fault.message))

def excludeGlobs : Except AnalysisError (List Glob) := c.excludePatterns.mapM readGlob

def validate : Except AnalysisError Unit := do
  if c.parallelism == 0 then throw (.invalidConfig "parallelism must be at least 1")
  let _ ← c.requestedLanguages
  let _ ← c.excludeGlobs

def options : ParseOptions :=
  { includeOutline := c.includeOutline
    includeSymbols := c.includeSymbols
    timeout := c.parseTimeout }

def toJson : Json :=
  .obj [("include_ast", .bool c.includeOutline), ("include_semantic_analysis", .bool c.includeSymbols),
    ("languages", .strs c.languages), ("exclude_patterns", .strs c.excludePatterns),
    ("max_file_size_bytes", .nat c.maxFileSize), ("parallelism", .nat c.parallelism),
    ("parse_timeout_ms", Json.orNull (c.parseTimeout.map .nat))]

end Config

end CodeSurvey
