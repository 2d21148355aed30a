import CodeSurvey.Extraction
import CodeSurvey.Identify
import CodeSurvey.Metrics
import CodeSurvey.Symbols

/-! The record of one file. -/
namespace CodeSurvey

/-- What a parser is asked for. The limit is in milliseconds. -/
structure ParseOptions where
  includeOutline : Bool := false
  includeSymbols : Bool := true
  timeout : Option Nat := none

structure FileRecord where
  path : String
  language : Language
  confidence : Float
  lineCount : Nat
  byteSize : Nat
  moduleDocstring : Option String
  declarations : List Declaration
  imports : List Import
  globals : List Variable
  metrics : Metrics
  symbols : Option Symbols
  outline : Option Outline
  parseErrors : List ParseError

namespace FileRecord

/-- Completes what was read from a file by its metrics and symbols. -/
def build (language : Language) (path text : String) (e : Extraction) (style : CommentStyle)
    (options : ParseOptions) : FileRecord :=
  { path
    language
    confidence := if language == .generic then Confidence.least else Confidence.hinted
    lineCount := Text.countLines text
    byteSize := text.utf8ByteSize
    moduleDocstring := e.moduleDocstring
    declarations := e.declarations
    imports := e.imports
    globals := e.globals
    metrics := .compute e.declarations text style e.tally
    symbols := if options.includeSymbols then some (.of e.declarations e.globals e.calls) else none
    outline := if options.includeOutline then e.outline else none
    parseErrors := e.parseErrors }

variable (r : FileRecord)

def functions : List FunctionDecl := allFunctions r.declarations

def classes : List ClassDecl := allClasses r.declarations

/-- The first declaration of a name at top level. -/
def find? (name : String) : Option Declaration := r.declarations.find? (·.name == name)

def hasSyntaxErrors : Bool := r.parseErrors.any (·.kind == .syntactic)

end FileRecord

end CodeSurvey
