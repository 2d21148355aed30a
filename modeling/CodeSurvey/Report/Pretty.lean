import CodeSurvey.Decimal.Fixed
import CodeSurvey.Report

/-! The report for people. -/
namespace CodeSurvey.Report

/-- How text is shown in a terminal, by its codes. -/
inductive Style where
  | bold | dimmed | red | green | yellow | blue | boldCyan
  deriving DecidableEq

def Style.code : Style → String
  | bold => "1"
  | dimmed => "2"
  | red => "31"
  | green => "32"
  | yellow => "33"
  | blue => "34"
  | boldCyan => "1;36"

def resetCode : String := "\x1b[0m"

/-- Shows a text in a style, if styles are wanted. A reset inside the text ends up in the style
again. -/
def styled (color : Bool) (style : Style) (text : String) : String :=
  if color then
    let opening := "\x1b[" ++ style.code ++ "m"
    opening ++ text.replace resetCode (resetCode ++ opening) ++ resetCode
  else text

/-- A text filled up with spaces to a width. -/
def padded (width : Nat) (text : String) : String :=
  text ++ String.ofList (List.replicate (width - text.length) ' ')

variable (color : Bool)

def header (root : String) : List String :=
  ["", "  " ++ styled color .boldCyan programName ++ " v" ++ version, "",
   "  " ++ styled color .dimmed "Analyzing: " ++ root, ""]

def overview (s : Survey) : List String :=
  let t := s.summary
  let mark := if t.failedCount == 0 then styled color .green "✓" else styled color .yellow "✗"
  let counts :=
    "  " ++ mark ++ " " ++ styled color .bold (toString t.parsedCount) ++ " of " ++
      toString t.totalFiles ++ " files parsed, " ++ toString t.failedCount ++ " failed, " ++
      toString t.totalLines ++ " lines  " ++ styled color .dimmed ("(" ++ s.state.tag ++ ")")
  let languages := t.languages.map fun (tag, n) => tag ++ " " ++ toString n
  [counts] ++
    (if languages.isEmpty then []
     else ["  " ++ styled color .dimmed "Languages: " ++ ", ".intercalate languages]) ++
    [""]

/-- The complexity of functions, greener the lower it is. -/
def complexity (m : Metrics) : String :=
  let text := Decimal.fixed 1 m.complexity.toFloat ++ "/" ++ toString m.maxComplexity.toNat
  let style := if m.maxComplexity ≤ 10 then .green else if m.maxComplexity ≤ 20 then .yellow else .red
  styled color style (padded 8 text)

def file (r : FileRecord) : List String :=
  let m := r.metrics
  let language := "[" ++ r.language.tag ++ " " ++ Decimal.fixed 2 r.confidence ++ "]"
  let figures :=
    "      loc " ++ padded 6 (toString m.lines.code) ++ " fn " ++ padded 4 (toString m.functionCount) ++
      " class " ++ padded 4 (toString m.classCount) ++ " cc " ++ complexity color m ++ "  docs " ++
      Decimal.fixed 0 m.documented.percent ++ "%"
  let maintainability :=
    if 0 < m.tally.length then "  mi " ++ Decimal.fixed 0 m.maintainability else ""
  let errors :=
    if r.parseErrors.isEmpty then ""
    else "  " ++ styled color .yellow (toString r.parseErrors.length ++ " parse error(s)")
  ["    " ++ styled color .blue r.path ++ " " ++ styled color .dimmed language,
   figures ++ maintainability ++ errors]

def files (records : List FileRecord) : List String :=
  if records.isEmpty then []
  else
    ["  " ++ styled color .bold "Files" ++ " (" ++ toString records.length ++ "):", ""] ++
      records.flatMap (file color) ++ [""]

def failedFile (e : FileError) : String :=
  let style := if e.reason.isPolicySkip then .dimmed else .red
  let message := (e.message.map fun m => "  " ++ styled color .dimmed m).getD ""
  "    " ++ styled color style (padded 22 e.reason.tag) ++ " " ++ styled color .blue e.path ++ message

def failures (errors : List FileError) : List String :=
  if errors.isEmpty then []
  else
    ["  " ++ styled color .bold "Skipped or failed" ++ " (" ++ toString errors.length ++ "):", ""] ++
      errors.map (failedFile color) ++ [""]

def cancellation (s : Summary) : List String :=
  if s.cancelled then
    ["  " ++ styled color .yellow
      ("Cancelled with " ++ toString s.undispatched ++ " file(s) not analyzed")]
  else []

def pretty (root : String) (s : Survey) : String :=
  let lines :=
    header color root ++ overview color s ++ files color s.records ++
      failures color s.summary.errors ++ cancellation color s.summary
  String.join (lines.map (· ++ "\n"))

def render (format : Format) (root : String) (s : Survey) : String :=
  match format with
  | .json => json root s
  | .pretty => pretty color root s

end CodeSurvey.Report
