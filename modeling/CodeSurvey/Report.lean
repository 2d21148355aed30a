import CodeSurvey.Json.Print
import CodeSurvey.Survey

/-! Reports of a survey. -/
namespace CodeSurvey.Report

inductive Format where
  | pretty | json
  deriving DecidableEq, Repr

def Format.name : Format → String
  | pretty => "pretty"
  | json => "json"

def Format.all : List Format := [.pretty, .json]

def Format.ofName? (name : String) : Option Format := Format.all.find? (·.name == name)

def programName : String := "codescope"

def version : String := "0.1.0"

def json (root : String) (s : Survey) : String :=
  let report : Json :=
    .obj [("version", .str version), ("path", .str root), ("state", .str s.state.tag),
      ("summary", s.summary.toJson), ("files", .arr (s.records.map FileRecord.toJson))]
  report.pretty ++ "\n"

end CodeSurvey.Report
