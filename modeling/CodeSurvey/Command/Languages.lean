import CodeSurvey.Command
import CodeSurvey.Json.Print
import CodeSurvey.Registry
import CodeSurvey.Report.Pretty

/-! The command that lists languages. -/
namespace CodeSurvey.Registry

variable (r : Registry)

def languageLine (color : Bool) (language : Language) (features : List String) : String :=
  "  " ++ Report.styled color .bold (Report.padded 12 language.tag) ++ " " ++
    Report.styled color .dimmed (Report.padded 12 language.info.category.tag) ++ " " ++
    ", ".intercalate features

/-- The languages that have a parser, for people. -/
def overview (color : Bool) : String :=
  let lines :=
    ["Supported languages:", ""] ++
      r.details.map (fun (language, features) => languageLine color language features) ++
      ["", "Other files fall back to line metrics only."]
  String.join (lines.map (· ++ "\n"))

def languagesReply (color asJson : Bool) : Reply :=
  { exit := .success
    stdout := if asJson then r.detailsJson.pretty ++ "\n" else r.overview color }

end CodeSurvey.Registry
