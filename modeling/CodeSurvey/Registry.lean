import CodeSurvey.Language.Info
import CodeSurvey.Parser

/-! Which parser serves which language. -/
namespace CodeSurvey

structure Registry where
  get : Language → Option Parser

namespace Registry

def empty : Registry := ⟨fun _ => none⟩

/-- A later parser of a language takes the place of an earlier one. -/
def register (r : Registry) (language : Language) (p : Parser) : Registry :=
  ⟨fun l => if l = language then some p else r.get l⟩

/-- A registry with line metrics for every file. -/
def lineMetrics : Registry := empty.register .generic .generic

/-- Every language that has a grammar, and line metrics for all others. -/
def standard (trees : TreeBuilder) : Registry :=
  [(.go, Parser.go), (.java, Parser.java), (.javaScript, Parser.javaScript),
   (.python, Parser.python), (.rust, Parser.rust), (.typeScript, Parser.typeScript)].foldl
    (fun r (language, p) => r.register language (p trees)) lineMetrics

variable (r : Registry)

/-- The parser of a language, or else the generic one. -/
def resolve (language : Language) : Except AnalysisError Parser :=
  match (r.get language).or (r.get .generic) with
  | some p => .ok p
  | none => .error (.unsupportedLanguage language)

def resolveExtension (ext : String) : Except AnalysisError Parser :=
  r.resolve ((Language.ofExtension? ext).getD .generic)

def isSupported (language : Language) : Bool := (r.get language).isSome

def supported : List Language := Language.all.filter r.isSupported

/-- Every language with a parser, and what the parser offers. -/
def details : List (Language × List String) :=
  r.supported.filterMap fun l => (r.get l).map fun p => (l, p.features)

end Registry

def Language.infoJson (language : Language) : Json :=
  let info := language.info
  .obj [("name", .str info.name), ("category", .str info.category.tag),
    ("paradigms", .strs info.paradigms), ("typical_extensions", .strs language.extensions)]

/-- The details of a registry as JSON. -/
def Registry.detailsJson (r : Registry) : Json :=
  .arr (r.details.map fun (language, features) =>
    .obj [("language", .str language.tag), ("info", language.infoJson),
      ("features", .strs features)])

end CodeSurvey
