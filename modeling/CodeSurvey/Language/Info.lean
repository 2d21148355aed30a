import CodeSurvey.Language

/-! Descriptive facts about each language. -/
namespace CodeSurvey.Language

/-- How programs of a language are put to use. -/
inductive Category where
  | interpreted | compiled | markup | data | build | unknown
  deriving DecidableEq, Repr

def Category.tag : Category → String
  | .interpreted => "interpreted"
  | .compiled => "compiled"
  | .markup => "markup"
  | .data => "data"
  | .build => "build"
  | .unknown => "unknown"

structure Info where
  name : String
  category : Category
  paradigms : List String

def info : Language → Info
  | .python => ⟨"Python", .interpreted, ["object-oriented", "functional", "procedural"]⟩
  | .javaScript => ⟨"JavaScript", .interpreted, ["object-oriented", "functional", "event-driven"]⟩
  | .typeScript => ⟨"TypeScript", .compiled, ["object-oriented", "functional"]⟩
  | .java => ⟨"Java", .compiled, ["object-oriented"]⟩
  | .c => ⟨"C", .compiled, ["procedural"]⟩
  | .cpp => ⟨"C++", .compiled, ["object-oriented", "procedural"]⟩
  | .csharp => ⟨"C#", .compiled, ["object-oriented", "functional"]⟩
  | .go => ⟨"Go", .compiled, ["procedural", "concurrent"]⟩
  | .rust => ⟨"Rust", .compiled, ["functional", "procedural"]⟩
  | .php => ⟨"PHP", .interpreted, ["object-oriented", "procedural"]⟩
  | .ruby => ⟨"Ruby", .interpreted, ["object-oriented", "functional"]⟩
  | .swift => ⟨"Swift", .compiled, ["object-oriented", "functional"]⟩
  | .kotlin => ⟨"Kotlin", .compiled, ["object-oriented", "functional"]⟩
  | .scala => ⟨"Scala", .compiled, ["object-oriented", "functional"]⟩
  | .r => ⟨"R", .interpreted, ["functional"]⟩
  | .sql => ⟨"SQL", .interpreted, ["declarative"]⟩
  | .shell => ⟨"Shell", .interpreted, ["procedural"]⟩
  | .powerShell => ⟨"PowerShell", .interpreted, ["procedural", "object-oriented"]⟩
  | .yaml => ⟨"YAML", .data, []⟩
  | .json => ⟨"JSON", .data, []⟩
  | .xml => ⟨"XML", .markup, []⟩
  | .html => ⟨"HTML", .markup, []⟩
  | .css => ⟨"CSS", .markup, []⟩
  | .scss => ⟨"SCSS", .markup, []⟩
  | .sass => ⟨"Sass", .markup, []⟩
  | .less => ⟨"Less", .markup, []⟩
  | .makefile => ⟨"Makefile", .build, ["declarative"]⟩
  | .dockerfile => ⟨"Dockerfile", .build, ["declarative"]⟩
  | .vagrantfile => ⟨"Vagrantfile", .build, ["declarative"]⟩
  | .generic => ⟨"Generic/Unknown", .unknown, ["unknown"]⟩

/-- The extensions of a language, sorted. -/
def extensions (language : Language) : List String :=
  ((extensionTable.filter fun e => e.2 == language).map (·.1)).mergeSort fun a b => decide (a ≤ b)

end CodeSurvey.Language
