import CodeSurvey.Path
import CodeSurvey.Text.Blank

/-! Languages, their tags and what is known of each. -/
namespace CodeSurvey

/-- A language tag. Only some have a grammar; the others are told apart all the same, so that
filtering and counting by language make sense. -/
inductive Language where
  | python | javaScript | typeScript | java | c | cpp | csharp | go | rust | php
  | ruby | swift | kotlin | scala | r | sql | shell | powerShell | yaml | json
  | xml | html | css | scss | sass | less | makefile | dockerfile | vagrantfile | generic
  deriving DecidableEq, Repr, Inhabited

namespace Language

/-- Every language, in the order in which sets of them are written. -/
def all : List Language :=
  [.python, .javaScript, .typeScript, .java, .c, .cpp, .csharp, .go,
   .rust, .php, .ruby, .swift, .kotlin, .scala, .r, .sql,
   .shell, .powerShell, .yaml, .json, .xml, .html, .css, .scss,
   .sass, .less, .makefile, .dockerfile, .vagrantfile, .generic]

def tag : Language → String
  | .python => "python"
  | .javaScript => "javascript"
  | .typeScript => "typescript"
  | .java => "java"
  | .c => "c"
  | .cpp => "cpp"
  | .csharp => "csharp"
  | .go => "go"
  | .rust => "rust"
  | .php => "php"
  | .ruby => "ruby"
  | .swift => "swift"
  | .kotlin => "kotlin"
  | .scala => "scala"
  | .r => "r"
  | .sql => "sql"
  | .shell => "shell"
  | .powerShell => "powershell"
  | .yaml => "yaml"
  | .json => "json"
  | .xml => "xml"
  | .html => "html"
  | .css => "css"
  | .scss => "scss"
  | .sass => "sass"
  | .less => "less"
  | .makefile => "makefile"
  | .dockerfile => "dockerfile"
  | .vagrantfile => "vagrantfile"
  | .generic => "generic"

def aliases : List (String × Language) :=
  [("py", .python), ("python3", .python), ("js", .javaScript), ("node", .javaScript),
   ("ts", .typeScript), ("c++", .cpp), ("cxx", .cpp), ("c#", .csharp),
   ("cs", .csharp), ("golang", .go), ("rs", .rust), ("bash", .shell),
   ("sh", .shell), ("zsh", .shell), ("yml", .yaml), ("kt", .kotlin)]

/-- File extensions, with their dot and in lower case. -/
def extensionTable : List (String × Language) :=
  [(".py", .python), (".pyw", .python), (".pyi", .python), (".js", .javaScript),
   (".jsx", .javaScript), (".mjs", .javaScript), (".cjs", .javaScript), (".ts", .typeScript),
   (".tsx", .typeScript), (".mts", .typeScript), (".cts", .typeScript), (".java", .java),
   (".c", .c), (".h", .c), (".cpp", .cpp), (".cxx", .cpp),
   (".cc", .cpp), (".hpp", .cpp), (".hh", .cpp), (".cs", .csharp),
   (".go", .go), (".rs", .rust), (".php", .php), (".rb", .ruby),
   (".swift", .swift), (".kt", .kotlin), (".kts", .kotlin), (".scala", .scala),
   (".sc", .scala), (".r", .r), (".sql", .sql), (".sh", .shell),
   (".bash", .shell), (".zsh", .shell), (".ps1", .powerShell), (".yaml", .yaml),
   (".yml", .yaml), (".json", .json), (".xml", .xml), (".html", .html),
   (".htm", .html), (".css", .css), (".scss", .scss), (".sass", .sass),
   (".less", .less)]

/-- A text with its ASCII letters in lower case. -/
def lowered (s : String) : String := s.map Char.toLower

/-- Reads a tag or one of the common aliases; case and blanks around it do not matter. -/
def parse? (s : String) : Option Language :=
  let name := lowered (Text.trimmed s)
  (aliases.lookup name).or (all.find? fun l => l.tag == name)

/-- What is said of a name that is no language. -/
def unknown (s : String) : String := "unknown language: " ++ s

/-- The language of an extension, written with or without its dot. -/
def ofExtension? (ext : String) : Option Language :=
  let ext := lowered ext
  extensionTable.lookup (if ext.startsWith "." then ext else "." ++ ext)

/-- Languages whose files go by a fixed name. -/
def ofFileName? (path : String) : Option Language := do
  match lowered (← Path.fileName? path) with
  | "makefile" | "gnumakefile" => some .makefile
  | "dockerfile" => some .dockerfile
  | "vagrantfile" => some .vagrantfile
  | _ => none

/-- The set of some languages: no repeats, in the order of `all`. -/
def sorted (ls : List Language) : List Language := all.filter ls.contains

end Language

end CodeSurvey
