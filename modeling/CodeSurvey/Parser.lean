import CodeSurvey.Failure
import CodeSurvey.Grammar.Ecma
import CodeSurvey.Grammar.Go
import CodeSurvey.Grammar.Java
import CodeSurvey.Grammar.Python
import CodeSurvey.Grammar.Rust
import CodeSurvey.Record

/-! Parsers, which turn a text into a record. -/
namespace CodeSurvey

/-- The languages that trees are built for. TypeScript with embedded markup has its own. -/
inductive Dialect where
  | python | javaScript | typeScript | tsx | java | go | rust
  deriving DecidableEq, Repr

def Dialect.name : Dialect → String
  | python => "python"
  | javaScript => "javascript"
  | typeScript => "typescript"
  | tsx => "tsx"
  | java => "java"
  | go => "go"
  | rust => "rust"

/-- Builds the syntax tree of a text, or gives up. -/
abbrev TreeBuilder := Dialect → String → Option Tree

/-- What comes of a parse. A parser that crashes may leave a word about it. -/
inductive Attempt where
  | record (r : FileRecord)
  | error (e : AnalysisError)
  | crash (detail : Option String)

structure Parser where
  language : Language
  features : List String
  /-- Takes a text, its path and what is asked for. -/
  parseWith : String → String → ParseOptions → Attempt

namespace Parser

/-- Line metrics only. -/
def generic : Parser where
  language := .generic
  features := ["line_metrics"]
  parseWith text path options :=
    .record (.build .generic path text {} CommentStyle.generic options)

/-- Reads the tree of a text with a grammar. A builder that gives up under a limit has run out of
time. -/
def ofTree (g : Grammar) (tree : Option Tree) (text path : String) (options : ParseOptions) :
    Attempt :=
  match tree, options.timeout with
  | some root, _ =>
    let e := extract g (.ofText text) root options.includeOutline
    .record (.build g.language path text e g.commentStyle options)
  | none, some limit => .error (.parseTimeout path limit)
  | none, none =>
    let fault : ParseError := { kind := .internal, message := "parser produced no tree" }
    .record (.build g.language path text { parseErrors := [fault] } g.commentStyle options)

def ofGrammar (g : Grammar) (dialect : String → Dialect) (trees : TreeBuilder) : Parser where
  language := g.language
  features := g.features
  parseWith text path options := ofTree g (trees (dialect path) text) text path options

def python : TreeBuilder → Parser := ofGrammar Python.grammar fun _ => .python

def javaScript : TreeBuilder → Parser := ofGrammar (Ecma.grammar .javaScript) fun _ => .javaScript

/-- The dialect of a TypeScript file goes by its extension. -/
def typeScript : TreeBuilder → Parser :=
  ofGrammar (Ecma.grammar .typeScript) fun path =>
    if Text.endsWith ".tsx" (Language.lowered path) then .tsx else .typeScript

def java : TreeBuilder → Parser := ofGrammar Java.grammar fun _ => .java

def go : TreeBuilder → Parser := ofGrammar Go.grammar fun _ => .go

def rust : TreeBuilder → Parser := ofGrammar Rust.grammar fun _ => .rust

/-- Parses with default options. An error becomes part of the record. -/
def parse (p : Parser) (text path : String) : Attempt :=
  match p.parseWith text path {} with
  | .error e =>
    let fault : ParseError := { kind := .internal, message := e.message }
    .record (.build p.language path text { parseErrors := [fault] } CommentStyle.generic {})
  | attempt => attempt

end Parser

end CodeSurvey
