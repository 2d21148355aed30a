import CodeSurvey.Config
import CodeSurvey.Json.Read
import CodeSurvey.Text.Digits
import CodeSurvey.Yaml.Node

/-! Configurations read from YAML and from JSON. Every member may be left out. -/
namespace CodeSurvey

namespace Yaml

/-- The standard tag of a name. -/
def standardTag (name : String) : String := "tag:yaml.org,2002:" ++ name

def Node.text? : Node → Option String
  | scalar _ _ text => some text
  | _ => none

/-- The text of a scalar that may be something else than text: it is plain, or written as a literal
block with a tag that says what it is. -/
def Node.value? (kind : String) : Node → Option String
  | scalar .plain _ text => some text
  | scalar .literal tag text => if tag = some (standardTag kind) then some text else none
  | _ => none

def Node.bool? (n : Node) : Option Bool := do
  let text ← n.value? "bool"
  if ["true", "True", "TRUE"].contains text then some true
  else if ["false", "False", "FALSE"].contains text then some false
  else none

/-- Digits after a leading zero are text and no number. -/
def decimalValue (cs : List Char) : Option Nat :=
  if 1 < cs.length && cs.head? == some '0' && cs.all Char.isDigit then none else Text.digitsValue 10 cs

/-- A number may have a plus sign, and the mark of another base. -/
def wordValue (text : String) : Option Nat :=
  let cs := Text.dropPlus text.toList
  match cs with
  | '0' :: 'x' :: ds => Text.digitsValue 16 ds
  | '0' :: 'o' :: ds => Text.digitsValue 8 ds
  | '0' :: 'b' :: ds => Text.digitsValue 2 ds
  | _ => decimalValue cs

def Node.word? (n : Node) : Option Nat := (n.value? "int").bind wordValue

def isNull (text : String) : Bool := ["null", "Null", "NULL", "~"].contains text

/-- A plain scalar without a tag is null by its text, or by having none. With the tag of null it
has to be null, and with another one it is not. -/
def Node.wordOrNull? : Node → Option (Option Nat)
  | nothing => some none
  | scalar .plain none text =>
    if text.isEmpty || isNull text then some none else (wordValue text).map some
  | scalar .plain (some tag) text =>
    if tag = standardTag "null" then if isNull text then some none else none
    else (wordValue text).map some
  | n => n.word?.map some

/-- An empty plain scalar may stand for a sequence without items. -/
def Node.texts? (document : Node) : Node → Option (List String)
  | sequence items => items.mapM fun n => (document.resolve n).text?
  | nothing | scalar .plain _ "" => some []
  | _ => none

/-- An empty plain scalar may stand for a mapping without entries. Keys are texts. -/
def Node.entries? (document : Node) : Node → Option (List (String × Node))
  | mapping entries => entries.mapM fun (k, v) =>
    (document.resolve k).text?.map (·, document.resolve v)
  | nothing | scalar .plain _ "" => some []
  | _ => none

end Yaml

namespace Config

def memberNames : List String :=
  ["include_ast", "include_semantic_analysis", "languages", "exclude_patterns",
   "max_file_size_bytes", "parallelism", "parse_timeout_ms"]

/-- How the members are read from a notation. -/
structure Readers (α : Type) where
  bool : α → Option Bool
  texts : α → Option (List String)
  word : α → Option Nat
  wordOrNull : α → Option (Option Nat)

/-- A configuration from its members. A known member may not stand twice. -/
def ofMembers (read : Readers α) (members : List (String × α)) : Option Config := do
  let given (name : String) : List α := (members.filter (·.1 == name)).map (·.2)
  guard (memberNames.all fun name => (given name).length ≤ 1)
  let member {β : Type} (name : String) (reader : α → Option β) (d : β) : Option β :=
    ((given name).head?.map reader).getD (some d)
  let d : Config := {}
  return {
    includeOutline := ← member "include_ast" read.bool d.includeOutline
    includeSymbols := ← member "include_semantic_analysis" read.bool d.includeSymbols
    languages := ← member "languages" read.texts d.languages
    excludePatterns := ← member "exclude_patterns" read.texts d.excludePatterns
    maxFileSize := ← member "max_file_size_bytes" read.word d.maxFileSize
    parallelism := ← member "parallelism" read.word d.parallelism
    parseTimeout := ← member "parse_timeout_ms" read.wordOrNull d.parseTimeout }

/-- A text of blanks only is the default configuration. -/
def ofYaml? (text : String) : Option Config :=
  if (Text.trim text.toList).isEmpty then some {}
  else do
    let document ← Yaml.parse text
    ofMembers ⟨Yaml.Node.bool?, document.texts?, Yaml.Node.word?, Yaml.Node.wordOrNull?⟩
      (← document.entries? (document.resolve document))

def ofJson? (j : Json) : Option Config := do
  let members ← j.asRecord? memberNames
  ofMembers
    ⟨Json.asBool?, Json.asStrs?, Json.asWord?, fun
      | .null => some none
      | v => v.asWord?.map some⟩
    members

end Config

end CodeSurvey
