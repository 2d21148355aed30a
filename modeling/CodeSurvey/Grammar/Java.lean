import CodeSurvey.Grammar
import CodeSurvey.Text.Cut

/-! The grammar of Java. -/
namespace CodeSurvey.Java

open Text (squash)

variable (src : Source)

def nestingKinds : List String :=
  ["if_statement", "for_statement", "enhanced_for_statement", "while_statement", "do_statement",
   "catch_clause", "switch_block_statement_group", "switch_rule"]

def classKinds : List String :=
  ["class_declaration", "interface_declaration", "enum_declaration", "record_declaration"]

def role (_ : Source) (p : Place) : Role :=
  match p.kind with
  | "method_declaration" | "constructor_declaration" => .function
  | "import_declaration" => .imports
  | "field_declaration" | "constant_declaration" | "enum_constant" => .binding
  | "method_invocation" | "object_creation_expression" => .call
  | "ternary_expression" => .branch false
  | "binary_expression" => if p.tree.hasOperator ["&&", "||"] then .branch false else .other
  | kind =>
    if classKinds.contains kind then .classLike
    else if nestingKinds.contains kind then .branch true
    else .other

def modifiers? (t : Tree) : Option Tree := t.namedChildren.find? (·.kind == "modifiers")

def annotations (t : Tree) : NameSet :=
  match modifiers? t with
  | none => .empty
  | some m =>
    .ofList <| (m.namedChildren.filter (·.isOf ["marker_annotation", "annotation"])).filterMap
      (·.fieldText? src "name")

/-- A last parameter that takes any number of arguments. -/
def spreadParameter? (t : Tree) : Option Parameter := do
  let parts := t.namedChildren
  let declarator ← parts.find? (·.kind == "variable_declarator")
  let type := parts.find? fun c => !c.isOf ["modifiers", "variable_declarator"]
  return {
    name := ← declarator.fieldText? src "name"
    typeName := type.map fun c => squash (c.text src) ++ "..." }

def parameter? (t : Tree) : Option Parameter :=
  match t.kind with
  | "formal_parameter" =>
    (t.fieldText? src "name").map fun name =>
      { name, typeName := (t.fieldText? src "type").map squash }
  | "spread_parameter" => spreadParameter? src t
  | _ => none

def function (p : Place) : Option FunctionHead :=
  (p.tree.fieldText? src "name").map fun name =>
    { name
      parameters :=
        ((p.tree.child? "parameters").map fun ps =>
          ps.namedChildren.filterMap (parameter? src)).getD []
      returnType := (p.tree.fieldText? src "type").map squash
      decorators := annotations src p.tree }

def bases (t : Tree) : List String :=
  let superclass := ((t.child? "superclass").map Tree.namedChildren).getD []
  let clauses :=
    (t.child? "interfaces").toList ++ t.namedChildren.filter (·.kind == "extends_interfaces")
  squashedTexts src (superclass ++ (clauses.flatMap Tree.namedChildren).flatMap Tree.namedChildren)

def classLike (p : Place) : Option ClassHead :=
  (p.tree.fieldText? src "name").map fun name =>
    { name
      bases := bases src p.tree
      isAbstract :=
        p.kind == "interface_declaration" || (modifiers? p.tree).any (·.hasChild "abstract")
      decorators := annotations src p.tree }

def imports (p : Place) : List Import :=
  match p.tree.namedChildren.find? (·.isOf ["scoped_identifier", "identifier"]) with
  | none => []
  | some t =>
    let path := t.text src
    let (modulePath, name) :=
      if p.tree.hasChild "asterisk" then (path, "*")
      else (Text.splitLast? "." path).getD (path, path)
    [{ modulePath
       importedName := some name
       line := p.tree.startLine src
       isRelative := false }]

def bindings (p : Place) : List Variable :=
  let t := p.tree
  if t.kind == "enum_constant" then
    ((t.fieldText? src "name").map fun name =>
      { name, line := t.startLine src, kind := .assignment }).toList
  else
    let typeName := (t.fieldText? src "type").map squash
    (t.childrenIn "declarator").filterMap fun d =>
      (d.fieldText? src "name").map fun name =>
        { name, line := d.startLine src, kind := .annotated, typeName }

def callee (p : Place) : Option String :=
  if p.kind == "object_creation_expression" then (p.tree.fieldText? src "type").map squash
  else (p.tree.fieldText? src "name").map fun name =>
    match p.tree.fieldText? src "object" with
    | some object => squash object ++ "." ++ name
    | none => name

def grammar : Grammar where
  language := .java
  commentKinds := ["line_comment", "block_comment"]
  role
  function
  classLike
  imports
  bindings
  callee

end CodeSurvey.Java
