import CodeSurvey.Grammar
import CodeSurvey.Text.Cut
import CodeSurvey.Text.Quote

/-! The grammar that JavaScript and TypeScript share. -/
namespace CodeSurvey.Ecma

open Text (squash)

variable (src : Source)

def nestingKinds : List String :=
  ["if_statement", "for_statement", "for_in_statement", "while_statement", "do_statement",
   "catch_clause", "switch_case"]

def functionKinds : List String :=
  ["function_declaration", "generator_function_declaration", "function_expression", "function",
   "generator_function", "arrow_function", "method_definition", "method_signature",
   "abstract_method_signature"]

def classKinds : List String :=
  ["class_declaration", "abstract_class_declaration", "interface_declaration", "class"]

/-- Values that make a declarator a function or a class and not a variable. -/
def declarationValues : List String :=
  ["arrow_function", "function_expression", "function", "generator_function", "class"]

/-- The module that `require('x')` names. -/
def requireTarget? (t : Tree) : Option String := do
  guard (t.kind == "call_expression")
  let function ← t.child? "function"
  guard (function.kind == "identifier" && function.text src == "require")
  let args ← t.child? "arguments"
  let first ← args.namedChildren.head?
  guard (first.kind == "string")
  return Text.unquote (first.text src)

/-- Members of an interface, as opposed to those of an object type written in place. -/
def inInterfaceBody (p : Place) : Bool :=
  (p.parent?.bind Place.parent?).any (·.kind == "interface_declaration")

def role (p : Place) : Role :=
  let kind := p.kind
  if functionKinds.contains kind then .function
  else if classKinds.contains kind then .classLike
  else match kind with
    | "import_statement" => .imports
    | "export_statement" => if (p.tree.child? "source").isSome then .imports else .other
    | "call_expression" => if (requireTarget? src p.tree).isSome then .imports else .call
    | "new_expression" => .call
    | "lexical_declaration" | "variable_declaration" | "field_definition"
    | "public_field_definition" => .binding
    | "property_signature" => if inInterfaceBody p then .binding else .other
    | "ternary_expression" => .branch false
    | "binary_expression" => if p.tree.hasOperator ["&&", "||"] then .branch false else .other
    | _ => if nestingKinds.contains kind then .branch true else .other

/-- A type annotation without its colon. -/
def typeText (t : Tree) : String := squash (Text.dropLeading ':' (t.text src))

def parameter? (t : Tree) : Option Parameter :=
  match t.kind with
  | "identifier" | "rest_pattern" | "object_pattern" | "array_pattern" =>
    some { name := squash (t.text src) }
  | "assignment_pattern" =>
    (t.fieldText? src "left").map fun name =>
      { name, default := (t.fieldText? src "right").map squash }
  | "required_parameter" | "optional_parameter" =>
    (t.fieldText? src "pattern").map fun pattern =>
      { name := squash pattern
        typeName := (t.child? "type").map (typeText src)
        default := (t.fieldText? src "value").map squash }
  | _ => none

def identifierText? (t : Option Tree) : Option String :=
  (t.filter (·.kind == "identifier")).map (·.text src)

/-- The name that its surroundings give to a function or class without one of its own. -/
def bindingName? (p : Place) : Option String := do
  let parent := (← p.parent?).tree
  let name ←
    match parent.kind with
    | "variable_declarator" => identifierText? src (parent.child? "name")
    | "pair" => (parent.fieldText? src "key").map Text.unquote
    | "assignment_expression" => (parent.fieldText? src "left").map (Text.pastLast ".")
    | "field_definition" => parent.fieldText? src "property"
    | "public_field_definition" => parent.fieldText? src "name"
    | _ => none
  if name.isEmpty then none else some name

def name? (p : Place) : Option String := (p.tree.fieldText? src "name").or (bindingName? src p)

def markerNames (t : Tree) : List String :=
  (t.children.filter (·.kind == "decorator")).filterMap fun d => Text.markerName? (d.text src)

/-- The export statement around a declaration. -/
def exported? (p : Place) : Option Place := p.parent?.filter (·.kind == "export_statement")

def decorators (p : Place) : NameSet :=
  .ofList (markerNames src p.tree ++ ((exported? p).map fun e => markerNames src e.tree).getD [])

def parameters (t : Tree) : List Parameter :=
  match t.child? "parameters" with
  | some ps => ps.namedChildren.filterMap (parameter? src)
  | none => ((t.child? "parameter").map fun p => { name := p.text src }).toList

def function (p : Place) : Option FunctionHead :=
  if p.kind == "method_signature" && !inInterfaceBody p then none
  else (name? src p).map fun name =>
    { name
      parameters := parameters src p.tree
      returnType := (p.tree.child? "return_type").map (typeText src)
      isAsync := p.tree.hasChild "async"
      decorators := decorators src p }

/-- The bases in one part of a heritage: a clause of TypeScript, or a bare expression. -/
def heritageBases (part : Tree) : List String :=
  match part.kind with
  | "extends_clause" => squashedTexts src (part.childrenIn "value")
  | "implements_clause" => squashedTexts src part.namedChildren
  | _ => squashedTexts src [part]

def bases (child : Tree) : List String :=
  match child.kind with
  | "class_heritage" => child.namedChildren.flatMap (heritageBases src)
  | "extends_type_clause" => squashedTexts src child.namedChildren
  | _ => []

def classLike (p : Place) : Option ClassHead :=
  (name? src p).map fun name =>
    { name
      bases := p.tree.namedChildren.flatMap (bases src)
      isAbstract := p.tree.isOf ["abstract_class_declaration", "interface_declaration"]
      decorators := decorators src p }

def importOf (modulePath : String) (importedName boundAs : Option String) (line : Nat) : Import :=
  { modulePath, importedName, boundAs, line, isRelative := Text.startsWith "." modulePath }

/-- The name and its new name in a specifier of an import or export. -/
def specifiers (kind : String) (list : Tree) : List (Option String × Option String) :=
  (list.namedChildren.filter (·.kind == kind)).map fun spec =>
    (spec.fieldText? src "name", spec.fieldText? src "alias")

def clauseNames (part : Tree) : List (Option String × Option String) :=
  match part.kind with
  | "identifier" => [(none, some (part.text src))]
  | "namespace_import" => [(some "*", part.namedChildren.head?.map (·.text src))]
  | "named_imports" => specifiers src "import_specifier" part
  | _ => []

/-- The names that one part of an import or export statement brings in. -/
def statementNames (child : Tree) : List (Option String × Option String) :=
  match child.kind with
  | "import_clause" => child.namedChildren.flatMap (clauseNames src)
  | "export_clause" => specifiers src "export_specifier" child
  | "namespace_export" =>
    [(some "*", child.namedChildren.head?.map fun n => Text.unquote (n.text src))]
  | _ => []

def requireImport (p : Place) : Option Import :=
  (requireTarget? src p.tree).map fun modulePath =>
    let declarator := p.parent?.filter (·.kind == "variable_declarator")
    importOf modulePath none (identifierText? src (declarator.bind (·.tree.child? "name")))
      (p.tree.startLine src)

/-- One import a name; a statement that brings in none of its own counts as one. -/
def statementImports (t : Tree) : List Import :=
  match t.child? "source" with
  | none => []
  | some source =>
    let modulePath := Text.unquote (source.text src)
    let line := t.startLine src
    match t.namedChildren.flatMap (statementNames src) with
    | [] =>
      let all := if t.kind == "export_statement" then some "*" else none
      [importOf modulePath all none line]
    | names => names.map fun (name, boundAs) => importOf modulePath name boundAs line

def imports (p : Place) : List Import :=
  if p.kind == "call_expression" then (requireImport src p).toList
  else statementImports src p.tree

def variableOf (name : String) (t : Tree) : Variable :=
  let typeName := (t.child? "type").map (typeText src)
  { name
    line := t.startLine src
    kind := if typeName.isSome then .annotated else .assignment
    typeName }

/-- Whether the value of a declarator is reported as something else than a variable. -/
def isDeclarationValue (value : Tree) : Bool :=
  value.isOf declarationValues || (requireTarget? src value).isSome

def declaratorVariable? (declarator : Tree) : Option Variable := do
  let name ← identifierText? src (declarator.child? "name")
  if (declarator.child? "value").any (isDeclarationValue src) then none
  else some (variableOf src name declarator)

def bindings (p : Place) : List Variable :=
  let t := p.tree
  if t.isOf ["field_definition", "public_field_definition", "property_signature"] then
    (((t.fieldText? src "property").or (t.fieldText? src "name")).map fun name =>
      variableOf src name t).toList
  else (t.namedChildren.filter (·.kind == "variable_declarator")).filterMap
    (declaratorVariable? src)

def callee (p : Place) : Option String :=
  let target := p.tree.child? (if p.kind == "new_expression" then "constructor" else "function")
  (target.map fun t => squash (t.text src)).filter (!·.isEmpty)

/-- A function bound by a declarator is described where the declaration stands, and an exported
declaration where the export stands. -/
def docAnchor (p : Place) : Place :=
  let declaration :=
    if p.tree.isOf ["arrow_function", "function_expression", "function", "class"] then
      ((p.parent?.filter (·.kind == "variable_declarator")).bind Place.parent?).getD p
    else p
  (exported? declaration).getD declaration

def grammar (language : Language) : Grammar where
  language
  role
  function
  classLike
  imports
  bindings
  callee
  docAnchor

end CodeSurvey.Ecma
