import CodeSurvey.Grammar
import CodeSurvey.Text.Cut
import CodeSurvey.Text.Quote

/-! The grammar of Go. Methods stand outside their type and name it as their receiver. -/
namespace CodeSurvey.Go

open Text (squash)

variable (src : Source)

def nestingKinds : List String :=
  ["if_statement", "for_statement", "expression_case", "type_case", "communication_case"]

/-- Kinds of embedded types in the body of an interface. -/
def embeddedKinds : List String :=
  ["type_elem", "constraint_elem", "qualified_type", "type_identifier"]

/-- The structure or interface that a type stands for. -/
def typeBody? (t : Tree) : Option Tree :=
  (t.child? "type").filter (·.isOf ["struct_type", "interface_type"])

def role (_ : Source) (p : Place) : Role :=
  match p.kind with
  | "function_declaration" | "method_declaration" | "method_elem" => .function
  | "type_spec" => if (typeBody? p.tree).isSome then .classLike else .other
  | "import_spec" => .imports
  | "var_spec" | "const_spec" | "field_declaration" => .binding
  | "call_expression" => .call
  | "binary_expression" => if p.tree.hasOperator ["&&", "||"] then .branch false else .other
  | kind => if nestingKinds.contains kind then .branch true else .other

/-- The type of a receiver, without pointer and type arguments. -/
def receiverType? (receiver : Tree) : Option String := do
  let param ← receiver.namedChildren.find? (·.kind == "parameter_declaration")
  let type := Text.dropLeading '*' (← param.fieldText? src "type")
  let name := Text.trimmed (Text.upTo "[" type)
  if name.isEmpty then none else some name

/-- One parameter a name; a declaration without names has one parameter that is not named. -/
def parametersOf (param : Tree) : List Parameter :=
  let type := (param.fieldText? src "type").map squash
  let named (typeName : Option String) : List Parameter :=
    match param.childrenIn "name" with
    | [] => [{ name := "_", typeName }]
    | names => names.map fun n => { name := n.text src, typeName }
  match param.kind with
  | "parameter_declaration" => named type
  | "variadic_parameter_declaration" => named (type.map ("..." ++ ·))
  | _ => []

def function (p : Place) : Option FunctionHead :=
  (p.tree.fieldText? src "name").map fun name =>
    { name
      parameters :=
        ((p.tree.child? "parameters").map fun ps =>
          ps.namedChildren.flatMap (parametersOf src)).getD []
      returnType := (p.tree.fieldText? src "result").map squash
      owner := (p.tree.child? "receiver").bind (receiverType? src) }

/-- Fields of a structure that have a type and no name. -/
def embeddedFields (struct : Tree) : List String :=
  let fields :=
    (struct.namedChildren.filter (·.kind == "field_declaration_list")).flatMap Tree.namedChildren
  let embedded := fields.filter fun f => f.kind == "field_declaration" && (f.child? "name").isNone
  embedded.filterMap fun f => (f.fieldText? src "type").map (Text.dropLeading '*')

def classLike (p : Place) : Option ClassHead := do
  let name ← p.tree.fieldText? src "name"
  let body ← typeBody? p.tree
  if body.kind == "interface_type" then
    let bases := squashedTexts src (body.namedChildren.filter (·.isOf embeddedKinds))
    return { name, bases, isAbstract := true }
  else return { name, bases := embeddedFields src body }

def imports (p : Place) : List Import :=
  match p.tree.fieldText? src "path" with
  | none => []
  | some path =>
    let modulePath := Text.unquote path
    [{ modulePath
       boundAs := p.tree.fieldText? src "name"
       line := p.tree.startLine src
       isRelative := Text.startsWith "./" modulePath || Text.startsWith "../" modulePath }]

def bindings (p : Place) : List Variable :=
  let typeName := (p.tree.fieldText? src "type").map squash
  let kind := if typeName.isSome then .annotated else .assignment
  (p.tree.childrenIn "name").map fun n =>
    { name := n.text src, line := n.startLine src, kind, typeName }

def callee (p : Place) : Option String := (p.tree.fieldText? src "function").map squash

/-- The comment of a type declared alone stands above the keyword. -/
def docAnchor (p : Place) : Place :=
  match p.parent? with
  | some parent =>
    if p.kind == "type_spec" && parent.kind == "type_declaration" &&
        parent.tree.namedChildren.length == 1 then parent
    else p
  | none => p

/-- The comments above the package clause document the package. -/
def moduleDocstring (root : Tree) : Option String := do
  let package ← (Place.root root).children.find? fun p => p.tree.named && p.kind == "package_clause"
  leadingComments src { comments := ["comment"] } package

def grammar : Grammar where
  language := .go
  role
  function
  classLike
  imports
  bindings
  callee
  docAnchor
  moduleDocstring

end CodeSurvey.Go
