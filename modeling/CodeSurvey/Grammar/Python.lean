import CodeSurvey.Grammar
import CodeSurvey.Text.Cut
import CodeSurvey.Text.Docstring
import CodeSurvey.Text.Quote

/-! The grammar of Python. -/
namespace CodeSurvey.Python

open Text (squash)

variable (src : Source)

def nestingKinds : List String :=
  ["if_statement", "for_statement", "while_statement", "except_clause", "case_clause"]

def role (_ : Source) (p : Place) : Role :=
  match p.kind with
  | "function_definition" => .function
  | "class_definition" => .classLike
  | "import_statement" | "import_from_statement" | "future_import_statement" => .imports
  | "expression_statement" =>
    if p.tree.namedChildren.head?.any (·.kind == "assignment") then .binding else .other
  | "call" => .call
  | "elif_clause" => .branch false
  | "boolean_operator" => if p.tree.hasOperator ["and", "or"] then .branch false else .other
  | kind => if nestingKinds.contains kind then .branch true else .other

/-- The definition that carries the decorators. -/
def decorated? (p : Place) : Option Place := p.parent?.filter (·.kind == "decorated_definition")

def decorators (p : Place) : NameSet :=
  match decorated? p with
  | none => .empty
  | some d =>
    .ofList <| (d.tree.namedChildren.filter (·.kind == "decorator")).filterMap fun t =>
      Text.markerName? (t.text src)

def parameter? (t : Tree) : Option Parameter :=
  match t.kind with
  | "identifier" | "list_splat_pattern" | "dictionary_splat_pattern" => some { name := t.text src }
  | "typed_parameter" =>
    t.namedChildren.head?.map fun name =>
      { name := name.text src, typeName := (t.fieldText? src "type").map squash }
  | "default_parameter" | "typed_default_parameter" =>
    (t.fieldText? src "name").map fun name =>
      { name
        typeName := (t.fieldText? src "type").map squash
        default := (t.fieldText? src "value").map squash }
  | _ => none

def function (p : Place) : Option FunctionHead :=
  (p.tree.fieldText? src "name").map fun name =>
    { name
      parameters :=
        ((p.tree.child? "parameters").map fun ps =>
          ps.namedChildren.filterMap (parameter? src)).getD []
      returnType := (p.tree.fieldText? src "return_type").map squash
      isAsync := p.tree.hasChild "async"
      decorators := decorators src p }

def abstractBases : List String := ["ABC", "abc.ABC"]

def abstractMetaclasses : List String := ["ABCMeta", "abc.ABCMeta"]

def abstractDecorators : List String := ["abstractmethod", "abc.abstractmethod"]

def isAbstractMetaclass (arg : Tree) : Bool :=
  arg.kind == "keyword_argument" && arg.fieldText? src "name" == some "metaclass" &&
    abstractMetaclasses.contains ((arg.fieldText? src "value").getD "")

def classLike (p : Place) : Option ClassHead :=
  (p.tree.fieldText? src "name").map fun name =>
    let args := ((p.tree.child? "superclasses").map Tree.namedChildren).getD []
    let bases := squashedTexts src (args.filter fun t => !t.isOf ["keyword_argument", "comment"])
    { name
      bases
      isAbstract := args.any (isAbstractMetaclass src) || bases.any abstractBases.contains
      decorators := decorators src p }

/-- A name, and what it is bound as. -/
def renamed (t : Tree) : String × Option String :=
  if t.kind == "aliased_import" then
    ((t.fieldText? src "name").getD "", t.fieldText? src "alias")
  else (t.text src, none)

def imports (p : Place) : List Import :=
  let line := p.tree.startLine src
  match p.kind with
  | "import_statement" =>
    (p.tree.childrenIn "name").map fun t =>
      let (modulePath, boundAs) := renamed src t
      { modulePath, boundAs, line, isRelative := false }
  | "import_from_statement" | "future_import_statement" =>
    let (modulePath, isRelative) :=
      match p.tree.child? "module_name" with
      | some m => (m.text src, m.kind == "relative_import")
      | none => ("__future__", false)
    if p.tree.hasChild "wildcard_import" then
      [{ modulePath, importedName := some "*", line, isRelative }]
    else
      (p.tree.childrenIn "name").map fun t =>
        let (name, boundAs) := renamed src t
        { modulePath, importedName := some name, boundAs, line, isRelative }
  | _ => []

def bindings (p : Place) : List Variable :=
  match p.tree.namedChildren.head? with
  | none => []
  | some assignment =>
    let typeName := (assignment.fieldText? src "type").map squash
    let kind := if typeName.isSome then .annotated else .assignment
    let targets :=
      match assignment.child? "left" with
      | none => []
      | some left =>
        match left.kind with
        | "identifier" => [left]
        | "pattern_list" | "tuple_pattern" =>
          left.namedChildren.filter (·.kind == "identifier")
        | _ => []
    targets.map fun t => { name := t.text src, line := t.startLine src, kind, typeName }

def callee (p : Place) : Option String :=
  ((p.tree.child? "function").map fun f => squash (f.text src)).filter (!·.isEmpty)

def arguments (call : Tree) : Nat × Nat :=
  match call.child? "arguments" with
  | none => (0, 0)
  | some args =>
    if args.kind != "argument_list" then (1, 0)
    else
      let given := args.namedChildren.filter (·.kind != "comment")
      let byName := given.countP (·.isOf ["keyword_argument", "dictionary_splat"])
      (given.length - byName, byName)

/-- The string that opens a block, if its first statement is one. -/
def leadingString (block : Tree) : Option String := do
  let first ← block.namedChildren.find? (·.kind != "comment")
  match first.kind, first.namedChildren with
  | "expression_statement", [s] =>
    if s.kind == "string" then Text.cleanDocstring (Text.unquote (s.text src)) else none
  | _, _ => none

def finishClass (c : ClassDecl) : ClassDecl :=
  if c.methods.any fun m => m.decorators.names.any abstractDecorators.contains then
    { c with isAbstract := true }
  else c

theorem finishClass_eq (c : ClassDecl) :
    finishClass c = { c with isAbstract := (finishClass c).isAbstract } := by
  unfold finishClass
  split <;> rfl

def grammar : Grammar where
  language := .python
  commentStyle := .hash
  role
  function
  classLike
  imports
  bindings
  callee
  arguments
  docAnchor p := (decorated? p).getD p
  docstring src p := (p.tree.child? "body").bind (leadingString src)
  moduleDocstring := leadingString
  finishClass
  finishClass_eq

end CodeSurvey.Python
