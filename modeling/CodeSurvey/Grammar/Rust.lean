import CodeSurvey.Grammar
import CodeSurvey.Text.Cut

/-! The grammar of Rust. Impl blocks give methods and traits to types declared elsewhere. -/
namespace CodeSurvey.Rust

open Text (squash)

variable (src : Source)

def nestingKinds : List String :=
  ["if_expression", "for_expression", "while_expression", "loop_expression", "match_arm"]

def classKinds : List String := ["struct_item", "enum_item", "union_item", "trait_item"]

def commentKinds : List String := ["line_comment", "block_comment"]

/-- A chain of `else if` stays at its depth. -/
def role (_ : Source) (p : Place) : Role :=
  match p.kind with
  | "function_item" | "function_signature_item" => .function
  | "impl_item" => .impl
  | "use_declaration" => .imports
  | "const_item" | "static_item" | "field_declaration" | "enum_variant" => .binding
  | "call_expression" | "macro_invocation" => .call
  | "if_expression" => .branch (!p.parent?.any (·.kind == "else_clause"))
  | "binary_expression" => if p.tree.hasOperator ["&&", "||"] then .branch false else .other
  | kind =>
    if classKinds.contains kind then .classLike
    else if nestingKinds.contains kind then .branch true
    else .other

/-- The siblings directly before an item that are attributes, comments left out. -/
def attributeItems : List Tree → List Tree
  | [] => []
  | t :: before =>
    if t.kind == "attribute_item" then t :: attributeItems before
    else if t.isOf commentKinds then attributeItems before
    else []

def attributeName? (item : Tree) : Option String := do
  let marker ← item.namedChildren.find? (·.kind == "attribute")
  let path ← marker.namedChildren.head?
  return path.text src

def attributes (p : Place) : NameSet :=
  .ofList ((attributeItems p.before).filterMap (attributeName? src))

def parameter? (t : Tree) : Option Parameter :=
  match t.kind with
  | "parameter" =>
    (t.fieldText? src "pattern").map fun pattern =>
      { name := squash pattern, typeName := (t.fieldText? src "type").map squash }
  | "self_parameter" =>
    let receiver := squash (t.text src)
    some { name := "self", typeName := if receiver == "self" then none else some receiver }
  | _ => none

def function (p : Place) : Option FunctionHead :=
  (p.tree.fieldText? src "name").map fun name =>
    { name
      parameters :=
        ((p.tree.child? "parameters").map fun ps =>
          ps.namedChildren.filterMap (parameter? src)).getD []
      returnType := (p.tree.fieldText? src "return_type").map squash
      isAsync := p.tree.namedChildren.any fun c =>
        c.kind == "function_modifiers" && c.hasChild "async"
      decorators := attributes src p }

def classLike (p : Place) : Option ClassHead :=
  (p.tree.fieldText? src "name").map fun name =>
    let isTrait := p.kind == "trait_item"
    let bounds := if isTrait then ((p.tree.child? "bounds").map Tree.namedChildren).getD [] else []
    { name
      bases := squashedTexts src bounds
      isAbstract := isTrait
      decorators := attributes src p }

def stripGenerics (type : String) : String := Text.trimmed (Text.upTo "<" type)

def impl (p : Place) : Option ImplHead :=
  (p.tree.fieldText? src "type").map fun type =>
    { owner := stripGenerics type
      traitName := (p.tree.fieldText? src "trait").map stripGenerics }

def joinPath (scope segment : String) : String :=
  if scope.isEmpty then segment else scope ++ "::" ++ segment

mutual

/-- The paths that a use tree names, one a leaf, each with its new name. -/
def usePaths (scope : String) : Tree → List (String × Option String)
  | .node l cs =>
    let t := Tree.node l cs
    match l.kind with
    | "use_as_clause" =>
      ((t.fieldText? src "path").map fun path =>
        (joinPath scope path, t.fieldText? src "alias")).toList
    | "scoped_use_list" =>
      useScopedPaths (((t.fieldText? src "path").map (joinPath scope)).getD scope) cs
    | "use_list" => useItemPaths scope cs
    | _ =>
      if t.isOf commentKinds then [] else [(joinPath scope (squash (t.text src)), none)]

/-- The paths of the list in a scoped list. -/
def useScopedPaths (scope : String) : List Tree → List (String × Option String)
  | [] => []
  | t :: ts =>
    if t.label.field == some "list" then usePaths scope t else useScopedPaths scope ts

/-- The paths of the items of a list. -/
def useItemPaths (scope : String) : List Tree → List (String × Option String)
  | [] => []
  | t :: ts => (if t.named then usePaths scope t else []) ++ useItemPaths scope ts

end

def relativeRoots : List String := ["self", "super", "crate"]

/-- A path that ends in `self` names the module itself. -/
def importOf (line : Nat) (path : String) (boundAs : Option String) : Import :=
  let isRelative := relativeRoots.contains (Text.upTo "::" path)
  match Text.splitLast? "::" path with
  | some (modulePath, "self") => { modulePath, boundAs, line, isRelative }
  | some (modulePath, name) =>
    { modulePath, importedName := some name, boundAs, line, isRelative }
  | none => { modulePath := path, boundAs, line, isRelative }

def imports (p : Place) : List Import :=
  match p.tree.child? "argument" with
  | none => []
  | some argument =>
    (usePaths src "" argument).map fun (path, boundAs) =>
      importOf (p.tree.startLine src) path boundAs

/-- The fields of a variant with named fields belong to the variant. -/
def inVariant (p : Place) : Bool :=
  p.kind == "field_declaration" && (p.parent?.bind Place.parent?).any (·.kind == "enum_variant")

def bindings (p : Place) : List Variable :=
  if inVariant p then []
  else ((p.tree.fieldText? src "name").map fun name =>
    let typeName := (p.tree.fieldText? src "type").map squash
    { name
      line := p.tree.startLine src
      kind := if typeName.isSome then .annotated else .assignment
      typeName : Variable }).toList

def callee (p : Place) : Option String :=
  if p.kind == "macro_invocation" then (p.tree.fieldText? src "macro").map (· ++ "!")
  else (p.tree.fieldText? src "function").map squash

/-- Comments that document the item after them. -/
def isOuterDoc (raw : String) : Bool :=
  (Text.startsWith "///" raw && !Text.startsWith "////" raw) ||
    (Text.startsWith "/**" raw && !Text.startsWith "/**/" raw)

/-- Comments that document the module around them. -/
def isInnerDoc (raw : String) : Bool := Text.startsWith "//!" raw || Text.startsWith "/*!" raw

/-- The comments that document an item, nearest first, out of the siblings before it. Attributes may
stand between them, and a comment that documents nothing, or something else, breaks the run. -/
def outerDocs (row : Nat) : List Tree → List Tree
  | [] => []
  | t :: before =>
    if t.kind == "attribute_item" then outerDocs (t.startRow src) before
    else if t.isOf commentKinds then
      if t.endLine src < row || !isOuterDoc (t.text src) then []
      else t :: outerDocs (t.startRow src) before
    else []

def docstring (p : Place) : Option String :=
  let docs := outerDocs src (p.tree.startRow src) p.before
  docText (docs.reverse.map fun t => Text.cleanComment (t.text src))

def moduleDocstring (root : Tree) : Option String :=
  let opening := (root.children.takeWhile (·.isOf commentKinds)).map (·.text src)
  docText ((opening.filter isInnerDoc).map Text.cleanComment)

def grammar : Grammar where
  language := .rust
  commentKinds
  docSkipKinds := ["attribute_item"]
  role
  function
  classLike
  impl
  imports
  bindings
  callee
  docstring
  moduleDocstring

end CodeSurvey.Rust
