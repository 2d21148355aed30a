import CodeSurvey.Declaration
import CodeSurvey.Grammar.Docs
import CodeSurvey.Language
import CodeSurvey.Metrics.Lines
import CodeSurvey.Tree

/-! What has to be known of a language to read its syntax trees. -/
namespace CodeSurvey

/-- What a node means. -/
inductive Role where
  | function
  | classLike
  /-- A block that adds methods to a type declared elsewhere. -/
  | impl
  | imports
  /-- Variables, constants or fields. -/
  | binding
  | call
  /-- A decision; `nests` tells that its body lies one level deeper. -/
  | branch (nests : Bool)
  | other
  deriving DecidableEq, Repr

/-- The signature of a function. The owner is the type of a method declared outside of it. -/
structure FunctionHead where
  name : String
  parameters : List Parameter := []
  returnType : Option String := none
  isAsync : Bool := false
  decorators : NameSet := .empty
  owner : Option String := none

structure ClassHead where
  name : String
  bases : List String := []
  isAbstract : Bool := false
  decorators : NameSet := .empty

/-- What an impl block extends, and the trait that it gives it. -/
structure ImplHead where
  owner : String
  traitName : Option String := none

/-- Arguments at a call: the ones by position, and the ones by name. -/
def countArguments (commentKinds : List String) (call : Tree) : Nat × Nat :=
  match call.child? "arguments" with
  | none => (0, 0)
  | some args =>
    if "arguments".toList.isSuffixOf args.kind.toList || args.kind == "argument_list" then
      (args.namedChildren.countP fun t => !t.isOf commentKinds, 0)
    else (1, 0)

def isLiteralKind (kind : String) : Bool :=
  ["string", "template_string", "regex"].contains kind || "_literal".toList.isSuffixOf kind.toList

theorem ClassDecl.id_isAbstract (c : ClassDecl) :
    id c = { c with isAbstract := (id c).isAbstract } := rfl

/-- The texts of some nodes, squashed. -/
def squashedTexts (src : Source) (ts : List Tree) : List String :=
  ts.map fun t => Text.squash (t.text src)

/-- A language as its syntax trees show it. A function or class without a head has no name and
belongs to what is around it. -/
structure Grammar where
  language : Language
  features : List String :=
    ["declarations", "imports", "variables", "complexity", "docstrings", "calls"]
  commentStyle : CommentStyle := .slashes
  commentKinds : List String := ["comment"]
  /-- Kinds that may stand between a declaration and its comments. -/
  docSkipKinds : List String := []
  role : Source → Place → Role
  function : Source → Place → Option FunctionHead
  classLike : Source → Place → Option ClassHead
  impl : Source → Place → Option ImplHead := fun _ _ => none
  imports : Source → Place → List Import
  bindings : Source → Place → List Variable
  callee : Source → Place → Option String
  arguments : Tree → Nat × Nat := countArguments commentKinds
  /-- Kinds read as one operand, with all they contain. -/
  isLiteral : String → Bool := isLiteralKind
  /-- The node whose place and comments describe a declaration. -/
  docAnchor : Place → Place := id
  docstring : Source → Place → Option String := fun src p =>
    leadingComments src { comments := commentKinds, skipped := docSkipKinds } (docAnchor p)
  moduleDocstring : Source → Tree → Option String := fun src root => fileHeader src commentKinds root
  /-- A last change to a class once its body has been read. It only tells whether the class is
  abstract. -/
  finishClass : ClassDecl → ClassDecl := id
  finishClass_eq (c : ClassDecl) :
    finishClass c = { c with isAbstract := (finishClass c).isAbstract } := by
      exact ClassDecl.id_isAbstract

end CodeSurvey
