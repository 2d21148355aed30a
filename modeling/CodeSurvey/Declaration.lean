import CodeSurvey.NameSet

/-! What a source file declares. -/
namespace CodeSurvey

/-- A parameter of a function; the default value is kept as source text. -/
structure Parameter where
  name : String
  typeName : Option String := none
  default : Option String := none
  deriving DecidableEq, Repr

/-- A function, method or closure bound to a name. Lines count from one. -/
structure FunctionDecl where
  name : String
  lineStart : Nat
  lineEnd : Nat
  parameters : List Parameter
  annotatedReturn : Option String
  isAsync : Bool
  isMethod : Bool
  decorators : NameSet
  docstring : Option String
  /-- One more than the decision points of the body. -/
  cyclomaticComplexity : UInt32
  /-- The deepest nesting of branches and loops in the body. -/
  nestingDepth : UInt32
  deriving DecidableEq, Repr

/-- A class, structure, interface, trait or enumeration. -/
structure ClassDecl where
  name : String
  lineStart : Nat
  lineEnd : Nat
  baseNames : List String
  methods : List FunctionDecl
  fields : List String
  docstring : Option String
  isAbstract : Bool
  decorators : NameSet
  deriving DecidableEq, Repr

inductive Declaration where
  | function (f : FunctionDecl)
  | classLike (c : ClassDecl)
  deriving DecidableEq, Repr

namespace Declaration

def name : Declaration → String
  | function f => f.name
  | classLike c => c.name

def kind : Declaration → String
  | function _ => "function"
  | classLike _ => "class"

def lineStart : Declaration → Nat
  | function f => f.lineStart
  | classLike c => c.lineStart

def lineEnd : Declaration → Nat
  | function f => f.lineEnd
  | classLike c => c.lineEnd

def docstring : Declaration → Option String
  | function f => f.docstring
  | classLike c => c.docstring

def asFunction? : Declaration → Option FunctionDecl
  | function f => some f
  | classLike _ => none

def asClass? : Declaration → Option ClassDecl
  | function _ => none
  | classLike c => some c

/-- The function itself, or the methods of the class. -/
def functions : Declaration → List FunctionDecl
  | function f => [f]
  | classLike c => c.methods

end Declaration

/-- Every function of some declarations, methods included. -/
def allFunctions (declarations : List Declaration) : List FunctionDecl :=
  declarations.flatMap Declaration.functions

def allClasses (declarations : List Declaration) : List ClassDecl :=
  declarations.filterMap Declaration.asClass?

/-- An import, with its module as written. -/
structure Import where
  modulePath : String
  importedName : Option String := none
  boundAs : Option String := none
  line : Nat
  isRelative : Bool
  deriving DecidableEq, Repr

inductive VariableKind where
  | assignment | annotated
  deriving DecidableEq, Repr

/-- A variable or constant bound at module level. -/
structure Variable where
  name : String
  line : Nat
  kind : VariableKind
  typeName : Option String := none
  deriving DecidableEq, Repr

/-- A call, with its callee as dotted source text. -/
structure CallSite where
  line : Nat
  callee : String
  /-- The key of the enclosing function in the symbol table. -/
  caller : Option String
  argsCount : Nat
  kwargsCount : Nat
  deriving DecidableEq, Repr

inductive ParseErrorKind where
  | syntactic | internal
  deriving DecidableEq, Repr

/-- A problem found while parsing. -/
structure ParseError where
  kind : ParseErrorKind
  message : String
  line : Option Nat := none
  column : Option Nat := none
  deriving DecidableEq, Repr

/-- The named nodes of a syntax tree down to some depth. -/
inductive Outline where
  | node (kind : String) (startLine endLine : Nat) (children : List Outline)

end CodeSurvey
