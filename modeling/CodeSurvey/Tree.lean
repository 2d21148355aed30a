import CodeSurvey.Source

/-! Concrete syntax trees. -/
namespace CodeSurvey

/-- What a node says of itself. The field is the part it plays in its parent; a missing node
stands for a token that the parser supplied. -/
structure Label where
  kind : String
  start : Nat
  stop : Nat
  field : Option String
  named : Bool
  isError : Bool
  isMissing : Bool
  deriving DecidableEq, Repr, Inhabited

inductive Tree where
  | node (label : Label) (children : List Tree)
  deriving Inhabited

namespace Tree

def label : Tree → Label
  | node l _ => l

def children : Tree → List Tree
  | node _ cs => cs

variable (t : Tree)

def kind : String := t.label.kind

def start : Nat := t.label.start

def stop : Nat := t.label.stop

def named : Bool := t.label.named

def isError : Bool := t.label.isError

def isMissing : Bool := t.label.isMissing

/-- A node that the parser could not make sense of, or had to make up. -/
def isFault : Bool := t.isError || t.isMissing

def namedChildren : List Tree := t.children.filter named

/-- The children that play some part. -/
def childrenIn (field : String) : List Tree := t.children.filter (·.label.field == some field)

/-- The first child that plays some part. -/
def child? (field : String) : Option Tree := t.children.find? (·.label.field == some field)

def hasChild (kind : String) : Bool := t.children.any (·.kind == kind)

def isOf (kinds : List String) : Bool := kinds.contains t.kind

/-- Whether the operator of the node is one of some. -/
def hasOperator (ops : List String) : Bool := (t.child? "operator").any (·.isOf ops)

variable (src : Source)

def text : String := src.slice t.start t.stop

/-- The text of the child that plays some part, unless it is empty. -/
def fieldText? (field : String) : Option String :=
  ((t.child? field).map (·.text src)).filter (!·.isEmpty)

def startRow : Nat := src.row t.start

/-- The first line, counted from one. -/
def startLine : Nat := t.startRow src + 1

/-- The last line. A node that ends at the start of a line ends on the line before. -/
def endLine : Nat :=
  let row := src.row t.stop
  if src.column t.stop == 0 && t.startRow src < row then row else row + 1

end Tree

/-- A node together with its surroundings: the nodes above it, and the siblings before it, nearest
first. -/
inductive Place where
  | root (tree : Tree)
  | child (parent : Place) (before : List Tree) (tree : Tree)

namespace Place

def tree : Place → Tree
  | root t | child _ _ t => t

def parent? : Place → Option Place
  | root _ => none
  | child p _ _ => some p

/-- The siblings before the node, nearest first. -/
def before : Place → List Tree
  | root _ => []
  | child _ b _ => b

def kind (p : Place) : String := p.tree.kind

/-- The places of some children, after those already passed. -/
def childrenFrom (p : Place) (before : List Tree) : List Tree → List Place
  | [] => []
  | t :: ts => child p before t :: childrenFrom p (t :: before) ts

def children (p : Place) : List Place := p.childrenFrom [] p.tree.children

end Place

end CodeSurvey
