import CodeSurvey.Walk.State

/-! Entering a node. -/
namespace CodeSurvey.Walk

variable (g : Grammar) (src : Source)

def maxErrors : Nat := 50

/-- The opening of a text, on one line. -/
def snippet (text : String) : String := Text.squash (String.ofList (text.toList.take 24))

def faultMessage (t : Tree) : String :=
  if t.isMissing then "missing " ++ t.kind
  else "unexpected syntax near `" ++ snippet (t.text src) ++ "`"

def faultOf (t : Tree) : ParseError :=
  { kind := .syntactic
    message := faultMessage src t
    line := some (src.row t.start + 1)
    column := some (src.column t.start + 1) }

/-- A fault inside an error says nothing new. -/
def State.reportFault (s : State) (t : Tree) : State :=
  if s.errorDepth == 0 then
    { s with
      errors := if s.errors.size < maxErrors then s.errors.push (faultOf src t) else s.errors
      errorBytes :=
        if t.isError then s.errorBytes + src.significant t.start t.stop else s.errorBytes }
  else s

def enterFault (s : State) (t : Tree) : Exit × State :=
  let s := s.reportFault src t
  if t.isError then (.error, { s with errorDepth := s.errorDepth + 1 }) else (.nothing, s)

def closingBrackets : List String := [")", "]", "\x7d"]

/-- Named leaves and literals are operands, other leaves operators. A closing bracket is counted
with the opening one, and what lies inside a comment or a literal is not counted. -/
def State.countToken (s : State) (t : Tree) : State :=
  if t.start < s.countedTo then s
  else if t.isOf g.commentKinds then { s with countedTo := t.stop }
  else if g.isLiteral t.kind then
    { s with tokens := s.tokens.push (.operand (t.text src)), countedTo := t.stop }
  else if !t.children.isEmpty then s
  else if t.named then { s with tokens := s.tokens.push (.operand (t.text src)) }
  else if closingBrackets.contains t.kind || (Text.trim t.kind.toList).isEmpty then s
  else { s with tokens := s.tokens.push (.operator t.kind) }

/-- Where a function belongs, and its key in the symbol table. A function inside another one is
told like one at top level. -/
def attachment (frames : List Frame) (head : FunctionHead) : Attach × String :=
  match head.owner, frames with
  | some owner, _ => (.owner owner, owner ++ "." ++ head.name)
  | none, .classLike c :: _ => (.method, c.name ++ "." ++ head.name)
  | none, .impl h :: _ => (.owner h.owner, h.owner ++ "." ++ head.name)
  | none, _ => (.topLevel, head.name)

def openFunction (belongs : Attach × String) (p : Place) (head : FunctionHead) : FunctionFrame :=
  let (attach, qualified) := belongs
  let lineStart := (g.docAnchor p).tree.startLine src
  { decl :=
      { name := head.name
        lineStart
        lineEnd := max (p.tree.endLine src) lineStart
        parameters := head.parameters
        annotatedReturn := head.returnType
        isAsync := head.isAsync
        isMethod := attach != .topLevel
        decorators := head.decorators
        docstring := g.docstring src p
        cyclomaticComplexity := 1
        nestingDepth := 0 }
    qualified
    attach
    branches := 0
    depth := 0 }

def openClass (p : Place) (head : ClassHead) : ClassDecl :=
  let lineStart := (g.docAnchor p).tree.startLine src
  { name := head.name
    lineStart
    lineEnd := max (p.tree.endLine src) lineStart
    baseNames := head.bases
    methods := []
    fields := []
    docstring := g.docstring src p
    isAbstract := head.isAbstract
    decorators := head.decorators }

def State.push (s : State) (f : Frame) : State := { s with frames := f :: s.frames }

def enterFunction (s : State) (p : Place) : Exit × State :=
  match g.function src p with
  | none => (.nothing, s)
  | some head =>
    (.function, s.push (.function (openFunction g src (attachment s.frames head) p head)))

def enterClass (s : State) (p : Place) : Exit × State :=
  match g.classLike src p with
  | none => (.nothing, s)
  | some head => (.classLike, s.push (.classLike (openClass g src p head)))

def enterImpl (s : State) (p : Place) : Exit × State :=
  match g.impl src p with
  | none => (.nothing, s)
  | some head =>
    let traits :=
      match head.traitName with
      | some name => s.traits.push (head.owner, name)
      | none => s.traits
    (.impl, { s with traits }.push (.impl head))

/-- Bindings outside of all declarations are variables, and those directly in a class fields. -/
def State.addBindings (s : State) (p : Place) : State :=
  match s.frames with
  | [] => { s with globals := s.globals ++ g.bindings src p }
  | .classLike c :: rest =>
    let fields := c.fields ++ (g.bindings src p).map Variable.name
    { s with frames := .classLike { c with fields } :: rest }
  | _ => s

def State.addCall (s : State) (p : Place) : State :=
  match g.callee src p with
  | none => s
  | some callee =>
    let (argsCount, kwargsCount) := g.arguments p.tree
    { s with
      calls := s.calls.push
        { line := p.tree.startLine src, callee, caller := s.caller, argsCount, kwargsCount } }

def FunctionFrame.branch (f : FunctionFrame) (nests : Bool) : FunctionFrame :=
  let f := { f with branches := f.branches + 1 }
  if nests then
    let depth := f.depth + 1
    { f with depth, decl := { f.decl with nestingDepth := max f.decl.nestingDepth depth } }
  else f

/-- A decision counts for the function directly around it. -/
def enterBranch (s : State) (nests : Bool) : Exit × State :=
  match s.frames with
  | .function f :: rest =>
    (.branch nests, { s with frames := .function (f.branch nests) :: rest })
  | _ => (.nothing, s)

def enterRole (s : State) (p : Place) : Role → Exit × State
  | .function => enterFunction g src s p
  | .classLike => enterClass g src s p
  | .impl => enterImpl g src s p
  | .imports => (.nothing, { s with imports := s.imports ++ g.imports src p })
  | .binding => (.nothing, s.addBindings g src p)
  | .call => (.nothing, s.addCall g src p)
  | .branch nests => enterBranch s nests
  | .other => (.nothing, s)

def enter (s : State) (p : Place) : Exit × State :=
  if p.tree.isFault then enterFault src s p.tree
  else
    let s := if s.errorDepth == 0 then s.countToken g src p.tree else s
    enterRole g src s p (g.role src p)

end CodeSurvey.Walk
