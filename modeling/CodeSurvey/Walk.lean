import CodeSurvey.Walk.Enter
import CodeSurvey.Walk.Tour

/-! The walk through a tree that gathers all that a file declares. -/
namespace CodeSurvey.Walk

variable (g : Grammar) (src : Source)

/-- The declaration of a function whose body has been read. -/
def FunctionFrame.finished (f : FunctionFrame) : FunctionDecl :=
  { f.decl with cyclomaticComplexity := 1 + f.branches }

/-- The end of a decision whose body lies one level deeper. -/
def FunctionFrame.ascend (f : FunctionFrame) : FunctionFrame :=
  { f with depth := if f.depth == 0 then 0 else f.depth - 1 }

/-- Files a complete function where it belongs. -/
def State.closeFunction (s : State) (f : FunctionFrame) : State :=
  match f.attach, s.frames with
  | .owner owner, _ => { s with detached := s.detached.push (owner, f.finished) }
  | .method, .classLike c :: rest =>
    { s with frames := .classLike { c with methods := c.methods ++ [f.finished] } :: rest }
  | _, _ => { s with functions := s.functions.push f.finished }

def leaveFunction (s : State) : State :=
  match s.frames with
  | .function f :: rest => { s with frames := rest }.closeFunction f
  | _ :: rest => { s with frames := rest }
  | [] => s

def leaveClass (s : State) : State :=
  match s.frames with
  | .classLike c :: rest => { s with frames := rest, classes := s.classes.push (g.finishClass c) }
  | _ :: rest => { s with frames := rest }
  | [] => s

def leaveBranch (s : State) : State :=
  match s.frames with
  | .function f :: rest => { s with frames := .function f.ascend :: rest }
  | _ => s

def undo (s : State) : Exit → State
  | .function => leaveFunction s
  | .classLike => leaveClass g s
  | .impl => { s with frames := s.frames.tail }
  | .branch true => leaveBranch s
  | .error => { s with errorDepth := s.errorDepth - 1 }
  | .branch false | .nothing => s

/-- Undoes what entering the innermost node has done. -/
def leave (s : State) : State :=
  match s.exits with
  | [] => s
  | exit :: exits => undo g { s with exits } exit

def step (s : State) : Visit → State
  | .enter p =>
    let (exit, s) := enter g src s p
    { s with exits := exit :: s.exits }
  | .leave _ => leave g s

def run (root : Tree) : State := (tour .root root).foldl (step g src) {}

end CodeSurvey.Walk
