import CodeSurvey.Grammar
import CodeSurvey.Metrics.Halstead

/-! What is known halfway through the tour of a tree. -/
namespace CodeSurvey.Walk

/-- Where a function goes once it is complete. -/
inductive Attach where
  | topLevel
  /-- To the class around it. -/
  | method
  /-- To a type declared somewhere in the file. -/
  | owner (name : String)
  deriving DecidableEq

/-- A function whose body is being read. -/
structure FunctionFrame where
  decl : FunctionDecl
  /-- The name by which calls in the body know their caller. -/
  qualified : String
  attach : Attach
  branches : UInt32
  depth : UInt32

inductive Frame where
  | classLike (c : ClassDecl)
  | impl (h : ImplHead)
  | function (f : FunctionFrame)

/-- What to undo when a node is left. -/
inductive Exit where
  | nothing
  | function
  | classLike
  | impl
  | branch (nested : Bool)
  | error
  deriving DecidableEq

structure State where
  /-- The declarations around the current node, innermost first. -/
  frames : List Frame := []
  /-- One entry for each node that has been entered and not left, innermost first. -/
  exits : List Exit := []
  functions : Array FunctionDecl := #[]
  classes : Array ClassDecl := #[]
  /-- Methods to be given to their types at the end. -/
  detached : Array (String × FunctionDecl) := #[]
  /-- Types and the traits that impl blocks give them. -/
  traits : Array (String × String) := #[]
  imports : Array Import := #[]
  globals : Array Variable := #[]
  calls : Array CallSite := #[]
  errors : Array ParseError := #[]
  /-- How many error nodes are around the current node. -/
  errorDepth : Nat := 0
  errorBytes : Nat := 0
  tokens : Array Token := #[]
  /-- Tokens that start before this byte have been counted. -/
  countedTo : Nat := 0

def Frame.function? : Frame → Option FunctionFrame
  | function f => some f
  | _ => none

/-- The key of the innermost function around the current node. -/
def State.caller (s : State) : Option String :=
  (s.frames.findSome? Frame.function?).map FunctionFrame.qualified

end CodeSurvey.Walk
