import CodeSurvey.Walk

/-! Putting together what a walk has gathered. -/
namespace CodeSurvey

def ClassDecl.addMethod (m : FunctionDecl) (c : ClassDecl) : ClassDecl :=
  { c with methods := c.methods ++ [m] }

def ClassDecl.addBase (name : String) (c : ClassDecl) : ClassDecl :=
  if c.baseNames.contains name then c else { c with baseNames := c.baseNames ++ [name] }

def ClassDecl.sortMethods (c : ClassDecl) : ClassDecl :=
  { c with methods := c.methods.mergeSort fun a b => decide (a.lineStart ≤ b.lineStart) }

namespace Walk

/-- Changes the first class of some name. -/
def updateClass (name : String) (change : ClassDecl → ClassDecl) :
    List ClassDecl → Option (List ClassDecl)
  | [] => none
  | c :: cs => if c.name = name then some (change c :: cs) else (updateClass name change cs).map (c :: ·)

/-- Functions, classes and calls while the detached methods are given away. -/
structure Assembly where
  functions : List FunctionDecl
  classes : List ClassDecl
  calls : List CallSite

/-- Calls from one caller become calls from another. -/
def renameCaller (old new : String) (call : CallSite) : CallSite :=
  if call.caller = some old then { call with caller := some new } else call

/-- Gives a method to the first class of its owner's name. Without such a class it is a function
of its own, and calls from it go by its own name. -/
def Assembly.attach (a : Assembly) (owner : String) (method : FunctionDecl) : Assembly :=
  let method := { method with isMethod := true }
  match updateClass owner (ClassDecl.addMethod method) a.classes with
  | some classes => { a with classes }
  | none =>
    { a with
      functions := a.functions ++ [method]
      calls := a.calls.map (renameCaller (owner ++ "." ++ method.name) method.name) }

/-- Gives a trait to the first class of its owner's name, if there is one. -/
def Assembly.addTrait (a : Assembly) (owner traitName : String) : Assembly :=
  { a with classes := (updateClass owner (ClassDecl.addBase traitName) a.classes).getD a.classes }

/-- Functions before classes on one line, and both in the order of their lines. -/
def Assembly.declarations (a : Assembly) : List Declaration :=
  let all := a.functions.map .function ++ (a.classes.map ClassDecl.sortMethods).map .classLike
  all.mergeSort fun x y => decide (x.lineStart ≤ y.lineStart)

def State.assemble (s : State) : Assembly :=
  let a : Assembly := ⟨s.functions.toList, s.classes.toList, s.calls.toList⟩
  let a := s.detached.toList.foldl (fun a (owner, method) => a.attach owner method) a
  s.traits.toList.foldl (fun a (owner, name) => a.addTrait owner name) a

end Walk

end CodeSurvey
