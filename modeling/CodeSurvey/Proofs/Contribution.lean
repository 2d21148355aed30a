import CodeSurvey.Proofs.Openings
import CodeSurvey.Walk

/-! What each node of a tree adds to a survey of the file, told from its place alone. -/
namespace CodeSurvey.Walk

variable (g : Grammar) (src : Source)

/-- Where a function belongs by what is around it, and the key that its calls go by until all
classes of the file are known. -/
def attachmentAt (f : Place) (h : FunctionHead) : Attach × String :=
  match h.owner, around? g src f with
  | some owner, _ => (.owner owner, owner ++ "." ++ h.name)
  | none, some (_, .classLike c) => (.method, c.name ++ "." ++ h.name)
  | none, some (_, .impl i) => (.owner i.owner, i.owner ++ "." ++ h.name)
  | none, _ => (.topLevel, h.name)

/-- The decision that a node stands for, and whether its body lies one level deeper. -/
def branchAt? (p : Place) : Option Bool :=
  match roleOf g src p with
  | .branch nests => some nests
  | _ => none

/-- What a node and all below it do to the function directly around it. -/
def readBody : Place → FunctionFrame → FunctionFrame :=
  Place.fold fun p parts f =>
    if (opening? g src p).isSome then f
    else match branchAt? g src p with
      | some true => (parts.foldl (fun f part => part f) (f.branch true)).ascend
      | some false => parts.foldl (fun f part => part f) (f.branch false)
      | none => parts.foldl (fun f part => part f) f

/-- What some nodes and all below them do to the function directly around them. -/
def readBodies (ps : List Place) (f : FunctionFrame) : FunctionFrame :=
  ps.foldl (fun f p => readBody g src p f) f

/-- The declaration of a function. -/
def functionAt (p : Place) (h : FunctionHead) : FunctionDecl :=
  (readBodies g src p.children (openFunction g src (attachmentAt g src p h) p h)).finished

section

variable {β : Type}

/-- What the function that a node opens, if it opens one, counts for. -/
def functionAs (select : Attach → FunctionDecl → List β) (p : Place) : List β :=
  match opening? g src p with
  | some (.function h) => select (attachmentAt g src p h).1 (functionAt g src p h)
  | _ => []

end

def topLevelAt : Place → List FunctionDecl :=
  functionAs g src fun
    | .topLevel, d => [d]
    | _, _ => []

def methodAt : Place → List FunctionDecl :=
  functionAs g src fun
    | .method, d => [d]
    | _, _ => []

def detachedAt : Place → List (String × FunctionDecl) :=
  functionAs g src fun
    | .owner owner, d => [(owner, d)]
    | _, _ => []

def bindingsAt (p : Place) : List Variable :=
  match roleOf g src p with
  | .binding => g.bindings src p
  | _ => []

def fieldsAt (p : Place) : List String := (bindingsAt g src p).map Variable.name

def globalsAt (p : Place) : List Variable :=
  if (around? g src p).isSome then [] else bindingsAt g src p

/-- A class before it is given methods from outside. -/
def ownClass (p : Place) (h : ClassHead) : ClassDecl :=
  g.finishClass { openClass g src p h with
    methods := (interior g src p).flatMap (methodAt g src)
    fields := (interior g src p).flatMap (fieldsAt g src) }

def classAt (p : Place) : List ClassDecl :=
  match opening? g src p with
  | some (.classLike h) => [ownClass g src p h]
  | _ => []

def traitAt (p : Place) : List (String × String) :=
  match opening? g src p with
  | some (.impl h) => h.traitName.toList.map (h.owner, ·)
  | _ => []

def importsAt (p : Place) : List Import :=
  match roleOf g src p with
  | .imports => g.imports src p
  | _ => []

/-- The function that a node opens. -/
def functionIn? : Place × Opening → Option (Place × FunctionHead)
  | (f, .function h) => some (f, h)
  | _ => none

/-- The innermost function around a node. -/
def functionAround? (p : Place) : Option (Place × FunctionHead) :=
  (enclosing g src p).findSome? functionIn?

/-- The calls that a node stands for, when functions go by some keys. -/
def callAt (key : Place × FunctionHead → String) (p : Place) : List CallSite :=
  match roleOf g src p with
  | .call =>
    (g.callee src p).toList.map fun callee =>
      { line := p.tree.startLine src
        callee
        caller := (functionAround? g src p).map key
        argsCount := (g.arguments p.tree).1
        kwargsCount := (g.arguments p.tree).2 }
  | _ => []

/-- The key of a function as long as the classes of the file are not known. -/
def entryKey (f : Place × FunctionHead) : String := (attachmentAt g src f.1 f.2).2

end CodeSurvey.Walk
