import CodeSurvey.Walk.Finish

/-! All that the syntax tree of a file has to say. -/
namespace CodeSurvey

structure Extraction where
  moduleDocstring : Option String := none
  declarations : List Declaration := []
  imports : List Import := []
  globals : List Variable := []
  calls : List CallSite := []
  parseErrors : List ParseError := []
  outline : Option Outline := none
  tally : Option Tally := none

/-- The named nodes of a tree down to some depth. -/
def Tree.outline (src : Source) : Nat → Tree → Outline
  | 0, t => .node t.kind (t.startLine src) (t.endLine src) []
  | depth + 1, t =>
    .node t.kind (t.startLine src) (t.endLine src) (t.namedChildren.map (outline src depth))

def outlineDepth : Nat := 6

/-- A tree that is an error as a whole, or at least half of what is written in it, is worth
nothing but its faults. -/
def isFatal (src : Source) (root : Tree) (errorBytes : Nat) : Bool :=
  let written := src.significant 0 src.bytes.size
  root.isError || (0 < written && written ≤ errorBytes * 2)

def unparseable : ParseError :=
  { kind := .syntactic, message := "unparseable source", line := some 1, column := some 1 }

def extract (g : Grammar) (src : Source) (root : Tree) (withOutline : Bool) : Extraction :=
  let s := Walk.run g src root
  let outline := if withOutline then some (root.outline src outlineDepth) else none
  let errors := s.errors.toList
  if isFatal src root s.errorBytes then
    { parseErrors := if errors.isEmpty then [unparseable] else errors, outline }
  else
    let a := s.assemble
    { moduleDocstring := g.moduleDocstring src root
      declarations := a.declarations
      imports := s.imports.toList
      globals := s.globals.toList
      calls := a.calls
      parseErrors := errors
      outline
      tally := some (.ofTokens s.tokens.toList) }

end CodeSurvey
