import CodeSurvey.Declaration
import CodeSurvey.Json
import CodeSurvey.Metrics.Halstead
import CodeSurvey.Metrics.Lines
import CodeSurvey.Metrics.Maintainability

/-! The metrics of a file. -/
namespace CodeSurvey

/-- A quotient, kept exact. -/
structure Ratio where
  num : Nat
  den : Nat
  deriving DecidableEq, Repr

/-- Nothing out of nothing is zero. -/
def Ratio.toFloat (r : Ratio) : Float := if r.den == 0 then 0 else r.num.toFloat / r.den.toFloat

def Ratio.percent (r : Ratio) : Float := r.toFloat * 100

structure Metrics where
  lines : LineCounts
  /-- Lines per function. -/
  functionLength : Ratio
  /-- Declarations with a docstring, out of all. -/
  documented : Ratio
  /-- Cyclomatic complexity per function. -/
  complexity : Ratio
  maxComplexity : UInt32
  functionCount : Nat
  classCount : Nat
  maxNesting : UInt32
  tally : Tally
  maintainability : Float

namespace Metrics

/-- The lines a function spans. Counts of lines are words of 64 bits. -/
def span (f : FunctionDecl) : UInt64 := (f.lineEnd - f.lineStart).toUInt64 + 1

def totalSpan (functions : List FunctionDecl) : UInt64 :=
  functions.foldr (fun f n => span f + n) 0

def totalComplexity (functions : List FunctionDecl) : UInt32 :=
  functions.foldr (fun f n => f.cyclomaticComplexity + n) 0

def greatest (ns : List UInt32) : UInt32 := ns.foldl max 0

def documentedCount (declarations : List Declaration) : Nat :=
  (allFunctions declarations).countP (·.docstring.isSome) +
    (allClasses declarations).countP (·.docstring.isSome)

def commentShare (lines : LineCounts) : Float :=
  if lines.code == 0 then 0 else lines.comment.toFloat / lines.code.toFloat * 100

/-- Without tokens there are no Halstead figures, and the maintainability index is zero. -/
def compute (declarations : List Declaration) (text : String) (style : CommentStyle)
    (tokens : Option Tally) : Metrics :=
  let lines := lineCounts style text
  let functions := allFunctions declarations
  let classCount := (allClasses declarations).length
  let tally := tokens.getD .none
  { lines
    functionLength := ⟨(totalSpan functions).toNat, functions.length⟩
    documented := ⟨documentedCount declarations, functions.length + classCount⟩
    complexity := ⟨(totalComplexity functions).toNat, functions.length⟩
    maxComplexity := greatest (functions.map FunctionDecl.cyclomaticComplexity)
    functionCount := functions.length
    classCount
    maxNesting := greatest (functions.map FunctionDecl.nestingDepth)
    tally
    maintainability :=
      if tokens.isSome then
        maintainabilityIndex tally.volume (totalComplexity functions) lines.code
          (commentShare lines)
      else 0 }

end Metrics

def Tally.toJson (t : Tally) : Json :=
  .obj
    [("distinct_operators", .nat t.distinctOperators), ("distinct_operands", .nat t.distinctOperands),
     ("total_operators", .nat t.totalOperators), ("total_operands", .nat t.totalOperands),
     ("vocabulary", .nat t.vocabulary), ("length", .nat t.length),
     ("calculated_length", .float t.calculatedLength), ("volume", .float t.volume),
     ("difficulty", .float t.difficulty), ("effort", .float t.effort), ("time", .float t.time),
     ("bugs", .float t.bugs)]

def Metrics.toJson (m : Metrics) : Json :=
  .obj
    [("lines_of_code", .nat m.lines.code), ("comment_lines", .nat m.lines.comment),
     ("blank_lines", .nat m.lines.blank), ("avg_function_length", .float m.functionLength.toFloat),
     ("docstring_coverage_pct", .float m.documented.percent),
     ("avg_cyclomatic_complexity", .float m.complexity.toFloat),
     ("max_cyclomatic_complexity", .nat m.maxComplexity.toNat),
     ("function_count", .nat m.functionCount), ("class_count", .nat m.classCount),
     ("max_nesting_depth", .nat m.maxNesting.toNat), ("halstead", m.tally.toJson),
     ("maintainability_index", .float m.maintainability)]

end CodeSurvey
