/-! Operators and operands, and the figures computed from their numbers. -/
namespace CodeSurvey

inductive Token where
  | operator (s : String)
  | operand (s : String)
  deriving DecidableEq, Repr

def Token.operator? : Token → Option String
  | operator s => some s
  | operand _ => none

def Token.operand? : Token → Option String
  | operator _ => none
  | operand s => some s

/-- How many tokens of each sort there are, and how many different ones. -/
structure Tally where
  distinctOperators : Nat
  distinctOperands : Nat
  totalOperators : Nat
  totalOperands : Nat
  deriving DecidableEq, Repr

namespace Tally

def ofTokens (tokens : List Token) : Tally :=
  let operators := tokens.filterMap Token.operator?
  let operands := tokens.filterMap Token.operand?
  ⟨operators.eraseDups.length, operands.eraseDups.length, operators.length, operands.length⟩

def none : Tally := ⟨0, 0, 0, 0⟩

variable (t : Tally)

def vocabulary : Nat := t.distinctOperators + t.distinctOperands

def length : Nat := t.totalOperators + t.totalOperands

def timesLog2 (n : Nat) : Float := if n == 0 then 0 else n.toFloat * n.toFloat.log2

def calculatedLength : Float := timesLog2 t.distinctOperators + timesLog2 t.distinctOperands

def volume : Float :=
  if t.vocabulary == 0 then 0 else t.length.toFloat * t.vocabulary.toFloat.log2

def difficulty : Float :=
  if t.distinctOperands == 0 then 0
  else t.distinctOperators.toFloat / 2 * (t.totalOperands.toFloat / t.distinctOperands.toFloat)

def effort : Float := t.difficulty * t.volume

/-- Seconds to write the program. -/
def time : Float := t.effort / 18

/-- Faults to expect in it. -/
def bugs : Float := t.volume / 3000

end Tally

end CodeSurvey
