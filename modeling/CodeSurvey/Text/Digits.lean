/-! Numbers in digits of a base. -/
namespace CodeSurvey.Text

def digitValue (c : Char) : Option Nat :=
  if c.isDigit then some (c.toNat - 48)
  else if 'a' ≤ c && c ≤ 'z' then some (c.toNat - 87)
  else if 'A' ≤ c && c ≤ 'Z' then some (c.toNat - 55)
  else none

/-- A number of 64 bits in some base. -/
def digitsValue (base : Nat) (cs : List Char) : Option Nat := do
  guard (!cs.isEmpty)
  let n ← cs.foldlM (fun n c => do
    let d ← digitValue c
    guard (d < base)
    return n * base + d) 0
  guard (n < Nat.pow 2 64)
  return n

/-- A text without the plus sign that may stand before a number. -/
def dropPlus (cs : List Char) : List Char := if cs.head? == some '+' then cs.tail else cs

end CodeSurvey.Text
