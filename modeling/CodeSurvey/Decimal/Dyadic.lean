/-! A floating-point number as what it stands for: a whole number times a power of two. -/
namespace CodeSurvey.Decimal

/-- The number `mantissa * 2 ^ exponent`, with a sign. `narrow` tells that the next number towards
zero is at half the distance of the next one away from it. -/
structure Dyadic where
  negative : Bool
  mantissa : Nat
  exponent : Int
  narrow : Bool

inductive Reading where
  | notANumber
  | infinite (negative : Bool)
  | finite (d : Dyadic)

def Reading.ofFloat (x : Float) : Reading :=
  let bits : Nat := x.toBits.toNat
  let negative := bits / Nat.pow 2 63 == 1
  let biased : Nat := bits / Nat.pow 2 52 % Nat.pow 2 11
  let fraction := bits % Nat.pow 2 52
  if biased == 2047 then
    if fraction == 0 then .infinite negative else .notANumber
  else if biased == 0 then .finite ⟨negative, fraction, -1074, false⟩
  else .finite ⟨negative, fraction + Nat.pow 2 52, (biased : Int) - 1075, fraction == 0 && 1 < biased⟩

/-- The numerator of the absolute value. -/
def Dyadic.num (d : Dyadic) : Nat := d.mantissa * Nat.pow 2 d.exponent.toNat

/-- The denominator of the absolute value. -/
def Dyadic.den (d : Dyadic) : Nat := Nat.pow 2 (-d.exponent).toNat

/-- The whole number nearest to a quotient; a half goes to the even neighbour. -/
def roundDiv (num den : Nat) : Nat :=
  let q := num / den
  let r := num % den
  if 2 * r < den then q
  else if den < 2 * r then q + 1
  else q + q % 2

/-- The decimal digits of a number. -/
def digits (n : Nat) : List Char := Nat.toDigits 10 n

end CodeSurvey.Decimal
