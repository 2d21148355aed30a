import CodeSurvey.Decimal.Dyadic

/-! Numbers with a fixed count of decimal places. -/
namespace CodeSurvey.Decimal

/-- Writes `n / 10 ^ places`. -/
def placed (places n : Nat) : String :=
  let ds := digits n
  let ds := List.replicate (places + 1 - ds.length) '0' ++ ds
  let whole := ds.take (ds.length - places)
  let part := ds.drop (ds.length - places)
  String.ofList (if part.isEmpty then whole else whole ++ '.' :: part)

/-- The exact value rounded to so many places, a half to the even neighbour. The sign of a number
below zero stays when nothing else of it does. -/
def fixed (places : Nat) (x : Float) : String :=
  match Reading.ofFloat x with
  | .notANumber => "NaN"
  | .infinite negative => if negative then "-inf" else "inf"
  | .finite d =>
    (if d.negative then "-" else "") ++ placed places (roundDiv (d.num * Nat.pow 10 places) d.den)

end CodeSurvey.Decimal
