import CodeSurvey.Decimal.Dyadic

/-! The shortest decimal that reads back as a given floating-point number. -/
namespace CodeSurvey.Decimal

/-- A value with the ends of a range around it, all over one denominator; `closed` tells whether
the ends belong to the range. -/
structure Interval where
  low : Nat
  value : Nat
  high : Nat
  den : Nat
  closed : Bool

/-- The numbers that round to a floating-point number, over four times its denominator. -/
def Dyadic.interval (d : Dyadic) : Interval :=
  let unit := Nat.pow 2 d.exponent.toNat
  { low := 4 * d.num - (if d.narrow then unit else 2 * unit)
    value := 4 * d.num
    high := 4 * d.num + 2 * unit
    den := 4 * d.den
    closed := d.mantissa % 2 == 0 }

/-- Whether `n * 10 ^ k` lies in an interval. -/
def Interval.contains (i : Interval) (k : Int) (n : Nat) : Bool :=
  let x := n * Nat.pow 10 k.toNat * i.den
  let scale := Nat.pow 10 (-k).toNat
  if i.closed then i.low * scale ≤ x && x ≤ i.high * scale
  else i.low * scale < x && x < i.high * scale

/-- The point of the grid of `10 ^ k` that lies in an interval, the one nearer to the value if
both of its neighbours do. -/
def Interval.onGrid? (i : Interval) (k : Int) : Option Nat :=
  let num := i.value * Nat.pow 10 (-k).toNat
  let den := i.den * Nat.pow 10 k.toNat
  let below := num / den
  match i.contains k below, i.contains k (below + 1) with
  | true, true => some (roundDiv num den)
  | true, false => some below
  | false, true => some (below + 1)
  | false, false => none

/-- The coarsest grid with a point in the interval, and that point. -/
def Interval.coarsest? (i : Interval) : Option (Nat × Int) :=
  (List.range 660).findSome? fun (j : Nat) =>
    let k : Int := 320 - j
    (i.onGrid? k).map (·, k)

/-- The digits and exponent of the shortest decimal of a positive number. -/
def Dyadic.shortest (d : Dyadic) : Nat × Int := d.interval.coarsest?.getD (d.num, 0)

end CodeSurvey.Decimal
