import CodeSurvey.Json

/-! Reading values out of JSON. -/
namespace CodeSurvey.Json

def asBool? : Json → Option Bool
  | bool b => some b
  | _ => none

def asStr? : Json → Option String
  | str s => some s
  | _ => none

/-- A natural number below a bound. -/
def asNatBelow? (bound : Nat) : Json → Option Nat
  | int (.ofNat n) => if n < bound then some n else none
  | _ => none

def asWord? : Json → Option Nat := asNatBelow? (Nat.pow 2 64)

def asUInt32? (j : Json) : Option UInt32 := (j.asNatBelow? (Nat.pow 2 32)).map Nat.toUInt32

def asList? (read : Json → Option α) : Json → Option (List α)
  | arr items => items.mapM read
  | _ => none

def asStrs? : Json → Option (List String) := asList? asStr?

/-- The members of a record, which may be given by name, or by position as an array. -/
def asRecord? (names : List String) : Json → Option (List (String × Json))
  | obj members => some members
  | arr items => if items.length ≤ names.length then some (names.zip items) else none
  | _ => none

/-- A member that has to be there. -/
def required (members : List (String × Json)) (name : String) (read : Json → Option α) :
    Option α := do
  read (← members.lookup name)

/-- A member that may be absent or `null`. -/
def possible (members : List (String × Json)) (name : String) (read : Json → Option α) :
    Option (Option α) :=
  match members.lookup name with
  | none | some null => some none
  | some j => (read j).map some

end CodeSurvey.Json
