/-! JSON values. -/
namespace CodeSurvey

/-- A JSON value. Whole numbers and numbers with a fraction are kept apart, and the members of an
object keep their order. -/
inductive Json where
  | null
  | bool (b : Bool)
  | int (i : Int)
  | float (x : Float)
  | str (s : String)
  | arr (items : List Json)
  | obj (members : List (String × Json))
  deriving Inhabited

namespace Json

def nat (n : Nat) : Json := int n

def strs (ss : List String) : Json := arr (ss.map str)

/-- A member that is left out when there is nothing to say. -/
def optional (name : String) (value : Option Json) : List (String × Json) :=
  (value.map (name, ·)).toList

/-- A member that is `null` when there is nothing to say. -/
def orNull (value : Option Json) : Json := value.getD null

end Json

end CodeSurvey
