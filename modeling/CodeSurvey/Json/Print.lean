import CodeSurvey.Decimal.Shortest
import CodeSurvey.Json

/-! JSON as indented text. -/
namespace CodeSurvey.Json

def hexDigit (n : Nat) : Char := (Nat.toDigits 16 n).getLastD '0'

/-- A character inside a string. Only quotes, backslashes and control characters are escaped. -/
def escapeChar (c : Char) : List Char :=
  if c == '"' then ['\\', '"']
  else if c == '\\' then ['\\', '\\']
  else if c == '\n' then ['\\', 'n']
  else if c == '\r' then ['\\', 'r']
  else if c == '\t' then ['\\', 't']
  else if c.toNat == 8 then ['\\', 'b']
  else if c.toNat == 12 then ['\\', 'f']
  else if c.toNat < 32 then ['\\', 'u', '0', '0', hexDigit (c.toNat / 16), hexDigit (c.toNat % 16)]
  else [c]

def quoted (s : String) : String :=
  String.ofList ('"' :: s.toList.flatMap escapeChar ++ ['"'])

open Decimal in
/-- The shortest decimal of a number that is not negative: positional while the point stands
within sixteen digits, or at most four zeros follow it. -/
def positional (n : Nat) (k : Int) : String :=
  let ds := digits n
  let point := ds.length + k
  String.ofList <|
    if 0 ≤ k && point ≤ 16 then ds ++ List.replicate k.toNat '0' ++ ['.', '0']
    else if 0 < point && point ≤ 16 then ds.take point.toNat ++ '.' :: ds.drop point.toNat
    else if -5 < point && point ≤ 0 then
      '0' :: '.' :: List.replicate (-point).toNat '0' ++ ds
    else
      let tail := ds.drop 1
      ds.take 1 ++ (if tail.isEmpty then [] else '.' :: tail) ++ 'e' :: (toString (point - 1)).toList

/-- A number with a fraction always shows one; what is not a number is `null`. -/
def floatText (x : Float) : String :=
  match Decimal.Reading.ofFloat x with
  | .notANumber | .infinite _ => "null"
  | .finite d =>
    let (n, k) := if d.mantissa == 0 then (0, 0) else d.shortest
    (if d.negative then "-" else "") ++ positional n k

def indent (depth : Nat) : String := String.ofList (List.replicate (2 * depth) ' ')

/-- Items between brackets, each on a line of its own. -/
def bracketed (opening closing : String) (depth : Nat) (items : List String) : String :=
  if items.isEmpty then opening ++ closing
  else
    opening ++ "\n" ++ ",\n".intercalate (items.map (indent (depth + 1) ++ ·)) ++ "\n" ++
      indent depth ++ closing

mutual

/-- The text of a value that stands at some depth, indented by two spaces a level. -/
def render (depth : Nat) : Json → String
  | null => "null"
  | bool b => if b then "true" else "false"
  | int i => toString i
  | float x => floatText x
  | str s => quoted s
  | arr items => bracketed "[" "]" depth (renderItems (depth + 1) items)
  | obj members => bracketed "\x7b" "\x7d" depth (renderMembers (depth + 1) members)

def renderItems (depth : Nat) : List Json → List String
  | [] => []
  | j :: js => render depth j :: renderItems depth js

def renderMembers (depth : Nat) : List (String × Json) → List String
  | [] => []
  | (name, j) :: js => (quoted name ++ ": " ++ render depth j) :: renderMembers depth js

end

def pretty (j : Json) : String := render 0 j

end CodeSurvey.Json
