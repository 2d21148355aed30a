/-! Bytes read as text, with a mark in place of what is no text. -/
namespace CodeSurvey.Text

def replacement : Char := Char.ofNat 0xFFFD

def isContinuation (b : UInt8) : Bool := 0x80 ≤ b && b ≤ 0xBF

/-- The range of the second byte of a sequence of three or four bytes. -/
def secondRange (first : UInt8) : UInt8 × UInt8 :=
  if first == 0xE0 then (0xA0, 0xBF)
  else if first == 0xED then (0x80, 0x9F)
  else if first == 0xF0 then (0x90, 0xBF)
  else if first == 0xF4 then (0x80, 0x8F)
  else (0x80, 0xBF)

/-- How many bytes follow the first one of a sequence; none if it opens no sequence. -/
def followers? (first : UInt8) : Option Nat :=
  if first < 0x80 then some 0
  else if 0xC2 ≤ first && first ≤ 0xDF then some 1
  else if 0xE0 ≤ first && first ≤ 0xEF then some 2
  else if 0xF0 ≤ first && first ≤ 0xF4 then some 3
  else none

/-- The bytes that continue a sequence as far as they fit. -/
def fitting (first : UInt8) (count : Nat) (rest : List UInt8) : List UInt8 :=
  match rest.take count with
  | [] => []
  | b :: bs =>
    let (low, high) := secondRange first
    if low ≤ b && b ≤ high then b :: bs.takeWhile isContinuation else []

/-- The bits of the first byte that belong to the character. -/
def firstBits (first : UInt8) (count : Nat) : Nat :=
  match count with
  | 0 => first.toNat
  | 1 => first.toNat % 32
  | 2 => first.toNat % 16
  | _ => first.toNat % 8

/-- The character at the head of some bytes, and how many of the bytes after the first it takes.
A sequence that breaks off is replaced up to where it does. -/
def decodeHead (first : UInt8) (rest : List UInt8) : Char × Nat :=
  match followers? first with
  | none => (replacement, 0)
  | some count =>
    let taken := fitting first count rest
    if taken.length == count then
      (Char.ofNat (taken.foldl (fun n b => n * 64 + b.toNat % 64) (firstBits first count)), count)
    else (replacement, taken.length)

def decode : List UInt8 → List Char
  | [] => []
  | b :: bs =>
    let (c, n) := decodeHead b bs
    c :: decode (bs.drop n)
  termination_by bytes => bytes.length
  decreasing_by
    simp only [List.length_drop, List.length_cons]
    omega

/-- The text of some bytes, whatever they are. -/
def ofBytes (bytes : ByteArray) : String :=
  (String.fromUTF8? bytes).getD (String.ofList (decode bytes.data.toList))

end CodeSurvey.Text
