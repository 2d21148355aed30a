/-! Source text, addressed by bytes. -/
namespace CodeSurvey

/-- The byte offsets of the line feeds in a text that starts at some offset. -/
def lineBreaks (offset : Nat) : List Char → List Nat
  | [] => []
  | c :: cs =>
    if c = '\n' then offset :: lineBreaks (offset + c.utf8Size) cs
    else lineBreaks (offset + c.utf8Size) cs

/-- A text with its bytes and line breaks at hand. -/
structure Source where
  text : String
  bytes : ByteArray := text.toUTF8
  breaks : List Nat := lineBreaks 0 text.toList
  bytes_eq : bytes = text.toUTF8 := by rfl
  breaks_eq : breaks = lineBreaks 0 text.toList := by rfl

namespace Source

def ofText (text : String) : Source := { text }

variable (src : Source)

/-- The line of a byte, counted from zero. -/
def row (offset : Nat) : Nat := src.breaks.countP (· < offset)

/-- The bytes between the start of the line and a byte. -/
def column (offset : Nat) : Nat :=
  match src.breaks.reverse.find? (· < offset) with
  | some b => offset - (b + 1)
  | none => offset

/-- The text between two bytes. -/
def slice (start stop : Nat) : String :=
  (String.fromUTF8? (src.bytes.extract start stop)).getD ""

def isAsciiSpace (b : UInt8) : Bool := b == 9 || b == 10 || b == 12 || b == 13 || b == 32

/-- The bytes between two offsets that are not blank. -/
def significant (start stop : Nat) : Nat :=
  (src.bytes.extract start stop).data.toList.countP fun b => !isAsciiSpace b

end Source

end CodeSurvey
