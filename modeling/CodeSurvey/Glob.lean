/-! Globs. They are matched byte by byte, and a star crosses slashes. -/
namespace CodeSurvey.Glob

inductive Token where
  | literal (c : Char)
  /-- One byte. -/
  | any
  /-- Any number of bytes. -/
  | anyNumber
  /-- Any directories, or none, at the start. -/
  | leadingDirs
  /-- All that lies below a directory. -/
  | inside
  /-- A slash, with or without directories behind it. -/
  | dirsBetween
  | oneOf (negated : Bool) (ranges : List (Char × Char))
  /-- One of some branches; without branches it stands for nothing. -/
  | alternates (branches : List (List Token))
  deriving Inhabited

/-- The places of a text that have been reached: one before each byte, and one at the end. -/
abbrev Marks := List Bool

def Marks.union (a b : Marks) : Marks := List.zipWith (· || ·) a b

/-- Every place from the first one reached. -/
def Marks.spread : Bool → Marks → Marks
  | _, [] => []
  | reached, m :: ms => (reached || m) :: Marks.spread (reached || m) ms

/-- The places one byte on, where the byte passes a test. -/
def Marks.onward (test : UInt8 → Bool) (text : List UInt8) (marks : Marks) : Marks :=
  false :: List.zipWith (fun m b => m && test b) marks text

def slash : UInt8 := 47

/-- The places behind every slash that lies ahead. -/
def Marks.pastSlashes (text : List UInt8) (marks : Marks) : Marks :=
  (marks.spread false).onward (· == slash) text

def bytesOf (c : Char) : List UInt8 := String.utf8EncodeChar c

/-- A range of characters, as ranges of bytes: of a character of many bytes each one stands for
itself, and the range runs from the last byte of the first character to the first byte of the
last one. -/
def byteRanges (r : Char × Char) : List (UInt8 × UInt8) :=
  let single (bs : List UInt8) := bs.map fun b => (b, b)
  if r.1 == r.2 then single (bytesOf r.1)
  else
    let low := bytesOf r.1
    let high := bytesOf r.2
    single low.dropLast ++ (low.getLastD 0, high.headD 0) :: single (high.drop 1)

def inRanges (ranges : List (Char × Char)) (b : UInt8) : Bool :=
  (ranges.flatMap byteRanges).any fun r => r.1 ≤ b && b ≤ r.2

mutual

/-- The places that a token leads to. -/
def Token.reach (text : List UInt8) : Token → Marks → Marks
  | .literal c, m => (bytesOf c).foldl (fun m b => m.onward (· == b) text) m
  | .any, m => m.onward (fun _ => true) text
  | .anyNumber, m => m.spread false
  | .leadingDirs, m => m.union (m.pastSlashes text)
  | .inside, m => (m.onward (· == slash) text).spread false
  | .dirsBetween, m =>
    let below := m.onward (· == slash) text
    below.union (below.pastSlashes text)
  | .oneOf negated ranges, m => m.onward (fun b => inRanges ranges b != negated) text
  | .alternates [], m => m
  | .alternates branches, m => reachAny text branches m

/-- The places that some tokens lead to, one after the other. -/
def reachAll (text : List UInt8) : List Token → Marks → Marks
  | [], m => m
  | t :: ts, m => reachAll text ts (t.reach text m)

/-- The places that one of some branches leads to. -/
def reachAny (text : List UInt8) : List (List Token) → Marks → Marks
  | [], m => m.map fun _ => false
  | ts :: branches, m => (reachAll text ts m).union (reachAny text branches m)

end

/-- Whether tokens lead from the start of a text to its end. -/
def covers (ts : List Token) (text : List UInt8) : Bool :=
  (reachAll text ts (true :: text.map fun _ => false)).getLast? == some true

end CodeSurvey.Glob
