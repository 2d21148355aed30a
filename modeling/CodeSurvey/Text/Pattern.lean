import CodeSurvey.Text.Blank
import CodeSurvey.Text.WordChar

/-! Patterns of text, searched by their partial derivatives. -/
namespace CodeSurvey.Text

/-- Two spellings of a letter that differ in case fold to one character. The Kelvin sign and the
long s are spellings of `k` and `s`. -/
def foldCase (c : Char) : Char :=
  if c.val == 0x212A then 'k' else if c.val == 0x17F then 's' else c.toLower

inductive CharClass where
  /-- One character, in any case. -/
  | letter (c : Char)
  | oneOf (cs : List Char)
  | word
  | blank
  /-- Anything but a line feed. -/
  | inLine
  deriving DecidableEq

def CharClass.contains : CharClass → Char → Bool
  | letter c, d => foldCase d == foldCase c
  | oneOf cs, d => cs.contains d
  | word, d => isWordChar d
  | blank, d => isBlank d
  | inLine, d => d != '\n'

inductive Pattern where
  | unit
  | one (k : CharClass)
  | seq (p q : Pattern)
  | alt (p q : Pattern)
  | star (p : Pattern)
  | lineStart
  | lineEnd
  deriving DecidableEq

namespace Pattern

/-- The characters on both sides of a position. -/
structure Spot where
  before : Option Char
  after : Option Char

/-- Whether a pattern matches the empty text at a position. -/
def nullable (spot : Spot) : Pattern → Bool
  | unit | star _ => true
  | one _ => false
  | seq p q => p.nullable spot && q.nullable spot
  | alt p q => p.nullable spot || q.nullable spot
  | lineStart => spot.before.all (· == '\n')
  | lineEnd => spot.after.all (· == '\n')

def andThen : Pattern → Pattern → Pattern
  | unit, q => q
  | p, q => seq p q

/-- What may follow once the character after the position has been read. -/
def steps (spot : Spot) (c : Char) : Pattern → List Pattern
  | one k => if k.contains c then [unit] else []
  | seq p q =>
    (p.steps spot c).map (andThen · q) ++ if p.nullable spot then q.steps spot c else []
  | alt p q => p.steps spot c ++ q.steps spot c
  | star p => (p.steps spot c).map (andThen · (star p))
  | unit | lineStart | lineEnd => []

/-- Searches the rest of a text, with the states of the matches that have begun before it. -/
def searchFrom (p : Pattern) (before : Option Char) (begun : List Pattern) : List Char → Bool
  | [] => (p :: begun).any (nullable ⟨before, none⟩)
  | c :: cs =>
    let spot := ⟨before, some c⟩
    let states := p :: begun
    states.any (nullable spot) ||
      searchFrom p (some c) (states.flatMap (steps spot c)).eraseDups cs

/-- Whether some part of a text matches. -/
def occursIn (p : Pattern) (text : String) : Bool := searchFrom p none [] text.toList

/-- One pattern after another. -/
def inOrder (ps : List Pattern) : Pattern := ps.foldr andThen unit

def text (s : String) : Pattern := inOrder (s.toList.map fun c => one (.letter c))

def plus (p : Pattern) : Pattern := seq p (star p)

def optional (p : Pattern) : Pattern := alt p unit

def anyOf : List Pattern → Pattern
  | [] => unit
  | [p] => p
  | p :: ps => alt p (anyOf ps)

def choice (cs : String) : Pattern := one (.oneOf cs.toList)

/-- At least one blank. -/
def gap : Pattern := plus (one .blank)

/-- Any number of blanks. -/
def space : Pattern := star (one .blank)

/-- A word. -/
def name : Pattern := plus (one .word)

/-- Any text within a line. -/
def stretch : Pattern := star (one .inLine)

end Pattern

end CodeSurvey.Text
