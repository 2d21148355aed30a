import CodeSurvey.Yaml.Token

/-! A position in a YAML text. -/
namespace CodeSurvey.Yaml

structure Cursor where
  rest : List Char
  index : Nat := 0
  line : Nat := 0
  column : Nat := 0

namespace Cursor

variable (p : Cursor)

def peek (n : Nat) : Option Char := p.rest[n]?

def head : Option Char := p.rest.head?

def atBlank : Bool := p.head.any isBlank

def atBreak : Bool := p.head.any isBreak

/-- Whether the character so many places on is blank, a line break or the end. -/
def endsAt (n : Nat) : Bool := (p.peek n).all isBlankOrBreak

/-- Whether a line of `---` or `...` starts here. -/
def atDocumentMark : Bool :=
  p.column == 0 && p.endsAt 3 && (p.rest.take 3 == ['-', '-', '-'] || p.rest.take 3 == ['.', '.', '.'])

/-- Passes one character within a line. -/
def skip : Cursor :=
  { p with rest := p.rest.tail, index := p.index + 1, column := p.column + 1 }

def skipMany (n : Nat) : Cursor :=
  { p with rest := p.rest.drop n, index := p.index + n, column := p.column + n }

/-- Passes a line break, and gives what it stands for in a text. -/
def skipBreak : Cursor × List Char :=
  match p.rest with
  | '\r' :: '\n' :: rest =>
    ({ p with rest, index := p.index + 2, line := p.line + 1, column := 0 }, ['\n'])
  | c :: rest =>
    let text := if c.val == 0x2028 || c.val == 0x2029 then [c] else ['\n']
    ({ p with rest, index := p.index + 1, line := p.line + 1, column := 0 }, text)
  | [] => (p, [])

/-- Passes characters of a line while they satisfy a test. -/
def skipWhile (test : Char → Bool) : Cursor := p.skipMany (p.rest.takeWhile test).length

end Cursor

/-- White space between two stretches of a scalar: blanks of a line, or the first line break and
those after it. -/
structure Gap where
  blanks : List Char := []
  firstBreak : List Char := []
  laterBreaks : List Char := []
  broken : Bool := false

/-- One line break is folded into a space; further ones stay. -/
def Gap.fold (g : Gap) : List Char :=
  if g.broken then
    if g.firstBreak == ['\n'] then
      if g.laterBreaks.isEmpty then [' '] else g.laterBreaks
    else g.firstBreak ++ g.laterBreaks
  else g.blanks

namespace Cursor

/-- Passes so many blanks and line breaks. In a plain scalar a tab may not stand where the
indentation of a line is due. -/
def passGap (tabLimit : Nat) : Nat → Cursor → Gap → Option (Cursor × Gap)
  | 0, p, g => some (p, g)
  | steps + 1, p, g =>
    match p.head with
    | none => some (p, g)
    | some c =>
      if isBlank c then
        if g.broken && p.column < tabLimit && c == '\t' then none
        else
          passGap tabLimit steps p.skip (if g.broken then g else { g with blanks := g.blanks ++ [c] })
      else if isBreak c then
        let (p, text) := p.skipBreak
        passGap tabLimit steps p <|
          if g.broken then { g with laterBreaks := g.laterBreaks ++ text }
          else { g with blanks := [], firstBreak := text, broken := true }
      else some (p, g)

/-- Passes all blanks and line breaks. -/
def gap (tabLimit : Nat) (p : Cursor) (g : Gap) : Option (Cursor × Gap) :=
  p.passGap tabLimit (p.rest.takeWhile isBlankOrBreak).length g

end Cursor

end CodeSurvey.Yaml
