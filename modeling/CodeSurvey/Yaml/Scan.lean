import CodeSurvey.Yaml.Tag

/-! From the text of a YAML stream to its tokens. -/
namespace CodeSurvey.Yaml

/-- A place where a key may have started, with the index at which its tokens belong. A key at the
indentation of a block has to be one. -/
structure PossibleKey where
  required : Bool
  token : Nat
  index : Nat
  line : Nat
  column : Nat

structure Scanner where
  cursor : Cursor
  /-- The column of the innermost block, or -1. -/
  indent : Int := -1
  indents : List Int := []
  keyAllowed : Bool := true
  /-- The possible key of each flow around the position, innermost first, and of the block. -/
  keys : List (Option PossibleKey) := [none]
  tokens : Array Token := #[]

namespace Scanner

variable (s : Scanner)

def inFlow : Bool := 1 < s.keys.length

def emit (t : Token) : Scanner := { s with tokens := s.tokens.push t }

def emitAt (i : Nat) (t : Token) : Scanner :=
  { s with tokens := s.tokens.insertIdxIfInBounds i t }

def moveTo (cursor : Cursor) : Scanner := { s with cursor }

def allowKey (keyAllowed : Bool) : Scanner := { s with keyAllowed }

/-- Forgets the possible key, which fails if it had to be one. -/
def dropKey : Option Scanner :=
  match s.keys with
  | some k :: rest => if k.required then none else some { s with keys := none :: rest }
  | _ => some s

def saveKey : Option Scanner :=
  if s.keyAllowed then do
    let s ← s.dropKey
    let key : PossibleKey :=
      { required := !s.inFlow && s.indent == s.cursor.column
        token := s.tokens.size
        index := s.cursor.index
        line := s.cursor.line
        column := s.cursor.column }
    return { s with keys := some key :: s.keys.drop 1 }
  else some s

/-- A key lies on one line and is not too long. -/
def expireKeys : Option Scanner := do
  let keys ← s.keys.mapM fun
    | none => some none
    | some k =>
      if k.line < s.cursor.line || k.index + 1024 < s.cursor.index then
        if k.required then none else some none
      else some (some k)
  return { s with keys }

/-- Opens a block at a column, if it is deeper than the one around it. -/
def openBlock (column : Nat) (t : Token) (at? : Option Nat) : Scanner :=
  if s.inFlow || column ≤ s.indent then s
  else
    let s := { s with indents := s.indent :: s.indents, indent := column }
    match at? with
    | some i => s.emitAt i t
    | none => s.emit t

/-- Closes the blocks that are deeper than a column. -/
def closeBlocks (column : Int) : Scanner :=
  if s.inFlow then s
  else
    let deeper := (s.indent :: s.indents).takeWhile (column < ·)
    let left := (s.indent :: s.indents).drop deeper.length
    { s with
      indent := left.headD (-1)
      indents := left.tail
      tokens := s.tokens ++ deeper.map fun _ => Token.blockEnd }

/-- Passes blanks, comments and line breaks. Tabs do not count as blanks where a key may start. A
mark of the byte order may open a line, and takes a column. -/
def skipGap : Nat → Scanner → Scanner
  | 0, s => s
  | steps + 1, s =>
    let tabs := s.inFlow || !s.keyAllowed
    let p := s.cursor
    let p := if p.column == 0 && p.head.any isByteOrderMark then p.skip else p
    let p := p.skipWhile fun c => c == ' ' || (tabs && c == '\t')
    let p := if p.head == some '#' then p.skipWhile (!isBreak ·) else p
    if p.atBreak then
      let s := s.moveTo p.skipBreak.1
      skipGap steps (if s.inFlow then s else s.allowKey true)
    else s.moveTo p

def documentMark (t : Token) : Option Scanner := do
  let s ← (s.closeBlocks (-1)).dropKey
  return ((s.allowKey false).moveTo (s.cursor.skipMany 3)).emit t

def directive : Option Scanner := do
  let s ← (s.closeBlocks (-1)).dropKey
  let (p, t) ← s.cursor.directive
  return ((s.allowKey false).moveTo p).emit t

def openFlow (t : Token) : Option Scanner := do
  let s ← s.saveKey
  return (({ s with keys := none :: s.keys }.allowKey true).moveTo s.cursor.skip).emit t

def closeFlow (t : Token) : Option Scanner := do
  let s ← s.dropKey
  let keys := if s.inFlow then s.keys.drop 1 else s.keys
  return (({ s with keys }.allowKey false).moveTo s.cursor.skip).emit t

def flowEntry : Option Scanner := do
  let s ← s.dropKey
  return ((s.allowKey true).moveTo s.cursor.skip).emit .flowEntry

def blockEntry : Option Scanner := do
  if !s.inFlow && !s.keyAllowed then none
  else
    let s ← (s.openBlock s.cursor.column .blockSequenceStart none).dropKey
    return ((s.allowKey true).moveTo s.cursor.skip).emit .blockEntry

def explicitKey : Option Scanner := do
  if !s.inFlow && !s.keyAllowed then none
  else
    let s ← (s.openBlock s.cursor.column .blockMappingStart none).dropKey
    return ((s.allowKey (!s.inFlow)).moveTo s.cursor.skip).emit .key

/-- A colon turns what was a possible key into a key; otherwise it follows an explicit one. -/
def colon : Option Scanner :=
  match s.keys with
  | some k :: rest =>
    let s := { s with keys := none :: rest }
    let s := (s.emitAt k.token .key).openBlock k.column .blockMappingStart (some k.token)
    some (((s.allowKey false).moveTo s.cursor.skip).emit .value)
  | _ =>
    if !s.inFlow && !s.keyAllowed then none
    else
      let s := s.openBlock s.cursor.column .blockMappingStart none
      some (((s.allowKey (!s.inFlow)).moveTo s.cursor.skip).emit .value)

/-- An anchor, or a reference to one. -/
def named (t : String → Token) : Option Scanner := do
  let s ← s.saveKey
  let p := s.cursor.skip
  let name := p.rest.takeWhile isNameChar
  let p := p.skipMany name.length
  let closes := p.endsAt 0 || p.head.any fun c => "?:,]\x7d%@`".toList.contains c
  if name.isEmpty || !closes then none
  else return ((s.allowKey false).moveTo p).emit (t (String.ofList name))

/-- A tag ends at a blank, or at a comma in a flow. -/
def tagged : Option Scanner := do
  let s ← s.saveKey
  let (p, t) ← s.cursor.tag
  if p.endsAt 0 || (s.inFlow && p.head == some ',') then
    return ((s.allowKey false).moveTo p).emit t
  else none

def blockText (steps : Nat) (style : Style) : Option Scanner := do
  let s ← s.dropKey
  let (p, text) ← blockScalar (style == .literal) s.indent steps s.cursor.skip
  return ((s.allowKey true).moveTo p).emit (.scalar style text)

def quoted (steps : Nat) (single : Bool) : Option Scanner := do
  let s ← s.saveKey
  let (p, text) ← quotedScalar single steps s.cursor.skip ""
  return ((s.allowKey false).moveTo p).emit (.scalar .quoted text)

def plain (steps : Nat) : Option Scanner := do
  let s ← s.saveKey
  let (p, text, broken) ← plainScalar s.inFlow (s.indent + 1).toNat steps s.cursor {} ""
  return ((s.allowKey broken).moveTo p).emit (.scalar .plain text)

def indicators : List Char := "-?:,[]\x7b\x7d#&*!|>'\"%@`".toList

/-- Whether a plain scalar may start with a character. -/
def startsPlain (c : Char) : Bool :=
  !(isBlankOrBreak c || indicators.contains c) ||
    (c == '-' && !(s.cursor.peek 1).any isBlank) ||
    (!s.inFlow && (c == '?' || c == ':') && !s.cursor.endsAt 1)

/-- Reads the next token, at the character given. The steps are at least as many as the characters
left. -/
def token (steps : Nat) (c : Char) : Option Scanner :=
  if c == '%' && s.cursor.column == 0 then s.directive
  else if s.cursor.atDocumentMark then
    s.documentMark (if c == '-' then .documentStart else .documentEnd)
  else if c == '[' then s.openFlow .flowSequenceStart
  else if c == '\x7b' then s.openFlow .flowMappingStart
  else if c == ']' then s.closeFlow .flowSequenceEnd
  else if c == '\x7d' then s.closeFlow .flowMappingEnd
  else if c == ',' then s.flowEntry
  else if c == '-' && s.cursor.endsAt 1 then s.blockEntry
  else if c == '?' && (s.inFlow || s.cursor.endsAt 1) then s.explicitKey
  else if c == ':' && (s.inFlow || s.cursor.endsAt 1) then s.colon
  else if c == '*' then s.named .reference
  else if c == '&' then s.named .anchor
  else if c == '!' then s.tagged
  else if c == '|' && !s.inFlow then s.blockText steps .literal
  else if c == '>' && !s.inFlow then s.blockText steps .folded
  else if c == '\'' then s.quoted steps true
  else if c == '"' then s.quoted steps false
  else if s.startsPlain c then s.plain steps
  else none

/-- Every token takes at least one character, so that a few more steps than characters are
enough. -/
def run : Nat → Scanner → Option (List Token)
  | 0, _ => none
  | steps + 1, s => do
    let s ← (skipGap steps s).expireKeys
    let s := s.closeBlocks s.cursor.column
    match s.cursor.head with
    | none =>
      let s ← (s.closeBlocks (-1)).dropKey
      return s.tokens.toList
    | some c => run steps (← s.token steps c)

end Scanner

def scan (text : String) : Option (List Token) :=
  let cs := text.toList
  if cs.all isPrintable then Scanner.run (cs.length + 3) { cursor := { rest := cs } } else none

end CodeSurvey.Yaml
