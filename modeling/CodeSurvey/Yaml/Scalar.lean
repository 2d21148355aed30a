import CodeSurvey.Yaml.Cursor

/-! The scalars of YAML. -/
namespace CodeSurvey.Yaml

def flowIndicators : List Char := [',', '[', ']', '\x7b', '\x7d']

/-- The characters of a plain scalar up to a blank or what ends it. In a flow a colon directly
before an indicator is an error. -/
def plainRun (inFlow : Bool) : List Char → Option (List Char)
  | [] => some []
  | c :: cs =>
    let next := cs.head?
    if isBlankOrBreak c then some []
    else if inFlow && c == ':' && next.any fun d => d == '?' || flowIndicators.contains d then none
    else if c == ':' && next.all isBlankOrBreak then some []
    else if inFlow && flowIndicators.contains c then some []
    else (plainRun inFlow cs).map (c :: ·)

/-- A plain scalar may go on over lines that are indented deeply enough. The last part of the
answer tells whether it ended after a line break. -/
def plainScalar (inFlow : Bool) (indent : Nat) :
    Nat → Cursor → Gap → String → Option (Cursor × String × Bool)
  | 0, p, g, text => some (p, text, g.broken)
  | steps + 1, p, g, text =>
    if p.atDocumentMark || p.head == some '#' then some (p, text, g.broken)
    else do
      let run ← plainRun inFlow p.rest
      if run.isEmpty then some (p, text, g.broken)
      else
        let text := text ++ String.ofList (g.fold ++ run)
        let p := p.skipMany run.length
        if !(p.atBlank || p.atBreak) then some (p, text, false)
        else
          let (p, g) ← p.gap indent {}
          if !inFlow && p.column < indent then some (p, text, g.broken)
          else plainScalar inFlow indent steps p g text

def hexValue (digits : List Char) : Option Nat :=
  digits.foldlM (fun n c =>
    if c.isDigit then some (n * 16 + (c.toNat - 48))
    else if 'a' ≤ c && c ≤ 'f' then some (n * 16 + (c.toNat - 87))
    else if 'A' ≤ c && c ≤ 'F' then some (n * 16 + (c.toNat - 55))
    else none) 0

/-- The character of a code of so many hexadecimal digits. -/
def codeEscape (digits : Nat) (rest : List Char) : Option (Char × Nat) := do
  let text := rest.take digits
  if text.length < digits then none
  else
    let n ← hexValue text
    if (0xD800 ≤ n && n ≤ 0xDFFF) || 0x10FFFF < n then none else some (Char.ofNat n, digits)

/-- What follows a backslash: the character it stands for, and how many more it takes. -/
def escape (c : Char) (rest : List Char) : Option (Char × Nat) :=
  match c with
  | '0' => some (Char.ofNat 0, 0)
  | 'a' => some (Char.ofNat 7, 0)
  | 'b' => some (Char.ofNat 8, 0)
  | 't' | '\t' => some ('\t', 0)
  | 'n' => some ('\n', 0)
  | 'v' => some (Char.ofNat 11, 0)
  | 'f' => some (Char.ofNat 12, 0)
  | 'r' => some ('\r', 0)
  | 'e' => some (Char.ofNat 27, 0)
  | ' ' | '"' | '/' | '\\' => some (c, 0)
  | 'N' => some (Char.ofNat 0x85, 0)
  | '_' => some (Char.ofNat 0xA0, 0)
  | 'L' => some (Char.ofNat 0x2028, 0)
  | 'P' => some (Char.ofNat 0x2029, 0)
  | 'x' => codeEscape 2 rest
  | 'u' => codeEscape 4 rest
  | 'U' => codeEscape 8 rest
  | _ => none

/-- A quoted scalar after its opening quote. Line breaks are folded, and a backslash before one
swallows it. -/
def quotedScalar (single : Bool) : Nat → Cursor → String → Option (Cursor × String)
  | 0, _, _ => none
  | steps + 1, p, text =>
    if p.atDocumentMark then none
    else match p.rest with
      | [] => none
      | c :: cs =>
        if isBlankOrBreak c then do
          let (p, g) ← p.gap 0 {}
          quotedScalar single steps p (text ++ String.ofList g.fold)
        else if single then
          if c == '\'' then
            if cs.head? == some '\'' then quotedScalar single steps (p.skipMany 2) (text.push c)
            else some (p.skip, text)
          else quotedScalar single steps p.skip (text.push c)
        else if c == '"' then some (p.skip, text)
        else if c == '\\' then
          match cs with
          | [] => none
          | d :: rest =>
            if isBreak d then do
              let (p, g) ← p.skip.skipBreak.1.gap 0 { broken := true }
              quotedScalar single steps p (text ++ String.ofList g.laterBreaks)
            else do
              let (e, extra) ← escape d rest
              quotedScalar single steps (p.skipMany (2 + extra)) (text.push e)
        else quotedScalar single steps p.skip (text.push c)

/-- How the line breaks after a block scalar are kept. -/
inductive Chomping where
  | strip | clip | keep
  deriving DecidableEq

/-- The indicators after the mark of a block scalar: chomping and indentation in any order. -/
def blockHeader (cs : List Char) : Option (Chomping × Nat × Nat) :=
  let chomping? : Char → Option Chomping
    | '+' => some .keep
    | '-' => some .strip
    | _ => none
  let width? (c : Char) : Option Nat := if c.isDigit then some (c.toNat - 48) else none
  match cs with
  | [] => some (.clip, 0, 0)
  | c :: rest =>
    match chomping? c, width? c with
    | some k, _ =>
      match rest.head?.bind width? with
      | some w => if w == 0 then none else some (k, w, 2)
      | none => some (k, 0, 1)
    | none, some w =>
      if w == 0 then none
      else match rest.head?.bind chomping? with
        | some k => some (k, w, 2)
        | none => some (.clip, w, 1)
    | none, none => some (.clip, 0, 0)

/-- Passes the indentation and the empty lines before a line of a block scalar. With no width
given, the deepest indentation passed is remembered. -/
def blockBreaks (indent : Nat) : Nat → Cursor → Nat → List Char → Option (Cursor × Nat × List Char)
  | 0, p, deepest, breaks => some (p, deepest, breaks)
  | steps + 1, p, deepest, breaks =>
    let p := p.skipMany ((p.rest.takeWhile (· == ' ')).take
      (if indent == 0 then p.rest.length else indent - p.column)).length
    let deepest := max deepest p.column
    if (indent == 0 || p.column < indent) && p.head == some '\t' then none
    else if p.atBreak then
      let (p, text) := p.skipBreak
      blockBreaks indent steps p deepest (breaks ++ text)
    else some (p, deepest, breaks)

/-- The lines of a block scalar. A literal one keeps its line breaks; a folded one joins lines
that do not start with a blank. -/
def blockLines (literal : Bool) (indent : Nat) :
    Nat → Cursor → String → (lastBreak breaks : List Char) → (leadingBlank : Bool) →
      Option (Cursor × String × List Char × List Char)
  | 0, p, text, lastBreak, breaks, _ => some (p, text, lastBreak, breaks)
  | steps + 1, p, text, lastBreak, breaks, leadingBlank => do
    if p.column != indent || p.rest.isEmpty then some (p, text, lastBreak, breaks)
    else
      let joint :=
        if !literal && lastBreak == ['\n'] && !leadingBlank && !p.atBlank then
          if breaks.isEmpty then [' '] else breaks
        else lastBreak ++ breaks
      let line := p.rest.takeWhile (!isBreak ·)
      let (next, lastBreak) := (p.skipMany line.length).skipBreak
      let (next, _, breaks) ← blockBreaks indent steps next 0 []
      blockLines literal indent steps next (text ++ String.ofList (joint ++ line)) lastBreak breaks
        p.atBlank

/-- A block scalar after its mark, inside a block of some indentation. The steps are at least as
many as the characters left. -/
def blockScalar (literal : Bool) (parent : Int) (steps : Nat) (p : Cursor) :
    Option (Cursor × String) := do
  let (chomping, width, taken) ← blockHeader p.rest
  let p := (p.skipMany taken).skipWhile isBlank
  let p := if p.head == some '#' then p.skipWhile (!isBreak ·) else p
  if !p.rest.isEmpty && !p.atBreak then none
  else
    let (p, _) := p.skipBreak
    let fixed := if width == 0 then 0 else if 0 ≤ parent then parent.toNat + width else width
    let (p, deepest, breaks) ← blockBreaks fixed steps p 0 []
    let indent := if fixed == 0 then max (max deepest (parent + 1).toNat) 1 else fixed
    let (p, text, lastBreak, breaks) ← blockLines literal indent steps p "" [] breaks false
    match chomping with
    | .strip => some (p, text)
    | .clip => some (p, text ++ String.ofList lastBreak)
    | .keep => some (p, text ++ String.ofList (lastBreak ++ breaks))

end CodeSurvey.Yaml
