import CodeSurvey.Yaml.Scalar

/-! The tags of YAML, and the directives before a document. -/
namespace CodeSurvey.Yaml

/-- The characters of a tag. Between angle brackets some indicators are among them. -/
def isTagChar (verbatim : Bool) (c : Char) : Bool :=
  isNameChar c || ";/?:@&=+$.!~*'()%".toList.contains c || (verbatim && [',', '[', ']'].contains c)

/-- The byte that is written as a percent sign and two hexadecimal digits. -/
def octet? : List Char → Option Nat
  | '%' :: a :: b :: _ => hexValue [a, b]
  | _ => none

/-- How many bytes a character has, by the first of them. -/
def octetCount? (lead : Nat) : Option Nat :=
  if lead < 0x80 then some 1
  else if lead / 32 == 6 then some 2
  else if lead / 16 == 14 then some 3
  else if lead / 8 == 30 then some 4
  else none

/-- A character written by its bytes, and how much of the text it takes. -/
def tagEscape (cs : List Char) : Option (Char × Nat) := do
  let lead ← octet? cs
  let count ← octetCount? lead
  let start := if count == 1 then lead else lead % Nat.pow 2 (7 - count)
  let n ← (List.range (count - 1)).foldlM (fun n i => do
    let o ← octet? (cs.drop (3 * (i + 1)))
    guard (o / 64 == 2)
    return n * 64 + o % 64) start
  return (Char.ofNat n, 3 * count)

/-- The characters of a tag, and how much of the text they take. -/
def tagRun (verbatim : Bool) : Nat → List Char → Option (List Char × Nat)
  | 0, _ => some ([], 0)
  | _, [] => some ([], 0)
  | steps + 1, c :: cs =>
    if !isTagChar verbatim c then some ([], 0)
    else if c == '%' then do
      let (d, n) ← tagEscape (c :: cs)
      let (run, m) ← tagRun verbatim steps ((c :: cs).drop n)
      return (d :: run, n + m)
    else do
      let (run, m) ← tagRun verbatim steps cs
      return (c :: run, m + 1)

namespace Cursor

variable (p : Cursor)

def tagText (verbatim : Bool) : Option (Cursor × String) := do
  let (run, n) ← tagRun verbatim (p.rest.takeWhile (isTagChar verbatim)).length p.rest
  return (p.skipMany n, String.ofList run)

/-- The text of a tag where it may not be empty. -/
def someTagText (verbatim : Bool) : Option (Cursor × String) := do
  let (q, text) ← p.tagText verbatim
  if q.index == p.index then none else some (q, text)

/-- A name behind an exclamation mark, and whether another one closes it. -/
def handle : Cursor × String × Bool :=
  let name := (p.skip).rest.takeWhile isNameChar
  let q := p.skipMany (name.length + 1)
  if q.head == some '!' then (q.skip, String.ofList name, true) else (q, String.ofList name, false)

/-- A tag. A tag between angle brackets stands for itself, and so does the exclamation mark on its
own: neither has a handle. -/
def tag : Option (Cursor × Token) :=
  if p.peek 1 == some '<' then do
    let (q, text) ← (p.skipMany 2).someTagText true
    if q.head == some '>' then some (q.skip, .tag "" text) else none
  else
    let (q, name, closed) := p.handle
    if closed then do
      let (q, suffix) ← q.someTagText false
      return (q, .tag ("!" ++ name ++ "!") suffix)
    else do
      let (q, more) ← q.tagText false
      let suffix := name ++ more
      return (q, if suffix.isEmpty then .tag "" "!" else .tag "!" suffix)

/-- A number of at most nine digits. -/
def number : Option (Cursor × Nat) :=
  let digits := p.rest.takeWhile Char.isDigit
  if digits.isEmpty || 9 < digits.length then none
  else some (p.skipMany digits.length, digits.foldl (fun n c => n * 10 + (c.toNat - 48)) 0)

def version : Option (Cursor × Token) := do
  let (q, major) ← (p.skipWhile isBlank).number
  if q.head != some '.' then none
  else
    let (q, minor) ← q.skip.number
    return (q, .version major minor)

def handleDirective : Option (Cursor × Token) := do
  let q := p.skipWhile isBlank
  if q.head != some '!' then none
  else
    let (q, name, closed) := q.handle
    if !(closed || name.isEmpty) || !q.atBlank then none
    else
      let (q, stem) ← (q.skipWhile isBlank).someTagText true
      if q.endsAt 0 then some (q, .handle ("!" ++ name ++ if closed then "!" else "") stem) else none

/-- A directive takes its line, in which a comment may follow. There are two of them. -/
def directive : Option (Cursor × Token) := do
  let name := p.skip.rest.takeWhile isNameChar
  let q := p.skipMany (name.length + 1)
  if !q.endsAt 0 then none
  else
    let (q, t) ←
      if name == "YAML".toList then q.version
      else if name == "TAG".toList then q.handleDirective
      else none
    let q := q.skipWhile isBlank
    let q := if q.head == some '#' then q.skipWhile (!isBreak ·) else q
    if q.rest.isEmpty || q.atBreak then some (q.skipBreak.1, t) else none

end Cursor

/-- The handles that need no directive. -/
def knownHandles : List (String × String) := [("!", "!"), ("!!", "tag:yaml.org,2002:")]

/-- The tag that a handle and a suffix stand for. -/
def resolveTag (handles : List (String × String)) (handle suffix : String) : Option String :=
  if handle.isEmpty then some suffix else (handles.lookup handle).map (· ++ suffix)

/-- The handles of a document, if its directives are sound: there is at most one version, a known
one, and no handle is given twice. -/
def readDirectives (directives : List Token) : Option (List (String × String)) := do
  let versions := directives.filterMap fun | .version major minor => some (major, minor) | _ => none
  let handles := directives.filterMap fun | .handle name stem => some (name, stem) | _ => none
  guard (versions.length ≤ 1)
  guard (versions.all fun v => v == (1, 1) || v == (1, 2))
  guard (handles.map (·.1)).Nodup
  return handles ++ knownHandles

end CodeSurvey.Yaml
