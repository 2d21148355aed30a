import CodeSurvey.Glob

/-! Reading globs. -/
namespace CodeSurvey.Glob

inductive Fault where
  | unclosedClass
  | invalidRange (low high : Char)
  | unopenedAlternates
  | unclosedAlternates
  | danglingEscape
  deriving DecidableEq, Repr

def Fault.message : Fault → String
  | unclosedClass => "unclosed character class; missing ']'"
  | invalidRange low high =>
    "invalid range; '" ++ String.singleton low ++ "' > '" ++ String.singleton high ++ "'"
  | unopenedAlternates =>
    "unopened alternate group; missing '\x7b' (maybe escape '\x7d' with '[\x7d]'?)"
  | unclosedAlternates =>
    "unclosed alternate group; missing '\x7d' (maybe escape '\x7b' with '[\x7b]'?)"
  | danglingEscape => "dangling '\\'"

/-- The branches of a group that are complete, and the tokens of the one being read, last first. -/
structure Group where
  done : List (List Token) := []
  tokens : List Token := []

/-- The open groups, innermost first; the whole glob is the outermost. -/
structure Reading where
  inner : Group := {}
  outer : List Group := []

namespace Reading

variable (r : Reading)

def push (t : Token) : Reading := { r with inner := { r.inner with tokens := t :: r.inner.tokens } }

def isNested : Bool := !r.outer.isEmpty

def openGroup : Reading := { inner := {}, outer := r.inner :: r.outer }

def nextBranch : Reading :=
  { r with inner := { done := r.inner.done ++ [r.inner.tokens.reverse] } }

/-- Whether a branch matches nothing but the empty text by having nothing in it. -/
def isVoid (ts : List Token) : Bool :=
  ts.all fun
    | .alternates [] => true
    | _ => false

def closeGroup : Except Fault Reading :=
  match r.outer with
  | [] => .error .unopenedAlternates
  | g :: outer =>
    let branches := r.nextBranch.inner.done.filter fun ts => !isVoid ts
    .ok (Reading.push { inner := g, outer } (.alternates branches))

/-- Two stars stand for directories only if they are a component of their own. `before` is the
character before them; the second part of the answer tells whether a slash after them belongs to
them. -/
def pushStars (before after : Option Char) : Reading × Bool :=
  let plain := ((r.push .anyNumber).push .anyNumber, false)
  let endsBranch := r.isNested && (after == some ',' || after == some '\x7d')
  if r.inner.tokens.isEmpty then
    if after.all (· == '/') then (r.push .leadingDirs, after.isSome) else plain
  else if before != some '/' && !(r.isNested && (before == some ',' || before == some '\x7b')) then
    plain
  else if after.isNone || endsBranch || after == some '/' then
    let token : Token :=
      match r.inner.tokens with
      | .leadingDirs :: _ => .leadingDirs
      | .inside :: _ => .inside
      | _ => if after == some '/' then .dirsBetween else .inside
    ({ r with inner := { r.inner with tokens := token :: r.inner.tokens.drop 1 } },
      after == some '/')
  else plain

end Reading

/-- The ranges of a class whose opening bracket has been read, with what follows the closing one.
The ranges so far stand last first; `inRange` tells that a dash waits for its upper end. -/
def readClass (first inRange : Bool) (ranges : List (Char × Char)) :
    List Char → Except Fault (List (Char × Char) × List Char)
  | [] => .error .unclosedClass
  | c :: cs =>
    if c == ']' && !first then
      .ok ((if inRange then ('-', '-') :: ranges else ranges).reverse, cs)
    else if c == '-' && !first && !inRange then readClass false true ranges cs
    else if inRange then
      match ranges with
      | (low, _) :: rest =>
        if c < low then .error (.invalidRange low c)
        else readClass false false ((low, c) :: rest) cs
      | [] => readClass false false [(c, c)] cs
    else readClass false false ((c, c) :: ranges) cs

/-- Reads the rest of a glob. Every step takes at least one character, so that as many steps as
characters are enough. -/
def read : Nat → Option Char → Reading → List Char → Except Fault Reading
  | 0, _, r, _ => .ok r
  | _, _, r, [] => .ok r
  | steps + 1, before, r, c :: cs =>
    match c with
    | '?' => read steps c (r.push .any) cs
    | '*' =>
      match cs with
      | '*' :: cs =>
        let (r, takesSlash) := r.pushStars before cs.head?
        if takesSlash then read steps '/' r cs.tail else read steps '*' r cs
      | _ => read steps c (r.push .anyNumber) cs
    | '[' => do
      let (negated, body) :=
        match cs with
        | '!' :: body | '^' :: body => (true, body)
        | _ => (false, cs)
      let (ranges, cs) ← readClass true false [] body
      read steps ']' (r.push (.oneOf negated ranges)) cs
    | '\x7b' => read steps c r.openGroup cs
    | '\x7d' => do read steps c (← r.closeGroup) cs
    | ',' => read steps c (if r.isNested then r.nextBranch else r.push (.literal c)) cs
    | '\\' =>
      match cs with
      | [] => .error .danglingEscape
      | d :: cs => read steps d (r.push (.literal d)) cs
    | _ => read steps c (r.push (.literal c)) cs

def parse (glob : String) : Except Fault (List Token) := do
  let cs := glob.toList
  let r ← read cs.length none {} cs
  if r.isNested then .error .unclosedAlternates else .ok r.inner.tokens.reverse

end CodeSurvey.Glob

namespace CodeSurvey

/-- A glob that has been read. -/
structure Glob where
  tokens : List Glob.Token

namespace Glob

def ofText (glob : String) : Except Fault Glob := (parse glob).map Glob.mk

def Token.isLiteral : Token → Bool
  | .literal _ => true
  | _ => false

/-- Whether the tokens are plain characters, but for one star at the start. -/
def isBare (ts : List Token) : Bool :=
  let ts := match ts with
    | .anyNumber :: rest => rest
    | _ => ts
  ts.all Token.isLiteral

/-- A glob that ends in a dot and is decided by the name or the extension of a file. -/
def wantsNameAfterDot (ts : List Token) : Bool :=
  match ts.reverse, ts with
  | .literal '.' :: _, [.anyNumber, _] | .literal '.' :: _, [.leadingDirs, .anyNumber, _] => true
  | .literal '.' :: _, .leadingDirs :: .anyNumber :: rest => !rest.all Token.isLiteral
  | .literal '.' :: _, .leadingDirs :: rest =>
    !rest.all Token.isLiteral || !rest.any fun | .literal '/' => true | _ => false
  | .literal '.' :: _, _ => !isBare ts
  | _, _ => false

/-- Whether the last step of a path leads upwards. -/
def endsUpwards (path : String) : Bool :=
  path.toList.reverse.takeWhile (· != '/') == ['.', '.']

/-- Two stars alone match everything. A path that ends upwards has neither a file name nor an
extension, so that globs decided by them do not match it. -/
def isMatch (g : Glob) (path : String) : Bool :=
  match g.tokens with
  | [.leadingDirs] => true
  | ts => !(wantsNameAfterDot ts && endsUpwards path) && covers ts path.toUTF8.data.toList

end Glob

end CodeSurvey
