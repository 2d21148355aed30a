import CodeSurvey.Yaml.Scan

/-! The nodes of a YAML document. -/
namespace CodeSurvey.Yaml

inductive Node where
  /-- A stream without a document. -/
  | nothing
  | scalar (style : Style) (tag : Option String) (text : String)
  | sequence (items : List Node)
  | mapping (entries : List (Node × Node))
  /-- A node that may be referred to by a number. -/
  | anchored (number : Nat) (node : Node)
  | reference (number : Nat)
  deriving Inhabited

namespace Node

def empty : Node := scalar .plain none ""

/-- The node without its anchor. -/
def bare : Node → Node
  | anchored _ n => n
  | n => n

mutual

/-- The last node with a number, nodes coming before what is in them. -/
def lastNumbered? (number : Nat) : Node → Option Node
  | anchored k n => (n.lastNumbered? number).or (if k = number then some n else none)
  | sequence items => lastOfItems? number items
  | mapping entries => lastOfEntries? number entries
  | _ => none

def lastOfItems? (number : Nat) : List Node → Option Node
  | [] => none
  | n :: rest => (lastOfItems? number rest).or (n.lastNumbered? number)

def lastOfEntries? (number : Nat) : List (Node × Node) → Option Node
  | [] => none
  | (k, v) :: rest =>
    (lastOfEntries? number rest).or ((v.lastNumbered? number).or (k.lastNumbered? number))

end

/-- What a node of a document stands for: a reference for the last node with its number. -/
def resolve (document : Node) : Node → Node
  | reference number => (document.lastNumbered? number).getD nothing
  | n => n.bare

end Node

/-- What is left to read, the numbers that names stand for so far, and the handles of tags. -/
structure Reader where
  tokens : List Token
  names : List (String × Nat) := []
  handles : List (String × String) := knownHandles

namespace Reader

variable (r : Reader)

def next : Option Token := r.tokens.head?

def advance : Reader := { r with tokens := r.tokens.tail }

def isAt (ts : List Token) : Bool := r.next.any ts.contains

/-- The properties before a node: an anchor, a tag as handle and suffix, or both. -/
def properties : Reader × Option String × Option (String × String) :=
  match r.tokens with
  | .anchor a :: .tag h s :: ts | .tag h s :: .anchor a :: ts =>
    ({ r with tokens := ts }, some a, some (h, s))
  | .anchor a :: ts => ({ r with tokens := ts }, some a, none)
  | .tag h s :: ts => ({ r with tokens := ts }, none, some (h, s))
  | _ => (r, none, none)

/-- Gives a name a new number, which is the number of names so far. -/
def bind (name : String) : Reader × Nat :=
  let number := r.names.length
  ({ r with names := (name, number) :: r.names.filter (·.1 != name) }, number)

end Reader

mutual

/-- A node. In a block, block collections are allowed; `indentless` allows a sequence at the
indentation of its key. The steps bound the depth of the recursion. -/
def readNode (block indentless : Bool) : Nat → Reader → Option (Node × Reader)
  | 0, _ => none
  | steps + 1, r =>
    match r.next with
    | some (.reference name) => do
      let number ← r.names.lookup name
      return (.reference number, r.advance)
    | _ => do
      let (r, name?, tag?) := r.properties
      let tag ← match tag? with
        | some (h, s) => (resolveTag r.handles h s).map some
        | none => some none
      match name? with
      | some name =>
        let (r, number) := r.bind name
        let (n, r) ← readContent block indentless true tag steps r
        return (.anchored number n, r)
      | none => readContent block indentless tag.isSome tag steps r

/-- The content of a node, behind its properties. A node with properties may be empty, and the
exclamation mark on its own is no tag of a scalar. -/
def readContent (block indentless mayBeEmpty : Bool) (tag : Option String) :
    Nat → Reader → Option (Node × Reader)
  | 0, _ => none
  | steps + 1, r =>
    let empty := if mayBeEmpty then some (.scalar .plain tag "", r) else none
    match r.next with
    | some .blockEntry => if indentless then readIndentless steps r [] else empty
    | some (.scalar style text) => some (.scalar style (tag.filter (· != "!")) text, r.advance)
    | some .flowSequenceStart => readFlowSequence steps r.advance true []
    | some .flowMappingStart => readFlowMapping steps r.advance true []
    | some .blockSequenceStart => if block then readBlockSequence steps r.advance [] else empty
    | some .blockMappingStart => if block then readBlockMapping steps r.advance [] else empty
    | _ => empty

/-- A node, or an empty one if one of some tokens stands in its place. -/
def readUnless (stops : List Token) (block indentless : Bool) :
    Nat → Reader → Option (Node × Reader)
  | 0, _ => none
  | steps + 1, r => if r.isAt stops then some (.empty, r) else readNode block indentless steps r

def readBlockSequence : Nat → Reader → List Node → Option (Node × Reader)
  | 0, _, _ => none
  | steps + 1, r, items =>
    match r.next with
    | some .blockEntry => do
      let (n, r) ← readUnless [.blockEntry, .blockEnd] true false steps r.advance
      readBlockSequence steps r (n :: items)
    | some .blockEnd => some (.sequence items.reverse, r.advance)
    | _ => none

def readIndentless : Nat → Reader → List Node → Option (Node × Reader)
  | 0, _, _ => none
  | steps + 1, r, items =>
    match r.next with
    | some .blockEntry => do
      let (n, r) ← readUnless [.blockEntry, .key, .value, .blockEnd] true false steps r.advance
      readIndentless steps r (n :: items)
    | _ => some (.sequence items.reverse, r)

def readBlockMapping : Nat → Reader → List (Node × Node) → Option (Node × Reader)
  | 0, _, _ => none
  | steps + 1, r, entries =>
    match r.next with
    | some .key => do
      let (k, r) ← readUnless [.key, .value, .blockEnd] true true steps r.advance
      let (v, r) ←
        if r.isAt [.value] then
          readUnless [.key, .value, .blockEnd] true true steps r.advance
        else some (.empty, r)
      readBlockMapping steps r ((k, v) :: entries)
    | some .blockEnd => some (.mapping entries.reverse, r.advance)
    | _ => none

/-- A flow sequence after its bracket. A pair in it is a mapping of its own; where its key is left
out, the token that follows is passed over. -/
def readFlowSequence : Nat → Reader → (first : Bool) → List Node → Option (Node × Reader)
  | 0, _, _, _ => none
  | steps + 1, r, first, items =>
    if r.isAt [.flowSequenceEnd] then some (.sequence items.reverse, r.advance)
    else if !first && !r.isAt [.flowEntry] then none
    else
      let r := if first then r else r.advance
      match r.next with
      | some .flowSequenceEnd => some (.sequence items.reverse, r.advance)
      | some .key => do
        let r := r.advance
        let (k, r) ←
          if r.isAt [.value, .flowEntry, .flowSequenceEnd] then some (.empty, r.advance)
          else readNode false false steps r
        let (v, r) ←
          if r.isAt [.value] then
            readUnless [.flowEntry, .flowSequenceEnd] false false steps r.advance
          else some (.empty, r)
        readFlowSequence steps r false (.mapping [(k, v)] :: items)
      | _ => do
        let (n, r) ← readNode false false steps r
        readFlowSequence steps r false (n :: items)

def readFlowMapping : Nat → Reader → (first : Bool) → List (Node × Node) → Option (Node × Reader)
  | 0, _, _, _ => none
  | steps + 1, r, first, entries =>
    if r.isAt [.flowMappingEnd] then some (.mapping entries.reverse, r.advance)
    else if !first && !r.isAt [.flowEntry] then none
    else
      let r := if first then r else r.advance
      match r.next with
      | some .flowMappingEnd => some (.mapping entries.reverse, r.advance)
      | some .key => do
        let (k, r) ← readUnless [.value, .flowEntry, .flowMappingEnd] false false steps r.advance
        let (v, r) ←
          if r.isAt [.value] then
            readUnless [.flowEntry, .flowMappingEnd] false false steps r.advance
          else some (.empty, r)
        readFlowMapping steps r false ((k, v) :: entries)
      | _ => do
        let (k, r) ← readNode false false steps r
        readFlowMapping steps r false ((k, .empty) :: entries)

end

def isDirective : Token → Bool
  | .version .. | .handle .. => true
  | _ => false

/-- The one document of a stream. It may be empty only behind an explicit start, and directives
ask for one. -/
def readDocument (tokens : List Token) : Option Node := do
  let steps := 3 * tokens.length + 3
  let directives := tokens.takeWhile isDirective
  let handles ← readDirectives directives
  let (n, r) ←
    match tokens.drop directives.length with
    | [] => if directives.isEmpty then some (.nothing, { tokens := [] }) else none
    | .documentStart :: [] => some (.empty, { tokens := [] })
    | .documentStart :: ts => readUnless [.documentEnd] true false steps { tokens := ts, handles }
    | ts => if directives.isEmpty then readNode true false steps { tokens := ts } else none
  if (r.tokens.dropWhile (· == .documentEnd)).isEmpty then some n else none

/-- Reads a stream that holds at most one document. -/
def parse (text : String) : Option Node := (scan text).bind readDocument

end CodeSurvey.Yaml
