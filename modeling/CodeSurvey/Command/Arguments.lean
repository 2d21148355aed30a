import CodeSurvey.Command
import CodeSurvey.Text.Digits

/-! Commands read from arguments. -/
namespace CodeSurvey.Arguments

inductive Flag where
  | verbose | help | version | noOutline | noSymbols | followLinks | json
  deriving DecidableEq

/-- What is given with a value. The path is given without a name. -/
inductive Setting where
  | path | config | format | output | parallelism | language | exclude | maxFileSize
  deriving DecidableEq

inductive Switch where
  | flag (f : Flag)
  | setting (s : Setting)

/-- The switches that are known, by a letter and by a name, and whether a path is taken. -/
structure Vocabulary where
  letters : List (Char × Switch)
  names : List (String × Switch)
  takesPath : Bool := false

namespace Vocabulary

/-- Switches that may stand anywhere. -/
def common : Vocabulary where
  letters := [('v', .flag .verbose), ('h', .flag .help)]
  names := [("verbose", .flag .verbose), ("help", .flag .help)]

/-- Before the command. -/
def general : Vocabulary where
  letters := ('V', .flag .version) :: common.letters
  names := ("version", .flag .version) :: common.names

def analyze : Vocabulary where
  letters :=
    common.letters ++
      [('c', .setting .config), ('f', .setting .format), ('o', .setting .output),
       ('j', .setting .parallelism), ('l', .setting .language), ('e', .setting .exclude)]
  names :=
    common.names ++
      [("config", .setting .config), ("format", .setting .format), ("output", .setting .output),
       ("parallelism", .setting .parallelism), ("language", .setting .language),
       ("exclude", .setting .exclude), ("max-file-size", .setting .maxFileSize),
       ("no-ast", .flag .noOutline), ("no-semantic", .flag .noSymbols),
       ("follow-links", .flag .followLinks)]
  takesPath := true

def languages : Vocabulary where
  letters := common.letters
  names := common.names ++ [("json", .flag .json)]

end Vocabulary

/-- What has been read so far. A setting is taken in with its value only when the next switch or
word comes, and may still wait for its value. -/
structure Draft where
  verbose : Nat := 0
  path : Option String := none
  options : AnalyzeOptions := {}
  json : Bool := false
  pending : Option (Setting × Option String) := none

/-- A number, with or without a plus sign. -/
def number (value : String) : Except UsageError Nat :=
  match Text.digitsValue 10 (Text.dropPlus value.toList) with
  | some n => .ok n
  | none => .error .badNumber

/-- A path is never empty. -/
def nonEmpty (value : String) : Except UsageError String :=
  if value.isEmpty then .error .missingValue else .ok value

/-- A setting that may be given once. -/
def once {α : Type} (old : Option α) (new : Except UsageError α) : Except UsageError (Option α) :=
  if old.isSome then .error .repeated else new.map some

/-- A flag that may be given once. -/
def raise (old : Bool) : Except UsageError Bool := if old then .error .repeated else .ok true

namespace Draft

variable (d : Draft)

def setFlag (f : Flag) : Except UsageError Draft := do
  let o := d.options
  match f with
  | .verbose => return { d with verbose := min 255 (d.verbose + 1) }
  | .help => throw .help
  | .version => throw .version
  | .json => return { d with json := ← raise d.json }
  | .noOutline => return { d with options := { o with noOutline := ← raise o.noOutline } }
  | .noSymbols => return { d with options := { o with noSymbols := ← raise o.noSymbols } }
  | .followLinks => return { d with options := { o with followLinks := ← raise o.followLinks } }

def setValue (s : Setting) (v : String) : Except UsageError Draft := do
  let o := d.options
  match s with
  | .path => return { d with path := ← once d.path (nonEmpty v) }
  | .config => return { d with options := { o with config := ← once o.config (nonEmpty v) } }
  | .format => return { d with options := { o with format := ← once o.format (.ok v) } }
  | .output => return { d with options := { o with output := ← once o.output (nonEmpty v) } }
  | .parallelism =>
    return { d with options := { o with parallelism := ← once o.parallelism (number v) } }
  | .language => return { d with options := { o with languages := o.languages ++ [v] } }
  | .exclude => return { d with options := { o with excludes := o.excludes ++ [v] } }
  | .maxFileSize =>
    return { d with options := { o with maxFileSize := ← once o.maxFileSize (number v) } }

/-- Takes in the pending setting, which must have its value by now. -/
def settle : Except UsageError Draft :=
  match d.pending with
  | none => .ok d
  | some (_, none) => .error .missingValue
  | some (s, some v) => { d with pending := none }.setValue s v

def addFlag (f : Flag) : Except UsageError Draft := do (← d.settle).setFlag f

def addValue (s : Setting) (v : String) : Except UsageError Draft := do (← d.settle).setValue s v

/-- Leaves a setting pending. -/
def await (s : Setting) (v : Option String) : Except UsageError Draft := do
  return { (← d.settle) with pending := some (s, v) }

/-- The setting that waits for its value. -/
def waiting? : Option Setting :=
  match d.pending with
  | some (s, none) => some s
  | _ => none

def hasPath : Bool :=
  d.path.isSome || match d.pending with
    | some (.path, _) => true
    | _ => false

end Draft

variable (v : Vocabulary)

/-- Letters after a dash. What follows the letter of a setting is its value. -/
def readLetters : List Char → Draft → Except UsageError Draft
  | [], d => .ok d
  | c :: cs, d =>
    match v.letters.lookup c with
    | none => .error .unknownArgument
    | some (.flag f) => do readLetters cs (← d.addFlag f)
    | some (.setting s) =>
      match cs with
      | [] => d.await s none
      | '=' :: value => d.addValue s (String.ofList value)
      | value => d.addValue s (String.ofList value)

/-- A name after two dashes, with its value after an equals sign or in the next argument. -/
def readName (text : List Char) (d : Draft) : Except UsageError Draft :=
  let name := text.takeWhile (· != '=')
  let value? := ((text.drop name.length).tail?).map String.ofList
  match v.names.lookup (String.ofList name), value? with
  | none, _ => .error .unknownArgument
  | some (.flag f), none => d.addFlag f
  | some (.flag _), some _ => .error .unexpectedValue
  | some (.setting s), some value => d.addValue s value
  | some (.setting s), none => d.await s none

/-- What an argument may be. -/
inductive Shape where
  /-- Two dashes alone: only words follow. -/
  | divider
  | name (text : List Char)
  | letters (cs : List Char)
  | word

def shape (arg : String) : Shape :=
  match arg.toList with
  | ['-', '-'] => .divider
  | '-' :: '-' :: text => .name text
  | '-' :: c :: cs => .letters (c :: cs)
  | _ => .word

/-- A word is the value of a setting that waits for one, or else the path. -/
def readWord (wordsOnly : Bool) (arg : String) (d : Draft) : Except UsageError Draft :=
  match if wordsOnly then none else d.waiting? with
  | some s => .ok { d with pending := some (s, some arg) }
  | none => if v.takesPath && !d.hasPath then d.await .path (some arg) else .error .unknownArgument

/-- The arguments of a command. -/
def readAll (wordsOnly : Bool) : List String → Draft → Except UsageError Draft
  | [], d => d.settle
  | arg :: rest, d =>
    match if wordsOnly then .word else shape arg with
    | .divider => readAll true rest d
    | .name text => do readAll wordsOnly rest (← readName v text d)
    | .letters cs => do readAll wordsOnly rest (← readLetters v cs d)
    | .word => do readAll wordsOnly rest (← readWord v wordsOnly arg d)

def commandNames : List String := ["analyze", "languages", "help"]

/-- Help on one command, or on all of them. -/
def helpOn (names : List String) : UsageError :=
  match names with
  | [] => .help
  | [name] => if commandNames.contains name then .help else .unknownCommand
  | _ => .unknownCommand

/-- The command with a name. The switches before it were read first; of those that count, the ones
after it go before them. -/
def readCommand (name : String) (verbose : Nat) (args : List String) :
    Except UsageError Invocation := do
  let level (d : Draft) : Nat := if d.verbose == 0 then verbose else d.verbose
  match name with
  | "analyze" =>
    let d ← readAll .analyze false args {}
    match d.path with
    | some path => return { verbose := level d, command := .analyze path d.options }
    | none => throw .missingPath
  | "languages" =>
    let d ← readAll .languages false args {}
    return { verbose := level d, command := .languages d.json }
  | _ => throw (helpOn args)

/-- All arguments, up to the command and from there on. -/
def readGeneral (wordsOnly : Bool) : List String → Draft → Except UsageError Invocation
  | [], d => .error (if d.verbose == 0 then .nothingGiven else .missingCommand)
  | arg :: rest, d =>
    match if wordsOnly then .word else shape arg with
    | .divider => readGeneral true rest d
    | .name text => do readGeneral wordsOnly rest (← readName .general text d)
    | .letters cs => do readGeneral wordsOnly rest (← readLetters .general cs d)
    | .word =>
      if !commandNames.contains arg then .error .unknownCommand
      else if wordsOnly then .error .unknownArgument
      else readCommand arg d.verbose rest

end CodeSurvey.Arguments

namespace CodeSurvey

def Invocation.ofArguments (args : List String) : Except UsageError Invocation :=
  Arguments.readGeneral false args {}

end CodeSurvey
