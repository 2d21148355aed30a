/-! What can be asked for on the command line. -/
namespace CodeSurvey

/-- How files are to be analyzed. What is given here goes before the configuration file. -/
structure AnalyzeOptions where
  config : Option String := none
  format : Option String := none
  /-- The file for the report. -/
  output : Option String := none
  parallelism : Option Nat := none
  languages : List String := []
  excludes : List String := []
  maxFileSize : Option Nat := none
  noOutline : Bool := false
  noSymbols : Bool := false
  followLinks : Bool := false
  deriving DecidableEq, Repr

inductive Command where
  | analyze (path : String) (options : AnalyzeOptions)
  | languages (asJson : Bool)
  deriving DecidableEq, Repr

/-- A command, and how much it is to log. -/
structure Invocation where
  verbose : Nat
  command : Command
  deriving DecidableEq, Repr

/-- Why arguments are no command, or what they ask for instead of one. -/
inductive UsageError where
  | nothingGiven
  | missingCommand
  | unknownCommand
  | unknownArgument
  | missingPath
  | missingValue
  | badNumber
  | repeated
  | unexpectedValue
  | help
  | version
  deriving DecidableEq, Repr

/-- How a command ends. -/
inductive Exit where
  | success
  /-- A report was written, but not every file has a record. -/
  | incomplete
  /-- There is no report. -/
  | refused
  deriving DecidableEq, Repr

def Exit.code : Exit → UInt32
  | success => 0
  | incomplete => 1
  | refused => 2

/-- What a command leads to: its exit, what it prints, and a file that it writes. -/
structure Reply where
  exit : Exit
  stdout : String := ""
  stderr : String := ""
  file : Option (String × String) := none
  deriving DecidableEq, Repr

end CodeSurvey
