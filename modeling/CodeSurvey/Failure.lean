import CodeSurvey.Json
import CodeSurvey.Language

/-! What can go wrong, and why a file has no record. -/
namespace CodeSurvey

/-- Why a file cannot be read. -/
inductive ContentError where
  | notFound (id : String)
  | io (message : String)
  deriving DecidableEq, Repr

def ContentError.message : ContentError → String
  | notFound id => "file not found: " ++ id
  | io message => message

/-- A count of milliseconds, in seconds from the first second on. -/
def milliseconds (ms : Nat) : String :=
  if ms == 0 then "0ns"
  else if ms < 1000 then toString ms ++ "ms"
  else
    let part := (Nat.toDigits 10 (1000 + ms % 1000)).drop 1
    let part := (part.reverse.dropWhile (· == '0')).reverse
    toString (ms / 1000) ++ (if part.isEmpty then "" else "." ++ String.ofList part) ++ "s"

inductive AnalysisError where
  | unsupportedLanguage (language : Language)
  | contentUnavailable (path : String) (cause : ContentError)
  | parseTimeout (path : String) (limit : Nat)
  | invalidConfig (message : String)
  | runFault (message : String)
  | io (message : String)
  deriving DecidableEq, Repr

def AnalysisError.message : AnalysisError → String
  | unsupportedLanguage language =>
    "no parser registered for " ++ language.tag ++ " and no generic fallback available"
  | contentUnavailable path cause => "content unavailable for " ++ path ++ ": " ++ cause.message
  | parseTimeout path limit => "parse of " ++ path ++ " exceeded " ++ milliseconds limit
  | invalidConfig message => "invalid configuration: " ++ message
  | runFault message => "run fault: " ++ message
  | io message => message

/-- Why a file has no record. -/
inductive Reason where
  | excluded
  | oversized
  | languageNotRequested
  | contentUnavailable
  | unsupportedLanguage
  | timeout
  | internal
  deriving DecidableEq, Repr

namespace Reason

def all : List Reason :=
  [excluded, oversized, languageNotRequested, contentUnavailable, unsupportedLanguage, timeout,
   internal]

def tag : Reason → String
  | excluded => "excluded"
  | oversized => "oversized"
  | languageNotRequested => "language_not_requested"
  | contentUnavailable => "content_unavailable"
  | unsupportedLanguage => "unsupported_language"
  | timeout => "timeout"
  | internal => "internal"

/-- Where a reason stands in the order of reports. -/
def rank (r : Reason) : Nat := all.idxOf r

/-- Skips that the configuration asks for. -/
def isPolicySkip : Reason → Bool
  | excluded | oversized | languageNotRequested => true
  | _ => false

def ofError : AnalysisError → Reason
  | .unsupportedLanguage _ => unsupportedLanguage
  | .contentUnavailable _ _ => contentUnavailable
  | .parseTimeout _ _ => timeout
  | _ => internal

end Reason

/-- A file that was skipped or failed. -/
structure FileError where
  path : String
  reason : Reason
  message : Option String := none
  deriving DecidableEq, Repr

namespace FileError

def ofError (path : String) (e : AnalysisError) : FileError :=
  { path, reason := .ofError e, message := some e.message }

def toJson (e : FileError) : Json :=
  .obj ([("path", .str e.path), ("reason", .str e.reason.tag)] ++
    Json.optional "message" (e.message.map .str))

/-- By path, then by reason. -/
def le (a b : FileError) : Bool :=
  a.path < b.path || (a.path == b.path && a.reason.rank ≤ b.reason.rank)

end FileError

end CodeSurvey
