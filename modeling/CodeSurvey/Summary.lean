import CodeSurvey.Failure

/-! The summary of a survey. -/
namespace CodeSurvey

structure Summary where
  totalFiles : Nat
  parsedCount : Nat := 0
  failedCount : Nat := 0
  totalLines : Nat := 0
  /-- How many parsed files there are of each language. -/
  distribution : Language → Nat := fun _ => 0
  errors : List FileError := []
  cancelled : Bool := false

namespace Summary

variable (s : Summary)

def addParsed (language : Language) (lines : Nat) : Summary :=
  { s with
    parsedCount := s.parsedCount + 1
    totalLines := s.totalLines + lines
    distribution := fun l => if l = language then s.distribution l + 1 else s.distribution l }

def addFailed (e : FileError) : Summary :=
  { s with failedCount := s.failedCount + 1, errors := s.errors ++ [e] }

/-- Files with neither a record nor an error; only a cancelled survey has them. -/
def undispatched : Nat := s.totalFiles - (s.parsedCount + s.failedCount)

/-- Whether no file was skipped, failed or left out. -/
def isClean : Bool := s.failedCount == 0 && !s.cancelled

def errorsWith (reason : Reason) : List FileError := s.errors.filter (·.reason == reason)

/-- The last step: errors go by path and reason. -/
def finish (cancelled : Bool) : Summary :=
  { s with cancelled, errors := s.errors.mergeSort FileError.le }

/-- The languages of the parsed files by their tags, with their numbers. -/
def languages : List (String × Nat) :=
  ((Language.all.filter fun l => 0 < s.distribution l).map fun l =>
    (l.tag, s.distribution l)).mergeSort fun a b => decide (a.1 ≤ b.1)

def toJson : Json :=
  .obj [("total_files", .nat s.totalFiles), ("parsed_count", .nat s.parsedCount),
    ("failed_count", .nat s.failedCount), ("total_lines", .nat s.totalLines),
    ("language_distribution", .obj (s.languages.map fun (tag, n) => (tag, .nat n))),
    ("per_file_errors", .arr (s.errors.map FileError.toJson)), ("cancelled", .bool s.cancelled)]

end Summary

end CodeSurvey
