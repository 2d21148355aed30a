import CodeSurvey.Language
import CodeSurvey.Signature

/-! The language of a file, from a hint, its path or its content. -/
namespace CodeSurvey

/-- A language and how sure it is. -/
structure Identification where
  language : Language
  confidence : Float

namespace Confidence

/-- For what the caller says. -/
def hinted : Float := 1.0

/-- For what a path says. -/
def named : Float := 0.5

/-- For a guess that nothing speaks for. -/
def least : Float := 0.1

end Confidence

def Identification.generic : Identification := ⟨.generic, Confidence.least⟩

/-- A hint names a language; `generic` says nothing. -/
def hintedLanguage? (hint : String) : Option Language :=
  (Language.parse? hint).filter (· != .generic)

def languageOfPath? (path : String) : Option Language :=
  ((Path.extension? path).bind Language.ofExtension?).or (Language.ofFileName? path)

/-- How many of the patterns of each language occur in a text, and how many there are. -/
def signatureCounts (text : String) : List (Language × Nat × Nat) :=
  signatures.map fun (language, patterns) =>
    (language, patterns.countP (·.occursIn text), patterns.length)

/-- The first language with two signatures in the text, else the first with one. -/
def identifyContent (text : String) : Identification :=
  let counts := signatureCounts text
  match counts.find? fun (_, found, _) => 2 ≤ found with
  | some (language, found, total) => ⟨language, max (found.toFloat / total.toFloat) Confidence.least⟩
  | none =>
    match counts.find? fun (_, found, _) => found == 1 with
    | some (language, found, total) =>
      ⟨language, min (max (found.toFloat / total.toFloat) Confidence.least) Confidence.named⟩
    | none => .generic

def identify (path : String) (content hint : Option String) : Identification :=
  match hint.bind hintedLanguage? with
  | some language => ⟨language, Confidence.hinted⟩
  | none =>
    match languageOfPath? path with
    | some language => ⟨language, Confidence.named⟩
    | none => (content.map identifyContent).getD .generic

end CodeSurvey
