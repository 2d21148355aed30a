/-! The maintainability index. -/
namespace CodeSurvey

def radiansPerDegree : Float := 3.14159265358979323846 / 180.0

/-- Keeps a number between two bounds; what is not a number stays as it is. -/
def clamp (low high x : Float) : Float := if x < low then low else if high < x then high else x

/-- From 0 to 100, where a program without volume or code has 100. The share of comments is in
percent of the code lines. -/
def maintainabilityIndex (volume : Float) (complexity : UInt32) (codeLines : Nat)
    (commentShare : Float) : Float :=
  if volume ≤ 0 || codeLines == 0 then 100
  else
    let comments := (2.46 * (commentShare * radiansPerDegree)).sqrt.sin
    let raw := 171.0 - 5.2 * volume.log - 0.23 * complexity.toFloat - 16.2 * codeLines.toFloat.log
      + 50.0 * comments
    clamp 0 100 (raw * 100.0 / 171.0)

end CodeSurvey
