import CodeSurvey.Tree

/-! The tour of a tree: every node is entered before its children and left after them. -/
namespace CodeSurvey

inductive Visit where
  | enter (p : Place)
  | leave (p : Place)

mutual

/-- The tour of a tree whose place among its surroundings is given. -/
def tour (place : Tree → Place) : Tree → List Visit
  | .node l cs =>
    let p := place (.node l cs)
    .enter p :: (tourOfAll p [] cs ++ [.leave p])

/-- The tours of some children, one after another. -/
def tourOfAll (parent : Place) (before : List Tree) : List Tree → List Visit
  | [] => []
  | t :: ts => tour (.child parent before) t ++ tourOfAll parent (t :: before) ts

end

end CodeSurvey
