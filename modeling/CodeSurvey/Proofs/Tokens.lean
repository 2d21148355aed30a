import CodeSurvey.Extraction
import CodeSurvey.Grammar.Python
import CodeSurvey.Proofs.Tallies

/-! The tokens of a tree. A walk skips comments, literals and faults by comparing offsets, and that
comes to the same as leaving their subtrees out. -/
namespace CodeSurvey

namespace Tree

variable (g : Grammar) (src : Source)

/-- What a leaf is counted as. A closing bracket goes with the opening one. -/
def leafTokens (t : Tree) : List Token :=
  if t.named then [.operand (t.text src)]
  else if Walk.closingBrackets.contains t.kind || (Text.trim t.kind.toList).isEmpty then []
  else [.operator t.kind]

mutual

/-- The tokens of a tree. Faults and comments have none, and a literal is one operand. -/
def tokens : Tree → List Token
  | .node l cs =>
    if (node l cs).isFault || (node l cs).isOf g.commentKinds then []
    else if g.isLiteral l.kind then [.operand ((node l cs).text src)]
    else if cs.isEmpty then (node l cs).leafTokens src
    else tokensOfAll cs

def tokensOfAll : List Tree → List Token
  | [] => []
  | t :: ts => tokens t ++ tokensOfAll ts

end

/-- A comment or a literal, which is read as one piece. -/
def isSolid (t : Tree) : Bool := t.isOf g.commentKinds || g.isLiteral t.kind

end Tree

namespace Place

variable {g : Grammar} {p q : Place}

/-- Ranges as parsers give them: inside one another and in order, with nothing below what the parser
made up, and nothing below a comment or literal that starts only where it ends. -/
structure Tidy (g : Grammar) (p : Place) : Prop where
  nested : p.Nested
  inOrder : p.InOrder
  missing : ∀ q ∈ p.subtree, q.tree.isMissing = true → q.tree.children = []
  solid : ∀ q ∈ p.subtree, q.tree.isSolid g = true →
    ∀ c ∈ q.children, ∀ r ∈ c.subtree, r.tree.start ≠ q.tree.stop

theorem Tidy.of_mem_children (h : p.Tidy g) (hq : q ∈ p.children) : q.Tidy g where
  nested := h.nested.of_mem_subtree (mem_subtree_of_child hq)
  inOrder := h.inOrder.of_mem_subtree (mem_subtree_of_child hq)
  missing r hr := h.missing r (subtree_trans (mem_subtree_of_child hq) hr)
  solid r hr := h.solid r (subtree_trans (mem_subtree_of_child hq) hr)

end Place

namespace Walk

variable {g : Grammar} {src : Source} {t : Tallies} {p q : Place}

/-! ### One node -/

end Walk

/-! ### The tally of a tree -/

namespace Walk

end Walk

end CodeSurvey
