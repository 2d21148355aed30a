import CodeSurvey.Grammar.Rust
import CodeSurvey.Proofs.Blanks
import Mathlib.Data.List.Chain

/-! The comments that document a node are those of the longest run of siblings that leads up to
it. -/
namespace CodeSurvey

open Text

/-- Parts of a text one under the other, without the blanks around them. -/
def joined (parts : List String) : String := trimmed ("\n".intercalate parts)

theorem docText_eq (parts : List String) :
    docText parts = if joined parts = "" then none else some (joined parts) := by
  have hlines : unlines (parts.map String.toList) = ("\n".intercalate parts).toList := by
    rw [String.toList_intercalate]
    rfl
  rw [docText, joined, trimmed, hlines]
  split
  · next h => rw [h, if_pos rfl]
  · next h => rw [if_neg (by simpa using h)]

/-- The same node, with only those siblings before it that come after the last one to be left
out. -/
def Place.after (left : Tree → Bool) : Place → Place
  | root t => root t
  | child p before t => child p (before.takeWhile fun s => !left s) t

section

variable (src : Source) (comments skipped : List String)

/-- A node stands in the documentation of what comes next: it is skipped, or a comment that no
blank line divides from it. -/
def Leads (t next : Tree) : Prop :=
  t.isOf skipped = true ∨ t.isOf comments = true ∧ next.startRow src ≤ t.endLine src

/-- The last siblings before a node, as many as lead up to it. -/
structure LongestRun (anchor : Place) (run : List Tree) : Prop where
  ends : run <:+ anchor.before.reverse
  leads : (run ++ [anchor.tree]).IsChain (Leads src comments skipped)
  longest : ∀ other, other <:+ anchor.before.reverse →
    (other ++ [anchor.tree]).IsChain (Leads src comments skipped) → other.length ≤ run.length

/-- The comments among some nodes; what is skipped is none. -/
def remarks (ts : List Tree) : List Tree :=
  ts.filter fun t => t.isOf comments && !t.isOf skipped

end

variable {src : Source} {comments skipped : List String} {anchor : Place} {t next : Tree}
  {before run other : List Tree}

/-! ### Runs of comments -/

theorem commentRun_of_leads (h : Leads src comments skipped t next) :
    commentRun src { comments, skipped } (next.startRow src) (t :: before) =
      remarks comments skipped [t] ++
        commentRun src { comments, skipped } (t.startRow src) before := by
  rw [commentRun, remarks, List.filter_singleton]
  by_cases hskip : t.isOf skipped = true
  · simp [hskip]
  · obtain ⟨hcomment, hrow⟩ := h.resolve_left hskip
    simp [hskip, hcomment, Nat.not_lt.2 hrow]

theorem commentRun_of_not_leads (h : ¬ Leads src comments skipped t next) :
    commentRun src { comments, skipped } (next.startRow src) (t :: before) = [] := by
  rw [Leads, not_or, not_and, Nat.not_le] at h
  obtain ⟨hskip, hrow⟩ := h
  rw [commentRun, if_neg hskip]
  by_cases hcomment : t.isOf comments = true
  · simp [hcomment, hrow hcomment]
  · simp [hcomment]

/-- Going back from a node, the scan meets all that leads up to it, and gathers the comments. -/
theorem exists_commentRun (src : Source) (comments skipped : List String) (next : Tree)
    (before : List Tree) :
    ∃ near, near <+: before ∧ (next :: near).IsChain (fun n t => Leads src comments skipped t n) ∧
      (∀ other, other <+: before →
        (next :: other).IsChain (fun n t => Leads src comments skipped t n) → other <+: near) ∧
      commentRun src { comments, skipped } (next.startRow src) before =
        remarks comments skipped near := by
  -- The siblings come nearest first, so the first of them is what the others lead up to.
  induction before generalizing next with
  | nil => exact ⟨[], List.prefix_rfl, List.isChain_singleton _, fun other h _ => h, rfl⟩
  | cons t before ih =>
    by_cases hleads : Leads src comments skipped t next
    · obtain ⟨near, hnear, hchain, hlongest, hrun⟩ := ih t
      refine ⟨t :: near, List.cons_prefix_cons.2 ⟨rfl, hnear⟩,
        List.isChain_cons_cons.2 ⟨hleads, hchain⟩, ?_, ?_⟩
      · intro other hother hlinked
        cases other with
        | nil => exact List.nil_prefix
        | cons o other =>
          obtain ⟨rfl, hrest⟩ := List.cons_prefix_cons.1 hother
          exact List.cons_prefix_cons.2
            ⟨rfl, hlongest other hrest (List.isChain_cons_cons.1 hlinked).2⟩
      · rw [commentRun_of_leads hleads, hrun, remarks, remarks, remarks, ← List.filter_append]
        rfl
    · refine ⟨[], List.nil_prefix, List.isChain_singleton _, ?_, commentRun_of_not_leads hleads⟩
      intro other hother hlinked
      cases other with
      | nil => exact List.nil_prefix
      | cons o other =>
        obtain ⟨rfl, -⟩ := List.cons_prefix_cons.1 hother
        exact absurd (List.isChain_cons_cons.1 hlinked).1 hleads

theorem isChain_reverse_concat {near : List Tree} :
    (near.reverse ++ [next]).IsChain (Leads src comments skipped) ↔
      (next :: near).IsChain (fun n t => Leads src comments skipped t n) := by
  rw [← List.reverse_cons, List.isChain_reverse]

theorem LongestRun.unique (h : LongestRun src comments skipped anchor run)
    (h' : LongestRun src comments skipped anchor other) : other = run := by
  have hlength : other.length = run.length :=
    Nat.le_antisymm (h.longest other h'.ends h'.leads) (h'.longest run h.ends h.leads)
  exact (List.suffix_of_suffix_length_le h'.ends h.ends hlength.le).eq_of_length hlength

theorem exists_longestRun (src : Source) (comments skipped : List String) (anchor : Place) :
    ∃ run, LongestRun src comments skipped anchor run ∧
      leadingComments src { comments, skipped } anchor =
        docText ((remarks comments skipped run).map fun t => cleanComment (t.text src)) := by
  obtain ⟨near, hnear, hchain, hlongest, hrun⟩ :=
    exists_commentRun src comments skipped anchor.tree anchor.before
  refine ⟨near.reverse, ⟨List.reverse_suffix.2 hnear, isChain_reverse_concat.2 hchain, ?_⟩, ?_⟩
  · intro other hother hlinked
    have hprefix : other.reverse <+: anchor.before := by
      rwa [← List.reverse_suffix, List.reverse_reverse]
    rw [← List.reverse_reverse other, isChain_reverse_concat] at hlinked
    simpa using (hlongest _ hprefix hlinked).length_le
  · rw [leadingComments, hrun, remarks, remarks, List.filter_reverse]

/-! ### Comments that do not document -/

theorem Place.tree_after (left : Tree → Bool) (p : Place) : (p.after left).tree = p.tree := by
  cases p <;> rfl

theorem Place.before_after (left : Tree → Bool) (p : Place) :
    (p.after left).before = p.before.takeWhile fun s => !left s := by
  cases p <;> rfl

namespace Rust

theorem isOf_attributeItem (t : Tree) :
    t.isOf ["attribute_item"] = (t.kind == "attribute_item") := by
  rw [Bool.eq_iff_iff]
  simp [Tree.isOf]

/-- The scan stops at a comment that does not document, so it is one of the siblings after the last
of these. -/
theorem outerDocs_eq (src : Source) (row : Nat) (before : List Tree) :
    outerDocs src row before =
      commentRun src { comments := commentKinds, skipped := ["attribute_item"] } row
        (before.takeWhile fun t => !(t.isOf commentKinds && !isOuterDoc (t.text src))) := by
  induction before generalizing row with
  | nil => rfl
  | cons t before ih =>
    rw [outerDocs, List.takeWhile_cons]
    cases hskip : t.kind == "attribute_item" with
    | true =>
      have hcomment : t.isOf commentKinds = false := by
        simp [Tree.isOf, beq_iff_eq.1 hskip, commentKinds]
      simp [commentRun, isOf_attributeItem, hskip, hcomment, ih]
    | false =>
      cases hcomment : t.isOf commentKinds with
      | false => simp [commentRun, isOf_attributeItem, hskip, hcomment]
      | true =>
        cases hdoc : isOuterDoc (t.text src) with
        | false => simp [commentRun]
        | true => simp [commentRun, isOf_attributeItem, hskip, hcomment, ih]

theorem docstring_eq (src : Source) (p : Place) :
    docstring src p =
      leadingComments src { comments := commentKinds, skipped := ["attribute_item"] }
        (p.after fun t => t.isOf commentKinds && !isOuterDoc (t.text src)) := by
  rw [docstring, leadingComments, outerDocs_eq, Place.tree_after, Place.before_after]

end Rust

/-- What documents a node is told by the comments of the longest run that leads up to it, and
nothing does if they say nothing. A comment of Rust that documents nothing, or the module around
it, hides all that comes before it. -/
theorem documentation_runs (src : Source) (comments skipped : List String) (anchor : Place) :
    (∃ run, LongestRun src comments skipped anchor run ∧
      (∀ other, LongestRun src comments skipped anchor other → other = run) ∧
      let said := joined ((remarks comments skipped run).map fun t => cleanComment (t.text src))
      leadingComments src { comments, skipped } anchor = if said = "" then none else some said) ∧
    Rust.grammar.docstring src anchor =
      leadingComments src
        { comments := ["line_comment", "block_comment"], skipped := ["attribute_item"] }
        (anchor.after fun t => t.isOf ["line_comment", "block_comment"] &&
          !Rust.isOuterDoc (t.text src)) := by
  obtain ⟨run, hlongest, hdoc⟩ := exists_longestRun src comments skipped anchor
  refine ⟨⟨run, hlongest, fun other h => hlongest.unique h, ?_⟩, Rust.docstring_eq src anchor⟩
  exact hdoc.trans (docText_eq _)

end CodeSurvey
