import CodeSurvey.Proofs.CommentBodies
import CodeSurvey.Proofs.CommentRuns
import CodeSurvey.Proofs.Scopes

/-! The comments that open a file document the file or its first declaration, never both: the one
if a blank line comes after them, the other if none does. -/
namespace CodeSurvey

open Text

/-- A grammar that knows no documentation but comments, and skips none of them. -/
structure Grammar.ByComments (g : Grammar) : Prop where
  docstring (src : Source) (p : Place) : g.docstring src p =
    leadingComments src { comments := g.commentKinds, skipped := g.docSkipKinds } (g.docAnchor p)
  moduleDocstring (src : Source) (root : Tree) :
    g.moduleDocstring src root = fileHeader src g.commentKinds root
  apart (t : Tree) : t.isOf g.commentKinds = true → t.isOf g.docSkipKinds = false

def Dialect.byComments : List Dialect := [.javaScript, .typeScript, .tsx, .java]

/-- A file that opens with comments, of which the last says something, and goes on with another
node. -/
structure OpensWith (g : Grammar) (src : Source) (root : Tree) (earlier : List Tree)
    (last next : Tree) : Prop where
  children : ∃ rest, root.children = earlier ++ last :: next :: rest
  comments : ∀ t ∈ earlier ++ [last], t.isOf g.commentKinds = true
  next : next.isOf g.commentKinds = false
  told : cleanComment (last.text src) ≠ ""

variable {g : Grammar} {src : Source} {root last next : Tree} {earlier before : List Tree}
  {parent p : Place} {comments skipped : List String}

theorem Ecma.byComments_grammar (language : Language) : (Ecma.grammar language).ByComments where
  docstring _ _ := by simp only [Ecma.grammar]
  moduleDocstring _ _ := by simp only [Ecma.grammar]
  apart _ _ := by simp [Tree.isOf, Ecma.grammar]

theorem Java.byComments_grammar : Java.grammar.ByComments where
  docstring _ _ := by simp only [Java.grammar]
  moduleDocstring _ _ := by simp only [Java.grammar]
  apart _ _ := by simp [Tree.isOf, Java.grammar]

theorem Dialect.byComments_grammar {d : Dialect} (h : d ∈ Dialect.byComments) :
    d.grammar.ByComments := by
  simp only [Dialect.byComments, List.mem_cons, List.not_mem_nil, or_false] at h
  rcases h with rfl | rfl | rfl | rfl
  · exact Ecma.byComments_grammar .javaScript
  · exact Ecma.byComments_grammar .typeScript
  · exact Ecma.byComments_grammar .typeScript
  · exact Java.byComments_grammar

/-! ### Which comments document something -/

/-- A clean comment is not empty because of blanks. -/
theorem not_blank_cleanComment {s : String} (h : cleanComment s ≠ "") :
    ¬ Blank (cleanComment s).toList := by
  rw [cleanComment, String.toList_ofList]
  intro hblank
  have hnil : cleanCommentChars s.toList = [] := by
    rw [← trim_of_blank hblank]
    exact (tight_trim _).trim_eq.symm
  exact h (by rw [cleanComment, hnil])

/-- One comment that says something is enough. -/
theorem docText_isSome_of_mem {ts : List Tree} (h : cleanComment (last.text src) ≠ "")
    (ht : last ∈ ts) : (docText (ts.map fun t => cleanComment (t.text src))).isSome = true := by
  rw [Option.isSome_iff_ne_none, Ne, docText_eq_none_iff]
  intro hblank
  exact not_blank_cleanComment h (hblank _ (List.mem_map_of_mem ht))

/-- Comments document what follows the last of them unless a blank line comes in between. -/
theorem leadingComments_isSome_iff (hcomment : last.isOf comments = true)
    (hskip : last.isOf skipped = false) (htold : cleanComment (last.text src) ≠ "") :
    (leadingComments src { comments, skipped } (.child parent (last :: before) next)).isSome =
      true ↔ next.startRow src ≤ last.endLine src := by
  have hleads : Leads src comments skipped last next ↔ next.startRow src ≤ last.endLine src := by
    simp [Leads, hcomment, hskip]
  rw [leadingComments, ← hleads]
  simp only [Place.tree, Place.before]
  by_cases h : Leads src comments skipped last next
  · rw [commentRun_of_leads h, iff_true_right h]
    refine docText_isSome_of_mem htold ?_
    simp [remarks, hcomment, hskip]
  · rw [commentRun_of_not_leads h, iff_false_right h]
    exact Bool.false_ne_true

theorem OpensWith.takeWhile_children (h : OpensWith g src root earlier last next) :
    root.children.takeWhile (·.isOf g.commentKinds) = earlier ++ [last] ∧
      (root.children.dropWhile (·.isOf g.commentKinds)).head? = some next := by
  obtain ⟨rest, hchildren⟩ := h.children
  have hsplit : root.children = (earlier ++ [last]) ++ next :: rest := by simp [hchildren]
  rw [hsplit, List.takeWhile_append_of_pos h.comments, List.dropWhile_append_of_pos h.comments,
    List.takeWhile_cons_of_neg (by simp [h.next]), List.dropWhile_cons_of_neg (by simp [h.next])]
  exact ⟨List.append_nil _, rfl⟩

/-- They document the file if a blank line comes in between. -/
theorem OpensWith.fileHeader_isSome_iff (h : OpensWith g src root earlier last next) :
    (fileHeader src g.commentKinds root).isSome = true ↔
      last.endLine src < next.startRow src := by
  obtain ⟨hopening, hrest⟩ := h.takeWhile_children
  have hlast : last ∈ earlier ++ [last] := List.mem_append_right _ List.mem_cons_self
  have hdoc := docText_isSome_of_mem h.told hlast
  rw [fileHeader, hopening, hrest, List.getLast?_concat]
  simp only [Option.any_some, Tree.startLine, Nat.add_le_add_iff_right, decide_eq_true_eq]
  by_cases hlt : last.endLine src < next.startRow src
  · rw [if_neg (Nat.not_le.2 hlt)]
    exact iff_of_true hdoc hlt
  · rw [if_pos (Nat.not_lt.1 hlt)]
    exact iff_of_false Bool.false_ne_true hlt

/-- The two scans draw the line at the same place. -/
theorem Grammar.ByComments.documents_iff (hg : g.ByComments)
    (h : OpensWith g src root earlier last next)
    (hanchor : g.docAnchor p = .child (.root root) (last :: earlier.reverse) next) :
    ((g.moduleDocstring src root).isSome = true ↔ last.endLine src < next.startRow src) ∧
      ((g.docstring src p).isSome = true ↔ next.startRow src ≤ last.endLine src) := by
  have hcomment : last.isOf g.commentKinds = true := h.comments last (by simp)
  rw [hg.moduleDocstring, hg.docstring, hanchor]
  exact ⟨h.fileHeader_isSome_iff,
    leadingComments_isSome_iff hcomment (hg.apart last hcomment) h.told⟩

/-! ### Documented declarations -/

namespace Walk

theorem docstring_declOf (g : Grammar) (src : Source) (f : Place × FunctionHead) :
    (declOf g src f).docstring = g.docstring src f.1 := by
  obtain ⟨_, _, h⟩ := declOf_eq g src f
  rw [h]
  rfl

theorem docstring_listedClass (g : Grammar) (src : Source) (root : Tree)
    (c : Place × ClassHead) :
    (listedClass g src root c).docstring = g.docstring src c.1 := by
  obtain ⟨_, hown⟩ := @ownClass_eq g src c
  obtain ⟨_, hfiled⟩ := filedClass_eq g src root c
  rw [listedClass, hfiled, hown]
  rfl

section

variable {text path : String} {options : ParseOptions} {r : FileRecord}

theorem moduleDocstring_ofTree (h : Parser.ofTree g (some root) text path options = .record r)
    (hfatal : isFatal (.ofText text) root (run g (.ofText text) root).errorBytes = false) :
    r.moduleDocstring = g.moduleDocstring (.ofText text) root := by
  cases h
  simp [FileRecord.build, extract, hfatal]

theorem declOf_mem_ofTree {head : FunctionHead}
    (h : Parser.ofTree g (some root) text path options = .record r)
    (hfatal : isFatal (.ofText text) root (run g (.ofText text) root).errorBytes = false)
    (hp : p ∈ (Place.root root).subtree)
    (ho : opening? g (.ofText text) p = some (.function head)) :
    declOf g (.ofText text) (p, head) ∈ r.functions := by
  rw [FileRecord.functions, declarations_ofTree h, (allFunctions_extract _ hfatal).mem_iff]
  exact List.mem_map_of_mem (mem_functionNodes.2 ⟨hp, ho⟩)

theorem listedClass_mem_ofTree {head : ClassHead}
    (h : Parser.ofTree g (some root) text path options = .record r)
    (hfatal : isFatal (.ofText text) root (run g (.ofText text) root).errorBytes = false)
    (hp : p ∈ (Place.root root).subtree)
    (ho : opening? g (.ofText text) p = some (.classLike head)) :
    listedClass g (.ofText text) root (p, head) ∈ r.classes := by
  rw [FileRecord.classes, declarations_ofTree h, (allClasses_extract _ hfatal).mem_iff]
  exact List.mem_map_of_mem (mem_classNodes.2 ⟨hp, ho⟩)

end

/-- The comments that open a file document either the file or what is declared right after them,
and so does the record that is made of it. -/
theorem opening_documents_one (d : Dialect) (hd : d ∈ Dialect.byComments) (text path : String)
    (root : Tree) (options : ParseOptions) (earlier : List Tree) (last next : Tree)
    (h : OpensWith d.grammar (.ofText text) root earlier last next) (p : Place)
    (hp : p ∈ (Place.root root).subtree)
    (hanchor : d.grammar.docAnchor p = .child (.root root) (last :: earlier.reverse) next) :
    let g := d.grammar
    let src : Source := .ofText text
    Xor ((g.moduleDocstring src root).isSome = true) ((g.docstring src p).isSome = true) ∧
      ((g.moduleDocstring src root).isSome = true ↔ last.endLine src < next.startRow src) ∧
      (isFatal src root (run g src root).errorBytes = false →
        ∃ r, Parser.ofTree g (some root) text path options = .record r ∧
          (∀ head, opening? g src p = some (.function head) →
            declOf g src (p, head) ∈ r.functions ∧
              Xor (r.moduleDocstring.isSome = true)
                ((declOf g src (p, head)).docstring.isSome = true)) ∧
          ∀ head, opening? g src p = some (.classLike head) →
            listedClass g src root (p, head) ∈ r.classes ∧
              Xor (r.moduleDocstring.isSome = true)
                ((listedClass g src root (p, head)).docstring.isSome = true)) := by
  intro g src
  obtain ⟨hfile, hdecl⟩ := (Dialect.byComments_grammar hd).documents_iff h hanchor
  have hone : Xor ((g.moduleDocstring src root).isSome = true)
      ((g.docstring src p).isSome = true) := by
    rw [hfile, hdecl, xor_iff_iff_not, Nat.not_le]
  refine ⟨hone, hfile, ?_⟩
  intro hfatal
  obtain ⟨r, hr⟩ : ∃ r, Parser.ofTree g (some root) text path options = .record r := ⟨_, rfl⟩
  refine ⟨r, hr, ?_, ?_⟩
  · intro head ho
    refine ⟨declOf_mem_ofTree hr hfatal hp ho, ?_⟩
    rwa [moduleDocstring_ofTree hr hfatal, docstring_declOf]
  · intro head ho
    refine ⟨listedClass_mem_ofTree hr hfatal hp ho, ?_⟩
    rwa [moduleDocstring_ofTree hr hfatal, docstring_listedClass]

/-! A function after a comment, with some line breaks in between. -/

def headedText (breaks : Nat) : String :=
  "// Adds." ++ String.ofList (List.replicate breaks '\n') ++ "function f() \x7b\x7d\n"

def headedTree (breaks : Nat) : Tree :=
  sampleNode "program" 0 (breaks + 24) none [commentNode 8, commentedNode (breaks + 8)]

theorem opening_documents_one_sample :
    let g := Ecma.grammar .javaScript
    let src : Source := .ofText (headedText 2)
    let root := headedTree 2
    let p : Place := .child (.root root) [commentNode 8] (commentedNode 10)
    OpensWith g src root [] (commentNode 8) (commentedNode 10) ∧
      p ∈ (Place.root root).subtree ∧ g.docAnchor p = p ∧
      Xor ((g.moduleDocstring src root).isSome = true) ((g.docstring src p).isSome = true) ∧
      ∃ r, Parser.ofTree g (some root) (headedText 2) "a.js" {} = .record r ∧
        r.moduleDocstring = some "Adds." ∧ r.functions.map (·.docstring) = [none] := by
  intro g src root p
  have h : OpensWith g src root [] (commentNode 8) (commentedNode 10) :=
    ⟨⟨[], rfl⟩, by decide +kernel, by decide +kernel, by decide +kernel⟩
  have hp : p ∈ (Place.root root).subtree :=
    Place.mem_subtree_of_child (List.mem_cons_of_mem _ List.mem_cons_self)
  have hanchor : g.docAnchor p = p := rfl
  obtain ⟨hone, -, hrecord⟩ := opening_documents_one .javaScript List.mem_cons_self (headedText 2)
    "a.js" root {} [] (commentNode 8) (commentedNode 10) h p hp hanchor
  obtain ⟨r, hr, -⟩ := hrecord (by decide +kernel)
  refine ⟨h, hp, hanchor, hone, r, hr, ?_, ?_⟩
  · cases hr
    decide +kernel
  · cases hr
    decide +kernel

example :
    let e := extract (Ecma.grammar .javaScript) (.ofText (headedText 1)) (headedTree 1) false
    (e.moduleDocstring, e.declarations.map Declaration.docstring) = (none, [some "Adds."]) := by
  decide +kernel

end Walk

end CodeSurvey
