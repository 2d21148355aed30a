import CodeSurvey.Proofs.Blanks
import CodeSurvey.Proofs.ByteOrder
import CodeSurvey.Proofs.Callers
import CodeSurvey.Proofs.Complexity
import CodeSurvey.Proofs.Faults

/-! The lines of a file, counted in its text and by the line breaks before a byte, and the lines of
its declarations. -/
namespace CodeSurvey

/-! ### Lines of a text -/

section

variable {b i n offset : Nat} {c : Char} {cs : List Char}

theorem lineBreaks_newline (offset : Nat) (cs : List Char) :
    lineBreaks offset ('\n' :: cs) = offset :: lineBreaks (offset + 1) cs := rfl

theorem lineBreaks_of_ne (offset : Nat) (hc : c ≠ '\n') (cs : List Char) :
    lineBreaks offset (c :: cs) = lineBreaks (offset + c.utf8Size) cs := by
  rw [lineBreaks, if_neg hc]

theorem le_of_mem_lineBreaks (h : b ∈ lineBreaks offset cs) : offset ≤ b := by
  induction cs generalizing offset with
  | nil => cases h
  | cons c cs ih =>
    by_cases hc : c = '\n'
    · subst hc
      rcases List.mem_cons.1 h with rfl | h
      · exact Nat.le_refl _
      · exact Nat.le_trans (Nat.le_succ _) (ih h)
    · rw [lineBreaks_of_ne offset hc] at h
      exact Nat.le_trans (Nat.le_add_right _ _) (ih h)

theorem pairwise_lineBreaks (offset : Nat) (cs : List Char) :
    (lineBreaks offset cs).Pairwise (· < ·) := by
  induction cs generalizing offset with
  | nil => exact .nil
  | cons c cs ih =>
    by_cases hc : c = '\n'
    · subst hc
      refine List.pairwise_cons.2 ⟨?_, ih _⟩
      intro b hb
      exact le_of_mem_lineBreaks hb
    · rw [lineBreaks_of_ne offset hc]
      exact ih _

theorem countP_lineBreaks_of_le (h : i ≤ offset) : (lineBreaks offset cs).countP (· < i) = 0 := by
  rw [List.countP_eq_zero]
  intro b hb
  have hle := le_of_mem_lineBreaks hb
  simp only [decide_eq_true_eq]
  omega

/-- Fewer line breaks lie before a byte of a text than the text has lines. -/
theorem countP_lineBreaks_lt (hi : offset ≤ i) (hlt : i < offset + String.utf8Len cs) :
    (lineBreaks offset cs).countP (· < i) < (Text.lines cs).length := by
  fun_induction Text.lines cs generalizing offset with
  | case1 =>
    simp only [String.utf8Len_nil] at hlt
    omega
  | case2 cs ih =>
    have hsize : '\n'.utf8Size = 1 := rfl
    rw [String.utf8Len_cons, hsize] at hlt
    rw [lineBreaks_newline, List.length_cons]
    by_cases he : i = offset
    · rw [← lineBreaks_newline, countP_lineBreaks_of_le (Nat.le_of_eq he)]
      omega
    · have hrest := @ih (offset + 1) (by omega) (by omega)
      rw [List.countP_cons]
      split <;> omega
  | case3 cs ih =>
    have hsize : '\r'.utf8Size = 1 := rfl
    have hsize' : '\n'.utf8Size = 1 := rfl
    rw [String.utf8Len_cons, String.utf8Len_cons, hsize, hsize'] at hlt
    rw [lineBreaks_of_ne offset (by decide), hsize, List.length_cons]
    by_cases he : i ≤ offset + 1
    · rw [countP_lineBreaks_of_le he]
      omega
    · have hrest := @ih (offset + 1 + 1) (by omega) (by omega)
      rw [lineBreaks_newline, List.countP_cons]
      split <;> omega
  | case4 c cs hn _ hnil ih =>
    -- Nothing but the last character is left: no byte lies behind it.
    rw [String.utf8Len_cons] at hlt
    rw [lineBreaks_of_ne offset hn]
    by_cases he : i ≤ offset + c.utf8Size
    · rw [countP_lineBreaks_of_le he]
      exact Nat.one_pos
    · have hrest := @ih (offset + c.utf8Size) (by omega) (by omega)
      simp [hnil] at hrest
  | case5 c cs hn _ l ls hcons ih =>
    rw [String.utf8Len_cons] at hlt
    rw [lineBreaks_of_ne offset hn]
    by_cases he : i ≤ offset + c.utf8Size
    · rw [countP_lineBreaks_of_le he]
      exact Nat.succ_pos _
    · have hrest := @ih (offset + c.utf8Size) (by omega) (by omega)
      rwa [hcons] at hrest

theorem ofNat_ne_ten {m : Nat} (hm : m < 256) (hne : m ≠ 10) : 10 ≠ UInt8.ofNat m := by
  intro h
  have hnat := congrArg UInt8.toNat h
  rw [UInt8.toNat_ofNat_of_lt' hm] at hnat
  exact hne hnat.symm

/-- Only a line feed is written with the byte of a line feed. -/
theorem ten_notMem_utf8EncodeChar (hc : c ≠ '\n') : 10 ∉ String.utf8EncodeChar c := by
  have hval : c.val.toNat ≠ 10 := by
    intro h
    exact hc (Char.ext (UInt32.toNat_inj.1 h))
  simp only [String.utf8EncodeChar]
  split
  · simp only [List.mem_singleton]
    exact ofNat_ne_ten (by omega) hval
  · have hlow := fun k => ofNat_ne_ten (m := k % 64 + 128) (by omega) (by omega)
    split
    · simp only [List.mem_cons, List.not_mem_nil, or_false, not_or]
      exact ⟨ofNat_ne_ten (by omega) (by omega), hlow _⟩
    · split
      · simp only [List.mem_cons, List.not_mem_nil, or_false, not_or]
        exact ⟨ofNat_ne_ten (by omega) (by omega), hlow _, hlow _⟩
      · simp only [List.mem_cons, List.not_mem_nil, or_false, not_or]
        exact ⟨ofNat_ne_ten (by omega) (by omega), hlow _, hlow _, hlow _⟩

/-- As many line breaks lie before a byte as there are line feeds among the bytes before it. -/
theorem countP_lineBreaks_eq (offset n : Nat) (cs : List Char) :
    (lineBreaks offset cs).countP (· < offset + n) =
      ((cs.flatMap String.utf8EncodeChar).take n).count 10 := by
  induction cs generalizing offset n with
  | nil => simp [lineBreaks]
  | cons c cs ih =>
    rw [List.flatMap_cons]
    by_cases hc : c = '\n'
    · subst hc
      cases n with
      | zero => simp [countP_lineBreaks_of_le]
      | succ n =>
        have hrest := ih (offset + 1) n
        rw [Nat.add_right_comm, Nat.add_assoc] at hrest
        rw [lineBreaks_newline, List.countP_cons, hrest]
        simp [String.utf8EncodeChar]
    · have hnone : ((String.utf8EncodeChar c).take n).count 10 = 0 :=
        List.count_eq_zero.2 fun h => ten_notMem_utf8EncodeChar hc (List.mem_of_mem_take h)
      rw [lineBreaks_of_ne offset hc, List.take_append, List.count_append, hnone,
        String.length_utf8EncodeChar, Nat.zero_add]
      by_cases hn : n ≤ c.utf8Size
      · rw [countP_lineBreaks_of_le (by omega), Nat.sub_eq_zero_of_le hn]
        simp
      · rw [← ih (offset + c.utf8Size) (n - c.utf8Size)]
        congr 2
        funext b
        congr 2
        omega

end

namespace Source

variable (src : Source) {i j n : Nat}

/-- The line of a byte counts the line feeds among the bytes before it. -/
theorem row_eq_count (n : Nat) : src.row n = (src.bytes.data.toList.take n).count 10 := by
  have hbytes : src.bytes.data.toList = src.text.toList.flatMap String.utf8EncodeChar := by
    rw [src.bytes_eq]
    exact Text.bytes_eq src.text
  have hcount := countP_lineBreaks_eq 0 n src.text.toList
  rw [row, src.breaks_eq, hbytes, ← hcount]
  simp

theorem row_mono (h : i ≤ j) : src.row i ≤ src.row j := by
  apply List.countP_mono_left
  intro b _ hb
  simp only [decide_eq_true_eq] at hb ⊢
  omega

/-- The line of a byte is one of the lines of the text. -/
theorem row_lt_countLines (h : i < src.text.utf8ByteSize) :
    src.row i < Text.countLines src.text := by
  rw [row, src.breaks_eq, Text.countLines]
  apply countP_lineBreaks_lt (Nat.zero_le i)
  rwa [Nat.zero_add, ← String.utf8ByteSize_ofList, String.ofList_toList]

theorem pairwise_breaks : src.breaks.Pairwise (· < ·) := by
  rw [src.breaks_eq]
  exact pairwise_lineBreaks 0 _

/-- A new line starts behind a line break and nowhere else. -/
theorem row_succ (i : Nat) : src.row (i + 1) = src.row i + if i ∈ src.breaks then 1 else 0 := by
  have hsplit : src.row (i + 1) = src.breaks.countP fun b => decide (b < i) || b == i := by
    apply List.countP_congr
    intro b _
    simp only [decide_eq_true_eq, Bool.or_eq_true, beq_iff_eq]
    omega
  have hcount : src.breaks.count i = if i ∈ src.breaks then 1 else 0 :=
    List.Nodup.count (src.pairwise_breaks.imp Nat.ne_of_lt)
  rw [hsplit, countP_or_of_disjoint, row, ← hcount]
  · rfl
  · intro b hb
    simp only [decide_eq_true_eq] at hb
    simp only [beq_eq_false_iff_ne]
    omega

theorem column_succ_eq_zero_iff : src.column (i + 1) = 0 ↔ i ∈ src.breaks := by
  rw [column]
  cases hfind : src.breaks.reverse.find? (· < i + 1) with
  | none =>
    have hnone : i ∉ src.breaks := by
      intro hi
      have := List.find?_eq_none.1 hfind i (List.mem_reverse.2 hi)
      simp at this
    simp [hnone]
  | some b =>
    obtain ⟨hb, before, after, hsplit, hbefore⟩ := List.find?_eq_some_iff_append.1 hfind
    simp only [decide_eq_true_eq] at hb
    have hmem : ∀ k, k ∈ src.breaks ↔ k ∈ before ∨ k = b ∨ k ∈ after := by
      intro k
      rw [← List.mem_reverse, hsplit, List.mem_append, List.mem_cons]
    have hsorted : src.breaks.reverse.Pairwise (· > ·) :=
      List.pairwise_reverse.2 src.pairwise_breaks
    rw [hsplit] at hsorted
    change i + 1 - (b + 1) = 0 ↔ _
    constructor
    · intro h
      have : b = i := by omega
      exact (hmem i).2 (.inr (.inl this.symm))
    · intro h
      rcases (hmem i).1 h with h | rfl | h
      · have := hbefore i h
        simp at this
      · omega
      · -- What the search passed over lies behind it, and what it left lies before.
        have := (List.pairwise_cons.1 (List.pairwise_append.1 hsorted).2.1).1 i h
        omega

end Source

namespace Tree

variable {t : Tree} {src : Source}

/-- A node that covers any byte ends on the line of its last byte. -/
theorem endLine_eq (h : t.start < t.stop) : t.endLine src = src.row (t.stop - 1) + 1 := by
  obtain ⟨last, hlast⟩ : ∃ last, t.stop = last + 1 := ⟨t.stop - 1, by omega⟩
  have hrow := src.row_succ last
  have hle : t.startRow src ≤ src.row last := src.row_mono (by omega)
  rw [endLine, hlast, Nat.add_sub_cancel]
  by_cases hb : last ∈ src.breaks
  · rw [if_pos hb] at hrow
    have hzero := src.column_succ_eq_zero_iff.2 hb
    simp only [hzero, hrow, beq_self_eq_true, Bool.true_and, decide_eq_true_eq]
    rw [if_pos (by omega)]
  · rw [if_neg hb] at hrow
    have hpos : src.column (last + 1) ≠ 0 := fun h => hb (src.column_succ_eq_zero_iff.1 h)
    simp [hpos, hrow]

end Tree

/-! ### Where declarations are described -/

theorem Place.getD_mem_lineage {p : Place} {a : Option Place}
    (h : ∀ q, a = some q → q ∈ p.lineage) : a.getD p ∈ p.lineage := by
  cases a with
  | none => exact p.self_mem_lineage
  | some q => exact h q rfl

/-- A declaration is described at its own node or at one above it. -/
theorem Dialect.docAnchor_mem_lineage (d : Dialect) (p : Place) :
    d.grammar.docAnchor p ∈ p.lineage := by
  have hparent : ∀ {q r : Place} {test : Place → Bool}, q.parent?.filter test = some r →
      r ∈ q.lineage := by
    intro q r test h
    exact Place.parent?_mem_lineage (Option.filter_eq_some_iff.1 h).1
  cases d with
  | python => exact Place.getD_mem_lineage fun q hq => hparent hq
  | javaScript | typeScript | tsx =>
    refine Place.lineage_trans ?_ (Place.getD_mem_lineage fun q hq => hparent hq)
    split
    · apply Place.getD_mem_lineage
      intro q hq
      obtain ⟨declarator, hd, hq⟩ := Option.bind_eq_some_iff.1 hq
      exact Place.lineage_trans (hparent hd) (Place.parent?_mem_lineage hq)
    · exact p.self_mem_lineage
  | java => exact p.self_mem_lineage
  | go =>
    simp only [Dialect.grammar, Go.grammar, Go.docAnchor]
    split
    · next q hq =>
      split
      · exact Place.parent?_mem_lineage hq
      · exact p.self_mem_lineage
    · exact p.self_mem_lineage
  | rust => exact p.self_mem_lineage

/-! ### Declarations inside their file -/

/-- Lines from one to another, both among the lines of a text. -/
def WithinLines (total first last : Nat) : Prop := 1 ≤ first ∧ first ≤ last ∧ last ≤ total

namespace Walk

variable {d : Dialect} {src : Source} {root : Tree} {p : Place}

/-- A node that covers any byte lies on lines of the text, and so does what it is described by. -/
theorem withinLines_of_covers (hover : root.stop ≤ src.text.utf8ByteSize)
    (hn : (Place.root root).Nested) (hp : p ∈ (Place.root root).subtree)
    (hcovers : p.tree.start < p.tree.stop) :
    let first := (d.grammar.docAnchor p).tree.startLine src
    WithinLines (Text.countLines src.text) first (max (p.tree.endLine src) first) := by
  intro first
  obtain ⟨hanchor, hbelow⟩ :=
    Place.mem_subtree_of_mem_lineage hp (d.docAnchor_mem_lineage p)
  have hstop : p.tree.stop ≤ root.stop := (hn.within hp).2
  have hstart : (d.grammar.docAnchor p).tree.start ≤ p.tree.start :=
    ((hn.of_mem_subtree hanchor).within hbelow).1
  have hfirst : src.row (d.grammar.docAnchor p).tree.start ≤ src.row (p.tree.stop - 1) :=
    src.row_mono (by omega)
  have hlast : src.row (p.tree.stop - 1) < Text.countLines src.text :=
    src.row_lt_countLines (by omega)
  have hend : p.tree.endLine src = src.row (p.tree.stop - 1) + 1 := Tree.endLine_eq hcovers
  have hline : first = src.row (d.grammar.docAnchor p).tree.start + 1 := rfl
  refine ⟨?_, ?_, ?_⟩ <;> omega

variable {g : Grammar}

theorem lines_declOf (g : Grammar) (src : Source) (f : Place × FunctionHead) :
    (declOf g src f).lineStart = (g.docAnchor f.1).tree.startLine src ∧
      (declOf g src f).lineEnd =
        max (f.1.tree.endLine src) ((g.docAnchor f.1).tree.startLine src) := by
  obtain ⟨_, _, h⟩ := declOf_eq g src f
  rw [h]
  exact ⟨rfl, rfl⟩

theorem lines_listedClass (g : Grammar) (src : Source) (root : Tree) (c : Place × ClassHead) :
    (listedClass g src root c).lineStart = (g.docAnchor c.1).tree.startLine src ∧
      (listedClass g src root c).lineEnd =
        max (c.1.tree.endLine src) ((g.docAnchor c.1).tree.startLine src) := by
  obtain ⟨_, hown⟩ := @ownClass_eq g src c
  obtain ⟨_, hfiled⟩ := filedClass_eq g src root c
  rw [listedClass, hfiled, hown]
  exact ⟨rfl, rfl⟩

theorem declarations_of_fatal (withOutline : Bool)
    (hfatal : isFatal src root (run g src root).errorBytes = true) :
    (extract g src root withOutline).declarations = [] := by
  simp [extract, hfatal]

theorem roleOf_of_function {h : FunctionHead} (ho : opening? g src p = some (.function h)) :
    roleOf g src p = .function := by
  rw [opening?] at ho
  split at ho <;> simp_all

theorem roleOf_of_classLike {h : ClassHead} (ho : opening? g src p = some (.classLike h)) :
    roleOf g src p = .classLike := by
  rw [opening?] at ho
  split at ho <;> simp_all

/-- A declared function is that of a node, also where nothing is kept. -/
theorem exists_functionNode {withOutline : Bool} {f : FunctionDecl}
    (hf : f ∈ allFunctions (extract g src root withOutline).declarations) :
    ∃ node ∈ functionNodes g src root, declOf g src node = f := by
  cases hfatal : isFatal src root (run g src root).errorBytes with
  | true =>
    rw [declarations_of_fatal _ hfatal] at hf
    cases hf
  | false => exact List.mem_map.1 ((allFunctions_extract _ hfatal).mem_iff.1 hf)

theorem exists_classNode {withOutline : Bool} {c : ClassDecl}
    (hc : c ∈ allClasses (extract g src root withOutline).declarations) :
    ∃ node ∈ classNodes g src root, listedClass g src root node = c := by
  cases hfatal : isFatal src root (run g src root).errorBytes with
  | true =>
    rw [declarations_of_fatal _ hfatal] at hc
    cases hc
  | false => exact List.mem_map.1 ((allClasses_extract _ hfatal).mem_iff.1 hc)

/-- Every function and every class of a file lies on lines of the file, from where it is described
to where it ends. -/
theorem declarations_within (d : Dialect) (text path : String) (root : Tree)
    (options : ParseOptions) (hover : root.stop ≤ text.utf8ByteSize)
    (hn : (Place.root root).Nested)
    (hcovers : ∀ p ∈ (Place.root root).subtree,
      roleOf d.grammar (.ofText text) p = .function ∨
        roleOf d.grammar (.ofText text) p = .classLike → p.tree.start < p.tree.stop) :
    (∀ n, (Source.ofText text).row n = (text.toUTF8.data.toList.take n).count 10) ∧
      ∃ r, Parser.ofTree d.grammar (some root) text path options = .record r ∧
        r.lineCount = Text.countLines text ∧
        (∀ f ∈ r.functions, WithinLines r.lineCount f.lineStart f.lineEnd) ∧
        ∀ c ∈ r.classes, WithinLines r.lineCount c.lineStart c.lineEnd := by
  refine ⟨(Source.ofText text).row_eq_count, _, rfl, rfl, ?_, ?_⟩
  · intro f hf
    obtain ⟨node, hnode, rfl⟩ := exists_functionNode hf
    obtain ⟨hp, hopen⟩ := mem_functionNodes.1 hnode
    obtain ⟨hstart, hend⟩ := lines_declOf d.grammar (.ofText text) node
    rw [hstart, hend]
    exact withinLines_of_covers hover hn hp (hcovers _ hp (.inl (roleOf_of_function hopen)))
  · intro c hc
    obtain ⟨node, hnode, rfl⟩ := exists_classNode hc
    obtain ⟨hp, hopen⟩ := mem_classNodes.1 hnode
    obtain ⟨hstart, hend⟩ := lines_listedClass d.grammar (.ofText text) root node
    rw [hstart, hend]
    exact withinLines_of_covers hover hn hp (hcovers _ hp (.inr (roleOf_of_classLike hopen)))

/-! A function that starts with its decorator, in a text that ends with a line break. -/

def decoratedText : String := "@d\ndef f():\n  x\n"

def decoratedTree : Tree :=
  sampleNode "module" 0 16 none
    [sampleNode "decorated_definition" 0 15 none
      [sampleNode "decorator" 0 2 none [sampleNode "identifier" 1 2 none []],
       sampleNode "function_definition" 3 15 (some "definition")
        [sampleNode "identifier" 7 8 (some "name") [],
         sampleNode "parameters" 8 10 (some "parameters") [],
         sampleNode "block" 14 15 (some "body")
          [sampleNode "expression_statement" 14 15 none [sampleNode "identifier" 14 15 none []]]]]]

theorem declarations_within_sample :
    decoratedTree.stop ≤ decoratedText.utf8ByteSize ∧ (Place.root decoratedTree).Nested ∧
      ∃ r, Parser.ofTree Python.grammar (some decoratedTree) decoratedText "a.py" {} = .record r ∧
        r.functions.map (fun f => (f.lineStart, f.lineEnd)) = [(1, 3)] ∧ r.lineCount = 3 ∧
        ∀ f ∈ r.functions, WithinLines r.lineCount f.lineStart f.lineEnd := by
  have hover : decoratedTree.stop ≤ decoratedText.utf8ByteSize := by decide +kernel
  have hn : (Place.root decoratedTree).Nested := by
    unfold Place.Nested
    decide +kernel
  have hcovers : ∀ p ∈ (Place.root decoratedTree).subtree,
      roleOf Python.grammar (.ofText decoratedText) p = .function ∨
        roleOf Python.grammar (.ofText decoratedText) p = .classLike →
          p.tree.start < p.tree.stop := by decide +kernel
  obtain ⟨-, r, hr, -, hfunctions, -⟩ :=
    declarations_within .python decoratedText "a.py" decoratedTree {} hover hn hcovers
  refine ⟨hover, hn, r, hr, ?_, ?_, hfunctions⟩
  · cases hr
    decide +kernel
  · cases hr
    decide +kernel

end Walk

end CodeSurvey
