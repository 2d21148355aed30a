import CodeSurvey.Proofs.Declarators

/-! Unquoting gives back what was quoted. A text without quotes loses the letters that could stand
before one, and so do the names that are read through it. -/
namespace CodeSurvey

namespace Text

/-- The letters that may stand before a quote. -/
def quoteLetters : List Char := ['r', 'R', 'b', 'B', 'u', 'U', 'f', 'F']

def Letters (l : String) : Prop := ∀ c ∈ l.toList, c ∈ quoteLetters

/-- A text without any quote. -/
def Bare (s : String) : Prop := ∀ q ∈ quotes, ∀ c ∈ q.toList, c ∉ s.toList

/-- A text that starts as if a quote followed. -/
def StartsLettered (s : String) : Prop := ∃ c ∈ s.toList.head?, c ∈ quoteLetters

/-- A text without quotes, in two parts: all the letters at its start, and the rest. -/
structure Lettered (l s : String) : Prop where
  letters : Letters l
  bare : Bare (l ++ s)
  rest : ¬ StartsLettered s

section

variable {c d : Char} {l q s body : List Char}

/-! ### Between two quotes -/

theorem between_eq_some_iff : between q s = some body ↔ s = q ++ (body ++ q) := by
  simp only [between, bind, Option.bind_eq_some_iff, List.isPrefixOf?_eq_some_iff_append_eq,
    List.isSuffixOf?_eq_some_iff_append_eq]
  constructor
  · rintro ⟨rest, rfl, rfl⟩
    rfl
  · rintro rfl
    exact ⟨_, rfl, rfl⟩

theorem between_self (q body : List Char) : between q (q ++ (body ++ q)) = some body :=
  between_eq_some_iff.2 rfl

/-- What starts otherwise is not quoted so. -/
theorem between_of_ne {r : List Char} (h : c ≠ d) : between (c :: q) (d :: r ++ s) = none := by
  rw [Option.eq_none_iff_forall_ne_some]
  intro body hbody
  rw [between_eq_some_iff, List.cons_append] at hbody
  exact h (List.cons.inj hbody).1.symm

/-- A single quote around a text without it is no triple quote. -/
theorem between_triple (h : c ∉ body) : between [c, c, c] ([c] ++ (body ++ [c])) = none := by
  rw [Option.eq_none_iff_forall_ne_some]
  intro inner hinner
  rw [between_eq_some_iff] at hinner
  cases body with
  | nil => simp at hinner
  | cons a body =>
    simp only [List.cons_append, List.nil_append, List.cons.injEq, true_and] at hinner
    exact h (hinner.1 ▸ List.mem_cons_self)

theorem toList_quotes : quotes.map String.toList =
    [['"', '"', '"'], ['\x27', '\x27', '\x27'], ['"'], ['\x27'], ['\x60']] := rfl

/-- The quote around a text is found: of those tried before it only the triple one may start as the
text does. -/
theorem findSome?_between (hq : q ∈ quotes.map String.toList) (h : ∀ c ∈ q, c ∉ body) :
    (quotes.map String.toList).findSome? (between · (q ++ (body ++ q))) = some body := by
  rw [toList_quotes] at hq ⊢
  simp only [List.mem_cons, List.not_mem_nil, or_false] at hq
  rcases hq with rfl | rfl | rfl | rfl | rfl <;>
    simp only [List.findSome?_cons, between_self, between_of_ne, ne_eq, Char.reduceEq,
      not_false_eq_true, between_triple (h _ List.mem_cons_self)]

/-! ### Letters before a quote -/

theorem isQuoteLetter_iff : isQuoteLetter c = true ↔ c ∈ quoteLetters :=
  List.contains_iff_mem

theorem dropWhile_letters (hl : ∀ c ∈ l, c ∈ quoteLetters)
    (hs : ∀ c ∈ s.head?, c ∉ quoteLetters) : (l ++ s).dropWhile isQuoteLetter = s := by
  rw [List.dropWhile_append_of_pos fun c hc => isQuoteLetter_iff.2 (hl c hc)]
  cases s with
  | nil => rfl
  | cons c s =>
    exact List.dropWhile_cons_of_neg (mt isQuoteLetter_iff.1 (hs c rfl))

theorem unquoteChars_eq (s : List Char) : unquoteChars s =
    ((quotes.map String.toList).findSome? (between · (s.dropWhile isQuoteLetter))).getD
      (s.dropWhile isQuoteLetter) := by
  rw [List.findSome?_map]
  rfl

theorem head?_quote : ∀ q ∈ quotes.map String.toList,
    ∃ c ∈ q.head?, c ∉ quoteLetters := by
  simp [toList_quotes, quoteLetters]

theorem unquoteChars_quoted (hl : ∀ c ∈ l, c ∈ quoteLetters)
    (hq : q ∈ quotes.map String.toList) (h : ∀ c ∈ q, c ∉ body) :
    unquoteChars (l ++ (q ++ (body ++ q))) = body := by
  obtain ⟨c, hc, hletter⟩ := head?_quote q hq
  have hdrop : (l ++ (q ++ (body ++ q))).dropWhile isQuoteLetter = q ++ (body ++ q) := by
    refine dropWhile_letters hl ?_
    rw [List.head?_append, hc]
    rintro _ ⟨⟩
    exact hletter
  rw [unquoteChars_eq, hdrop, findSome?_between hq h]
  rfl

/-- Without quotes nothing but letters is lost. -/
theorem unquoteChars_bare (h : ∀ q ∈ quotes, ∀ c ∈ q.toList, c ∉ s) :
    unquoteChars s = s.dropWhile isQuoteLetter := by
  have hnone : (quotes.map String.toList).findSome?
      (between · (s.dropWhile isQuoteLetter)) = none := by
    rw [List.findSome?_eq_none_iff]
    intro q hq
    obtain ⟨c, hc, _⟩ := head?_quote q hq
    rw [Option.eq_none_iff_forall_ne_some]
    intro body hbody
    rw [between_eq_some_iff] at hbody
    obtain ⟨quote, hquote, rfl⟩ := List.mem_map.1 hq
    have hmem : c ∈ s.dropWhile isQuoteLetter := by
      rw [hbody]
      exact List.mem_append_left _ (List.mem_of_mem_head? hc)
    exact h quote hquote c (List.mem_of_mem_head? hc) ((List.dropWhile_sublist _).subset hmem)
  rw [unquoteChars_eq, hnone]
  rfl

end

variable {l q s body : String}

theorem unquote_quoted (hl : Letters l) (hq : q ∈ quotes)
    (h : ∀ c ∈ q.toList, c ∉ body.toList) : unquote (l ++ q ++ body ++ q) = body := by
  have hchars : (l ++ q ++ body ++ q).toList =
      l.toList ++ (q.toList ++ (body.toList ++ q.toList)) := by
    simp only [String.toList_append, List.append_assoc]
  rw [unquote, hchars, unquoteChars_quoted hl (List.mem_map_of_mem hq) h, String.ofList_toList]

theorem Lettered.unquote (h : Lettered l s) : unquote (l ++ s) = s := by
  have hhead : ∀ c ∈ s.toList.head?, c ∉ quoteLetters := by
    intro c hc hletter
    exact h.rest ⟨c, hc, hletter⟩
  rw [Text.unquote, unquoteChars_bare h.bare, String.toList_append,
    dropWhile_letters h.letters hhead, String.ofList_toList]

theorem unquote_eq_self_iff (h : Bare s) : unquote s = s ↔ ¬ StartsLettered s := by
  constructor
  · rintro heq ⟨c, hc, hletter⟩
    have hdrop : (unquote s).toList = s.toList := congrArg String.toList heq
    rw [unquote, String.toList_ofList, unquoteChars_bare h] at hdrop
    obtain ⟨rest, hrest⟩ := List.head?_eq_some_iff.1 hc
    rw [hrest, List.dropWhile_cons_of_pos (isQuoteLetter_iff.2 hletter)] at hdrop
    have hlen : (rest.dropWhile isQuoteLetter).length ≤ rest.length :=
      (List.dropWhile_sublist _).length_le
    rw [hdrop, List.length_cons] at hlen
    omega
  · intro hs
    have hlettered : Lettered "" s := ⟨by simp [Letters], by simpa using h, hs⟩
    simpa using hlettered.unquote

end Text

namespace Ecma

open Text Walk

section

variable (src : Source)

/-- A place under a pair of an object literal, with the text of its key. -/
def Keyed (p : Place) (key : String) : Prop :=
  ∃ parent ∈ p.parent?, parent.kind = "pair" ∧ parent.tree.fieldText? src "key" = some key

/-- A statement that exports all of a module under one name. -/
def ExportsAs (t : Tree) (name : String) : Prop :=
  (t.child? "source").isSome = true ∧
    ∃ part ∈ t.namedChildren, part.kind = "namespace_export" ∧
      ∃ node ∈ part.namedChildren.head?, node.text src = name

instance (p : Place) (key : String) : Decidable (Keyed src p key) :=
  inferInstanceAs (Decidable (∃ parent ∈ p.parent?, parent.kind = "pair" ∧
    parent.tree.fieldText? src "key" = some key))

instance (t : Tree) (name : String) : Decidable (ExportsAs src t name) :=
  inferInstanceAs (Decidable ((t.child? "source").isSome = true ∧
    ∃ part ∈ t.namedChildren, part.kind = "namespace_export" ∧
      ∃ node ∈ part.namedChildren.head?, node.text src = name))

end

variable {src : Source} {p : Place} {t : Tree} {key name : String}

theorem Keyed.ne_empty (h : Keyed src p key) : key ≠ "" := by
  obtain ⟨parent, _, _, hkey⟩ := h
  simp only [Tree.fieldText?, Option.filter_eq_some_iff] at hkey
  simpa using hkey.2

theorem Keyed.bindingName? (h : Keyed src p key) :
    bindingName? src p = if unquote key = "" then none else some (unquote key) := by
  obtain ⟨parent, hparent, hkind, hkey⟩ := h
  have hkind : parent.tree.kind = "pair" := hkind
  simp [Ecma.bindingName?, Option.mem_def.1 hparent, hkind, hkey]

/-- A name that is kept is the key itself. -/
theorem Keyed.bindingName?_eq_key_iff (h : Keyed src p key) :
    Ecma.bindingName? src p = some key ↔ unquote key = key := by
  rw [h.bindingName?]
  constructor
  · intro hname
    split at hname
    · cases hname
    · exact Option.some.inj hname
  · intro hkey
    rw [hkey, if_neg h.ne_empty]

/-- The names that a statement brings in are all imported. -/
theorem mem_statementImports {source : Tree} {imported boundAs : Option String}
    (hsource : t.child? "source" = some source)
    (h : (imported, boundAs) ∈ t.namedChildren.flatMap (statementNames src)) :
    importOf (unquote (source.text src)) imported boundAs (t.startLine src) ∈
      statementImports src t := by
  simp only [statementImports, hsource]
  split
  case h_1 hnil =>
    rw [hnil] at h
    cases h
  case h_2 => exact List.mem_map.2 ⟨_, h, rfl⟩

theorem ExportsAs.mem_statementImports (h : ExportsAs src t name) :
    ∃ i ∈ statementImports src t, i.importedName = some "*" ∧ i.boundAs = some (unquote name) := by
  obtain ⟨hsource, part, hpart, hkind, node, hnode, rfl⟩ := h
  obtain ⟨source, hsource⟩ := Option.isSome_iff_exists.1 hsource
  have hmem : (some "*", some (unquote (node.text src))) ∈
      t.namedChildren.flatMap (statementNames src) := by
    refine List.mem_flatMap.2 ⟨part, hpart, ?_⟩
    simp [statementNames, hkind, Option.mem_def.1 hnode]
  exact ⟨_, Ecma.mem_statementImports hsource hmem, rfl, rfl⟩

/-- Unquoting gives a text back that was quoted, whatever letters stand before the quote. Without
quotes these letters are all that is lost: a text is left as it is if and only if it does not start
with one of them, also as the name of a function under a key or of an exported module. -/
theorem names_unquoted (s : String) :
    (∀ l q, Letters l → q ∈ quotes → (∀ c ∈ q.toList, c ∉ s.toList) →
      unquote (l ++ q ++ s ++ q) = s) ∧
    (∀ l, Lettered l s → unquote (l ++ s) = s) ∧
    (Bare s → (unquote s = s ↔ ¬ StartsLettered s) ∧
      (∀ src p, Keyed src p s → (bindingName? src p = some s ↔ ¬ StartsLettered s)) ∧
      ∀ src t, ExportsAs src t s → ∃ i ∈ statementImports src t, i.importedName = some "*" ∧
        (i.boundAs = some s ↔ ¬ StartsLettered s)) := by
  refine ⟨?_, ?_, ?_⟩
  · intro l q hl hq h
    exact unquote_quoted hl hq h
  · intro l h
    exact h.unquote
  intro hs
  have hself := unquote_eq_self_iff hs
  refine ⟨hself, ?_, ?_⟩
  · intro src p hkey
    rw [hkey.bindingName?_eq_key_iff, hself]
  · intro src t hexport
    obtain ⟨i, hi, hall, hbound⟩ := hexport.mem_statementImports
    exact ⟨i, hi, hall, by rw [hbound, Option.some.injEq, hself]⟩

/-! A function under a key that starts with a letter, and a module exported under a name that
does not. -/

def keyedText : String := "var o = \x7b foo: function () \x7b\x7d \x7d;\n"

def keyedFunction : Tree :=
  sampleNode "function_expression" 15 29 (some "value")
    [sampleToken "function" 15 23,
     sampleNode "formal_parameters" 24 26 (some "parameters")
      [sampleToken "(" 24 25, sampleToken ")" 25 26],
     sampleNode "statement_block" 27 29 (some "body")
      [sampleToken "\x7b" 27 28, sampleToken "\x7d" 28 29]]

def keyedPair : Tree :=
  sampleNode "pair" 10 29 none
    [sampleNode "property_identifier" 10 13 (some "key") [], sampleToken ":" 13 14,
     keyedFunction]

def keyedTree : Tree :=
  sampleNode "program" 0 33 none
    [sampleNode "variable_declaration" 0 32 none
      [sampleToken "var" 0 3,
       sampleNode "variable_declarator" 4 31 none
        [sampleNode "identifier" 4 5 (some "name") [], sampleToken "=" 6 7,
         sampleNode "object" 8 31 (some "value")
          [sampleToken "\x7b" 8 9, keyedPair, sampleToken "\x7d" 30 31]],
       sampleToken ";" 31 32]]

def exportText : String := "export * as ns from \"m\";\n"

def exportNode : Tree :=
  sampleNode "export_statement" 0 24 none
    [sampleToken "export" 0 6,
     sampleNode "namespace_export" 7 14 none
      [sampleToken "*" 7 8, sampleToken "as" 9 11, sampleNode "identifier" 12 14 none []],
     sampleToken "from" 15 19,
     sampleNode "string" 20 23 (some "source") [],
     sampleToken ";" 23 24]

theorem names_unquoted_sample :
    unquote ("Rb" ++ "\"\"\"" ++ "it's" ++ "\"\"\"") = "it's" ∧ unquote ("f" ++ "oo") = "oo" ∧
      unquote "ns" = "ns" ∧
      (∃ p ∈ (Place.root keyedTree).subtree, Keyed (.ofText keyedText) p "foo" ∧
        bindingName? (.ofText keyedText) p ≠ some "foo") ∧
      ExportsAs (.ofText exportText) exportNode "ns" ∧
      ∃ i ∈ statementImports (.ofText exportText) exportNode, i.importedName = some "*" ∧
        i.boundAs = some "ns" := by
  have hoo : Lettered "f" "oo" :=
    ⟨by simp [Letters, quoteLetters], by simp [Bare, quotes],
      by simp [StartsLettered, quoteLetters]⟩
  have hfoo : StartsLettered "foo" := by simp [StartsLettered, quoteLetters]
  have hns : ¬ StartsLettered "ns" := by simp [StartsLettered, quoteLetters]
  have hexport : ExportsAs (.ofText exportText) exportNode "ns" := by decide +kernel
  obtain ⟨p, hp, hkey⟩ : ∃ p ∈ (Place.root keyedTree).subtree,
      Keyed (.ofText keyedText) p "foo" := by decide +kernel
  obtain ⟨-, -, hbare⟩ := names_unquoted "foo"
  obtain ⟨-, hkeyed, -⟩ := hbare (by simp [Bare, quotes])
  obtain ⟨-, -, hbare⟩ := names_unquoted "ns"
  obtain ⟨hself, -, hexports⟩ := hbare (by simp [Bare, quotes])
  obtain ⟨i, hi, hall, hbound⟩ := hexports _ _ hexport
  refine ⟨?_, (names_unquoted "oo").2.1 "f" hoo, hself.2 hns,
    ⟨p, hp, hkey, fun h => (hkeyed _ p hkey).1 h hfoo⟩, hexport, i, hi, hall, hbound.2 hns⟩
  exact (names_unquoted "it's").1 "Rb" "\"\"\"" (by simp [Letters, quoteLetters])
    (by simp [quotes]) (by simp)

/-- A key is no string literal, and yet it loses a letter: the function goes by a name that is
nowhere in the text. -/
theorem bare_key_loses_letter :
    Bare "foo" ∧ unquote "foo" ≠ "foo" ∧
      (∃ p ∈ (Place.root keyedTree).subtree, Keyed (.ofText keyedText) p "foo" ∧
        bindingName? (.ofText keyedText) p ≠ some "foo") ∧
      ∃ r, Parser.ofTree (grammar .javaScript) (some keyedTree) keyedText "a.js" {} = .record r ∧
        r.declarations.map Declaration.name = ["oo"] :=
  ⟨by simp [Bare, quotes], by decide +kernel, by decide +kernel, _, rfl, by decide +kernel⟩

end Ecma

end CodeSurvey
