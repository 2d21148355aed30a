import CodeSurvey.Proofs.Scopes

/-! What becomes of the names that declarators of JavaScript and TypeScript bind at top level. Each
is reported as a variable, a declaration or an import, unless the value goes by a name of its
own. -/
namespace CodeSurvey

namespace Walk

variable {g : Grammar} {src : Source} {root : Tree} {p : Place} {withOutline : Bool}

theorem imports_extract (hfatal : isFatal src root (run g src root).errorBytes = false) :
    (extract g src root withOutline).imports =
      (Place.root root).subtree.flatMap (importsAt g src) := by
  have he : (extract g src root withOutline).imports = (run g src root).imports.toList := by
    simp [extract, hfatal]
  rw [he, (reads_run g src root).imports]
  simp

/-- A function outside of all that is opened, and of no type elsewhere, is declared by itself. -/
theorem name_mem_of_function {h : FunctionHead} (hp : p ∈ (Place.root root).subtree)
    (ho : opening? g src p = some (.function h)) (howner : h.owner = none)
    (ha : around? g src p = none)
    (hfatal : isFatal src root (run g src root).errorBytes = false) :
    h.name ∈ (extract g src root withOutline).declarations.map Declaration.name := by
  have hf : (p, h) ∈ functionNodes g src root := mem_functionNodes.2 ⟨hp, ho⟩
  have hhome : home? g src root (p, h) = none := by
    simp [home?, owner?, classAround?, howner, ha]
  exact List.mem_map.2 ⟨_, function_mem_declarations hf hhome hfatal, name_declOf (p, h)⟩

theorem name_mem_of_classLike {h : ClassHead} (hp : p ∈ (Place.root root).subtree)
    (ho : opening? g src p = some (.classLike h))
    (hfatal : isFatal src root (run g src root).errorBytes = false) :
    h.name ∈ (extract g src root withOutline).declarations.map Declaration.name := by
  have hc : (p, h) ∈ classNodes g src root := mem_classNodes.2 ⟨hp, ho⟩
  exact List.mem_map.2 ⟨_, class_mem_declarations hc hfatal, name_filedClass (p, h)⟩

end Walk

namespace Ecma

open Walk

section

variable (src : Source)

/-- A tree as it is built of a text without faults: every declarator is a named node, and something
is written at every identifier. -/
structure Parsed (root : Tree) : Prop where
  sound : ∀ p ∈ (Place.root root).subtree, p.tree.isFault = false
  named : ∀ p ∈ (Place.root root).subtree, p.kind = "variable_declarator" → p.tree.named = true
  written : ∀ p ∈ (Place.root root).subtree, p.kind = "identifier" → p.tree.text src ≠ ""

/-- One of the declarators of a declaration binds a name. -/
structure Declares (p : Place) (declarator : Tree) (name : String) : Prop where
  declaration : p.tree.isOf ["lexical_declaration", "variable_declaration"] = true
  child : declarator ∈ p.tree.children
  kind : declarator.kind = "variable_declarator"
  name : identifierText? src (declarator.child? "name") = some name

/-- The value of a declarator is a function or a class with some name of its own. -/
def NamesValue (declarator : Tree) (own : String) : Prop :=
  ∃ value, declarator.child? "value" = some value ∧ value.isOf declarationValues = true ∧
    value.fieldText? src "name" = some own

/-- A name is that of a variable or a declaration of a record, or what an import is bound as. -/
def Reported (r : FileRecord) (name : String) : Prop :=
  name ∈ r.globals.map Variable.name ∨ name ∈ r.declarations.map Declaration.name ∨
    some name ∈ r.imports.map Import.boundAs

end

variable {src : Source} {root declarator : Tree} {p q d : Place} {n : String}
  {language : Language}

/-! ### Roles -/

theorem role_of_declaration
    (h : p.tree.isOf ["lexical_declaration", "variable_declaration"] = true) :
    role src p = .binding := by
  have hk : p.kind = "lexical_declaration" ∨ p.kind = "variable_declaration" := by
    simpa [Tree.isOf, Place.kind] using h
  rcases hk with hk | hk <;> simp [role, hk, functionKinds, classKinds]

theorem role_of_declarator (h : p.kind = "variable_declarator") : role src p = .other := by
  simp [role, h, functionKinds, classKinds, nestingKinds]

variable (src) in
theorem role_of_declarationValue (h : p.tree.isOf declarationValues = true) :
    role src p = .function ∨ role src p = .classLike := by
  have hk : p.kind = "arrow_function" ∨ p.kind = "function_expression" ∨ p.kind = "function" ∨
      p.kind = "generator_function" ∨ p.kind = "class" := by
    simpa [Tree.isOf, declarationValues, Place.kind] using h
  rcases hk with hk | hk | hk | hk | hk <;> simp [role, hk, functionKinds, classKinds]

theorem kind_of_requireTarget {t : Tree} (h : (requireTarget? src t).isSome = true) :
    t.kind = "call_expression" := by
  by_contra hk
  have hguard : guard (t.kind == "call_expression") = (none : Option Unit) :=
    if_neg (by simpa using hk)
  rw [requireTarget?, hguard] at h
  cases h

theorem role_of_require (h : (requireTarget? src p.tree).isSome = true) :
    role src p = .imports := by
  have hk : p.kind = "call_expression" := kind_of_requireTarget h
  simp [role, hk, h, functionKinds, classKinds]

theorem roleOf_grammar (hp : p.tree.isFault = false) :
    roleOf (grammar language) src p = role src p := by
  simp [roleOf, hp, grammar]

/-! ### The places of a declarator and its value -/

/-- Neither a declaration nor a declarator opens anything, so that what is below the declarator is
as far outside as the declaration is. -/
theorem Declares.around? (h : Declares src p declarator n) (hroot : Parsed src root)
    (hp : p ∈ (Place.root root).subtree) (hd : d ∈ p.children) (htree : d.tree = declarator)
    (hq : q ∈ d.children) :
    around? (grammar language) src q = CodeSurvey.around? (grammar language) src p := by
  have hdroot : d ∈ (Place.root root).subtree := Place.mem_subtree_of_mem_children hp hd
  have hkind : d.kind = "variable_declarator" := by
    rw [Place.kind, htree, h.kind]
  have hpnone : opening? (grammar language) src p = none := by
    simp [opening?, roleOf_grammar (hroot.sound p hp), role_of_declaration h.declaration]
  have hdnone : opening? (grammar language) src d = none := by
    simp [opening?, roleOf_grammar (hroot.sound d hdroot), role_of_declarator hkind]
  rw [around?_child_of_none hdnone hq, around?_child_of_none hpnone hd]

theorem Declares.exists_place (h : Declares src p declarator n)
    (hp : p ∈ (Place.root root).subtree) :
    ∃ d ∈ p.children, d.tree = declarator ∧ d ∈ (Place.root root).subtree := by
  obtain ⟨d, hd, htree⟩ := Place.exists_place_of_mem_children h.child
  exact ⟨d, hd, htree, Place.mem_subtree_of_mem_children hp hd⟩

theorem exists_place_of_child? {c : Tree} {field : String} (hd : d ∈ (Place.root root).subtree)
    (h : d.tree.child? field = some c) :
    ∃ q ∈ d.children, q.tree = c ∧ q ∈ (Place.root root).subtree := by
  obtain ⟨q, hq, htree⟩ := Place.exists_place_of_mem_children (List.mem_of_find?_eq_some h)
  exact ⟨q, hq, htree, Place.mem_subtree_of_mem_children hd hq⟩

theorem Declares.name_ne (h : Declares src p declarator n) (hroot : Parsed src root)
    (hd : d ∈ (Place.root root).subtree) (htree : d.tree = declarator) : n ≠ "" := by
  have hname := h.name
  simp only [identifierText?, Option.map_eq_some_iff, Option.filter_eq_some_iff, beq_iff_eq]
    at hname
  obtain ⟨t, ⟨ht, hk⟩, rfl⟩ := hname
  obtain ⟨q, _, rfl, hq⟩ := exists_place_of_child? hd (htree ▸ ht)
  exact hroot.written q hq hk

/-! ### What a declarator stands for -/

/-- A plain value makes the declarator a variable. -/
theorem Declares.mem_bindings (h : Declares src p declarator n) (hnamed : declarator.named = true)
    (hvalue : (declarator.child? "value").any (isDeclarationValue src) = false) :
    n ∈ (bindings src p).map Variable.name := by
  have hfields : p.tree.isOf
      ["field_definition", "public_field_definition", "property_signature"] = false := by
    have hk : p.tree.kind = "lexical_declaration" ∨ p.tree.kind = "variable_declaration" := by
      simpa [Tree.isOf] using h.declaration
    rcases hk with hk | hk <;> simp [Tree.isOf, hk]
  have hvariable : declaratorVariable? src declarator = some (variableOf src n declarator) := by
    simp [declaratorVariable?, h.name, hvalue]
  have hchild : declarator ∈ p.tree.namedChildren.filter (·.kind == "variable_declarator") := by
    rw [List.mem_filter, Tree.namedChildren, List.mem_filter]
    exact ⟨⟨h.child, hnamed⟩, by simp [h.kind]⟩
  simp only [bindings, hfields, Bool.false_eq_true, ↓reduceIte]
  exact List.mem_map.2 ⟨_, List.mem_filterMap.2 ⟨_, hchild, hvariable⟩, rfl⟩

/-- A call that requires a module is imported as the name of its declarator. -/
theorem Declares.mem_imports (h : Declares src p declarator n) (htree : d.tree = declarator)
    (hq : q ∈ d.children) (hrequire : (requireTarget? src q.tree).isSome = true) :
    some n ∈ (imports src q).map Import.boundAs := by
  obtain ⟨path, hpath⟩ := Option.isSome_iff_exists.1 hrequire
  have hk : q.kind = "call_expression" := kind_of_requireTarget hrequire
  have hdk : d.kind = "variable_declarator" := by
    rw [Place.kind, htree, h.kind]
  have hname : identifierText? src (d.tree.child? "name") = some n := by
    rw [htree, h.name]
  have hparent : q.parent?.filter (·.kind == "variable_declarator") = some d := by
    rw [Place.parent?_of_mem_children hq, Option.filter_some_pos (by simp [hdk])]
  simp [imports, hk, requireImport, hpath, hparent, hname, importOf]

/-- A function or class goes by its own name, and only without one by that of its declarator. -/
theorem Declares.name? (h : Declares src p declarator n) (hn : n ≠ "")
    (htree : d.tree = declarator) (hq : q ∈ d.children) :
    name? src q = some ((q.tree.fieldText? src "name").getD n) := by
  have hbinding : bindingName? src q = some n := by
    simp [bindingName?, Place.parent?_of_mem_children hq, htree, h.kind, h.name, hn]
  rw [Ecma.name?, hbinding]
  cases q.tree.fieldText? src "name" <;> rfl

theorem opening?_of_declarationValue {m : String} (hq : q.tree.isFault = false)
    (hvalue : q.tree.isOf declarationValues = true) (hname : name? src q = some m) :
    (∃ h, opening? (grammar language) src q = some (.function h) ∧ h.name = m ∧ h.owner = none) ∨
      ∃ h, opening? (grammar language) src q = some (.classLike h) ∧ h.name = m := by
  have hkind : q.kind ≠ "method_signature" := by
    intro hk
    have hk : q.tree.kind = "method_signature" := hk
    simp [Tree.isOf, hk, declarationValues] at hvalue
  rcases role_of_declarationValue src hvalue with hrole | hrole
  · left
    obtain ⟨h, hhead, hm, howner⟩ : ∃ h, (grammar language).function src q = some h ∧
        h.name = m ∧ h.owner = none := by
      simp [grammar, function, hkind, hname]
    refine ⟨h, ?_, hm, howner⟩
    simp [opening?, roleOf_grammar hq, hrole, hhead]
  · right
    obtain ⟨h, hhead, hm⟩ : ∃ h, (grammar language).classLike src q = some h ∧ h.name = m := by
      simp [grammar, classLike, hname]
    refine ⟨h, ?_, hm⟩
    simp [opening?, roleOf_grammar hq, hrole, hhead]

/-! ### What is read from the tree -/

section

variable {withOutline : Bool} {value : Tree} (h : Declares src p declarator n)
  (hroot : Parsed src root) (hp : p ∈ (Place.root root).subtree)
  (hfatal : isFatal src root (run (grammar language) src root).errorBytes = false)
include h hroot hp hfatal

theorem Declares.mem_globals_extract (ha : CodeSurvey.around? (grammar language) src p = none)
    (hvalue : (declarator.child? "value").any (isDeclarationValue src) = false) :
    n ∈ (extract (grammar language) src root withOutline).globals.map Variable.name := by
  obtain ⟨d, _, htree, hd⟩ := h.exists_place hp
  have hnamed : declarator.named = true := by
    rw [← htree]
    exact hroot.named d hd (by rw [Place.kind, htree, h.kind])
  have hscope : p ∈ bindingNodesIn (grammar language) src root none := by
    refine mem_bindingNodesIn.2 ⟨hp, ?_, by rw [ha]; rfl⟩
    rw [roleOf_grammar (hroot.sound p hp), role_of_declaration h.declaration]
  obtain ⟨v, hv, rfl⟩ := List.mem_map.1 (h.mem_bindings hnamed hvalue)
  rw [globals_extract hfatal]
  exact List.mem_map_of_mem (List.mem_flatMap.2 ⟨p, hscope, hv⟩)

theorem Declares.mem_imports_extract (hchild : declarator.child? "value" = some value)
    (hrequire : (requireTarget? src value).isSome = true) :
    some n ∈ (extract (grammar language) src root withOutline).imports.map Import.boundAs := by
  obtain ⟨d, _, htree, hd⟩ := h.exists_place hp
  obtain ⟨q, hq, rfl, hqroot⟩ := exists_place_of_child? hd (htree ▸ hchild)
  have hat : importsAt (grammar language) src q = imports src q := by
    rw [importsAt, roleOf_grammar (hroot.sound q hqroot), role_of_require hrequire]
    rfl
  obtain ⟨i, hi, hbound⟩ := List.mem_map.1 (h.mem_imports htree hq hrequire)
  rw [imports_extract hfatal, ← hbound]
  exact List.mem_map_of_mem (List.mem_flatMap.2 ⟨q, hqroot, hat ▸ hi⟩)

theorem Declares.mem_declarations_extract
    (ha : CodeSurvey.around? (grammar language) src p = none)
    (hchild : declarator.child? "value" = some value)
    (hvalue : value.isOf declarationValues = true) :
    (value.fieldText? src "name").getD n ∈
      (extract (grammar language) src root withOutline).declarations.map Declaration.name := by
  obtain ⟨d, hdp, htree, hd⟩ := h.exists_place hp
  obtain ⟨q, hq, rfl, hqroot⟩ := exists_place_of_child? hd (htree ▸ hchild)
  have hqa : CodeSurvey.around? (grammar language) src q = none :=
    (h.around? hroot hp hdp htree hq).trans ha
  have hname := h.name? (h.name_ne hroot hd htree) htree hq
  rcases opening?_of_declarationValue (hroot.sound q hqroot) hvalue hname with
    ⟨head, ho, hm, howner⟩ | ⟨head, ho, hm⟩
  · rw [← hm]
    exact name_mem_of_function hqroot ho howner hqa hfatal
  · rw [← hm]
    exact name_mem_of_classLike hqroot ho hfatal

end

/-- Every name that a declarator binds outside of all functions and classes is reported. Only a
function or class with another name of its own stands in the place of its declarator, and is
declared by that name. -/
theorem declarators_reported (language : Language) (text path : String) (root : Tree)
    (options : ParseOptions) (hroot : Parsed (.ofText text) root)
    (hfatal : isFatal (.ofText text) root
      (run (grammar language) (.ofText text) root).errorBytes = false) :
    ∃ r, Parser.ofTree (grammar language) (some root) text path options = .record r ∧
      ∀ p ∈ (Place.root root).subtree, around? (grammar language) (.ofText text) p = none →
        ∀ declarator n, Declares (.ofText text) p declarator n →
          Reported r n ∨ ∃ own, NamesValue (.ofText text) declarator own ∧ own ≠ n ∧
            own ∈ r.declarations.map Declaration.name := by
  refine ⟨_, rfl, ?_⟩
  intro p hp ha declarator n h
  by_cases hplain : (declarator.child? "value").any (isDeclarationValue (.ofText text)) = false
  · exact .inl (.inl (h.mem_globals_extract hroot hp hfatal ha hplain))
  rw [Bool.not_eq_false, Option.any_eq_true] at hplain
  obtain ⟨value, hchild, hvalue⟩ := hplain
  by_cases hdecl : value.isOf declarationValues = true
  · have hdeclared : (value.fieldText? (.ofText text) "name").getD n ∈ (extract (grammar language)
        (.ofText text) root options.includeOutline).declarations.map Declaration.name :=
      h.mem_declarations_extract hroot hp hfatal ha hchild hdecl
    cases hown : value.fieldText? (.ofText text) "name" with
    | none =>
      rw [hown] at hdeclared
      exact .inl (.inr (.inl hdeclared))
    | some own =>
      rw [hown] at hdeclared
      by_cases hsame : own = n
      · exact .inl (.inr (.inl (hsame ▸ hdeclared)))
      · exact .inr ⟨own, ⟨value, hchild, hdecl, hown⟩, hsame, hdeclared⟩
  · have hrequire : (requireTarget? (.ofText text) value).isSome = true := by
      simpa [isDeclarationValue, hdecl] using hvalue
    exact .inl (.inr (.inr (h.mem_imports_extract hroot hp hfatal hchild hrequire)))

/-! Three declarators: a variable, a function and a module. -/

def declaratorsText : String := "const a = 1, b = () => 2, c = require(\"m\");"

def arrowDeclarator : Tree :=
  sampleNode "variable_declarator" 13 24 none
    [sampleNode "identifier" 13 14 (some "name") [],
     sampleNode "arrow_function" 17 24 (some "value")
      [sampleNode "formal_parameters" 17 19 (some "parameters") [],
       sampleNode "number" 23 24 (some "body") []]]

def declaratorsNode : Tree :=
  sampleNode "lexical_declaration" 0 43 none
    [sampleNode "variable_declarator" 6 11 none
      [sampleNode "identifier" 6 7 (some "name") [], sampleNode "number" 10 11 (some "value") []],
     arrowDeclarator,
     sampleNode "variable_declarator" 26 42 none
      [sampleNode "identifier" 26 27 (some "name") [],
       sampleNode "call_expression" 30 42 (some "value")
        [sampleNode "identifier" 30 37 (some "function") [],
         sampleNode "arguments" 37 42 (some "arguments") [sampleNode "string" 38 41 none []]]]]

def declaratorsTree : Tree := sampleNode "program" 0 43 none [declaratorsNode]

theorem declarators_reported_sample :
    let src : Source := .ofText declaratorsText
    let p : Place := .child (.root declaratorsTree) [] declaratorsNode
    Parsed src declaratorsTree ∧
      isFatal src declaratorsTree
        (run (grammar .javaScript) src declaratorsTree).errorBytes = false ∧
      p ∈ (Place.root declaratorsTree).subtree ∧ around? (grammar .javaScript) src p = none ∧
      Declares src p arrowDeclarator "b" ∧
      ∃ r, Parser.ofTree (grammar .javaScript) (some declaratorsTree) declaratorsText "a.js" {} =
          .record r ∧ Reported r "b" ∧ r.globals.map Variable.name = ["a"] ∧
        r.imports.map Import.boundAs = [some "c"] := by
  intro src p
  have hroot : Parsed src declaratorsTree :=
    ⟨by decide +kernel, by decide +kernel, by decide +kernel⟩
  have hfatal : isFatal src declaratorsTree
      (run (grammar .javaScript) src declaratorsTree).errorBytes = false := by decide +kernel
  have hp : p ∈ (Place.root declaratorsTree).subtree :=
    Place.mem_subtree_of_child List.mem_cons_self
  have ha : around? (grammar .javaScript) src p = none :=
    Option.isNone_iff_eq_none.1 (by decide +kernel)
  have h : Declares src p arrowDeclarator "b" :=
    ⟨by decide +kernel, List.mem_cons_of_mem _ List.mem_cons_self, rfl, by decide +kernel⟩
  obtain ⟨r, hr, hreported⟩ :=
    declarators_reported .javaScript declaratorsText "a.js" declaratorsTree {} hroot hfatal
  refine ⟨hroot, hfatal, hp, ha, h, r, hr, ?_, ?_⟩
  · rcases hreported p hp ha arrowDeclarator "b" h with hb | ⟨own, ⟨value, hvalue, _, hown⟩, _⟩
    · exact hb
    · cases hvalue
      cases hown
  · cases hr
    decide +kernel

/-! A function with a name of its own: the name of its declarator is nowhere in the record. -/

def namedFunctionText : String := "const f = function g() \x7b\x7d;\n"

def sampleToken (kind : String) (start stop : Nat) : Tree :=
  .node
    { kind, start, stop, field := none, named := false, isError := false, isMissing := false } []

def namedFunctionDeclarator : Tree :=
  sampleNode "variable_declarator" 6 25 none
    [sampleNode "identifier" 6 7 (some "name") [],
     sampleToken "=" 8 9,
     sampleNode "function_expression" 10 25 (some "value")
      [sampleToken "function" 10 18,
       sampleNode "identifier" 19 20 (some "name") [],
       sampleNode "formal_parameters" 20 22 (some "parameters")
        [sampleToken "(" 20 21, sampleToken ")" 21 22],
       sampleNode "statement_block" 23 25 (some "body")
        [sampleToken "\x7b" 23 24, sampleToken "\x7d" 24 25]]]

def namedFunctionNode : Tree :=
  sampleNode "lexical_declaration" 0 26 none
    [.node { (sampleToken "const" 0 5).label with field := some "kind" } [],
     namedFunctionDeclarator, sampleToken ";" 25 26]

def namedFunctionTree : Tree := sampleNode "program" 0 27 none [namedFunctionNode]

theorem named_function_hides_declarator :
    let src : Source := .ofText namedFunctionText
    let p : Place := .child (.root namedFunctionTree) [] namedFunctionNode
    Parsed src namedFunctionTree ∧
      isFatal src namedFunctionTree
        (run (grammar .javaScript) src namedFunctionTree).errorBytes = false ∧
      p ∈ (Place.root namedFunctionTree).subtree ∧ around? (grammar .javaScript) src p = none ∧
      Declares src p namedFunctionDeclarator "f" ∧
      ∃ r, Parser.ofTree (grammar .javaScript) (some namedFunctionTree) namedFunctionText "a.js"
          {} = .record r ∧ ¬ Reported r "f" := by
  intro src p
  refine ⟨⟨by decide +kernel, by decide +kernel, by decide +kernel⟩, by decide +kernel,
    Place.mem_subtree_of_child List.mem_cons_self,
    Option.isNone_iff_eq_none.1 (by decide +kernel),
    ⟨by decide +kernel, List.mem_cons_of_mem _ List.mem_cons_self, rfl, by decide +kernel⟩,
    _, rfl, ?_⟩
  unfold Reported
  decide +kernel

end Ecma

end CodeSurvey
