import CodeSurvey.Proofs.Quotes

/-! The imports of a statement of JavaScript or TypeScript. A statement that names its source itself
is reported, once for each node in it that brings in a name. One that names its source only inside a
clause is not reported at all. -/
namespace CodeSurvey

namespace Place

variable {p q c : Place} {shapes : List (List String)}

/-- The nodes that lead from a node down to one below it, which is the last of them. -/
def way (p q : Place) : List Place := (q.lineage.take (q.depth - p.depth)).reverse

/-- Whether named nodes of the kinds of one of some shapes lead to a node. -/
def leads (shapes : List (List String)) (p q : Place) : Bool :=
  (p.way q).all (·.tree.named) && shapes.contains ((p.way q).map kind)

/-- The nodes that some shapes lead to, in the order of the text. -/
def along (shapes : List (List String)) (p : Place) : List Place :=
  p.subtree.filter (p.leads shapes)

theorem way_self (p : Place) : p.way p = [] := by
  simp [way]

theorem getElem?_lineage (h : p ∈ q.lineage) : q.lineage[q.depth - p.depth]? = some p := by
  induction q with
  | root t =>
    obtain rfl := List.mem_singleton.1 h
    rfl
  | child q b t ih =>
    rcases List.mem_cons.1 h with rfl | h
    · simp [lineage]
    · have hle := depth_le_of_mem_lineage h
      rw [lineage, depth, Nat.sub_add_comm hle, List.getElem?_cons_succ, ih h]

/-- What is below a child is reached through it. -/
theorem way_of_mem_children (hc : c ∈ p.children) (hq : q ∈ c.subtree) :
    p.way q = c :: c.way q := by
  have hmem : c ∈ q.lineage := mem_lineage_of_mem_subtree hq
  have hdepth : q.depth - p.depth = q.depth - c.depth + 1 := by
    have hle := depth_le_of_mem_lineage hmem
    have hchild := depth_of_mem_children hc
    omega
  rw [way, way, hdepth, List.take_add_one, getElem?_lineage hmem, List.reverse_append]
  rfl

theorem namedChildren_tree (p : Place) :
    p.tree.namedChildren = (p.children.filter (·.tree.named)).map tree := by
  rw [Tree.namedChildren, ← map_tree_children, List.filter_map]
  rfl

/-- The shapes that start with some kind, without it. -/
def rests (shapes : List (List String)) (kind : String) : List (List String) :=
  shapes.filterMap ([kind].isPrefixOf? ·)

theorem rests_nil (kind : String) : rests [] kind = [] := rfl

theorem rests_cons (first : String) (more : List String) (shapes : List (List String))
    (kind : String) : rests ((first :: more) :: shapes) kind =
      (if kind = first then [more] else []) ++ rests shapes kind := by
  by_cases h : kind = first <;> simp [rests, List.isPrefixOf?, h]

theorem contains_cons_eq (k : String) (w : List String) :
    shapes.contains (k :: w) = (rests shapes k).contains w := by
  rw [Bool.eq_iff_iff, List.contains_iff_mem, List.contains_iff_mem, rests, List.mem_filterMap]
  constructor
  · intro h
    exact ⟨k :: w, h, List.isPrefixOf?_eq_some_iff_append_eq.2 rfl⟩
  · rintro ⟨shape, hshape, hw⟩
    obtain rfl : k :: w = shape := List.isPrefixOf?_eq_some_iff_append_eq.1 hw
    exact hshape

/-- Below a child, the ways down that start with its kind go on. -/
theorem filter_leads_child (hc : c ∈ p.children) :
    c.subtree.filter (p.leads shapes) =
      if c.tree.named then c.along (rests shapes c.kind) else [] := by
  cases hnamed : c.tree.named with
  | false =>
    rw [if_neg Bool.false_ne_true, List.filter_eq_nil_iff]
    intro q hq
    simp [leads, way_of_mem_children hc hq, hnamed]
  | true =>
    rw [if_pos rfl, along]
    apply List.filter_congr
    intro q hq
    rw [leads, leads, way_of_mem_children hc hq, List.all_cons, List.map_cons, contains_cons_eq,
      hnamed, Bool.true_and]

/-- One step down: some shapes end at the node itself, and the others go on from its children. -/
theorem along_eq (shapes : List (List String)) (p : Place) :
    p.along shapes = (if shapes.contains [] then [p] else []) ++
      (p.children.filter (·.tree.named)).flatMap fun c => c.along (rests shapes c.kind) := by
  have hself : p.leads shapes p = shapes.contains [] := by
    rw [leads, way_self]
    rfl
  rw [along, subtree_eq, List.filter_cons, hself, List.filter_flatMap,
    List.flatMap_congr fun c hc => filter_leads_child hc, ← flatMap_filter]
  split <;> rfl

theorem along_nil (p : Place) : p.along [] = [] := by
  simp [along, leads]

theorem along_self (p : Place) : p.along [[]] = [p] := by
  have hrests : ∀ k, rests [[]] k = [] := fun _ => rfl
  rw [along_eq, List.flatMap_congr fun c _ => (hrests c.kind).symm ▸ along_nil c]
  simp

end Place

namespace Ecma

open Text Walk

/-- The ways down from a statement to what brings in a name: a default name or a whole module in a
clause, and the members of a list. -/
def importShapes : List (List String) :=
  [["import_clause", "identifier"], ["import_clause", "namespace_import"],
   ["import_clause", "named_imports", "import_specifier"],
   ["export_clause", "export_specifier"], ["namespace_export"]]

def isStatement (p : Place) : Bool := p.tree.isOf ["import_statement", "export_statement"]

section

variable (src : Source)

/-- The name that a node brings in, and the one that it goes by. -/
def namesOf (q : Place) : Option String × Option String :=
  match q.kind with
  | "identifier" => (none, some (q.tree.text src))
  | "namespace_import" => (some "*", q.tree.namedChildren.head?.map (·.text src))
  | "namespace_export" =>
    (some "*", q.tree.namedChildren.head?.map fun n => unquote (n.text src))
  | _ => (q.tree.fieldText? src "name", q.tree.fieldText? src "alias")

/-- What is imported by a statement that names its source. -/
structure Imported (p : Place) (source : Tree) (imports : List Import) : Prop where
  each : p.along importShapes ≠ [] →
    imports.map (fun i => (i.importedName, i.boundAs)) = (p.along importShapes).map (namesOf src)
  single : p.along importShapes = [] → imports.length = 1
  carried : ∀ i ∈ imports, i.modulePath = unquote (source.text src) ∧
    i.line = p.tree.startLine src ∧ (i.isRelative = true ↔ ∃ rest, i.modulePath = "." ++ rest)

end

variable {src : Source} {p q c : Place} {t source : Tree} {language : Language}

/-! ### The nodes that bring in names -/

theorem map_along {shapes : List (List String)} {f : Tree → List (Option String × Option String)}
    (hself : shapes.contains [] = false)
    (h : ∀ c : Place, (c.along (Place.rests shapes c.kind)).map (namesOf src) = f c.tree) :
    (p.along shapes).map (namesOf src) = p.tree.namedChildren.flatMap f := by
  rw [Place.along_eq, hself, Place.namedChildren_tree, List.flatMap_map, if_neg Bool.false_ne_true,
    List.nil_append, List.map_flatMap]
  exact List.flatMap_congr fun c _ => h c

theorem specifiers_eq (kind : String) (t : Tree) :
    specifiers src kind t = t.namedChildren.flatMap fun spec =>
      if spec.kind = kind then [(spec.fieldText? src "name", spec.fieldText? src "alias")]
      else [] := by
  rw [specifiers, List.map_eq_flatMap, flatMap_filter]
  simp only [beq_iff_eq]

theorem map_along_specifiers {kind : String}
    (hkind : kind = "import_specifier" ∨ kind = "export_specifier") (p : Place) :
    (p.along [[kind]]).map (namesOf src) = specifiers src kind p.tree := by
  rw [specifiers_eq]
  apply map_along rfl
  intro c
  rw [Place.rests_cons, Place.rests_nil]
  by_cases h : c.kind = kind
  · have hk : c.tree.kind = kind := h
    rcases hkind with rfl | rfl <;> simp [h, hk, Place.along_self, namesOf]
  · have hk : c.tree.kind ≠ kind := h
    simp [h, hk, Place.along_nil]

theorem map_along_clause (p : Place) :
    (p.along (Place.rests importShapes "import_clause")).map (namesOf src) =
      p.tree.namedChildren.flatMap (clauseNames src) := by
  have hrests : Place.rests importShapes "import_clause" =
      [["identifier"], ["namespace_import"], ["named_imports", "import_specifier"]] := rfl
  rw [hrests]
  apply map_along rfl
  intro c
  rw [clauseNames]
  split
  · next h =>
    have hk : c.kind = "identifier" := h
    simp [hk, Place.rests_cons, Place.rests_nil, Place.along_self, namesOf]
  · next h =>
    have hk : c.kind = "namespace_import" := h
    simp [hk, Place.rests_cons, Place.rests_nil, Place.along_self, namesOf]
  · next h =>
    have hk : c.kind = "named_imports" := h
    simp [hk, Place.rests_cons, Place.rests_nil, map_along_specifiers]
  · next h₁ h₂ h₃ =>
    have hk : c.kind ≠ "identifier" ∧ c.kind ≠ "namespace_import" ∧ c.kind ≠ "named_imports" :=
      ⟨h₁, h₂, h₃⟩
    simp [hk, Place.rests_cons, Place.rests_nil, Place.along_nil]

theorem map_along_importShapes (p : Place) :
    (p.along importShapes).map (namesOf src) =
      p.tree.namedChildren.flatMap (statementNames src) := by
  apply map_along rfl
  intro c
  rw [statementNames]
  split
  · next h =>
    have hk : c.kind = "import_clause" := h
    rw [hk, map_along_clause]
  · next h =>
    have hk : c.kind = "export_clause" := h
    simp [hk, importShapes, Place.rests_cons, Place.rests_nil, map_along_specifiers]
  · next h =>
    have hk : c.kind = "namespace_export" := h
    simp [hk, importShapes, Place.rests_cons, Place.rests_nil, Place.along_self, namesOf]
  · next h₁ h₂ h₃ =>
    have hk : c.kind ≠ "import_clause" ∧ c.kind ≠ "export_clause" ∧
        c.kind ≠ "namespace_export" := ⟨h₁, h₂, h₃⟩
    simp [hk, importShapes, Place.rests_cons, Place.rests_nil, Place.along_nil]

/-! ### The imports of a statement -/

theorem imports_of_statement (hp : isStatement p = true) :
    imports src p = statementImports src p.tree := by
  have hk : p.kind ≠ "call_expression" := by
    intro hk
    have hk : p.tree.kind = "call_expression" := hk
    simp [isStatement, Tree.isOf, hk] at hp
  simp [imports, hk]

/-- Every import of a statement is of its source, and there is one even if there are no names. -/
theorem exists_names (src : Source) (h : t.child? "source" = some source) :
    ∃ names, statementImports src t =
        names.map (fun n => importOf (unquote (source.text src)) n.1 n.2 (t.startLine src)) ∧
      names ≠ [] ∧
      (t.namedChildren.flatMap (statementNames src) ≠ [] →
        names = t.namedChildren.flatMap (statementNames src)) ∧
      (t.namedChildren.flatMap (statementNames src) = [] → names.length = 1) := by
  simp only [statementImports, h]
  cases hnames : t.namedChildren.flatMap (statementNames src) with
  | nil =>
    exact ⟨[(if t.kind == "export_statement" then some "*" else none, none)], rfl, by simp⟩
  | cons n ns => exact ⟨n :: ns, rfl, by simp⟩

theorem isRelative_importOf (m : String) (imported boundAs : Option String) (line : Nat) :
    (importOf m imported boundAs line).isRelative = true ↔ ∃ rest, m = "." ++ rest := by
  rw [importOf, startsWith, List.isPrefixOf_iff_prefix]
  constructor
  · rintro ⟨rest, h⟩
    refine ⟨String.ofList rest, ?_⟩
    rw [← String.toList_inj, ← h]
    simp
  · rintro ⟨rest, rfl⟩
    exact ⟨rest.toList, String.toList_append.symm⟩

theorem imported_of_source (hp : isStatement p = true)
    (h : p.tree.child? "source" = some source) : Imported src p source (imports src p) := by
  obtain ⟨names, himports, _, heach, hsingle⟩ := exists_names src h
  rw [← map_along_importShapes, ne_eq, List.map_eq_nil_iff] at heach
  rw [← map_along_importShapes, List.map_eq_nil_iff] at hsingle
  rw [imports_of_statement hp, himports]
  refine ⟨?_, ?_, ?_⟩
  · intro hne
    rw [← heach hne, List.map_map]
    exact List.map_id _
  · intro hnone
    rw [List.length_map, hsingle hnone]
  · intro i hi
    obtain ⟨n, _, rfl⟩ := List.mem_map.1 hi
    exact ⟨rfl, rfl, isRelative_importOf _ _ _ _⟩

/-- A statement is reported exactly if it names its source itself. -/
theorem imports_ne_nil_iff (hp : isStatement p = true) :
    imports src p ≠ [] ↔ (p.tree.child? "source").isSome = true := by
  rw [imports_of_statement hp]
  cases h : p.tree.child? "source" with
  | none => simp [statementImports, h]
  | some source =>
    obtain ⟨names, himports, hne, _⟩ := exists_names src h
    simp [himports, hne]

theorem role_of_statement (hp : isStatement p = true)
    (h : (p.tree.child? "source").isSome = true) : role src p = .imports := by
  have hk : p.kind = "import_statement" ∨ p.kind = "export_statement" := by
    simpa [isStatement, Tree.isOf, Place.kind] using hp
  rcases hk with hk | hk <;> simp [role, hk, h, functionKinds, classKinds]

theorem imports_sublist_extract {root : Tree} {withOutline : Bool}
    (hfatal : isFatal src root (run (grammar language) src root).errorBytes = false)
    (hp : p ∈ (Place.root root).subtree) (hfault : p.tree.isFault = false)
    (hstatement : isStatement p = true) (hsource : (p.tree.child? "source").isSome = true) :
    (imports src p).Sublist (extract (grammar language) src root withOutline).imports := by
  have hat : importsAt (grammar language) src p = imports src p := by
    rw [importsAt, roleOf_grammar hfault, role_of_statement hstatement hsource]
    rfl
  rw [imports_extract hfatal, ← hat, List.flatMap_def]
  exact List.sublist_flatten_of_mem (List.mem_map_of_mem hp)

/-- A statement that names its source is reported: once for each node that brings in a name, with
the names of that node, or once if there is none. All these imports are of the source and on the
first line of the statement, and they come to the record. A statement that does not name its source
itself is not reported. -/
theorem statements_imported (language : Language) (text path : String) (root : Tree)
    (options : ParseOptions) :
    (∀ p ∈ (Place.root root).subtree, isStatement p = true →
      (imports (.ofText text) p ≠ [] ↔ (p.tree.child? "source").isSome = true) ∧
      ∀ source, p.tree.child? "source" = some source →
        Imported (.ofText text) p source (imports (.ofText text) p)) ∧
    (isFatal (.ofText text) root
        (run (grammar language) (.ofText text) root).errorBytes = false →
      ∃ r, Parser.ofTree (grammar language) (some root) text path options = .record r ∧
        ∀ p ∈ (Place.root root).subtree, p.tree.isFault = false → isStatement p = true →
          (p.tree.child? "source").isSome = true →
            (imports (.ofText text) p).Sublist r.imports) := by
  refine ⟨?_, ?_⟩
  · intro p _ hp
    exact ⟨imports_ne_nil_iff hp, fun _ h => imported_of_source hp h⟩
  · intro hfatal
    refine ⟨_, rfl, ?_⟩
    intro p hp hfault hstatement hsource
    exact imports_sublist_extract hfatal hp hfault hstatement hsource

/-! A default name and a member of a list. -/

def importText : String := "import d, \x7b a as b \x7d from \"./m\";\n"

def importNode : Tree :=
  sampleNode "import_statement" 0 32 none
    [sampleToken "import" 0 6,
     sampleNode "import_clause" 7 20 none
      [sampleNode "identifier" 7 8 none [], sampleToken "," 8 9,
       sampleNode "named_imports" 10 20 none
        [sampleToken "\x7b" 10 11,
         sampleNode "import_specifier" 12 18 none
          [sampleNode "identifier" 12 13 (some "name") [], sampleToken "as" 14 16,
           sampleNode "identifier" 17 18 (some "alias") []],
         sampleToken "\x7d" 19 20]],
     sampleToken "from" 21 25,
     sampleNode "string" 26 31 (some "source") [],
     sampleToken ";" 31 32]

def importTree : Tree := sampleNode "program" 0 33 none [importNode]

theorem statements_imported_sample :
    let src : Source := .ofText importText
    let p : Place := .child (.root importTree) [] importNode
    isFatal src importTree (run (grammar .typeScript) src importTree).errorBytes = false ∧
      p ∈ (Place.root importTree).subtree ∧ p.tree.isFault = false ∧ isStatement p = true ∧
      (p.along importShapes).map Place.kind = ["identifier", "import_specifier"] ∧
      (imports src p).map (fun i => (i.importedName, i.boundAs)) =
        [(none, some "d"), (some "a", some "b")] ∧
      (∀ i ∈ imports src p, i.modulePath = "./m" ∧ i.line = 1 ∧ i.isRelative = true) ∧
      ∃ r, Parser.ofTree (grammar .typeScript) (some importTree) importText "a.ts" {} =
        .record r ∧ (imports src p).Sublist r.imports := by
  intro src p
  have hfatal : isFatal src importTree
      (run (grammar .typeScript) src importTree).errorBytes = false := by decide +kernel
  have hp : p ∈ (Place.root importTree).subtree :=
    Place.mem_subtree_of_child List.mem_cons_self
  have hsource : p.tree.child? "source" = some (sampleNode "string" 26 31 (some "source") []) :=
    rfl
  have hkinds : (p.along importShapes).map Place.kind = ["identifier", "import_specifier"] := by
    decide +kernel
  obtain ⟨hstatements, hrecord⟩ :=
    statements_imported .typeScript importText "a.ts" importTree {}
  obtain ⟨r, hr, hreported⟩ := hrecord hfatal
  have himported := (hstatements p hp rfl).2 _ hsource
  refine ⟨hfatal, hp, rfl, rfl, hkinds, ?_, ?_, r, hr, hreported p hp rfl rfl rfl⟩
  · have hne : p.along importShapes ≠ [] := by
      intro hnil
      rw [hnil] at hkinds
      cases hkinds
    rw [himported.each hne]
    decide +kernel
  · intro i hi
    obtain ⟨hmodule, hline, hrelative⟩ := himported.carried i hi
    have hm : i.modulePath = "./m" := hmodule.trans (by decide +kernel)
    exact ⟨hm, hline.trans (by decide +kernel), hrelative.2 ⟨"/m", hm⟩⟩

/-! A source that is named inside a clause. -/

def requireText : String := "import E = require(\"f\");\n"

def requireClause : Tree :=
  sampleNode "import_require_clause" 7 23 none
    [sampleNode "identifier" 7 8 none [], sampleToken "=" 9 10, sampleToken "require" 11 18,
     sampleToken "(" 18 19,
     sampleNode "string" 19 22 (some "source")
      [sampleToken "\"" 19 20, sampleNode "string_fragment" 20 21 none [],
       sampleToken "\"" 21 22],
     sampleToken ")" 22 23]

def requireNode : Tree :=
  sampleNode "import_statement" 0 24 none
    [sampleToken "import" 0 6, requireClause, sampleToken ";" 23 24]

def requireTree : Tree := sampleNode "program" 0 25 none [requireNode]

/-- A statement that imports a module is nowhere in the record. -/
theorem require_clause_not_imported :
    let src : Source := .ofText requireText
    let p : Place := .child (.root requireTree) [] requireNode
    isFatal src requireTree (run (grammar .typeScript) src requireTree).errorBytes = false ∧
      p ∈ (Place.root requireTree).subtree ∧ isStatement p = true ∧
      requireClause ∈ p.tree.children ∧ requireClause.kind = "import_require_clause" ∧
      (requireClause.child? "source").map Tree.kind = some "string" ∧
      (requireClause.fieldText? src "source").map unquote = some "f" ∧
      imports src p = [] ∧
      ∃ r, Parser.ofTree (grammar .typeScript) (some requireTree) requireText "a.ts" {} =
        .record r ∧ r.imports = [] := by
  intro src p
  refine ⟨by decide +kernel, Place.mem_subtree_of_child List.mem_cons_self, rfl,
    List.mem_cons_of_mem _ List.mem_cons_self, rfl, rfl, by decide +kernel, rfl, _, rfl, ?_⟩
  decide +kernel

end Ecma

end CodeSurvey
