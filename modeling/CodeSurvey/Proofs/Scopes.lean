import CodeSurvey.Proofs.Lines

/-! What a node binds goes by its scope: the variables of a file are bound outside of all that is
opened, and the fields of a class directly in it. -/
namespace CodeSurvey.Walk

section

variable (g : Grammar) (src : Source) (root : Tree)

/-- The nodes that bind names, each before those below it. -/
def bindingNodes : List Place :=
  (Place.root root).subtree.filter fun p => roleOf g src p = .binding

open Classical in
/-- The binding nodes whose scope is what some node opens, or the file if there is none. -/
noncomputable def bindingNodesIn (scope : Option Place) : List Place :=
  (bindingNodes g src root).filter fun p => (around? g src p).map Prod.fst = scope

/-- What is bound in a scope, in the order of the text. -/
noncomputable def boundIn (scope : Option Place) : List Variable :=
  (bindingNodesIn g src root scope).flatMap (g.bindings src)

end

variable {g : Grammar} {src : Source} {root : Tree} {p : Place} {scope : Option Place}
  {c : Place × ClassHead} {withOutline : Bool}

theorem mem_bindingNodesIn :
    p ∈ bindingNodesIn g src root scope ↔ p ∈ (Place.root root).subtree ∧
      roleOf g src p = .binding ∧ (around? g src p).map Prod.fst = scope := by
  classical
  rw [bindingNodesIn, bindingNodes, List.mem_filter, List.mem_filter, decide_eq_true_iff,
    decide_eq_true_iff, and_assoc]

theorem flatMap_bindingsAt (ps : List Place) :
    ps.flatMap (bindingsAt g src) =
      (ps.filter fun p => roleOf g src p = .binding).flatMap (g.bindings src) := by
  induction ps with
  | nil => rfl
  | cons p ps ih =>
    rw [List.flatMap_cons, ih, bindingsAt]
    cases hr : roleOf g src p <;> simp [hr]

open Classical in
/-- What the nodes of a scope bind is what its binding nodes bind. -/
theorem flatMap_bindingsAt_filter (scope : Option Place) :
    ((Place.root root).subtree.filter fun p => (around? g src p).map Prod.fst = scope).flatMap
        (bindingsAt g src) = boundIn g src root scope := by
  rw [flatMap_bindingsAt, List.filter_comm]
  rfl

/-! ### Variables -/

theorem flatMap_globalsAt (ps : List Place) :
    ps.flatMap (globalsAt g src) =
      (ps.filter fun p => (around? g src p).isNone).flatMap (bindingsAt g src) := by
  induction ps with
  | nil => rfl
  | cons p ps ih =>
    rw [List.flatMap_cons, ih, globalsAt]
    cases ha : around? g src p <;> simp [ha]

theorem globals_extract (hfatal : isFatal src root (run g src root).errorBytes = false) :
    (extract g src root withOutline).globals = boundIn g src root none := by
  have he : (extract g src root withOutline).globals = (run g src root).globals.toList := by
    simp [extract, hfatal]
  have hrun : (run g src root).globals.toList =
      (Place.root root).subtree.flatMap (globalsAt g src) := by
    rw [(reads_run g src root).globals]
    simp
  rw [he, hrun, flatMap_globalsAt, ← flatMap_bindingsAt_filter]
  congr 1
  apply List.filter_congr
  intro p _
  cases around? g src p <;> simp

/-! ### Fields -/

theorem fields_ownClass (hc : c ∈ classNodes g src root) :
    (ownClass g src c.1 c.2).fields = (boundIn g src root (some c.1)).map Variable.name := by
  obtain ⟨hp, ho⟩ := mem_classNodes.1 hc
  obtain ⟨_, hown⟩ := @ownClass_eq g src c
  have hfields : (ownClass g src c.1 c.2).fields =
      ((interior g src c.1).flatMap (bindingsAt g src)).map Variable.name := by
    rw [hown, List.map_flatMap]
    rfl
  rw [hfields, interior_eq hp ho, ← flatMap_bindingsAt_filter]
  congr 2
  apply List.filter_congr
  intro p hp
  rw [decide_eq_decide, around?_iff hp ho]

/-- Neither methods nor bases from outside change the fields of a class. -/
theorem fields_listedClass (c : Place × ClassHead) :
    (listedClass g src root c).fields = (ownClass g src c.1 c.2).fields := by
  obtain ⟨_, hfiled⟩ := filedClass_eq g src root c
  rw [listedClass, hfiled]
  rfl

/-! ### Scopes -/

/-- A record lists what was read from the tree. -/
theorem declarations_ofTree {text path : String} {options : ParseOptions} {r : FileRecord}
    (h : Parser.ofTree g (some root) text path options = .record r) :
    r.declarations = (extract g (.ofText text) root options.includeOutline).declarations := by
  cases h
  rfl

variable (g src root) in
/-- What a record says of the bindings of its tree: its variables are those of the file, each of
its classes has the fields of one node, and what is bound in a function or an impl block is
nowhere. -/
structure Scoped (r : FileRecord) : Prop where
  globals : r.globals = boundIn g src root none
  fields : ∃ nodes, nodes.Perm (classNodes g src root) ∧
    List.Forall₂ (fun d c => d = listedClass g src root c ∧
      d.fields = (boundIn g src root (some c.1)).map Variable.name) r.classes nodes
  hidden : ∀ p q o, around? g src p = some (q, o) → (∀ h, o ≠ .classLike h) →
    p ∉ bindingNodesIn g src root none ∧
      ∀ c ∈ classNodes g src root, p ∉ bindingNodesIn g src root (some c.1)

theorem notMem_bindingNodesIn_none {a : Place × Opening} (ha : around? g src p = some a) :
    p ∉ bindingNodesIn g src root none := by
  intro hp
  have hscope := (mem_bindingNodesIn.1 hp).2.2
  rw [ha] at hscope
  cases hscope

/-- A node has one scope only, so what is bound in anything but a class is no field. -/
theorem notMem_bindingNodesIn_class {q : Place} {o : Opening} (ha : around? g src p = some (q, o))
    (ho : ∀ h, o ≠ .classLike h) (hc : c ∈ classNodes g src root) :
    p ∉ bindingNodesIn g src root (some c.1) := by
  intro hp
  obtain ⟨hroot, -, hscope⟩ := mem_bindingNodesIn.1 hp
  have hclass := (around?_iff hroot (mem_classNodes.1 hc).2).1 hscope
  rw [ha] at hclass
  cases hclass
  exact ho c.2 rfl

/-- Every name that a file binds is reported by its scope. -/
theorem bindings_scoped (g : Grammar) (text path : String) (root : Tree) (options : ParseOptions)
    (hfatal : isFatal (.ofText text) root (run g (.ofText text) root).errorBytes = false) :
    ∃ r, Parser.ofTree g (some root) text path options = .record r ∧
      Scoped g (.ofText text) root r := by
  refine ⟨_, rfl, ?_⟩
  exact {
    globals := globals_extract hfatal
    fields := by
      have hpaired : List.Forall₂ (fun d c => d = listedClass g (.ofText text) root c ∧
          d.fields = (boundIn g (.ofText text) root (some c.1)).map Variable.name)
          ((classNodes g (.ofText text) root).map (listedClass g (.ofText text) root))
          (classNodes g (.ofText text) root) := by
        rw [List.forall₂_map_left_iff, List.forall₂_same]
        intro c hc
        exact ⟨rfl, (fields_listedClass c).trans (fields_ownClass hc)⟩
      obtain ⟨nodes, hnodes, hperm⟩ :=
        List.perm_comp_forall₂ (allClasses_extract _ hfatal) hpaired
      exact ⟨nodes, hperm, hnodes⟩
    hidden := fun p q o ha ho =>
      ⟨notMem_bindingNodesIn_none ha, fun c hc => notMem_bindingNodesIn_class ha ho hc⟩ }

/-! A variable, a field, a name bound in a method, and a class with a field in the method. -/

def scopesText : String :=
  "x = 1\nclass C:\n y = 2\n def m(self):\n  z = 3\n  class D:\n   w = 4\n"

def assignmentNode (start : Nat) : Tree :=
  sampleNode "expression_statement" start (start + 5) none
    [sampleNode "assignment" start (start + 5) none
      [sampleNode "identifier" start (start + 1) (some "left") [],
       sampleNode "integer" (start + 4) (start + 5) (some "right") []]]

def scopesTree : Tree :=
  sampleNode "module" 0 64 none
    [assignmentNode 0,
     sampleNode "class_definition" 6 63 none
      [sampleNode "identifier" 12 13 (some "name") [],
       sampleNode "block" 16 63 (some "body")
        [assignmentNode 16,
         sampleNode "function_definition" 23 63 none
          [sampleNode "identifier" 27 28 (some "name") [],
           sampleNode "parameters" 28 34 (some "parameters")
            [sampleNode "identifier" 29 33 none []],
           sampleNode "block" 38 63 (some "body")
            [assignmentNode 38,
             sampleNode "class_definition" 46 63 none
              [sampleNode "identifier" 52 53 (some "name") [],
               sampleNode "block" 58 63 (some "body") [assignmentNode 58]]]]]]]

theorem bindings_scoped_sample :
    isFatal (.ofText scopesText) scopesTree
        (run Python.grammar (.ofText scopesText) scopesTree).errorBytes = false ∧
      ∃ r, Parser.ofTree Python.grammar (some scopesTree) scopesText "a.py" {} = .record r ∧
        Scoped Python.grammar (.ofText scopesText) scopesTree r ∧
        r.globals.map Variable.name = ["x"] ∧
        (r.classes.map fun c => (c.name, c.fields)).Perm [("D", ["w"]), ("C", ["y"])] := by
  have hfatal : isFatal (.ofText scopesText) scopesTree
      (run Python.grammar (.ofText scopesText) scopesTree).errorBytes = false := by decide +kernel
  have hwalked : ((run Python.grammar (.ofText scopesText) scopesTree).assemble.classes.map
      ClassDecl.sortMethods).map (fun c => (c.name, c.fields)) = [("D", ["w"]), ("C", ["y"])] := by
    decide +kernel
  obtain ⟨r, hr, hscoped⟩ := bindings_scoped Python.grammar scopesText "a.py" scopesTree {} hfatal
  refine ⟨hfatal, r, hr, hscoped, ?_, ?_⟩
  · cases hr
    decide +kernel
  · rw [FileRecord.classes, declarations_ofTree hr, declarations_extract hfatal, ← hwalked]
    exact (allClasses_declarations _).map _

end CodeSurvey.Walk
