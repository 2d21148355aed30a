import CodeSurvey.Grammar.Rust
import CodeSurvey.Proofs.Places
import Mathlib.Data.List.Forall2

/-! Use trees of Rust. They name one path for each of their leaves, and an import tells the path
that it stands for. -/
namespace CodeSurvey

namespace Text

variable {sep a b s : List Char} {c : Char}

/-! ### Cutting at the last separator -/

theorem eq_of_cutLast? (h : cutLast? sep s = some (a, b)) : s = a ++ (sep ++ b) := by
  induction s generalizing a with
  | nil => cases h
  | cons c s ih =>
    rw [cutLast?] at h
    split at h
    · next a' b' hcut =>
      cases h
      rw [ih hcut, List.cons_append]
    · next hcut =>
      rw [Option.map_eq_some_iff] at h
      obtain ⟨rest, hrest, he⟩ := h
      cases he
      exact (List.isPrefixOf?_eq_some_iff_append_eq.1 hrest).symm

/-- A separator is the last one if none starts inside it or after it. -/
theorem cutLast?_append (h : cutLast? (c :: sep) (sep ++ b) = none) (a : List Char) :
    cutLast? (c :: sep) (a ++ (c :: sep ++ b)) = some (a, b) := by
  induction a with
  | nil =>
    have hhere : (c :: sep).isPrefixOf? (c :: (sep ++ b)) = some b :=
      List.isPrefixOf?_eq_some_iff_append_eq.2 rfl
    rw [List.nil_append, List.cons_append, cutLast?, h]
    simp [hhere]
  | cons x a ih =>
    rw [List.cons_append, cutLast?, ih]

/-! ### Cutting at the first separator -/

theorem eq_of_cutFirst? (h : cutFirst? sep s = some (a, b)) : s = a ++ (sep ++ b) := by
  induction s generalizing a with
  | nil => cases h
  | cons c s ih =>
    rw [cutFirst?] at h
    split at h
    · next rest hrest =>
      cases h
      exact (List.isPrefixOf?_eq_some_iff_append_eq.1 hrest).symm
    · rw [Option.map_eq_some_iff] at h
      obtain ⟨⟨a', b'⟩, hcut, he⟩ := h
      cases he
      rw [ih hcut, List.cons_append]

theorem isPrefixOf?_cons_of_ne {x : Char} (h : c ≠ x) :
    (c :: sep).isPrefixOf? (x :: s) = none := by
  rw [Option.eq_none_iff_forall_ne_some]
  intro rest hrest
  rw [List.isPrefixOf?_eq_some_iff_append_eq, List.cons_append] at hrest
  exact h (List.cons.inj hrest).1

theorem cutFirst?_eq_none (h : c ∉ a) : cutFirst? (c :: sep) a = none := by
  induction a with
  | nil => rfl
  | cons x a ih =>
    rw [List.mem_cons, not_or] at h
    obtain ⟨hx, ha⟩ := h
    rw [cutFirst?, isPrefixOf?_cons_of_ne hx, ih ha]
    rfl

theorem cutFirst?_append (h : c ∉ a) (b : List Char) :
    cutFirst? (c :: sep) (a ++ (c :: sep ++ b)) = some (a, b) := by
  induction a with
  | nil =>
    have hhere : (c :: sep).isPrefixOf? (c :: (sep ++ b)) = some b :=
      List.isPrefixOf?_eq_some_iff_append_eq.2 rfl
    rw [List.nil_append, List.cons_append, cutFirst?, hhere]
  | cons x a ih =>
    rw [List.mem_cons, not_or] at h
    obtain ⟨hx, ha⟩ := h
    rw [List.cons_append, cutFirst?, isPrefixOf?_cons_of_ne hx, ih ha]
    rfl

/-- What stands before the first separator is told by what it is followed by. -/
theorem upTo_eq_iff {sep root path : String} (hsep : sep.toList = c :: s)
    (hroot : c ∉ root.toList) :
    upTo sep path = root ↔ path = root ∨ ∃ rest, path = root ++ sep ++ rest := by
  rw [upTo, hsep]
  constructor
  · intro h
    split at h
    · next a b hcut =>
      right
      refine ⟨String.ofList b, String.toList_inj.1 ?_⟩
      rw [eq_of_cutFirst? hcut, ← h]
      simp [hsep]
    · exact .inl h
  · rintro (rfl | ⟨rest, rfl⟩)
    · rw [cutFirst?_eq_none hroot]
    · have hchars : (root ++ sep ++ rest).toList = root.toList ++ (c :: s ++ rest.toList) := by
        rw [String.toList_append, String.toList_append, hsep, List.append_assoc]
      rw [hchars, cutFirst?_append hroot]
      simp

end Text

namespace Rust

/-! ### Leaves -/

section

variable (src : Source)

/-- The path that a scoped list puts before those in it. -/
def scopePath? (t : Tree) : Option String :=
  if t.kind = "scoped_use_list" then t.fieldText? src "path" else none

/-- What a leaf names and what it calls it. All but lists, comments and clauses without a path are
leaves. -/
def leafName? (t : Tree) : Option (String × Option String) :=
  if t.isOf ["scoped_use_list", "use_list", "line_comment", "block_comment"] then none
  else if t.kind = "use_as_clause" then
    (t.fieldText? src "path").map (·, t.fieldText? src "alias")
  else some (Text.squash (t.text src), none)

/-- A part of a use tree: a named node of a list, or the first list of a scoped list. -/
def isUsePart : Place → Bool
  | .root _ => false
  | .child p before t =>
    if p.kind = "use_list" then t.named
    else p.kind = "scoped_use_list" && t.label.field = some "list" &&
      before.all (·.label.field ≠ some "list")

/-- Whether a node belongs to the use tree at the root. -/
def inUseTree : Place → Bool
  | .root _ => true
  | .child p before t => inUseTree p && isUsePart (.child p before t)

/-- The paths of the scoped lists around a node, outermost first. -/
def scopesAround (p : Place) : List String :=
  (p.above.filterMap fun q => scopePath? src q.tree).reverse

/-- The path of a leaf with the name that it is bound as. -/
def leafPath? (p : Place) : Option (String × Option String) :=
  if inUseTree p then
    (leafName? src p.tree).map fun (own, boundAs) =>
      ("::".intercalate (scopesAround src p ++ [own]), boundAs)
  else none

/-- The paths of the leaves of a use tree, in the order of the text. -/
def leafPaths (t : Tree) : List (String × Option String) :=
  (Place.root t).subtree.filterMap (leafPath? src)

end

variable {src : Source} {p q : Place} {t : Tree} {scope own path : String}

/-! ### Joined paths -/

theorem joinPath_of_ne (h : scope ≠ "") (path : String) :
    joinPath scope path = scope ++ "::" ++ path := by
  simp [joinPath, h]

/-- An inner scope may be joined to the outer one or to the path first. -/
theorem joinPath_joinPath (h : own ≠ "") (scope path : String) :
    joinPath (joinPath scope own) path = joinPath scope (joinPath own path) := by
  by_cases hs : scope = ""
  · subst hs
    rfl
  · have hne : scope ++ "::" ++ own ≠ "" := by simp [String.append_eq_empty_iff]
    rw [joinPath_of_ne hs own, joinPath_of_ne hne, joinPath_of_ne h, joinPath_of_ne hs]
    simp only [String.append_assoc]

theorem intercalate_ne_empty {scopes : List String} (h : scopes ≠ [])
    (hscopes : ∀ s ∈ scopes, s ≠ "") : "::".intercalate scopes ≠ "" := by
  cases scopes with
  | nil => exact absurd rfl h
  | cons s rest =>
    have hs : s ≠ "" := hscopes s List.mem_cons_self
    cases rest with
    | nil => simpa using hs
    | cons s' rest => simp [String.append_eq_empty_iff]

theorem joinPath_intercalate {scopes : List String} (hscopes : ∀ s ∈ scopes, s ≠ "")
    (path : String) :
    joinPath ("::".intercalate scopes) path = "::".intercalate (scopes ++ [path]) := by
  by_cases h : scopes = []
  · subst h
    rfl
  · rw [joinPath_of_ne (intercalate_ne_empty h hscopes),
      String.intercalate_append_of_ne_nil h (by simp), String.intercalate_singleton]

theorem scopePath?_ne_empty (h : scopePath? src t = some path) : path ≠ "" := by
  simp only [scopePath?, Tree.fieldText?, Option.ite_none_right_eq_some,
    Option.filter_eq_some_iff] at h
  simpa using h.2.2

theorem scopesAround_ne_empty (p : Place) : ∀ s ∈ scopesAround src p, s ≠ "" := by
  intro s hs
  rw [scopesAround, List.mem_reverse, List.mem_filterMap] at hs
  obtain ⟨q, _, hq⟩ := hs
  exact scopePath?_ne_empty hq

/-! ### One node of a use tree -/

variable (src) in
/-- The scope of what is in a node. -/
def innerScope (scope : String) (t : Tree) : String :=
  ((scopePath? src t).map (joinPath scope)).getD scope

theorem useItemPaths_eq (hp : p.kind = "use_list") (before ts : List Tree) :
    useItemPaths src scope ts =
      (p.childrenFrom before ts).flatMap fun q =>
        if isUsePart q then usePaths src scope q.tree else [] := by
  induction ts generalizing before with
  | nil => rw [useItemPaths]; rfl
  | cons t ts ih =>
    have hpart : isUsePart (.child p before t) = t.named := by simp [isUsePart, hp]
    rw [useItemPaths, Place.childrenFrom, List.flatMap_cons, ← ih, hpart]
    rfl

/-- After the first list there is no other part. -/
theorem not_isUsePart_of_passed (hp : p.kind = "scoped_use_list") {before ts : List Tree}
    (hb : ∃ t ∈ before, t.label.field = some "list") (hq : q ∈ p.childrenFrom before ts) :
    isUsePart q = false := by
  induction ts generalizing before with
  | nil => cases hq
  | cons t ts ih =>
    rcases List.mem_cons.1 hq with rfl | hq
    · simpa [isUsePart, hp] using fun _ => hb
    · obtain ⟨u, hu, hfield⟩ := hb
      exact ih ⟨u, List.mem_cons_of_mem t hu, hfield⟩ hq

theorem useScopedPaths_eq (hp : p.kind = "scoped_use_list") {before : List Tree}
    (hb : ∀ t ∈ before, t.label.field ≠ some "list") (ts : List Tree) :
    useScopedPaths src scope ts =
      (p.childrenFrom before ts).flatMap fun q =>
        if isUsePart q then usePaths src scope q.tree else [] := by
  induction ts generalizing before with
  | nil => rw [useScopedPaths]; rfl
  | cons t ts ih =>
    rw [useScopedPaths, Place.childrenFrom, List.flatMap_cons]
    by_cases hfield : t.label.field = some "list"
    · have hpart : isUsePart (.child p before t) = true := by
        simpa [isUsePart, hp, hfield] using hb
      have hrest : ((p.childrenFrom (t :: before) ts).flatMap fun q =>
          if isUsePart q then usePaths src scope q.tree else []) = [] := by
        rw [List.flatMap_eq_nil_iff]
        intro q hq
        rw [not_isUsePart_of_passed hp ⟨t, List.mem_cons_self, hfield⟩ hq]
        rfl
      rw [hrest, hpart]
      simp [hfield, Place.tree]
    · have hpart : isUsePart (.child p before t) = false := by simp [isUsePart, hp, hfield]
      have hb' : ∀ u ∈ t :: before, u.label.field ≠ some "list" := by
        simpa [hfield] using hb
      rw [ih hb', hpart]
      simp [hfield]

/-- Only lists have parts. -/
theorem isUsePart_of_leaf (h : p.tree.isOf ["scoped_use_list", "use_list"] = false)
    (hq : q ∈ p.children) : isUsePart q = false := by
  obtain ⟨b, t, rfl⟩ := Place.eq_child_of_mem_children hq
  simp only [Tree.isOf, List.contains_eq_mem, List.mem_cons, List.not_mem_nil, or_false,
    decide_eq_false_iff_not, not_or] at h
  simp [isUsePart, Place.kind, h]

theorem kind_node {l : Label} {cs : List Tree} : (Tree.node l cs).kind = l.kind := rfl

theorem usePaths_of_list (h : t.kind = "use_list") :
    usePaths src scope t = useItemPaths src scope t.children := by
  cases t with
  | node l cs =>
    rw [kind_node] at h
    rw [usePaths]
    simp [h, Tree.children]

theorem usePaths_of_scoped (h : t.kind = "scoped_use_list") :
    usePaths src scope t = useScopedPaths src (innerScope src scope t) t.children := by
  cases t with
  | node l cs =>
    rw [innerScope, scopePath?, if_pos h]
    rw [kind_node] at h
    rw [usePaths]
    simp [h, Tree.children]

theorem usePaths_of_leaf (h : t.isOf ["scoped_use_list", "use_list"] = false) :
    usePaths src scope t =
      ((leafName? src t).map fun (own, boundAs) => (joinPath scope own, boundAs)).toList := by
  cases t with
  | node l cs =>
    rw [usePaths]
    simp only [Tree.isOf, kind_node] at h
    split
    · next hk => simp [leafName?, Tree.isOf, kind_node, hk, Function.comp_def]
    · next hk => simp [hk] at h
    · next hk => simp [hk] at h
    · next hk _ _ =>
      by_cases hc : (Tree.node l cs).isOf commentKinds = true
      · have hnone : leafName? src (Tree.node l cs) = none := by
          have hk : l.kind = "line_comment" ∨ l.kind = "block_comment" := by
            simpa [Tree.isOf, commentKinds, kind_node] using hc
          rcases hk with hk | hk <;> simp [leafName?, Tree.isOf, kind_node, hk]
        simp [hc, hnone]
      · have hkind : ¬ (Tree.node l cs).isOf
            ["scoped_use_list", "use_list", "line_comment", "block_comment"] = true := by
          simp only [Tree.isOf, commentKinds, kind_node] at h hc ⊢
          simp_all
        have hself : leafName? src (Tree.node l cs) =
            some (Text.squash ((Tree.node l cs).text src), none) := by
          exact (if_neg hkind).trans (if_neg hk)
        simp [hc, hself]

theorem leafName?_of_list (h : t.isOf ["scoped_use_list", "use_list"] = true) :
    leafName? src t = none := by
  have hk : t.kind = "scoped_use_list" ∨ t.kind = "use_list" := by simpa [Tree.isOf] using h
  rcases hk with hk | hk <;> simp [leafName?, Tree.isOf, hk]

variable (src) in
/-- A leaf names one path, and a list what its parts name. -/
theorem usePaths_eq (scope : String) (p : Place) :
    usePaths src scope p.tree =
      ((leafName? src p.tree).map fun (own, boundAs) => (joinPath scope own, boundAs)).toList ++
        p.children.flatMap fun q =>
          if isUsePart q then usePaths src (innerScope src scope p.tree) q.tree else [] := by
  by_cases h : p.tree.isOf ["scoped_use_list", "use_list"] = true
  · rw [leafName?_of_list h]
    have hk : p.kind = "scoped_use_list" ∨ p.kind = "use_list" := by
      simpa [Tree.isOf, Place.kind] using h
    rcases hk with hk | hk
    · rw [usePaths_of_scoped hk]
      exact useScopedPaths_eq hk (List.forall_mem_nil _) _
    · have hscope : innerScope src scope p.tree = scope := by
        rw [innerScope, scopePath?, if_neg (by rw [← Place.kind, hk]; decide)]
        rfl
      rw [usePaths_of_list hk, hscope]
      exact useItemPaths_eq hk [] _
  · rw [Bool.not_eq_true] at h
    have hparts : (p.children.flatMap fun q =>
        if isUsePart q then usePaths src (innerScope src scope p.tree) q.tree else []) = [] := by
      rw [List.flatMap_eq_nil_iff]
      intro q hq
      rw [isUsePart_of_leaf h hq]
      rfl
    rw [usePaths_of_leaf h, hparts, List.append_nil]

/-! ### Whole use trees -/

theorem joinPath_innerScope (scope path : String) (t : Tree) :
    joinPath (innerScope src scope t) path =
      joinPath scope (joinPath (innerScope src "" t) path) := by
  simp only [innerScope]
  cases h : scopePath? src t with
  | none => rfl
  | some own => exact joinPath_joinPath (scopePath?_ne_empty h) scope path

/-- A scope is put before every path of a use tree. -/
theorem usePaths_scope (scope : String) (p : Place) :
    usePaths src scope p.tree =
      (usePaths src "" p.tree).map fun x => (joinPath scope x.1, x.2) := by
  induction p using Place.children_induction generalizing scope with
  | h p ih =>
    rw [usePaths_eq src scope, usePaths_eq src "", List.map_append, List.map_flatMap]
    congr 1
    · cases leafName? src p.tree <;> rfl
    · apply List.flatMap_congr
      intro q hq
      cases isUsePart q with
      | false => rfl
      | true =>
        simp only [↓reduceIte]
        rw [ih q hq (innerScope src scope p.tree), ih q hq (innerScope src "" p.tree),
          List.map_map]
        apply List.map_congr_left
        intro x _
        rw [Function.comp_apply, joinPath_innerScope]

theorem scopesAround_of_mem_children (h : q ∈ p.children) :
    scopesAround src q = scopesAround src p ++ (scopePath? src p.tree).toList := by
  obtain ⟨b, t, rfl⟩ := Place.eq_child_of_mem_children h
  rw [scopesAround, Place.above, Place.lineage_eq, List.filterMap_cons]
  cases scopePath? src p.tree <;> simp [scopesAround]

theorem inUseTree_of_mem_children (h : q ∈ p.children) :
    inUseTree q = (inUseTree p && isUsePart q) := by
  obtain ⟨b, t, rfl⟩ := Place.eq_child_of_mem_children h
  rfl

/-- Nothing is named by what does not belong to the use tree. -/
theorem filterMap_leafPath?_eq_nil (h : inUseTree p = false) :
    p.subtree.filterMap (leafPath? src) = [] := by
  induction p using Place.children_induction with
  | h p ih =>
    rw [Place.subtree_eq, List.filterMap_cons_none, List.filterMap_flatMap, List.flatMap_eq_nil_iff]
    · intro q hq
      apply ih q hq
      rw [inUseTree_of_mem_children hq, h, Bool.false_and]
    · simp [leafPath?, h]

theorem innerScope_intercalate (p : Place) (h : q ∈ p.children) :
    innerScope src ("::".intercalate (scopesAround src p)) p.tree =
      "::".intercalate (scopesAround src q) := by
  rw [scopesAround_of_mem_children h, innerScope]
  cases scopePath? src p.tree with
  | none => simp
  | some own => exact joinPath_intercalate (scopesAround_ne_empty p) own

/-- The scope of a node is made of the scoped lists around it. -/
theorem usePaths_subtree (h : inUseTree p = true) :
    usePaths src ("::".intercalate (scopesAround src p)) p.tree =
      p.subtree.filterMap (leafPath? src) := by
  induction p using Place.children_induction with
  | h p ih =>
    have hleaf : (leafPath? src p).toList = ((leafName? src p.tree).map fun (own, boundAs) =>
        (joinPath ("::".intercalate (scopesAround src p)) own, boundAs)).toList := by
      rw [leafPath?, if_pos h]
      simp only [joinPath_intercalate (scopesAround_ne_empty p)]
    -- What is no part of the tree names nothing, however far below it is.
    have hbelow : (p.children.flatMap Place.subtree).filterMap (leafPath? src) =
        p.children.flatMap fun q => if isUsePart q then usePaths src
          (innerScope src ("::".intercalate (scopesAround src p)) p.tree) q.tree else [] := by
      rw [List.filterMap_flatMap]
      apply List.flatMap_congr
      intro q hq
      have hin : inUseTree q = isUsePart q := by
        rw [inUseTree_of_mem_children hq, h, Bool.true_and]
      cases hpart : isUsePart q with
      | false => exact filterMap_leafPath?_eq_nil (hin.trans hpart)
      | true =>
        rw [innerScope_intercalate p hq]
        exact (ih q hq (hin.trans hpart)).symm
    rw [usePaths_eq, ← hleaf, ← hbelow, Place.subtree_eq, List.filterMap_cons]
    cases leafPath? src p <;> rfl

/-! ### Imports -/

/-- A path without the `self` that it ends in. -/
def withoutSelf (path : String) : String :=
  String.ofList (("::self".toList.isSuffixOf? path.toList).getD path.toList)

/-- The path of an import: its module, and what is imported from there. -/
def namedPath (i : Import) : String :=
  match i.importedName with
  | some name => i.modulePath ++ "::" ++ name
  | none => i.modulePath

/-- Whether the first step of a path is some root. -/
def StartsAt (root path : String) : Prop := path = root ∨ ∃ rest, path = root ++ "::" ++ rest

/-- What an import on some line says of a path and of the name that it is bound as. -/
structure Says (line : Nat) (leaf : String × Option String) (i : Import) : Prop where
  named : namedPath i = withoutSelf leaf.1
  relative : i.isRelative = true ↔ ∃ root ∈ ["self", "super", "crate"], StartsAt root leaf.1
  boundAs : i.boundAs = leaf.2
  line : i.line = line

theorem withoutSelf_append (path : String) : withoutSelf (path ++ "::self") = path := by
  have h : "::self".toList.isSuffixOf? (path ++ "::self").toList = some path.toList := by
    rw [List.isSuffixOf?_eq_some_iff_append_eq, String.toList_append]
  rw [withoutSelf, h, Option.getD_some, String.ofList_toList]

theorem withoutSelf_eq_self (h : ∀ outer, path ≠ outer ++ "::self") : withoutSelf path = path := by
  have hnone : "::self".toList.isSuffixOf? path.toList = none := by
    rw [Option.eq_none_iff_forall_ne_some]
    intro rest hrest
    rw [List.isSuffixOf?_eq_some_iff_append_eq] at hrest
    apply h (String.ofList rest)
    rw [← String.toList_inj, ← hrest]
    simp
  rw [withoutSelf, hnone, Option.getD_none, String.ofList_toList]

theorem splitLast?_self (outer : String) :
    Text.splitLast? "::" (outer ++ "::self") = some (outer, "self") := by
  have hchars : (outer ++ "::self").toList = outer.toList ++ (':' :: [':'] ++ "self".toList) := by
    rw [String.toList_append]
    rfl
  have hsep : "::".toList = [':', ':'] := rfl
  rw [Text.splitLast?, hchars, hsep, Text.cutLast?_append rfl]
  simp

theorem eq_of_splitLast? {outer name : String}
    (h : Text.splitLast? "::" path = some (outer, name)) : path = outer ++ "::" ++ name := by
  rw [Text.splitLast?, Option.map_eq_some_iff] at h
  obtain ⟨⟨a, b⟩, hcut, he⟩ := h
  cases he
  rw [← String.toList_inj, Text.eq_of_cutLast? hcut]
  simp

/-- None of the roots has a colon in it, so that each ends where the first colons are. -/
theorem isRelative_iff (path : String) :
    relativeRoots.contains (Text.upTo "::" path) = true ↔
      ∃ root ∈ ["self", "super", "crate"], StartsAt root path := by
  have hcolon : ∀ root ∈ relativeRoots, ':' ∉ root.toList := by simp [relativeRoots]
  have hupTo : ∀ root ∈ relativeRoots, Text.upTo "::" path = root ↔ StartsAt root path :=
    fun root hroot => Text.upTo_eq_iff rfl (hcolon root hroot)
  rw [List.contains_iff_mem]
  constructor
  · intro h
    exact ⟨_, h, (hupTo _ h).1 rfl⟩
  · rintro ⟨root, hroot, h⟩
    rw [(hupTo root hroot).2 h]
    exact hroot

theorem namedPath_importOf (line : Nat) (path : String) (boundAs : Option String) :
    namedPath (importOf line path boundAs) = withoutSelf path := by
  by_cases h : ∃ outer, path = outer ++ "::self"
  · obtain ⟨outer, rfl⟩ := h
    rw [withoutSelf_append, importOf, splitLast?_self]
    rfl
  · have hself : ∀ outer, path ≠ outer ++ "::self" := fun outer he => h ⟨outer, he⟩
    rw [withoutSelf_eq_self hself, importOf]
    split
    · next outer hsplit =>
      have he := eq_of_splitLast? hsplit
      rw [String.append_assoc] at he
      exact absurd he (hself outer)
    · next outer name _ hsplit => exact (eq_of_splitLast? hsplit).symm
    · rfl

theorem says_importOf (line : Nat) (leaf : String × Option String) :
    Says line leaf (importOf line leaf.1 leaf.2) := by
  obtain ⟨modulePath, importedName, h⟩ : ∃ modulePath importedName,
      importOf line leaf.1 leaf.2 =
        { modulePath, importedName, boundAs := leaf.2, line,
          isRelative := relativeRoots.contains (Text.upTo "::" leaf.1) } := by
    rw [importOf]
    split <;> exact ⟨_, _, rfl⟩
  refine ⟨namedPath_importOf _ _ _, ?_, ?_, ?_⟩
  · rw [h, isRelative_iff]
  · rw [h]
  · rw [h]

variable (src) in
/-- The paths that a use declaration names. -/
def declaredPaths (p : Place) : List (String × Option String) :=
  (p.tree.child? "argument").toList.flatMap (leafPaths src)

/-- A use tree names one path for each of its leaves: the paths of the scoped lists around the leaf
and its own text. A scope from outside is put before each of them. The imports of a declaration
are those of the leaves of its use tree, and each says what path it stands for. -/
theorem use_trees_expanded (src : Source) :
    (∀ scope t, usePaths src scope t =
      (usePaths src "" t).map fun x => (joinPath scope x.1, x.2)) ∧
    (∀ t, usePaths src "" t = leafPaths src t) ∧
    ∀ p, List.Forall₂ (Says (p.tree.startLine src)) (declaredPaths src p) (imports src p) := by
  have hleaves : ∀ t, usePaths src "" t = leafPaths src t :=
    fun t => usePaths_subtree (p := .root t) rfl
  refine ⟨fun scope t => usePaths_scope scope (.root t), hleaves, ?_⟩
  intro p
  rw [imports, declaredPaths]
  cases p.tree.child? "argument" with
  | none => exact .nil
  | some argument =>
    simp only [Option.toList_some, List.flatMap_singleton, hleaves]
    rw [List.forall₂_map_right_iff, List.forall₂_same]
    intro leaf _
    exact says_importOf _ leaf

end Rust

end CodeSurvey
