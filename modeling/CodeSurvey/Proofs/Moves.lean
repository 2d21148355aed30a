import CodeSurvey.Grammar.Rust
import CodeSurvey.Proofs.Faults
import CodeSurvey.Proofs.Filing

/-! Trees of Rust whose top items stand in another order. What a node opens, what it gives to a type
and where it belongs does not depend on the order, except for what is told by the siblings of an
item. -/
namespace CodeSurvey

namespace Place

variable {α β : Type} {l : Label} {p q : Place} {s t : Tree}

/-- A node below a root with some label, and the same node when the children of the root stand in
another order. Only the children of the root have other siblings before them. -/
inductive Moved (l : Label) : Place → Place → Prop
  | top {s t : Tree} (hs : s.label = l) (ht : t.label = l) (b c : List Tree) (u : Tree) :
    Moved l (child (root s) b u) (child (root t) c u)
  | under {p q : Place} (h : Moved l p q) (b : List Tree) (u : Tree) :
    Moved l (child p b u) (child q b u)

theorem Moved.tree_eq (h : Moved l p q) : p.tree = q.tree := by
  cases h <;> rfl

theorem Moved.kind_eq (h : Moved l p q) : p.kind = q.kind := by
  rw [kind, kind, h.tree_eq]

theorem Moved.parent_kind_eq (h : Moved l p q) : p.parent?.map kind = q.parent?.map kind := by
  cases h with
  | top hs ht b c u => exact congrArg (some ·.kind) (hs.trans ht.symm)
  | under h b u => exact congrArg some h.kind_eq

theorem map_children_congr {f g : Place → α} (h : p.tree = q.tree)
    (hfg : ∀ b u, child p b u ∈ p.children → f (child p b u) = g (child q b u)) :
    p.children.map f = q.children.map g := by
  rw [children, children, ← h]
  rw [children] at hfg
  generalize ([] : List Tree) = b, p.tree.children = us at hfg ⊢
  induction us generalizing b with
  | nil => rfl
  | cons u us ih =>
    rw [childrenFrom, childrenFrom, List.map_cons, List.map_cons,
      hfg b u List.mem_cons_self, ih]
    intro c v hv
    exact hfg c v (List.mem_cons_of_mem _ hv)

/-- What is worked out from a node and all below it stays, if it does at each node. -/
theorem Moved.fold_eq {f : Place → List α → α} (hf : ∀ p q, Moved l p q → f p = f q)
    (h : Moved l p q) : p.fold f = q.fold f := by
  induction p using children_induction generalizing q with
  | h p ih =>
    rw [Place.fold_eq, Place.fold_eq, hf p q h]
    congr 1
    apply map_children_congr h.tree_eq
    intro b u hu
    exact ih _ hu (h.under b u)

theorem flatMap_subtree (f : Place → List β) (p : Place) :
    p.subtree.flatMap f = p.fold fun p parts => f p ++ parts.flatten := by
  induction p using children_induction with
  | h p ih =>
    rw [subtree_eq, List.flatMap_cons, List.flatMap_assoc, fold_eq, List.flatMap_congr ih,
      ← List.flatMap_def]

/-- What is gathered from all nodes is the same up to its order. -/
theorem perm_flatMap_subtree {f : Place → List β} (hlabel : s.label = t.label)
    (hperm : s.children.Perm t.children) (hroot : f (root s) = f (root t))
    (hf : ∀ p q, Moved t.label p q → f p = f q) :
    ((root s).subtree.flatMap f).Perm ((root t).subtree.flatMap f) := by
  -- What a child of the root adds is told by its tree.
  have htop : ∀ r : Tree, r.label = t.label → (root r).subtree.flatMap f =
      f (root r) ++ r.children.flatMap fun u => (child (root t) [] u).subtree.flatMap f := by
    intro r hr
    rw [subtree_eq, List.flatMap_cons, List.flatMap_assoc]
    congr 1
    have hchildren : r.children = (root r).children.map tree :=
      (map_tree_children (root r)).symm
    rw [hchildren, List.flatMap_map]
    apply List.flatMap_congr
    intro c hc
    obtain ⟨b, u, rfl⟩ := eq_child_of_mem_children hc
    rw [flatMap_subtree, flatMap_subtree]
    apply Moved.fold_eq ?_ (.top hr rfl b [] u)
    intro p q h
    rw [hf p q h]
  rw [htop s hlabel, htop t rfl, hroot]
  exact (hperm.flatMap_right _).append_left _

theorem Moved.errorsAbove_eq (h : Moved l p q) : p.errorsAbove = q.errorsAbove := by
  induction h with
  | top hs ht b c u =>
    have herror : Tree.isError _ = Tree.isError _ := congrArg Label.isError (hs.trans ht.symm)
    simp [errorsAbove, above, lineage, tree, herror]
  | @under p q h b u ih =>
    have herror : p.tree.isError = q.tree.isError := by rw [h.tree_eq]
    rw [errorsAbove, errorsAbove, above, above, lineage_eq, lineage_eq, List.countP_cons,
      List.countP_cons, herror]
    exact congrArg (· + _) ih

end Place

/-- What is opened, without what is told by the siblings before it. -/
def Opening.lasting : Opening → Opening
  | function h => .function { h with decorators := .empty }
  | classLike h => .classLike { h with decorators := .empty }
  | impl h => .impl h

/-- The type that the functions directly inside belong to. -/
def Opening.typeName? : Opening → Option String
  | function _ => none
  | classLike h => some h.name
  | impl h => some h.owner

/-- The traits that are given, with the types that get them. -/
def Opening.traits : Opening → List (String × String)
  | impl h => h.traitName.toList.map (h.owner, ·)
  | _ => []

/-- The name of a class and the bases of its head. -/
def Opening.classBases : Opening → List (String × List String)
  | classLike h => [(h.name, h.bases)]
  | _ => []

theorem Opening.typeName?_lasting (o : Opening) : o.lasting.typeName? = o.typeName? := by
  cases o <;> rfl

namespace Walk

variable {g : Grammar} {src : Source} {root : Tree} {f : Place × FunctionHead}
  {c : Place × ClassHead}

variable (g src) in
/-- The type that a function belongs to, wherever it is declared. -/
def typeName? (f : Place × FunctionHead) : Option String :=
  f.2.owner.or ((around? g src f.1).bind (·.2.typeName?))

theorem typeName?_eq (f : Place × FunctionHead) :
    typeName? g src f = (owner? g src f).or ((classAround? g src f.1).map (·.2.name)) := by
  rw [typeName?, owner?, classAround?]
  cases f.2.owner with
  | some owner => rfl
  | none =>
    cases around? g src f.1 with
    | none => rfl
    | some a =>
      obtain ⟨q, o⟩ := a
      cases o <;> rfl

theorem classNamed?_of_unique (hc : c ∈ classNodes g src root)
    (hunique : ∀ d ∈ classNodes g src root, d.2.name = c.2.name → d = c) :
    classNamed? g src root c.2.name = some c := by
  cases hfirst : classNamed? g src root c.2.name with
  | none => exact absurd rfl (firstNamed_eq_none.1 hfirst c hc)
  | some d =>
    obtain ⟨hd, hname⟩ := firstNamed_eq_some hfirst
    rw [hunique d hd hname]

/-- A class that is the only one of its name has the functions that belong to the name. -/
theorem home?_eq_some_iff (hf : f ∈ functionNodes g src root) (hc : c ∈ classNodes g src root)
    (hunique : ∀ d ∈ classNodes g src root, d.2.name = c.2.name → d = c) :
    home? g src root f = some c ↔ typeName? g src f = some c.2.name := by
  have hclass : ∀ d, classAround? g src f.1 = some d → d ∈ classNodes g src root :=
    fun d => classAround?_mem (mem_functionNodes.1 hf).1
  rw [typeName?_eq, home?]
  cases owner? g src f with
  | some owner =>
    simp only [Option.some_or, Option.some.injEq]
    constructor
    · intro h
      exact (firstNamed_eq_some h).2.symm
    · rintro rfl
      exact classNamed?_of_unique hc hunique
  | none =>
    simp only [Option.none_or, Option.map_eq_some_iff]
    constructor
    · intro h
      exact ⟨c, h, rfl⟩
    · rintro ⟨d, h, hname⟩
      rw [h, hunique d (hclass d h) hname]

theorem methods_listedClass (hc : c ∈ classNodes g src root)
    (hunique : ∀ d ∈ classNodes g src root, d.2.name = c.2.name → d = c) :
    (listedClass g src root c).methods.Perm
      (((functionNodes g src root).filter fun f => typeName? g src f = some c.2.name).map
        (declOf g src)) := by
  classical
  refine (ClassDecl.methods_sortMethods _).trans ((methods_filedClass hc).trans ?_)
  rw [List.filter_congr fun f hf => decide_eq_decide.2 (home?_eq_some_iff hf hc hunique)]

end Walk

namespace Rust

open Walk

variable {src : Source} {l : Label} {p q : Place} {s t : Tree} {h : FunctionHead}

/-! ### What a node opens -/

theorem roleOf_moved (hm : Place.Moved l p q) : roleOf grammar src p = roleOf grammar src q := by
  have hany : ∀ r : Place, r.parent?.any (·.kind == "else_clause") =
      (r.parent?.map Place.kind).any (· == "else_clause") := by
    intro r
    cases r.parent? <;> rfl
  have hrole : role src p = role src q := by
    simp only [role, hm.kind_eq, hm.tree_eq, hany, hm.parent_kind_eq]
  rw [roleOf, roleOf, hm.tree_eq]
  exact congrArg _ hrole

theorem opening?_moved (hm : Place.Moved l p q) :
    (opening? grammar src p).map Opening.lasting =
      (opening? grammar src q).map Opening.lasting := by
  rw [opening?, opening?, roleOf_moved hm]
  cases roleOf grammar src q with
  | function => simp [grammar, function, hm.tree_eq, Function.comp_def, Opening.lasting]
  | classLike =>
    simp [grammar, classLike, hm.tree_eq, hm.kind_eq, Function.comp_def, Opening.lasting]
  | impl => simp [grammar, impl, hm.tree_eq]
  | _ => rfl

/-- A node that is not at the top opens the very same. -/
theorem opening?_under (hm : Place.Moved l p q) (b : List Tree) (u : Tree) :
    opening? grammar src (.child p b u) = opening? grammar src (.child q b u) := by
  rw [opening?, opening?, roleOf_moved (hm.under b u)]
  rfl

theorem isSome_opening?_moved (hm : Place.Moved l p q) :
    (opening? grammar src p).isSome = (opening? grammar src q).isSome := by
  rw [← Option.isSome_map, opening?_moved hm, Option.isSome_map]

theorem opening?_root (hroot : s.kind = "source_file") :
    opening? grammar src (.root s) = none := by
  have hrole : role src (.root s) = .other := by
    have hk : Place.kind (.root s) = "source_file" := hroot
    simp [role, hk, classKinds, nestingKinds]
  rw [opening?, roleOf]
  split <;> simp_all [grammar]

/-! ### What is around a node -/

theorem map_lasting_enclosing_child (p : Place) (b : List Tree) (u : Tree) :
    (enclosing grammar src (.child p b u)).map (·.2.lasting) =
      ((opening? grammar src p).map Opening.lasting).toList ++
        (enclosing grammar src p).map (·.2.lasting) := by
  rw [enclosing, List.map_append]
  cases opening? grammar src p <;> rfl

theorem typeName?_congr
    (ha : (around? grammar src p).map (·.2.lasting) = (around? grammar src q).map (·.2.lasting)) :
    typeName? grammar src (p, h) = typeName? grammar src (q, h) := by
  have hlasting : ∀ r : Place, (around? grammar src r).bind (·.2.typeName?) =
      ((around? grammar src r).map (·.2.lasting)).bind Opening.typeName? := by
    intro r
    cases around? grammar src r <;> simp [Opening.typeName?_lasting]
  rw [typeName?, typeName?, hlasting, hlasting, ha]

theorem attachmentAt_congr
    (ha : (around? grammar src p).map (·.2.lasting) = (around? grammar src q).map (·.2.lasting)) :
    attachmentAt grammar src p h = attachmentAt grammar src q h := by
  rw [attachmentAt, attachmentAt]
  cases h.owner with
  | some owner => rfl
  | none =>
    cases hp : around? grammar src p with
    | none =>
      rw [hp, Option.map_none, eq_comm, Option.map_eq_none_iff] at ha
      rw [ha]
    | some a =>
      rw [hp, Option.map_some, eq_comm, Option.map_eq_some_iff] at ha
      obtain ⟨c, hc, hlasting⟩ := ha
      rw [hc]
      obtain ⟨_, o⟩ := a
      obtain ⟨_, o'⟩ := c
      cases o <;> cases o' <;> simp_all [Opening.lasting]

theorem readBody_moved (hm : Place.Moved l p q) :
    readBody grammar src p = readBody grammar src q := by
  apply Place.Moved.fold_eq ?_ hm
  intro p q hm
  funext parts f
  rw [isSome_opening?_moved hm, branchAt?, branchAt?, roleOf_moved hm]

theorem readBodies_moved (hm : Place.Moved l p q) :
    readBodies grammar src p.children = readBodies grammar src q.children := by
  have hmap : p.children.map (readBody grammar src) = q.children.map (readBody grammar src) :=
    Place.map_children_congr hm.tree_eq fun b u _ => readBody_moved (hm.under b u)
  have hfold : ∀ ps : List Place, readBodies grammar src ps =
      fun f => (ps.map (readBody grammar src)).foldl (fun f part => part f) f := by
    intro ps
    funext f
    rw [readBodies, List.foldl_map]
  rw [hfold, hfold, hmap]

section

variable (hl : l.kind = "source_file")
include hl

theorem opening?_root_of_label (hs : s.label = l) : opening? grammar src (.root s) = none :=
  opening?_root ((congrArg Label.kind hs).trans hl)

theorem enclosing_moved (hm : Place.Moved l p q) :
    (enclosing grammar src p).map (·.2.lasting) = (enclosing grammar src q).map (·.2.lasting) := by
  induction hm with
  | top hs ht b c u =>
    rw [map_lasting_enclosing_child, map_lasting_enclosing_child, opening?_root_of_label hl hs,
      opening?_root_of_label hl ht]
    rfl
  | under hm b u ih =>
    rw [map_lasting_enclosing_child, map_lasting_enclosing_child, opening?_moved hm, ih]

theorem around?_moved (hm : Place.Moved l p q) :
    (around? grammar src p).map (·.2.lasting) = (around? grammar src q).map (·.2.lasting) := by
  rw [around?, around?, ← List.head?_map, ← List.head?_map, enclosing_moved hl hm]

/-- A function that is not at the top is declared the same. -/
theorem declOf_under (hm : Place.Moved l p q) (b : List Tree) (u : Tree) :
    declOf grammar src (.child p b u, h) = declOf grammar src (.child q b u, h) := by
  have hunder := hm.under b u
  rw [declOf, declOf, functionAt, functionAt, readBodies_moved hunder,
    attachmentAt_congr (around?_moved hl hunder)]
  -- What else is said of the function is told by its tree and the siblings before it.
  rfl

end

/-! ### What a file has -/

theorem flatMap_opening?_moved {β : Type} {φ : Opening → List β} (hφ : ∀ o, φ o.lasting = φ o)
    (hm : Place.Moved l p q) : (opening? grammar src p).toList.flatMap φ =
      (opening? grammar src q).toList.flatMap φ := by
  have hlasting : ∀ o : Option Opening,
      o.toList.flatMap φ = (o.map Opening.lasting).toList.flatMap φ := by
    intro o
    cases o <;> simp [hφ]
  rw [hlasting, opening?_moved hm, ← hlasting]

theorem traitAt_moved (hm : Place.Moved l p q) : traitAt grammar src p = traitAt grammar src q := by
  have htraits : ∀ p, traitAt grammar src p =
      (opening? grammar src p).toList.flatMap Opening.traits := by
    intro p
    rw [traitAt]
    cases opening? grammar src p with
    | none => rfl
    | some o => cases o <;> simp [Opening.traits]
  rw [htraits, htraits]
  apply flatMap_opening?_moved ?_ hm
  intro o
  cases o <;> rfl

variable (src) in
/-- What the head of a class says, whatever stands before it. -/
def classHeads (p : Place) : List (String × List String) :=
  (classNode? grammar src p).toList.map fun c => (c.2.name, c.2.bases)

theorem classHeads_moved (hm : Place.Moved l p q) : classHeads src p = classHeads src q := by
  have hheads : ∀ p, classHeads src p =
      (opening? grammar src p).toList.flatMap Opening.classBases := by
    intro p
    rw [classHeads, classNode?]
    cases opening? grammar src p with
    | none => rfl
    | some o => cases o <;> simp [Opening.classBases]
  rw [hheads, hheads]
  apply flatMap_opening?_moved ?_ hm
  intro o
  cases o <;> rfl

theorem owner_eq_none (ho : opening? grammar src p = some (.function h)) : h.owner = none := by
  have hf : function src p = some h := by
    rw [opening?] at ho
    split at ho
    · obtain ⟨h', hf, he⟩ := Option.map_eq_some_iff.1 ho
      cases he
      exact hf
    all_goals simp at ho
  obtain ⟨_, _, rfl⟩ := Option.map_eq_some_iff.1 hf
  rfl

/-- A function at the top belongs to no type. -/
theorem declsWith_top (hs : s.kind = "source_file") (b : List Tree) (u : Tree) (name : String) :
    declsWith grammar src (fun f => typeName? grammar src f = some name)
      (.child (.root s) b u) = [] := by
  have haround : around? grammar src (.child (.root s) b u) = none := by
    rw [around?, enclosing, opening?_root hs]
    rfl
  rw [declsWith, List.map_eq_nil_iff, List.filter_eq_nil_iff]
  intro f hf
  obtain ⟨hp, ho⟩ := functionNode?_eq_some.1 (Option.mem_toList.1 hf)
  simp [typeName?, hp, haround, owner_eq_none ho]

theorem declsWith_moved (hl : l.kind = "source_file") (hm : Place.Moved l p q) (name : String) :
    declsWith grammar src (fun f => typeName? grammar src f = some name) p =
      declsWith grammar src (fun f => typeName? grammar src f = some name) q := by
  cases hm with
  | top hs ht b c u =>
    -- Here comments and attributes may come before the function that did not before.
    rw [declsWith_top ((congrArg Label.kind hs).trans hl),
      declsWith_top ((congrArg Label.kind ht).trans hl)]
  | @under p q hm b u =>
    rw [declsWith, declsWith, functionNode?, functionNode?, opening?_under hm]
    split
    · next h _ =>
      have htype : typeName? grammar src (.child p b u, h) =
          typeName? grammar src (.child q b u, h) :=
        typeName?_congr (around?_moved hl (hm.under b u))
      by_cases hname : typeName? grammar src (.child q b u, h) = some name <;>
        simp [htype, hname, declOf_under hl hm]
    · rfl

section

variable (hlabel : s.label = t.label) (hroot : t.kind = "source_file")
  (hperm : s.children.Perm t.children)
include hlabel hroot hperm

theorem perm_of_moved (src : Source) {β : Type} {f : Place → List β}
    (hnone : ∀ p, opening? grammar src p = none → f p = [])
    (hf : ∀ p q, Place.Moved t.label p q → f p = f q) :
    ((Place.root s).subtree.flatMap f).Perm ((Place.root t).subtree.flatMap f) := by
  apply Place.perm_flatMap_subtree hlabel hperm ?_ hf
  rw [hnone _ (opening?_root_of_label hroot hlabel), hnone _ (opening?_root_of_label hroot rfl)]

theorem traits_perm :
    ((Place.root s).subtree.flatMap (traitAt grammar src)).Perm
      ((Place.root t).subtree.flatMap (traitAt grammar src)) := by
  apply perm_of_moved hlabel hroot hperm src
  · intro p hp
    rw [traitAt, hp]
  · intro p q hm
    exact traitAt_moved hm

theorem classHeads_perm (src : Source) :
    ((classNodes grammar src s).map fun c => (c.2.name, c.2.bases)).Perm
      ((classNodes grammar src t).map fun c => (c.2.name, c.2.bases)) := by
  have hnodes : ∀ r : Tree, ((classNodes grammar src r).map fun c => (c.2.name, c.2.bases)).Perm
      ((Place.root r).subtree.flatMap (classHeads src)) := by
    intro r
    rw [classNodes, List.filterMap_eq_flatMap_toList, List.map_flatMap]
    exact (Place.postorder_perm_subtree _).flatMap_right _
  refine (hnodes s).trans (.trans ?_ (hnodes t).symm)
  apply perm_of_moved hlabel hroot hperm src
  · intro p hp
    rw [classHeads, classNode?, hp]
    rfl
  · intro p q hm
    exact classHeads_moved hm

theorem functions_perm (src : Source) (name : String) :
    (((functionNodes grammar src s).filter fun f => typeName? grammar src f = some name).map
        (declOf grammar src)).Perm
      (((functionNodes grammar src t).filter fun f => typeName? grammar src f = some name).map
        (declOf grammar src)) := by
  rw [map_filter_functionNodes, map_filter_functionNodes]
  apply perm_of_moved hlabel hroot hperm src
  · intro p hp
    rw [declsWith, functionNode?, hp]
    rfl
  · intro p q hm
    exact declsWith_moved hroot hm name

end

variable (src) in
/-- What an error that is not inside another one counts for. -/
def errorLengths (p : Place) : List Nat :=
  if p.tree.isError && p.errorsAbove == 0 then [src.significant p.tree.start p.tree.stop] else []

theorem errorBytes_eq_sum (r : Tree) : (run grammar src r).errorBytes =
    ((Place.root r).subtree.flatMap (errorLengths src)).sum := by
  have h : (run grammar src r).tallies.errorBytes = (run grammar src r).errorBytes := rfl
  rw [← h, tallies_run, errorBytes_foldl, List.map_eq_flatMap, flatMap_filter]
  exact Nat.zero_add _

/-- As much lies in errors as before, so that a file is worth reading in any order or in none. -/
theorem isFatal_moved (hlabel : s.label = t.label) (hperm : s.children.Perm t.children) :
    isFatal src s (run grammar src s).errorBytes =
      isFatal src t (run grammar src t).errorBytes := by
  have hbytes : (run grammar src s).errorBytes = (run grammar src t).errorBytes := by
    rw [errorBytes_eq_sum, errorBytes_eq_sum]
    apply List.Perm.sum_eq
    apply Place.perm_flatMap_subtree hlabel hperm
    · simp [errorLengths, Tree.isError, Tree.start, Tree.stop, Place.tree, hlabel,
        Place.errorsAbove, Place.above]
    · intro p q hm
      rw [errorLengths, errorLengths, hm.tree_eq, hm.errorsAbove_eq]
  have hroot : s.isError = t.isError := congrArg Label.isError hlabel
  rw [isFatal, isFatal, hbytes, hroot]

end Rust

end CodeSurvey
