import CodeSurvey.Declaration.Json
import Mathlib.Algebra.GroupWithZero.Nat
import Mathlib.Data.List.Basic

/-! Declarations and variables that are written as JSON read back as they were, and what is read in
another spelling reads back as it was read. -/
namespace CodeSurvey

/-! ### Members and items -/

namespace Json

variable {α : Type} {members : List (String × Json)} {name : String}

theorem lookup_optional (name : String) (value : Option Json) (key : String) :
    (optional name value).lookup key = if key = name then value else none := by
  cases value with
  | none => simp [optional]
  | some j =>
    by_cases h : key = name
    · subst h
      rw [if_pos rfl]
      exact List.lookup_cons_self
    · rw [if_neg h, optional, Option.map_some, Option.toList_some, List.lookup_cons,
        beq_false_of_ne h]
      rfl

theorem names_optional (name : String) (value : Option Json) :
    ((optional name value).map Prod.fst).Sublist [name] := by
  cases value with
  | none => exact List.nil_sublist _
  | some j => exact List.Sublist.refl _

@[simp]
theorem asStr?_str (s : String) : asStr? (str s) = some s := rfl

@[simp]
theorem asBool?_bool (b : Bool) : asBool? (bool b) = some b := rfl

/-- A text that is left out where there is none reads back as none. -/
theorem possible_of_lookup {value : Option String} (h : members.lookup name = value.map str) :
    possible members name asStr? = some value := by
  rw [possible, h]
  cases value <;> rfl

theorem asList?_map {write : α → Json} {read : Json → Option α} {xs : List α}
    (h : ∀ x ∈ xs, read (write x) = some x) : asList? read (.arr (xs.map write)) = some xs := by
  rw [asList?]
  induction xs with
  | nil => rfl
  | cons x xs ih =>
    have hx := h x List.mem_cons_self
    have hxs := ih fun y hy => h y (List.mem_cons_of_mem x hy)
    rw [List.map_cons, List.mapM_cons, hx, hxs]
    rfl

/-- Every item of a list that was read was read from an item of an array. -/
theorem exists_of_mem_asList? {read : Json → Option α} {j : Json} {xs : List α} {x : α}
    (h : asList? read j = some xs) (hx : x ∈ xs) : ∃ i, read i = some x := by
  cases j with
  | arr items =>
    rw [asList?] at h
    induction items generalizing xs with
    | nil =>
      cases h
      cases hx
    | cons i items ih =>
      rw [List.mapM_cons] at h
      obtain ⟨y, hy, h⟩ := Option.bind_eq_some_iff.1 h
      obtain ⟨ys, hys, h⟩ := Option.bind_eq_some_iff.1 h
      cases h
      rcases List.mem_cons.1 hx with rfl | hx
      · exact ⟨i, hy⟩
      · exact ih hx hys
  | _ => cases h

@[simp]
theorem asStrs?_strs (ss : List String) : asStrs? (strs ss) = some ss :=
  asList?_map fun _ _ => rfl

theorem asWord?_nat {n : Nat} (h : n < 2 ^ 64) : asWord? (nat n) = some n := if_pos h

@[simp]
theorem asUInt32?_toNat (n : UInt32) : asUInt32? (nat n.toNat) = some n := by
  have hlt : asNatBelow? (Nat.pow 2 32) (nat n.toNat) = some n.toNat := if_pos n.toNat_lt
  rw [asUInt32?, hlt, Option.map_some]
  simp

theorem lt_of_required_asWord? {n : Nat} (h : required members name asWord? = some n) :
    n < 2 ^ 64 := by
  obtain ⟨j, -, h⟩ := Option.bind_eq_some_iff.1 h
  simp only [asWord?, asNatBelow?] at h
  split at h
  · split at h
    · next hlt => exact Option.some.inj h ▸ hlt
    · cases h
  · cases h

end Json

/-! ### Sets of names -/

/-- A name that comes after all others goes to the end. -/
theorem insertName_of_lt {a : String} {l : List String} (h : ∀ b ∈ l, b < a) :
    insertName a l = l ++ [a] := by
  induction l with
  | nil => rfl
  | cons b bs ih =>
    have hb : b < a := h b List.mem_cons_self
    have hbs := ih fun c hc => h c (List.mem_cons_of_mem b hc)
    rw [insertName, if_neg (String.lt_asymm hb), if_pos hb, hbs]
    rfl

namespace NameSet

theorem eq_of_names {s t : NameSet} (h : s.names = t.names) : s = t := by
  cases s
  cases t
  cases h
  rfl

theorem names_foldl_insert {names : List String} {s : NameSet}
    (h : (s.names ++ names).Pairwise (· < ·)) :
    (names.foldl insert s).names = s.names ++ names := by
  induction names generalizing s with
  | nil => exact (List.append_nil _).symm
  | cons a names ih =>
    have hlt : ∀ b ∈ s.names, b < a := by
      intro b hb
      exact (List.pairwise_append.1 h).2.2 b hb a List.mem_cons_self
    have hinsert : (s.insert a).names = s.names ++ [a] := insertName_of_lt hlt
    rw [List.foldl_cons, ih]
    · rw [hinsert, List.append_assoc]
      rfl
    · rw [hinsert, List.append_assoc]
      exact h

@[simp]
theorem ofJson?_toJson (s : NameSet) : ofJson? s.toJson = some s := by
  have hs : ofList s.names = s := eq_of_names (names_foldl_insert s.sorted)
  rw [ofJson?, toJson, Json.asStrs?_strs, Option.map_some, hs]

end NameSet

/-! ### Lines in machine words -/

def FunctionDecl.FitsWords (f : FunctionDecl) : Prop := f.lineStart < 2 ^ 64 ∧ f.lineEnd < 2 ^ 64

def ClassDecl.FitsWords (c : ClassDecl) : Prop :=
  c.lineStart < 2 ^ 64 ∧ c.lineEnd < 2 ^ 64 ∧ ∀ m ∈ c.methods, m.FitsWords

def Declaration.FitsWords : Declaration → Prop
  | function f => f.FitsWords
  | classLike c => c.FitsWords

def Variable.FitsWords (v : Variable) : Prop := v.line < 2 ^ 64

/-! ### What is written reads back -/

theorem Parameter.ofJson?_toJson (p : Parameter) : ofJson? p.toJson = some p := by
  obtain ⟨name, typeName, default⟩ := p
  cases typeName <;> cases default <;>
    simp [ofJson?, toJson, Json.asRecord?, Json.required, Json.possible, Json.optional,
      List.lookup_cons]

namespace FunctionDecl

theorem names_members (f : FunctionDecl) : (f.members.map Prod.fst).Sublist memberNames := by
  simp only [members, List.map_append]
  exact ((((List.Sublist.refl _).append (Json.names_optional _ _)).append
    (List.Sublist.refl _)).append (Json.names_optional _ _)).append (List.Sublist.refl _)

theorem ofJson?_members {f : FunctionDecl} (h : f.FitsWords) :
    ofJson? (.obj f.members) = some f := by
  have hparameters : Json.asList? Parameter.ofJson? (.arr (f.parameters.map Parameter.toJson)) =
      some f.parameters := Json.asList?_map fun p _ => p.ofJson?_toJson
  have hreturn : Json.possible f.members "annotated_return" Json.asStr? = some f.annotatedReturn :=
    Json.possible_of_lookup (by
      simp [members, List.lookup_append, Json.lookup_optional, List.lookup_cons])
  have hdoc : Json.possible f.members "docstring" Json.asStr? = some f.docstring :=
    Json.possible_of_lookup (by
      simp [members, List.lookup_append, Json.lookup_optional, List.lookup_cons])
  rw [ofJson?, Json.asRecord?]
  simp only [hreturn, hdoc, Option.bind_eq_bind, Option.bind_some]
  simp [Json.required, members, List.lookup_append, Json.lookup_optional, List.lookup_cons,
    hparameters, Json.asWord?_nat h.1, Json.asWord?_nat h.2]

theorem fitsWords_of_ofJson? {f : FunctionDecl} {j : Json} (h : ofJson? j = some f) :
    f.FitsWords := by
  obtain ⟨r, -, h⟩ := Option.bind_eq_some_iff.1 h
  obtain ⟨name, -, h⟩ := Option.bind_eq_some_iff.1 h
  obtain ⟨first, hfirst, h⟩ := Option.bind_eq_some_iff.1 h
  obtain ⟨last, hlast, h⟩ := Option.bind_eq_some_iff.1 h
  simp only [Option.bind_eq_bind, Option.bind_eq_some_iff] at h
  obtain ⟨_, -, _, -, _, -, _, -, _, -, _, -, _, -, _, -, h⟩ := h
  cases h
  exact ⟨Json.lt_of_required_asWord? hfirst, Json.lt_of_required_asWord? hlast⟩

end FunctionDecl

namespace ClassDecl

theorem names_members (c : ClassDecl) : (c.members.map Prod.fst).Sublist memberNames := by
  simp only [members, List.map_append]
  exact ((List.Sublist.refl _).append (Json.names_optional _ _)).append (List.Sublist.refl _)

theorem ofJson?_members {c : ClassDecl} (h : c.FitsWords) :
    ofJson? (.obj c.members) = some c := by
  have hmethods : Json.asList? FunctionDecl.ofJson? (.arr (c.methods.map FunctionDecl.toJson)) =
      some c.methods := Json.asList?_map fun m hm => FunctionDecl.ofJson?_members (h.2.2 m hm)
  have hdoc : Json.possible c.members "docstring" Json.asStr? = some c.docstring :=
    Json.possible_of_lookup (by
      simp [members, List.lookup_append, Json.lookup_optional, List.lookup_cons])
  rw [ofJson?, Json.asRecord?]
  simp only [hdoc, Option.bind_eq_bind, Option.bind_some]
  simp [Json.required, members, List.lookup_append, Json.lookup_optional, List.lookup_cons,
    hmethods, Json.asWord?_nat h.1, Json.asWord?_nat h.2.1]

theorem fitsWords_of_ofJson? {c : ClassDecl} {j : Json} (h : ofJson? j = some c) :
    c.FitsWords := by
  obtain ⟨r, -, h⟩ := Option.bind_eq_some_iff.1 h
  obtain ⟨name, -, h⟩ := Option.bind_eq_some_iff.1 h
  obtain ⟨first, hfirst, h⟩ := Option.bind_eq_some_iff.1 h
  obtain ⟨last, hlast, h⟩ := Option.bind_eq_some_iff.1 h
  obtain ⟨bases, -, h⟩ := Option.bind_eq_some_iff.1 h
  obtain ⟨methods, hmethods, h⟩ := Option.bind_eq_some_iff.1 h
  simp only [Option.bind_eq_bind, Option.bind_eq_some_iff] at h
  obtain ⟨_, -, _, -, _, -, _, -, h⟩ := h
  cases h
  obtain ⟨items, -, hitems⟩ := Option.bind_eq_some_iff.1 hmethods
  refine ⟨Json.lt_of_required_asWord? hfirst, Json.lt_of_required_asWord? hlast, ?_⟩
  intro m hm
  obtain ⟨i, hi⟩ := Json.exists_of_mem_asList? hitems hm
  exact FunctionDecl.fitsWords_of_ofJson? hi

end ClassDecl

namespace Declaration

/-- Members that are not called by the name of the kind are left as they are. -/
theorem splitKind?_cons {kind : String} {members : List (String × Json)} {names : List String}
    (h : (members.map Prod.fst).Sublist names) (hn : "type" ∉ names) :
    splitKind? (.obj (("type", .str kind) :: members)) = some (kind, .obj members) := by
  have hkeep : members.filter (·.1 != "type") = members := by
    apply List.filter_eq_self.2
    intro m hm
    have hmem : m.1 ∈ names := h.subset (List.mem_map_of_mem hm)
    exact bne_iff_ne.2 fun he => hn (he ▸ hmem)
  have hkind : Json.required (("type", .str kind) :: members) "type" Json.asStr? = some kind := rfl
  rw [splitKind?, hkind, List.filter_cons_of_neg (by simp), hkeep]
  rfl

theorem ofJson?_toJson {d : Declaration} (h : d.FitsWords) : ofJson? d.toJson = some d := by
  cases d with
  | function f =>
    rw [ofJson?, toJson, splitKind?_cons f.names_members (by decide)]
    simp [kind, FunctionDecl.ofJson?_members h]
  | classLike c =>
    rw [ofJson?, toJson, splitKind?_cons c.names_members (by decide)]
    simp [kind, ClassDecl.ofJson?_members h]

theorem fitsWords_of_ofJson? {d : Declaration} {j : Json} (h : ofJson? j = some d) :
    d.FitsWords := by
  obtain ⟨⟨kind, rest⟩, -, h⟩ := Option.bind_eq_some_iff.1 h
  simp only at h
  split at h
  · obtain ⟨f, hf, h⟩ := Option.bind_eq_some_iff.1 h
    cases h
    exact FunctionDecl.fitsWords_of_ofJson? hf
  · obtain ⟨c, hc, h⟩ := Option.bind_eq_some_iff.1 h
    cases h
    exact ClassDecl.fitsWords_of_ofJson? hc
  · cases h

end Declaration

namespace Variable

theorem ofJson?_toJson {v : Variable} (h : v.FitsWords) : ofJson? v.toJson = some v := by
  obtain ⟨name, line, kind, typeName⟩ := v
  have hkind : VariableKind.ofJson? (.str kind.tag) = some kind := by
    cases kind <;> rfl
  have hline : Json.asWord? (.nat line) = some line := Json.asWord?_nat h
  cases typeName <;>
    simp [ofJson?, toJson, Json.asRecord?, Json.required, Json.possible, Json.optional,
      List.lookup_cons, hkind, hline]

theorem fitsWords_of_ofJson? {v : Variable} {j : Json} (h : ofJson? j = some v) :
    v.FitsWords := by
  obtain ⟨r, -, h⟩ := Option.bind_eq_some_iff.1 h
  obtain ⟨name, -, h⟩ := Option.bind_eq_some_iff.1 h
  obtain ⟨line, hline, h⟩ := Option.bind_eq_some_iff.1 h
  simp only [Option.bind_eq_bind, Option.bind_eq_some_iff] at h
  obtain ⟨_, -, _, -, h⟩ := h
  cases h
  exact Json.lt_of_required_asWord? hline

end Variable

/-! ### Lists -/

/-- Lists read back as they were written, which takes lines that fit machine words; what is read
always has such lines, in whatever spelling it was accepted, so it reads back as it was read. -/
theorem declarations_read_back :
    (∀ ds : List Declaration, (∀ d ∈ ds, d.FitsWords) ↔
      Json.asList? Declaration.ofJson? (.arr (ds.map Declaration.toJson)) = some ds) ∧
    (∀ vs : List Variable, (∀ v ∈ vs, v.FitsWords) ↔
      Json.asList? Variable.ofJson? (.arr (vs.map Variable.toJson)) = some vs) ∧
    ∀ (j : Json) (ds : List Declaration), Json.asList? Declaration.ofJson? j = some ds →
      Json.asList? Declaration.ofJson? (.arr (ds.map Declaration.toJson)) = some ds := by
  have hwords : ∀ {j : Json} {ds : List Declaration},
      Json.asList? Declaration.ofJson? j = some ds → ∀ d ∈ ds, d.FitsWords := by
    intro j ds h d hd
    obtain ⟨i, hi⟩ := Json.exists_of_mem_asList? h hd
    exact Declaration.fitsWords_of_ofJson? hi
  have hback : ∀ ds : List Declaration, (∀ d ∈ ds, d.FitsWords) →
      Json.asList? Declaration.ofJson? (.arr (ds.map Declaration.toJson)) = some ds := by
    intro ds h
    exact Json.asList?_map fun d hd => Declaration.ofJson?_toJson (h d hd)
  refine ⟨?_, ?_, ?_⟩
  · intro ds
    exact ⟨hback ds, hwords⟩
  · intro vs
    constructor
    · intro h
      exact Json.asList?_map fun v hv => Variable.ofJson?_toJson (h v hv)
    · intro h v hv
      obtain ⟨i, hi⟩ := Json.exists_of_mem_asList? h hv
      exact Variable.fitsWords_of_ofJson? hi
  · intro j ds h
    exact hback ds (hwords h)

/-! A class with decorators out of order, a member that is null and one that is unknown, and a
method given by position. -/

def respelled : Json :=
  .arr [.obj [("name", .str "A"), ("colour", .str "red"), ("type", .str "class"),
    ("line_start", .nat 1), ("line_end", .nat 4), ("base_names", .strs ["B", "A"]),
    ("methods", .arr [.arr [.str "m", .nat 2, .nat 3,
      .arr [.obj [("name", .str "x"), ("default", .null)]], .null, .bool true, .bool true, .strs [],
      .str "Doc.", .nat 2, .nat 1]]),
    ("fields", .strs []), ("docstring", .null), ("is_abstract", .bool false),
    ("decorators", .strs ["t", "s", "t"])]]

def respelledClass : ClassDecl :=
  { name := "A", lineStart := 1, lineEnd := 4, baseNames := ["B", "A"]
    methods := [
      { name := "m", lineStart := 2, lineEnd := 3, parameters := [{ name := "x" }]
        annotatedReturn := none, isAsync := true, isMethod := true, decorators := .empty
        docstring := some "Doc.", cyclomaticComplexity := 2, nestingDepth := 1 }]
    fields := [], docstring := none, isAbstract := false, decorators := .ofList ["s", "t"] }

theorem declarations_read_back_sample :
    Json.asList? Declaration.ofJson? respelled = some [.classLike respelledClass] ∧
      Json.asList? Declaration.ofJson? (.arr [(Declaration.classLike respelledClass).toJson]) =
        some [.classLike respelledClass] := by
  have hread : Json.asList? Declaration.ofJson? respelled = some [.classLike respelledClass] := by
    decide +kernel
  exact ⟨hread, declarations_read_back.2.2 respelled _ hread⟩

end CodeSurvey
