import CodeSurvey.Registry
import Mathlib.Data.List.Induction

/-! What parsers do with any text. -/
namespace CodeSurvey

/-- The records of a parser have the paths that it is given. -/
def Parser.KeepsPath (p : Parser) : Prop :=
  ∀ text path options r, p.parseWith text path options = .record r → r.path = path

def Registry.KeepsPaths (r : Registry) : Prop :=
  ∀ language p, r.get language = some p → p.KeepsPath

namespace Parser

/-- The parsers of this library. -/
def own (trees : TreeBuilder) : List Parser :=
  [generic, python trees, javaScript trees, typeScript trees, java trees, go trees, rust trees]

/-- No text is refused: it has a record with its path and its lines, unless time runs out. -/
def TakesAll (p : Parser) : Prop :=
  ∀ text path options,
    (∃ r, p.parseWith text path options = .record r ∧ r.path = path ∧
      r.lineCount = Text.countLines text) ∨
    ∃ limit, options.timeout = some limit ∧
      p.parseWith text path options = .error (.parseTimeout path limit)

theorem takesAll_generic : generic.TakesAll := by
  intro text path options
  exact .inl ⟨_, rfl, rfl, rfl⟩

/-- The tree may be whole, faulty or missing, and the grammar the right one or not. -/
theorem takesAll_ofGrammar (g : Grammar) (dialect : String → Dialect) (trees : TreeBuilder) :
    (ofGrammar g dialect trees).TakesAll := by
  intro text path options
  simp only [ofGrammar]
  cases trees (dialect path) text with
  | some root => exact .inl ⟨_, rfl, rfl, rfl⟩
  | none =>
    cases hlimit : options.timeout with
    | some limit =>
      right
      exact ⟨limit, rfl, by simp only [ofTree, hlimit]⟩
    | none =>
      left
      simp only [ofTree, hlimit]
      exact ⟨_, rfl, rfl, rfl⟩

theorem takesAll_own {trees : TreeBuilder} {p : Parser} (h : p ∈ own trees) : p.TakesAll := by
  simp only [own, List.mem_cons, List.not_mem_nil, or_false] at h
  rcases h with rfl | rfl | rfl | rfl | rfl | rfl | rfl
  · exact takesAll_generic
  all_goals exact takesAll_ofGrammar _ _ _

theorem TakesAll.keepsPath {p : Parser} (h : p.TakesAll) : p.KeepsPath := by
  intro text path options r hr
  rcases h text path options with ⟨x, hx, hpath, -⟩ | ⟨limit, -, hx⟩
  · rw [hx] at hr
    cases hr
    exact hpath
  · rw [hx] at hr
    cases hr

end Parser

namespace Registry

variable {r : Registry} {language : Language} {p : Parser}

theorem KeepsPaths.register (h : r.KeepsPaths) (language : Language) (hp : p.KeepsPath) :
    (r.register language p).KeepsPaths := by
  intro l q hq
  simp only [Registry.register] at hq
  split at hq
  · cases hq
    exact hp
  · exact h l q hq

theorem KeepsPaths.resolve (h : r.KeepsPaths) (hp : r.resolve language = .ok p) : p.KeepsPath := by
  rw [Registry.resolve] at hp
  split at hp
  · next q hq =>
    cases hp
    rcases Option.or_eq_some_iff.1 hq with hq | ⟨-, hq⟩
    · exact h _ _ hq
    · exact h _ _ hq
  · cases hp

/-- A registry of parsers of this library, under whatever languages. -/
inductive Built : Registry → Prop where
  | empty : Built .empty
  | register {r : Registry} {p : Parser} {trees : TreeBuilder} (h : Built r) (language : Language)
      (hp : p ∈ Parser.own trees) : Built (r.register language p)

theorem Built.takesAll (h : r.Built) (hp : r.get language = some p) : p.TakesAll := by
  induction h with
  | empty => cases hp
  | register _ l hq ih =>
    simp only [Registry.register] at hp
    split at hp
    · cases hp
      exact Parser.takesAll_own hq
    · exact ih hp

theorem Built.keepsPaths (h : r.Built) : r.KeepsPaths :=
  fun _ _ hp => (h.takesAll hp).keepsPath

/-- With a parser for whatever else there is, every language has one. -/
theorem Built.exists_resolve (h : r.Built) (hg : r.isSupported .generic = true)
    (language : Language) : ∃ p, r.resolve language = .ok p ∧ p.TakesAll := by
  obtain ⟨q, hq⟩ := Option.isSome_iff_exists.1 hg
  rw [resolve]
  cases hp : r.get language with
  | some p => exact ⟨p, rfl, h.takesAll hp⟩
  | none => exact ⟨q, by rw [hq]; rfl, h.takesAll hq⟩

theorem built_lineMetrics : lineMetrics.Built :=
  Built.empty.register _ (List.mem_cons_self : Parser.generic ∈ Parser.own fun _ _ => none)

theorem built_standard (trees : TreeBuilder) : (standard trees).Built := by
  refine List.foldlRecOn _ _ built_lineMetrics ?_
  intro r hr q hq
  have hown : q.2 trees ∈ Parser.own trees := by
    simp only [List.mem_cons, List.not_mem_nil, or_false] at hq
    rcases hq with rfl | rfl | rfl | rfl | rfl | rfl <;> simp [Parser.own]
  exact hr.register q.1 hown

/-- All parsers of the standard registry keep their paths. -/
theorem keepsPaths_standard (trees : TreeBuilder) : (standard trees).KeepsPaths :=
  (built_standard trees).keepsPaths

end Registry

end CodeSurvey
