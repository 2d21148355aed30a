import CodeSurvey.Proofs.Collect
import CodeSurvey.Proofs.Symbols

/-! Which binding of a name stands in the symbol table: the one on the last line, and of several on
that line the last in the order of the file. -/
namespace CodeSurvey

/-! ### Sorting and the last of a list -/

section

variable {α : Type} {le : α → α → Bool} {a b : α} {xs : List α}

/-- A thing of a list that nothing before it passes, and that passes all behind it. -/
def Latest (le : α → α → Bool) (xs : List α) (b : α) : Prop :=
  ∃ before after, xs = before ++ b :: after ∧ (∀ a ∈ before, le a b = true) ∧
    ∀ a ∈ after, le b a = false

theorem latest_cons_iff :
    Latest le (a :: xs) b ↔
      (b = a ∧ ∀ x ∈ xs, le a x = false) ∨ (le a b = true ∧ Latest le xs b) := by
  constructor
  · rintro ⟨before, after, hxs, hbefore, hafter⟩
    cases before with
    | nil =>
      obtain ⟨rfl, rfl⟩ := List.cons.inj hxs
      exact Or.inl ⟨rfl, hafter⟩
    | cons c before =>
      obtain ⟨rfl, rfl⟩ := List.cons.inj hxs
      refine Or.inr ⟨hbefore a List.mem_cons_self, before, after, rfl, ?_, hafter⟩
      intro x hx
      exact hbefore x (List.mem_cons_of_mem a hx)
  · rintro (⟨rfl, hafter⟩ | ⟨hab, before, after, rfl, hbefore, hafter⟩)
    · exact ⟨[], xs, rfl, by simp, hafter⟩
    · refine ⟨a :: before, after, rfl, ?_, hafter⟩
      intro x hx
      rcases List.mem_cons.1 hx with rfl | hx
      · exact hab
      · exact hbefore x hx

/-- Sorting keeps the order of what it does not tell apart, so the last of the sorted list is the
last of the greatest. -/
theorem getLast?_mergeSort_iff (htrans : ∀ a b c, le a b → le b c → le a c)
    (htotal : ∀ a b, le a b || le b a) :
    (xs.mergeSort le).getLast? = some b ↔ Latest le xs b := by
  induction xs with
  | nil => simp [Latest]
  | cons a xs ih =>
    obtain ⟨hcons, hrest⟩ := mergeSort_cons_eq htrans htotal a xs
    rw [hcons, latest_cons_iff, ← ih]
    generalize hs : xs.mergeSort le = sorted at hrest ⊢
    have hmem : ∀ x, x ∈ sorted ↔ x ∈ xs := by
      intro x
      rw [← hs]
      exact List.mem_mergeSort
    have hlast : sorted.getLast? = ((sorted.filter (le a ·)).getLast?).or
        (sorted.filter (!le a ·)).getLast? := by
      conv_lhs => rw [hrest]
      exact List.getLast?_append
    cases hafter : sorted.filter (le a ·) with
    | nil =>
      have hnone : ∀ x ∈ xs, le a x = false := by
        intro x hx
        have := List.filter_eq_nil_iff.1 hafter x ((hmem x).2 hx)
        simpa using this
      have hnot : ¬ (le a b = true ∧ sorted.getLast? = some b) := by
        rintro ⟨hab, hb⟩
        have hbx : b ∈ xs := (hmem b).1 (List.mem_of_getLast? hb)
        rw [hnone b hbx] at hab
        cases hab
      rw [List.getLast?_concat]
      constructor
      · intro hb
        exact Or.inl ⟨(Option.some.inj hb).symm, hnone⟩
      · rintro (⟨rfl, -⟩ | h)
        · rfl
        · exact absurd h hnot
    | cons c cs =>
      obtain ⟨z, hz⟩ : ∃ z, (c :: cs).getLast? = some z :=
        Option.isSome_iff_exists.1 (by simp)
      have haz : le a z = true := by
        have hzmem : z ∈ sorted.filter (le a ·) := hafter ▸ List.mem_of_getLast? hz
        exact (List.mem_filter.1 hzmem).2
      rw [hafter, hz, Option.some_or] at hlast
      have hgoal : (sorted.filter (!le a ·) ++ a :: c :: cs).getLast? = some z := by
        rw [List.getLast?_append, List.getLast?_cons_cons, hz]
        rfl
      rw [hgoal, hlast]
      constructor
      · intro hb
        obtain rfl := Option.some.inj hb
        exact Or.inr ⟨haz, rfl⟩
      · rintro (⟨rfl, hnone⟩ | ⟨-, hb⟩)
        · have hzx : z ∈ xs := (hmem z).1 (List.mem_of_getLast? hlast)
          rw [hnone z hzx] at haz
          cases haz
        · exact hb

end

/-! ### Binding one name after another -/

variable {b : Binding} {bs table : List Binding} {name : String} {e : SymbolEntry}

theorem keys_bindName (b : Binding) (table : List Binding) :
    (bindName b table).map Prod.fst = insertName b.1 (table.map Prod.fst) := by
  induction table with
  | nil => rfl
  | cons x xs ih =>
    rw [bindName, List.map_cons, insertName]
    split
    · rfl
    · next hlt =>
      split
      · rw [List.map_cons, ih]
      · next hgt =>
        have : b.1 = x.1 := le_antisymm (not_lt.1 hgt) (not_lt.1 hlt)
        simp [this]

theorem lookup_binding_cons (b : Binding) (table : List Binding) (name : String) :
    (b :: table).lookup name = if name = b.1 then some b.2 else table.lookup name := by
  by_cases h : name = b.1
  · subst h
    rw [if_pos rfl]
    exact List.lookup_cons_self
  · rw [if_neg h, List.lookup_cons, beq_false_of_ne h]

theorem lookup_bindName (b : Binding) (table : List Binding) (name : String) :
    (bindName b table).lookup name = if name = b.1 then some b.2 else table.lookup name := by
  induction table with
  | nil => exact lookup_binding_cons b [] name
  | cons x xs ih =>
    rw [bindName]
    split
    · exact lookup_binding_cons b (x :: xs) name
    · next hlt =>
      split
      · next hgt =>
        have hne : x.1 ≠ b.1 := ne_of_lt hgt
        rw [lookup_binding_cons, lookup_binding_cons, ih]
        by_cases h : name = x.1
        · rw [if_pos h, if_pos h, if_neg (h ▸ hne)]
        · rw [if_neg h, if_neg h]
      · next hgt =>
        -- Neither name comes before the other, so the new entry stands for the same name.
        have hkey : b.1 = x.1 := le_antisymm (not_lt.1 hgt) (not_lt.1 hlt)
        rw [lookup_binding_cons, lookup_binding_cons, hkey]
        by_cases h : name = x.1
        · rw [if_pos h, if_pos h]
        · rw [if_neg h, if_neg h, if_neg h]

namespace Symbols

theorem sorted_foldl_bindName (h : (table.map Prod.fst).Pairwise (· < ·)) :
    ((bs.foldl (fun table b => bindName b table) table).map Prod.fst).Pairwise (· < ·) := by
  induction bs generalizing table with
  | nil => exact h
  | cons b bs ih =>
    apply ih
    rw [keys_bindName]
    exact pairwise_insertName h

/-- The last binding of a name stands. -/
theorem lookup_foldl_bindName :
    (bs.foldl (fun table b => bindName b table) table).lookup name =
      ((bs.filter (·.1 == name)).getLast?.map Prod.snd).or (table.lookup name) := by
  induction bs generalizing table with
  | nil => rfl
  | cons b bs ih =>
    rw [List.foldl_cons, ih, lookup_bindName]
    by_cases h : b.1 = name
    · have hlast : ((b :: bs).filter (·.1 == name)).getLast? =
          ((bs.filter (·.1 == name)).getLast?).or (some b) := by
        rw [List.filter_cons_of_pos (by simpa using h), ← List.singleton_append,
          List.getLast?_append]
        rfl
      rw [hlast, if_pos h.symm]
      cases (bs.filter (·.1 == name)).getLast? <;> rfl
    · rw [List.filter_cons_of_neg (by simpa using h), if_neg (Ne.symm h)]

/-- By lines, as bindings take effect. -/
def lineLe (a b : Binding) : Bool := decide (a.2.line ≤ b.2.line)

theorem lineLe_trans (a b c : Binding) (hab : lineLe a b = true) (hbc : lineLe b c = true) :
    lineLe a c = true := by
  simp only [lineLe, decide_eq_true_eq] at hab hbc ⊢
  exact Nat.le_trans hab hbc

theorem lineLe_total (a b : Binding) : (lineLe a b || lineLe b a) = true := by
  simp only [lineLe, Bool.or_eq_true, decide_eq_true_eq]
  exact Nat.le_total _ _

/-- The binding of a name that stands: nothing of that name before it is on a later line, and all of
that name behind it is on an earlier one. -/
def Stands (bs : List Binding) (name : String) (e : SymbolEntry) : Prop :=
  ∃ before after, bs = before ++ (name, e) :: after ∧
    (∀ b ∈ before, b.1 = name → b.2.line ≤ e.line) ∧ ∀ b ∈ after, b.1 = name → b.2.line < e.line

/-- Among the bindings of one name, the one that stands is the latest. -/
theorem latest_filter_iff :
    Latest lineLe (bs.filter (·.1 == name)) b ↔ b.1 = name ∧ Stands bs name b.2 := by
  constructor
  · rintro ⟨before, after, hbs, hbefore, hafter⟩
    obtain ⟨xs, ys, rfl, rfl, hys⟩ := List.filter_eq_append_iff.1 hbs
    obtain ⟨zs, ws, rfl, hzs, hb, rfl⟩ := List.filter_eq_cons_iff.1 hys
    obtain rfl : b.1 = name := by simpa using hb
    refine ⟨rfl, xs ++ zs, ws, by simp, ?_, ?_⟩
    · intro a ha hname
      rcases List.mem_append.1 ha with ha | ha
      · simpa [lineLe] using hbefore a (List.mem_filter.2 ⟨ha, by simpa using hname⟩)
      · exact absurd (by simpa using hname) (hzs a ha)
    · intro a ha hname
      simpa [lineLe] using hafter a (List.mem_filter.2 ⟨ha, by simpa using hname⟩)
  · rintro ⟨rfl, before, after, rfl, hbefore, hafter⟩
    refine ⟨before.filter (·.1 == b.1), after.filter (·.1 == b.1), by simp, ?_, ?_⟩
    · intro a ha
      obtain ⟨ha, hname⟩ := List.mem_filter.1 ha
      simpa [lineLe] using hbefore a ha (by simpa using hname)
    · intro a ha
      obtain ⟨ha, hname⟩ := List.mem_filter.1 ha
      simpa [lineLe] using hafter a ha (by simpa using hname)

theorem lookup_ofBindings_iff : (ofBindings bs).lookup name = some e ↔ Stands bs name e := by
  have hlast : ∀ b, ((bs.mergeSort lineLe).filter (·.1 == name)).getLast? = some b ↔
      b.1 = name ∧ Stands bs name b.2 := by
    intro b
    rw [filter_mergeSort lineLe_trans lineLe_total,
      getLast?_mergeSort_iff lineLe_trans lineLe_total, latest_filter_iff]
  have hlookup : (ofBindings bs).lookup name =
      (((bs.mergeSort lineLe).filter (·.1 == name)).getLast?).map Prod.snd := by
    rw [ofBindings, lookup_foldl_bindName]
    exact Option.or_none
  rw [hlookup, Option.map_eq_some_iff]
  constructor
  · rintro ⟨b, hb, rfl⟩
    exact ((hlast b).1 hb).2
  · intro h
    exact ⟨(name, e), (hlast (name, e)).2 ⟨rfl, h⟩, rfl⟩

/-! ### What the names stand for -/

/-- What an entry of a name says of a file: what it was declared as, and where. -/
def Describes (declarations : List Declaration) (globals : List Variable) (name : String)
    (e : SymbolEntry) : Prop :=
  match e.kind with
  | .function => ∃ f, .function f ∈ declarations ∧ f.isMethod = false ∧
      name = f.name ∧ e.line = f.lineStart
  | .method =>
    (∃ f, .function f ∈ declarations ∧ f.isMethod = true ∧ name = f.name ∧ e.line = f.lineStart) ∨
    ∃ c, .classLike c ∈ declarations ∧ ∃ m ∈ c.methods,
      name = c.name ++ "." ++ m.name ∧ e.line = m.lineStart
  | .classLike => ∃ c, .classLike c ∈ declarations ∧ name = c.name ∧ e.line = c.lineStart
  | .value => ∃ v ∈ globals, name = v.name ∧ e.line = v.line

variable {declarations : List Declaration} {globals : List Variable}

/-- Every binding describes a declaration or a variable, and each of them is bound. -/
theorem mem_bindings_iff :
    (name, e) ∈ bindings declarations globals ↔ Describes declarations globals name e := by
  obtain ⟨kind, line⟩ := e
  have hmem : (name, ⟨kind, line⟩) ∈ bindings declarations globals ↔
      (∃ d ∈ declarations, (name, ⟨kind, line⟩) ∈ d.bindings) ∨
        ∃ v ∈ globals, v.binding = (name, ⟨kind, line⟩) := by
    rw [bindings, List.mem_append, List.mem_flatMap, List.mem_map]
  rw [hmem]
  constructor
  · rintro (⟨d, hd, hb⟩ | ⟨v, hv, hb⟩)
    · cases d with
      | function f =>
        obtain ⟨rfl, rfl, rfl⟩ : name = f.name ∧
            kind = (if f.isMethod then .method else .function) ∧ line = f.lineStart := by
          simpa [Declaration.bindings] using hb
        cases hm : f.isMethod with
        | false => exact ⟨f, hd, hm, rfl, rfl⟩
        | true => exact Or.inl ⟨f, hd, hm, rfl, rfl⟩
      | classLike c =>
        rcases List.mem_cons.1 hb with hb | hb
        · cases hb
          exact ⟨c, hd, rfl, rfl⟩
        · obtain ⟨m, hm, hb⟩ := List.mem_map.1 hb
          cases hb
          exact Or.inr ⟨c, hd, m, hm, rfl, rfl⟩
    · cases hb
      exact ⟨v, hv, rfl, rfl⟩
  · intro h
    cases kind with
    | function =>
      obtain ⟨f, hf, hm, rfl, rfl⟩ := h
      exact Or.inl ⟨_, hf, by simp [Declaration.bindings, hm]⟩
    | method =>
      rcases h with ⟨f, hf, hm, rfl, rfl⟩ | ⟨c, hc, m, hm, rfl, rfl⟩
      · exact Or.inl ⟨_, hf, by simp [Declaration.bindings, hm]⟩
      · exact Or.inl ⟨_, hc, List.mem_cons_of_mem _ (List.mem_map.2 ⟨m, hm, rfl⟩)⟩
    | classLike =>
      obtain ⟨c, hc, rfl, rfl⟩ := h
      exact Or.inl ⟨_, hc, List.mem_cons_self⟩
    | value =>
      obtain ⟨v, hv, rfl, rfl⟩ := h
      exact Or.inr ⟨v, hv, rfl⟩

/-- The names that a file binds. -/
def Binds (declarations : List Declaration) (globals : List Variable) (name : String) : Prop :=
  (∃ f, .function f ∈ declarations ∧ name = f.name) ∨
  (∃ c, .classLike c ∈ declarations ∧ name = c.name) ∨
  (∃ c, .classLike c ∈ declarations ∧ ∃ m ∈ c.methods, name = c.name ++ "." ++ m.name) ∨
  ∃ v ∈ globals, name = v.name

theorem binds_iff :
    Binds declarations globals name ↔ ∃ e, Describes declarations globals name e := by
  constructor
  · rintro (⟨f, hf, rfl⟩ | ⟨c, hc, rfl⟩ | ⟨c, hc, m, hm, rfl⟩ | ⟨v, hv, rfl⟩)
    · cases h : f.isMethod with
      | false => exact ⟨⟨.function, f.lineStart⟩, f, hf, h, rfl, rfl⟩
      | true => exact ⟨⟨.method, f.lineStart⟩, Or.inl ⟨f, hf, h, rfl, rfl⟩⟩
    · exact ⟨⟨.classLike, c.lineStart⟩, c, hc, rfl, rfl⟩
    · exact ⟨⟨.method, m.lineStart⟩, Or.inr ⟨c, hc, m, hm, rfl, rfl⟩⟩
    · exact ⟨⟨.value, v.line⟩, v, hv, rfl, rfl⟩
  · rintro ⟨⟨kind, line⟩, h⟩
    cases kind with
    | function =>
      obtain ⟨f, hf, -, hn, -⟩ := h
      exact Or.inl ⟨f, hf, hn⟩
    | method =>
      rcases h with ⟨f, hf, -, hn, -⟩ | ⟨c, hc, m, hm, hn, -⟩
      · exact Or.inl ⟨f, hf, hn⟩
      · exact Or.inr (Or.inr (Or.inl ⟨c, hc, m, hm, hn⟩))
    | classLike =>
      obtain ⟨c, hc, hn, -⟩ := h
      exact Or.inr (Or.inl ⟨c, hc, hn⟩)
    | value =>
      obtain ⟨v, hv, hn, -⟩ := h
      exact Or.inr (Or.inr (Or.inr ⟨v, hv, hn⟩))

theorem mem_keys_of_iff (calls : List CallSite) :
    name ∈ (of declarations globals calls).table.map Prod.fst ↔
      Binds declarations globals name := by
  have hkeys : name ∈ (of declarations globals calls).table.map Prod.fst ↔
      name ∈ (bindings declarations globals).map Prod.fst := mem_keys_ofBindings
  rw [hkeys, binds_iff, List.mem_map]
  constructor
  · rintro ⟨⟨_, e⟩, hb, rfl⟩
    exact ⟨e, mem_bindings_iff.1 hb⟩
  · rintro ⟨e, he⟩
    exact ⟨(name, e), mem_bindings_iff.2 he, rfl⟩

theorem Stands.describes (h : Stands (bindings declarations globals) name e) :
    Describes declarations globals name e := by
  obtain ⟨before, after, hb, -, -⟩ := h
  apply mem_bindings_iff.1
  rw [hb]
  simp

/-- The bindings of a file in their order: the declarations as they are listed, each class before its
methods, and the variables after all of them. -/
inductive Ordered : List Declaration → List Variable → List Binding → Prop where
  | values {vs : List Variable} : Ordered [] vs (vs.map fun v => (v.name, ⟨.value, v.line⟩))
  | function {f : FunctionDecl} {ds : List Declaration} {vs : List Variable} {bs : List Binding}
      (h : Ordered ds vs bs) :
      Ordered (.function f :: ds) vs
        ((f.name, ⟨if f.isMethod then .method else .function, f.lineStart⟩) :: bs)
  | classLike {c : ClassDecl} {ds : List Declaration} {vs : List Variable} {bs : List Binding}
      (h : Ordered ds vs bs) :
      Ordered (.classLike c :: ds) vs
        ((c.name, ⟨.classLike, c.lineStart⟩) ::
          c.methods.map (fun m => (c.name ++ "." ++ m.name, ⟨.method, m.lineStart⟩)) ++ bs)

theorem ordered_iff : Ordered declarations globals bs ↔ bs = bindings declarations globals := by
  constructor
  · intro h
    induction h with
    | values => rfl
    | function _ ih =>
      rw [ih]
      rfl
    | classLike _ ih =>
      rw [ih, bindings, bindings, List.flatMap_cons, List.append_assoc]
      rfl
  · rintro rfl
    induction declarations with
    | nil => exact .values
    | cons d ds ih =>
      rw [bindings, List.flatMap_cons, List.append_assoc]
      cases d with
      | function f => exact .function ih
      | classLike c => exact .classLike ih

/-- What the symbol table of a file holds. -/
structure Tabulates (declarations : List Declaration) (globals : List Variable) (s : Symbols) :
    Prop where
  /-- A name has one entry. -/
  sorted : (s.table.map Prod.fst).Pairwise (· < ·)
  names (name : String) : name ∈ s.table.map Prod.fst ↔ Binds declarations globals name
  stands (name : String) (e : SymbolEntry) :
    s.lookup name = some e ↔ ∃ bs, Ordered declarations globals bs ∧ Stands bs name e
  describes (name : String) (e : SymbolEntry) :
    s.lookup name = some e → Describes declarations globals name e
  bound (name : String) : Binds declarations globals name → ∃ e, s.lookup name = some e

/-- The table has the names that are bound and no others, each with the binding on the last line,
and of those on that line the last one, declarations before variables. -/
theorem table_shadows (declarations : List Declaration) (globals : List Variable)
    (calls : List CallSite) : Tabulates declarations globals (of declarations globals calls) where
  sorted := sorted_foldl_bindName .nil
  names _ := mem_keys_of_iff calls
  stands _ _ := by
    simp only [ordered_iff, exists_eq_left]
    exact lookup_ofBindings_iff
  describes _ _ h := (lookup_ofBindings_iff.1 h).describes
  bound _ h := Option.isSome_iff_exists.1 (lookup_isSome_iff.2 ((mem_keys_of_iff calls).2 h))

end Symbols

end CodeSurvey
