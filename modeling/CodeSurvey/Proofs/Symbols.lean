import CodeSurvey.Symbols
import Mathlib.Data.String.Basic

/-! Keys and names in the symbol table. -/
namespace CodeSurvey

variable {owner owner' name name' key : String} {b : Binding} {bs table : List Binding}

theorem toList_methodKey : (methodKey owner name).toList = owner.toList ++ '.' :: name.toList := by
  simp [methodKey]

/-- The last dot of a key stands before the name of the method. -/
theorem methodKey_inj (hn : '.' ∉ name.toList) (hn' : '.' ∉ name'.toList)
    (h : methodKey owner name = methodKey owner' name') : owner = owner' ∧ name = name' := by
  have hl := congrArg String.toList h
  rw [toList_methodKey, toList_methodKey] at hl
  rcases List.append_eq_append_iff.1 hl with ⟨c, ho, hc⟩ | ⟨c, ho, hc⟩
  · cases c with
    | nil => simp_all [String.toList_inj]
    | cons x c =>
      have : name.toList = c ++ '.' :: name'.toList := (List.cons.inj hc).2
      simp [this] at hn
  · cases c with
    | nil => simp_all [String.toList_inj]
    | cons x c =>
      have : name'.toList = c ++ '.' :: name.toList := (List.cons.inj hc).2
      simp [this] at hn'

theorem ne_methodKey (hn : '.' ∉ name.toList) : name ≠ methodKey owner name' := by
  intro h
  rw [h, toList_methodKey] at hn
  simp at hn

theorem mem_keys_bindName :
    key ∈ (bindName b table).map Prod.fst ↔ key = b.1 ∨ key ∈ table.map Prod.fst := by
  induction table with
  | nil => simp [bindName]
  | cons x xs ih =>
    rw [bindName]
    split
    · simp
    · next hlt =>
      split
      · rw [List.map_cons, List.mem_cons, ih, List.map_cons, List.mem_cons]
        tauto
      · next hgt =>
        -- Neither name comes before the other, so the new entry stands for the same name.
        have : b.1 = x.1 := le_antisymm (not_lt.1 hgt) (not_lt.1 hlt)
        simp [this]

namespace Symbols

theorem mem_keys_foldl_bindName :
    key ∈ (bs.foldl (fun table b => bindName b table) table).map Prod.fst ↔
      key ∈ bs.map Prod.fst ∨ key ∈ table.map Prod.fst := by
  induction bs generalizing table with
  | nil => simp
  | cons b bs ih =>
    rw [List.foldl_cons, ih, mem_keys_bindName, List.map_cons, List.mem_cons]
    tauto

/-- The names of a table are those that are bound. -/
theorem mem_keys_ofBindings : key ∈ (ofBindings bs).map Prod.fst ↔ key ∈ bs.map Prod.fst := by
  rw [ofBindings]
  rw [mem_keys_foldl_bindName, ((List.mergeSort_perm _ _).map _).mem_iff]
  simp

theorem lookup_isSome_iff {s : Symbols} :
    (s.lookup key).isSome ↔ key ∈ s.table.map Prod.fst := by
  simp only [lookup, List.lookup_isSome_iff, beq_iff_eq, List.mem_map]
  grind

end Symbols

end CodeSurvey
