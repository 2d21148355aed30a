/-! Sets of names, sorted by code points. -/
namespace CodeSurvey

/-- Puts a name in its place, if it is not there yet. -/
def insertName (a : String) : List String → List String
  | [] => [a]
  | b :: bs => if a < b then a :: b :: bs else if b < a then b :: insertName a bs else b :: bs

theorem mem_insertName {a x : String} {l : List String} (h : x ∈ insertName a l) :
    x = a ∨ x ∈ l := by
  induction l with
  | nil => simpa [insertName] using h
  | cons b bs ih => grind [insertName]

theorem pairwise_insertName {a : String} {l : List String} (h : l.Pairwise (· < ·)) :
    (insertName a l).Pairwise (· < ·) := by
  induction l with
  | nil => simp [insertName]
  | cons b bs ih =>
    rw [List.pairwise_cons] at h
    rw [insertName]
    split
    · next hab =>
      refine .cons (fun x hx => ?_) (.cons h.1 h.2)
      rcases List.mem_cons.1 hx with rfl | hx
      · exact hab
      · exact String.lt_trans hab (h.1 x hx)
    · split
      · next hba =>
        refine .cons (fun x hx => ?_) (ih h.2)
        rcases mem_insertName hx with rfl | hx
        · exact hba
        · exact h.1 x hx
      · exact .cons h.1 h.2

structure NameSet where
  names : List String
  sorted : names.Pairwise (· < ·)
  deriving DecidableEq

namespace NameSet

def empty : NameSet := ⟨[], .nil⟩

def insert (s : NameSet) (a : String) : NameSet := ⟨insertName a s.names, pairwise_insertName s.sorted⟩

def ofList (names : List String) : NameSet := names.foldl insert empty

instance : Inhabited NameSet := ⟨empty⟩

instance : Repr NameSet := ⟨fun s => reprPrec s.names⟩

end NameSet

end CodeSurvey
