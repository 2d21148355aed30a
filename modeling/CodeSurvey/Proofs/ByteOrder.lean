import Mathlib.Data.List.Basic
import Mathlib.Data.String.Basic

/-! The order of texts is that of their bytes. -/
namespace CodeSurvey.Text

variable {c d : Char} {k m n : Nat} {x y : List UInt8} {cs ds : List Char} {s t : String}

/-- The bytes of a text. -/
def bytes (s : String) : List UInt8 := s.toUTF8.data.toList

theorem bytes_eq (s : String) : bytes s = s.toList.flatMap String.utf8EncodeChar := by
  have hencode : s.toList.utf8Encode = s.toByteArray := String.utf8Encode_toList
  rw [bytes, String.toUTF8, ← hencode, List.utf8Encode]
  simp

/-! ### Characters -/

/-- How many bytes a character has after its first. -/
def tailLength (n : Nat) : Nat :=
  if n ≤ 0x7F then 0 else if n ≤ 0x7FF then 1 else if n ≤ 0xFFFF then 2 else 3

/-- The first byte of a character says how many come after it, and holds its highest bits. -/
def firstByte (n : Nat) : Nat := n / 64 ^ tailLength n + [0, 0xC0, 0xE0, 0xF0].getD (tailLength n) 0

/-- The last bytes of a character hold six bits each. -/
def lowBytes (n : Nat) : Nat → List UInt8
  | 0 => []
  | k + 1 => UInt8.ofNat (n / 64 ^ k % 64 + 0x80) :: lowBytes n k

theorem toNat_lt (c : Char) : c.val.toNat < 0x110000 := by
  have := c.valid
  simp only [UInt32.isValidChar, Nat.isValidChar] at this
  omega

theorem utf8EncodeChar_eq (c : Char) :
    String.utf8EncodeChar c =
      UInt8.ofNat (firstByte c.val.toNat) :: lowBytes c.val.toNat (tailLength c.val.toNat) := by
  have hmax := toNat_lt c
  simp only [String.utf8EncodeChar]
  generalize c.val.toNat = n at hmax ⊢
  simp only [firstByte, tailLength]
  split_ifs
  · simp [lowBytes]
  · have hhigh : n / 64 % 32 = n / 64 := Nat.mod_eq_of_lt (by omega)
    simp [lowBytes, hhigh]
  · have hhigh : n / 4096 % 16 = n / 4096 := Nat.mod_eq_of_lt (by omega)
    simp [lowBytes, hhigh]
  · have hhigh : n / 262144 % 8 = n / 262144 := Nat.mod_eq_of_lt (by omega)
    simp [lowBytes, hhigh]

theorem ofNat_cons_lt (hn : n < 256) (hle : m ≤ n) (h : m = n → x < y) :
    UInt8.ofNat m :: x < UInt8.ofNat n :: y := by
  rcases Nat.lt_or_eq_of_le hle with hlt | heq
  · apply List.cons_lt_cons_iff.2
    left
    rw [UInt8.lt_iff_toNat_lt, UInt8.toNat_ofNat_of_lt' hn,
      UInt8.toNat_ofNat_of_lt' (Nat.lt_trans hlt hn)]
    exact hlt
  · subst heq
    exact List.cons_lt_cons_iff.2 (.inr ⟨rfl, h rfl⟩)

theorem lowBytes_append_lt (h : m < n) (hhigh : m / 64 ^ k = n / 64 ^ k) (x y : List UInt8) :
    lowBytes m k ++ x < lowBytes n k ++ y := by
  induction k with
  | zero =>
    rw [Nat.pow_zero, Nat.div_one, Nat.div_one] at hhigh
    omega
  | succ k ih =>
    have hdigits : m / 64 ^ k ≤ n / 64 ^ k := Nat.div_le_div_right h.le
    rw [Nat.pow_succ, ← Nat.div_div_eq_div_mul, ← Nat.div_div_eq_div_mul] at hhigh
    refine ofNat_cons_lt (by omega) (by omega) ?_
    intro hdigit
    exact ih (by omega)

theorem firstByte_le (h : m < n) (hn : n < 0x110000) :
    firstByte m ≤ firstByte n ∧ firstByte n < 256 ∧
      (firstByte m = firstByte n → tailLength m = tailLength n ∧
        m / 64 ^ tailLength m = n / 64 ^ tailLength n) := by
  simp only [firstByte, tailLength]
  split_ifs <;> simp <;> omega

theorem utf8EncodeChar_append_lt (h : c < d) (x y : List UInt8) :
    String.utf8EncodeChar c ++ x < String.utf8EncodeChar d ++ y := by
  have hlt : c.val.toNat < d.val.toNat := h
  obtain ⟨hfirst, hbyte, hsame⟩ := firstByte_le hlt (toNat_lt d)
  rw [utf8EncodeChar_eq, utf8EncodeChar_eq, List.cons_append, List.cons_append]
  refine ofNat_cons_lt hbyte hfirst ?_
  intro heq
  obtain ⟨htail, hhigh⟩ := hsame heq
  rw [← htail] at hhigh ⊢
  exact lowBytes_append_lt hlt hhigh x y

/-! ### Texts -/

theorem flatMap_utf8EncodeChar_lt (h : cs < ds) :
    cs.flatMap String.utf8EncodeChar < ds.flatMap String.utf8EncodeChar := by
  induction h with
  | nil =>
    rw [List.flatMap_cons, utf8EncodeChar_eq]
    exact List.nil_lt_cons _ _
  | cons h ih =>
    rw [List.flatMap_cons, List.flatMap_cons]
    exact List.append_left_lt ih
  | rel h =>
    rw [List.flatMap_cons, List.flatMap_cons]
    exact utf8EncodeChar_append_lt h _ _

/-- Texts stand in the order of their bytes. -/
theorem bytes_le_iff : bytes s ≤ bytes t ↔ s ≤ t := by
  constructor
  · intro h
    by_contra hlt
    have hbytes : bytes t < bytes s := by
      rw [bytes_eq, bytes_eq]
      exact flatMap_utf8EncodeChar_lt (String.lt_iff_toList_lt.1 (not_le.1 hlt))
    exact absurd hbytes (List.not_lt.2 h)
  · intro h
    rcases eq_or_lt_of_le h with rfl | hlt
    · exact List.le_refl _
    · apply List.le_of_lt
      rw [bytes_eq, bytes_eq]
      exact flatMap_utf8EncodeChar_lt (String.lt_iff_toList_lt.1 hlt)

end CodeSurvey.Text
