/-
Texts that are numerals.

A numeral begins with a digit or with a point, so that nothing that begins like a name is
one.  Digits alone, and digits on both sides of a point, are read as what they are.
-/
import Mathlib.Logic.Basic
import Mathlib.Data.List.TakeWhile
import Reckon.Decimal.Numeral

namespace Reckon

namespace Text

/-! ### Characters of the basic range -/

theorem isDigit_iff {c : Char} : isDigit c = true ↔ 48 ≤ c.toNat ∧ c.toNat ≤ 57 := by
  simp only [isDigit, Bool.and_eq_true, decide_eq_true_eq, Char.le_def, UInt32.le_iff_toNat_le]
  rfl

theorem isNameStart_iff {c : Char} :
    isNameStart c = true ↔
      (97 ≤ c.toNat ∧ c.toNat ≤ 122) ∨ (65 ≤ c.toNat ∧ c.toNat ≤ 90) ∨ c.toNat = 95 := by
  simp only [isNameStart, Bool.or_eq_true, Bool.and_eq_true, decide_eq_true_eq, beq_iff_eq,
    Char.le_def, UInt32.le_iff_toNat_le, Char.ext_iff, ← UInt32.toNat_inj, or_assoc]
  rfl

/-! ### Runs of digits -/

/-- A text of digits that is not empty. -/
structure IsDigits (s : Text) : Prop where
  nonempty : s ≠ []
  digits : ∀ c ∈ s, isDigit c = true

section Digits

variable {s rest : Text} (hs : ∀ c ∈ s, isDigit c = true) (hrest : ∀ c ∈ rest.head?, isDigit c = false)
include hs hrest

/-- Digits are taken up to where something else begins. -/
theorem takeWhile_digits : (s ++ rest).takeWhile isDigit = s := by
  rw [List.takeWhile_append_of_pos hs]
  cases rest with
  | nil => simp
  | cons c rest => simp [hrest c rfl]

theorem dropWhile_digits : (s ++ rest).dropWhile isDigit = rest := by
  rw [List.dropWhile_append_of_pos hs]
  cases rest with
  | nil => rfl
  | cons c rest => rw [List.dropWhile_cons_of_neg (by simp [hrest c rfl])]

end Digits

theorem head?_point (rest : Text) : ∀ c ∈ ('.' :: rest).head?, isDigit c = false := by
  rintro _ ⟨⟩
  decide

end Text

namespace Numeral

/-! ### How a numeral begins -/

/-- A character that a numeral can begin with. -/
def begins (c : Char) : Bool := Text.isDigit c || c == '.'

theorem begins_of_isNameStart {c : Char} (h : Text.isNameStart c = true) : begins c = false := by
  have hc := Text.isNameStart_iff.mp h
  rw [begins, Bool.or_eq_false_iff]
  constructor
  · rw [Bool.eq_false_iff]
    intro hdigit
    have := Text.isDigit_iff.mp hdigit
    omega
  · rw [beq_eq_false_iff_ne]
    rintro rfl
    simp at hc

/-- Behind its whole part a text that does not begin as a numeral has no fraction either. -/
theorem read?_cons_of_not_begins {c : Char} (h : begins c = false) (signed : Bool) (rest : Text) :
    read? signed (c :: rest) = none := by
  obtain ⟨hdigit, hpoint⟩ : Text.isDigit c = false ∧ c ≠ '.' := by simpa [begins] using h
  have hwhole : (c :: rest).takeWhile Text.isDigit = [] := by simp [hdigit]
  have hrest : (c :: rest).dropWhile Text.isDigit = c :: rest := by simp [hdigit]
  unfold read?
  rw [hwhole, hrest]
  simp [hpoint]

theorem exists_of_read? {signed : Bool} {s : Text} {n : Numeral} (h : read? signed s = some n) :
    ∃ c rest, s = c :: rest ∧ begins c = true := by
  cases s with
  | nil => simp [read?] at h
  | cons c rest =>
      refine ⟨c, rest, rfl, ?_⟩
      by_contra hnot
      rw [read?_cons_of_not_begins (by simpa using hnot)] at h
      cases h

/-! ### Numerals without exponent -/

theorem read?_digits {s : Text} (hne : s ≠ []) (hall : ∀ c ∈ s, Text.isDigit c = true)
    (signed : Bool) : read? signed s = some ⟨s, none, none⟩ := by
  have htake : s.takeWhile Text.isDigit = s := List.takeWhile_eq_self_iff.mpr hall
  have hdrop : s.dropWhile Text.isDigit = [] := List.dropWhile_eq_nil_iff.mpr hall
  unfold read?
  rw [htake, hdrop]
  simp [hne]

theorem read?_fraction {s f : Text} (hne : s ≠ []) (hs : ∀ c ∈ s, Text.isDigit c = true)
    (hf : ∀ c ∈ f, Text.isDigit c = true) (signed : Bool) :
    read? signed (s ++ '.' :: f) = some ⟨s, some f, none⟩ := by
  have htake := Text.takeWhile_digits hs (Text.head?_point f)
  have hdrop := Text.dropWhile_digits hs (Text.head?_point f)
  have hftake : f.takeWhile Text.isDigit = f := List.takeWhile_eq_self_iff.mpr hf
  have hfdrop : f.dropWhile Text.isDigit = [] := List.dropWhile_eq_nil_iff.mpr hf
  unfold read?
  rw [htake, hdrop]
  simp [hne, hftake, hfdrop]

end Numeral
end Reckon
