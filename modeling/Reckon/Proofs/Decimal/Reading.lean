/-
Numbers read back what was written.

A whole number is written by its digits.  A double is written by its shortest decimal with
a point, and wherever the point stands, the digits on both sides of it and the number of
those behind it give the value of the decimal again.  Reading rounds that value to the
nearest double, which is the one that was written.
-/
import Reckon.Proofs.Decimal.Shortest
import Reckon.Proofs.Numerals
import Reckon.Shape

namespace Reckon

/-! ### Digits -/

namespace Text

theorem toNat_eq_ofDigitChars (s : Text) : toNat s = Nat.ofDigitChars 10 s 0 := by
  rw [Nat.ofDigitChars_eq_foldl]
  rfl

theorem toNat_ofNat (n : Nat) : toNat (ofNat n) = n := by
  rw [toNat_eq_ofDigitChars]
  exact Nat.ofDigitChars_toDigits (by norm_num) (by norm_num)

theorem isDigit_of_mem_ofNat {n : Nat} {c : Char} (h : c ∈ ofNat n) : isDigit c = true := by
  have hdigit : c.isDigit = true := Nat.isDigit_of_mem_toDigits (by norm_num) (by norm_num) h
  rw [Char.isDigit, Bool.and_eq_true, decide_eq_true_eq, decide_eq_true_eq] at hdigit
  rw [isDigit_iff]
  exact ⟨UInt32.le_iff_toNat_le.mp hdigit.1, UInt32.le_iff_toNat_le.mp hdigit.2⟩

theorem ofNat_ne_nil (n : Nat) : ofNat n ≠ [] := Nat.toDigits_ne_nil

/-- Zeros behind a number multiply it by ten each. -/
theorem toNat_append_zeros (s : Text) (k : Nat) :
    toNat (s ++ List.replicate k '0') = toNat s * 10 ^ k := by
  rw [toNat_eq_ofDigitChars, Nat.ofDigitChars_append, Nat.ofDigitChars_replicate_zero,
    ← toNat_eq_ofDigitChars, Nat.mul_comm]

/-- Zeros in front of a number do not count. -/
theorem toNat_zeros_append (k : Nat) (s : Text) :
    toNat (List.replicate k '0' ++ s) = toNat s := by
  rw [toNat_eq_ofDigitChars, Nat.ofDigitChars_append, Nat.ofDigitChars_replicate_zero, Nat.mul_zero,
    ← toNat_eq_ofDigitChars]

theorem isDigit_of_mem_zeros {k : Nat} {c : Char} (h : c ∈ List.replicate k '0') :
    isDigit c = true := by
  rw [List.eq_of_mem_replicate h]
  decide

end Text

/-! ### Decimals with a point -/

namespace Decimal

open Text

/-- Digits on both sides of a point that give the value of a decimal. -/
structure Shows (d : Decimal) (whole fraction : Text) : Prop where
  whole_ne_nil : whole ≠ []
  whole_digits : ∀ c ∈ whole, isDigit c = true
  fraction_ne_nil : fraction ≠ []
  fraction_digits : ∀ c ∈ fraction, isDigit c = true
  value : (toNat (whole ++ fraction) : ℚ) * 10 ^ (-(fraction.length : Int)) = d.value

variable {d : Decimal}

theorem isDigit_of_mem_figures : ∀ c ∈ d.figures, isDigit c = true :=
  fun _ hc => isDigit_of_mem_ofNat hc

theorem toNat_figures : toNat d.figures = d.digits := toNat_ofNat d.digits

theorem figures_ne_nil : d.figures ≠ [] := ofNat_ne_nil d.digits

/-- The point behind the digits, and behind zeros if need be. -/
theorem shows_behind {k : Nat} (hk : d.exponent = k) :
    d.Shows (d.figures ++ List.replicate k '0') (List.replicate 1 '0') where
  whole_ne_nil := by simp [figures_ne_nil]
  whole_digits := by
    intro c hc
    rcases List.mem_append.mp hc with hc | hc
    · exact isDigit_of_mem_figures c hc
    · exact isDigit_of_mem_zeros hc
  fraction_ne_nil := by simp
  fraction_digits := fun _ hc => isDigit_of_mem_zeros hc
  value := by
    have htenth : (10 : ℚ) ^ (-((1 : Nat) : Int)) = 1 / 10 := by norm_num
    rw [toNat_append_zeros, toNat_append_zeros, toNat_figures, Decimal.value, hk, zpow_natCast,
      List.length_replicate, htenth]
    push_cast
    ring

/-- The point among the digits. -/
theorem shows_among {k : Nat} (hk : d.point = k) (hpos : 0 < k) (hexponent : d.exponent < 0) :
    d.Shows (d.figures.take k) (d.figures.drop k) where
  whole_ne_nil := by
    intro hnil
    have := congrArg List.length hnil
    rw [List.length_take, List.length_nil] at this
    have := List.length_pos_iff.mpr (figures_ne_nil (d := d))
    omega
  whole_digits := fun c hc => isDigit_of_mem_figures c (List.mem_of_mem_take hc)
  fraction_ne_nil := by
    have hlength : d.point = d.figures.length + d.exponent := rfl
    rw [Ne, List.drop_eq_nil_iff]
    omega
  fraction_digits := fun c hc => isDigit_of_mem_figures c (List.mem_of_mem_drop hc)
  value := by
    have hlength : d.point = d.figures.length + d.exponent := rfl
    rw [List.take_append_drop, toNat_figures, List.length_drop, Decimal.value]
    congr 2
    omega

/-- The point before the digits, with zeros in between if need be. -/
theorem shows_before {k : Nat} (hk : -d.point = k) :
    d.Shows (List.replicate 1 '0') (List.replicate k '0' ++ d.figures) where
  whole_ne_nil := by simp
  whole_digits := fun _ hc => isDigit_of_mem_zeros hc
  fraction_ne_nil := List.append_ne_nil_of_right_ne_nil _ figures_ne_nil
  fraction_digits := by
    intro c hc
    rcases List.mem_append.mp hc with hc | hc
    · exact isDigit_of_mem_zeros hc
    · exact isDigit_of_mem_figures c hc
  value := by
    have hlength : d.point = d.figures.length + d.exponent := rfl
    rw [toNat_zeros_append, toNat_zeros_append, toNat_figures, List.length_append,
      List.length_replicate, Decimal.value]
    congr 2
    push_cast
    omega

/-- Wherever the point stands, digits stand on both sides of it and give the value. -/
theorem exists_positional (d : Decimal) :
    ∃ whole fraction : Text, d.positional = whole ++ '.' :: fraction ∧ d.Shows whole fraction := by
  unfold positional
  by_cases hexponent : 0 ≤ d.exponent
  · obtain ⟨k, hk⟩ := Int.eq_ofNat_of_zero_le hexponent
    refine ⟨_, _, ?_, shows_behind hk⟩
    rw [if_pos hexponent, hk, Int.toNat_natCast]
    rfl
  · rw [if_neg hexponent]
    by_cases hpoint : 0 < d.point
    · obtain ⟨k, hk⟩ := Int.eq_ofNat_of_zero_le hpoint.le
      refine ⟨_, _, ?_, shows_among hk (by omega) (not_le.mp hexponent)⟩
      rw [if_pos hpoint, hk, Int.toNat_natCast]
    · obtain ⟨k, hk⟩ := Int.eq_ofNat_of_zero_le (show 0 ≤ -d.point by omega)
      refine ⟨_, _, ?_, shows_before hk⟩
      rw [if_neg hpoint, hk, Int.toNat_natCast]
      rfl

end Decimal

/-! ### Rounding a decimal -/

namespace Binary64

theorem toDigits_length_spec {n : Nat} (h : n ≠ 0) :
    10 ^ ((Nat.toDigits 10 n).length - 1) ≤ n ∧ n < 10 ^ (Nat.toDigits 10 n).length := by
  have hpos : 0 < (Nat.toDigits 10 n).length := Nat.length_toDigits_pos
  refine ⟨?_, (Nat.length_toDigits_le_iff (by norm_num) hpos).mp (Nat.le_refl _)⟩
  by_cases hone : (Nat.toDigits 10 n).length = 1
  · rw [hone]
    show 1 ≤ n
    omega
  · by_contra hlt
    have := (Nat.length_toDigits_le_iff (by norm_num) (by omega)).mpr (not_le.mp hlt)
    omega

theorem two_pow_le_ten_pow : (2 : ℚ) ^ 1076 ≤ 10 ^ 400 := by
  calc (2 : ℚ) ^ 1076 ≤ 2 ^ (3 * 400) := pow_le_pow_right₀ (by norm_num) (by norm_num)
    _ = (2 ^ 3) ^ 400 := pow_mul _ _ _
    _ ≤ 10 ^ 400 := pow_le_pow_left₀ (by norm_num) (by norm_num) 400

section Bounds

variable {m : Nat} {e : Int} {digits : Nat} {exponent : Int} (hc : Canonical m e)
  (h : RoundsTo m e (digits * 10 ^ exponent)) (hne : digits ≠ 0)
include hc h hne

/-- The interval of a double begins above half the least double, so a decimal in it is not too
small. -/
theorem le_length_add : -400 ≤ ((Nat.toDigits 10 digits).length : Int) + exponent := by
  have hhigh := (toDigits_length_spec hne).2
  generalize (Nat.toDigits 10 digits).length = length at hhigh ⊢
  by_contra hlt
  have hsmall : (digits : ℚ) * 10 ^ exponent < 10 ^ (-400 : Int) := by
    calc (digits : ℚ) * 10 ^ exponent < 10 ^ (length : Int) * 10 ^ exponent := by
          refine mul_lt_mul_of_pos_right ?_ (by positivity)
          rw [zpow_natCast]
          exact_mod_cast hhigh
      _ = 10 ^ ((length : Int) + exponent) := (zpow_add₀ (by norm_num) _ _).symm
      _ ≤ 10 ^ (-400 : Int) := zpow_le_zpow_right₀ (by norm_num) (by omega)
  have hm : (1 : ℚ) ≤ m := by exact_mod_cast hc.pos
  have hwidth : (lowGap m e : ℚ) ≤ 2 := lowGap_le
  have hleast := hc.least
  have hlarge : (2 : ℚ) ^ (-1076 : Int) ≤ digits * 10 ^ exponent := by
    calc (2 : ℚ) ^ (-1076 : Int) ≤ 2 ^ (e - 2) := zpow_le_zpow_right₀ (by norm_num) (by omega)
      _ = 1 * 2 ^ (e - 2) := (one_mul _).symm
      _ ≤ (4 * m - lowGap m e) * 2 ^ (e - 2) := by
          refine mul_le_mul_of_nonneg_right ?_ (by positivity)
          linarith
      _ ≤ digits * 10 ^ exponent := h.low
  have hgap : (10 : ℚ) ^ (-400 : Int) ≤ 2 ^ (-1076 : Int) := by
    rw [show (-400 : Int) = -((400 : Nat) : Int) by norm_num,
      show (-1076 : Int) = -((1076 : Nat) : Int) by norm_num, zpow_neg, zpow_neg, zpow_natCast,
      zpow_natCast]
    exact inv_anti₀ (by positivity) two_pow_le_ten_pow
  exact absurd (hlarge.trans_lt hsmall) (not_lt.mpr hgap)

/-- The interval of a double ends below the infinite, so a decimal in it is not too large. -/
theorem length_add_le : ((Nat.toDigits 10 digits).length : Int) + exponent ≤ 400 := by
  have hlow := (toDigits_length_spec hne).1
  have hpos : 0 < (Nat.toDigits 10 digits).length := Nat.length_toDigits_pos
  generalize (Nat.toDigits 10 digits).length = length at hlow hpos ⊢
  by_contra hgt
  have hgreatest := hc.greatest
  have hlarge : (10 : ℚ) ^ (400 : Int) ≤ digits * 10 ^ exponent := by
    calc (10 : ℚ) ^ (400 : Int) ≤ 10 ^ (((length - 1 : Nat) : Int) + exponent) :=
          zpow_le_zpow_right₀ (by norm_num) (by omega)
      _ = 10 ^ ((length - 1 : Nat) : Int) * 10 ^ exponent := zpow_add₀ (by norm_num) _ _
      _ ≤ digits * 10 ^ exponent := by
          refine mul_le_mul_of_nonneg_right ?_ (by positivity)
          rw [zpow_natCast]
          exact_mod_cast hlow
  have hsmall : (digits : ℚ) * 10 ^ exponent < 2 ^ (1024 : Int) :=
    (h.lt_zpow hc).trans_le (zpow_le_zpow_right₀ (by norm_num) (by omega))
  have hgap : (2 : ℚ) ^ (1024 : Int) ≤ 10 ^ (400 : Int) := by
    rw [show (400 : Int) = ((400 : Nat) : Int) by norm_num,
      show (1024 : Int) = ((1024 : Nat) : Int) by norm_num, zpow_natCast, zpow_natCast]
    exact (pow_le_pow_right₀ (by norm_num) (by norm_num)).trans two_pow_le_ten_pow
  exact absurd (hlarge.trans_lt hsmall) (not_lt.mpr hgap)

end Bounds

/-- A decimal in the interval of a double is read as that double. -/
theorem ofDecimal_of_roundsTo {m : Nat} {e : Int} {digits : Nat} {exponent : Int}
    (negative : Bool) (hc : Canonical m e) (h : RoundsTo m e (digits * 10 ^ exponent)) :
    ofDecimal negative digits exponent = sized negative (packedSize m e) := by
  have hne : digits ≠ 0 := by
    rintro rfl
    have := h.pos hc
    simp at this
  have hlow := le_length_add hc h hne
  have hhigh := length_add_le hc h hne
  have hvalue := scale_eq (by norm_num : 0 < 10) (by norm_num : 0 < 1) digits exponent
  have hden := scale_den_pos (by norm_num : 0 < 10) (by norm_num : 0 < 1) digits exponent
  have hq : RoundsTo m e (((scale 10 digits 1 exponent).1 : ℚ) / (scale 10 digits 1 exponent).2) := by
    rw [hvalue]
    push_cast
    rwa [div_one]
  unfold ofDecimal
  dsimp only
  rw [if_neg (by simp [hne]; omega), if_neg (by omega), nearest?_of_roundsTo negative hc hden hq]
  rfl

/-- A zero is read as zero, wherever its point stands. -/
theorem ofDecimal_zero (negative : Bool) (exponent : Int) :
    ofDecimal negative 0 exponent = sized negative 0 := rfl

end Binary64

end Reckon
