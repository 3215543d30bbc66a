/-
Scaling and rounding of quotients.

The arithmetic of doubles here works on quotients of whole numbers and never on rationals,
so that it can run.  What it computes is stated in rationals: `scale` multiplies by a power,
`floorLog2` finds the power of two below a quotient, and `roundHalfEven` finds the nearest
whole number.  Nothing else about the three is used elsewhere.
-/
import Mathlib.Algebra.Order.Field.Power
import Mathlib.Data.Rat.Cast.Order
import Mathlib.Tactic.FieldSimp
import Mathlib.Tactic.Linarith
import Mathlib.Tactic.NormNum
import Mathlib.Tactic.Positivity
import Mathlib.Tactic.Ring
import Reckon.Decimal.Binary64

namespace Reckon.Binary64

/-! ### Scaling -/

theorem scale_den_pos {base den : Nat} (hbase : 0 < base) (hden : 0 < den) (num : Nat) (e : Int) :
    0 < (scale base num den e).2 := by
  unfold scale
  split
  · exact hden
  · exact Nat.mul_pos hden (Nat.pow_pos hbase)

/-- Scaling multiplies the quotient by a power of the base. -/
theorem scale_eq {base den : Nat} (hbase : 0 < base) (hden : 0 < den) (num : Nat) (e : Int) :
    ((scale base num den e).1 : ℚ) / (scale base num den e).2 =
      (num : ℚ) / den * (base : ℚ) ^ e := by
  have hbase' : (base : ℚ) ≠ 0 := by positivity
  have hden' : (den : ℚ) ≠ 0 := by positivity
  unfold scale
  split
  · rename_i h
    obtain ⟨n, rfl⟩ := Int.eq_ofNat_of_zero_le h
    simp only [Int.toNat_natCast, Nat.pow_eq, zpow_natCast]
    push_cast
    ring
  · rename_i h
    obtain ⟨n, hn⟩ : ∃ n : Nat, e = -(n : Int) := ⟨(-e).toNat, by omega⟩
    subst hn
    simp only [neg_neg, Int.toNat_natCast, Nat.pow_eq, zpow_neg, zpow_natCast]
    push_cast
    field_simp

/-! ### The power of two below a quotient -/

theorem zpow_log2_le {n : Nat} (h : n ≠ 0) : (2 : ℚ) ^ (n.log2 : Int) ≤ n := by
  rw [zpow_natCast]
  exact_mod_cast Nat.log2_self_le h

theorem lt_zpow_log2 (n : Nat) : (n : ℚ) < (2 : ℚ) ^ ((n.log2 : Int) + 1) := by
  have h : n < 2 ^ (n.log2 + 1) := Nat.lt_log2_self
  rw [show (n.log2 : Int) + 1 = ((n.log2 + 1 : Nat) : Int) by push_cast; ring, zpow_natCast]
  exact_mod_cast h

/-- The logarithms of the parts leave the quotient within a factor of two. -/
theorem zpow_guess_le {num den : Nat} (hnum : 0 < num) (hden : 0 < den) :
    (2 : ℚ) ^ ((num.log2 : Int) - den.log2 - 1) ≤ (num : ℚ) / den := by
  have hdenLt := lt_zpow_log2 den
  have hden' : (0 : ℚ) < den := by exact_mod_cast hden
  rw [le_div_iff₀ hden']
  calc (2 : ℚ) ^ ((num.log2 : Int) - den.log2 - 1) * den
      ≤ (2 : ℚ) ^ ((num.log2 : Int) - den.log2 - 1) * (2 : ℚ) ^ ((den.log2 : Int) + 1) := by gcongr
    _ = (2 : ℚ) ^ (num.log2 : Int) := by
        rw [← zpow_add₀ (by norm_num)]
        congr 1
        omega
    _ ≤ num := zpow_log2_le hnum.ne'

theorem lt_zpow_guess (num : Nat) {den : Nat} (hden : 0 < den) :
    (num : ℚ) / den < (2 : ℚ) ^ ((num.log2 : Int) - den.log2 + 1) := by
  have hdenLe := zpow_log2_le hden.ne'
  have hden' : (0 : ℚ) < den := by exact_mod_cast hden
  rw [div_lt_iff₀ hden']
  calc (num : ℚ) < (2 : ℚ) ^ ((num.log2 : Int) + 1) := lt_zpow_log2 num
    _ = (2 : ℚ) ^ ((num.log2 : Int) - den.log2 + 1) * (2 : ℚ) ^ (den.log2 : Int) := by
        rw [← zpow_add₀ (by norm_num)]
        congr 1
        omega
    _ ≤ (2 : ℚ) ^ ((num.log2 : Int) - den.log2 + 1) * den := by gcongr

/-- Comparing the scaled parts tells whether the quotient reaches a power of two. -/
theorem scale_reaches_iff (num : Nat) {den : Nat} (hden : 0 < den) (e : Int) :
    (scale 2 num den (-e)).2 ≤ (scale 2 num den (-e)).1 ↔ (2 : ℚ) ^ e ≤ (num : ℚ) / den := by
  have hscaled := scale_eq (by norm_num : 0 < 2) hden num (-e)
  have hpos := scale_den_pos (by norm_num : 0 < 2) hden num (-e)
  have hpos' : (0 : ℚ) < (scale 2 num den (-e)).2 := by exact_mod_cast hpos
  have h : ((scale 2 num den (-e)).2 : ℚ) ≤ (scale 2 num den (-e)).1 ↔
      1 ≤ (num : ℚ) / den * ((2 : Nat) : ℚ) ^ (-e) := by
    rw [← hscaled, le_div_iff₀ hpos', one_mul]
  rw [← Nat.cast_le (α := ℚ), h, zpow_neg, ← div_eq_mul_inv, le_div_iff₀ (by positivity), one_mul]
  rfl

/-- `floorLog2` is the exponent of the greatest power of two that is not above the quotient. -/
theorem floorLog2_spec {num den : Nat} (hnum : 0 < num) (hden : 0 < den) :
    (2 : ℚ) ^ floorLog2 num den ≤ (num : ℚ) / den ∧
      (num : ℚ) / den < (2 : ℚ) ^ (floorLog2 num den + 1) := by
  have hlow := zpow_guess_le hnum hden
  have hhigh := lt_zpow_guess num hden
  unfold floorLog2
  generalize (num.log2 : Int) - den.log2 = guess at hlow hhigh ⊢
  have hreach := scale_reaches_iff num hden guess
  dsimp only
  by_cases h : (scale 2 num den (-guess)).2 ≤ (scale 2 num den (-guess)).1
  · rw [if_pos h]
    exact ⟨hreach.mp h, hhigh⟩
  · rw [if_neg h, sub_add_cancel]
    exact ⟨hlow, not_le.mp fun hle => h (hreach.mpr hle)⟩

/-! ### The nearest whole number -/

/-- Rounding moves a quotient by at most a half. -/
theorem roundHalfEven_near {num den : Nat} (hden : 0 < den) :
    2 * (roundHalfEven num den * den) ≤ 2 * num + den ∧
      2 * num ≤ 2 * (roundHalfEven num den * den) + den := by
  have hdiv : den * (num / den) + num % den = num := Nat.div_add_mod num den
  have hrest : num % den < den := Nat.mod_lt num hden
  rw [Nat.mul_comm den] at hdiv
  unfold roundHalfEven
  dsimp only
  split
  · rename_i h
    have hhalf : den ≤ 2 * (num % den) := by
      simp only [Bool.or_eq_true, decide_eq_true_eq, Bool.and_eq_true, beq_iff_eq] at h
      omega
    rw [Nat.add_mul, Nat.one_mul]
    omega
  · rename_i h
    have hhalf : 2 * (num % den) ≤ den := by
      simp only [Bool.or_eq_true, decide_eq_true_eq, not_or, not_lt] at h
      exact h.1
    omega

/-- A whole number that is nearer than a half, or at a half and even, is what rounding gives. -/
theorem roundHalfEven_eq {num den k : Nat} (hden : 0 < den) (hlow : 2 * (k * den) ≤ 2 * num + den)
    (hhigh : 2 * num ≤ 2 * (k * den) + den)
    (htie : 2 * (k * den) = 2 * num + den ∨ 2 * num = 2 * (k * den) + den → k % 2 = 0) :
    roundHalfEven num den = k := by
  have hdiv : den * (num / den) + num % den = num := Nat.div_add_mod num den
  have hrest : num % den < den := Nat.mod_lt num hden
  rw [Nat.mul_comm den] at hdiv
  generalize hq : num / den = q at hdiv
  generalize hr : num % den = r at hdiv hrest
  -- The number is the quotient or the next one.
  have hcases : k = q ∨ k = q + 1 := by
    have hle : k < q + 2 := by
      by_contra hge
      have := Nat.mul_le_mul_right den (not_lt.mp hge)
      rw [Nat.add_mul] at this
      omega
    have hge : q ≤ k := by
      by_contra hlt
      have := Nat.mul_le_mul_right den (not_le.mp hlt)
      rw [Nat.succ_mul] at this
      omega
    omega
  unfold roundHalfEven
  rw [hq, hr]
  dsimp only
  rcases hcases with rfl | rfl
  · rw [if_neg]
    simp only [Bool.or_eq_true, decide_eq_true_eq, Bool.and_eq_true, beq_iff_eq]
    omega
  · rw [Nat.add_mul, Nat.one_mul] at hlow hhigh htie
    rw [if_pos]
    simp only [Bool.or_eq_true, decide_eq_true_eq, Bool.and_eq_true, beq_iff_eq]
    omega

/-- The same, with the quotient as a rational. -/
theorem roundHalfEven_eq_of_rat {num den k : Nat} {q : ℚ} (hden : 0 < den)
    (hq : (num : ℚ) / den = q) (hlow : (k : ℚ) - 1 / 2 ≤ q) (hhigh : q ≤ k + 1 / 2)
    (htie : q = k - 1 / 2 ∨ q = k + 1 / 2 → k % 2 = 0) : roundHalfEven num den = k := by
  have hden' : (0 : ℚ) < den := by exact_mod_cast hden
  have hnum : (num : ℚ) = q * den := by
    rw [← hq]
    field_simp
  refine roundHalfEven_eq hden ?_ ?_ fun h => htie ?_
  · have := mul_le_mul_of_nonneg_right hlow hden'.le
    rw [← Nat.cast_le (α := ℚ)]
    push_cast
    linarith
  · have := mul_le_mul_of_nonneg_right hhigh hden'.le
    rw [← Nat.cast_le (α := ℚ)]
    push_cast
    linarith
  · rcases h with h | h
    · left
      have h' : (2 : ℚ) * (k * den) = 2 * num + den := by exact_mod_cast h
      refine mul_right_cancel₀ hden'.ne' ?_
      linarith
    · right
      have h' : (2 : ℚ) * num = 2 * (k * den) + den := by exact_mod_cast h
      refine mul_right_cancel₀ hden'.ne' ?_
      linarith

end Reckon.Binary64
