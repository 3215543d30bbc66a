/-
The exact value of a double.

A size is packed from one significand and one exponent only, so the value of a double can be
read off the two: turning the sign turns the value.  Rounding a quotient to a double does not
cross a power of two.  So the nearest double is not below the greatest power of two that is not
above the quotient, and where there is none the quotient is as large as the largest doubles.
-/
import Reckon.Proofs.Decimal.Nearest

namespace Reckon.Binary64

/-! ### Significand and exponent -/

/-- A size is packed from one significand and one exponent only. -/
theorem Canonical.unique {m n : Nat} {e f : Int} (h : Canonical m e) (h' : Canonical n f)
    (hsize : packedSize m e = packedSize n f) : m = n ∧ e = f := by
  obtain ⟨-, hm, he, -, hfull⟩ := h
  obtain ⟨-, hn, hf, -, hfull'⟩ := h'
  unfold packedSize at hsize
  omega

theorem Canonical.packedSize_ne_zero {m : Nat} {e : Int} (h : Canonical m e) :
    packedSize m e ≠ 0 := by
  have := h.pos
  unfold packedSize
  omega

theorem parts_packed (negative : Bool) {m : Nat} {e : Int} (h : Canonical m e) :
    parts (sized negative (packedSize m e)) = ⟨negative, m, e⟩ := by
  obtain ⟨n, f, hparts, hc, hsize⟩ :=
    exists_parts negative h.packedSize_lt h.packedSize_ne_zero
  obtain ⟨rfl, rfl⟩ := hc.unique h hsize
  exact hparts

/-! ### Values -/

theorem Parts.value_eq (p : Parts) :
    p.value = if p.negative then -(p.significand * 2 ^ p.exponent : ℚ)
      else p.significand * 2 ^ p.exponent := by
  have hscaled := scale_eq (by norm_num : 0 < 2) Nat.one_pos p.significand p.exponent
  rw [Nat.cast_one, div_one, Nat.cast_ofNat] at hscaled
  unfold Parts.value
  dsimp only
  rw [Rat.mkRat_eq_div, ← hscaled]
  split
  · push_cast
    rw [neg_div]
  · push_cast
    rfl

theorem value_packed {m : Nat} {e : Int} (h : Canonical m e) :
    value (sized false (packedSize m e)) = m * 2 ^ e := by
  rw [value, parts_packed false h, Parts.value_eq]
  rfl

theorem value_zero (negative : Bool) : value (sized negative 0) = 0 := by
  cases negative <;> decide +kernel

theorem isFinite_neg {x : Float} (h : x.isFinite = true) : (-x).isFinite = true := by
  obtain ⟨negative, n, hn, rfl⟩ := exists_sized h
  rw [neg_sized hn]
  exact isFinite_sized hn

/-- Turning the sign of a double turns its value. -/
theorem value_neg {x : Float} (h : x.isFinite = true) : value (-x) = -value x := by
  obtain ⟨negative, n, hn, rfl⟩ := exists_sized h
  rw [neg_sized hn]
  by_cases hzero : n = 0
  · rw [hzero, value_zero, value_zero, neg_zero]
  · obtain ⟨m, e, -, hc, rfl⟩ := exists_parts negative hn hzero
    rw [value, value, parts_packed _ hc, parts_packed _ hc, Parts.value_eq, Parts.value_eq]
    cases negative <;> simp

/-! ### The nearest double and powers of two -/

/-- Rounding a quotient that has 53 digits before the point leaves it 53 digits, or carries. -/
theorem roundHalfEven_between {num den : Nat} (hden : 0 < den) (hlow : 2 ^ 52 * den ≤ num)
    (hhigh : num < 2 ^ 53 * den) :
    2 ^ 52 ≤ roundHalfEven num den ∧ roundHalfEven num den ≤ 2 ^ 53 := by
  have hquotient : 2 ^ 52 ≤ num / den := (Nat.le_div_iff_mul_le hden).mpr hlow
  have hquotient' : num / den < 2 ^ 53 := (Nat.div_lt_iff_lt_mul hden).mpr hhigh
  unfold roundHalfEven
  dsimp only
  split <;> omega

/-- The double nearest to a quotient that is not too small is not below the power of two below the
quotient. -/
theorem nearest?_of_floorLog2 {num den : Nat} (hnum : 0 < num) (hden : 0 < den)
    (hsmall : -1022 ≤ floorLog2 num den) :
    (∃ m e, Canonical m e ∧ (2 : ℚ) ^ floorLog2 num den ≤ m * 2 ^ e ∧
        ∀ negative, nearest? negative num den = some (sized negative (packedSize m e))) ∨
      1023 ≤ floorLog2 num den ∧ ∀ negative, nearest? negative num den = none := by
  obtain ⟨hlow, hhigh⟩ := floorLog2_spec hnum hden
  unfold nearest?
  generalize floorLog2 num den = f at hsmall hlow hhigh ⊢
  have hexponent : max (f - 52) leastExponent = f - 52 := by
    unfold leastExponent
    omega
  have hscaled := scale_eq (by norm_num : 0 < 2) hden num (-(f - 52))
  have hpos := scale_den_pos (by norm_num : 0 < 2) hden num (-(f - 52))
  have hnonzero : ¬(num == 0) = true := by simpa using hnum.ne'
  simp only [if_neg hnonzero, hexponent, Nat.pow_eq]
  generalize scale 2 num den (-(f - 52)) = scaled at hscaled hpos ⊢
  obtain ⟨n, d⟩ := scaled
  dsimp only at hscaled hpos ⊢
  have hpos' : (0 : ℚ) < d := by exact_mod_cast hpos
  rw [div_eq_iff hpos'.ne'] at hscaled
  -- The scaled quotient has 53 digits of base two.
  have hunit : (2 : ℚ) ^ (52 : Int) = 2 ^ f * ((2 : Nat) : ℚ) ^ (-(f - 52)) := by
    rw [Nat.cast_ofNat, ← zpow_add₀ (by norm_num)]
    congr 1
    ring
  have hunit' : (2 : ℚ) ^ (53 : Int) = 2 ^ (f + 1) * ((2 : Nat) : ℚ) ^ (-(f - 52)) := by
    rw [Nat.cast_ofNat, ← zpow_add₀ (by norm_num)]
    congr 1
    ring
  have hlow' : 2 ^ 52 * d ≤ n := by
    have : (2 : ℚ) ^ (52 : Int) * d ≤ n := by
      rw [hscaled, hunit]
      gcongr
    exact_mod_cast this
  have hhigh' : n < 2 ^ 53 * d := by
    have : (n : ℚ) < 2 ^ (53 : Int) * d := by
      rw [hscaled, hunit']
      gcongr
    exact_mod_cast this
  obtain ⟨hmLow, hmHigh⟩ := roundHalfEven_between hpos hlow' hhigh'
  generalize roundHalfEven n d = m at hmLow hmHigh ⊢
  have hpower : (2 : ℚ) ^ f = 2 ^ (52 : Int) * 2 ^ (f - 52) := by
    rw [← zpow_add₀ (by norm_num)]
    congr 1
    ring
  unfold leastExponent
  by_cases hbound : (f - 52 - -1074).toNat * 2 ^ 52 + m < 2047 * 2 ^ 52
  · left
    simp only [if_pos hbound]
    by_cases hcarry : m = 2 ^ 53
    · refine ⟨2 ^ 52, f - 51, ⟨by norm_num, by norm_num, by omega, by omega, fun _ => le_rfl⟩, ?_,
        fun negative => ?_⟩
      · rw [hpower]
        push_cast
        gcongr
        · norm_num
        · omega
      · have hsize : packedSize (2 ^ 52) (f - 51) = (f - 52 - -1074).toNat * 2 ^ 52 + m := by
          unfold packedSize
          omega
        rw [hsize]
        rfl
    · refine ⟨m, f - 52, ⟨by omega, by omega, by omega, by omega, fun _ => hmLow⟩, ?_,
        fun negative => ?_⟩
      · have hm : (2 ^ 52 : ℚ) ≤ m := by exact_mod_cast hmLow
        rw [hpower]
        gcongr
        exact_mod_cast hm
      · have hsize : packedSize m (f - 52) = (f - 52 - -1074).toNat * 2 ^ 52 + m := by
          unfold packedSize
          omega
        rw [hsize]
        rfl
  · right
    refine ⟨by omega, fun negative => ?_⟩
    rw [if_neg hbound]

theorem floorLog2_natCast {n : Nat} (hn : n ≠ 0) : floorLog2 n 1 = n.log2 := by
  obtain ⟨hlow, hhigh⟩ := floorLog2_spec (Nat.pos_of_ne_zero hn) Nat.one_pos
  rw [Nat.cast_one, div_one] at hlow hhigh
  have hle : floorLog2 n 1 < n.log2 + 1 :=
    (zpow_lt_zpow_iff_right₀ (by norm_num : (1 : ℚ) < 2)).mp (hlow.trans_lt (lt_zpow_log2 n))
  have hge : (n.log2 : Int) < floorLog2 n 1 + 1 :=
    (zpow_lt_zpow_iff_right₀ (by norm_num : (1 : ℚ) < 2)).mp ((zpow_log2_le hn).trans_lt hhigh)
  omega

/-- The double nearest to a whole number is not below the power of two below the number. -/
theorem nearest?_natCast {n : Nat} (hn : n ≠ 0) :
    (∃ m e, Canonical m e ∧ (2 : ℚ) ^ n.log2 ≤ m * 2 ^ e ∧
        ∀ negative, nearest? negative n 1 = some (sized negative (packedSize m e))) ∨
      1023 ≤ n.log2 ∧ ∀ negative, nearest? negative n 1 = none := by
  have hcases := nearest?_of_floorLog2 (Nat.pos_of_ne_zero hn) Nat.one_pos
    (by rw [floorLog2_natCast hn]; omega)
  rw [floorLog2_natCast hn, zpow_natCast] at hcases
  exact_mod_cast hcases

theorem value_nonneg_of_nearest? {n : Nat} {x : Float} (h : nearest? false n 1 = some x) :
    0 ≤ value x := by
  by_cases hn : n = 0
  · subst hn
    cases h
    exact (value_zero false).ge
  · rcases nearest?_natCast hn with ⟨m, e, hc, -, hsome⟩ | ⟨-, hnone⟩
    · rw [hsome] at h
      cases h
      rw [value_packed hc]
      positivity
    · rw [hnone] at h
      cases h

/-- No double is near a whole number beyond their range. -/
theorem nearest?_eq_none {n k : Nat} (hk : 1024 ≤ k) (h : 2 ^ k ≤ n) (negative : Bool) :
    nearest? negative n 1 = none := by
  have hn : n ≠ 0 := by
    rintro rfl
    exact absurd h (Nat.not_le.mpr (by positivity))
  have hlog : 1024 ≤ n.log2 := hk.trans ((Nat.le_log2 hn).mpr h)
  rcases nearest?_natCast hn with ⟨m, e, hc, hlow, -⟩ | ⟨-, hnone⟩
  · have hm : (m : ℚ) < 2 ^ (53 : Int) := by exact_mod_cast hc.bound
    have hhigh : (2 : ℚ) ^ (n.log2 : Int) < 2 ^ (53 + e) := by
      rw [zpow_natCast]
      refine hlow.trans_lt ?_
      rw [zpow_add₀ (by norm_num)]
      gcongr
    have := (zpow_lt_zpow_iff_right₀ (by norm_num : (1 : ℚ) < 2)).mp hhigh
    have := hc.greatest
    omega
  · exact hnone negative

end Reckon.Binary64
