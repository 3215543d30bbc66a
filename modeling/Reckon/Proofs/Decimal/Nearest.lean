/-
The double nearest to a quotient.

`nearest?` finds the scale on which the quotient has 53 digits of base two, rounds there and
packs the result.  A quotient that lies nearer to a double than to its neighbours, or halfway
and the double is even, comes out as that double.  Only one case is delicate: just below a
power of two the quotient is rounded on the finer scale of the doubles below, and carries.
-/
import Reckon.Proofs.Decimal.Bits
import Reckon.Proofs.Decimal.Rounding

namespace Reckon.Binary64

/-! ### Significand and exponent of a size -/

/-- The significand and the exponent of a finite double that is not zero: 53 digits of base two, or
fewer at the least exponent. -/
structure Canonical (m : Nat) (e : Int) : Prop where
  pos : 0 < m
  bound : m < 2 ^ 53
  least : -1074 ≤ e
  greatest : e ≤ 971
  full : -1074 < e → 2 ^ 52 ≤ m

/-- The size that is packed from a significand and an exponent. -/
def packedSize (m : Nat) (e : Int) : Nat := (e + 1074).toNat * 2 ^ 52 + m

theorem Canonical.packedSize_lt {m : Nat} {e : Int} (h : Canonical m e) :
    packedSize m e < sizeBound := by
  have := h.bound
  have := h.greatest
  unfold packedSize sizeBound
  omega

/-- A finite double has the parts from which its size is packed. -/
theorem exists_parts (negative : Bool) {n : Nat} (hn : n < sizeBound) (hne : n ≠ 0) :
    ∃ m e, parts (sized negative n) = ⟨negative, m, e⟩ ∧ Canonical m e ∧ packedSize m e = n := by
  have hbits := toBits_sized negative hn
  have hsign : ((sized negative n).toBits.toNat / 2 ^ 63 == 1) = negative := by
    rw [hbits]
    unfold sizeBound at hn
    cases negative with
    | true =>
        show ((2 ^ 63 + n) / 2 ^ 63 == 1) = true
        rw [beq_iff_eq]
        omega
    | false =>
        show ((0 + n) / 2 ^ 63 == 1) = false
        rw [beq_eq_false_iff_ne]
        omega
  have hbiased : (sized negative n).toBits.toNat / 2 ^ 52 % 2 ^ 11 = n / 2 ^ 52 := by
    rw [hbits]
    unfold sizeBound at hn
    unfold signBit
    split <;> omega
  have hfraction : (sized negative n).toBits.toNat % 2 ^ 52 = n % 2 ^ 52 := by
    rw [hbits]
    unfold signBit
    split <;> omega
  unfold parts
  dsimp only [Nat.pow_eq]
  rw [hsign, hbiased, hfraction]
  unfold sizeBound at hn
  by_cases hsmall : n / 2 ^ 52 = 0
  · rw [if_pos (by rw [hsmall]; rfl)]
    refine ⟨n % 2 ^ 52, -1074, rfl, ⟨by omega, by omega, by omega, by omega, by omega⟩, ?_⟩
    unfold packedSize
    omega
  · rw [if_neg (by simpa using hsmall)]
    refine ⟨2 ^ 52 + n % 2 ^ 52, (n / 2 ^ 52 : Nat) - 1 + -1074, rfl,
      ⟨by omega, by omega, by omega, by omega, by omega⟩, ?_⟩
    unfold packedSize
    omega

/-! ### Rounding to a double -/

/-- The distance from a double to the end of its interval below, in quarters of a unit of the last
digit.  Below a power of two the neighbour is closer. -/
def lowGap (m : Nat) (e : Int) : Nat := if m = 2 ^ 52 ∧ -1074 < e then 1 else 2

/-- The quotient `q` lies in the interval that is rounded to the double. -/
structure RoundsTo (m : Nat) (e : Int) (q : ℚ) : Prop where
  low : (4 * m - lowGap m e : ℚ) * 2 ^ (e - 2) ≤ q
  high : q ≤ (4 * m + 2 : ℚ) * 2 ^ (e - 2)
  odd : m % 2 = 1 → (4 * m - lowGap m e : ℚ) * 2 ^ (e - 2) < q ∧ q < (4 * m + 2 : ℚ) * 2 ^ (e - 2)

section Nearest

variable {m : Nat} {e : Int} {q : ℚ}

theorem lowGap_le : (lowGap m e : ℚ) ≤ 2 := by
  unfold lowGap
  split <;> norm_num

/-- In units of the last digit the quotient is at most a half away from the significand. -/
theorem RoundsTo.near (h : RoundsTo m e q) :
    (m : ℚ) - 1 / 2 ≤ q * 2 ^ (-e) ∧ q * 2 ^ (-e) ≤ m + 1 / 2 ∧
      (q * 2 ^ (-e) = m - 1 / 2 ∨ q * 2 ^ (-e) = m + 1 / 2 → m % 2 = 0) := by
  have hunit : (2 : ℚ) ^ (e - 2) = 2 ^ e / 4 := by
    rw [zpow_sub₀ (by norm_num)]
    norm_num
  have hpos : (0 : ℚ) < 2 ^ e := by positivity
  have hgap : (lowGap m e : ℚ) ≤ 2 := lowGap_le
  obtain ⟨hlow, hhigh, hodd⟩ := h
  rw [hunit] at hlow hhigh hodd
  rw [zpow_neg, ← div_eq_mul_inv, le_div_iff₀ hpos, div_le_iff₀ hpos]
  have hshift : (lowGap m e : ℚ) * 2 ^ e ≤ 2 * 2 ^ e := by gcongr
  refine ⟨by linarith, by linarith, fun htie => ?_⟩
  by_contra hne
  obtain ⟨hlow', hhigh'⟩ := hodd (by omega)
  rw [div_eq_iff hpos.ne', div_eq_iff hpos.ne'] at htie
  rcases htie with htie | htie
  · linarith
  · linarith

/-- The quotient is below the next power of two. -/
theorem RoundsTo.lt_zpow (hc : Canonical m e) (h : RoundsTo m e q) : q < 2 ^ (e + 53) := by
  have hm : (m : ℚ) ≤ 2 ^ 53 - 1 := by
    have : m + 1 ≤ 2 ^ 53 := hc.bound
    have : ((m + 1 : Nat) : ℚ) ≤ ((2 ^ 53 : Nat) : ℚ) := by exact_mod_cast this
    push_cast at this
    linarith
  have hpos : (0 : ℚ) < 2 ^ (e - 2) := by positivity
  calc q ≤ (4 * m + 2 : ℚ) * 2 ^ (e - 2) := h.high
    _ < 2 ^ (55 : Int) * 2 ^ (e - 2) := by
        refine mul_lt_mul_of_pos_right ?_ hpos
        norm_num
        linarith
    _ = 2 ^ (e + 53) := by
        rw [← zpow_add₀ (by norm_num)]
        congr 1
        ring

theorem RoundsTo.pos (hc : Canonical m e) (h : RoundsTo m e q) : 0 < q := by
  have hm : (1 : ℚ) ≤ m := by exact_mod_cast hc.pos
  have hgap : (lowGap m e : ℚ) ≤ 2 := lowGap_le
  have hpos : (0 : ℚ) < 2 ^ (e - 2) := by positivity
  have : (0 : ℚ) < (4 * m - lowGap m e) * 2 ^ (e - 2) := mul_pos (by linarith) hpos
  exact this.trans_le h.low

/-- Unless the significand is a power of two the quotient is not below that power. -/
theorem RoundsTo.zpow_le (hm : 2 ^ 52 < m) (h : RoundsTo m e q) : 2 ^ (e + 52) ≤ q := by
  have hm' : (2 ^ 52 + 1 : ℚ) ≤ m := by exact_mod_cast hm
  have hgap : (lowGap m e : ℚ) ≤ 2 := lowGap_le
  have hpos : (0 : ℚ) < 2 ^ (e - 2) := by positivity
  calc (2 : ℚ) ^ (e + 52) = 2 ^ (54 : Int) * 2 ^ (e - 2) := by
        rw [← zpow_add₀ (by norm_num)]
        congr 1
        ring
    _ ≤ (4 * m - lowGap m e : ℚ) * 2 ^ (e - 2) := by
        refine mul_le_mul_of_nonneg_right ?_ hpos.le
        norm_num
        linarith
    _ ≤ q := h.low

/-- Above the power of two below, the quotient keeps a quarter of a unit's distance from it. -/
theorem RoundsTo.finer (hleast : -1074 < e) (h : RoundsTo (2 ^ 52) e q) :
    (2 ^ 53 : ℚ) - 1 / 2 ≤ q * 2 ^ (-(e - 1)) := by
  have hgap : lowGap (2 ^ 52) e = 1 := if_pos ⟨rfl, hleast⟩
  have hpos : (0 : ℚ) < 2 ^ (e - 2) := by positivity
  have hunit : (2 : ℚ) ^ (e - 1) = 2 ^ (e - 2) * 2 := by
    rw [← zpow_add_one₀ (by norm_num)]
    congr 1
    ring
  have hlow := h.low
  rw [hgap] at hlow
  push_cast at hlow
  rw [zpow_neg, ← div_eq_mul_inv, le_div_iff₀ (by positivity), hunit]
  linarith

/-- The scale on which the quotient is rounded: that of the double, or just below a power of two the
finer one. -/
theorem RoundsTo.scale_cases (hc : Canonical m e) (h : RoundsTo m e q) {f : Int}
    (hlow : 2 ^ f ≤ q) (hhigh : q < 2 ^ (f + 1)) :
    max (f - 52) leastExponent = e ∨
      (m = 2 ^ 52 ∧ -1074 < e ∧ max (f - 52) leastExponent = e - 1 ∧ q < 2 ^ (e + 52)) := by
  have hf : f < e + 53 :=
    (zpow_lt_zpow_iff_right₀ (by norm_num : (1 : ℚ) < 2)).mp (hlow.trans_lt (h.lt_zpow hc))
  have hleast := hc.least
  unfold leastExponent
  by_cases hmin : e = -1074
  · left
    omega
  · have hfull := hc.full (by omega)
    by_cases hm : m = 2 ^ 52
    · subst hm
      -- Half the power of two is a bound from below, whatever the neighbour.
      have hhalf : 2 ^ (e + 51) ≤ q := by
        have hfiner := h.finer (by omega)
        rw [zpow_neg, ← div_eq_mul_inv, le_div_iff₀ (by positivity)] at hfiner
        refine le_trans ?_ hfiner
        calc (2 : ℚ) ^ (e + 51) = 2 ^ (52 : Int) * 2 ^ (e - 1) := by
              rw [← zpow_add₀ (by norm_num)]
              congr 1
              ring
          _ ≤ (2 ^ 53 - 1 / 2 : ℚ) * 2 ^ (e - 1) := by
              refine mul_le_mul_of_nonneg_right ?_ (by positivity)
              norm_num
      have hge : e + 51 < f + 1 :=
        (zpow_lt_zpow_iff_right₀ (by norm_num : (1 : ℚ) < 2)).mp (hhalf.trans_lt hhigh)
      by_cases hfine : f = e + 51
      · right
        refine ⟨rfl, by omega, by omega, ?_⟩
        rw [hfine] at hhigh
        rwa [show e + 52 = e + 51 + 1 by ring]
      · left
        omega
    · have hge : e + 52 < f + 1 :=
        (zpow_lt_zpow_iff_right₀ (by norm_num : (1 : ℚ) < 2)).mp
          ((h.zpow_le (by omega)).trans_lt hhigh)
      left
      omega

/-- A quotient in the interval of a double is rounded to it. -/
theorem nearest?_of_roundsTo {num den : Nat} (negative : Bool) (hc : Canonical m e)
    (hden : 0 < den) (h : RoundsTo m e ((num : ℚ) / den)) :
    nearest? negative num den = some (sized negative (packedSize m e)) := by
  have hnum : num ≠ 0 := by
    rintro rfl
    have := h.pos hc
    simp at this
  obtain ⟨hlow, hhigh⟩ := floorLog2_spec (Nat.pos_of_ne_zero hnum) hden
  have hpacked : packedSize m e < 2047 * 2 ^ 52 := hc.packedSize_lt
  unfold nearest?
  rw [if_neg (by simpa using hnum)]
  dsimp only [Nat.pow_eq]
  rcases h.scale_cases hc hlow hhigh with hscale | ⟨rfl, hleast, hscale, hbelow⟩
  · rw [hscale]
    have hround : roundHalfEven (scale 2 num den (-e)).1 (scale 2 num den (-e)).2 = m := by
      obtain ⟨hnearLow, hnearHigh, htie⟩ := h.near
      exact roundHalfEven_eq_of_rat (scale_den_pos (by norm_num) hden num _)
        (scale_eq (by norm_num) hden num _) hnearLow hnearHigh htie
    have hbits : (e - leastExponent).toNat * 2 ^ 52 + m = packedSize m e := by
      unfold packedSize leastExponent
      rw [Int.sub_neg]
    rw [hround, hbits, if_pos hpacked]
    rfl
  · rw [hscale]
    have hround : roundHalfEven (scale 2 num den (-(e - 1))).1 (scale 2 num den (-(e - 1))).2 =
        2 ^ 53 := by
      have hfiner := h.finer hleast
      have hupper : (num : ℚ) / den * 2 ^ (-(e - 1)) < 2 ^ 53 := by
        rw [zpow_neg, ← div_eq_mul_inv, div_lt_iff₀ (by positivity)]
        calc (num : ℚ) / den < 2 ^ (e + 52) := hbelow
          _ = 2 ^ (53 : Int) * 2 ^ (e - 1) := by
              rw [← zpow_add₀ (by norm_num)]
              congr 1
              ring
          _ = 2 ^ 53 * 2 ^ (e - 1) := by norm_num
      refine roundHalfEven_eq_of_rat (scale_den_pos (by norm_num) hden num _)
        (scale_eq (by norm_num) hden num _) ?_ ?_ fun _ => by norm_num
      · push_cast
        exact hfiner
      · push_cast
        linarith
    have hbits : (e - 1 - leastExponent).toNat * 2 ^ 52 + 2 ^ 53 = packedSize (2 ^ 52) e := by
      unfold packedSize leastExponent
      omega
    rw [hround, hbits, if_pos hpacked]
    rfl

end Nearest

end Reckon.Binary64
