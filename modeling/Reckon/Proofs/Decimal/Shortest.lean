/-
The shortest decimal reads back as the double it was made from.

Whatever a grid offers has been checked to lie in the interval of the double.  What has to
be proved is that some grid offers something, or else a number would be shown that is not
the double at all.  Seventeen digits are enough: the estimate of the leading place is never
too high, so that on the last grid half a step is less than half a unit of the last binary
digit, even where the interval is narrow.
-/
import Reckon.Decimal.Shortest
import Reckon.Proofs.Decimal.Nearest

namespace Reckon.Decimal

open Binary64

/-- The number that a decimal writes. -/
def value (d : Decimal) : ℚ := d.digits * 10 ^ d.exponent

/-! ### The leading place -/

/-- The estimate of the leading place from the power of two below, less one, is never too high. -/
theorem zpow_estimate_le {f : Int} (hlow : -20000 ≤ f) (hhigh : f ≤ 100000) :
    (10 : ℚ) ^ (f * 30103 / 100000 - 1) ≤ 2 ^ f := by
  generalize hk : f * 30103 / 100000 - 1 = k
  by_cases hf : 0 ≤ f
  · by_cases hk0 : k ≤ 0
    · calc (10 : ℚ) ^ k ≤ 10 ^ (0 : Int) := zpow_le_zpow_right₀ (by norm_num) hk0
        _ = 2 ^ (0 : Int) := by norm_num
        _ ≤ 2 ^ f := zpow_le_zpow_right₀ (by norm_num) hf
    · -- Fifty-nine places of ten are less than 196 places of two.
      obtain ⟨a, rfl⟩ := Int.eq_ofNat_of_zero_le (show 0 ≤ k by omega)
      obtain ⟨b, rfl⟩ := Int.eq_ofNat_of_zero_le hf
      rw [zpow_natCast, zpow_natCast]
      refine le_of_pow_le_pow_left₀ (n := 59) (by norm_num) (by positivity) ?_
      calc ((10 : ℚ) ^ a) ^ 59 = (10 ^ 59) ^ a := by rw [← pow_mul, ← pow_mul, Nat.mul_comm]
        _ ≤ (2 ^ 196) ^ a := by
            refine pow_le_pow_left₀ (by norm_num) ?_ a
            norm_num
        _ = 2 ^ (196 * a) := by rw [← pow_mul]
        _ ≤ 2 ^ (b * 59) := pow_le_pow_right₀ (by norm_num) (by omega)
        _ = (2 ^ b) ^ 59 := by rw [← pow_mul]
  · -- Ninety-three places of two are less than 28 places of ten.
    obtain ⟨a, ha⟩ : ∃ a : Nat, k = -(a : Int) := ⟨(-k).toNat, by omega⟩
    obtain ⟨b, hb⟩ : ∃ b : Nat, f = -(b : Int) := ⟨(-f).toNat, by omega⟩
    subst ha
    subst hb
    rw [zpow_neg, zpow_neg, zpow_natCast, zpow_natCast]
    refine inv_anti₀ (by positivity) ?_
    refine le_of_pow_le_pow_left₀ (n := 93) (by norm_num) (by positivity) ?_
    calc ((2 : ℚ) ^ b) ^ 93 = (2 ^ 93) ^ b := by rw [← pow_mul, ← pow_mul, Nat.mul_comm]
      _ ≤ (10 ^ 28) ^ b := by
          refine pow_le_pow_left₀ (by norm_num) ?_ b
          norm_num
      _ = 10 ^ (28 * b) := by rw [← pow_mul]
      _ ≤ 10 ^ (a * 93) := pow_le_pow_right₀ (by norm_num) (by omega)
      _ = (10 ^ a) ^ 93 := by rw [← pow_mul]

/-- The leading place is not above the quotient. -/
theorem zpow_floorLog10_le {num den : Nat} (hnum : 0 < num) (hden : 0 < den)
    (hlow : -20000 ≤ floorLog2 num den) (hhigh : floorLog2 num den ≤ 100000) :
    (10 : ℚ) ^ floorLog10 num den ≤ (num : ℚ) / den := by
  have hreaches : ∀ e : Int, (scale 10 num den (-e)).2 ≤ (scale 10 num den (-e)).1 →
      (10 : ℚ) ^ e ≤ (num : ℚ) / den := by
    intro e h
    have hpos : (0 : ℚ) < (scale 10 num den (-e)).2 := by
      exact_mod_cast scale_den_pos (by norm_num) hden num (-e)
    have hone : (1 : ℚ) ≤ (num : ℚ) / den * 10 ^ (-e) := by
      rw [← Nat.cast_ofNat (n := 10), ← scale_eq (by norm_num) hden num (-e), le_div_iff₀ hpos, one_mul]
      exact_mod_cast h
    rwa [zpow_neg, ← div_eq_mul_inv, le_div_iff₀ (by positivity), one_mul] at hone
  unfold floorLog10
  dsimp only
  split
  · rename_i h
    exact hreaches _ (by simpa using h)
  · split
    · rename_i h
      exact hreaches _ (by simpa using h)
    · exact (zpow_estimate_le hlow hhigh).trans (floorLog2_spec hnum hden).1

/-! ### The interval of a double -/

section Interval

variable (negative : Bool) {m : Nat} {e : Int}

theorem around_den_pos : 0 < (Interval.around ⟨negative, m, e⟩).den :=
  scale_den_pos (by norm_num) (by norm_num) 1 (e - 2)

/-- A multiple of the unit of an interval, as a quotient. -/
theorem around_unit (k : Nat) :
    ((k * (scale 2 1 1 (e - 2)).1 : Nat) : ℚ) / (scale 2 1 1 (e - 2)).2 = k * 2 ^ (e - 2) := by
  have h := scale_eq (by norm_num : 0 < 2) (by norm_num : 0 < 1) 1 (e - 2)
  push_cast at h ⊢
  rw [mul_div_assoc, h]
  norm_num

theorem around_value :
    ((Interval.around ⟨negative, m, e⟩).value : ℚ) / (Interval.around ⟨negative, m, e⟩).den =
      4 * m * 2 ^ (e - 2) := by
  refine (around_unit (4 * m)).trans ?_
  push_cast
  rfl

theorem around_high :
    ((Interval.around ⟨negative, m, e⟩).high : ℚ) / (Interval.around ⟨negative, m, e⟩).den =
      (4 * m + 2) * 2 ^ (e - 2) := by
  refine (around_unit (4 * m + 2)).trans ?_
  push_cast
  rfl

theorem around_low (hm : 0 < m) :
    ((Interval.around ⟨negative, m, e⟩).low : ℚ) / (Interval.around ⟨negative, m, e⟩).den =
      (4 * m - lowGap m e) * 2 ^ (e - 2) := by
  have hgap : lowGap m e ≤ 4 * m := by
    unfold lowGap
    split <;> omega
  have hsame : (if m == 2 ^ 52 && leastExponent < e then 1 else 2) = lowGap m e := by
    unfold lowGap leastExponent
    by_cases h : m = 2 ^ 52 ∧ -1074 < e <;> simp_all
  have hlow : (Interval.around ⟨negative, m, e⟩).low =
      (4 * m - lowGap m e) * (scale 2 1 1 (e - 2)).1 := by
    rw [← hsame]
    rfl
  rw [hlow]
  refine (around_unit (4 * m - lowGap m e)).trans ?_
  rw [Nat.cast_sub hgap]
  push_cast
  rfl

end Interval

/-! ### Grids -/

/-- The quotient lies in the interval; the ends belong to it if it is closed. -/
def Interval.Holds (i : Interval) (q : ℚ) : Prop :=
  if i.closed then (i.low : ℚ) / i.den ≤ q ∧ q ≤ (i.high : ℚ) / i.den
  else (i.low : ℚ) / i.den < q ∧ q < (i.high : ℚ) / i.den

theorem Interval.holds_of_lt {i : Interval} {q : ℚ} (hlow : (i.low : ℚ) / i.den < q)
    (hhigh : q < (i.high : ℚ) / i.den) : i.Holds q := by
  unfold Interval.Holds
  split
  · exact ⟨hlow.le, hhigh.le⟩
  · exact ⟨hlow, hhigh⟩

section Grid

variable {i : Interval} (hden : 0 < i.den) (g : Int)

/-- Whether a point of a grid lies in the interval, as it is computed. -/
def Interval.inside (i : Interval) (g : Int) (d : Nat) : Bool :=
  let (step, unit) := scale 10 1 1 g
  if i.closed then i.low * unit ≤ d * step * i.den && d * step * i.den ≤ i.high * unit
  else i.low * unit < d * step * i.den && d * step * i.den < i.high * unit

/-- The point of a grid that is nearest to the value. -/
def Interval.nearer (i : Interval) (g : Int) : Nat :=
  let (step, unit) := scale 10 1 1 g
  roundHalfEven (i.value * unit) (step * i.den)

/-- A grid offers its nearest point if that lies inside, or else another one that does. -/
theorem onGrid?_eq (i : Interval) (g : Int) :
    ∃ other, i.onGrid? g =
      if i.inside g (i.nearer g) = true then some ⟨i.nearer g, g⟩
      else if i.inside g other = true then some ⟨other, g⟩ else none :=
  ⟨_, rfl⟩

include hden

theorem inside_iff (d : Nat) : i.inside g d = true ↔ i.Holds (d * 10 ^ g) := by
  have hstep := scale_eq (by norm_num : 0 < 10) (by norm_num : 0 < 1) 1 g
  have hunit := scale_den_pos (by norm_num : 0 < 10) (by norm_num : 0 < 1) 1 g
  unfold Interval.inside Interval.Holds
  dsimp only
  generalize (scale 10 1 1 g).1 = step at hstep ⊢
  generalize (scale 10 1 1 g).2 = unit at hstep hunit ⊢
  have hden' : (0 : ℚ) < i.den := by exact_mod_cast hden
  have hunit' : (0 : ℚ) < unit := by exact_mod_cast hunit
  have hpoint : (d : ℚ) * 10 ^ g = (d * step : Nat) / unit := by
    push_cast at hstep ⊢
    rw [mul_div_assoc, hstep]
    norm_num
  rw [hpoint]
  split
  · rw [Bool.and_eq_true, decide_eq_true_eq, decide_eq_true_eq, div_le_div_iff₀ hden' hunit',
      div_le_div_iff₀ hunit' hden']
    exact_mod_cast Iff.rfl
  · rw [Bool.and_eq_true, decide_eq_true_eq, decide_eq_true_eq, div_lt_div_iff₀ hden' hunit',
      div_lt_div_iff₀ hunit' hden']
    exact_mod_cast Iff.rfl

/-- What a grid offers lies in the interval. -/
theorem holds_of_onGrid? {d : Decimal} (h : i.onGrid? g = some d) : i.Holds d.value := by
  obtain ⟨other, heq⟩ := onGrid?_eq i g
  rw [heq] at h
  split at h
  · rename_i hin
    cases h
    exact (inside_iff hden g _).mp hin
  · split at h
    · rename_i hin
      cases h
      exact (inside_iff hden g _).mp hin
    · cases h

/-- The nearest point is at most half a step away. -/
theorem nearer_near :
    (i.value : ℚ) / i.den - 10 ^ g / 2 ≤ i.nearer g * 10 ^ g ∧
      (i.nearer g : ℚ) * 10 ^ g ≤ i.value / i.den + 10 ^ g / 2 := by
  have hstep := scale_eq (by norm_num : 0 < 10) (by norm_num : 0 < 1) 1 g
  have hunit := scale_den_pos (by norm_num : 0 < 10) (by norm_num : 0 < 1) 1 g
  unfold Interval.nearer
  dsimp only
  generalize (scale 10 1 1 g).1 = step at hstep ⊢
  generalize (scale 10 1 1 g).2 = unit at hstep hunit ⊢
  have hden' : (0 : ℚ) < i.den := by exact_mod_cast hden
  have hunit' : (0 : ℚ) < unit := by exact_mod_cast hunit
  have hpower : (0 : ℚ) < 10 ^ g := by positivity
  have hstep' : (step : ℚ) = 10 ^ g * unit := by
    rw [div_eq_iff hunit'.ne'] at hstep
    rw [hstep]
    norm_num
  have hpos : 0 < step * i.den := by
    refine Nat.mul_pos (Nat.pos_of_ne_zero ?_) hden
    rintro rfl
    have : (0 : ℚ) < 10 ^ g * unit := by positivity
    rw [← hstep'] at this
    simp at this
  obtain ⟨hle, hge⟩ := roundHalfEven_near hpos
  generalize roundHalfEven (i.value * unit) (step * i.den) = r at hle hge ⊢
  have hvalue : (i.value : ℚ) = i.value / i.den * i.den := by field_simp
  generalize (i.value : ℚ) / i.den = v at hvalue ⊢
  rw [← Nat.cast_le (α := ℚ)] at hle hge
  push_cast at hle hge
  rw [hvalue, hstep'] at hle hge
  have hscale : (0 : ℚ) < unit * i.den := by positivity
  constructor
  · refine le_of_mul_le_mul_right ?_ hscale
    linarith
  · refine le_of_mul_le_mul_right ?_ hscale
    linarith

/-- A grid offers something if half a step on either side of the value lies inside the interval. -/
theorem exists_onGrid? (hlow : (i.low : ℚ) / i.den < (i.value : ℚ) / i.den - 10 ^ g / 2)
    (hhigh : (i.value : ℚ) / i.den + 10 ^ g / 2 < (i.high : ℚ) / i.den) :
    ∃ d, i.onGrid? g = some d := by
  obtain ⟨hge, hle⟩ := nearer_near hden g
  have hinside : i.inside g (i.nearer g) = true :=
    (inside_iff hden g _).mpr (Interval.holds_of_lt (hlow.trans_le hge) (hle.trans_lt hhigh))
  obtain ⟨other, heq⟩ := onGrid?_eq i g
  exact ⟨_, by rw [heq, if_pos hinside]⟩

end Grid

/-! ### The shortest decimal -/

theorem value_dropZeros : ∀ (fuel : Nat) (d : Decimal), (dropZeros fuel d).value = d.value := by
  intro fuel
  induction fuel with
  | zero => intro d; rfl
  | succ fuel ih =>
      intro d
      unfold dropZeros
      split
      · rename_i h
        obtain ⟨-, hzero⟩ : d.digits ≠ 0 ∧ d.digits % 10 = 0 := by simpa using h
        have hdigits : d.digits = d.digits / 10 * 10 := by omega
        rw [ih]
        unfold value
        dsimp only
        rw [zpow_add_one₀ (by norm_num)]
        conv_rhs => rw [hdigits]
        push_cast
        ring
      · rfl

section Double

variable (negative : Bool) {m : Nat} {e : Int}

theorem roundsTo_of_holds (hm : 0 < m) {q : ℚ} (h : (Interval.around ⟨negative, m, e⟩).Holds q) :
    RoundsTo m e q := by
  have hclosed : (Interval.around ⟨negative, m, e⟩).closed = (m % 2 == 0) := rfl
  unfold Interval.Holds at h
  rw [hclosed, around_low negative hm, around_high] at h
  split at h
  · rename_i heven
    refine ⟨h.1, h.2, fun hodd => ?_⟩
    rw [beq_iff_eq] at heven
    omega
  · exact ⟨h.1.le, h.2.le, fun _ => h⟩

/-- The leading place of a double is not above it. -/
theorem zpow_lead_le (hc : Canonical m e) :
    (10 : ℚ) ^ floorLog10 (Interval.around ⟨negative, m, e⟩).value
      (Interval.around ⟨negative, m, e⟩).den ≤ 4 * m * 2 ^ (e - 2) := by
  have hvalue := around_value negative (m := m) (e := e)
  have hden := around_den_pos negative (m := m) (e := e)
  generalize Interval.around ⟨negative, m, e⟩ = i at hvalue hden ⊢
  have hm : (1 : ℚ) ≤ m := by exact_mod_cast hc.pos
  have hbound : (m : ℚ) < 2 ^ 53 := by exact_mod_cast hc.bound
  have hunit : (0 : ℚ) < 2 ^ (e - 2) := by positivity
  have hpos : 0 < i.value := by
    refine Nat.pos_of_ne_zero fun h0 => ?_
    rw [h0, Nat.cast_zero, zero_div] at hvalue
    have : (0 : ℚ) < 4 * m * 2 ^ (e - 2) := by positivity
    linarith
  obtain ⟨hlow, hhigh⟩ := floorLog2_spec hpos hden
  rw [hvalue] at hlow hhigh
  have hfour : (4 : ℚ) = 2 ^ (2 : Int) := by norm_num
  have hleast : e < floorLog2 i.value i.den + 1 := by
    refine (zpow_lt_zpow_iff_right₀ (by norm_num : (1 : ℚ) < 2)).mp (lt_of_le_of_lt ?_ hhigh)
    calc (2 : ℚ) ^ e = 2 ^ (2 : Int) * 1 * 2 ^ (e - 2) := by
          rw [mul_one, ← zpow_add₀ (by norm_num)]
          congr 1
          ring
      _ ≤ 4 * m * 2 ^ (e - 2) := by
          rw [hfour]
          gcongr
  have hgreatest : floorLog2 i.value i.den < e + 53 := by
    refine (zpow_lt_zpow_iff_right₀ (by norm_num : (1 : ℚ) < 2)).mp (lt_of_le_of_lt hlow ?_)
    calc (4 : ℚ) * m * 2 ^ (e - 2) < 4 * 2 ^ 53 * 2 ^ (e - 2) := by gcongr
      _ = 2 ^ (55 : Int) * 2 ^ (e - 2) := by norm_num
      _ = 2 ^ (e + 53) := by
          rw [← zpow_add₀ (by norm_num)]
          congr 1
          ring
  have := hc.least
  have := hc.greatest
  rw [← hvalue]
  exact zpow_floorLog10_le hpos hden (by omega) (by omega)

/-- On the grid of seventeen digits half a step stays inside the interval. -/
theorem exists_onGrid?_seventeen (hc : Canonical m e) :
    ∃ d, (Interval.around ⟨negative, m, e⟩).onGrid?
      (floorLog10 (Interval.around ⟨negative, m, e⟩).value
        (Interval.around ⟨negative, m, e⟩).den - 16) = some d := by
  have hlead := zpow_lead_le negative hc
  generalize floorLog10 (Interval.around ⟨negative, m, e⟩).value
    (Interval.around ⟨negative, m, e⟩).den = lead at hlead ⊢
  have hunit : (0 : ℚ) < 2 ^ (e - 2) := by positivity
  have hstep : (10 : ℚ) ^ (lead - 16) = 10 ^ lead / 10 ^ 16 := by
    rw [zpow_sub₀ (by norm_num)]
    norm_num
  have hhalf : (10 : ℚ) ^ (lead - 16) / 2 ≤ m / 5000000000000000 * 2 ^ (e - 2) := by
    rw [hstep]
    linarith
  have hgap : (m : ℚ) / 5000000000000000 < lowGap m e := by
    unfold lowGap
    split
    · rename_i h
      rw [h.1]
      norm_num
    · have : (m : ℚ) < 2 ^ 53 := by exact_mod_cast hc.bound
      norm_num
      linarith
  have hside : (10 : ℚ) ^ (lead - 16) / 2 < lowGap m e * 2 ^ (e - 2) :=
    hhalf.trans_lt (by gcongr)
  have hwide : (lowGap m e : ℚ) * 2 ^ (e - 2) ≤ 2 * 2 ^ (e - 2) := by
    have := lowGap_le (m := m) (e := e)
    gcongr
  refine exists_onGrid? (around_den_pos negative) _ ?_ ?_
  · rw [around_low negative hc.pos, around_value]
    linarith
  · rw [around_value, around_high]
    linarith

/-- The shortest decimal of a double lies in the interval that is rounded to it. -/
theorem roundsTo_shortestOf (hc : Canonical m e) :
    RoundsTo m e (shortestOf ⟨negative, m, e⟩).value := by
  obtain ⟨last, hlast⟩ := exists_onGrid?_seventeen negative hc
  unfold shortestOf
  dsimp only
  rw [value_dropZeros]
  cases hfound : (List.range 17).findSome? fun (n : Nat) =>
      (Interval.around ⟨negative, m, e⟩).onGrid?
        (floorLog10 (Interval.around ⟨negative, m, e⟩).value
          (Interval.around ⟨negative, m, e⟩).den - n) with
  | none =>
      have hnone := List.findSome?_eq_none_iff.mp hfound 16 (by simp)
      have hsixteen : ((16 : Nat) : Int) = 16 := rfl
      rw [hsixteen, hlast] at hnone
      cases hnone
  | some d =>
      obtain ⟨n, -, hn⟩ := List.exists_of_findSome?_eq_some hfound
      exact roundsTo_of_holds negative hc.pos (holds_of_onGrid? (around_den_pos negative) _ hn)

end Double

end Reckon.Decimal
