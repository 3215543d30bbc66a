/-
Powers of whole numbers are exact or fail.

Three bounds meet in such a power.  A logarithm estimates its size, doubles take over where the
estimate is over the limit, and every result is held against the limit itself.  Only the last
bound is exact, and it is the one that decides: what the estimate lets pass the limit still
catches, and what the estimate stops is over the limit and beyond the doubles, too.

The last point is not obvious, since base and exponent are rounded before doubles take over.
But neither is rounded below the power of two below it.  That leaves at least a quarter of the
binary digits that the power has, and a quarter of the limit is the range of the doubles.
-/
import Mathlib.Analysis.SpecialFunctions.Pow.Real
import Reckon.Proofs.Exactness.Rules
import Reckon.Proofs.Decimal.Values

namespace Reckon

theorem bitLength_le_iff {n k : Nat} : bitLength n ≤ k ↔ n < 2 ^ k := by
  unfold bitLength
  split
  · rename_i hzero
    simp [hzero]
  · rename_i hzero
    rw [Nat.succ_le_iff, Nat.log2_lt hzero]

namespace Quantity

open Binary64

/-- What a power of whole numbers relies on.  The estimate is over the limit only where the power
is, and a power of doubles that is beyond their range is not finite. -/
structure Dependable (base exponent : Nat) : Prop where
  estimate : 1 < base → ∀ e, nearest? false exponent 1 = some e →
    maxBits.toFloat < e * log2Estimate base → 2 ^ maxBits ≤ base ^ exponent
  overflow : ∀ x y, nearest? false base 1 = some x → nearest? false exponent 1 = some y →
    2 ^ 1024 ≤ (value x : ℝ) ^ (value y : ℝ) → (x.pow y).isFinite = false

variable {m : Int} {base n : Nat}

/-- Powers of zero and one do not grow. -/
theorem Dependable.of_le_one (h : base ≤ 1) : Dependable base n where
  estimate hbase := absurd h (Nat.not_le.mpr hbase)
  overflow x y hx hy hlarge := by
    have hvalue : 0 ≤ value x ∧ value x ≤ 1 := by
      interval_cases base <;> cases hx <;> decide +kernel
    have hsmall : (value x : ℝ) ^ (value y : ℝ) ≤ 1 :=
      Real.rpow_le_one (by exact_mod_cast hvalue.1) (by exact_mod_cast hvalue.2)
        (by exact_mod_cast value_nonneg_of_nearest? hy)
    exact absurd (hlarge.trans hsmall) (not_le.mpr (one_lt_pow₀ (by norm_num) (by norm_num)))

/-- Bases that are no doubles leave nothing to the doubles. -/
theorem Dependable.of_beyond (hbase : 2 ^ 1024 ≤ base) (hn : 4 ≤ n) : Dependable base n where
  estimate hone _ _ _ :=
    calc 2 ^ maxBits = (2 ^ 1024) ^ 4 := by rw [← pow_mul, show maxBits = 1024 * 4 from rfl]
      _ ≤ base ^ 4 := Nat.pow_le_pow_left hbase 4
      _ ≤ base ^ n := Nat.pow_le_pow_right (Nat.zero_lt_of_lt hone) hn
  overflow x _ hx := by
    rw [nearest?_eq_none le_rfl hbase] at hx
    cases hx

/-! ### Powers within the estimate -/

theorem intPower_eq (m : Int) (n : Nat) : intPower m n = m ^ n := by
  unfold intPower
  by_cases hsmall : m.natAbs ≤ 1
  · rw [if_pos hsmall]
    by_cases hn : n = 0
    · simp [hn]
    · obtain rfl | rfl | rfl : m = 0 ∨ m = 1 ∨ m = -1 := by omega
      · simp [hn]
      · simp [hn]
      · rcases Nat.even_or_odd n with heven | hodd
        · simp [hn, Nat.even_iff.mp heven, heven.neg_one_pow]
        · simp [hn, Nat.odd_iff.mp hodd, hodd.neg_one_pow]
  · rw [if_neg hsmall]
    rfl

theorem power_of_fits (h : powerOutgrows m.natAbs n = false) :
    power (int m) (int n) = .ok (.number (int (m ^ n))) := by
  have hnonneg : ¬(n : Int) < 0 := Int.not_lt.mpr (Int.natCast_nonneg n)
  unfold power
  simp only [Int.natAbs_natCast, h, hnonneg, decide_false, Bool.or_self, Bool.false_eq_true,
    if_false, intPower_eq]

/-! ### Powers beyond the estimate -/

/-- What the estimate stops is over the limit.  Exponents that are no double are large enough for
any base. -/
theorem Dependable.le_of_outgrows (h : Dependable base n) (hout : powerOutgrows base n = true) :
    1 < base ∧ 2 ^ maxBits ≤ base ^ n := by
  unfold powerOutgrows at hout
  rw [Bool.and_eq_true, decide_eq_true_eq] at hout
  obtain ⟨hbase, hout⟩ := hout
  refine ⟨hbase, ?_⟩
  cases hexponent : nearest? false n 1 with
  | some e =>
      rw [hexponent] at hout
      exact h.estimate hbase e hexponent (of_decide_eq_true hout)
  | none =>
      have hn : n ≠ 0 := by
        rintro rfl
        cases hexponent
      have hlog : 1023 ≤ n.log2 := by
        rcases nearest?_natCast hn with ⟨_, _, -, -, hsome⟩ | ⟨hlog, -⟩
        · rw [hsome] at hexponent
          cases hexponent
        · exact hlog
      have hlarge : maxBits ≤ n :=
        calc maxBits = 2 ^ 12 := rfl
          _ ≤ 2 ^ n.log2 := Nat.pow_le_pow_right (by norm_num) (by omega)
          _ ≤ n := Nat.log2_self_le hn
      calc 2 ^ maxBits ≤ 2 ^ n := Nat.pow_le_pow_right (by norm_num) hlarge
        _ ≤ base ^ n := Nat.pow_le_pow_left hbase n

/-- The powers of two below base and exponent make at least a quarter of the binary digits. -/
theorem le_log2_mul (hbase : 1 < base) (hlimit : 2 ^ maxBits ≤ base ^ n) :
    1024 ≤ base.log2 * 2 ^ n.log2 := by
  have hbase' : base < 2 ^ (base.log2 + 1) := Nat.lt_log2_self
  have hn : n < 2 ^ (n.log2 + 1) := Nat.lt_log2_self
  have hlog : 1 ≤ base.log2 := (Nat.le_log2 (by omega)).mpr hbase
  have hbits : maxBits ≤ (base.log2 + 1) * n := by
    refine (Nat.pow_le_pow_iff_right (by norm_num : 1 < 2)).mp (hlimit.trans ?_)
    rw [pow_mul]
    exact Nat.pow_le_pow_left hbase'.le n
  have hdouble : maxBits ≤ (base.log2 + 1) * 2 ^ (n.log2 + 1) :=
    hbits.trans (Nat.mul_le_mul_left _ hn.le)
  have hhalf : (base.log2 + 1) * 2 ^ (n.log2 + 1) ≤ 2 * base.log2 * 2 ^ (n.log2 + 1) :=
    Nat.mul_le_mul_right _ (by omega)
  rw [pow_succ, ← Nat.mul_assoc, ← Nat.mul_assoc] at hhalf
  unfold maxBits at hdouble
  rw [pow_succ, ← Nat.mul_assoc] at hdouble
  linarith

theorem two_pow_le_rpow {x y : ℝ} {k j : Nat} (hx : 2 ^ k ≤ x) (hy : 2 ^ j ≤ y)
    (h : 1024 ≤ k * 2 ^ j) : 2 ^ 1024 ≤ x ^ y := by
  have hone : (1 : ℝ) ≤ 2 ^ k := one_le_pow₀ (by norm_num)
  calc (2 : ℝ) ^ 1024 ≤ 2 ^ (k * 2 ^ j) := pow_le_pow_right₀ (by norm_num) h
    _ = ((2 : ℝ) ^ k) ^ (2 ^ j) := pow_mul 2 k (2 ^ j)
    _ = ((2 : ℝ) ^ k) ^ ((2 ^ j : Nat) : ℝ) := (Real.rpow_natCast _ _).symm
    _ ≤ x ^ ((2 ^ j : Nat) : ℝ) := by gcongr
    _ ≤ x ^ y := by
        refine Real.rpow_le_rpow_of_exponent_le (hone.trans hx) ?_
        push_cast
        exact hy

theorem floatPower_of_overflow {negative : Bool} {a b : Nat} (ha : a < sizeBound)
    (hb : b < sizeBound) (ha' : a ≠ 0) (hb' : b ≠ 0)
    (h : ((sized false a).pow (sized false b)).isFinite = false) :
    floatPower (sized negative a) (sized false b) = .error .overflow := by
  unfold floatPower
  rw [sized_beq_zero hb, decide_eq_false hb', isFinite_sized ha, isFinite_sized hb,
    sized_beq_zero ha, decide_eq_false ha', abs_sized ha]
  dsimp only
  rw [h]
  rfl

/-- A whole number that is not zero becomes a double no smaller than the power of two below it, or
is out of range. -/
theorem toFloat_int_cases (hm : m ≠ 0) :
    (∃ a e, Canonical a e ∧ (2 : ℚ) ^ m.natAbs.log2 ≤ a * 2 ^ e ∧
        nearest? false m.natAbs 1 = some (sized false (packedSize a e)) ∧
        (int m).toFloat = .ok (sized (decide (m < 0)) (packedSize a e))) ∨
      (int m).toFloat = .error .overflow := by
  unfold toFloat ofInt?
  dsimp only
  rcases nearest?_natCast (Int.natAbs_ne_zero.mpr hm) with ⟨a, e, hc, hlow, ha⟩ | ⟨-, ha⟩
  · exact .inl ⟨a, e, hc, hlow, ha false, by rw [ha]⟩
  · exact .inr (by rw [ha])

theorem power_of_stopped (h : powerOutgrows m.natAbs n = true) :
    power (int m) (int n) =
      (int m).toFloat >>= fun x => (int n).toFloat >>= fun y => floatPower x y := by
  unfold power
  simp only [Int.natAbs_natCast, h, Bool.or_true, if_true]

/-- What the estimate stops is beyond the doubles. -/
theorem Dependable.power_of_outgrows (h : Dependable m.natAbs n)
    (hout : powerOutgrows m.natAbs n = true) : power (int m) (int n) = .error .overflow := by
  obtain ⟨hbase, hlimit⟩ := h.le_of_outgrows hout
  have hn : n ≠ 0 := by
    rintro rfl
    rw [pow_zero] at hlimit
    exact absurd hlimit (Nat.not_le.mpr (Nat.one_lt_two_pow (by decide)))
  rw [power_of_stopped hout]
  rcases toFloat_int_cases (m := m) (by omega) with ⟨a, e, hc, hlow, hbaseFloat, hx⟩ | hx
  · rcases toFloat_int_cases (m := n) (by omega) with ⟨b, f, hc', hlow', hexponentFloat, hy⟩ | hy
    · rw [Int.natAbs_natCast] at hlow' hexponentFloat
      have hlarge : (2 : ℝ) ^ 1024 ≤ ((value (sized false (packedSize a e)) : ℚ) : ℝ) ^
          ((value (sized false (packedSize b f)) : ℚ) : ℝ) := by
        rw [value_packed hc, value_packed hc']
        exact two_pow_le_rpow (by exact_mod_cast hlow) (by exact_mod_cast hlow')
          (le_log2_mul hbase hlimit)
      have hpow := h.overflow _ _ hbaseFloat hexponentFloat hlarge
      have hpositive : decide ((n : Int) < 0) = false :=
        decide_eq_false (Int.not_lt.mpr (Int.natCast_nonneg n))
      rw [hx, hy, hpositive]
      exact Failing.bind_eq_error.mpr (.inr ⟨_, rfl, Failing.bind_eq_error.mpr (.inr ⟨_, rfl,
        floatPower_of_overflow hc.packedSize_lt hc'.packedSize_lt hc.packedSize_ne_zero
          hc'.packedSize_ne_zero hpow⟩)⟩)
    · rw [hy]
      exact Failing.bind_eq_error.mpr (.inr ⟨_, hx, rfl⟩)
  · rw [hx]
    rfl

end Quantity

namespace Rule

/--
**A power of whole numbers is exact or fails.**

As far as the functions of doubles can be depended on, the power is the whole number that it should
be if that number is within the limit, and otherwise there is a failure of the mathematics.
-/
theorem applyAt_power {m : Int} {n : Nat} (h : Quantity.Dependable m.natAbs n) (site : Site) :
    (bitLength (m ^ n).natAbs ≤ maxBits →
      (binary .power).applyAt site [.int m, .int n] = .ok (.int (m ^ n))) ∧
    (maxBits < bitLength (m ^ n).natAbs →
      ∃ fault, (binary .power).applyAt site [.int m, .int n] = .error fault ∧
        fault.isNumeric = true) := by
  rw [applyAt_binary, show BinaryRule.power.apply (.int m) (.int n) =
    Quantity.power (.int m) (.int n) from rfl]
  cases hout : Quantity.powerOutgrows m.natAbs n with
  | true =>
      rw [h.power_of_outgrows hout]
      have hlimit := (h.le_of_outgrows hout).2
      rw [← Int.natAbs_pow] at hlimit
      refine ⟨fun hfits => ?_, fun _ => ⟨_, rfl, rfl⟩⟩
      exact absurd (bitLength_le_iff.mp hfits) (Nat.not_lt.mpr hlimit)
  | false =>
      rw [Quantity.power_of_fits hout]
      have hsettled : (Response.of (.ok (.number (.int (m ^ n))))).settleAt site =
        (Quantity.int (m ^ n)).check.mapError (EvalFault.failed site) := rfl
      rw [hsettled]
      dsimp only [Quantity.check]
      refine ⟨fun hfits => ?_, fun hlarge => ?_⟩
      · rw [if_pos hfits]
        rfl
      · rw [if_neg (Nat.not_le.mpr hlarge)]
        exact ⟨_, rfl, rfl⟩

/-- A power of minus one is exact even if its exponent is no double.  The fourth power of the least
power of two that is no double is the least that does not fit. -/
theorem applyAt_power_beyond_doubles :
    (binary .power).applyAt (.operator ['^']) [.int (-1), .int (2 ^ 1024 + 1 : Nat)] =
        .ok (.int (-1)) ∧
      ∃ fault, (binary .power).applyAt (.operator ['^']) [.int (2 ^ 1024), .int (4 : Nat)] =
        .error fault ∧ fault.isNumeric = true := by
  have hodd : ∀ k, k ≠ 0 → Odd (2 ^ k + 1) :=
    fun k hk => (Nat.even_pow.mpr ⟨even_two, hk⟩).add_one
  have hsize : ∀ k, ((2 : Int) ^ k).natAbs = 2 ^ k := fun k => Int.natAbs_pow 2 k
  have hpower : (((2 : Int) ^ 1024) ^ 4).natAbs = 2 ^ maxBits := by
    rw [Int.natAbs_pow, hsize 1024, ← pow_mul, show maxBits = 1024 * 4 from rfl]
  obtain ⟨hexact, -⟩ := applyAt_power (m := -1) (n := 2 ^ 1024 + 1)
    (.of_le_one (by decide)) (.operator ['^'])
  obtain ⟨-, hfail⟩ := applyAt_power (m := 2 ^ 1024) (n := 4)
    (.of_beyond (hsize 1024).ge le_rfl) (.operator ['^'])
  rw [(hodd 1024 (by norm_num)).neg_one_pow] at hexact
  refine ⟨hexact (by decide), hfail ?_⟩
  rw [hpower, ← not_le, bitLength_le_iff]
  exact lt_irrefl _

end Rule
end Reckon
