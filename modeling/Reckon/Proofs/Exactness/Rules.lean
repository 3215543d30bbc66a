/-
What rules make of whole numbers and ratios.

A number that is no double is held exactly.  A rule other than a power keeps two such numbers exact
unless it divides by zero, or divides one whole number by another and something remains: then there
is a failure, or the nearest double.  A double among the operands does not go away again, so it can
be told from an exact result that the operands were exact.

`Yields` lists all that can happen to exact operands, and `Inexact` what can happen to others.
-/
import Mathlib.Data.Rat.Floor
import Mathlib.Algebra.Order.Floor.Ring
import Reckon.Proofs.Limits

namespace Reckon

/-! ### Exact values -/

namespace Quantity

/-- Whether the number is held as a whole number; a ratio is not, even if its denominator is one. -/
def isInt : Quantity → Bool
  | int _ => true
  | _ => false

/-- The value of a number that is held exactly, as a whole number or as a ratio. -/
def exactValue? : Quantity → Option Rat
  | int n => some n
  | float _ => none
  | ratio r => some r

end Quantity

/-- Whether the rule divides by its second operand. -/
def BinaryRule.divides : BinaryRule → Bool
  | divide | modulo => true
  | _ => false

/-- The exact result of a rule, if no divisor is zero.  The remainder is the one that is left when
dividing toward the lower side.  Powers are left out. -/
def BinaryRule.exactValue? : BinaryRule → Rat → Rat → Option Rat
  | add, r, s => some (r + s)
  | subtract, r, s => some (r - s)
  | multiply, r, s => some (r * s)
  | divide, r, s => if s = 0 then none else some (r / s)
  | modulo, r, s => if s = 0 then none else some (r - s * (r / s).floor)
  | power, _, _ => none

/-- The exact result of a rule for one operand. -/
def UnaryRule.exactValue : UnaryRule → Rat → Rat
  | negate, r => -r
  | identity, r => r

/-- The exact result of a rule that is one of these. -/
def Rule.exactValue? : Rule → List Rat → Option Rat
  | binary rule, [r, s] => rule.exactValue? r s
  | unary rule, [r] => some (rule.exactValue r)
  | _, _ => none

/-- Whether the rule is one that divides. -/
def Rule.divides : Rule → Bool
  | binary rule => rule.divides
  | _ => false

/-! ### The remainder -/

theorem floor_intCast_div (m n : Int) : ((m : Rat) / n).floor = m.fdiv n := by
  have hnonneg (m : Int) {n : Int} (hn : 0 ≤ n) : ((m : Rat) / n).floor = m.fdiv n := by
    obtain ⟨d, rfl⟩ := Int.eq_ofNat_of_zero_le hn
    rw [Int.fdiv_eq_ediv_of_nonneg m hn]
    exact_mod_cast Rat.floor_intCast_div_natCast m d
  rcases Int.le_total 0 n with hn | hn
  · exact hnonneg m hn
  · simpa using hnonneg (-m) (Int.neg_nonneg_of_nonpos hn)

/-- The exact remainder lies between zero and the divisor, on the side of the divisor. -/
theorem BinaryRule.exactValue?_modulo {r s u : Rat} (h : modulo.exactValue? r s = some u) :
    0 ≤ u ∧ u < s ∨ s < u ∧ u ≤ 0 := by
  by_cases hs : s = 0
  · simp [exactValue?, hs] at h
  obtain rfl : r - s * (⌊r / s⌋ : Int) = u := Option.some.inj ((if_neg hs).symm.trans h)
  rcases lt_or_gt_of_ne hs with hneg | hpos
  · have hnonneg := Int.sub_floor_div_mul_nonneg (-r) (neg_pos.mpr hneg)
    have hlt := Int.sub_floor_div_mul_lt (-r) (neg_pos.mpr hneg)
    rw [neg_div_neg_eq] at hnonneg hlt
    exact .inr ⟨by linarith, by linarith⟩
  · have hnonneg := Int.sub_floor_div_mul_nonneg r hpos
    have hlt := Int.sub_floor_div_mul_lt r hpos
    exact .inl ⟨by linarith, by linarith⟩

/-! ### Numbers that are held exactly -/

namespace Quantity

variable {a b q : Quantity} {r s v : Rat}

theorem isZero_of_exactValue? (h : q.exactValue? = some v) : q.isZero = decide (v = 0) := by
  cases q with
  | int n => cases h; simp [isZero, Bool.beq_eq_decide_eq]
  | float x => cases h
  | ratio r => cases h; simp [isZero, Bool.beq_eq_decide_eq]

/-- A number is within the limits by its value, of whatever kind it is. -/
theorem isBounded_of_exactValue? (h : q.exactValue? = some v) :
    q.isBounded = (ratio v).isBounded := by
  cases q with
  | int n =>
      cases h
      exact (Bool.and_true _).symm
  | float x => cases h
  | ratio r => cases h; rfl

theorem isOperandFault_of_check {failure : Failure} (h : q.check = .error failure) :
    failure.isOperandFault = false := by
  cases q <;> dsimp only [check] at h <;> split at h <;> cases h <;> rfl

theorem exists_of_not_float (h : ¬(a.exactValue? = none ∨ b.exactValue? = none)) :
    ∃ r s, a.exactValue? = some r ∧ b.exactValue? = some s := by
  rw [not_or] at h
  obtain ⟨r, hr⟩ := Option.ne_none_iff_exists'.mp h.1
  obtain ⟨s, hs⟩ := Option.ne_none_iff_exists'.mp h.2
  exact ⟨r, s, hr, hs⟩

/-- Two numbers held exactly are combined as whole numbers if both are, else as ratios. -/
theorem meet_of_exactValue? (ha : a.exactValue? = some r) (hb : b.exactValue? = some s) :
    (∃ m n : Int, a = int m ∧ b = int n ∧ r = m ∧ s = n) ∨
      (a.isInt && b.isInt) = false ∧ meet a b = .ok (.ratios r s) := by
  cases a <;> cases b <;> cases ha <;> cases hb
  · exact .inl ⟨_, _, rfl, rfl, rfl, rfl⟩
  · exact .inr ⟨rfl, rfl⟩
  · exact .inr ⟨rfl, rfl⟩
  · exact .inr ⟨rfl, rfl⟩

/-! ### Outcomes that are not exact -/

/-- A double, or an exception of the mathematics. -/
inductive Inexact : Except Raised Value → Prop
  | float {x : Float} : Inexact (.ok (.number (float x)))
  | failed {e : Raised} (h : e.isOperandFault = false) : Inexact (.error e)

theorem Inexact.isOperandFault {e : Raised} (h : Inexact (.error e)) : e.isOperandFault = false := by
  cases h with
  | failed h => exact h

theorem inexact_of_ite {p : Prop} [Decidable p] {x : Float} :
    Inexact ((if p then .error .divisionByZero else .ok (float x) : Except Raised Quantity).map
      .number) := by
  split
  · exact .failed rfl
  · exact .float

theorem toFloat_cases (q : Quantity) : (∃ x, q.toFloat = .ok x) ∨ q.toFloat = .error .overflow := by
  cases q with
  | float x => exact .inl ⟨x, rfl⟩
  | int n =>
      unfold toFloat
      dsimp only
      split
      · exact .inl ⟨_, rfl⟩
      · exact .inr rfl
  | ratio r =>
      unfold toFloat
      dsimp only
      split
      · exact .inl ⟨_, rfl⟩
      · exact .inr rfl

/-- One double makes both numbers doubles. -/
theorem meet_of_float (h : a.exactValue? = none ∨ b.exactValue? = none) :
    (∃ x y, meet a b = .ok (.floats x y)) ∨ meet a b = .error .overflow := by
  have hmeet : meet a b = (do .ok (.floats (← a.toFloat) (← b.toFloat))) := by
    cases a <;> cases b <;> first | rfl | (rcases h with h | h <;> cases h)
  rw [hmeet]
  rcases a.toFloat_cases with ⟨x, hx⟩ | hx
  · rcases b.toFloat_cases with ⟨y, hy⟩ | hy
    · exact .inl ⟨x, y, by rw [hx, hy]; rfl⟩
    · exact .inr (by rw [hx, hy]; rfl)
  · exact .inr (by rw [hx]; rfl)

/-! ### Division of whole numbers -/

section

variable {m n : Int}

theorem divide_of_even (hn : n ≠ 0) (heven : m % n = 0) :
    divide (int m) (int n) = .ok (int (m / n)) := by
  have hzero : (int n).isZero = false := beq_eq_false_iff_ne.mpr hn
  rw [divide, hzero]
  exact if_pos (beq_iff_eq.mpr heven)

/-- A quotient that does not come out even is a double, if there is one in its range. -/
theorem divide_of_uneven (hn : n ≠ 0) (uneven : m % n ≠ 0) :
    Inexact ((divide (int m) (int n)).map .number) := by
  have hzero : (int n).isZero = false := beq_eq_false_iff_ne.mpr hn
  rw [divide, hzero]
  dsimp only [meet, bind, Except.bind, pure, Except.pure, throw, throwThe, MonadExceptOf.throw]
  rw [if_neg Bool.false_ne_true, if_neg fun h => uneven (beq_iff_eq.mp h)]
  split
  · exact .float
  · exact .failed rfl

theorem modulo_of_ints (hn : n ≠ 0) : modulo (int m) (int n) = .ok (int (m.fmod n)) := by
  have hzero : (int n).isZero = false := beq_eq_false_iff_ne.mpr hn
  rw [modulo, hzero]
  rfl

end

end Quantity

/-! ### What rules make of their operands -/

open Quantity (Inexact)

namespace BinaryRule

variable {rule : BinaryRule} {a b : Quantity} {r s : Rat}

/-- All that a rule can do with two operands of values `r` and `s` that are no doubles; `whole` says
whether both are whole numbers. -/
inductive Yields (rule : BinaryRule) (whole : Bool) (r s : Rat) : Except Raised Value → Prop
  | exact {z : Quantity} {u : Rat} (h : rule.exactValue? r s = some u) (hz : z.exactValue? = some u)
      (hwhole : z.isInt = whole)
      (evenly : rule = .divide → whole = true → ∀ m n : Int, r = m → s = n → m % n = 0) :
      Yields rule whole r s (.ok (.number z))
  | undefined (h : rule.divides = true) (hs : s = 0) :
      Yields rule whole r s (.error .divisionByZero)
  | rounded {m n : Int} {outcome : Except Raised Value} (hrule : rule = .divide)
      (hwhole : whole = true) (hr : r = m) (hs : s = n) (uneven : m % n ≠ 0)
      (h : Inexact outcome) : Yields rule whole r s outcome

theorem ne_zero_of_exactValue? {u : Rat} (h : rule.exactValue? r s = some u)
    (hdivides : rule.divides = true) : s ≠ 0 := by
  rintro rfl
  cases rule with
  | divide | modulo => rw [exactValue?, if_pos rfl] at h; cases h
  | _ => cases hdivides

theorem apply_of_isZero (hdivides : rule.divides = true) (hzero : b.isZero = true) :
    rule.apply a b = .error .divisionByZero := by
  cases rule with
  | divide => rw [apply, Quantity.divide, hzero]; rfl
  | modulo => rw [apply, Quantity.modulo, hzero]; rfl
  | _ => cases hdivides

theorem yields_of_ints {m n : Int} (hrule : rule ≠ .power)
    (hdivisor : rule.divides = true → n ≠ 0) :
    rule.Yields true m n (rule.apply (.int m) (.int n)) := by
  cases rule with
  | power => exact absurd rfl hrule
  | add =>
      exact .exact (z := .int (m + n)) rfl (congrArg some (Int.cast_add m n)) rfl (by simp)
  | subtract =>
      exact .exact (z := .int (m - n)) rfl (congrArg some (Int.cast_sub m n)) rfl (by simp)
  | multiply =>
      exact .exact (z := .int (m * n)) rfl (congrArg some (Int.cast_mul m n)) rfl (by simp)
  | divide =>
      have hn := hdivisor rfl
      by_cases heven : m % n = 0
      · have hcast : (n : Rat) ≠ 0 := Int.cast_ne_zero.mpr hn
        have hquotient : ((m / n : Int) : Rat) = m / n :=
          Int.cast_div (Int.dvd_of_emod_eq_zero heven) hcast
        rw [apply, Quantity.divide_of_even hn heven]
        refine .exact (if_neg hcast) (congrArg some hquotient) rfl fun _ _ m' n' hm hn' => ?_
        rwa [← Int.cast_injective hm, ← Int.cast_injective hn']
      · exact .rounded rfl rfl rfl rfl heven (Quantity.divide_of_uneven hn heven)
  | modulo =>
      have hn := hdivisor rfl
      rw [apply, Quantity.modulo_of_ints hn]
      refine .exact (if_neg (Int.cast_ne_zero.mpr hn)) ?_ rfl (by simp)
      rw [floor_intCast_div, Quantity.exactValue?, Int.fmod_def]
      push_cast
      rfl

theorem yields_of_ratios (hrule : rule ≠ .power) (hdivisor : rule.divides = true → s ≠ 0)
    (hzero : b.isZero = decide (s = 0)) (hmeet : Quantity.meet a b = .ok (.ratios r s)) :
    rule.Yields false r s (rule.apply a b) := by
  cases rule with
  | power => exact absurd rfl hrule
  | add =>
      rw [apply, Quantity.add, hmeet]
      exact .exact (z := .ratio (r + s)) rfl rfl rfl (by simp)
  | subtract =>
      rw [apply, Quantity.subtract, hmeet]
      exact .exact (z := .ratio (r - s)) rfl rfl rfl (by simp)
  | multiply =>
      rw [apply, Quantity.multiply, hmeet]
      exact .exact (z := .ratio (r * s)) rfl rfl rfl (by simp)
  | divide =>
      have hs := hdivisor rfl
      rw [apply, Quantity.divide, hmeet, hzero, decide_eq_false hs]
      exact .exact (z := .ratio (r / s)) (if_neg hs) rfl rfl (by simp)
  | modulo =>
      have hs := hdivisor rfl
      rw [apply, Quantity.modulo, hmeet, hzero, decide_eq_false hs]
      exact .exact (z := .ratio (r - s * (r / s).floor)) (if_neg hs) rfl rfl (by simp)

/-- What a rule does with operands that are no doubles. -/
theorem yields_of_exactValue? (hrule : rule ≠ .power) (ha : a.exactValue? = some r)
    (hb : b.exactValue? = some s) : rule.Yields (a.isInt && b.isInt) r s (rule.apply a b) := by
  have hzero := Quantity.isZero_of_exactValue? hb
  by_cases hundefined : rule.divides = true ∧ s = 0
  · obtain ⟨hdivides, hs⟩ := hundefined
    rw [apply_of_isZero hdivides (by rw [hzero, decide_eq_true hs])]
    exact .undefined hdivides hs
  have hdivisor : rule.divides = true → s ≠ 0 := fun hdivides hs => hundefined ⟨hdivides, hs⟩
  rcases Quantity.meet_of_exactValue? ha hb with ⟨m, n, rfl, rfl, rfl, rfl⟩ | ⟨hwhole, hmeet⟩
  · exact yields_of_ints hrule fun hdivides => Int.cast_ne_zero.mp (hdivisor hdivides)
  · rw [hwhole]
    exact yields_of_ratios hrule hdivisor hzero hmeet

/-- A double among the operands does not go away. -/
theorem inexact_of_float (hrule : rule ≠ .power) (h : a.exactValue? = none ∨ b.exactValue? = none) :
    Inexact (rule.apply a b) := by
  rcases Quantity.meet_of_float h with ⟨x, y, hmeet⟩ | hmeet
  · cases rule with
    | power => exact absurd rfl hrule
    | add => rw [apply, Quantity.add, hmeet]; exact .float
    | subtract => rw [apply, Quantity.subtract, hmeet]; exact .float
    | multiply => rw [apply, Quantity.multiply, hmeet]; exact .float
    | divide =>
        rw [apply, Quantity.divide, hmeet]
        cases b.isZero with
        | true => exact .failed rfl
        | false => exact Quantity.inexact_of_ite
    | modulo =>
        rw [apply, Quantity.modulo, hmeet]
        cases b.isZero with
        | true => exact .failed rfl
        | false => exact Quantity.inexact_of_ite
  · cases rule with
    | power => exact absurd rfl hrule
    | add => rw [apply, Quantity.add, hmeet]; exact .failed rfl
    | subtract => rw [apply, Quantity.subtract, hmeet]; exact .failed rfl
    | multiply => rw [apply, Quantity.multiply, hmeet]; exact .failed rfl
    | divide => rw [apply, Quantity.divide, hmeet]; cases b.isZero <;> exact .failed rfl
    | modulo => rw [apply, Quantity.modulo, hmeet]; cases b.isZero <;> exact .failed rfl

theorem isOperandFault_of_apply {e : Raised} (hrule : rule ≠ .power)
    (h : rule.apply a b = .error e) : e.isOperandFault = false := by
  by_cases hfloat : a.exactValue? = none ∨ b.exactValue? = none
  · have hinexact := inexact_of_float hrule hfloat
    rw [h] at hinexact
    exact hinexact.isOperandFault
  obtain ⟨r, s, hr, hs⟩ := Quantity.exists_of_not_float hfloat
  have hyields := yields_of_exactValue? hrule hr hs
  rw [h] at hyields
  cases hyields with
  | undefined => rfl
  | rounded _ _ _ _ _ hinexact => exact hinexact.isOperandFault

/-- A result that is no double has operands that are none. -/
theorem exists_exactValue? {z : Quantity} {u : Rat} (hrule : rule ≠ .power)
    (h : rule.apply a b = .ok (.number z)) (hz : z.exactValue? = some u) :
    ∃ r s, a.exactValue? = some r ∧ b.exactValue? = some s := by
  refine Quantity.exists_of_not_float fun hfloat => ?_
  have hinexact := inexact_of_float hrule hfloat
  rw [h] at hinexact
  cases hinexact
  cases hz

end BinaryRule

theorem UnaryRule.exactValue?_apply {rule : UnaryRule} {a : Quantity} :
    (rule.apply a).exactValue? = a.exactValue?.map rule.exactValue := by
  cases rule with
  | negate =>
      cases a with
      | int n => exact congrArg some (Int.cast_neg n)
      | _ => rfl
  | identity => cases a <;> rfl

theorem UnaryRule.isInt_apply {rule : UnaryRule} {a : Quantity} :
    (rule.apply a).isInt = a.isInt := by
  cases rule <;> cases a <;> rfl

/-- The result of a rule other than a power is a number. -/
theorem BinaryRule.isNumber_of_apply {rule : BinaryRule} {a b : Quantity} {v : Value}
    (hrule : rule ≠ .power) (h : rule.apply a b = .ok v) : ∃ z, v = .number z := by
  cases rule with
  | power => exact absurd rfl hrule
  | _ =>
      obtain ⟨z, -, hz⟩ := Failing.map_eq_ok.mp h
      exact ⟨z, hz.symm⟩

/-! ### Rules with the check at their end -/

/-- Whether the mathematics failed, and not the operands. -/
def EvalFault.isNumeric : EvalFault → Bool
  | failed _ failure => !failure.isOperandFault
  | _ => false

namespace Rule

variable {site : Site} {a b q : Quantity}

theorem applyAt_unary (rule : UnaryRule) :
    (unary rule).applyAt site [a] = (rule.apply a).check.mapError (.failed site) :=
  rfl

theorem applyAt_binary (rule : BinaryRule) :
    (binary rule).applyAt site [a, b] = (Response.of (rule.apply a b)).settleAt site :=
  rfl

theorem applyAt_unary_eq_ok {rule : UnaryRule} :
    (unary rule).applyAt site [a] = .ok q ↔ q = rule.apply a ∧ q.isBounded = true := by
  rw [applyAt_unary, Failing.mapError_eq_ok, Quantity.check_eq_ok]
  constructor <;> (rintro ⟨rfl, h⟩; exact ⟨rfl, h⟩)

theorem applyAt_binary_eq_ok {rule : BinaryRule} (hrule : rule ≠ .power) :
    (binary rule).applyAt site [a, b] = .ok q ↔
      rule.apply a b = .ok (.number q) ∧ q.isBounded = true := by
  rw [applyAt_eq_ok]
  dsimp only [call]
  cases happly : rule.apply a b with
  | error e => simp [Response.of]
  | ok v =>
      obtain ⟨z, rfl⟩ := BinaryRule.isNumber_of_apply hrule happly
      simp [Response.of, Value.whole]

theorem isNumeric_of_unary {rule : UnaryRule} {fault : EvalFault}
    (h : (unary rule).applyAt site [a] = .error fault) : fault.isNumeric = true := by
  rw [applyAt_unary] at h
  obtain ⟨failure, hfail, rfl⟩ := Failing.mapError_eq_error.mp h
  rw [EvalFault.isNumeric, Quantity.isOperandFault_of_check hfail]
  rfl

theorem isNumeric_of_binary {rule : BinaryRule} (hrule : rule ≠ .power) {fault : EvalFault}
    (h : (binary rule).applyAt site [a, b] = .error fault) : fault.isNumeric = true := by
  rw [applyAt_binary] at h
  cases happly : rule.apply a b with
  | error e =>
      rw [happly] at h
      cases h
      exact congrArg (!·) (BinaryRule.isOperandFault_of_apply hrule happly)
  | ok v =>
      obtain ⟨z, rfl⟩ := BinaryRule.isNumber_of_apply hrule happly
      rw [happly] at h
      obtain ⟨failure, hfail, rfl⟩ := Failing.mapError_eq_error.mp h
      exact congrArg (!·) (Quantity.isOperandFault_of_check hfail)

end Rule
end Reckon
