/-
Rounding is to the nearest multiple of a power of ten, a half going away from zero.

`IsRounded` says what that means, without a word about how it is computed: a multiple, at most
half a unit away, and farther from zero if it is just half a unit away.  There is only one such
number, and so it need not be computed to be reasoned about: that rounding is odd and keeps
the order, and that a rounded number stays as it is, follows from what `IsRounded` says.

A whole number that is rounded to places behind the point is not computed at all but handed
back.  It is rounded already.
-/
import Reckon.Proofs.Exactness.Rules
import Reckon.Proofs.Decimal.Values

namespace Reckon

/-! ### Rounded numbers -/

/-- The number `r` is `v` rounded to `d` places behind the point; to places before it if `d` is
negative. -/
structure IsRounded (d : Int) (v r : ℚ) : Prop where
  whole : ∃ n : Int, r * 10 ^ d = n
  near : |r - v| * 10 ^ d ≤ 1 / 2
  away : |r - v| * 10 ^ d = 1 / 2 → |v| < |r|

namespace IsRounded

variable {d : Int} {v w r s : ℚ}

theorem unit_pos (d : Int) : (0 : ℚ) < 10 ^ d := by positivity

/-- Only the unit matters: rounding to `d` places is rounding to whole numbers in units of the last
place. -/
theorem iff_scaled : IsRounded d v r ↔ IsRounded 0 (v * 10 ^ d) (r * 10 ^ d) := by
  have hpos := unit_pos d
  have hdistance : |r * 10 ^ d - v * 10 ^ d| * 10 ^ (0 : Int) = |r - v| * 10 ^ d := by
    rw [← sub_mul, abs_mul, abs_of_pos hpos, zpow_zero, mul_one]
  have hsizes : |v * 10 ^ d| < |r * 10 ^ d| ↔ |v| < |r| := by
    rw [abs_mul, abs_mul, abs_of_pos hpos, mul_lt_mul_iff_left₀ hpos]
  constructor
  · rintro ⟨⟨n, hn⟩, hnear, haway⟩
    exact ⟨⟨n, by rw [hn, zpow_zero, mul_one]⟩, by rwa [hdistance],
      fun h => hsizes.mpr (haway (by rwa [hdistance] at h))⟩
  · rintro ⟨⟨n, hn⟩, hnear, haway⟩
    rw [hdistance] at hnear haway
    exact ⟨⟨n, by rwa [zpow_zero, mul_one] at hn⟩, hnear, fun h => hsizes.mp (haway h)⟩

/-- Rounding keeps the order, however the numbers are rounded. -/
theorem mono (hr : IsRounded d v r) (hs : IsRounded d w s) (h : v ≤ w) : r ≤ s := by
  rw [iff_scaled] at hr hs
  have hpos := unit_pos d
  refine le_of_mul_le_mul_right ?_ hpos
  have h' : v * 10 ^ d ≤ w * 10 ^ d := mul_le_mul_of_nonneg_right h hpos.le
  generalize v * 10 ^ d = v at hr h'
  generalize w * 10 ^ d = w at hs h'
  obtain ⟨⟨n, hn⟩, hnear, haway⟩ := hr
  obtain ⟨⟨k, hk⟩, hnear', haway'⟩ := hs
  rw [zpow_zero, mul_one] at hn hk hnear haway hnear' haway'
  rw [hn] at hnear haway ⊢
  rw [hk] at hnear' haway' ⊢
  by_contra hlt
  have hkn : k + 1 ≤ n := by exact_mod_cast not_le.mp hlt
  have hkn' : (k : ℚ) + 1 ≤ n := by exact_mod_cast hkn
  obtain ⟨-, hhigh⟩ := abs_le.mp hnear
  obtain ⟨hlow, -⟩ := abs_le.mp hnear'
  -- Both are halfway, between whole numbers next to each other: one of them lies nearer to zero.
  have hv : v = n - 1 / 2 := by linarith
  have hw : w = k + 1 / 2 := by linarith
  have hnext : (n : ℚ) = k + 1 := by linarith
  have hn' : |v| < |(n : ℚ)| := haway (by rw [hv]; norm_num)
  have hk' : |w| < |(k : ℚ)| := haway' (by rw [hw]; norm_num)
  rcases le_or_gt 0 k with hk0 | hk0
  · have hk0' : (0 : ℚ) ≤ k := by exact_mod_cast hk0
    rw [hw, abs_of_nonneg (by linarith), abs_of_nonneg hk0'] at hk'
    linarith
  · have hn0 : n ≤ 0 := by
      have : (n : ℚ) = ((k + 1 : Int) : ℚ) := by rw [hnext]; push_cast; rfl
      have : n = k + 1 := by exact_mod_cast this
      omega
    have hn0' : (n : ℚ) ≤ 0 := by exact_mod_cast hn0
    rw [hv, abs_of_nonpos (by linarith), abs_of_nonpos hn0'] at hn'
    linarith

/-- There is only one way to round a number. -/
theorem unique (hr : IsRounded d v r) (hs : IsRounded d v s) : r = s :=
  le_antisymm (hr.mono hs le_rfl) (hs.mono hr le_rfl)

theorem neg (h : IsRounded d v r) : IsRounded d (-v) (-r) := by
  obtain ⟨⟨n, hn⟩, hnear, haway⟩ := h
  have hdistance : |-r - -v| = |r - v| := by rw [← neg_sub', abs_neg]
  refine ⟨⟨-n, ?_⟩, by rwa [hdistance], fun htie => ?_⟩
  · rw [neg_mul, hn]
    push_cast
    rfl
  · rw [abs_neg, abs_neg]
    exact haway (by rwa [hdistance] at htie)

/-- What is rounded already stays as it is. -/
theorem of_whole {n : Int} (h : r * 10 ^ d = n) : IsRounded d r r where
  whole := ⟨n, h⟩
  near := by rw [sub_self, abs_zero, zero_mul]; norm_num
  away htie := by
    rw [sub_self, abs_zero, zero_mul] at htie
    norm_num at htie

theorem self (h : IsRounded d v r) : IsRounded d r r :=
  let ⟨_, hn⟩ := h.whole
  of_whole hn

/-- A whole number is rounded to any places behind the point. -/
theorem of_int (n : Int) (hd : 0 ≤ d) : IsRounded d n n := by
  obtain ⟨k, rfl⟩ := Int.eq_ofNat_of_zero_le hd
  refine of_whole (n := n * 10 ^ k) ?_
  push_cast
  rw [zpow_natCast]

/-- A number that is rounded to whole places is whole. -/
theorem eq_num (h : IsRounded d v r) (hd : d ≤ 0) : r = r.num := by
  obtain ⟨n, hn⟩ := h.whole
  obtain ⟨k, hk⟩ := Int.eq_ofNat_of_zero_le (Int.neg_nonneg_of_nonpos hd)
  have hinverse : (10 : ℚ) ^ d * 10 ^ k = 1 := by
    have hsum : d + (k : Int) = 0 := by omega
    rw [← zpow_natCast, ← zpow_add₀ (by norm_num), hsum, zpow_zero]
  have hr : r = ((n * 10 ^ k : Int) : ℚ) := by
    push_cast
    rw [← hn, mul_assoc, hinverse, mul_one]
  rw [hr, Rat.num_intCast]

end IsRounded

/-! ### How rounding is computed -/

namespace Quantity

theorem tenTo_eq (e : Int) : tenTo e = 10 ^ e := by
  unfold tenTo
  split
  · rename_i h
    obtain ⟨k, rfl⟩ := Int.eq_ofNat_of_zero_le h
    rw [Int.toNat_natCast, Rat.mkRat_eq_div, zpow_natCast]
    simp
  · rename_i h
    obtain ⟨k, hk⟩ := Int.eq_ofNat_of_zero_le (Int.neg_nonneg_of_nonpos (le_of_not_ge h))
    have hk' : e = -(k : Int) := by omega
    rw [hk, Int.toNat_natCast, Rat.mkRat_eq_div, hk', zpow_neg, zpow_natCast]
    simp

/-- The floor is taken of a number that is half a unit larger, so a half goes up. -/
theorem isRounded_floor {u : ℚ} (hu : 0 ≤ u) : IsRounded 0 u (u + mkRat 1 2).floor := by
  have hhalf : mkRat 1 2 = (1 / 2 : ℚ) := by norm_num [Rat.mkRat_eq_div]
  have hlow : ((u + 1 / 2).floor : ℚ) ≤ u + 1 / 2 := Int.floor_le _
  have hhigh : u + 1 / 2 < (u + 1 / 2).floor + 1 := Int.lt_floor_add_one _
  rw [hhalf]
  generalize (u + 1 / 2).floor = n at hlow hhigh ⊢
  refine ⟨⟨n, by rw [zpow_zero, mul_one]⟩, ?_, fun htie => ?_⟩
  · rw [zpow_zero, mul_one, abs_le]
    exact ⟨by linarith, by linarith⟩
  · rw [zpow_zero, mul_one] at htie
    rw [abs_of_nonneg hu]
    refine lt_of_lt_of_le ?_ (le_abs_self _)
    rcases eq_or_eq_neg_of_abs_eq htie with h | h <;> linarith

theorem nearestWhole_isRounded (v : ℚ) : IsRounded 0 v (nearestWhole v) := by
  unfold nearestWhole
  dsimp only
  split
  · rename_i hneg
    have h := (isRounded_floor (neg_pos.mpr hneg).le).neg
    rw [neg_neg] at h
    rw [Int.cast_neg]
    exact h
  · rename_i hneg
    exact isRounded_floor (not_lt.mp hneg)

/-- What is computed is the rounded number. -/
theorem roundHalfAway_isRounded (v : ℚ) (d : Int) : IsRounded d v (roundHalfAway v d) := by
  rw [IsRounded.iff_scaled]
  have hscaled : roundHalfAway v d * 10 ^ d = nearestWhole (v * 10 ^ d) := by
    rw [roundHalfAway, tenTo_eq, tenTo_eq, mul_assoc, ← zpow_add₀ (by norm_num), neg_add_cancel,
      zpow_zero, mul_one]
  rw [hscaled]
  exact nearestWhole_isRounded _

/-! ### Rounding a quantity -/

variable {d : Int} {a z : Quantity} {v w r : ℚ}

/-- The number `a` is rounded from the value `v`.  To places behind the point only a number that is
held exactly is: of a double the result would have to be a double again. -/
structure RoundsFrom (d : Int) (a : Quantity) (v : ℚ) : Prop where
  value : a.rational? = some v
  held : 0 < d → a.exactValue? = some v

/-- Rounding `a`, of value `v`, to `d` places gives `z`, of value `r`. -/
structure RoundsTo (d : Int) (a : Quantity) (v : ℚ) (z : Quantity) (r : ℚ) : Prop where
  computed : a.round (int d) = .ok z
  value : z.rational? = some r
  rounded : IsRounded d v r
  whole : d ≤ 0 → z = int r.num
  kept : 0 < d → a.isInt = true → z = a
  split : 0 < d → a.isInt = false → z = ratio r

theorem rational?_float {x : Float} :
    (float x).rational? = some v ↔ x.isFinite = true ∧ Binary64.value x = v := by
  rw [rational?, Option.ite_none_right_eq_some, Option.some.injEq]

theorem exact_of_rational? (ofNaN : DomainReason) (h : a.rational? = some v) :
    a.exact ofNaN = .ok v := by
  cases a with
  | float x =>
      obtain ⟨hfinite, rfl⟩ := rational?_float.mp h
      exact if_pos hfinite
  | _ => cases h; rfl

theorem rational?_negate (h : a.rational? = some v) : a.negate.rational? = some (-v) := by
  cases a with
  | int n =>
      cases h
      exact congrArg some (Int.cast_neg n)
  | ratio r =>
      cases h
      rfl
  | float x =>
      obtain ⟨hfinite, rfl⟩ := rational?_float.mp h
      exact rational?_float.mpr ⟨Binary64.isFinite_neg hfinite, Binary64.value_neg hfinite⟩

theorem RoundsFrom.negate (h : RoundsFrom d a v) : RoundsFrom d a.negate (-v) where
  value := rational?_negate h.value
  held hplaces := by
    have hnegate := @UnaryRule.exactValue?_apply .negate a
    rw [h.held hplaces] at hnegate
    exact hnegate

/-- A number is rounded if its value can be. -/
theorem RoundsFrom.exists_roundsTo (hd : d.natAbs ≤ maxRoundDigits) (h : RoundsFrom d a v) :
    ∃ z r, RoundsTo d a v z r := by
  have hrounded := roundHalfAway_isRounded v d
  rcases le_or_gt d 0 with hwhole | hplaces
  · refine ⟨int (roundHalfAway v d).num, roundHalfAway v d, ?_, ?_, hrounded, fun _ => rfl,
      fun h => absurd h hwhole.not_gt, fun h => absurd h hwhole.not_gt⟩
    · rw [round, if_neg hd.not_gt, exact_of_rational? _ h.value]
      exact if_pos hwhole
    · exact congrArg some (hrounded.eq_num hwhole).symm
  · have hexact := h.held hplaces
    cases a with
    | int n =>
        cases hexact
        refine ⟨int n, n, ?_, rfl, IsRounded.of_int n hplaces.le, fun h => absurd hplaces h.not_gt,
          fun _ _ => rfl, fun _ h => nomatch h⟩
        rw [round, if_neg hd.not_gt]
        exact if_neg hplaces.not_ge
    | float x => cases hexact
    | ratio u =>
        cases hexact
        refine ⟨ratio (roundHalfAway v d), roundHalfAway v d, ?_, rfl, hrounded,
          fun h => absurd hplaces h.not_gt, fun _ h => (nomatch h), fun _ _ => rfl⟩
        rw [round, if_neg hd.not_gt]
        exact if_neg hplaces.not_ge

namespace RoundsTo

/-- What has been rounded can be rounded. -/
theorem roundsFrom (h : RoundsTo d a v z r) : RoundsFrom d z r where
  value := h.value
  held hplaces := by
    cases hint : a.isInt with
    | true =>
        have hvalue := h.value
        rw [h.kept hplaces hint] at hvalue ⊢
        cases a with
        | int n => exact hvalue
        | _ => cases hint
    | false => rw [h.split hplaces hint]; rfl

/-- Turning the sign before rounding or after it is the same. -/
theorem negate {y : Quantity} {s : ℚ} (h : RoundsTo d a v z r)
    (h' : RoundsTo d a.negate (-v) y s) : y = z.negate := by
  obtain rfl : s = -r := h'.rounded.unique h.rounded.neg
  have hsame : a.negate.isInt = a.isInt := @UnaryRule.isInt_apply .negate a
  rcases le_or_gt d 0 with hwhole | hplaces
  · rw [h.whole hwhole, h'.whole hwhole, Rat.num_neg_eq_neg_num]
    rfl
  · cases hint : a.isInt with
    | true => rw [h.kept hplaces hint, h'.kept hplaces (hsame.trans hint)]
    | false =>
        rw [h.split hplaces hint, h'.split hplaces (hsame.trans hint)]
        rfl

/-- A rounded number stays as it is. -/
theorem again {y : Quantity} {s : ℚ} (h : RoundsTo d a v z r) (h' : RoundsTo d z r y s) :
    y = z := by
  obtain rfl : s = r := h'.rounded.unique h.rounded.self
  rcases le_or_gt d 0 with hwhole | hplaces
  · rw [h.whole hwhole, h'.whole hwhole]
  · cases hint : z.isInt with
    | true => exact h'.kept hplaces hint
    | false =>
        have hkind : a.isInt = false := by
          by_contra hwhole
          rw [Bool.not_eq_false] at hwhole
          rw [h.kept hplaces hwhole, hwhole] at hint
          cases hint
        rw [h'.split hplaces hint, h.split hplaces hkind]

end RoundsTo

/-- **Rounding is exact: to the nearest multiple, a half going away from zero.**  So it is odd,
keeps the order and leaves alone what it has rounded. -/
theorem round_isRounded (hd : d.natAbs ≤ maxRoundDigits) :
    (∀ {a v}, RoundsFrom d a v → ∃ z r, RoundsTo d a v z r) ∧
      (∀ {a v z}, RoundsFrom d a v → a.round (int d) = .ok z →
        a.negate.round (int d) = .ok z.negate) ∧
      (∀ {a b y z v w}, RoundsFrom d a v → RoundsFrom d b w → v ≤ w →
        a.round (int d) = .ok y → b.round (int d) = .ok z →
        ∃ r s, y.rational? = some r ∧ z.rational? = some s ∧ r ≤ s) ∧
      ∀ {a v z}, RoundsFrom d a v → a.round (int d) = .ok z → z.round (int d) = .ok z := by
  -- The outcome that is given is the one that there is.
  have hgiven {a z : Quantity} {v : ℚ} (h : RoundsFrom d a v) (hz : a.round (int d) = .ok z) :
      ∃ r, RoundsTo d a v z r := by
    obtain ⟨y, r, hy⟩ := h.exists_roundsTo hd
    obtain rfl : z = y := Except.ok.inj (hz.symm.trans hy.computed)
    exact ⟨r, hy⟩
  refine ⟨fun h => h.exists_roundsTo hd, ?odd, ?monotone, ?idempotent⟩
  case odd =>
    intro a v z h hz
    obtain ⟨r, hz⟩ := hgiven h hz
    obtain ⟨y, s, hy⟩ := h.negate.exists_roundsTo hd
    rw [hy.computed, hz.negate hy]
  case monotone =>
    intro a b y z v w ha hb hle hy hz
    obtain ⟨r, hy⟩ := hgiven ha hy
    obtain ⟨s, hz⟩ := hgiven hb hz
    exact ⟨r, s, hy.value, hz.value, hy.rounded.mono hz.rounded hle⟩
  case idempotent =>
    intro a v z h hz
    obtain ⟨r, hz⟩ := hgiven h hz
    obtain ⟨y, s, hy⟩ := hz.roundsFrom.exists_roundsTo hd
    rw [hy.computed, hz.again hy]

/-- A half goes away from zero on either side of it, and behind the point. -/
theorem round_isRounded_halves :
    (∃ x : Float, (float x).rational? = some (-5 / 2) ∧
        (float x).round (int 0) = .ok (int (-3)) ∧ (float x).negate.round (int 0) = .ok (int 3)) ∧
      (ratio (1 / 20)).round (int 1) = .ok (ratio (1 / 10)) ∧
      (ratio (1 / 10)).round (int 1) = .ok (ratio (1 / 10)) := by
  constructor
  · have hhalves : RoundsFrom 0 (float (Float.ofBits 0xC004000000000000)) (-5 / 2) :=
      ⟨by decide +kernel, fun h => absurd h (lt_irrefl 0)⟩
    obtain ⟨hrounded, hodd, -⟩ := round_isRounded (d := 0) (by decide)
    obtain ⟨z, r, hz⟩ := hrounded hhalves
    obtain rfl : r = -3 :=
      (hz.rounded.unique (roundHalfAway_isRounded _ _)).trans (by decide +kernel)
    obtain rfl : z = int (-3) := hz.whole le_rfl
    exact ⟨_, hhalves.value, hz.computed, hodd hhalves hz.computed⟩
  · have htwentieth : RoundsFrom 1 (ratio (1 / 20)) (1 / 20) := ⟨rfl, fun _ => rfl⟩
    obtain ⟨hrounded, -, -, hagain⟩ := round_isRounded (d := 1) (by decide)
    obtain ⟨z, r, hz⟩ := hrounded htwentieth
    obtain rfl : r = 1 / 10 :=
      (hz.rounded.unique (roundHalfAway_isRounded _ _)).trans (by decide +kernel)
    obtain rfl : z = ratio (1 / 10) := hz.split one_pos rfl
    exact ⟨hz.computed, hagain htwentieth hz.computed⟩

end Quantity
end Reckon
