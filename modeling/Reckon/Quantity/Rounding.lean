/-
Rounding to whole numbers and to decimal places.

`roundHalfAway` works on the exact value: it scales by a power of ten, takes the nearest
whole number with a half going away from zero, and scales back.  To whole places the
result is a whole number; to decimal places it keeps the kind of what was rounded.
-/
import Reckon.Quantity

namespace Reckon.Quantity

/-- The exact value, for rules that need one. -/
def exact (ofNaN : DomainReason) : Quantity → Except Raised Rat
  | int n => .ok n
  | ratio r => .ok r
  | float x =>
    if x.isFinite then .ok (Binary64.value x)
    else if x.isNaN then .error (.domain ofNaN)
    else .error .overflow

/-- The greatest whole number that is at most the number. -/
def floor (a : Quantity) : Except Raised Quantity := do
  pure (int (← a.exact .wholePartOfNaN).floor)

/-- The least whole number that is at least the number. -/
def ceil (a : Quantity) : Except Raised Quantity := do
  pure (int (← a.exact .wholePartOfNaN).ceil)

/-- Ten to a whole exponent. -/
def tenTo (e : Int) : Rat := if 0 ≤ e then mkRat (Nat.pow 10 e.toNat) 1 else mkRat 1 (Nat.pow 10 (-e).toNat)

/-- The nearest whole number, a half going away from zero. -/
def nearestWhole (r : Rat) : Int :=
  let size := ((if r < 0 then -r else r) + mkRat 1 2).floor
  if r < 0 then -size else size

/-- The multiple of a power of ten nearest to `r`, a half going away from zero. -/
def roundHalfAway (r : Rat) (digits : Int) : Rat :=
  (nearestWhole (r * tenTo digits) : Rat) * tenTo (-digits)

/-- Rounds to a number of decimal places, or before the point when `digits` is negative. -/
def round (a digits : Quantity) : Except Raised Quantity := do
  match digits with
  | int d =>
    if maxRoundDigits < d.natAbs then throw (.domain .roundingRange)
    let r := roundHalfAway (← a.exact .ratioOfNaN) d
    if d ≤ 0 then pure (int r.num)
    else match a with
      | int n => pure (int n)
      | ratio _ => pure (ratio r)
      | float _ => pure (float (← (ratio r).toFloat))
  | _ => throw (.misuse .roundingDigits)

end Reckon.Quantity
