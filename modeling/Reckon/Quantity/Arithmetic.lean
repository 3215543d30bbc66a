/-
The rules behind the operators, powers apart.

Sums, differences and products of whole numbers are whole.  So is a quotient that comes
out even; one that does not is the nearest double.  The remainder has the sign of the
divisor.  All of this is exact on whole numbers and ratios.
-/
import Reckon.Quantity

namespace Reckon.Quantity

/-! ### Sums and products -/

/-- The sum. -/
def add (a b : Quantity) : Except Raised Quantity := do
  match ← meet a b with
  | .ints m n => pure (int (m + n))
  | .floats x y => pure (float (x + y))
  | .ratios r s => pure (ratio (r + s))

/-- The difference. -/
def subtract (a b : Quantity) : Except Raised Quantity := do
  match ← meet a b with
  | .ints m n => pure (int (m - n))
  | .floats x y => pure (float (x - y))
  | .ratios r s => pure (ratio (r - s))

/-- The product. -/
def multiply (a b : Quantity) : Except Raised Quantity := do
  match ← meet a b with
  | .ints m n => pure (int (m * n))
  | .floats x y => pure (float (x * y))
  | .ratios r s => pure (ratio (r * s))

/-! ### Quotient and remainder -/

/-- The quotient. -/
def divide (a b : Quantity) : Except Raised Quantity := do
  if b.isZero then throw .divisionByZero
  match ← meet a b with
  | .ints m n =>
    if m % n == 0 then pure (int (m / n))
    else match Binary64.nearest? (decide (m < 0) != decide (n < 0)) m.natAbs n.natAbs with
      | some x => pure (float x)
      | none => throw .overflow
  | .floats x y => if y == 0 then throw .divisionByZero else pure (float (x / y))
  | .ratios r s => pure (ratio (r / s))

/-- The remainder of finite doubles when dividing toward zero; exact, and with the sign of `x`. -/
def truncatedRemainder (x y : Float) : Float :=
  let p := Binary64.parts x
  let q := Binary64.parts y
  let e := min p.exponent q.exponent
  let m := p.significand * Nat.pow 2 (p.exponent - e).toNat
  let n := q.significand * Nat.pow 2 (q.exponent - e).toNat
  let (num, den) := Binary64.scale 2 (m % n) 1 e
  (Binary64.nearest? p.negative num den).getD 0

/-- The remainder of doubles when dividing toward the lower side, `y` not zero. -/
def floorRemainder (x y : Float) : Float :=
  let r :=
    if x.isFinite && y.isFinite then truncatedRemainder x y
    else if x.isFinite && !y.isNaN then x
    else 0.0 / 0.0
  if r == 0 then if Binary64.isNegative y then -0.0 else 0.0
  else if decide (y < 0) != decide (r < 0) then r + y
  else r

/-- The remainder when dividing toward the lower side. -/
def modulo (a b : Quantity) : Except Raised Quantity := do
  if b.isZero then throw .divisionByZero
  match ← meet a b with
  | .ints m n => pure (int (m.fmod n))
  | .floats x y => if y == 0 then throw .divisionByZero else pure (float (floorRemainder x y))
  | .ratios r s => pure (ratio (r - s * (r / s).floor))

/-! ### One operand -/

/-- The number with its sign turned. -/
def negate : Quantity → Quantity
  | int n => int (-n)
  | float x => float (-x)
  | ratio r => ratio (-r)

/-- The size of the number. -/
def absolute : Quantity → Quantity
  | int n => int n.natAbs
  | float x => float x.abs
  | ratio r => ratio (if r < 0 then -r else r)

/-- One, zero or minus one, as the number is positive, neither, or negative. -/
def sign (a : Quantity) : Quantity :=
  if less (int 0) a then int 1 else if less a (int 0) then int (-1) else int 0

end Reckon.Quantity
