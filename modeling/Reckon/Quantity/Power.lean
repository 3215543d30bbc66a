/-
Powers.

A whole number raised to a whole exponent that is not negative stays whole, unless an
estimate of its size in binary digits says that it would not fit; such a power is left to the
doubles, which have no room for it either.  A ratio raised to a whole exponent stays a ratio.
All other powers are powers of doubles, where zero, the infinities, negative bases and results
out of range need a rule each.  A negative base has powers that are complex numbers.
-/
import Reckon.Value

namespace Reckon.Quantity

/-! ### Doubles -/

/-- Whether a double is a whole number. -/
def isWhole (x : Float) : Bool := x.isFinite && (Binary64.value x).den == 1

/-- Whether a double is an odd whole number. -/
def isOdd (x : Float) : Bool := isWhole x && (Binary64.value x).num % 2 == 1

/-- A power of doubles where one of them is not finite. -/
def nonFinitePower (x y : Float) : Float :=
  if x.isNaN then x
  else if y.isNaN then if x == 1 then 1 else y
  else if !y.isFinite then
    if x.abs == 1 then 1
    else if decide (0 < y) == decide (1 < x.abs) then y.abs
    else 0
  else if 0 < y then if isOdd y then x else x.abs
  else if isOdd y && Binary64.isNegative x then -0.0
  else 0

/-- The complex number of the given size whose angle is that of `x`, taken `y` times. -/
def turned (size x y : Float) : Value :=
  let angle := Float.atan2 0 x * y
  .complex (size * angle.cos) (size * angle.sin)

/-- A power of doubles.  It is complex if the base is negative and the exponent is not whole; its size
has to be finite in any case. -/
def floatPower (x y : Float) : Except Raised Value :=
  let real (z : Float) : Except Raised Value := .ok (.number (float z))
  if y == 0 then real 1
  else if !(x.isFinite && y.isFinite) then real (nonFinitePower x y)
  else if x == 0 then
    if y < 0 then .error .divisionByZero else real (if isOdd y then x else 0)
  else
    let size := x.abs.pow y
    if !size.isFinite then .error .overflow
    else if x < 0 then
      if !isWhole y then .ok (turned size x y) else real (if isOdd y then -size else size)
    else real size

/-! ### Whole numbers and ratios -/

/-- The logarithm to base two of a positive whole number, whose double may be out of range. -/
def log2Estimate (n : Nat) : Float :=
  match Binary64.nearest? false n 1 with
  | some x => x.log2
  | none =>
    let bits := bitLength n
    let lead := (Binary64.nearest? false n (Nat.pow 2 bits)).getD 1
    if lead == 1 then (0.5 : Float).log2 + (bits + 1).toFloat else lead.log2 + bits.toFloat

/-- Whether the estimated size of `base ^ exponent` is over the limit. -/
def powerOutgrows (base exponent : Nat) : Bool :=
  1 < base && match Binary64.nearest? false exponent 1 with
    | some e => maxBits.toFloat < e * log2Estimate base
    | none => true

/-- The power of a whole number; the exponent of zero, one and minus one may be of any size. -/
def intPower (base : Int) (exponent : Nat) : Int :=
  if base.natAbs ≤ 1 then
    if exponent == 0 then 1 else if base == -1 && exponent % 2 == 0 then 1 else base
  else Int.pow base exponent

/-- The power of a ratio. -/
def ratioPower (base : Rat) (exponent : Int) : Except Raised Value :=
  if base.num == 0 && exponent < 0 then .error .divisionByZero
  else
    let positive := if exponent < 0 then base⁻¹ else base
    let e := exponent.natAbs
    .ok (.number (ratio (mkRat (intPower positive.num e) (intPower positive.den e).natAbs)))

/-- The power of two numbers of any kind. -/
def power (a b : Quantity) : Except Raised Value :=
  let asFloats : Except Raised Value := do floatPower (← a.toFloat) (← b.toFloat)
  match a, b with
  | int m, int n =>
    if n < 0 || powerOutgrows m.natAbs n.natAbs then asFloats
    else .ok (.number (int (intPower m n.natAbs)))
  | int m, ratio s =>
    if s.den != 1 then asFloats
    else if s.num < 0 then ratioPower m s.num
    else .ok (.number (int (intPower m s.num.natAbs)))
  | ratio r, int n => ratioPower r n
  | ratio r, ratio s => if s.den == 1 then ratioPower r s.num else asFloats
  | _, _ => asFloats

end Reckon.Quantity
