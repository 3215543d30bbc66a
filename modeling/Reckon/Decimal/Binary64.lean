/-
The exact value of a double, and the double nearest to an exact value.

A finite double is a whole significand times a power of two.  `parts` reads both off the
bits and `nearest?` goes back: it scales the value until its whole part has 53 digits of
base two, or fewer near zero, rounds that part to nearest with ties to even, and packs the
bits.  Everything in between is arithmetic on whole numbers, so mixing whole numbers,
ratios and doubles never rounds twice.

Powers are written `Nat.pow`, because what the sign `^` stands for depends on which
libraries are in scope.
-/
namespace Reckon.Binary64

/-! ### Rounding a quotient -/

/-- `num / den` rounded to the nearest whole number, a half to the even neighbour. -/
def roundHalfEven (num den : Nat) : Nat :=
  let quotient := num / den
  let rest := num % den
  if den < 2 * rest || (den == 2 * rest && quotient % 2 == 1) then quotient + 1 else quotient

/-- Numerator and denominator of `num / den` times `base ^ e`. -/
def scale (base num den : Nat) (e : Int) : Nat × Nat :=
  if 0 ≤ e then (num * Nat.pow base e.toNat, den) else (num, den * Nat.pow base (-e).toNat)

/-- The exponent of the greatest power of two that is at most `num / den`, both positive. -/
def floorLog2 (num den : Nat) : Int :=
  let guess : Int := (num.log2 : Int) - (den.log2 : Int)
  let (n, d) := scale 2 num den (-guess)
  if d ≤ n then guess else guess - 1

/-! ### Reading the bits -/

/-- A finite double: its sign, and its size as `significand * 2 ^ exponent`. -/
structure Parts where
  negative : Bool
  significand : Nat
  exponent : Int

/-- The least exponent of two that a double can have. -/
def leastExponent : Int := -1074

/-- The parts of a finite double. -/
def parts (x : Float) : Parts :=
  let bits := x.toBits.toNat
  let fraction := bits % Nat.pow 2 52
  let biased : Nat := bits / Nat.pow 2 52 % Nat.pow 2 11
  let negative := bits / Nat.pow 2 63 == 1
  if biased == 0 then ⟨negative, fraction, leastExponent⟩
  else ⟨negative, Nat.pow 2 52 + fraction, (biased : Int) - 1 + leastExponent⟩

/-- The exact value of the parts. -/
def Parts.value (p : Parts) : Rat :=
  let (num, den) := scale 2 p.significand 1 p.exponent
  mkRat (if p.negative then -(num : Int) else num) den

/-- The exact value of a finite double. -/
def value (x : Float) : Rat := (parts x).value

/-- Whether the sign bit is set, also for zero. -/
def isNegative (x : Float) : Bool := x.toBits.toNat / Nat.pow 2 63 == 1

/-! ### Packing the bits -/

/-- The infinite double of the given sign. -/
def infinity (negative : Bool) : Float := if negative then -(1.0 / 0.0) else 1.0 / 0.0

/-- The double nearest to `num / den`, ties to even; `none` when it would be infinite. -/
def nearest? (negative : Bool) (num den : Nat) : Option Float :=
  let sign : Nat := if negative then Nat.pow 2 63 else 0
  if num == 0 then some (Float.ofBits (UInt64.ofNat sign))
  else
    let exponent := max (floorLog2 num den - 52) leastExponent
    let (n, d) := scale 2 num den (-exponent)
    let bits := (exponent - leastExponent).toNat * Nat.pow 2 52 + roundHalfEven n d
    if bits < 2047 * Nat.pow 2 52 then some (Float.ofBits (UInt64.ofNat (sign + bits))) else none

/-- The double nearest to a ratio. -/
def ofRat? (r : Rat) : Option Float := nearest? (r.num < 0) r.num.natAbs r.den

/-- The double nearest to a whole number. -/
def ofInt? (i : Int) : Option Float := nearest? (i < 0) i.natAbs 1

/-- The double nearest to `digits * 10 ^ exponent`, infinite when that is out of range.  Exponents
that lie far outside the range are not computed with: no digit of theirs would matter. -/
def ofDecimal (negative : Bool) (digits : Nat) (exponent : Int) : Float :=
  let length : Int := (Nat.toDigits 10 digits).length
  if digits == 0 || length + exponent < -400 then
    Float.ofBits (UInt64.ofNat (if negative then Nat.pow 2 63 else 0))
  else if 400 < length + exponent then infinity negative
  else
    let (num, den) := scale 10 digits 1 exponent
    (nearest? negative num den).getD (infinity negative)

end Reckon.Binary64
