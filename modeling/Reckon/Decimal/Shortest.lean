/-
The decimal that a double is shown by.

Many decimals round to the same double.  The shortest of them is found by trying one
digit, two digits and so on: on each grid only the two neighbours of the exact value need
a look, because a grid point that rounds to the double lies between one of them and the
value.  Of two hits the nearer is taken.  `significant` is the other choice, a given number
of digits of the exact value.
-/
import Reckon.Decimal.Binary64

namespace Reckon

/-- The number `digits * 10 ^ exponent`. -/
structure Decimal where
  digits : Nat
  exponent : Int
deriving DecidableEq

namespace Decimal

open Binary64

/-- The exponent of the greatest power of ten that is at most `num / den`, both positive. -/
def floorLog10 (num den : Nat) : Int :=
  let guess := (floorLog2 num den * 30103) / 100000
  let reaches (e : Int) : Bool :=
    let (n, d) := scale 10 num den (-e)
    d ≤ n
  if reaches (guess + 1) then guess + 1 else if reaches guess then guess else guess - 1

/-- Drops zeros at the end of the digits, at most `fuel` of them. -/
def dropZeros : Nat → Decimal → Decimal
  | 0, d => d
  | fuel + 1, d =>
    if d.digits != 0 && d.digits % 10 == 0 then dropZeros fuel ⟨d.digits / 10, d.exponent + 1⟩
    else d

/-! ### Fewest digits -/

/-- The numbers that round to one double, as fractions over a common denominator: the value
itself and both ends, which belong to the interval when `closed` says so. -/
structure Interval where
  low : Nat
  value : Nat
  high : Nat
  den : Nat
  closed : Bool

/-- The interval around a positive double.  Below a power of two the neighbours are closer. -/
def Interval.around (p : Parts) : Interval :=
  let lowGap := if p.significand == Nat.pow 2 52 && leastExponent < p.exponent then 1 else 2
  let (unit, den) := scale 2 1 1 (p.exponent - 2)
  { low := (4 * p.significand - lowGap) * unit
    value := 4 * p.significand * unit
    high := (4 * p.significand + 2) * unit
    den := den
    closed := p.significand % 2 == 0 }

/-- The multiple of `10 ^ e` nearest to the value that still lies in the interval. -/
def Interval.onGrid? (i : Interval) (e : Int) : Option Decimal :=
  -- The grid point `d` is `d * step / unit`.
  let (step, unit) := scale 10 1 1 e
  let inside (d : Nat) : Bool :=
    if i.closed then i.low * unit ≤ d * step * i.den && d * step * i.den ≤ i.high * unit
    else i.low * unit < d * step * i.den && d * step * i.den < i.high * unit
  let below := i.value * unit / (step * i.den)
  let nearer := roundHalfEven (i.value * unit) (step * i.den)
  let other := if nearer == below then below + 1 else below
  if inside nearer then some ⟨nearer, e⟩
  else if inside other then some ⟨other, e⟩
  else none

/-- The shortest decimal that rounds to a positive double; 17 digits always suffice. -/
def shortestOf (p : Parts) : Decimal :=
  let i := Interval.around p
  let lead := floorLog10 i.value i.den
  let found := (List.range 17).findSome? fun (n : Nat) => i.onGrid? (lead - n)
  dropZeros 400 (found.getD ⟨p.significand, p.exponent⟩)

/-- The shortest decimal that reads back as the size of a finite double. -/
def shortest (x : Float) : Decimal :=
  let p := parts x
  if p.significand == 0 then ⟨0, 0⟩ else shortestOf p

/-! ### A given number of digits -/

/-- The size of a finite double to `count` digits of its exact value, a half to the even digit. -/
def significant (count : Nat) (x : Float) : Decimal :=
  let p := parts x
  if p.significand == 0 then ⟨0, 0⟩
  else
    let (num, den) := scale 2 p.significand 1 p.exponent
    let exponent := floorLog10 num den - count + 1
    let (n, d) := scale 10 num den (-exponent)
    let digits := roundHalfEven n d
    if digits == Nat.pow 10 count then ⟨Nat.pow 10 (count - 1), exponent + 1⟩ else ⟨digits, exponent⟩

end Decimal
end Reckon
