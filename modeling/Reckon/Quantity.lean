/-
The numbers that equations compute with.

A quantity is a whole number, a double or an exact ratio.  Whole numbers stay exact as
long as they can, one double in a computation makes the result a double, and ratios only
come in through stored values.  A ratio whose denominator is one is still a ratio.

A number within the limits passes its check; a number that is brought to another kind can
lie beyond the range of doubles.
-/
import Reckon.Failure
import Reckon.Decimal.Binary64

namespace Reckon

/-- A number. -/
inductive Quantity
  | int (n : Int)
  | float (x : Float)
  | ratio (r : Rat)

/-! ### Size -/

/-- How many binary digits `n` has; zero has none. -/
def bitLength (n : Nat) : Nat := if n = 0 then 0 else n.log2 + 1

namespace Quantity

/-- The name of the kind of number. -/
def typeName : Quantity → Text
  | int _ => "int".toList
  | float _ => "float".toList
  | ratio _ => "Fraction".toList

/-- The quantity itself if it is within the limits. -/
def check : Quantity → Except Failure Quantity
  | int n => if bitLength n.natAbs ≤ maxBits then .ok (int n) else .error .integerTooLarge
  | float x => if x.isFinite then .ok (float x) else .error .nonFinite
  | ratio r =>
    if bitLength r.num.natAbs ≤ maxBits ∧ bitLength r.den ≤ maxBits then .ok (ratio r)
    else .error .fractionTooLarge

/-! ### Between the kinds -/

/-- The nearest double; a value beyond the range of doubles overflows. -/
def toFloat : Quantity → Except Raised Float
  | int n => match Binary64.ofInt? n with
    | some x => .ok x
    | none => .error .overflow
  | float x => .ok x
  | ratio r => match Binary64.ofRat? r with
    | some x => .ok x
    | none => .error .overflow

/-- The exact value; `none` for a double that is not finite. -/
def rational? : Quantity → Option Rat
  | int n => some n
  | float x => if x.isFinite then some (Binary64.value x) else none
  | ratio r => some r

/-- Two numbers brought to one kind. -/
inductive Pair
  | ints (a b : Int)
  | floats (a b : Float)
  | ratios (a b : Rat)

/-- Brings two numbers to the kind in which they are combined: doubles if one is a double, else
ratios if one is a ratio. -/
def meet : Quantity → Quantity → Except Raised Pair
  | int a, int b => .ok (.ints a b)
  | int a, ratio b => .ok (.ratios a b)
  | ratio a, int b => .ok (.ratios a b)
  | ratio a, ratio b => .ok (.ratios a b)
  | a, b => do .ok (.floats (← a.toFloat) (← b.toFloat))

/-! ### Order -/

/-- Whether a number is zero. -/
def isZero : Quantity → Bool
  | int n => n == 0
  | float x => x == 0
  | ratio r => r.num == 0

/-- Strict order, exact also between different kinds; false if either is not a number. -/
def less : Quantity → Quantity → Bool
  | float x, float y => x < y
  | a, b => match a.rational?, b.rational? with
    | some x, some y => x < y
    | some _, none => match b with
      | float y => 0 < y
      | _ => false
    | none, some _ => match a with
      | float x => x < 0
      | _ => false
    | none, none => false

/-- Equality as numbers, exact also between different kinds. -/
def same : Quantity → Quantity → Bool
  | float x, float y => x == y
  | a, b => match a.rational?, b.rational? with
    | some x, some y => x == y
    | _, _ => false

end Quantity
end Reckon
