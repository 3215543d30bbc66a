/-
The functions that equations can call.

Roots, logarithms and the trigonometric functions work on doubles.  Where one of them has
no value the result would be not a number, or infinite for a finite argument; both are
failures.  Logarithms of whole numbers also reach beyond the range of doubles.
-/
import Reckon.Quantity.Arithmetic
import Reckon.Quantity.Power
import Reckon.Quantity.Rounding

namespace Reckon

/-- The functions there are. -/
inductive Builtin
  | abs | sign | sqrt | exp | ln | log | log10 | sin | cos | tan | asin | acos | atan | atan2
  | floor | ceil | round | min | max
deriving DecidableEq

namespace Quantity

/-! ### Functions of doubles -/

/-- Applies a function of doubles.  A finite argument with an infinite result is an overflow for a
function that grows without bound everywhere, else a point where the function is undefined. -/
def viaFloat (f : Float → Float) (grows : Bool) (a : Quantity) : Except Raised Quantity := do
  let x ← a.toFloat
  let y := f x
  if y.isNaN && !x.isNaN then throw (.domain .undefined)
  if y.isInf && x.isFinite then throw (if grows then .overflow else .domain .undefined)
  pure (float y)

/-- Applies a logarithm.  A whole number beyond the range of doubles is split into a factor below
one and a power of two. -/
def viaLog (f : Float → Float) (a : Quantity) : Except Raised Quantity :=
  match a with
  | int n =>
    if n ≤ 0 then .error (.domain .undefined)
    else match Binary64.ofInt? n with
      | some x => .ok (float (f x))
      | none =>
        let bits := bitLength n.natAbs
        let lead := (Binary64.nearest? false n.natAbs (Nat.pow 2 bits)).getD 1
        .ok (float (if lead == 1 then f 0.5 + f 2 * (bits + 1).toFloat
          else f lead + f 2 * bits.toFloat))
  | _ => viaFloat f false a

/-- The logarithm to a given base. -/
def logTo (base a : Quantity) : Except Raised Quantity := do
  let numerator ← viaLog Float.log a
  let denominator ← viaLog Float.log base
  divide numerator denominator

/-- The angle of the point with the coordinates `b` and `a`. -/
def angle (a b : Quantity) : Except Raised Quantity := do
  pure (float (Float.atan2 (← a.toFloat) (← b.toFloat)))

/-! ### Extremes -/

/-- The first of the numbers that no other one beats. -/
def extreme (beats : Quantity → Quantity → Bool) (first : Quantity) (rest : List Quantity) :
    Quantity :=
  rest.foldl (fun best a => if beats a best then a else best) first

/-- An extreme of at least two arguments; a single one would have to be a collection. -/
def extremeOf (signature : Signature) (beats : Quantity → Quantity → Bool) :
    List Quantity → Except Raised Quantity
  | [] => .error (.misuse (.argumentCount signature 0))
  | [a] => .error (.misuse (.notIterable a.typeName))
  | a :: rest => .ok (extreme beats a rest)

end Quantity

namespace Builtin

open Quantity

/-- The name under which a function is known. -/
def name : Builtin → Text
  | abs => "abs".toList
  | sign => "sign".toList
  | sqrt => "sqrt".toList
  | exp => "exp".toList
  | ln => "ln".toList
  | log => "log".toList
  | log10 => "log10".toList
  | sin => "sin".toList
  | cos => "cos".toList
  | tan => "tan".toList
  | asin => "asin".toList
  | acos => "acos".toList
  | atan => "atan".toList
  | atan2 => "atan2".toList
  | floor => "floor".toList
  | ceil => "ceil".toList
  | round => "round".toList
  | min => "min".toList
  | max => "max".toList

/-- What a function is called by, and the arguments it takes. -/
def signature : Builtin → Signature
  | abs => ⟨abs.name, .one⟩
  | sign => ⟨sign.name, .named ["value".toList] 0⟩
  | ln => ⟨"math.log".toList, .between 1 2⟩
  | log => ⟨log.name, .named ["value".toList] 1⟩
  | atan2 => ⟨atan2.name, .exactly 2⟩
  | round => ⟨"round_half_up".toList, .named ["value".toList] 1⟩
  | min => ⟨min.name, .atLeast 1⟩
  | max => ⟨max.name, .atLeast 1⟩
  | f => ⟨"math.".toList ++ f.name, .one⟩

/-- The value of a function at its arguments. -/
def apply (f : Builtin) (args : List Quantity) : Except Raised Quantity :=
  match f, args with
  | abs, [a] => .ok a.absolute
  | sign, [a] => .ok a.sign
  | sqrt, [a] => viaFloat Float.sqrt false a
  | exp, [a] => viaFloat Float.exp true a
  | ln, [a] => viaLog Float.log a
  | ln, [a, base] => logTo base a
  | log, [a] => viaLog Float.log a
  | log, [a, base] => logTo base a
  | log10, [a] => viaLog Float.log10 a
  | sin, [a] => viaFloat Float.sin false a
  | cos, [a] => viaFloat Float.cos false a
  | tan, [a] => viaFloat Float.tan false a
  | asin, [a] => viaFloat Float.asin false a
  | acos, [a] => viaFloat Float.acos false a
  | atan, [a] => viaFloat Float.atan false a
  | atan2, [a, b] => angle a b
  | floor, [a] => a.floor
  | ceil, [a] => a.ceil
  | round, [a] => a.round (.int 0)
  | round, [a, digits] => a.round digits
  | min, args => extremeOf f.signature less args
  | max, args => extremeOf f.signature (fun a b => less b a) args
  | _, _ => .error (.misuse (.argumentCount f.signature args.length))

end Builtin
end Reckon
