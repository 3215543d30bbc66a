/-
How decimals and doubles are written.

Positional notation puts the point where it belongs, with zeros on either side as far as
needed; scientific notation keeps one digit before the point.  A double is shown by its
shortest decimal, positional as long as the point stands at most 16 places behind and fewer
than four places ahead of the first digit.
-/
import Reckon.Text
import Reckon.Decimal.Shortest

namespace Reckon

namespace Decimal

/-- The digits, most significant first. -/
def figures (d : Decimal) : Text := Text.ofNat d.digits

/-- How many places the point stands behind the first digit. -/
def point (d : Decimal) : Int := d.figures.length + d.exponent

/-- Digits with the point in its place and no exponent; always with a point and a digit on both
sides of it. -/
def positional (d : Decimal) : Text :=
  if 0 ≤ d.exponent then d.figures ++ List.replicate d.exponent.toNat '0' ++ ['.', '0']
  else if 0 < d.point then
    d.figures.take d.point.toNat ++ '.' :: d.figures.drop d.point.toNat
  else '0' :: '.' :: (List.replicate (-d.point).toNat '0' ++ d.figures)

/-- One digit, the others behind a point, and the exponent with its sign and at least two
digits. -/
def scientificText (figures : Text) (e : Int) : Text :=
  let mantissa := match figures with
    | c :: d :: rest => c :: '.' :: d :: rest
    | short => short
  let exponent := Text.ofNat e.natAbs
  mantissa ++ ['e', if e < 0 then '-' else '+'] ++
    (if exponent.length < 2 then '0' :: exponent else exponent)

/-- The decimal in scientific notation. -/
def scientific (d : Decimal) : Text := scientificText d.figures (d.point - 1)

end Decimal

namespace Binary64

/-- A text with a minus sign when the double has one. -/
def signed (x : Float) (s : Text) : Text := if isNegative x then '-' :: s else s

/-- The text of a double that is not finite. -/
def nonFiniteText (x : Float) : Text :=
  if x.isNaN then "nan".toList else signed x "inf".toList

/-- The text that a double is shown by. -/
def display (x : Float) : Text :=
  if x.isFinite then
    let d := Decimal.shortest x
    signed x (if -4 < d.point ∧ d.point ≤ 16 then d.positional else d.scientific)
  else nonFiniteText x

/-- A double in scientific notation with `count` digits of its exact value. -/
def displayDigits (count : Nat) (x : Float) : Text :=
  if !x.isFinite then nonFiniteText x
  else
    let d := Decimal.significant count x
    signed x (if d.digits == 0 then Decimal.scientificText (List.replicate count '0') 0
      else d.scientific)

end Binary64
end Reckon
