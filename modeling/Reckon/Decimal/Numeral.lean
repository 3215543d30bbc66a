/-
Reading numbers.

A numeral is a run of digits, a point with digits on at least one side of it, or either
with an exponent.  Two readers share it.  Inside an equation the exponent has no sign,
since `+` and `-` are operators there.  A number that stands by itself, such as a value
given on the command line, may have signs, white space around it, digits of any script,
single underscores between digits, and may be one of the names for what is not finite.
-/
import Reckon.Text
import Reckon.Text.Alphanumeric
import Reckon.Decimal.Binary64

namespace Reckon

/-- The parts of a numeral; `fraction` is present when a point is written. -/
structure Numeral where
  whole : Text
  fraction : Option Text
  exponent : Option Int
deriving DecidableEq

namespace Numeral

/-! ### Shape -/

/-- Digits with nothing behind them. -/
def isWhole (n : Numeral) : Bool := n.fraction.isNone && n.exponent.isNone

/-- The exponent that a text of digits writes, with a sign in front if `signed` allows it. -/
def exponent? (signed : Bool) (s : Text) : Option Int :=
  let (negative, digits) := match signed, s with
    | true, '-' :: rest => (true, rest)
    | true, '+' :: rest => (false, rest)
    | _, _ => (false, s)
  if digits.isEmpty || !digits.all Text.isDigit then none
  else some (if negative then -(Text.toNat digits : Int) else Text.toNat digits)

/-- Reads a text that is a numeral as a whole. -/
def read? (signed : Bool) (s : Text) : Option Numeral :=
  let whole := s.takeWhile Text.isDigit
  let (fraction, rest) : Option Text × Text := match s.dropWhile Text.isDigit with
    | '.' :: rest => (some (rest.takeWhile Text.isDigit), rest.dropWhile Text.isDigit)
    | rest => (none, rest)
  if whole.isEmpty && (fraction.getD []).isEmpty then none
  else match rest with
    | [] => some ⟨whole, fraction, none⟩
    | c :: rest =>
      if c == 'e' || c == 'E' then
        (exponent? signed rest).map fun e => ⟨whole, fraction, some e⟩
      else none

/-! ### Value -/

/-- The double nearest to the numeral, infinite when it is out of range. -/
def toFloat (negative : Bool) (n : Numeral) : Float :=
  let fraction := n.fraction.getD []
  Binary64.ofDecimal negative (Text.toNat (n.whole ++ fraction))
    (n.exponent.getD 0 - fraction.length)

/-- A whole number with more digits than this is not read, leading zeros counted. -/
def digitLimit : Nat := 4300

/-- The whole number that a run of digits writes, unless it is too long to be read. -/
def whole? (digits : Text) : Option Nat :=
  if digitLimit < digits.length then none else some (Text.toNat digits)

/-! ### Numbers that stand by themselves -/

/-- Brings white space and the decimal digits of all scripts to the basic range. -/
def plain (s : Text) : Text :=
  s.map fun c =>
    if Text.isBlank c then ' '
    else match Text.decimalValue? c with
      | some d => Char.ofNat ('0'.toNat + d)
      | none => c

/-- Removes the underscores, if each of them stands between two digits; `before` tells whether a
digit comes before the text. -/
def ungrouped? (before : Bool) : Text → Option Text
  | [] => some []
  | '_' :: d :: rest =>
    if before && Text.isDigit d then (ungrouped? true rest).map (d :: ·) else none
  | '_' :: [] => none
  | c :: rest => (ungrouped? (Text.isDigit c) rest).map (c :: ·)

/-- Takes the sign off the front: whether it is a minus, and what follows. -/
def unsigned : Text → Bool × Text
  | '-' :: rest => (true, rest)
  | '+' :: rest => (false, rest)
  | s => (false, s)

/-- Reads a whole number. -/
def readInt? (s : Text) : Option Int := do
  let (negative, digits) := unsigned (← ungrouped? false (plain s).trim)
  if digits.isEmpty || !digits.all Text.isDigit then none
  else
    let n ← whole? digits
    pure (if negative then -(n : Int) else n)

/-- Reads a double. -/
def readFloat? (s : Text) : Option Float := do
  let (negative, body) := unsigned (← ungrouped? false (plain s).trim)
  let name := String.ofList (body.map Char.toLower)
  if name == "inf" || name == "infinity" then pure (Binary64.infinity negative)
  else if name == "nan" then pure (0.0 / 0.0)
  else (read? true body).map (toFloat negative)

end Numeral
end Reckon
