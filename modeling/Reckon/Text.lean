/-
Text as the list of its characters.

Everything that reads an equation works on this list, so offsets count characters
and a proof about a scan is an induction on a list.  Strings appear only where text
enters or leaves the program.

Two things are fixed here once for the whole library: which part of a text lies
between two offsets, whatever the offsets are, and which characters are white space.
-/
namespace Reckon

/-- A text, character by character. -/
abbrev Text := List Char

namespace Text

/-! ### Parts of a text -/

/-- The position meant by offset `i` in a sequence of `n` characters.  A negative offset counts
from the end, and one beyond either end means that end. -/
def position (n : Nat) (i : Int) : Nat :=
  if i < 0 then (i + n).toNat else min i.toNat n

/-- The characters from `start` up to but not including `stop`; none when `stop` does not lie
behind `start`. -/
def slice (s : Text) (start stop : Int) : Text :=
  (s.take (position s.length stop)).drop (position s.length start)

/-- An offset inside a text means itself. -/
theorem position_natCast {n i : Nat} (h : i ≤ n) : position n (i : Int) = i := by
  unfold position
  split <;> omega

/-! ### White space -/

/-- White space: the controls that separate lines, fields and records, the blank, and the spaces
and separators beyond the basic range. -/
def isBlank (c : Char) : Bool :=
  let n := c.toNat
  (9 ≤ n && n ≤ 13) || (28 ≤ n && n ≤ 32) || n == 0x85 || n == 0xa0 || n == 0x1680 ||
    (0x2000 ≤ n && n ≤ 0x200a) || n == 0x2028 || n == 0x2029 || n == 0x202f || n == 0x205f ||
    n == 0x3000

/-- Drops the white space at the front. -/
def trimFront (s : Text) : Text := s.dropWhile isBlank

/-- Drops the white space at the back. -/
def trimBack (s : Text) : Text := (s.reverse.dropWhile isBlank).reverse

/-- Drops the white space at both ends. -/
def trim (s : Text) : Text := trimBack (trimFront s)

/-! ### Digits and names of the basic range -/

/-- A digit from `0` to `9`. -/
def isDigit (c : Char) : Bool := '0' ≤ c && c ≤ '9'

/-- The value of a digit. -/
def digitValue (c : Char) : Nat := c.toNat - '0'.toNat

/-- The number that a run of digits writes. -/
def toNat (digits : Text) : Nat := digits.foldl (fun n c => 10 * n + digitValue c) 0

/-- A letter from `a` to `z` in either case, or the underscore. -/
def isNameStart (c : Char) : Bool :=
  ('a' ≤ c && c ≤ 'z') || ('A' ≤ c && c ≤ 'Z') || c == '_'

/-- A plain name: a letter or underscore, then letters, underscores and digits. -/
def isName : Text → Bool
  | [] => false
  | c :: rest => isNameStart c && rest.all fun d => isNameStart d || isDigit d

/-! ### Order and writing -/

/-- Texts in the order of their characters' code points. -/
def le (s t : Text) : Bool := !decide (t < s)

/-- Texts sorted, each once. -/
def sorted (names : List Text) : List Text := names.eraseDups.mergeSort le

/-- Texts with `separator` between them. -/
def join (separator : Text) : List Text → Text
  | [] => []
  | [s] => s
  | s :: t :: rest => s ++ separator ++ join separator (t :: rest)

/-- `n` in decimal digits. -/
def ofNat (n : Nat) : Text := Nat.toDigits 10 n

/-- `i` in decimal digits, with a minus sign when it is negative. -/
def ofInt (i : Int) : Text := if i < 0 then '-' :: ofNat i.natAbs else ofNat i.natAbs

end Text
end Reckon
