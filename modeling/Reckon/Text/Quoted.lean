/-
Text in quotes, as messages and listings show it.

The quotes are single, unless the text holds a single quote and no double one.  The quote
in use and the backslash get a backslash before them; line breaks and tabs have their
letter; any other character that cannot be shown is written by its number in two, four or
eight hexadecimal digits, whichever is the first to suffice.
-/
import Reckon.Text
import Reckon.Text.Printable

namespace Reckon.Text

/-- The quote that goes around `s`. -/
def quoteFor (s : Text) : Char :=
  if s.contains '\'' && !s.contains '"' then '"' else '\''

/-- `n` in lower-case hexadecimal, with zeros in front up to `width` digits. -/
def hexadecimal (width n : Nat) : Text :=
  let digits := Nat.toDigits 16 n
  List.replicate (width - digits.length) '0' ++ digits

/-- One character between quotes of the kind `quote`. -/
def escaped (quote c : Char) : Text :=
  if c == quote || c == '\\' then ['\\', c]
  else if c == '\n' then ['\\', 'n']
  else if c == '\r' then ['\\', 'r']
  else if c == '\t' then ['\\', 't']
  else if isPrintable c then [c]
  else if c.toNat < 0x100 then '\\' :: 'x' :: hexadecimal 2 c.toNat
  else if c.toNat < 0x10000 then '\\' :: 'u' :: hexadecimal 4 c.toNat
  else '\\' :: 'U' :: hexadecimal 8 c.toNat

/-- The text in quotes. -/
def quoted (s : Text) : Text :=
  let quote := quoteFor s
  quote :: s.flatMap (escaped quote) ++ [quote]

end Reckon.Text
