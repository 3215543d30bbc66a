/-
How variables are written in an equation.

Either a variable is a plain name, or it stands between two delimiters and may then hold
any other character.  The delimiters may be one and the same character.
-/
import Reckon.Issue

namespace Reckon

/-- A way to write variables.  A plain pattern keeps the delimiters it was described with, although
it does not use them. -/
inductive Pattern
  | plain (opening closing : Text)
  | escaped (opening closing : Char)
deriving DecidableEq

namespace Pattern

/-! ### The standard patterns -/

def brackets : Pattern := escaped '[' ']'
def braces : Pattern := escaped '\x7b' '\x7d'
def pipes : Pattern := escaped '|' '|'
def none : Pattern := plain [] []

/-- Lower case as far as names of patterns are concerned: the letters of the basic range, and the
sign for kelvin, which is a capital `k`. -/
def lower (c : Char) : Char := if c == '\u212a' then 'k' else c.toLower

/-- The standard pattern of a name, in whatever case it is written. -/
def named? (name : Text) : Except SettingFault Pattern :=
  let key := String.ofList (name.map lower)
  if key == "brackets" then .ok brackets
  else if key == "braces" then .ok braces
  else if key == "pipes" then .ok pipes
  else if key == "none" then .ok none
  else .error (.unknownPattern name)

/-- The pattern of a description; escaping takes two delimiters of one character each. -/
def build (isEscaped : Bool) (opening closing : Text) : Except Issue Pattern :=
  if isEscaped then
    match opening, closing with
    | [o], [c] => .ok (escaped o c)
    | _, _ => .error .longDelimiters
  else .ok (plain opening closing)

/-! ### What a pattern means -/

/-- Whether names stand between delimiters. -/
def isEscaped : Pattern → Bool
  | plain _ _ => false
  | escaped _ _ => true

/-- The text of the opening delimiter. -/
def opening : Pattern → Text
  | plain o _ => o
  | escaped o _ => [o]

/-- The text of the closing delimiter. -/
def closing : Pattern → Text
  | plain _ c => c
  | escaped _ c => [c]

/-- Whether one character both opens and closes a variable. -/
def sameDelimiters : Pattern → Bool
  | plain _ _ => false
  | escaped o c => o == c

/-- The characters that delimit variables, each once and in order. -/
def delimiters : Pattern → List Char
  | plain _ _ => []
  | escaped o c => if o == c then [o] else if o < c then [o, c] else [c, o]

/-- Whether a character delimits variables. -/
def delimits (p : Pattern) (c : Char) : Bool :=
  match p with
  | plain _ _ => false
  | escaped opening closing => c == opening || c == closing

/-- A name as the pattern writes it. -/
def wrap (p : Pattern) (name : Text) : Text :=
  match p with
  | plain _ _ => name
  | escaped o c => o :: name ++ [c]

end Pattern
end Reckon
