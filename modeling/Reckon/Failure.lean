/-
What can go wrong in a computation.

A rule that is called comes back with a value or raises an exception.  Those by which the
mathematics fails, and those of calls that cannot be made, become failures of the
computation; any other exception passes through it.  A value that comes back can be no
number, or lie beyond the limits: no value may grow without bound, so whole numbers,
numerators and denominators are limited to `maxBits` binary digits and doubles must be
finite.  `Failure` lists all the ways in which a computation can end without a value inside
these limits.
-/
import Reckon.Excerpt
import Reckon.Text.Quoted

namespace Reckon

/-- Binary digits that a value may have at most. -/
def maxBits : Nat := 4096

/-- The digits to round to lie between this bound and its negative. -/
def maxRoundDigits : Nat := 308

/-! ### Arguments that do not fit -/

/-- How the arguments of a rule are declared; a call with another number of them is turned down in
words that depend on it. -/
inductive Parameters
  /-- A single argument. -/
  | one
  /-- That many arguments. -/
  | exactly (count : Nat)
  /-- No fewer arguments than that. -/
  | atLeast (count : Nat)
  /-- A number of arguments between two bounds. -/
  | between (least most : Nat)
  /-- Arguments with names, and some more that can be left out. -/
  | named (names : List Text) (optional : Nat)
deriving DecidableEq

/-- What a rule is called by, and the arguments it takes. -/
structure Signature where
  name : Text
  parameters : Parameters
deriving DecidableEq

namespace Signature

/-- Names that are listed as missing. -/
def listed : List Text → Text
  | [] => []
  | [name] => name.quoted
  | [name, last] => name.quoted ++ " and ".toList ++ last.quoted
  | names => Text.join ", ".toList (names.dropLast.map Text.quoted) ++ ", and ".toList ++
      (names.getLastD []).quoted

/-- A count with the word for what is counted. -/
def counted (n : Nat) (word : String) : Text :=
  Text.ofNat n ++ ' ' :: word.toList ++ (if n == 1 then [] else ['s'])

/-- What is said of a call with `got` arguments, which the rule does not take. -/
def refusal (s : Signature) (got : Nat) : Text :=
  match s.parameters with
  | .one => s.name ++ "() takes exactly one argument (".toList ++ Text.ofNat got ++ " given)".toList
  | .exactly count =>
    s.name ++ " expected ".toList ++ counted count "argument" ++ ", got ".toList ++ Text.ofNat got
  | .atLeast count =>
    s.name ++ " expected at least ".toList ++ counted count "argument" ++ ", got ".toList ++
      Text.ofNat got
  | .between least most =>
    s.name ++ " requires ".toList ++ Text.ofNat least ++ " to ".toList ++ Text.ofNat most ++
      " arguments".toList
  | .named names optional =>
    if got < names.length then
      s.name ++ "() missing ".toList ++
        counted (names.length - got) "required positional argument" ++ ": ".toList ++
        listed (names.drop got)
    else
      let taken := if optional == 0 then counted names.length "positional argument"
        else "from ".toList ++ Text.ofNat names.length ++ " to ".toList ++
          counted (names.length + optional) "positional argument"
      s.name ++ "() takes ".toList ++ taken ++ " but ".toList ++ Text.ofNat got ++
        (if got == 1 then " was given" else " were given").toList

end Signature

/-! ### Exceptions -/

/-- Why the mathematics of a rule has no answer. -/
inductive DomainReason
  /-- The function is not defined there. -/
  | undefined
  /-- Rounding to a number of digits outside the accepted range. -/
  | roundingRange
  /-- What is not a number has no whole part. -/
  | wholePartOfNaN
  /-- What is not a number is no ratio. -/
  | ratioOfNaN
  /-- A reason that a rule gives in words of its own. -/
  | stated (text : Text)
deriving DecidableEq

/-- Why a rule cannot be used on the arguments it was given. -/
inductive MisuseReason
  /-- A single argument where a collection is expected. -/
  | notIterable (type : Text)
  /-- The digits to round to are not a whole number. -/
  | roundingDigits
  /-- Another number of arguments than the rule takes. -/
  | argumentCount (signature : Signature) (got : Nat)
  /-- A reason that a rule gives in words of its own. -/
  | stated (text : Text)
deriving DecidableEq

/-- An exception by which a computation fails. -/
inductive Raised
  | divisionByZero
  | overflow
  | domain (reason : DomainReason)
  | misuse (reason : MisuseReason)
deriving DecidableEq

/-- Any other exception: the name of its kind, what it says, the place in a source that it may point
at, and whether it is one of the kinds that this library raises itself. -/
structure Thrown where
  kind : Text
  message : Text
  excerpt? : Option Excerpt
  isOwn : Bool
deriving DecidableEq

/-! ### Failures -/

/-- Why a computation yields no number. -/
inductive Failure
  | divisionByZero
  | overflow
  | domain (reason : DomainReason)
  | complexResult
  | nonFinite
  | integerTooLarge
  | fractionTooLarge
  | wrongType (type : Text)
  | misuse (reason : MisuseReason)
deriving DecidableEq

namespace DomainReason

/-- The reason in words. -/
def message : DomainReason → Text
  | undefined => "math domain error".toList
  | roundingRange =>
    s!"round() digits must be between -{maxRoundDigits} and {maxRoundDigits}".toList
  | wholePartOfNaN => "cannot convert float NaN to integer".toList
  | ratioOfNaN => "cannot convert NaN to integer ratio".toList
  | stated text => text

end DomainReason

namespace MisuseReason

/-- The reason in words. -/
def message : MisuseReason → Text
  | notIterable type => "'".toList ++ type ++ "' object is not iterable".toList
  | roundingDigits => "round() digits must be an integer".toList
  | argumentCount signature got => signature.refusal got
  | stated text => text

end MisuseReason

namespace Failure

/-- The message for a failure at the place that `site` names. -/
def message (site : Text) : Failure → Text
  | divisionByZero => "Division by zero in ".toList ++ site
  | overflow => "Numeric overflow in ".toList ++ site
  | domain reason => "Math domain error in ".toList ++ site ++ ": ".toList ++ reason.message
  | complexResult => "Complex result in ".toList ++ site
  | nonFinite => "Non-finite number in ".toList ++ site
  | integerTooLarge =>
    "Integer too large in ".toList ++ site ++ s!" (over {maxBits} bits)".toList
  | fractionTooLarge =>
    "Fraction too large in ".toList ++ site ++ s!" (over {maxBits} bits)".toList
  | wrongType type => "Unsupported operand type for ".toList ++ site ++ ": ".toList ++ type
  | misuse reason =>
    "Unsupported operand type in ".toList ++ site ++ ": ".toList ++ reason.message

/-- Whether the operands are to blame rather than their values. -/
def isOperandFault : Failure → Bool
  | wrongType _ | misuse _ => true
  | _ => false

end Failure

/-- The failure that an exception is. -/
def Raised.failure : Raised → Failure
  | divisionByZero => .divisionByZero
  | overflow => .overflow
  | domain reason => .domain reason
  | misuse reason => .misuse reason

/-- Whether the operands are to blame for an exception. -/
def Raised.isOperandFault (e : Raised) : Bool := e.failure.isOperandFault

end Reckon
