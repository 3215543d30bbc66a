/-
Why an equation has no value.

The text can be malformed, which scanning finds; its tokens can fail to make sense, which
parsing finds; or the mathematics fails when it is evaluated.  Faults of the first two
kinds carry the place in the source that is to blame.  Each fault is a cause, and one
function says it in words.  An exception that a rule raises and that is no failure of the
computation passes through evaluation as it is.
-/
import Reckon.Excerpt
import Reckon.Text.Quoted
import Reckon.Quantity

namespace Reckon

/-! ### Causes -/

/-- What is malformed about the text. -/
inductive ScanCause
  | closingWithoutOpening (closing opening : Char)
  | unmatchedClose
  | unterminatedVariable
  | unclosedParenthesis
deriving DecidableEq

/-- What does not make sense about the tokens. -/
inductive ParseCause
  | emptyEquation
  | tooDeep (limit : Nat)
  | unreadable (text : Text)
  | literalOutOfRange (text : Text)
  | invalidVariable (text : Text)
  | emptyParentheses
  | unexpectedSeparator (text : Text)
  | unknownFunction (name : Text)
  | missingArgument (name : Text)
  | argumentCount (name arity : Text) (got : Nat)
  | missingRightOperand (symbol : Text)
  | unknownOperator (symbol : Text)
  | noPrefixForm (symbol : Text)
  | missingOperand (symbol : Text)
deriving DecidableEq

/-- The part of a computation to which a failure belongs. -/
inductive Site
  | variable (name : Text)
  | operator (symbol : Text)
  | call (function : Text)
  | labelled (label : Text)
deriving DecidableEq

/-- What goes wrong when an equation is evaluated. -/
inductive EvalFault
  | unresolved (name : Text)
  | unknownOperator (symbol : Text)
  | noPrefixForm (symbol : Text)
  | unknownFunction (name : Text)
  | failed (site : Site) (failure : Failure)
  | passed (thrown : Thrown)
deriving DecidableEq

/-- A cause with the place that it concerns. -/
structure Located (κ : Type) where
  cause : κ
  excerpt : Excerpt
deriving DecidableEq

/-- What can be wrong with an equation, in any of the three ways. -/
inductive Fault
  | scan (fault : Located ScanCause)
  | parse (fault : Located ParseCause)
  | eval (fault : EvalFault)
deriving DecidableEq

/-! ### In words -/

/-- The cause in words. -/
def ScanCause.message : ScanCause → Text
  | closingWithoutOpening closing opening =>
    "Closing variable delimiter ".toList ++ Text.quoted [closing] ++ " without opening ".toList ++
      Text.quoted [opening]
  | unmatchedClose => "Closing parenthesis without matching opening parenthesis".toList
  | unterminatedVariable => "Unterminated variable".toList
  | unclosedParenthesis => "Unclosed parenthesis".toList

/-- The cause in words. -/
def ParseCause.message : ParseCause → Text
  | emptyEquation => "Empty equation".toList
  | tooDeep limit => "Equation nested deeper than ".toList ++ Text.ofNat limit ++ " levels".toList
  | unreadable text => "Unable to parse ".toList ++ text.quoted
  | literalOutOfRange text => "Numeric literal out of range: ".toList ++ text.quoted
  | invalidVariable text => "Invalid variable name ".toList ++ text.quoted
  | emptyParentheses => "Empty parentheses".toList
  | unexpectedSeparator text => "Unexpected ',' in ".toList ++ text.quoted
  | unknownFunction name => "Unknown function ".toList ++ name.quoted
  | missingArgument name => "Missing argument in call to ".toList ++ name.quoted
  | argumentCount name arity got =>
    "Function ".toList ++ name.quoted ++ " takes ".toList ++ arity ++ " argument(s), got ".toList ++
      Text.ofNat got
  | missingRightOperand symbol => "Missing right operand for ".toList ++ symbol.quoted
  | unknownOperator symbol => "Unknown operator ".toList ++ symbol.quoted
  | noPrefixForm symbol =>
    "Operator ".toList ++ symbol.quoted ++ " cannot be used as a prefix".toList
  | missingOperand symbol => "Missing operand for ".toList ++ symbol.quoted

/-- The site as messages name it. -/
def Site.text : Site → Text
  | .variable name => "variable ".toList ++ name.quoted
  | operator symbol => symbol.quoted
  | call function => function ++ ['(', ')']
  | labelled label => label

/-- The fault in words. -/
def EvalFault.message : EvalFault → Text
  | unresolved name => "Unresolved variable: ".toList ++ name.quoted
  | unknownOperator symbol => "Unknown operator: ".toList ++ symbol.quoted
  | noPrefixForm symbol => "Operator ".toList ++ symbol.quoted ++ " has no prefix form".toList
  | unknownFunction name => "Unknown function: ".toList ++ name ++ ['(', ')']
  | failed site failure => failure.message site.text
  | passed thrown => thrown.message

namespace Fault

/-- The fault in words. -/
def message : Fault → Text
  | scan fault => fault.cause.message
  | parse fault => fault.cause.message
  | eval fault => fault.message

/-- The place in the source, for faults that have one. -/
def excerpt? : Fault → Option Excerpt
  | scan fault => some fault.excerpt
  | parse fault => some fault.excerpt
  | eval (.passed thrown) => thrown.excerpt?
  | eval _ => none

/-- Whether the fault is of a kind that the library raises itself. -/
def isOwn : Fault → Bool
  | eval (.passed thrown) => thrown.isOwn
  | _ => true

/-- The message, and under it the place in the source. -/
def report (f : Fault) : Text :=
  match f.excerpt? with
  | some e => f.message ++ '\n' :: e.display
  | none => f.message

end Fault
end Reckon
