/-
How results and failures reach the caller.

The same computation runs under every error behavior.  The behavior only decides whether a
failure is raised on the spot or handed over as an outcome that can be asked for its value
later.
-/
import Reckon.Parse
import Reckon.Eval
import Reckon.Store

namespace Reckon

/-- What comes back from an operation that can fail. -/
inductive Delivery (α : Type)
  | returned (outcome : Except Fault α)
  | raised (fault : Fault)

namespace ErrorBehavior

/-- Hands over an outcome under the behavior.  What the library would not raise itself is raised under
any behavior. -/
def deliver {α : Type} (b : ErrorBehavior) (outcome : Except Fault α) : Delivery α :=
  match b, outcome with
  | .raise, .error fault => .raised fault
  | .result, .error fault => if fault.isOwn then .returned outcome else .raised fault
  | _, .ok _ => .returned outcome

end ErrorBehavior

namespace Equation

/-- The value of an equation. -/
def evaluate (e : Equation) (get : Text → Option Value) : Except Fault Quantity :=
  (e.root.eval e.options get).mapError Fault.eval

/-- Reads an equation under the error behavior of the options. -/
def deliverParse (o : Options) (source : Text) : Delivery Equation :=
  o.errorBehavior.deliver (parse o source)

/-- Evaluates an equation under the error behavior of the options it was read with. -/
def deliverValue (e : Equation) (get : Text → Option Value) : Delivery Quantity :=
  e.options.errorBehavior.deliver (e.evaluate get)

end Equation

/-! ### Asking an outcome -/

namespace Outcome

/-- The value of an outcome, or a substitute for it. -/
def orElse {ε α : Type} (outcome : Except ε α) (default : α) : α :=
  match outcome with
  | .ok a => a
  | .error _ => default

/-- An outcome as it is listed; `message` says a failure in words. -/
def display {ε : Type} (message : ε → Text) : Except ε Value → Text
  | .ok v => "Result.success(".toList ++ v.display ++ [')']
  | .error e => "Result.failure(".toList ++ (message e).quoted ++ [')']

end Outcome

/-- Why a value cannot be made a double. -/
inductive ConversionFault
  | tooLarge
  | notNumeral (text : Text)
  | wrongKind
deriving DecidableEq

/-- The fault in words, if it has any. -/
def ConversionFault.message? : ConversionFault → Option Text
  | notNumeral text => some ("could not convert string to float: ".toList ++ text.quoted)
  | tooLarge | wrongKind => none

/-- The double that a value stands for. -/
def Value.toFloat : Value → Except ConversionFault Float
  | .number q => q.toFloat.mapError fun _ => .tooLarge
  | .truth b => .ok (if b then 1 else 0)
  | .text s => match Numeral.readFloat? s with
    | some x => .ok x
    | none => .error (.notNumeral s)
  | .object _ _ (some n) => (Quantity.int n).toFloat.mapError fun _ => .tooLarge
  | _ => .error .wrongKind

end Reckon
