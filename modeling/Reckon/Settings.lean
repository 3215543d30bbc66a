/-
Options from a settings file.

The file is a TOML document whose `equation` table names the options that differ from a
base.  Its keys are looked at in a fixed order and the first one that cannot be used decides
what is wrong with the file; only when all have been read are the options built, and
checked as a whole.  What stands under `equation` need not be a table: a text or an array
without the name of an option sets nothing, and anything else cannot be used.
-/
import Reckon.Options
import Reckon.Toml.Document

namespace Reckon

/-- The options that a settings file changes. -/
structure Settings where
  pattern : Option Pattern
  errorBehavior : Option ErrorBehavior
  operators : Option (List Operator)
  functions : Option (List MathFunction)
  maxDepth : Option Value

namespace Settings

/-! ### Looking up a key -/

/-- Whether a text occurs in another one. -/
def occursIn (part : Text) : Text → Bool
  | [] => part.isEmpty
  | c :: rest => part.isPrefixOf (c :: rest) || occursIn part rest

/-- Whether a value is the given text. -/
def isText (s : Text) : Value → Bool
  | .text t => t == s
  | _ => false

/-- The value of a key.  A text that holds the key and an array that lists it have no value for
it. -/
def lookup (key : Text) : Value → Except SettingFault (Option Value)
  | .record entries => .ok (Toml.find? key entries)
  | .text s => if occursIn key s then .error .wrongKind else .ok none
  | .list items => if items.any (isText key) then .error .wrongKind else .ok none
  | _ => .error .wrongKind

/-! ### Reading the values -/

/-- The pattern that a value names. -/
def readPattern : Value → Except SettingFault Pattern
  | .text name => Pattern.named? name
  | _ => .error .patternNotText

/-- The names that a value lists: the elements of an array, the keys of a table, or the characters
of a text. -/
def readNames : Value → Except SettingFault (List Text)
  | .text s => .ok (s.map fun c => [c])
  | .record entries => .ok (entries.map (·.1))
  | .list items => items.mapM fun v => match v with
    | .text s => .ok s
    | _ => .error .wrongKind
  | _ => .error .wrongKind

/-- What a value under a key stands for, if the key is present. -/
def readKey {α : Type} (table : Value) (key : String) (read : Value → Except SettingFault α) :
    Except SettingFault (Option α) := do
  match ← lookup key.toList table with
  | some v => some <$> read v
  | none => pure none

/-- The settings under `equation`. -/
def ofValue (table : Value) : Except SettingFault Settings := do
  let pattern ← readKey table "variable_pattern" readPattern
  let errorBehavior ← readKey table "error_behavior" ErrorBehavior.ofValue
  let operators ← readKey table "operators" fun v => do Operator.select (← readNames v)
  let functions ← readKey table "functions" fun v => do MathFunction.select (← readNames v)
  let maxDepth ← readKey table "max_depth" pure
  pure ⟨pattern, errorBehavior, operators, functions, maxDepth⟩

/-- The settings of a file. -/
def read (file : Text) : Except SettingFault Settings :=
  match Toml.read file with
  | .error .malformed => .error .unreadable
  | .error (.longInteger digits) => .error (.longInteger digits)
  | .ok table => ofValue ((Toml.find? "equation".toList table).getD (.record []))

/-! ### Using them -/

/-- The names of the options that are changed, sorted. -/
def names (s : Settings) : List Text :=
  (if s.errorBehavior.isSome then ["error_behavior".toList] else []) ++
    (if s.functions.isSome then ["functions".toList] else []) ++
    (if s.maxDepth.isSome then ["max_depth".toList] else []) ++
    (if s.operators.isSome then ["operators".toList] else []) ++
    (if s.pattern.isSome then ["variable_pattern".toList] else [])

/-- The base with the changes made. -/
def applyTo (s : Settings) (base : Options) : Except SettingFault Options :=
  let d := base.draft
  let changed : Draft := { d with
    pattern := s.pattern.getD d.pattern
    operators := s.operators.getD d.operators
    functions := s.functions.getD d.functions
    errorBehavior := (s.errorBehavior.map (·.name)).getD d.errorBehavior
    maxDepth := s.maxDepth.getD d.maxDepth }
  changed.build.mapError .issues

/-- The options that a file makes of a base; without a file the base stays as it is. -/
def load (base : Options) : Option Text → Except SettingFault Options
  | none => .ok base
  | some file => do (← read file).applyTo base

end Settings
end Reckon
