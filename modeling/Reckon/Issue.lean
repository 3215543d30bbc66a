/-
What can be wrong with settings.

Settings come from outside as names, texts and data of any kind.  An `Issue` is one thing
wrong with one of them.  It has a kind, a path to the offending field, empty when several
fields are wrong together, and a message.  A `SettingFault` is the wider notion: settings
can also name something that does not exist, or be of a kind that cannot be read at all.
-/
import Reckon.Text.Quoted

namespace Reckon

/-- A setting that names one of a few choices. -/
inductive ChoiceField
  | tokenizers | parsers | errorBehavior | associativity
deriving DecidableEq

/-- Why a text or a number is no nesting limit. -/
inductive DepthIssue
  | tooSmall
  | unreadable
  | tooLong
  | fractional
  | notFinite
  | wrongKind
deriving DecidableEq

/-- One thing wrong with settings. -/
inductive Issue
  /-- A name that is none of the choices, at a place in a list if the setting is one. -/
  | choice (field : ChoiceField) (index : Option Nat)
  | depth (issue : DepthIssue)
  | symbol (text : Text)
  | longDelimiters
  | repeatedOperators
  | delimiterClash (characters : Text)
  | repeatedTokenizers
  | repeatedParsers
deriving DecidableEq

/-- A step on the way to a field: its name, or a place in a list. -/
inductive PathStep
  | field (name : Text)
  | index (i : Nat)
deriving DecidableEq

namespace ChoiceField

/-- The name of the setting. -/
def name : ChoiceField → Text
  | tokenizers => "tokenizers".toList
  | parsers => "parsers".toList
  | errorBehavior => "error_behavior".toList
  | associativity => "associativity".toList

/-- What the setting may name. -/
def choices : ChoiceField → Text
  | tokenizers => "'variable', 'parenthesis' or 'operator'".toList
  | parsers => "'constant', 'variable', 'parenthesis' or 'operation'".toList
  | errorBehavior => "'raise' or 'result'".toList
  | associativity => "'left' or 'right'".toList

end ChoiceField

namespace DepthIssue

/-- The kind of the issue. -/
def kind : DepthIssue → Text
  | tooSmall => "greater_than_equal".toList
  | unreadable => "int_parsing".toList
  | tooLong => "int_parsing_size".toList
  | fractional => "int_from_float".toList
  | notFinite => "finite_number".toList
  | wrongKind => "int_type".toList

/-- The issue in words. -/
def message : DepthIssue → Text
  | tooSmall => "Input should be greater than or equal to 1".toList
  | unreadable =>
    "Input should be a valid integer, unable to parse string as an integer".toList
  | tooLong => "Unable to parse input string as an integer, exceeded maximum size".toList
  | fractional => "Input should be a valid integer, got a number with a fractional part".toList
  | notFinite => "Input should be a finite number".toList
  | wrongKind => "Input should be a valid integer".toList

end DepthIssue

namespace Issue

/-- The kind of the issue. -/
def kind : Issue → Text
  | choice _ _ => "enum".toList
  | depth issue => issue.kind
  | _ => "value_error".toList

/-- The path to the field at fault. -/
def path : Issue → List PathStep
  | choice field none => [.field field.name]
  | choice field (some i) => [.field field.name, .index i]
  | depth _ => [.field "max_depth".toList]
  | symbol _ => [.field "symbol".toList]
  | _ => []

/-- What is wrong with values that were each well formed. -/
def complaint : Issue → Text
  | symbol text => "operator symbol must be one punctuation character, got ".toList ++ text.quoted
  | longDelimiters => "escaped variable patterns need single-character delimiters".toList
  | repeatedOperators => "operator symbols must be unique".toList
  | delimiterClash characters =>
    "variable delimiters clash with operators or parentheses: ".toList ++ characters
  | repeatedTokenizers => "tokenizers must not be registered twice".toList
  | repeatedParsers => "parsers must not be registered twice".toList
  | choice _ _ | depth _ => []

/-- The issue in words. -/
def message : Issue → Text
  | choice field _ => "Input should be ".toList ++ field.choices
  | depth issue => issue.message
  | issue => "Value error, ".toList ++ issue.complaint

end Issue

/-- Why settings cannot be used. -/
inductive SettingFault
  /-- Fields that are wrong, in the order of the fields. -/
  | issues (list : List Issue)
  /-- A pattern that is not known. -/
  | unknownPattern (name : Text)
  /-- Names of operators that are not known, in order. -/
  | unknownOperators (names : List Text)
  /-- Names of functions that are not known, in order. -/
  | unknownFunctions (names : List Text)
  /-- What should name an error behavior, as it is shown. -/
  | unknownBehavior (shown : Text)
  /-- A pattern name that is no text. -/
  | patternNotText
  /-- A value of a kind that cannot be used there. -/
  | wrongKind
  /-- A settings file that is not well formed. -/
  | unreadable
  /-- A whole number in a settings file that has too many digits to be read. -/
  | longInteger (digits : Nat)
  /-- What should name an error behavior holds a whole number with too many digits to be shown. -/
  | unshowable
  /-- A folder in the place of a settings file. -/
  | folder
  /-- A path that cannot be looked up. -/
  | unreachable
deriving DecidableEq

namespace SettingFault

/-- How a message about too many digits begins. -/
def tooManyDigits : Text := "Exceeds the limit (4300 digits) for integer string conversion".toList

/-- How a message about too many digits ends. -/
def digitAdvice : Text := "; use sys.set_int_max_str_digits() to increase the limit".toList

/-- The message of a fault that has one of its own. -/
def message? : SettingFault → Option Text
  | unknownPattern name =>
    some ("Unknown variable pattern ".toList ++ name.quoted ++
      " (expected one of: braces, brackets, none, pipes)".toList)
  | unknownOperators names =>
    some ("Unknown operators: ".toList ++ Text.join ", ".toList names)
  | unknownFunctions names =>
    some ("Unknown functions: ".toList ++ Text.join ", ".toList names)
  | unknownBehavior shown => some (shown ++ " is not a valid ErrorBehavior".toList)
  | longInteger digits =>
    some (tooManyDigits ++ ": value has ".toList ++ Text.ofNat digits ++ " digits".toList ++
      digitAdvice)
  | unshowable => some (tooManyDigits ++ digitAdvice)
  | issues _ | patternNotText | wrongKind | unreadable | folder | unreachable => none

end SettingFault
end Reckon
