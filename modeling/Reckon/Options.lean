/-
Options: what an equation may look like and how failures are reported.

`Options` is the checked form that reading and evaluating work with.  Every way to make
one goes through `Draft.build`, which reads the names of choices, reads the nesting limit
from whatever it is given, and refuses options whose parts do not fit together.  Changing
one part of options builds them again from their own draft, so a conflict that the change
brings about is found as well.
-/
import Reckon.Pattern
import Reckon.Catalog
import Reckon.Value
import Reckon.Decimal.Numeral

namespace Reckon

/-! ### Choices -/

/-- What splits an equation at a character: a variable's delimiter, a parenthesis or separator, or an
operator. -/
inductive TokenizerKind
  | variable | parenthesis | operator
deriving DecidableEq

/-- The forms that a part of an equation can be read as. -/
inductive ParserKind
  | constant | variable | parenthesis | operation
deriving DecidableEq

/-- Whether failures are raised at once or returned as results. -/
inductive ErrorBehavior
  | raise | result
deriving DecidableEq

namespace TokenizerKind

def name : TokenizerKind → Text
  | .variable => "variable".toList
  | parenthesis => "parenthesis".toList
  | operator => "operator".toList

def named? (name : Text) : Option TokenizerKind :=
  [.variable, .parenthesis, .operator].find? fun k => k.name == name

end TokenizerKind

namespace ParserKind

def name : ParserKind → Text
  | constant => "constant".toList
  | .variable => "variable".toList
  | parenthesis => "parenthesis".toList
  | operation => "operation".toList

def named? (name : Text) : Option ParserKind :=
  [.constant, .variable, .parenthesis, .operation].find? fun k => k.name == name

end ParserKind

namespace ErrorBehavior

def name : ErrorBehavior → Text
  | raise => "raise".toList
  | result => "result".toList

def named? (name : Text) : Option ErrorBehavior := [raise, result].find? fun b => b.name == name

/-- The behavior that a value names. -/
def ofValue (v : Value) : Except SettingFault ErrorBehavior :=
  let found := match v with
    | .text name => named? name
    | _ => none
  match found with
  | some b => .ok b
  | none => .error (if v.isShowable then .unknownBehavior v.display else .unshowable)

end ErrorBehavior

/-! ### Options -/

/-- Everything that governs how an equation is read and evaluated. -/
structure Options where
  pattern : Pattern
  operators : List Operator
  functions : List MathFunction
  tokenizers : List TokenizerKind
  parsers : List ParserKind
  errorBehavior : ErrorBehavior
  maxDepth : Nat

namespace Options

/-- Brackets around variables, all standard operators and functions, failures as results. -/
def standard : Options where
  pattern := .brackets
  operators := Operator.standard
  functions := MathFunction.standard
  tokenizers := [.variable, .parenthesis, .operator]
  parsers := [.parenthesis, .operation, .constant, .variable]
  errorBehavior := .result
  maxDepth := 200

/-- The last operator with that symbol. -/
def operator? (o : Options) (symbol : Text) : Option Operator :=
  o.operators.reverse.find? fun op => [op.symbol] == symbol

/-- The last function of that name. -/
def function? (o : Options) (name : Text) : Option MathFunction :=
  o.functions.reverse.find? fun f => f.name == name

/-! ### Characters that split an equation -/

/-- The characters of parentheses and separators. -/
def structural : List Char := ['(', ')', ',']

/-- The characters that a kind of tokenizer claims. -/
def claimed (o : Options) : TokenizerKind → List Char
  | .variable => o.pattern.delimiters
  | .parenthesis => structural
  | .operator => o.operators.map (·.symbol)

/-- The first registered tokenizer that claims a character. -/
def tokenizer? (o : Options) (c : Char) : Option TokenizerKind :=
  o.tokenizers.find? fun k => (o.claimed k).contains c

/-- Every claimed character with its tokenizer, in the order of the characters. -/
def delimiterTable (o : Options) : List (Char × TokenizerKind) :=
  let chars := (o.tokenizers.flatMap o.claimed).eraseDups.mergeSort fun c d => c ≤ d
  chars.filterMap fun c => (o.tokenizer? c).map fun k => (c, k)

/-! ### Parts that fit together -/

/-- The first conflict between the parts. -/
def conflict? (o : Options) : Option Issue :=
  let symbols := o.operators.map (·.symbol)
  let clash := o.pattern.delimiters.filter fun c => structural.contains c || symbols.contains c
  if !decide symbols.Nodup then some .repeatedOperators
  else if !clash.isEmpty then some (.delimiterClash clash)
  else if !decide o.tokenizers.Nodup then some .repeatedTokenizers
  else if !decide o.parsers.Nodup then some .repeatedParsers
  else none

end Options

/-! ### The nesting limit -/

namespace DepthLimit

/-- White space around a setting that is given as text; the separators of the basic range do not
count. -/
def isPadding (c : Char) : Bool :=
  Text.isBlank c && !(28 ≤ c.toNat && c.toNat ≤ 31)

/-- The text without a plus sign at the front. -/
def withoutPlus : Text → Text
  | '+' :: rest => rest
  | s => s

/-- The text without the zeros at the front of its digits, and without the underscores among them.
One character is kept if nothing or a point follows.  No other character than a digit, a point
or a minus sign may follow, and nothing but a digit or a minus sign may come first. -/
def withoutZeros? (s : Text) : Option Text :=
  match s with
  | '0' :: rest =>
    let zeros := '0' :: rest.takeWhile fun c => c == '0' || c == '_'
    let lastOne := zeros.drop (zeros.length - 1)
    match s.drop zeros.length with
    | [] => some lastOne
    | '.' :: fraction => some (lastOne ++ '.' :: fraction)
    | c :: more => if Text.isDigit c || c == '-' then some (c :: more) else none
  | c :: _ => if Text.isDigit c || c == '-' then some s else none
  | [] => none

/-- The text without its first point if zeros follow, at least one and nothing else. -/
def withoutFraction (s : Text) : Text :=
  match s.dropWhile (· != '.') with
  | '.' :: zero :: zeros => if (zero :: zeros).all (· == '0') then s.takeWhile (· != '.') else s
  | _ => s

/-- Whether two underscores stand side by side. -/
def hasDoubleUnderscore : Text → Bool
  | '_' :: '_' :: _ => true
  | _ :: rest => hasDoubleUnderscore rest
  | [] => false

/-- The text without underscores, if they stand one by one and none of them at an end. -/
def withoutUnderscores (s : Text) : Text :=
  if s.head? == some '_' || s.getLast? == some '_' || hasDoubleUnderscore s then s
  else s.filter (· != '_')

/-- The whole number that a text stands for. -/
def readText (s : Text) : Except DepthIssue Int := do
  let body := ((s.dropWhile isPadding).reverse.dropWhile isPadding).reverse
  match withoutZeros? (withoutPlus body) with
  | none => throw .unreadable
  | some kept =>
    let plain := withoutUnderscores (withoutFraction kept)
    let (negative, digits) := match plain with
      | '-' :: digits => (true, digits)
      | digits => (false, digits)
    if digits.isEmpty || !digits.all Text.isDigit || Numeral.digitLimit < plain.length then
      throw .unreadable
    else pure (if negative then -(Text.toNat digits : Int) else Text.toNat digits)

/-- The whole number that a value stands for. -/
def readInt (v : Value) : Except DepthIssue Int :=
  match v with
  | .number (.int n) => .ok n
  | .number (.float x) =>
    if !x.isFinite then .error .notFinite
    else
      let r := Binary64.value x
      if r.den != 1 then .error .fractional
      else if r.num.natAbs < Nat.pow 2 63 then .ok r.num
      else .error .tooLong
  | .truth b => .ok (if b then 1 else 0)
  | .text s => readText s
  | _ => .error .wrongKind

/-- The limit that a value stands for; it is at least one. -/
def read (v : Value) : Except DepthIssue Nat := do
  let n ← readInt v
  if n < 1 then throw .tooSmall
  pure n.toNat

end DepthLimit

/-! ### Making options -/

/-- Options as they come from outside: choices by their names, and any value for the limit. -/
structure Draft where
  pattern : Pattern
  operators : List Operator
  functions : List MathFunction
  tokenizers : List Text
  parsers : List Text
  errorBehavior : Text
  maxDepth : Value

namespace Draft

/-- Reads a list of names, or lists an issue for every name that is none of the choices. -/
def choices {α : Type} (field : ChoiceField) (named? : Text → Option α) (names : List Text) :
    Except (List Issue) (List α) :=
  let issues := (names.zipIdx.filter fun (name, _) => (named? name).isNone).map
    fun (_, i) => Issue.choice field (some i)
  if issues.isEmpty then .ok (names.filterMap named?) else .error issues

/-- The issues of a part that could not be read. -/
def issuesOf {α : Type} : Except (List Issue) α → List Issue
  | .ok _ => []
  | .error issues => issues

/-- The options of a draft.  If any field cannot be read, all issues with fields are listed; else
the first conflict between fields counts. -/
def build (d : Draft) : Except (List Issue) Options :=
  let tokenizers := choices .tokenizers TokenizerKind.named? d.tokenizers
  let parsers := choices .parsers ParserKind.named? d.parsers
  let behavior : Except (List Issue) ErrorBehavior :=
    match ErrorBehavior.named? d.errorBehavior with
    | some b => .ok b
    | none => .error [.choice .errorBehavior none]
  let depth : Except (List Issue) Nat :=
    match DepthLimit.read d.maxDepth with
    | .ok n => .ok n
    | .error issue => .error [.depth issue]
  match tokenizers, parsers, behavior, depth with
  | .ok tokenizers, .ok parsers, .ok behavior, .ok depth =>
    let o : Options := ⟨d.pattern, d.operators, d.functions, tokenizers, parsers, behavior, depth⟩
    match o.conflict? with
    | none => .ok o
    | some issue => .error [issue]
  | t, p, b, n => .error (issuesOf t ++ issuesOf p ++ issuesOf b ++ issuesOf n)

end Draft

namespace Options

/-- The draft that builds the options again. -/
def draft (o : Options) : Draft where
  pattern := o.pattern
  operators := o.operators
  functions := o.functions
  tokenizers := o.tokenizers.map (·.name)
  parsers := o.parsers.map (·.name)
  errorBehavior := o.errorBehavior.name
  maxDepth := .number (.int o.maxDepth)

def withOperators (o : Options) (operators : List Operator) : Except (List Issue) Options :=
  Draft.build { o.draft with operators := operators }

def withFunctions (o : Options) (functions : List MathFunction) : Except (List Issue) Options :=
  Draft.build { o.draft with functions := functions }

def withAdditionalFunctions (o : Options) (functions : List MathFunction) :
    Except (List Issue) Options :=
  Draft.build { o.draft with functions := o.functions ++ functions }

def withPattern (o : Options) (pattern : Pattern) : Except (List Issue) Options :=
  Draft.build { o.draft with pattern := pattern }

def withErrorBehavior (o : Options) (behavior : ErrorBehavior) : Except (List Issue) Options :=
  Draft.build { o.draft with errorBehavior := behavior.name }

def withTokenizers (o : Options) (names : List Text) : Except (List Issue) Options :=
  Draft.build { o.draft with tokenizers := names }

def withParsers (o : Options) (names : List Text) : Except (List Issue) Options :=
  Draft.build { o.draft with parsers := names }

end Options
end Reckon
