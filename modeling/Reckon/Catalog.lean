/-
Operators and functions, and the standard ones.

An operator is a character with a precedence, a direction for chains, a rule for two
operands and perhaps one for a single operand behind it.  A function is a name with a rule
and the number of arguments it accepts.  Nothing else in the library knows a particular
operator.  Any function on numbers can be the rule, whatever it comes back with and whatever
it raises; the standard operators and functions use the rules of the library.
-/
import Reckon.Issue
import Reckon.Text.Alphanumeric
import Reckon.Quantity.Functions

namespace Reckon

/-! ### Rules -/

/-- What the library has for operators with two operands. -/
inductive BinaryRule
  | add | subtract | multiply | divide | modulo | power
deriving DecidableEq

/-- What the library has for operators with the operand behind them. -/
inductive UnaryRule
  | negate | identity
deriving DecidableEq

/-- Anything that can be called with numbers: the rules of the library, and a function of any other
origin under a name. -/
inductive Rule
  | binary (rule : BinaryRule)
  | unary (rule : UnaryRule)
  | function (rule : Builtin)
  | custom (name : Text) (call : List Quantity → Response)

namespace BinaryRule

def name : BinaryRule → Text
  | add => "add".toList
  | subtract => "subtract".toList
  | multiply => "multiply".toList
  | divide => "divide".toList
  | modulo => "modulo".toList
  | power => "power".toList

def all : List BinaryRule := [add, subtract, multiply, divide, modulo, power]

/-- What a rule is called by, and its two arguments. -/
def signature : BinaryRule → Signature
  | power => ⟨power.name, .named ["base".toList, "exponent".toList] 0⟩
  | rule => ⟨rule.name, .named ["left".toList, "right".toList] 0⟩

/-- The result of a rule for two operands.  A power may be complex. -/
def apply : BinaryRule → Quantity → Quantity → Except Raised Value
  | add, a, b => (a.add b).map .number
  | subtract, a, b => (a.subtract b).map .number
  | multiply, a, b => (a.multiply b).map .number
  | divide, a, b => (a.divide b).map .number
  | modulo, a, b => (a.modulo b).map .number
  | power, a, b => a.power b

end BinaryRule

namespace UnaryRule

def name : UnaryRule → Text
  | negate => "negate".toList
  | identity => "identity".toList

def all : List UnaryRule := [negate, identity]

/-- What a rule is called by, and its argument. -/
def signature (rule : UnaryRule) : Signature := ⟨rule.name, .named ["operand".toList] 0⟩

/-- The result of a rule for one operand. -/
def apply : UnaryRule → Quantity → Quantity
  | negate => Quantity.negate
  | identity => id

end UnaryRule

namespace Rule

/-- The name of a rule. -/
def name : Rule → Text
  | binary rule => rule.name
  | unary rule => rule.name
  | function rule => rule.name
  | custom name _ => name

/-- Whether a rule is one of the library. -/
def isStandard : Rule → Bool
  | custom _ _ => false
  | _ => true

/-- What a rule does when it is called. -/
def call : Rule → List Quantity → Response
  | binary rule, [a, b] => .of (rule.apply a b)
  | unary rule, [a] => .returned (.number (rule.apply a))
  | function rule, args => .of ((rule.apply args).map .number)
  | custom _ run, args => run args
  | binary rule, args => .raised (.misuse (.argumentCount rule.signature args.length))
  | unary rule, args => .raised (.misuse (.argumentCount rule.signature args.length))

end Rule

/-! ### Operators -/

/-- The side to which a chain of equally strong operators groups. -/
inductive Associativity
  | left | right
deriving DecidableEq

namespace Associativity

def name : Associativity → Text
  | left => "left".toList
  | right => "right".toList

def named? (name : Text) : Option Associativity :=
  [left, right].find? fun a => a.name == name

end Associativity

/-- An operator; a higher precedence binds tighter. -/
structure Operator where
  symbol : Char
  precedence : Int
  associativity : Associativity
  binary : Rule
  unary : Option Rule

namespace Operator

/-- Whether a character can stand for an operator. -/
def isSymbol (c : Char) : Bool :=
  !Text.isAlphanumeric c && !Text.isBlank c && c != '(' && c != ')' && c != ','

/-- The operator of a description, or what is wrong with its symbol and its associativity. -/
def build (symbol : Text) (precedence : Int) (associativity : Text) (binary : Rule)
    (unary : Option Rule) : Except (List Issue) Operator :=
  let symbol? := match symbol with
    | [c] => if isSymbol c then some c else none
    | _ => none
  match symbol?, Associativity.named? associativity with
  | some c, some a => .ok ⟨c, precedence, a, binary, unary⟩
  | s, a => .error
    ((if s.isNone then [.symbol symbol] else []) ++
      (if a.isNone then [.choice .associativity none] else []))

/-- The standard operators. -/
def standard : List Operator :=
  [⟨'+', 10, .left, .binary .add, some (.unary .identity)⟩,
   ⟨'-', 10, .left, .binary .subtract, some (.unary .negate)⟩,
   ⟨'*', 20, .left, .binary .multiply, none⟩,
   ⟨'/', 20, .left, .binary .divide, none⟩,
   ⟨'%', 20, .left, .binary .modulo, none⟩,
   ⟨'^', 30, .right, .binary .power, none⟩]

/-- The standard operators with the given symbols, in the standard order. -/
def select (symbols : List Text) : Except SettingFault (List Operator) :=
  match Text.sorted (symbols.filter fun s => !standard.any fun op => [op.symbol] == s) with
  | [] => .ok (standard.filter fun op => symbols.contains [op.symbol])
  | unknown => .error (.unknownOperators unknown)

end Operator

/-! ### Functions -/

/-- A function under the name by which equations call it; without `maxArgs` there is no upper bound
on the number of its arguments. -/
structure MathFunction where
  name : Text
  rule : Rule
  minArgs : Int
  maxArgs : Option Int

namespace MathFunction

/-- Whether the function takes that many arguments. -/
def accepts (f : MathFunction) (count : Int) : Bool :=
  f.minArgs ≤ count && match f.maxArgs with
    | some most => count ≤ most
    | none => true

/-- The accepted numbers of arguments in words. -/
def arityText (f : MathFunction) : Text :=
  match f.maxArgs with
  | none => "at least ".toList ++ Text.ofInt f.minArgs
  | some most =>
    if most == f.minArgs then Text.ofInt f.minArgs
    else Text.ofInt f.minArgs ++ '-' :: Text.ofInt most

/-- The standard function behind a builtin. -/
def ofBuiltin (b : Builtin) : MathFunction :=
  match b with
  | .log | .round => ⟨b.name, .function b, 1, some 2⟩
  | .atan2 => ⟨b.name, .function b, 2, some 2⟩
  | .min | .max => ⟨b.name, .function b, 1, none⟩
  | _ => ⟨b.name, .function b, 1, some 1⟩

/-- The standard functions. -/
def standard : List MathFunction :=
  [.abs, .sign, .sqrt, .exp, .ln, .log, .log10, .sin, .cos, .tan, .asin, .acos, .atan, .atan2,
   .floor, .ceil, .round, .min, .max].map ofBuiltin

/-- The standard functions with the given names, in the standard order. -/
def select (names : List Text) : Except SettingFault (List MathFunction) :=
  match Text.sorted (names.filter fun s => !standard.any fun f => f.name == s) with
  | [] => .ok (standard.filter fun f => names.contains f.name)
  | unknown => .error (.unknownFunctions unknown)

end MathFunction
end Reckon
