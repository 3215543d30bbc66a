/-
Data of any kind.

Stored variables should hold numbers and a settings file should hold the right kinds of
values, but both come from outside and may hold anything.  `Value` is what they can hold,
and `Value.display` is how a message or a listing shows it.
-/
import Reckon.Quantity
import Reckon.Decimal.Notation
import Reckon.Decimal.Numeral
import Reckon.Text.Quoted

namespace Reckon

/-- A day of the calendar. -/
structure Date where
  year : Nat
  month : Nat
  day : Nat
deriving DecidableEq

/-- A time of day; `micro` counts millionths of a second. -/
structure Time where
  hour : Nat
  minute : Nat
  second : Nat
  micro : Nat
deriving DecidableEq

/-- Data of any kind.  `moment` is a day and a time with the distance from universal time in
minutes, if it is known.  `object` is anything else: the name of its type, what is shown of it, and
the whole number that it counts as, if it does. -/
inductive Value
  | nothing
  | number (q : Quantity)
  | truth (b : Bool)
  | text (s : Text)
  | list (items : List Value)
  | tuple (items : List Value)
  | record (entries : List (Text × Value))
  | complex (re im : Float)
  | date (d : Date)
  | time (t : Time)
  | moment (d : Date) (t : Time) (offset : Option Int)
  | object (type shown : Text) (whole? : Option Int)

namespace Value

/-! ### Kinds -/

/-- The name of the kind of a value. -/
def typeName : Value → Text
  | nothing => "NoneType".toList
  | number q => q.typeName
  | truth _ => "bool".toList
  | text _ => "str".toList
  | list _ => "list".toList
  | tuple _ => "tuple".toList
  | record _ => "dict".toList
  | complex _ _ => "complex".toList
  | date _ => "date".toList
  | time _ => "time".toList
  | moment _ _ _ => "datetime".toList
  | object type _ _ => type

/-- The number in a value, if it is one within the limits. -/
def check : Value → Except Failure Quantity
  | number q => q.check
  | v => .error (.wrongType v.typeName)

/-- The value with a plain whole number for anything that counts as one. -/
def whole : Value → Value
  | object _ _ (some n) => number (.int n)
  | v => v

/-- The number in a value that a rule came back with, if it is one within the limits. -/
def settle : Value → Except Failure Quantity
  | complex _ _ => .error .complexResult
  | v => v.whole.check

/-! ### How a value is shown -/

/-- Numbers separated by commas. -/
def commaSeparated (numbers : List Nat) : Text :=
  Text.join ", ".toList (numbers.map Text.ofNat)

/-- The numbers of a time of day; trailing zeros behind the minute are left out. -/
def timeNumbers (t : Time) : List Nat :=
  if t.micro != 0 then [t.hour, t.minute, t.second, t.micro]
  else if t.second != 0 then [t.hour, t.minute, t.second]
  else [t.hour, t.minute]

/-- The numbers of a day. -/
def dateNumbers (d : Date) : List Nat := [d.year, d.month, d.day]

/-- A distance from universal time, whose days and seconds are kept apart. -/
def displayOffset (minutes : Int) : Text :=
  if minutes == 0 then "datetime.timezone.utc".toList
  else
    let days := minutes.fdiv (24 * 60)
    let seconds := minutes.fmod (24 * 60) * 60
    let parts := (if days == 0 then [] else ["days=".toList ++ Text.ofInt days]) ++
      (if seconds == 0 then [] else ["seconds=".toList ++ Text.ofInt seconds])
    "datetime.timezone(datetime.timedelta(".toList ++ Text.join ", ".toList parts ++ "))".toList

/-- A number as it is listed among other data. -/
def displayNumber : Quantity → Text
  | .int n => Text.ofInt n
  | .float x => Binary64.display x
  | .ratio r =>
    "Fraction(".toList ++ Text.ofInt r.num ++ ", ".toList ++ Text.ofNat r.den ++ [')']

/-- The imaginary part of a complex number, or any part of one, without a superfluous point. -/
def displayPart (x : Float) : Text :=
  let s := Binary64.display x
  if s.drop (s.length - 2) == ".0".toList then s.take (s.length - 2) else s

mutual
/-- A value as it is listed among other data. -/
def display : Value → Text
  | nothing => "None".toList
  | number q => displayNumber q
  | truth b => if b then "True".toList else "False".toList
  | text s => s.quoted
  | list items => '[' :: Text.join ", ".toList (displayAll items) ++ [']']
  | tuple [item] => '(' :: display item ++ ",)".toList
  | tuple items => '(' :: Text.join ", ".toList (displayAll items) ++ [')']
  | record entries => '\x7b' :: Text.join ", ".toList (displayEntries entries) ++ ['\x7d']
  | complex re im =>
    if re == 0 && !Binary64.isNegative re then displayPart im ++ ['j']
    else
      '(' :: displayPart re ++ (if Binary64.isNegative im then [] else ['+']) ++
        displayPart im ++ "j)".toList
  | date d => "datetime.date(".toList ++ commaSeparated (dateNumbers d) ++ [')']
  | time t => "datetime.time(".toList ++ commaSeparated (timeNumbers t) ++ [')']
  | moment d t offset =>
    "datetime.datetime(".toList ++ commaSeparated (dateNumbers d ++ timeNumbers t) ++
      (match offset with
        | some minutes => ", tzinfo=".toList ++ displayOffset minutes
        | none => []) ++ [')']
  | object _ shown _ => shown

/-- The values of a list, each as it is listed. -/
def displayAll : List Value → List Text
  | [] => []
  | v :: rest => display v :: displayAll rest

/-- The entries of a record, each as it is listed. -/
def displayEntries : List (Text × Value) → List Text
  | [] => []
  | (key, v) :: rest => (key.quoted ++ ": ".toList ++ display v) :: displayEntries rest
end

/-! ### What cannot be shown -/

/-- Whether a whole number has few enough digits to be shown. -/
def isShort (n : Int) : Bool := decide (n.natAbs < Nat.pow 10 Numeral.digitLimit)

mutual
/-- Whether all whole numbers in a value have few enough digits to be shown. -/
def isShowable : Value → Bool
  | number (.int n) => isShort n
  | number (.ratio r) => isShort r.num && isShort r.den
  | list items | tuple items => areShowable items
  | record entries => areShowableEntries entries
  | _ => true

/-- Whether all values of a list can be shown. -/
def areShowable : List Value → Bool
  | [] => true
  | v :: rest => isShowable v && areShowable rest

/-- Whether all values of a record can be shown. -/
def areShowableEntries : List (Text × Value) → Bool
  | [] => true
  | (_, v) :: rest => isShowable v && areShowableEntries rest
end

end Value

/-- What a rule does when it is called: it returns a value of whatever kind, it raises an exception by
which the computation fails, or it throws another one. -/
inductive Response
  | returned (v : Value)
  | raised (e : Raised)
  | threw (thrown : Thrown)

/-- The response of a rule that throws nothing. -/
def Response.of : Except Raised Value → Response
  | .ok v => .returned v
  | .error e => .raised e

end Reckon
