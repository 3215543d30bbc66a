/-
The smallest pieces of a TOML document: keys, strings, numbers, days and times.

Every reader takes the text that lies ahead and gives what it read together with the rest,
or nothing if the text cannot begin like that.  Control characters are allowed nowhere but
for tabs, and line breaks where a string may span lines.  A whole number can be too long to
be read although it is well formed, and that is a fault of its own.
-/
import Reckon.Value
import Reckon.Decimal.Numeral

namespace Reckon.Toml

/-- Why a document cannot be read. -/
inductive ReadFault
  | malformed
  | longInteger (digits : Nat)
deriving DecidableEq

/-- What was read, or that the document is malformed. -/
def required {α : Type} : Option α → Except ReadFault α
  | some a => .ok a
  | none => .error .malformed

/-! ### Characters -/

/-- Space within a line. -/
def isSpace (c : Char) : Bool := c == ' ' || c == '\t'

/-- Space within a line or between lines. -/
def isSpaceOrBreak (c : Char) : Bool := isSpace c || c == '\n'

/-- Controls that no text may hold; tabs are allowed, line breaks only where `breaks` says so. -/
def isIllegal (breaks : Bool) (c : Char) : Bool :=
  (c.toNat < 32 || c.toNat == 127) && c != '\t' && !(breaks && c == '\n')

/-- The characters of a key without quotes. -/
def isBareKey (c : Char) : Bool := c.isAlphanum || c == '-' || c == '_'

/-- The text behind `expected`, if it lies ahead. -/
def skip? (expected s : Text) : Option Text :=
  if expected.isPrefixOf s then some (s.drop expected.length) else none

/-- The text behind a comment, if one lies ahead; the line break stays. -/
def skipComment (s : Text) : Option Text :=
  match s with
  | '#' :: rest =>
    if (rest.takeWhile (· != '\n')).any (isIllegal false) then none
    else some (rest.dropWhile (· != '\n'))
  | _ => some s

/-- The text behind all spaces, line breaks and comments ahead. -/
def skipFiller : Nat → Text → Option Text
  | 0, s => some s
  | fuel + 1, s =>
    match s.dropWhile isSpaceOrBreak with
    | '#' :: rest => do skipFiller fuel (← skipComment ('#' :: rest))
    | rest => some rest

/-! ### Strings -/

/-- A character given by `count` hexadecimal digits. -/
def readHex (count : Nat) (s : Text) : Option (Char × Text) :=
  let digits := s.take count
  if digits.length == count && digits.all isHexDigit then
    let n := digits.foldl (fun n c => 16 * n + hexValue c) 0
    if n.isValidChar then some (Char.ofNat n, s.drop count) else none
  else none
where
  isHexDigit (c : Char) : Bool :=
    Text.isDigit c || ('a' ≤ c && c ≤ 'f') || ('A' ≤ c && c ≤ 'F')
  hexValue (c : Char) : Nat :=
    if Text.isDigit c then Text.digitValue c else c.toLower.toNat - 'a'.toNat + 10

/-- What a backslash with the text ahead stands for.  In a string of several lines a backslash at
the end of a line removes the break and all space behind it. -/
def readEscape (lines : Bool) (s : Text) : Option (Text × Text) :=
  match s with
  | 'b' :: rest => some (['\x08'], rest)
  | 't' :: rest => some (['\t'], rest)
  | 'n' :: rest => some (['\n'], rest)
  | 'f' :: rest => some (['\x0c'], rest)
  | 'r' :: rest => some (['\r'], rest)
  | '"' :: rest => some (['"'], rest)
  | '\\' :: rest => some (['\\'], rest)
  | 'u' :: rest => (readHex 4 rest).map fun (c, rest) => ([c], rest)
  | 'U' :: rest => (readHex 8 rest).map fun (c, rest) => ([c], rest)
  | c :: _ =>
    if lines && isSpaceOrBreak c then
      match s.dropWhile isSpace with
      | [] => some ([], [])
      | '\n' :: rest => some ([], rest.dropWhile isSpaceOrBreak)
      | _ => none
    else none
  | [] => none

/-- A string up to its closing quote, of one line.  `fuel` bounds the characters and escapes. -/
def readBasic : Nat → Text → Option (Text × Text)
  | 0, _ => none
  | _, [] => none
  | _, '"' :: rest => some ([], rest)
  | fuel + 1, '\\' :: rest => do
    let (piece, rest) ← readEscape false rest
    let (more, rest) ← readBasic fuel rest
    pure (piece ++ more, rest)
  | fuel + 1, c :: rest =>
    if isIllegal false c then none
    else (readBasic fuel rest).map fun (more, rest) => (c :: more, rest)

/-- A string up to its three closing quotes, of any number of lines. -/
def readBasicLines : Nat → Text → Option (Text × Text)
  | 0, _ => none
  | _, [] => none
  | _, '"' :: '"' :: '"' :: rest => some ([], rest)
  | fuel + 1, '\\' :: rest => do
    let (piece, rest) ← readEscape true rest
    let (more, rest) ← readBasicLines fuel rest
    pure (piece ++ more, rest)
  | fuel + 1, c :: rest =>
    if isIllegal true c then none
    else (readBasicLines fuel rest).map fun (more, rest) => (c :: more, rest)

/-- A string without escapes up to its closing quote, of one line. -/
def readVerbatim : Text → Option (Text × Text)
  | [] => none
  | '\'' :: rest => some ([], rest)
  | c :: rest =>
    if isIllegal false c then none
    else (readVerbatim rest).map fun (more, rest) => (c :: more, rest)

/-- A string without escapes up to its three closing quotes, of any number of lines. -/
def readVerbatimLines : Text → Option (Text × Text)
  | [] => none
  | '\'' :: '\'' :: '\'' :: rest => some ([], rest)
  | c :: rest =>
    if isIllegal true c then none
    else (readVerbatimLines rest).map fun (more, rest) => (c :: more, rest)

/-- Up to two quotes behind the three closing ones still belong to the string. -/
def withExtraQuotes (quote : Char) : Text × Text → Text × Text
  | (s, c :: d :: rest) =>
    if c == quote && d == quote then (s ++ [c, d], rest)
    else if c == quote then (s ++ [c], d :: rest)
    else (s, c :: d :: rest)
  | (s, [c]) => if c == quote then (s ++ [c], []) else (s, [c])
  | (s, []) => (s, [])

/-- The text without a line break at the front. -/
def withoutBreak : Text → Text
  | '\n' :: rest => rest
  | s => s

/-- A string of any kind, from its opening quote on. -/
def readString (s : Text) : Option (Text × Text) :=
  match s with
  | '"' :: '"' :: '"' :: rest =>
    (readBasicLines (rest.length + 1) (withoutBreak rest)).map (withExtraQuotes '"')
  | '"' :: rest => readBasic (rest.length + 1) rest
  | '\'' :: '\'' :: '\'' :: rest =>
    (readVerbatimLines (withoutBreak rest)).map (withExtraQuotes '\'')
  | '\'' :: rest => readVerbatim rest
  | _ => none

/-! ### Keys -/

/-- One part of a key: bare, or a string of one line. -/
def readKeyPart (s : Text) : Option (Text × Text) :=
  match s with
  | '"' :: rest => readBasic (rest.length + 1) rest
  | '\'' :: rest => readVerbatim rest
  | c :: _ => if isBareKey c then some (s.takeWhile isBareKey, s.dropWhile isBareKey) else none
  | [] => none

/-- A key: parts with points between them, and space around each point. -/
def readKey : Nat → Text → Option (List Text × Text)
  | 0, _ => none
  | fuel + 1, s => do
    let (part, rest) ← readKeyPart s
    match rest.dropWhile isSpace with
    | '.' :: rest =>
      let (more, rest) ← readKey fuel (rest.dropWhile isSpace)
      pure (part :: more, rest)
    | rest => pure ([part], rest)

/-! ### Numbers -/

/-- Digits of some kind, with single underscores between them. -/
def readDigits (isDigit : Char → Bool) : Text → Option (Text × Text)
  | [] => none
  | c :: rest => if isDigit c then some (more c rest) else none
where
  more (c : Char) : Text → Text × Text
    | '_' :: d :: rest =>
      if isDigit d then
        let (digits, rest) := more d rest
        (c :: '_' :: digits, rest)
      else ([c], '_' :: d :: rest)
    | d :: rest =>
      if isDigit d then
        let (digits, rest) := more d rest
        (c :: digits, rest)
      else ([c], d :: rest)
    | [] => ([c], [])

/-- The value of digits in a base that is a power of two. -/
def valueIn (base : Nat) (digits : Text) : Nat :=
  (digits.filter (· != '_')).foldl (fun n c => base * n + readHex.hexValue c) 0

/-- A whole number in the base sixteen, eight or two. -/
def readBased (s : Text) : Option (Int × Text) :=
  match s with
  | '0' :: 'x' :: rest =>
    (readDigits readHex.isHexDigit rest).map fun (d, rest) => ((valueIn 16 d : Int), rest)
  | '0' :: 'o' :: rest =>
    (readDigits (fun c => '0' ≤ c && c ≤ '7') rest).map fun (d, rest) => ((valueIn 8 d : Int), rest)
  | '0' :: 'b' :: rest =>
    (readDigits (fun c => c == '0' || c == '1') rest).map fun (d, rest) =>
      ((valueIn 2 d : Int), rest)
  | _ => none

/-- The sign ahead, if there is one. -/
def readSign : Text → Text × Text
  | '+' :: rest => (['+'], rest)
  | '-' :: rest => (['-'], rest)
  | s => ([], s)

/-- A point with digits behind it, or nothing. -/
def readFraction (s : Text) : Text × Text :=
  match s with
  | '.' :: rest => match readDigits Text.isDigit rest with
    | some (digits, rest) => ('.' :: digits, rest)
    | none => ([], s)
  | _ => ([], s)

/-- An exponent, or nothing. -/
def readExponent (s : Text) : Text × Text :=
  match s with
  | c :: rest =>
    if c == 'e' || c == 'E' then
      let (sign, digits) := readSign rest
      match readDigits Text.isDigit digits with
      | some (digits, rest) => (c :: sign ++ digits, rest)
      | none => ([], s)
    else ([], s)
  | [] => ([], s)

/-- A number in decimal digits, whole without a leading zero, or with a fraction or an exponent. -/
def readDecimal (s : Text) : Except ReadFault (Quantity × Text) := do
  let (sign, body) := readSign s
  let (whole, rest) ← match body with
    | '0' :: rest => pure (['0'], rest)
    | _ => required (readDigits Text.isDigit body)
  let (fraction, rest) := readFraction rest
  let (exponent, rest) := readExponent rest
  let text := sign ++ whole ++ fraction ++ exponent
  if fraction.isEmpty && exponent.isEmpty then
    let digits := (whole.filter (· != '_')).length
    if Numeral.digitLimit < digits then throw (.longInteger digits)
    else required ((Numeral.readInt? text).map fun n => (.int n, rest))
  else required ((Numeral.readFloat? text).map fun x => (.float x, rest))

/-- A double that is not finite. -/
def readNonFinite (s : Text) : Option (Quantity × Text) := do
  let (sign, body) := readSign s
  let name := body.take 3
  if name == "inf".toList || name == "nan".toList then
    (Numeral.readFloat? (sign ++ name)).map fun x => (.float x, body.drop 3)
  else none

/-- A number of any kind. -/
def readNumber (s : Text) : Except ReadFault (Quantity × Text) :=
  match readBased s, readNonFinite s with
  | some (n, rest), _ => .ok (.int n, rest)
  | none, some read => .ok read
  | none, none => readDecimal s

/-! ### Days and times -/

/-- A number of exactly `count` digits between two bounds. -/
def readField (count low high : Nat) (s : Text) : Option (Nat × Text) :=
  let digits := s.take count
  let n := Text.toNat digits
  if digits.length == count && digits.all Text.isDigit && low ≤ n && n ≤ high then
    some (n, s.drop count)
  else none

/-- A day, as its numbers. -/
def readDate (s : Text) : Option (Date × Text) := do
  let (year, rest) ← readField 4 0 9999 s
  let (month, rest) ← readField 2 1 12 (← skip? ['-'] rest)
  let (day, rest) ← readField 2 1 31 (← skip? ['-'] rest)
  pure (⟨year, month, day⟩, rest)

/-- A time of day, with at most six digits of the second's fraction kept. -/
def readTime (s : Text) : Option (Time × Text) := do
  let (hour, rest) ← readField 2 0 23 s
  let (minute, rest) ← readField 2 0 59 (← skip? [':'] rest)
  let (second, rest) ← readField 2 0 59 (← skip? [':'] rest)
  match rest with
  | '.' :: more =>
    let digits := more.takeWhile Text.isDigit
    if digits.isEmpty then pure (⟨hour, minute, second, 0⟩, rest)
    else
      let six := digits.take 6 ++ List.replicate (6 - digits.length) '0'
      pure (⟨hour, minute, second, Text.toNat six⟩, more.dropWhile Text.isDigit)
  | _ => pure (⟨hour, minute, second, 0⟩, rest)

/-- The distance from universal time in minutes. -/
def readOffset (s : Text) : Option (Int × Text) :=
  match s with
  | [] => none
  | sign :: rest =>
    if sign == 'Z' || sign == 'z' then some (0, rest)
    else if sign == '+' || sign == '-' then do
      let (hours, rest) ← readField 2 0 23 rest
      let (minutes, rest) ← readField 2 0 59 (← skip? [':'] rest)
      let total : Int := 60 * hours + minutes
      pure (if sign == '-' then -total else total, rest)
    else none

/-- How many days a month has. -/
def daysIn (year month : Nat) : Nat :=
  if month == 2 then
    if year % 4 == 0 && (year % 100 != 0 || year % 400 == 0) then 29 else 28
  else if month == 4 || month == 6 || month == 9 || month == 11 then 30
  else 31

/-- A day, or a day and a time.  The inner option is empty for a day that does not exist. -/
def readMoment (s : Text) : Option (Option Value × Text) := do
  let (d, rest) ← readDate s
  let exists? (v : Value) : Option Value :=
    if 1 ≤ d.year && d.day ≤ daysIn d.year d.month then some v else none
  let time? : Option (Time × Text) := match rest with
    | c :: more => if c == 'T' || c == 't' || c == ' ' then readTime more else none
    | [] => none
  match time? with
  | none => pure (exists? (.date d), rest)
  | some (t, rest) => match readOffset rest with
    | some (offset, rest) => pure (exists? (.moment d t (some offset)), rest)
    | none => pure (exists? (.moment d t none), rest)

end Reckon.Toml
