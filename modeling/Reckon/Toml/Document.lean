/-
TOML documents, version 1.0.

A document is a list of statements: headers that open a table or add one to an array of
tables, and keys with their values.  Reading one means building the record that they
describe while keeping track of what may no longer be changed: tables that were opened by
a header are not opened again, tables that dotted keys reach into are closed to later
headers, and inline tables and arrays are final.
-/
import Reckon.Toml.Lexeme

namespace Reckon.Toml

/-- The entries of a table, in the order in which they were written. -/
abbrev Table := List (Text × Value)

/-- The keys that lead to a table, outermost first. -/
abbrev Path := List Text

/-! ### Tables -/

/-- The value of a key. -/
def find? (key : Text) (table : Table) : Option Value :=
  (table.find? fun (k, _) => k == key).map (·.2)

/-- Replaces the value of a key, or adds the key at the end. -/
def put (key : Text) (v : Value) : Table → Table
  | [] => [(key, v)]
  | (k, old) :: rest => if k == key then (k, v) :: rest else (k, old) :: put key v rest

/-- Replaces the last element of a list of values. -/
def replaceLast (v : Value) : List Value → List Value
  | [] => []
  | [_] => [v]
  | w :: rest => w :: replaceLast v rest

/-- Changes the table at a path, making the tables on the way that are missing.  If `throughArrays`
holds, the path goes on in the last table of an array. -/
def changeAt (throughArrays : Bool) (change : Table → Option Table) :
    Path → Table → Option Table
  | [], table => change table
  | key :: rest, table =>
    match find? key table with
    | none => (changeAt throughArrays change rest []).map fun t => put key (.record t) table
    | some (.record t) =>
      (changeAt throughArrays change rest t).map fun t => put key (.record t) table
    | some (.list items) =>
      match throughArrays, items.getLast? with
      | true, some (.record t) =>
        (changeAt throughArrays change rest t).map fun t =>
          put key (.list (replaceLast (.record t) items)) table
      | _, _ => none
    | some _ => none

/-- Adds an entry under a new key. -/
def addNew (key : Text) (v : Value) (table : Table) : Option Table :=
  if (find? key table).isSome then none else some (put key v table)

/-- Adds an empty table to the array of tables under a key. -/
def addElement (key : Text) (table : Table) : Option Table :=
  match find? key table with
  | none => some (put key (.list [.record []]) table)
  | some (.list items) => some (put key (.list (items ++ [.record []])) table)
  | some _ => none

/-- A key without its last part, and the last part. -/
def stem? : Path → Option (Path × Text)
  | [] => none
  | [key] => some ([], key)
  | key :: rest => (stem? rest).map fun (parents, last) => (key :: parents, last)

/-- Whether one of the paths is the given one or leads to it. -/
def covers (paths : List Path) (path : Path) : Bool := paths.any fun p => p.isPrefixOf path

/-- Whether a value can hold others. -/
def isContainer : Value → Bool
  | .record _ | .list _ => true
  | _ => false

/-! ### Values -/

/-- The value ahead that is a single piece. -/
def readSimple (s : Text) : Except ReadFault (Value × Text) :=
  match s with
  | '"' :: _ | '\'' :: _ => required ((readString s).map fun (t, rest) => (.text t, rest))
  | _ =>
    match skip? "true".toList s, skip? "false".toList s with
    | some rest, _ => .ok (.truth true, rest)
    | _, some rest => .ok (.truth false, rest)
    | none, none =>
      match readMoment s with
      | some (v, rest) => required (v.map fun v => (v, rest))
      | none =>
        match readTime s with
        | some (t, rest) => .ok (.time t, rest)
        | none => (readNumber s).map fun (q, rest) => (.number q, rest)

mutual
/-- The value ahead. -/
def readValue : Nat → Text → Except ReadFault (Value × Text)
  | 0, _ => .error .malformed
  | fuel + 1, s =>
    match s with
    | '[' :: rest => do
      let rest ← required (skipFiller rest.length rest)
      match rest with
      | ']' :: rest => pure (.list [], rest)
      | _ =>
        let (items, rest) ← readItems fuel rest
        pure (.list items, rest)
    | '\x7b' :: rest =>
      match rest.dropWhile isSpace with
      | '\x7d' :: rest => .ok (.record [], rest)
      | rest => (readEntries fuel [] [] rest).map fun (table, rest) => (.record table, rest)
    | _ => readSimple s

/-- The values of an array from the first one on, and the bracket behind them. -/
def readItems : Nat → Text → Except ReadFault (List Value × Text)
  | 0, _ => .error .malformed
  | fuel + 1, s => do
    let (v, rest) ← readValue fuel s
    let rest ← required (skipFiller rest.length rest)
    match rest with
    | ']' :: rest => pure ([v], rest)
    | ',' :: rest =>
      let rest ← required (skipFiller rest.length rest)
      match rest with
      | ']' :: rest => pure ([v], rest)
      | _ =>
        let (more, rest) ← readItems fuel rest
        pure (v :: more, rest)
    | _ => throw .malformed

/-- A key and its value. -/
def readPair : Nat → Text → Except ReadFault ((Path × Value) × Text)
  | 0, _ => .error .malformed
  | fuel + 1, s => do
    let (key, rest) ← required (readKey s.length s)
    let rest ← required (skip? ['='] rest)
    let (v, rest) ← readValue fuel (rest.dropWhile isSpace)
    pure ((key, v), rest)

/-- The entries of an inline table from the next one on, and the brace behind them.  The paths in
`final` lead to values that are complete. -/
def readEntries : Nat → List Path → Table → Text → Except ReadFault (Table × Text)
  | 0, _, _, _ => .error .malformed
  | fuel + 1, final, table, s => do
    let ((key, v), rest) ← readPair fuel s
    if covers final key then throw .malformed
    else
      let (parents, last) ← required (stem? key)
      let table ← required (changeAt false (addNew last v) parents table)
      match rest.dropWhile isSpace with
      | '\x7d' :: rest => pure (table, rest)
      | ',' :: rest =>
        readEntries fuel (if isContainer v then key :: final else final) table
          (rest.dropWhile isSpace)
      | _ => throw .malformed
end

/-! ### Statements -/

/-- A document as far as it was read.  `final` holds the paths of complete values, `opened` those of
tables that no header may open again, `reached` those that dotted keys went through since the
last header. -/
structure Document where
  table : Table
  header : Path
  final : List Path
  opened : List Path
  reached : List Path

namespace Document

/-- The document before its first statement. -/
def empty : Document := ⟨[], [], [], [], []⟩

/-- Closes the tables that dotted keys went through. -/
def settle (d : Document) : Document := { d with opened := d.reached ++ d.opened, reached := [] }

/-- Opens the table of a header. -/
def openTable (d : Document) (key : Path) : Option Document :=
  if d.opened.contains key || covers d.final key then none
  else (changeAt true some key d.table).map fun table =>
    { d with table := table, header := key, opened := key :: d.opened }

/-- Adds a table to the array of a header; what was known below it concerns earlier tables. -/
def openElement (d : Document) (key : Path) : Option Document := do
  if covers d.final key then none
  else
    let (parents, last) ← stem? key
    let table ← changeAt true (addElement last) parents d.table
    let outside (p : Path) : Bool := !key.isPrefixOf p
    pure { d with
      table := table
      header := key
      final := d.final.filter outside
      opened := key :: d.opened.filter outside }

/-- The proper beginnings of a key, below the current header. -/
def beginnings (header : Path) (key : Path) : List Path :=
  (List.range (key.length - 1)).map fun i => header ++ key.take (i + 1)

/-- Adds a key with its value to the current table. -/
def assign (d : Document) (key : Path) (v : Value) : Option Document := do
  let through := beginnings d.header key
  let (parents, last) ← stem? key
  if through.any d.opened.contains || covers d.final (d.header ++ parents) then none
  else
    let table ← changeAt true (addNew last v) (d.header ++ parents) d.table
    pure { d with
      table := table
      final := if isContainer v then (d.header ++ key) :: d.final else d.final
      reached := through ++ d.reached }

/-- Reads a statement; nothing but a comment or the end of the line ahead changes nothing. -/
def statement (d : Document) (s : Text) : Except ReadFault (Document × Text) := do
  match s with
  | '[' :: '[' :: rest =>
    let (key, rest) ← required (readKey rest.length (rest.dropWhile isSpace))
    pure (← required (d.settle.openElement key), ← required (skip? "]]".toList rest))
  | '[' :: rest =>
    let (key, rest) ← required (readKey rest.length (rest.dropWhile isSpace))
    pure (← required (d.settle.openTable key), ← required (skip? [']'] rest))
  | c :: _ =>
    if c == '#' || c == '\n' then pure (d, s)
    else
      let ((key, v), rest) ← readPair (s.length + 1) s
      pure (← required (d.assign key v), rest)
  | [] => pure (d, [])

/-- Reads all statements ahead. -/
def readLines : Nat → Document → Text → Except ReadFault Document
  | 0, d, _ => .ok d
  | fuel + 1, d, s =>
    match s.dropWhile isSpace with
    | [] => .ok d
    | s => do
      let (d, rest) ← d.statement s
      match ← required (skipComment (rest.dropWhile isSpace)) with
      | [] => pure d
      | '\n' :: rest => readLines fuel d rest
      | _ => throw .malformed

end Document

/-- Line breaks in their short form. -/
def shortBreaks : Text → Text
  | '\r' :: '\n' :: rest => '\n' :: shortBreaks rest
  | c :: rest => c :: shortBreaks rest
  | [] => []

/-- The table that a document describes. -/
def read (s : Text) : Except ReadFault Table :=
  let s := shortBreaks s
  (Document.readLines (s.length + 1) .empty s).map (·.table)

end Reckon.Toml
