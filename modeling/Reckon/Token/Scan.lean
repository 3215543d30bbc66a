/-
Splitting the text of an equation into tokens.

The text is read once from left to right.  A character that no registered tokenizer claims
joins the pending value.  A parenthesis, separator or operator ends the pending value and
becomes a token itself.  The delimiters of variables belong to the value: only the one that
closes the outermost variable ends it, and between them nothing else is split.  A pending
value that is blank is dropped, any other loses the white space around it.
-/
import Reckon.Options
import Reckon.Token
import Reckon.Fault

namespace Reckon

/-- How far a text has been split.  `pending` holds the characters since the last split and `tokens`
the tokens so far, both newest first; `nesting` counts the delimiters that are open, the first
of them at `variableStart`; `opens` are the offsets of the open parentheses, innermost first. -/
structure Scan where
  index : Nat
  nesting : Nat
  variableStart : Nat
  opens : List Nat
  pending : Text
  tokens : List Token
deriving DecidableEq

namespace Scan

/-- Before the first character. -/
def start : Scan := ⟨0, 0, 0, [], [], []⟩

/-- Takes one more character into the pending value. -/
def take (s : Scan) (c : Char) : Scan :=
  { s with index := s.index + 1, pending := c :: s.pending }

/-- The value that is pending before offset `index`, without the white space around it. -/
def value? (index : Nat) (pending : Text) : Option Token :=
  let raw : Text := pending.reverse
  let text : Text := raw.trim
  let start := index - pending.length + (raw.length - raw.trimFront.length)
  if text.isEmpty then none else some ⟨.value, text, start, start + text.length⟩

/-- Ends the pending value. -/
def flush (s : Scan) : Scan :=
  { s with pending := [], tokens := (value? s.index s.pending).toList ++ s.tokens }

/-- Ends the pending value and makes a token of the next character. -/
def split (s : Scan) (kind : TokenKind) (c : Char) : Scan :=
  let s := s.flush
  { s with index := s.index + 1, tokens := ⟨kind, [c], s.index, s.index + 1⟩ :: s.tokens }

/-- A failure at the next character. -/
def failHere (s : Scan) (source : Text) (cause : ScanCause) : Except (Located ScanCause) Scan :=
  .error ⟨cause, ⟨source, s.index, s.index + 1⟩⟩

/-- Reads a delimiter of variables.  If one character both opens and closes, it opens when no
variable is open. -/
def delimiter (s : Scan) (source : Text) (opening closing c : Char) :
    Except (Located ScanCause) Scan :=
  let opens := if opening == closing then s.nesting == 0 else c == opening
  if opens then
    let variableStart := if s.nesting == 0 then s.index else s.variableStart
    .ok (take { s with nesting := s.nesting + 1, variableStart := variableStart } c)
  else match s.nesting with
    | 0 => s.failHere source (.closingWithoutOpening c opening)
    | 1 => .ok (flush (take { s with nesting := 0 } c))
    | n + 2 => .ok (take { s with nesting := n + 1 } c)

/-- Reads a parenthesis or a separator outside variables. -/
def parenthesis (s : Scan) (source : Text) (c : Char) : Except (Located ScanCause) Scan :=
  if c == '(' then .ok { s.split .opening c with opens := s.index :: s.opens }
  else if c == ')' then
    match s.opens with
    | [] => s.failHere source .unmatchedClose
    | _ :: outer => .ok { s.split .closing c with opens := outer }
  else .ok (s.split .separator c)

/-- Reads the next character. -/
def step (o : Options) (source : Text) (s : Scan) (c : Char) : Except (Located ScanCause) Scan :=
  match o.tokenizer? c, o.pattern with
  | some .variable, .escaped opening closing => s.delimiter source opening closing c
  | some .parenthesis, _ => if s.nesting == 0 then s.parenthesis source c else .ok (s.take c)
  | some .operator, _ => if s.nesting == 0 then .ok (s.split .operator c) else .ok (s.take c)
  | _, _ => .ok (s.take c)

/-- The tokens after the last character, provided that nothing is open. -/
def finish (s : Scan) (source : Text) : Except (Located ScanCause) (List Token) :=
  if s.nesting != 0 then
    .error ⟨.unterminatedVariable, ⟨source, s.variableStart, source.length⟩⟩
  else match s.opens with
    | position :: _ => .error ⟨.unclosedParenthesis, ⟨source, position, position + 1⟩⟩
    | [] => .ok s.flush.tokens.reverse

end Scan

/-- The tokens of an equation. -/
def tokenize (o : Options) (source : Text) : Except (Located ScanCause) (List Token) := do
  (← source.foldlM (Scan.step o source) Scan.start).finish source

end Reckon
