/-
How text and tables appear on the screen.

The screen reads brackets as markup and names between colons as pictographs, drops some
controls, and turns a tab into spaces up to the next multiple of eight columns.  A tag is
escaped by a backslash; backslashes that stand before it already are doubled.  What is left of
that shows in two places: a backslash before a bracket that begins no tag is lost, and a single
backslash at the very end is doubled.

The columns of a table are as wide as their widest cell, where a tab counts for nothing and
any sign that ends a line ends a line of the cell.  Cells that turn out wider than that are
broken between words.
-/
import Reckon.Command.Console
import Reckon.Text.Width
import Reckon.Pictograph

namespace Reckon.Command.Screen

/-! ### Markup -/

/-- A part of a text with markup: text between tags, or a tag with the backslashes before it. -/
inductive Piece
  | plain (s : Text)
  | tag (backslashes : Nat) (inside : Text)

/-- Whether a character can begin the inside of a tag. -/
def beginsTag (c : Char) : Bool := ('a' ≤ c && c ≤ 'z') || c == '#' || c == '/' || c == '@'

/-- The inside of a tag whose opening bracket was read, and what follows its closing bracket.  A tag is
closed before another bracket opens. -/
def readTag? (s : Text) : Option (Text × Text) :=
  let inside := s.takeWhile fun c => c != '[' && c != ']'
  if s.head?.any beginsTag then
    match s.drop inside.length with
    | ']' :: rest => some (inside, rest)
    | _ => none
  else none

theorem length_of_readTag? {s inside rest : Text} (h : readTag? s = some (inside, rest)) :
    rest.length < s.length := by
  unfold readTag? at h
  dsimp only at h
  split at h
  · split at h
    · rename_i hdrop
      cases h
      have := congrArg List.length hdrop
      rw [List.length_drop, List.length_cons] at this
      omega
    · cases h
  · cases h

/-- A character put before the pieces of the text behind it. -/
def withPlain (c : Char) : List Piece → List Piece
  | .plain s :: rest => .plain (c :: s) :: rest
  | rest => .plain [c] :: rest

/-- How many backslashes a text begins with. -/
def backslashes (s : Text) : Nat := (s.takeWhile (· == '\\')).length

/-- The tag that a text begins with, behind backslashes: their number, the inside of the tag, and what
follows it. -/
def leadingTag? (s : Text) : Option (Nat × Text × Text) :=
  match s.drop (backslashes s) with
  | '[' :: rest => (readTag? rest).map fun (inside, rest) => (backslashes s, inside, rest)
  | _ => none

theorem length_of_leadingTag? {s inside rest : Text} {n : Nat}
    (h : leadingTag? s = some (n, inside, rest)) : rest.length < s.length := by
  unfold leadingTag? at h
  split at h
  · rename_i behind hdrop
    obtain ⟨⟨inside', rest'⟩, hread, hsame⟩ := Option.map_eq_some_iff.mp h
    cases hsame
    have hlength := congrArg List.length hdrop
    rw [List.length_drop, List.length_cons] at hlength
    have := length_of_readTag? hread
    omega
  · cases h

/-- The pieces of a text with markup. -/
def pieces : Text → List Piece
  | [] => []
  | c :: behind =>
    match _h : leadingTag? (c :: behind) with
    | some (n, inside, rest) => .tag n inside :: pieces rest
    | none => withPlain c (pieces behind)
termination_by s => s.length
decreasing_by
  · exact length_of_leadingTag? _h
  · simp

/-- A tag as it is written. -/
def tagText (inside : Text) : Text := '[' :: inside ++ [']']

/-- The text with a backslash more if it ends in a single one. -/
def withFinalEscape (s : Text) : Text :=
  match s.reverse with
  | '\\' :: '\\' :: _ => s
  | '\\' :: _ => s ++ ['\\']
  | _ => s

/-- A piece in a form in which it stands for itself. -/
def escapePiece : Piece → Text
  | .plain s => s
  | .tag n inside => List.replicate (2 * n + 1) '\\' ++ tagText inside

/-- The text in a form in which it stands for itself. -/
def escape (s : Text) : Text := withFinalEscape ((pieces s).flatMap escapePiece)

/-- The text without a backslash before a bracket. -/
def withoutEscapes : Text → Text
  | '\\' :: '[' :: rest => '[' :: withoutEscapes rest
  | c :: rest => c :: withoutEscapes rest
  | [] => []

/-- What is seen of a piece.  Two backslashes make one; behind a last one without a partner a tag is
text, otherwise it is a style and cannot be seen.  No name of a pictograph goes across the ends of a
piece. -/
def renderPiece : Piece → Text
  | .plain s => Pictograph.replace (withoutEscapes s)
  | .tag n inside => List.replicate (n / 2) '\\' ++
      if n % 2 == 1 then Pictograph.replace (tagText inside) else []

/-- Whether the screen drops a control character. -/
def isDropped (c : Char) : Bool :=
  c.toNat == 7 || c.toNat == 8 || c.toNat == 11 || c.toNat == 12 || c.toNat == 13

/-- What is seen of a text with markup. -/
def render (s : Text) : Text := ((pieces s).flatMap renderPiece).filter (!isDropped ·)

/-! ### Lines -/

/-- The parts of a text between the characters that end a line; there is always at least one. -/
def linesAt (isEnd : Char → Bool) : Text → List Text
  | [] => [[]]
  | c :: rest =>
    match linesAt isEnd rest with
    | [] => [[c]]
    | line :: more => if isEnd c then [] :: line :: more else (c :: line) :: more

/-- The lines that the screen breaks a text into. -/
def lines : Text → List Text := linesAt (· == '\n')

/-- The line with spaces for tabs.  `part` is what was read since the last tab, newest first. -/
def untabbedFrom (part : Text) : Text → Text
  | [] => part.reverse
  | '\t' :: rest =>
    let used := Text.width (part.reverse ++ [' '])
    part.reverse ++ List.replicate (1 + (8 - used % 8) % 8) ' ' ++ untabbedFrom [] rest
  | c :: rest => untabbedFrom (c :: part) rest

/-- The line with spaces for tabs. -/
def untabbed (line : Text) : Text := untabbedFrom [] line

/-- A text without markup, as it is printed. -/
def printed (s : Text) : Text := Text.join ['\n'] ((lines s).map untabbed)

/-! ### Words -/

/-- The words of a line, each with the white space behind it, and the first one also with that before
it.  `word` is what was read of the current word, newest first; `ended` holds once white space
follows it. -/
def wordsFrom (word : Text) (ended : Bool) : Text → List Text
  | [] => if word.isEmpty then [] else [word.reverse]
  | c :: rest =>
    if ended && !Text.isBlank c then word.reverse :: wordsFrom [c] false rest
    else
      wordsFrom (c :: word) (Text.isBlank c && (ended || word.head?.any (!Text.isBlank ·))) rest

/-- Lines of the given words, each as long as the limit lets it be; the white space at the end of a
line does not count.  `line` holds `used` columns already. -/
def arrange (limit : Nat) (line : Text) (used : Nat) : List Text → List Text
  | [] => [line]
  | word :: rest =>
    if used + Text.width (Text.trimBack word) ≤ limit then
      arrange limit (line ++ word) (used + Text.width word) rest
    else if line.isEmpty then arrange limit word (Text.width word) rest
    else line :: arrange limit word (Text.width word) rest

/-- The line without so much of the white space at its end as it has characters too many. -/
def withoutExcess (limit : Nat) (line : Text) : Text :=
  let blank := line.length - (Text.trimBack line).length
  line.take (line.length - min blank (line.length - limit))

/-- The first clusters that fit into the limit; a space stands for a half that is left. -/
def cut : Nat → List Text.Cluster → Text
  | _, [] => []
  | limit, g :: rest =>
    if limit == 0 then []
    else if g.columns ≤ limit then g.text ++ cut (limit - g.columns) rest
    else [' ']

/-- The line with spaces behind it up to a width. -/
def padded (width : Nat) (line : Text) : Text :=
  line ++ List.replicate (width - Text.width line) ' '

/-- The line brought to a width, with spaces behind it or with an ellipsis for what is too much.  A
joiner at the end of the line takes away a column of what is put behind it, and one more space
makes up for that. -/
def fitted (width : Nat) (line : Text) : Text :=
  padded width (if width < Text.width line then cut (width - 1) (Text.clusters line) ++ ['…']
    else padded width line)

/-! ### Tables -/

/-- Whether a character ends a line when the width of a cell is measured. -/
def isLineEnd (c : Char) : Bool :=
  let n := c.toNat
  (10 ≤ n && n ≤ 13) || (28 ≤ n && n ≤ 30) || n == 0x85 || n == 0x2028 || n == 0x2029

/-- The width that a cell asks for. -/
def cellWidth (cell : Text) : Nat := ((linesAt isLineEnd cell).map Text.width).foldl max 0

/-- The widths of the columns: each is as wide as its widest cell. -/
def widths (columns : List Column) (rows : List (List Text)) : List Nat :=
  rows.foldl (fun ws cells => ws.zipWith max (cells.map cellWidth))
    (columns.map fun c => cellWidth c.heading)

/-- The lines of a cell in a column of the given width. -/
def cellLines (width : Nat) (atRight : Bool) (cell : Text) : List Text :=
  if atRight then [List.replicate (width - Text.width cell) ' ' ++ cell]
  else (lines cell).flatMap fun line =>
    (arrange width [] 0 (wordsFrom [] false (untabbed line))).map fun part =>
      fitted width (withoutExcess width part)

/-- A text in the middle of a width, one space nearer to the left if it cannot be exact. -/
def center (width : Nat) (s : Text) : Text :=
  let left := (width - Text.width s) / 2
  List.replicate left ' ' ++ s ++ List.replicate (width - Text.width s - left) ' '

/-- A rule between rows. -/
def rule (left stroke between right : Char) (widths : List Nat) : Text :=
  left :: Text.join [between] (widths.map fun w => List.replicate (w + 2) stroke) ++ [right]

/-- One line of cells that have the widths of their columns. -/
def line (bar : Char) (cells : List Text) : Text :=
  bar :: Text.join [bar] (cells.map fun s => ' ' :: s ++ [' ']) ++ [bar]

/-- The lines of a row, as many as its tallest cell has. -/
def rowLines (bar : Char) (columns : List Column) (widths : List Nat) (cells : List Text) :
    List Text :=
  let split := (columns.zip (widths.zip cells)).map fun (c, w, s) => (w, cellLines w c.atRight s)
  let height := (split.map fun (_, ls) => ls.length).foldl max 0
  (List.range height).map fun i =>
    line bar (split.map fun (w, ls) => ls[i]?.getD (List.replicate w ' '))

/-- The lines of a table without markup. -/
def tableLines (t : Table) : List Text :=
  let ws := widths t.columns t.rows
  let total := ws.foldl (fun n w => n + (w + 3)) 1
  [center total t.title, rule '┏' '━' '┳' '┓' ws] ++
    rowLines '┃' t.columns ws (t.columns.map (·.heading)) ++
    [rule '┡' '━' '╇' '┩' ws] ++
    t.rows.flatMap (rowLines '│' t.columns ws) ++
    [rule '└' '─' '┴' '┘' ws]

/-- What is seen of a table with markup. -/
def renderTable (t : Table) : Table where
  title := render t.title
  columns := t.columns.map fun c => { c with heading := render c.heading }
  rows := t.rows.map fun cells => cells.map render

/-- The screen as a console. -/
def console : Console where
  escape := escape
  print markup := printed (render markup) ++ ['\n']
  table t := (tableLines (renderTable t)).flatMap (· ++ ['\n'])

end Reckon.Command.Screen
