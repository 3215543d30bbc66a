/-
Pictographs in text.

A name between two colons stands for a pictograph.  Behind the name a dash can ask for a form:
`-emoji` for the coloured one, `-text` for the plain one.  What is not the name of any
pictograph stays as it is written, both colons included, so that its second colon does not
begin another name.
-/
import Reckon.Text
import Reckon.Pictograph.Names

namespace Reckon.Pictograph

/-! ### Names -/

/-- The small form of a letter, as far as names have it: those of the basic range, those with a mark
of the next, and the signs that only look different from them. -/
def small (c : Char) : Char :=
  let n := c.toNat
  if ('A' ≤ c && c ≤ 'Z') || (0xc0 ≤ n && n ≤ 0xde && n != 0xd7) then Char.ofNat (n + 32)
  else if n == 0x212a then 'k'
  else if n == 0x212b then 'å'
  else c

/-- The pictograph of a name; it does not matter whether letters are small. -/
def named? (name : Text) : Option Text :=
  let wanted := String.ofList (name.map small)
  (names.find? fun (n, _) => n == wanted).map fun (_, p) => p.toList

/-! ### Names in a text -/

/-- What stands between two colons, and how many characters it takes with the second one. -/
structure Code where
  name : Text
  form : Text
  length : Nat

/-- The end of a code that lies ahead: the sign for the form, and the length. -/
def ending? (s : Text) : Option (Text × Nat) :=
  if ":".toList.isPrefixOf s then some ([], 1)
  else if "-emoji:".toList.isPrefixOf s then some (['\ufe0f'], 7)
  else if "-text:".toList.isPrefixOf s then some (['\ufe0e'], 6)
  else none

/-- The code behind a colon; it ends as early as it can, and there is no white space in it. -/
def readCode : Text → Option Code
  | [] => none
  | c :: rest =>
    match ending? (c :: rest) with
    | some (form, length) => some ⟨[], form, length⟩
    | none =>
      if Text.isBlank c then none
      else (readCode rest).map fun code => ⟨c :: code.name, code.form, code.length + 1⟩

/-- The text with pictographs for their names, but for the first characters, which are left out. -/
def replaceBehind : Nat → Text → Text
  | _, [] => []
  | skipped + 1, _ :: rest => replaceBehind skipped rest
  | 0, c :: rest =>
    if c != ':' then c :: replaceBehind 0 rest
    else match readCode rest with
      | none => c :: replaceBehind 0 rest
      | some code => match named? code.name with
        | some p => p ++ code.form ++ replaceBehind code.length rest
        | none => c :: rest.take code.length ++ replaceBehind code.length rest

/-- The text with pictographs for their names. -/
def replace (s : Text) : Text := replaceBehind 0 s

end Reckon.Pictograph
