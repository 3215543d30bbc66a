/-
What the screen shows of a text.

A command escapes the text that it has not written itself, and the screen undoes that when it reads the
markup.  The two take the text apart in the same way.  Where a tag could be read the escaped text has a
backslash, so that the same tag is read with it, and nowhere else is a tag read that was not there
before: what is put into the text begins no tag, and the first bracket behind any place is the same as
it was.  So the pieces of the escaped text are those of the text, with a backslash more at every tag, and
shown they make up the text.

This is about text in which only brackets mean something to the screen.  Backslashes, tabs, controls and
names of pictographs are changed whether they are escaped or not.
-/
import Reckon.Command.Screen
import Mathlib.Data.List.Infix
import Mathlib.Data.List.TakeWhile

namespace Reckon

/-! ### Pictographs -/

namespace Pictograph

theorem ending?_eq_none {s : Text} :
    ending? s = none ↔ ∀ code ∈ [":".toList, "-emoji:".toList, "-text:".toList], ¬code <+: s := by
  simp only [List.forall_mem_cons, ← List.isPrefixOf_iff_prefix]
  unfold ending?
  split_ifs <;> simp_all

/-- A code that is read is read as well if more text follows. -/
theorem readCode_of_append {s t : Text} (h : readCode (s ++ t) = none) : readCode s = none := by
  induction s with
  | nil => rfl
  | cons c rest ih =>
      rw [List.cons_append, readCode] at h
      split at h
      · cases h
      · rename_i hnone
        have hending : ending? (c :: rest) = none := ending?_eq_none.mpr fun code hcode hcoded =>
          ending?_eq_none.mp hnone code hcode (hcoded.trans (List.prefix_append (c :: rest) t))
        rw [readCode, hending]
        dsimp only
        split at h
        · rename_i hblank
          rw [if_pos hblank]
        · rename_i hblank
          rw [if_neg hblank, ih (Option.map_eq_none_iff.mp h)]
          rfl

end Pictograph

/-! ### Plain text -/

namespace Command.Screen

/-- Text in which only brackets can mean something to the screen. -/
def isPlain : Text → Bool
  | [] => true
  | c :: rest =>
    c != '\\' && c != '\t' && !isDropped c && (c != ':' || (Pictograph.readCode rest).isNone) &&
      isPlain rest

theorem isPlain_cons {c : Char} {rest : Text} :
    isPlain (c :: rest) = true ↔ c ≠ '\\' ∧ c ≠ '\t' ∧ isDropped c = false ∧
      (c = ':' → Pictograph.readCode rest = none) ∧ isPlain rest = true := by
  simp [isPlain, and_assoc, imp_iff_not_or]

theorem ne_of_isPlain {s : Text} (h : isPlain s = true) {c : Char} (hc : c ∈ s) :
    c ≠ '\\' ∧ c ≠ '\t' ∧ isDropped c = false := by
  induction s with
  | nil => cases hc
  | cons d rest ih =>
      obtain ⟨hback, htab, hkept, -, hrest⟩ := isPlain_cons.mp h
      rcases List.mem_cons.mp hc with rfl | hc
      · exact ⟨hback, htab, hkept⟩
      · exact ih hrest hc

theorem not_mem_of_isPlain {s : Text} (h : isPlain s = true) : '\\' ∉ s :=
  fun hc => (ne_of_isPlain h hc).1 rfl

/-- Parts of plain text are plain. -/
theorem isPlain_of_infix {s t : Text} (hst : s <:+: t) (h : isPlain t = true) : isPlain s = true := by
  obtain ⟨before, behind, rfl⟩ := hst
  have hsuffix : isPlain (s ++ behind) = true := by
    rw [List.append_assoc] at h
    induction before with
    | nil => exact h
    | cons c rest ih => exact ih (isPlain_cons.mp h).2.2.2.2
  clear h
  induction s with
  | nil => rfl
  | cons c rest ih =>
      obtain ⟨hback, htab, hkept, hcode, hrest⟩ := isPlain_cons.mp hsuffix
      exact isPlain_cons.mpr
        ⟨hback, htab, hkept, fun hc => Pictograph.readCode_of_append (hcode hc), ih hrest⟩

/-- There is no pictograph in plain text. -/
theorem replace_of_isPlain {s : Text} (h : isPlain s = true) : Pictograph.replace s = s := by
  unfold Pictograph.replace
  induction s with
  | nil => rfl
  | cons c rest ih =>
      obtain ⟨-, -, -, hcode, hrest⟩ := isPlain_cons.mp h
      rw [Pictograph.replaceBehind, ih hrest]
      by_cases hc : c = ':'
      · rw [hcode hc]
        simp
      · simp [hc]

theorem withoutEscapes_of_not_mem {s : Text} (h : '\\' ∉ s) : withoutEscapes s = s := by
  induction s with
  | nil => rfl
  | cons c rest ih =>
      rw [List.mem_cons, not_or] at h
      rw [withoutEscapes, ih h.2]
      rintro - rfl
      exact absurd rfl h.1

/-! ### Tags -/

/-- Whether a character opens or closes a tag. -/
def isBracket (c : Char) : Bool := c == '[' || c == ']'

/-- A tag is read if what follows its opening bracket can begin one and if the next bracket closes it. -/
theorem readTag?_eq_some {s inside rest : Text} :
    readTag? s = some (inside, rest) ↔
      s = inside ++ ']' :: rest ∧ (∀ c ∈ inside, isBracket c = false) ∧ s.head?.any beginsTag = true := by
  have hother : (fun c => c != '[' && c != ']') = fun c => !isBracket c := by
    funext c
    simp [isBracket, bne]
  unfold readTag?
  rw [hother]
  constructor
  · intro h
    split at h
    · rename_i hhead
      dsimp only at h
      split at h
      · rename_i behind hdrop
        cases h
        refine ⟨?_, fun c hc => ?_, hhead⟩
        · rw [← hdrop, List.prefix_iff_eq_append.mp (List.takeWhile_prefix _)]
        · simpa using List.mem_takeWhile_imp hc
      · cases h
    · cases h
  · rintro ⟨rfl, hinside, hhead⟩
    have htake : (inside ++ ']' :: rest).takeWhile (fun c => !isBracket c) = inside := by
      rw [List.takeWhile_append_of_pos fun c hc => by rw [hinside c hc]; rfl]
      exact List.append_nil _
    rw [if_pos hhead, htake, List.drop_left]
    rfl

/-- Whether a tag is read depends on the first character and on the first bracket. -/
theorem readTag?_eq_none {s : Text} :
    readTag? s = none ↔ ¬(s.head?.any beginsTag = true ∧ s.find? isBracket = some ']') := by
  constructor
  · rintro h ⟨hhead, hfind⟩
    obtain ⟨-, inside, rest, rfl, hinside⟩ := List.find?_eq_some_iff_append.mp hfind
    rw [readTag?_eq_some.mpr ⟨rfl, by simpa using hinside, hhead⟩] at h
    cases h
  · intro h
    rw [Option.eq_none_iff_forall_not_mem]
    rintro ⟨inside, rest⟩ hread
    obtain ⟨rfl, hinside, hhead⟩ := readTag?_eq_some.mp hread
    refine h ⟨hhead, List.find?_eq_some_iff_append.mpr ⟨rfl, inside, rest, rfl, ?_⟩⟩
    simpa using hinside

/-! ### Pieces -/

/-- A text that does not begin with a backslash begins with a tag if it begins with a bracket behind
which one is read. -/
theorem leadingTag?_cons {c : Char} {behind : Text} (h : c ≠ '\\') :
    leadingTag? (c :: behind) = if c = '[' then
      (readTag? behind).map fun (inside, rest) => (0, inside, rest) else none := by
  have hnone : backslashes (c :: behind) = 0 := by
    unfold backslashes
    rw [List.takeWhile_cons_of_neg (by simpa using h)]
    rfl
  unfold leadingTag?
  rw [hnone, List.drop_zero]
  by_cases hc : c = '['
  · subst hc
    rfl
  · rw [if_neg hc]
    split
    · rename_i hopen
      exact absurd (List.cons.inj hopen).1 hc
    · rfl

theorem tagText_append (inside rest : Text) :
    tagText inside ++ rest = '[' :: (inside ++ ']' :: rest) := by
  simp [tagText]

theorem readTag?_of_begins {inside rest : Text} (hinside : ∀ c ∈ inside, isBracket c = false)
    (hhead : inside.head?.any beginsTag = true) :
    readTag? (inside ++ ']' :: rest) = some (inside, rest) := by
  refine readTag?_eq_some.mpr ⟨rfl, hinside, ?_⟩
  cases inside with
  | nil => cases hhead
  | cons c more => exact hhead

theorem leadingTag?_tagText {inside rest : Text} (hinside : ∀ c ∈ inside, isBracket c = false)
    (hhead : inside.head?.any beginsTag = true) :
    leadingTag? (tagText inside ++ rest) = some (0, inside, rest) := by
  rw [tagText_append, leadingTag?_cons (by decide), if_pos rfl, readTag?_of_begins hinside hhead]
  rfl

theorem leadingTag?_backslash {inside rest : Text} (hinside : ∀ c ∈ inside, isBracket c = false)
    (hhead : inside.head?.any beginsTag = true) :
    leadingTag? ('\\' :: (tagText inside ++ rest)) = some (1, inside, rest) := by
  have hone : backslashes ('\\' :: (tagText inside ++ rest)) = 1 := rfl
  unfold leadingTag?
  rw [hone, List.drop_one, List.tail_cons, tagText_append]
  show (readTag? (inside ++ ']' :: rest)).map _ = _
  rw [readTag?_of_begins hinside hhead]
  rfl

theorem pieces_nil : pieces [] = [] := by
  rw [pieces]

theorem pieces_of_some {s inside rest : Text} {n : Nat} (h : leadingTag? s = some (n, inside, rest)) :
    pieces s = .tag n inside :: pieces rest := by
  cases s with
  | nil => cases h
  | cons c behind =>
      rw [pieces]
      split <;> rename_i hread <;> rw [h] at hread <;> cases hread
      rfl

theorem pieces_of_none {c : Char} {behind : Text} (h : leadingTag? (c :: behind) = none) :
    pieces (c :: behind) = withPlain c (pieces behind) := by
  rw [pieces]
  split
  · rename_i hread
    rw [h] at hread
    cases hread
  · rfl

/-- A piece as it stands in the text. -/
def Piece.text : Piece → Text
  | .plain s => s
  | .tag n inside => List.replicate n '\\' ++ tagText inside

/-- A piece of an escaped text. -/
def Piece.escaped : Piece → Piece
  | .plain s => .plain s
  | .tag n inside => .tag (2 * n + 1) inside

theorem flatMap_withPlain {f : Piece → Text} (h : ∀ s, f (.plain s) = s) (c : Char)
    (ps : List Piece) : (withPlain c ps).flatMap f = c :: ps.flatMap f := by
  cases ps with
  | nil => simp [withPlain, h]
  | cons p rest => cases p <;> simp [withPlain, h]

theorem map_escaped_withPlain (c : Char) (ps : List Piece) :
    (withPlain c ps).map Piece.escaped = withPlain c (ps.map Piece.escaped) := by
  cases ps with
  | nil => rfl
  | cons p rest => cases p <;> rfl

/-! ### Escaping -/

/-- The text with a backslash before every tag. -/
def escapedTags (s : Text) : Text := (pieces s).flatMap escapePiece

theorem escapedTags_nil : escapedTags [] = [] := by
  rw [escapedTags, pieces_nil]
  rfl

theorem escapedTags_of_none {c : Char} {behind : Text} (h : leadingTag? (c :: behind) = none) :
    escapedTags (c :: behind) = c :: escapedTags behind := by
  rw [escapedTags, pieces_of_none h, flatMap_withPlain fun _ => rfl]
  rfl

theorem escapedTags_tagText {inside rest : Text} (hinside : ∀ c ∈ inside, isBracket c = false)
    (hhead : inside.head?.any beginsTag = true) :
    escapedTags (tagText inside ++ rest) = '\\' :: (tagText inside ++ escapedTags rest) := by
  rw [escapedTags, pieces_of_some (leadingTag?_tagText hinside hhead)]
  rfl

/-- A text without backslashes, as it is taken apart: tags, and characters with which no tag begins. -/
inductive Unescaped : Text → Prop
  | nil : Unescaped []
  | tag {inside rest : Text} (hinside : ∀ c ∈ inside, isBracket c = false)
      (hhead : inside.head?.any beginsTag = true) (hrest : Unescaped rest) :
      Unescaped (tagText inside ++ rest)
  | plain {c : Char} {rest : Text} (hc : c ≠ '\\') (hnone : leadingTag? (c :: rest) = none)
      (hrest : Unescaped rest) : Unescaped (c :: rest)

namespace Unescaped

variable {s : Text}

theorem of_not_mem (h : '\\' ∉ s) : Unescaped s := by
  induction s using pieces.induct with
  | case1 => exact .nil
  | case2 c behind n inside rest hread ih =>
      rw [List.mem_cons, not_or] at h
      rw [leadingTag?_cons (Ne.symm h.1)] at hread
      split at hread
      · rename_i hopen
        subst hopen
        obtain ⟨⟨inside', rest'⟩, htag, hsame⟩ := Option.map_eq_some_iff.mp hread
        cases hsame
        obtain ⟨rfl, hinside, hhead⟩ := readTag?_eq_some.mp htag
        have hbegins : inside.head?.any beginsTag = true := by
          cases inside with
          | nil => cases hhead
          | cons d more => exact hhead
        rw [← tagText_append]
        exact .tag hinside hbegins (ih fun hmem => h.2 (by simp [hmem]))
      · cases hread
  | case3 c behind hread ih =>
      rw [List.mem_cons, not_or] at h
      exact .plain (Ne.symm h.1) hread (ih h.2)

/-- Escaping leaves the first bracket what it is. -/
theorem find?_escapedTags (h : Unescaped s) : (escapedTags s).find? isBracket = s.find? isBracket := by
  induction h with
  | nil => rw [escapedTags_nil]
  | tag hinside hhead _ _ => rw [escapedTags_tagText hinside hhead]; rfl
  | plain _ hnone _ ih => rw [escapedTags_of_none hnone, List.find?_cons, List.find?_cons, ih]

/-- What begins no tag begins none after escaping. -/
theorem head?_of_escapedTags (h : Unescaped s) (hhead : (escapedTags s).head?.any beginsTag = true) :
    s.head?.any beginsTag = true := by
  cases h with
  | nil => rwa [escapedTags_nil] at hhead
  | tag hinside hbegins _ =>
      rw [escapedTags_tagText hinside hbegins] at hhead
      cases hhead
  | plain _ hnone _ => rwa [escapedTags_of_none hnone] at hhead

theorem getLast?_escapedTags (h : Unescaped s) : (escapedTags s).getLast? = s.getLast? := by
  induction h with
  | nil => rw [escapedTags_nil]
  | @tag inside rest hinside hhead _ ih =>
      have hlast : (tagText inside).getLast? = some ']' := List.getLast?_concat
      rw [escapedTags_tagText hinside hhead, List.getLast?_cons, List.getLast?_append,
        List.getLast?_append, ih, hlast]
      cases rest.getLast? <;> rfl
  | plain _ hnone _ ih => rw [escapedTags_of_none hnone, List.getLast?_cons, List.getLast?_cons, ih]

/-- The pieces of the escaped text are those of the text, each tag with a backslash more. -/
theorem pieces_escapedTags (h : Unescaped s) :
    pieces (escapedTags s) = (pieces s).map Piece.escaped := by
  induction h with
  | nil => rw [escapedTags_nil, pieces_nil]; rfl
  | @tag inside rest hinside hhead _ ih =>
      have hread : leadingTag? ('\\' :: (tagText inside ++ escapedTags rest)) =
          some (1, inside, escapedTags rest) := leadingTag?_backslash hinside hhead
      rw [escapedTags_tagText hinside hhead, pieces_of_some hread,
        pieces_of_some (leadingTag?_tagText hinside hhead), ih]
      rfl
  | @plain c rest hc hnone hrest ih =>
      -- A bracket here begins a tag depending on the next character and the next bracket only, and both
      -- are what they were: a backslash that has come in is no beginning of a tag.
      have hstill : leadingTag? (c :: escapedTags rest) = none := by
        rw [leadingTag?_cons hc] at hnone ⊢
        split
        · rename_i hopen
          rw [if_pos hopen, Option.map_eq_none_iff, readTag?_eq_none] at hnone
          rw [Option.map_eq_none_iff, readTag?_eq_none, hrest.find?_escapedTags]
          exact fun hread => hnone ⟨hrest.head?_of_escapedTags hread.1, hread.2⟩
        · rfl
      rw [escapedTags_of_none hnone, pieces_of_none hstill, pieces_of_none hnone, ih,
        map_escaped_withPlain]

/-- The pieces make up the text. -/
theorem flatMap_text (h : Unescaped s) : (pieces s).flatMap Piece.text = s := by
  induction h with
  | nil => rw [pieces_nil]; rfl
  | tag hinside hhead _ ih =>
      rw [pieces_of_some (leadingTag?_tagText hinside hhead), List.flatMap_cons, ih]
      rfl
  | plain _ hnone _ ih => rw [pieces_of_none hnone, flatMap_withPlain fun _ => rfl, ih]

end Unescaped

theorem escape_of_isPlain {s : Text} (h : isPlain s = true) : escape s = escapedTags s := by
  have hback := not_mem_of_isPlain h
  have hlast : (escapedTags s).reverse.head? ≠ some '\\' := by
    rw [List.head?_reverse, (Unescaped.of_not_mem hback).getLast?_escapedTags]
    exact fun hlast => hback (List.mem_of_getLast? hlast)
  show withFinalEscape (escapedTags s) = escapedTags s
  unfold withFinalEscape
  split
  · rfl
  · rename_i hreverse
    exact absurd (congrArg List.head? hreverse) hlast
  · rfl

/-! ### What is shown -/

/-- A piece is shown as it stands in the text, if it has been escaped. -/
theorem renderPiece_escaped {p : Piece} (h : isPlain p.text = true) : renderPiece p.escaped = p.text := by
  have hback := not_mem_of_isPlain h
  cases p with
  | plain s =>
      show Pictograph.replace (withoutEscapes s) = s
      rw [show withoutEscapes s = s from withoutEscapes_of_not_mem hback]
      exact replace_of_isPlain h
  | tag n inside =>
      have hn : n = 0 := by
        by_contra hn
        exact hback (List.mem_append_left _ (List.mem_replicate.mpr ⟨hn, rfl⟩))
      subst hn
      exact replace_of_isPlain h

theorem flatMap_renderPiece {ps : List Piece} (h : ∀ p ∈ ps, isPlain p.text = true) :
    (ps.map Piece.escaped).flatMap renderPiece = ps.flatMap Piece.text := by
  rw [List.flatMap_map]
  exact List.flatMap_congr fun p hp => renderPiece_escaped (h p hp)

/-- Plain text that has been escaped is shown as it is, whatever is shown before it. -/
theorem flatMap_renderPiece_escape {s : Text} (h : isPlain s = true) :
    (pieces (escape s)).flatMap renderPiece = s := by
  have hs := Unescaped.of_not_mem (not_mem_of_isPlain h)
  rw [escape_of_isPlain h, hs.pieces_escapedTags, flatMap_renderPiece, hs.flatMap_text]
  intro p hp
  refine isPlain_of_infix ?_ h
  have hinfix := List.infix_of_mem_flatten (List.mem_map_of_mem (f := Piece.text) hp)
  rwa [← List.flatMap_def, hs.flatMap_text] at hinfix

/-! ### What is printed -/

theorem linesAt_cons (isEnd : Char → Bool) (c : Char) (rest : Text) :
    ∃ line more, linesAt isEnd rest = line :: more ∧
      linesAt isEnd (c :: rest) = if isEnd c then [] :: line :: more else (c :: line) :: more := by
  have hne : linesAt isEnd rest ≠ [] := by
    cases rest with
    | nil => exact List.cons_ne_nil _ _
    | cons d rest =>
        rw [linesAt]
        split
        · exact List.cons_ne_nil _ _
        · split <;> exact List.cons_ne_nil _ _
  obtain ⟨line, more, hlines⟩ := List.exists_cons_of_ne_nil hne
  exact ⟨line, more, hlines, by rw [linesAt, hlines]⟩

/-- The lines of a text make up the text. -/
theorem join_lines (s : Text) : Text.join ['\n'] (lines s) = s := by
  unfold lines
  induction s with
  | nil => rfl
  | cons c rest ih =>
      obtain ⟨line, more, hrest, hlines⟩ := linesAt_cons (· == '\n') c rest
      rw [hrest] at ih
      rw [hlines]
      split
      · rename_i hc
        rw [Text.join, ih, beq_iff_eq.mp hc]
        rfl
      · rw [← ih]
        cases more <;> rfl

theorem mem_of_mem_lines {s line : Text} {d : Char} (hline : line ∈ lines s) (hd : d ∈ line) : d ∈ s := by
  unfold lines at hline
  induction s generalizing line with
  | nil =>
      rw [List.mem_singleton.mp hline] at hd
      cases hd
  | cons c rest ih =>
      obtain ⟨first, more, hrest, hlines⟩ := linesAt_cons (· == '\n') c rest
      rw [hrest] at ih
      rw [hlines] at hline
      split at hline
      · rcases List.mem_cons.mp hline with rfl | hline
        · cases hd
        · exact List.mem_cons_of_mem c (ih hline hd)
      · rcases List.mem_cons.mp hline with rfl | hline
        · rcases List.mem_cons.mp hd with rfl | hd
          · exact List.mem_cons_self
          · exact List.mem_cons_of_mem c (ih List.mem_cons_self hd)
        · exact List.mem_cons_of_mem c (ih (List.mem_cons_of_mem first hline) hd)

theorem untabbedFrom_of_not_mem {line : Text} (h : '\t' ∉ line) :
    ∀ part, untabbedFrom part line = part.reverse ++ line := by
  induction line with
  | nil => intro part; rw [untabbedFrom, List.append_nil]
  | cons c rest ih =>
      intro part
      rw [List.mem_cons, not_or] at h
      rw [untabbedFrom, ih h.2, List.reverse_cons, List.append_assoc]
      · rfl
      · exact fun hc => h.1 hc.symm

theorem printed_of_isPlain {s : Text} (h : isPlain s = true) : printed s = s := by
  have hlines : (lines s).map untabbed = lines s := by
    refine List.map_congr_left (fun line hline => ?_) |>.trans (List.map_id _)
    exact untabbedFrom_of_not_mem (fun htab => (ne_of_isPlain h (mem_of_mem_lines hline htab)).2.1 rfl) []
  rw [printed, hlines, join_lines]

/-- Markup that shows a plain text is printed as this text. -/
theorem print_eq {markup shown : Text} (h : (pieces markup).flatMap renderPiece = shown)
    (hshown : isPlain shown = true) : console.print markup = shown ++ ['\n'] := by
  have hkept : shown.filter (!isDropped ·) = shown :=
    List.filter_eq_self.mpr fun c hc => by rw [(ne_of_isPlain hshown hc).2.2]; rfl
  show printed (render markup) ++ ['\n'] = _
  rw [render, h, hkept, printed_of_isPlain hshown]

/-- **Text that has been escaped is printed as it is,** whatever tags could be read in it. -/
theorem print_escape {s : Text} (h : isPlain s = true) :
    console.print (console.escape s) = s ++ ['\n'] :=
  print_eq (flatMap_renderPiece_escape h) h

/-- A text between tags is a piece. -/
theorem pieces_append {p rest : Text} (hp : p ≠ []) (hback : '\\' ∉ p) (hopen : '[' ∉ p)
    (hrest : ∃ n inside more, pieces rest = .tag n inside :: more) :
    pieces (p ++ rest) = .plain p :: pieces rest := by
  induction p with
  | nil => exact absurd rfl hp
  | cons c more ih =>
      rw [List.mem_cons, not_or] at hback hopen
      have hnone : leadingTag? (c :: (more ++ rest)) = none := by
        rw [leadingTag?_cons (Ne.symm hback.1), if_neg (Ne.symm hopen.1)]
      rw [List.cons_append, pieces_of_none hnone]
      cases more with
      | nil =>
          obtain ⟨n, inside, behind, htag⟩ := hrest
          rw [List.nil_append, htag]
          rfl
      | cons d more =>
          rw [ih (List.cons_ne_nil d more) hback.2 hopen.2]
          rfl

/-- **A report shows its heading, and behind it the text.**  The tags around the heading are not shown. -/
theorem print_report {heading s : Text} (hheading : heading ≠ []) (hopen : '[' ∉ heading)
    (h : isPlain (heading ++ ' ' :: s) = true) :
    console.print ("[red]".toList ++ heading ++ "[/red] ".toList ++ console.escape s) =
      heading ++ ' ' :: s ++ ['\n'] := by
  have hplain : isPlain heading = true := isPlain_of_infix (List.prefix_append _ _).isInfix h
  have hspaced : isPlain (' ' :: s) = true := isPlain_of_infix (List.suffix_append _ _).isInfix h
  have hnone : leadingTag? (' ' :: s) = none := by rw [leadingTag?_cons (by decide), if_neg (by decide)]
  have hescape : ' ' :: escape s = escape (' ' :: s) := by
    rw [escape_of_isPlain hspaced, escape_of_isPlain (isPlain_cons.mp hspaced).2.2.2.2,
      escapedTags_of_none hnone]
  -- The space is taken as escaped along with the text, so that one escaped text follows the second tag.
  have hmarkup : "[red]".toList ++ heading ++ "[/red] ".toList ++ escape s =
      tagText "red".toList ++ (heading ++ (tagText "/red".toList ++ escape (' ' :: s))) := by
    rw [← hescape]
    simp [tagText]
  have hstart : leadingTag? (tagText "red".toList ++
      (heading ++ (tagText "/red".toList ++ escape (' ' :: s)))) = some (0, "red".toList, _) :=
    leadingTag?_tagText (by simp [isBracket]) rfl
  have hend : leadingTag? (tagText "/red".toList ++ escape (' ' :: s)) =
      some (0, "/red".toList, escape (' ' :: s)) := leadingTag?_tagText (by simp [isBracket]) rfl
  refine print_eq ?_ h
  show (pieces (_ ++ escape s)).flatMap renderPiece = _
  rw [hmarkup, pieces_of_some hstart,
    pieces_append hheading (not_mem_of_isPlain hplain) hopen ⟨_, _, _, pieces_of_some hend⟩,
    pieces_of_some hend, List.flatMap_cons, List.flatMap_cons, List.flatMap_cons,
    flatMap_renderPiece_escape hspaced]
  have hshown : renderPiece (.plain heading) = heading := renderPiece_escaped (p := .plain heading) hplain
  rw [hshown]
  rfl

end Command.Screen
end Reckon
