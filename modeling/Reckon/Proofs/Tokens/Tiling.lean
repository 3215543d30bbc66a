/-
Tokens cover the text that they are made from.

A text is tiled by tokens if it consists of their texts, one after the other, and of white space
before, between and behind them; `Tiled` says so piece by piece.  Everything that has been
split off a text is tiled at any time: white space and a value without it tile a pending text,
and a character that splits is a token itself.  What a tiling says about offsets, order and
gaps then follows for all texts and tokens, without regard to the scan.
-/
import Reckon.Proofs.Tokens.Reading
import Reckon.Proofs.Failing

namespace Reckon

namespace Text

/-! ### Parts of a text -/

/-- The text begins and ends with something else than white space. -/
def IsTrimmed (s : Text) : Prop :=
  ∃ c d, s.head? = some c ∧ s.getLast? = some d ∧ isBlank c = false ∧ isBlank d = false

theorem IsTrimmed.ne_nil {s : Text} (h : s.IsTrimmed) : s ≠ [] := by
  rintro rfl
  obtain ⟨c, d, hhead, -⟩ := h
  cases hhead

theorem exists_trimBack (s : Text) : ∃ back, s = s.trimBack ++ back ∧ ∀ c ∈ back, isBlank c = true := by
  refine ⟨(s.reverse.takeWhile isBlank).reverse, ?_, ?_⟩
  · rw [trimBack, ← List.reverse_append, List.takeWhile_append_dropWhile, List.reverse_reverse]
  · intro c hc
    exact List.mem_takeWhile_imp (List.mem_reverse.mp hc)

/-- Only white space is trimmed off. -/
theorem exists_trim (s : Text) :
    ∃ front back, s = front ++ s.trim ++ back ∧ (∀ c ∈ front, isBlank c = true) ∧
      ∀ c ∈ back, isBlank c = true := by
  obtain ⟨back, hback, hblank⟩ := exists_trimBack s.trimFront
  refine ⟨s.takeWhile isBlank, back, ?_, fun c hc => List.mem_takeWhile_imp hc, hblank⟩
  rw [List.append_assoc, trim, ← hback]
  exact List.takeWhile_append_dropWhile.symm

theorem isBlank_of_head?_dropWhile {s : Text} {c : Char}
    (h : (s.dropWhile isBlank).head? = some c) : isBlank c = false := by
  have hnot := List.head?_dropWhile_not isBlank s
  rw [h] at hnot
  simpa using hnot

theorem isTrimmed_trim {s : Text} (h : s.trim ≠ []) : s.trim.IsTrimmed := by
  obtain ⟨back, hback, -⟩ := exists_trimBack s.trimFront
  refine ⟨s.trim.head h, s.trim.getLast h, List.head?_eq_some_head h,
    List.getLast?_eq_some_getLast h, ?_, ?_⟩
  · have hhead : s.trimFront.head? = some (s.trim.head h) := by
      rw [hback]
      exact List.head?_append_of_ne_nil _ h ▸ List.head?_eq_some_head h
    exact isBlank_of_head?_dropWhile hhead
  · have hlast : (s.trimFront.reverse.dropWhile isBlank).head? = some (s.trim.getLast h) := by
      rw [← List.getLast?_reverse]
      exact List.getLast?_eq_some_getLast h
    exact isBlank_of_head?_dropWhile hlast

/-- Nothing but the white space around a text without any at its ends is trimmed off. -/
theorem trim_between {front text back : Text} (hfront : ∀ c ∈ front, isBlank c = true)
    (htext : text.IsTrimmed) (hback : ∀ c ∈ back, isBlank c = true) :
    (front ++ text ++ back).trimFront = text ++ back ∧ (front ++ text ++ back).trim = text := by
  obtain ⟨c, d, hhead, hlast, hc, hd⟩ := htext
  have hdropFront : (front ++ text ++ back).trimFront = text ++ back := by
    obtain ⟨rest, rfl⟩ : ∃ rest, text = c :: rest := ⟨text.tail, (List.cons_head?_tail hhead).symm⟩
    rw [trimFront, List.append_assoc, List.dropWhile_append_of_pos hfront, List.cons_append]
    exact List.dropWhile_cons_of_neg (by simp [hc])
  refine ⟨hdropFront, ?_⟩
  have hreverse : text.reverse.dropWhile isBlank = text.reverse := by
    rw [← List.head?_reverse] at hlast
    rw [← List.cons_head?_tail hlast]
    exact List.dropWhile_cons_of_neg (by simp [hd])
  have hbackReverse : ∀ c ∈ back.reverse, isBlank c = true :=
    fun c hc => hback c (List.mem_reverse.mp hc)
  rw [trim, hdropFront, trimBack, List.reverse_append, List.dropWhile_append_of_pos hbackReverse,
    hreverse, List.reverse_reverse]

/-- A text is white space, or it has some around a part without any at its ends. -/
theorem blank_or_between (s : Text) :
    (∀ c ∈ s, isBlank c = true) ∨
      ∃ front text back : Text, s = front ++ text ++ back ∧ (∀ c ∈ front, isBlank c = true) ∧
        text.IsTrimmed ∧ ∀ c ∈ back, isBlank c = true := by
  obtain ⟨front, back, hs, hfront, hback⟩ := exists_trim s
  by_cases hempty : s.trim = []
  · refine .inl fun c hc => ?_
    rw [hs, hempty, List.append_nil] at hc
    exact (List.mem_append.mp hc).elim (hfront c) (hback c)
  · exact .inr ⟨front, s.trim, back, hs, hfront, isTrimmed_trim hempty, hback⟩

/-- The part of a text between two others. -/
theorem slice_append (a b c : Text) :
    (a ++ b ++ c).slice a.length ((a.length : Int) + b.length) = b := by
  have ha : a.length ≤ (a ++ b ++ c).length := by
    rw [List.length_append, List.length_append]
    omega
  have hb : a.length + b.length ≤ (a ++ b ++ c).length := by
    rw [List.length_append, List.length_append]
    omega
  rw [slice, ← Int.natCast_add, position_natCast hb, position_natCast ha, ← List.length_append,
    List.take_left, List.drop_left]

end Text

/-! ### Tilings -/

/-- The texts that tokens of a kind may have: values are trimmed, and all others are one character
that the table of claimed characters lists for them. -/
def Options.Spells (o : Options) (kind : TokenKind) (text : Text) : Prop :=
  match kind with
  | .value => text.IsTrimmed
  | .operator => ∃ c, text = [c] ∧ (c, .operator) ∈ o.delimiterTable
  | .opening => text = ['('] ∧ ('(', .parenthesis) ∈ o.delimiterTable
  | .closing => text = [')'] ∧ (')', .parenthesis) ∈ o.delimiterTable
  | .separator => text = [','] ∧ (',', .parenthesis) ∈ o.delimiterTable

variable {o : Options}

theorem Options.Spells.ne_nil {kind : TokenKind} {text : Text} (h : o.Spells kind text) :
    text ≠ [] := by
  cases kind with
  | value => exact Text.IsTrimmed.ne_nil h
  | operator =>
      obtain ⟨c, rfl, -⟩ := h
      exact List.cons_ne_nil c []
  | opening | closing | separator =>
      rw [h.1]
      exact List.cons_ne_nil _ []

/-- A text that begins at some offset consists of tokens with white space around them. -/
inductive Tiled (o : Options) : Nat → Text → List Token → Prop
  | last {n : Nat} {gap : Text} (hgap : ∀ c ∈ gap, Text.isBlank c = true) : Tiled o n gap []
  | token {n : Nat} {gap text s : Text} {kind : TokenKind} {ts : List Token}
      (hgap : ∀ c ∈ gap, Text.isBlank c = true) (spells : o.Spells kind text)
      (h : Tiled o (n + gap.length + text.length) s ts) :
      Tiled o n (gap ++ text ++ s)
        (⟨kind, text, (n + gap.length : Nat), (n + gap.length : Nat) + text.length⟩ :: ts)

namespace Tiled

variable {n : Nat} {gap text s t : Text} {kind : TokenKind} {ts us : List Token}

theorem nil : Tiled o n [] [] := .last fun _ hc => absurd hc List.not_mem_nil

/-- A single token. -/
theorem single (spells : o.Spells kind text) : Tiled o n text [⟨kind, text, n, n + text.length⟩] := by
  have hgap : ∀ c ∈ ([] : Text), Text.isBlank c = true := fun _ hc => absurd hc List.not_mem_nil
  simpa using token (n := n) hgap spells nil

theorem blank_append (hgap : ∀ c ∈ gap, Text.isBlank c = true) (h : Tiled o (n + gap.length) s ts) :
    Tiled o n (gap ++ s) ts := by
  cases h with
  | last hlast => exact .last fun c hc => (List.mem_append.mp hc).elim (hgap c) (hlast c)
  | token hmore spells h =>
      rename_i more text s kind ts
      have hboth : ∀ c ∈ gap ++ more, Text.isBlank c = true :=
        fun c hc => (List.mem_append.mp hc).elim (hgap c) (hmore c)
      rw [Nat.add_assoc n, ← List.length_append] at h ⊢
      rw [← List.append_assoc, ← List.append_assoc]
      exact token hboth spells h

theorem append (h : Tiled o n s ts) (h' : Tiled o (n + s.length) t us) :
    Tiled o n (s ++ t) (ts ++ us) := by
  induction h with
  | last hgap => exact blank_append hgap h'
  | token hgap spells _ ih =>
      rw [List.append_assoc]
      refine token hgap spells (ih ?_)
      simpa [Nat.add_assoc] using h'

/-- Every token of a tiling stands where it says. -/
theorem exists_of_mem (h : Tiled o n s ts) {t : Token} (ht : t ∈ ts) :
    ∃ before after : Text, s = before ++ t.text ++ after ∧ t.start = (n + before.length : Nat) ∧
      t.stop = t.start + t.text.length ∧ o.Spells t.kind t.text := by
  induction h with
  | last => cases ht
  | token hgap spells h ih =>
      rename_i n gap text s kind ts
      rcases List.mem_cons.mp ht with rfl | ht
      · exact ⟨gap, s, rfl, rfl, rfl, spells⟩
      · obtain ⟨before, after, hs, hstart, hrest⟩ := ih ht
        refine ⟨gap ++ text ++ before, after, by rw [hs]; simp, ?_, hrest⟩
        rw [hstart]
        simp [Nat.add_assoc]

theorem pairwise (h : Tiled o n s ts) : ts.Pairwise fun t u => t.stop ≤ u.start := by
  induction h with
  | last => exact .nil
  | token hgap spells h ih =>
      refine List.pairwise_cons.mpr ⟨fun u hu => ?_, ih⟩
      obtain ⟨before, -, -, hstart, -⟩ := h.exists_of_mem hu
      rw [hstart]
      push_cast
      omega

/-- Whatever is not white space lies in a token. -/
theorem exists_around (h : Tiled o n s ts) {i : Nat} {c : Char} (hi : s[i]? = some c)
    (hc : Text.isBlank c = false) : ∃ t ∈ ts, t.start ≤ (n + i : Nat) ∧ (n + i : Nat) < t.stop := by
  induction h generalizing i with
  | last hgap =>
      rw [hgap c (List.mem_of_getElem? hi)] at hc
      cases hc
  | token hgap spells h ih =>
      rename_i n gap text s kind ts
      -- The character stands in the gap, in the token behind it, or further on.
      by_cases hbefore : i < gap.length
      · rw [List.append_assoc, List.getElem?_append_left hbefore] at hi
        rw [hgap c (List.mem_of_getElem? hi)] at hc
        cases hc
      by_cases hinside : i < gap.length + text.length
      · refine ⟨_, List.mem_cons_self, ?_⟩
        dsimp only
        omega
      · rw [List.getElem?_append_right (by rw [List.length_append]; omega)] at hi
        obtain ⟨t, ht, hstart, hstop⟩ := ih hi
        rw [List.length_append] at hstart hstop
        exact ⟨t, List.mem_cons_of_mem _ ht, by omega, by omega⟩

end Tiled

/-! ### What has been split so far -/

namespace Scan

theorem value?_blank {raw : Text} (h : ∀ c ∈ raw, Text.isBlank c = true) (index : Nat) :
    value? index raw.reverse = none := by
  have hempty : raw.trim = [] := by
    rw [Text.trim, Text.trimFront, List.dropWhile_eq_nil_iff.mpr h]
    rfl
  unfold value?
  dsimp only
  rw [List.reverse_reverse, hempty]
  rfl

/-- A pending text makes a value of what it has between white space. -/
theorem value?_trimmed {front text back : Text} (index : Nat)
    (hfront : ∀ c ∈ front, Text.isBlank c = true) (htext : text.IsTrimmed)
    (hback : ∀ c ∈ back, Text.isBlank c = true) :
    value? index (front ++ text ++ back).reverse =
      some ⟨.value, text, (index - (front ++ text ++ back).length + front.length : Nat),
        (index - (front ++ text ++ back).length + front.length : Nat) + text.length⟩ := by
  obtain ⟨htrimFront, htrim⟩ := Text.trim_between hfront htext hback
  have hstart : (front ++ text ++ back).length - (text ++ back).length = front.length := by
    simp only [List.length_append]
    omega
  unfold value?
  dsimp only
  rw [List.reverse_reverse, List.length_reverse, htrim, htrimFront, hstart,
    if_neg (by simpa using htext.ne_nil)]

theorem value?_between {front text back : Text} (n : Nat)
    (hfront : ∀ c ∈ front, Text.isBlank c = true) (htext : text.IsTrimmed)
    (hback : ∀ c ∈ back, Text.isBlank c = true) :
    value? (n + (front ++ text ++ back).length) (front ++ text ++ back).reverse =
      some ⟨.value, text, (n + front.length : Nat), (n + front.length : Nat) + text.length⟩ := by
  rw [value?_trimmed _ hfront htext hback, Nat.add_sub_cancel]

end Scan

theorem tiled_value (n : Nat) (raw : Text) :
    Tiled o n raw (Scan.value? (n + raw.length) raw.reverse).toList := by
  rcases Text.blank_or_between raw with hblank | ⟨front, text, back, rfl, hfront, htext, hback⟩
  · rw [Scan.value?_blank hblank]
    exact .last hblank
  · rw [Scan.value?_between n hfront htext hback]
    exact .token hfront htext (.last hback)

namespace Scan

/-- What has been read is tiled by the tokens so far, up to the pending value. -/
structure Tiles (o : Options) (done : Text) (s : Scan) : Prop where
  index : s.index = done.length
  tiled : ∃ before, done = before ++ s.pending.reverse ∧ Tiled o 0 before s.tokens.reverse

variable {done : Text} {s : Scan} {c : Char}

theorem tiles_start : Tiles o [] start := ⟨rfl, [], rfl, .nil⟩

theorem Tiles.take (h : Tiles o done s) (c : Char) : Tiles o (done ++ [c]) (s.take c) := by
  obtain ⟨before, hdone, htiled⟩ := h.tiled
  refine ⟨?_, before, ?_, htiled⟩
  · rw [List.length_append, ← h.index]
    rfl
  · rw [hdone, Scan.take, List.reverse_cons, List.append_assoc]

theorem Tiles.flush (h : Tiles o done s) :
    Tiles o done s.flush ∧ Tiled o 0 done s.flush.tokens.reverse := by
  obtain ⟨before, hdone, htiled⟩ := h.tiled
  have hvalue := tiled_value (o := o) (0 + before.length) s.pending.reverse
  have hindex : 0 + before.length + s.pending.reverse.length = s.index := by
    rw [h.index, hdone, List.length_append]
    omega
  rw [hindex, List.reverse_reverse] at hvalue
  have hall : Tiled o 0 done s.flush.tokens.reverse := by
    rw [hdone, Scan.flush, List.reverse_append]
    refine htiled.append ?_
    cases hopt : value? s.index s.pending with
    | none => rwa [hopt] at hvalue
    | some t => rwa [hopt] at hvalue
  exact ⟨⟨h.index, done, (List.append_nil done).symm, hall⟩, hall⟩

theorem Tiles.split {kind : TokenKind} (h : Tiles o done s) (spells : o.Spells kind [c]) :
    Tiles o (done ++ [c]) (s.split kind c) := by
  obtain ⟨-, htiled⟩ := h.flush
  refine ⟨?_, done ++ [c], (List.append_nil _).symm, ?_⟩
  · rw [List.length_append, ← h.index]
    rfl
  · have hsingle := Tiled.single (n := 0 + done.length) spells
    rw [Nat.zero_add, ← h.index] at hsingle
    show Tiled o 0 (done ++ [c]) (⟨kind, [c], s.index, s.index + 1⟩ :: s.flush.tokens).reverse
    rw [List.reverse_cons]
    refine htiled.append ?_
    rw [Nat.zero_add, ← h.index]
    exact hsingle

/-- A step that succeeds takes in one more character. -/
theorem Tiles.step {source : Text} {s' : Scan} (h : Tiles o done s)
    (hstep : step o source s c = .ok s') : Tiles o (done ++ [c]) s' := by
  have hlisted : ∀ {kind}, o.tokenizer? c = some kind → (c, kind) ∈ o.delimiterTable :=
    Options.mem_delimiterTable.mpr
  cases reading_of_step hstep with
  | taken => exact h.take c
  | opened | closedInner =>
      obtain ⟨hindex, htiled⟩ := h.take c
      exact ⟨hindex, htiled⟩
  | closedOuter =>
      obtain ⟨hindex, htiled⟩ := (h.take c).flush.1
      exact ⟨hindex, htiled⟩
  | openParenthesis claimed _ hc =>
      subst hc
      have spells : o.Spells .opening ['('] := ⟨rfl, hlisted claimed⟩
      obtain ⟨hindex, htiled⟩ := h.split spells
      exact ⟨hindex, htiled⟩
  | closeParenthesis claimed _ hc =>
      subst hc
      have spells : o.Spells .closing [')'] := ⟨rfl, hlisted claimed⟩
      obtain ⟨hindex, htiled⟩ := h.split spells
      exact ⟨hindex, htiled⟩
  | separator claimed _ hc =>
      subst hc
      exact h.split ⟨rfl, hlisted claimed⟩
  | operator claimed => exact h.split ⟨c, rfl, hlisted claimed⟩

theorem tiles_of_run {source : Text} (h : done.foldlM (step o source) start = .ok s) :
    Tiles o done s :=
  Failing.foldlM_keeps tiles_start (fun _ _ _ _ htiles hstep => Tiles.step htiles hstep) h

end Scan

theorem tiled_of_tokenize {source : Text} {tokens : List Token}
    (h : tokenize o source = .ok tokens) : Tiled o 0 source tokens := by
  obtain ⟨s, hs, hfinish⟩ := Failing.bind_eq_ok.mp h
  obtain ⟨-, -, rfl⟩ := Scan.finish_eq_ok.mp hfinish
  exact (Scan.tiles_of_run hs).flush.2

/-! ### What a tiling means -/

/-- The texts of tokens with the white space that stands between them in the source. -/
def refill (source : Text) (index : Int) : List Token → Text
  | [] => (source.slice index source.length).filter Text.isBlank
  | t :: rest =>
    (source.slice index t.start).filter Text.isBlank ++ t.text ++ refill source t.stop rest

theorem Tiled.refill {n : Nat} {s : Text} {ts : List Token} (h : Tiled o n s ts) :
    ∀ before : Text, before.length = n → refill (before ++ s) n ts = s := by
  induction h with
  | last hgap =>
      rename_i gap
      rintro before rfl
      have hslice := Text.slice_append before gap []
      rw [List.append_nil] at hslice
      rw [Reckon.refill, List.length_append, Int.natCast_add, hslice]
      exact List.filter_eq_self.mpr hgap
  | token hgap spells h ih =>
      rename_i gap text s kind ts
      rintro before rfl
      -- Behind the first token the rest of the text is refilled as if it stood alone.
      have hrest := ih (before ++ gap ++ text) (by simp [Nat.add_assoc])
      have hslice := Text.slice_append before gap (text ++ s)
      simp only [List.append_assoc] at hrest hslice ⊢
      rw [Reckon.refill]
      dsimp only
      rw [Int.natCast_add, hslice, List.filter_eq_self.mpr hgap]
      rw [Int.natCast_add, Int.natCast_add] at hrest
      rw [hrest, List.append_assoc]

/-- Tokens that cover a text. -/
structure Covers (o : Options) (source : Text) (tokens : List Token) : Prop where
  nonempty : ∀ t ∈ tokens, t.text ≠ []
  inside : ∀ t ∈ tokens, 0 ≤ t.start ∧ t.start < t.stop ∧ t.stop ≤ source.length
  text : ∀ t ∈ tokens, t.text = source.slice t.start t.stop
  spells : ∀ t ∈ tokens, o.Spells t.kind t.text
  /-- Tokens do not overlap, and stand in their order. -/
  ordered : tokens.Pairwise fun t u => t.stop ≤ u.start
  /-- Whatever is not white space lies in one token. -/
  once : ∀ (i : Nat) (c : Char), source[i]? = some c → Text.isBlank c = false →
    ∃! t, t ∈ tokens ∧ t.start ≤ i ∧ i < t.stop
  /-- Nothing but white space stands between tokens. -/
  refills : refill source 0 tokens = source

theorem eq_of_pairwise_of_around {ts : List Token} {i : Int}
    (h : ts.Pairwise fun t u => t.stop ≤ u.start) {t u : Token} (ht : t ∈ ts) (hu : u ∈ ts)
    (hti : t.start ≤ i ∧ i < t.stop) (hui : u.start ≤ i ∧ i < u.stop) : t = u := by
  induction h with
  | nil => cases ht
  | cons hfirst _ ih =>
      rcases List.mem_cons.mp ht with rfl | htrest <;> rcases List.mem_cons.mp hu with rfl | hurest
      · rfl
      · have := hfirst u hurest
        omega
      · have := hfirst t htrest
        omega
      · exact ih htrest hurest

theorem Tiled.covers {source : Text} {tokens : List Token} (h : Tiled o 0 source tokens) :
    Covers o source tokens where
  nonempty t ht := by
    obtain ⟨-, -, -, -, -, spells⟩ := h.exists_of_mem ht
    exact spells.ne_nil
  inside t ht := by
    obtain ⟨before, after, rfl, hstart, hstop, spells⟩ := h.exists_of_mem ht
    have hpos := List.length_pos_iff.mpr spells.ne_nil
    simp only [List.length_append]
    omega
  text t ht := by
    obtain ⟨before, after, rfl, hstart, hstop, -⟩ := h.exists_of_mem ht
    rw [hstop, hstart, Nat.zero_add, Text.slice_append]
  spells t ht := by
    obtain ⟨-, -, -, -, -, spells⟩ := h.exists_of_mem ht
    exact spells
  ordered := h.pairwise
  once i c hi hc := by
    obtain ⟨t, ht, hstart, hstop⟩ := h.exists_around hi hc
    rw [Nat.zero_add] at hstart hstop
    refine ⟨t, ⟨ht, hstart, hstop⟩, fun u ⟨hu, haround⟩ => ?_⟩
    exact eq_of_pairwise_of_around h.pairwise hu ht haround ⟨hstart, hstop⟩
  refills := h.refill [] rfl

/--
**Tokens cover the source.**

Whatever the options are, the tokens of a text stand in it in their order and without overlap, each
with the very text that its offsets mean.  Values are trimmed, any other token is a character that
the options list for it, and nothing but white space is left out.
-/
theorem tokenize_covers {source : Text} {tokens : List Token}
    (h : tokenize o source = .ok tokens) : Covers o source tokens :=
  (tiled_of_tokenize h).covers

/-- A text with white space around its tokens and within one of them, `" 2*[a b] "`. -/
theorem tokenize_covers_product :
    ∃ tokens, tokenize .standard " 2*[a b] ".toList = .ok tokens ∧
      Covers .standard " 2*[a b] ".toList tokens := by
  have h : tokenize .standard " 2*[a b] ".toList = .ok [⟨.value, ['2'], 1, 2⟩,
    ⟨.operator, ['*'], 2, 3⟩, ⟨.value, "[a b]".toList, 3, 8⟩] := rfl
  exact ⟨_, h, tokenize_covers h⟩

end Reckon
