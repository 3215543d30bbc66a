/-
What stands in a variable splits nothing.

A character in a variable may be exchanged for another one, as long as neither delimits variables: a
parenthesis, an operator, a separator or white space may come in, and nothing but a text changes.  Two
scans read the two sources.  They take the character into the pending value alike, whoever claims it, for
a variable is open.  From there on `Scan.Alike` relates them, and every step keeps them related.

The one thing to see to is the value that the variable ends up in, which loses the white space around it.
Nothing in the variable is lost: the delimiter that opened it stands before the exchanged character, the
one that closes it behind, and neither is white space.
-/
import Reckon.Proofs.Tokens.Spacing
import Reckon.Proofs.Tokens.Verdict

namespace Reckon

variable {o : Options} {source source' : Text} {c d : Char}

namespace Token

/-- What is to be seen of a token besides its text. -/
def place (t : Token) : TokenKind × Int × Int := (t.kind, t.start, t.stop)

/-- The token that stands at the same place of another source. -/
def reread (source : Text) (t : Token) : Token := { t with text := source.slice t.start t.stop }

/-- Tokens that have the very texts that their offsets mean are told from their places. -/
theorem eq_map_reread {ts us : List Token} (hplaces : us.map place = ts.map place)
    (htexts : ∀ u ∈ us, u.text = source.slice u.start u.stop) : us = ts.map (reread source) := by
  let standing : TokenKind × Int × Int → Token :=
    fun p => ⟨p.1, source.slice p.2.1 p.2.2, p.2.1, p.2.2⟩
  have hreread : ∀ ts : List Token, (ts.map place).map standing = ts.map (reread source) :=
    fun ts => List.map_map
  have hsame : us.map (reread source) = us := by
    refine (List.map_congr_left fun u hu => ?_).trans (List.map_id us)
    show { u with text := source.slice u.start u.stop } = u
    rw [← htexts u hu]
  rw [← hreread, ← hplaces, hreread, hsame]

end Token

/-- No white space delimits variables. -/
def Options.ShowsDelimiters (o : Options) : Prop :=
  ∀ c, o.tokenizer? c = some .variable → Text.isBlank c = false

namespace Scan

variable {s s' s₁ : Scan} {e x : Char} {pending pending' : Text} {kind : TokenKind}

/-! ### Pending values -/

/-- Two pending values differ in one character.  Before it stands something that no trimming takes off. -/
def Veiled (c d : Char) (pending pending' : Text) : Prop :=
  ∃ front shown after : Text, (∀ b ∈ front, Text.isBlank b = true) ∧
    (∃ e, shown.head? = some e ∧ Text.isBlank e = false) ∧
    pending = (front ++ shown ++ c :: after).reverse ∧
    pending' = (front ++ shown ++ d :: after).reverse

theorem veiled_of_mem (he : e ∈ pending) (hblank : Text.isBlank e = false) (c d : Char) :
    Veiled c d (c :: pending) (d :: pending) := by
  rcases Text.blank_or_between pending.reverse with hall | ⟨front, text, back, hraw, hfront, htext, -⟩
  · rw [hall e (List.mem_reverse.mpr he)] at hblank
    cases hblank
  · obtain ⟨a, -, hhead, -, ha, -⟩ := htext
    have hshown : (text ++ back).head? = some a := by rw [List.head?_append, hhead]; rfl
    have hpending : pending = (front ++ (text ++ back)).reverse := by
      rw [← List.append_assoc, ← hraw, List.reverse_reverse]
    exact ⟨front, text ++ back, [], hfront, ⟨a, hshown, ha⟩, by rw [List.reverse_concat, hpending],
      by rw [List.reverse_concat, hpending]⟩

theorem Veiled.take (h : Veiled c d pending pending') (x : Char) :
    Veiled c d (x :: pending) (x :: pending') := by
  obtain ⟨front, shown, after, hfront, hshown, rfl, rfl⟩ := h
  refine ⟨front, shown, after ++ [x], hfront, hshown, ?_, ?_⟩ <;>
    rw [← List.reverse_concat, List.append_assoc, List.append_assoc, List.append_assoc] <;> rfl

/-- The value ends where it would have ended, and begins where it would have begun. -/
theorem Veiled.place_value? (h : Veiled c d pending pending') (hx : Text.isBlank x = false)
    (index : Nat) :
    (value? index (x :: pending')).map Token.place = (value? index (x :: pending)).map Token.place := by
  obtain ⟨front, shown, after, hfront, ⟨a, hhead, ha⟩, rfl, rfl⟩ := h
  have hvalue : ∀ b : Char, value? index (x :: (front ++ shown ++ b :: after).reverse) =
      some ⟨.value, shown ++ b :: (after ++ [x]),
        (index - (front ++ (shown ++ b :: (after ++ [x])) ++ []).length + front.length : Nat),
        (index - (front ++ (shown ++ b :: (after ++ [x])) ++ []).length + front.length : Nat) +
          (shown ++ b :: (after ++ [x])).length⟩ := by
    intro b
    have htrimmed : (shown ++ b :: (after ++ [x])).IsTrimmed := by
      refine ⟨a, x, by rw [List.head?_append, hhead]; rfl, ?_, ha, hx⟩
      rw [← List.cons_append, ← List.append_assoc, List.getLast?_concat]
    rw [← value?_trimmed index hfront htrimmed (by simp), ← List.reverse_concat]
    simp
  rw [hvalue, hvalue]
  simp [Token.place]

/-! ### Scans that differ in what a variable holds -/

/-- Two scans have come equally far.  Their tokens stand at the same places, and what is pending
differs in an open variable at most. -/
structure Alike (c d : Char) (s s' : Scan) : Prop where
  index : s'.index = s.index
  nesting : s'.nesting = s.nesting
  opens : s'.opens = s.opens
  tokens : s'.tokens.map Token.place = s.tokens.map Token.place
  pending : s'.pending = s.pending ∨ s.nesting ≠ 0 ∧ Veiled c d s.pending s'.pending

namespace Alike

theorem pending_eq (h : Alike c d s s') (hs : s.nesting = 0) : s'.pending = s.pending :=
  h.pending.resolve_right fun hveiled => hveiled.1 hs

theorem take {n n' v v' : Nat} (h : Alike c d s s') (hn : n' = n) (hopen : s.nesting ≠ 0 → n ≠ 0)
    (x : Char) : Alike c d (Scan.take { s with nesting := n, variableStart := v } x)
      (Scan.take { s' with nesting := n', variableStart := v' } x) where
  index := congrArg (· + 1) h.index
  nesting := hn
  opens := h.opens
  tokens := h.tokens
  pending := h.pending.imp (congrArg (x :: ·)) fun ⟨hs, hveiled⟩ => ⟨hopen hs, hveiled.take x⟩

/-- The delimiter that closes the outermost variable ends both values. -/
theorem close {v v' : Nat} (h : Alike c d s s') (hx : Text.isBlank x = false) :
    Alike c d (Scan.flush (Scan.take { s with nesting := 0, variableStart := v } x))
      (Scan.flush (Scan.take { s' with nesting := 0, variableStart := v' } x)) where
  index := congrArg (· + 1) h.index
  nesting := rfl
  opens := h.opens
  tokens := by
    have hvalue : (value? (s'.index + 1) (x :: s'.pending)).map Token.place =
        (value? (s.index + 1) (x :: s.pending)).map Token.place := by
      rw [h.index]
      rcases h.pending with heq | ⟨-, hveiled⟩
      · rw [heq]
      · exact hveiled.place_value? hx _
    show ((value? (s'.index + 1) (x :: s'.pending)).toList ++ s'.tokens).map Token.place =
      ((value? (s.index + 1) (x :: s.pending)).toList ++ s.tokens).map Token.place
    rw [List.map_append, List.map_append, h.tokens, ← Option.toList_map, ← Option.toList_map, hvalue]
  pending := .inl rfl

theorem flush (h : Alike c d s s') (hs : s.nesting = 0) : Alike c d s.flush s'.flush where
  index := h.index
  nesting := h.nesting
  opens := h.opens
  tokens := by
    show ((value? s'.index s'.pending).toList ++ s'.tokens).map Token.place =
      ((value? s.index s.pending).toList ++ s.tokens).map Token.place
    rw [h.index, h.pending_eq hs, List.map_append, List.map_append, h.tokens]
  pending := .inl rfl

/-- Where no variable is open, a split gives both the same token. -/
theorem split (h : Alike c d s s') (hs : s.nesting = 0) :
    Alike c d (s.split kind x) (s'.split kind x) where
  index := congrArg (· + 1) h.index
  nesting := h.nesting
  opens := h.opens
  tokens := by
    have hflush := (h.flush hs).tokens
    show Token.place ⟨kind, [x], s'.index, s'.index + 1⟩ :: s'.flush.tokens.map Token.place =
      Token.place ⟨kind, [x], s.index, s.index + 1⟩ :: s.flush.tokens.map Token.place
    rw [hflush, h.index]
  pending := .inl rfl

theorem withOpens (h : Alike c d s s') {opens opens' : List Nat} (hopens : opens' = opens) :
    Alike c d { s with opens := opens } { s' with opens := opens' } :=
  ⟨h.index, h.nesting, hopens, h.tokens, h.pending⟩

theorem step (hvisible : o.ShowsDelimiters)
    (h : Alike c d s s') (hstep : step o source s x = .ok s₁) :
    ∃ s₁', Scan.step o source' s' x = .ok s₁' ∧ Alike c d s₁ s₁' := by
  have hopensIff : ∀ {opening closing}, s'.Opens opening closing x ↔ s.Opens opening closing x := by
    intro opening closing
    rw [Opens, Opens, h.nesting]
  cases reading_of_step hstep with
  | taken hx hs =>
      have hs' : s'.nesting = 0 → o.tokenizer? x = none := fun hzero => hs (h.nesting ▸ hzero)
      exact ⟨_, step_of_reading (.taken hx hs'), h.take h.nesting id x⟩
  | opened delimits hopening =>
      exact ⟨_, step_of_reading (.opened delimits (hopensIff.mpr hopening)),
        h.take (congrArg (· + 1) h.nesting) (fun _ => Nat.succ_ne_zero _) x⟩
  | closedInner delimits hclosing hs =>
      exact ⟨_, step_of_reading (.closedInner delimits (mt hopensIff.mp hclosing) (h.nesting.trans hs)),
        h.take rfl (fun _ => Nat.succ_ne_zero _) x⟩
  | closedOuter delimits hclosing hs =>
      exact ⟨_, step_of_reading (.closedOuter delimits (mt hopensIff.mp hclosing) (h.nesting.trans hs)),
        h.close (hvisible x delimits.claimed)⟩
  | openParenthesis claimed hs hx =>
      refine ⟨_, step_of_reading (.openParenthesis claimed (h.nesting.trans hs) hx),
        (h.split hs).withOpens ?_⟩
      rw [h.index, h.opens]
  | closeParenthesis claimed hs hx hopens =>
      have hopens' := h.opens.trans hopens
      exact ⟨_, step_of_reading (.closeParenthesis claimed (h.nesting.trans hs) hx hopens'),
        (h.split hs).withOpens rfl⟩
  | separator claimed hs hx =>
      exact ⟨_, step_of_reading (.separator claimed (h.nesting.trans hs) hx), h.split hs⟩
  | operator claimed hs =>
      exact ⟨_, step_of_reading (.operator claimed (h.nesting.trans hs)), h.split hs⟩

theorem run (source' : Text) (hvisible : o.ShowsDelimiters) {text : Text} (h : Alike c d s s')
    (hrun : text.foldlM (Scan.step o source) s = .ok s₁) :
    ∃ s₁', text.foldlM (Scan.step o source') s' = .ok s₁' ∧ Alike c d s₁ s₁' :=
  Failing.foldlM_related (fun _ _ _ _ halike hstep => halike.step hvisible hstep) h hrun

theorem finish (source' : Text) {tokens : List Token} (h : Alike c d s s')
    (hfinish : s.finish source = .ok tokens) :
    ∃ tokens', s'.finish source' = .ok tokens' ∧ tokens'.map Token.place = tokens.map Token.place := by
  obtain ⟨hs, hopens, rfl⟩ := finish_eq_ok.mp hfinish
  refine ⟨_, finish_eq_ok.mpr ⟨h.nesting.trans hs, h.opens.trans hopens, rfl⟩, ?_⟩
  rw [List.map_reverse, List.map_reverse, (h.flush hs).tokens]

end Alike

/-! ### Up to the exchanged character -/

/-- What is known of the state behind a text: which variables are open, and that the delimiter of one
that is open is still pending. -/
structure Holds (o : Options) (p : Text) (s : Scan) : Prop where
  follows : Follows o p s
  shows : s.nesting ≠ 0 → ∃ e ∈ s.pending, Text.isBlank e = false

theorem holds_start : Holds o [] start := ⟨.of_start, fun hs => absurd rfl hs⟩

theorem Holds.step {p : Text} (hv : o.Valid) (hvisible : o.ShowsDelimiters)
    (h : Holds o p s) (hstep : step o source s x = .ok s₁) : Holds o (p ++ [x]) s₁ where
  follows := h.follows.step hv hstep
  shows hs := by
    have hkeep : s.nesting ≠ 0 → ∃ e ∈ x :: s.pending, Text.isBlank e = false := fun hopen =>
      (h.shows hopen).imp fun _ he => ⟨List.mem_cons_of_mem x he.1, he.2⟩
    cases reading_of_step hstep with
    | taken => exact hkeep hs
    | opened delimits => exact ⟨x, List.mem_cons_self, hvisible x delimits.claimed⟩
    | closedInner delimits hopens hnesting => exact hkeep (by omega)
    | closedOuter => exact absurd rfl hs
    | openParenthesis claimed hzero
    | closeParenthesis claimed hzero
    | separator claimed hzero
    | operator claimed hzero => exact absurd hzero hs

theorem holds_of_run {p : Text} (hv : o.Valid) (hvisible : o.ShowsDelimiters)
    (h : p.foldlM (Scan.step o source) start = .ok s) : Holds o p s :=
  Failing.foldlM_keeps holds_start (fun _ _ _ _ hholds hstep => Holds.step hv hvisible hholds hstep) h

/-- In an open variable any character joins the pending value that does not delimit variables. -/
theorem step_in_variable (hs : s.nesting ≠ 0) (hx : o.tokenizer? x ≠ some .variable) :
    Scan.step o source s x = .ok (s.take x) :=
  step_of_taken hx fun hzero => absurd hzero hs

theorem Holds.alike {p : Text} (h : Holds o p s) (hs : s.nesting ≠ 0) :
    Alike c d (s.take c) (s.take d) := by
  obtain ⟨e, he, hblank⟩ := h.shows hs
  exact ⟨rfl, rfl, rfl, rfl, .inr ⟨hs, veiled_of_mem he hblank c d⟩⟩

end Scan

/-! ### Sources that differ in what a variable holds -/

theorem tokenize_exchanged {before after : Text} {tokens : List Token} (hv : o.Valid)
    (hvisible : o.ShowsDelimiters)
    (hinside : o.nesting before ≠ 0) (hc : o.tokenizer? c ≠ some .variable)
    (hd : o.tokenizer? d ≠ some .variable) (h : tokenize o (before ++ c :: after) = .ok tokens) :
    ∃ tokens', tokenize o (before ++ d :: after) = .ok tokens' ∧
      tokens'.map Token.place = tokens.map Token.place := by
  obtain ⟨s, hrun, hfinish⟩ := Failing.bind_eq_ok.mp h
  rw [List.foldlM_append] at hrun
  obtain ⟨s₁, hbefore, hrun⟩ := Failing.bind_eq_ok.mp hrun
  have hholds := Scan.holds_of_run hv hvisible hbefore
  have hs₁ : s₁.nesting ≠ 0 := by
    have := hholds.follows.nesting
    omega
  rw [List.foldlM_cons, Scan.step_in_variable hs₁ hc] at hrun
  obtain ⟨s', hrun', halike⟩ :=
    (hholds.alike hs₁ : Scan.Alike c d _ _).run (before ++ d :: after) hvisible hrun
  obtain ⟨tokens', hfinish', hplaces⟩ := halike.finish (before ++ d :: after) hfinish
  refine ⟨tokens', Failing.bind_eq_ok.mpr ⟨s', ?_, hfinish'⟩, hplaces⟩
  rw [List.foldlM_append, Scan.run_of_source hbefore]
  refine Failing.bind_eq_ok.mpr ⟨s₁, rfl, ?_⟩
  rw [List.foldlM_cons, Scan.step_in_variable hs₁ hd]
  exact hrun'

/--
**What a variable holds has no part in how a text is split.**

In a source that is split into tokens, any character that stands in a variable, and is no delimiter of
variables, may be exchanged for any other that is none.  The new source is split into as many tokens of
the same kinds at the same places; only their texts are those that now stand there.
-/
theorem tokenize_set_hidden {opening closing : Char} {tokens : List Token} {i : Nat} (hv : o.Valid)
    (hdelimiters : o.delimiters? = some (opening, closing))
    (hopening : Text.isBlank opening = false) (hclosing : Text.isBlank closing = false)
    (hi : source[i]? = some c) (hinside : 0 < o.nesting (source.take i))
    (hc : c ≠ opening ∧ c ≠ closing) (hd : d ≠ opening ∧ d ≠ closing)
    (h : tokenize o source = .ok tokens) :
    tokenize o (source.set i d) = .ok (tokens.map (Token.reread (source.set i d))) := by
  have heither : ∀ x, o.tokenizer? x = some .variable → x = opening ∨ x = closing := by
    intro x hx
    obtain ⟨_, _, -, delimits⟩ := Options.exists_delimits hx
    have heq := delimits.delimiters
    rw [hdelimiters] at heq
    cases heq
    exact delimits.either
  have hvisible : o.ShowsDelimiters := by
    intro x hx
    rcases heither x hx with rfl | rfl
    · exact hopening
    · exact hclosing
  obtain ⟨hlt, rfl⟩ := List.getElem?_eq_some_iff.mp hi
  have hsource : source = source.take i ++ source[i] :: source.drop (i + 1) := by
    rw [← List.drop_eq_getElem_cons hlt, List.take_append_drop]
  have hset : source.set i d = source.take i ++ d :: source.drop (i + 1) :=
    List.set_eq_take_append_cons_drop.trans (if_pos hlt)
  rw [hsource] at h
  obtain ⟨tokens', htokens', hplaces⟩ := tokenize_exchanged hv hvisible (by omega)
    (fun hx => (heither _ hx).elim hc.1 hc.2) (fun hx => (heither _ hx).elim hd.1 hd.2) h
  rw [← hset] at htokens'
  rw [htokens', Token.eq_map_reread hplaces (tiled_of_tokenize htokens').covers.text]

/-- White space comes in for the parenthesis in `2*[(] `, and is not trimmed off. -/
theorem tokenize_set_hidden_parenthesis :
    tokenize .standard "2*[(] ".toList =
        .ok [⟨.value, ['2'], 0, 1⟩, ⟨.operator, ['*'], 1, 2⟩, ⟨.value, "[(]".toList, 2, 5⟩] ∧
      0 < Options.standard.nesting ("2*[(] ".toList.take 3) ∧
      tokenize .standard ("2*[(] ".toList.set 3 ' ') =
        .ok [⟨.value, ['2'], 0, 1⟩, ⟨.operator, ['*'], 1, 2⟩, ⟨.value, "[ ]".toList, 2, 5⟩] := by
  have h : tokenize .standard "2*[(] ".toList =
      .ok [⟨.value, ['2'], 0, 1⟩, ⟨.operator, ['*'], 1, 2⟩, ⟨.value, "[(]".toList, 2, 5⟩] := rfl
  have hinside : 0 < Options.standard.nesting ("2*[(] ".toList.take 3) := by decide
  exact ⟨h, hinside, tokenize_set_hidden Options.standard_readable.valid rfl rfl rfl rfl hinside
    (by decide) (by decide) h⟩

end Reckon
