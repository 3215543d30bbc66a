/-
What scanning makes of rendered text.

Between two characters of a rendered text either some value is still pending or not, and
that is all that scanning one part of a tree leaves to the next.  `Scan.Reads` counts a
pending value among the tokens, so that the parts of a text follow one another without
regard to who ends a value.  What has to be seen to is that a value begins only where none
is pending: names and numbers stand at the front of a text, behind an operator, or behind a
parenthesis or separator.
-/
import Reckon.Proofs.Rendering.Spelling
import Reckon.Proofs.Tokens.Tiling

namespace Reckon

open Shape (Item)

namespace Scan

variable {o : Options} {source : Text} {s s' s'' : Scan} {c : Char}

/-- A pending text without white space around it makes one value. -/
theorem exists_value {text : Text} (hne : text ≠ []) (htrim : text.trim = text) (index : Nat) :
    ∃ t, value? index text.reverse = some t ∧ t.kind = .value ∧ t.text = text := by
  unfold value?
  dsimp only
  rw [List.reverse_reverse, htrim, if_neg (by simpa using hne)]
  exact ⟨_, rfl, rfl, rfl⟩

/-! ### Stretches of text -/

/-- Reading a text outside variables leads from one state to another and adds some tokens, among
which a value counts that is still pending. -/
structure Reads (o : Options) (source : Text) (text : Text) (s : Scan) (ts : List Token)
    (s' : Scan) : Prop where
  run : text.foldlM (step o source) s = .ok s'
  /-- No variable is open at the end. -/
  nesting : s'.nesting = 0
  /-- Tokens are kept newest first. -/
  tokens : s'.flush.tokens = ts.reverse ++ s.flush.tokens

theorem Reads.append {a b : Text} {ts us : List Token} (h : Reads o source a s ts s')
    (h' : Reads o source b s' us s'') : Reads o source (a ++ b) s (ts ++ us) s'' where
  run := by
    rw [List.foldlM_append, h.run]
    exact h'.run
  nesting := h'.nesting
  tokens := by rw [h'.tokens, h.tokens, List.reverse_append, List.append_assoc]

theorem flush_tokens (hs : s.pending = []) : s.flush.tokens = s.tokens := by
  unfold flush
  rw [hs]
  rfl

theorem flush_tokens_of_value {t : Token} (hs : value? s.index s.pending = some t) :
    s.flush.tokens = t :: s.tokens := by
  unfold flush
  rw [hs]
  rfl

/-- The next character ends what is pending and becomes a token; after that the given parentheses are
open. -/
def Breaks (o : Options) (source : Text) (c : Char) (kind : TokenKind) (s : Scan)
    (opens : List Nat) : Prop :=
  ∃ s' t, Reads o source [c] s [t] s' ∧ s'.pending = [] ∧ s'.opens = opens ∧
    t.kind = kind ∧ t.text = [c]

theorem breaks_of_step {kind : TokenKind} {opens : List Nat} (hs : s.nesting = 0)
    (h : step o source s c = .ok { s.split kind c with opens := opens }) :
    Breaks o source c kind s opens := by
  refine ⟨{ s.split kind c with opens := opens }, ⟨kind, [c], s.index, s.index + 1⟩, ⟨?_, hs, ?_⟩,
    rfl, rfl, rfl, rfl⟩
  · rw [List.foldlM_cons, h]
    rfl
  · rfl

theorem breaks_operator (claimed : o.tokenizer? c = some .operator) (hs : s.nesting = 0) :
    Breaks o source c .operator s s.opens :=
  breaks_of_step hs (step_of_operator claimed hs)

section Structural

variable (hsplits : o.Splits)
include hsplits

theorem breaks_opening (hs : s.nesting = 0) : Breaks o source '(' .opening s (s.index :: s.opens) :=
  breaks_of_step hs (step_of_reading (.openParenthesis (hsplits _ (by decide)) hs rfl))

theorem breaks_closing {position : Nat} {outer : List Nat} (hs : s.nesting = 0)
    (hopens : s.opens = position :: outer) : Breaks o source ')' .closing s outer :=
  breaks_of_step hs (step_of_reading (.closeParenthesis (hsplits _ (by decide)) hs rfl hopens))

theorem breaks_separator (hs : s.nesting = 0) : Breaks o source ',' .separator s s.opens :=
  breaks_of_step hs (step_of_reading (.separator (hsplits _ (by decide)) hs rfl))

end Structural

/-- A text in which nothing splits is one value, and stays pending. -/
theorem reads_whole {text : Text} (hne : text ≠ []) (htrim : text.trim = text)
    (hfree : ∀ c ∈ text, o.tokenizer? c = none) (hpending : s.pending = []) (hs : s.nesting = 0) :
    ∃ s' t, Reads o source text s [t] s' ∧ s'.opens = s.opens ∧ t.kind = .value ∧ t.text = text := by
  have htaken : ∀ c ∈ text, ∀ s : Scan, s.nesting = 0 → step o source s c = .ok (s.take c) :=
    fun c hc _ _ => step_of_free (hfree c hc)
  have hrun := foldlM_of_taken hs htaken
  obtain ⟨t, hvalue, hkind, htext⟩ := exists_value hne htrim (s.index + text.length)
  refine ⟨_, t, ⟨hrun, hs, ?_⟩, rfl, hkind, htext⟩
  rw [flush_tokens hpending]
  refine flush_tokens_of_value ?_
  rw [hpending, List.append_nil]
  exact hvalue

variable (h : o.Readable)
include h

section Escaped

variable {opening closing : Char} (hpattern : o.pattern = .escaped opening closing)
include hpattern

theorem delimits (hc : c = opening ∨ c = closing) : o.Delimits opening closing c :=
  h.valid.delimits (Options.delimiters?_eq_some.mpr ⟨hpattern, h.tokenizers _⟩) hc

theorem step_opening_delimiter (hs : s.nesting = 0) :
    step o source s opening =
      .ok (take { s with nesting := 1, variableStart := s.index } opening) := by
  rw [step_of_delimits (delimits h hpattern (.inl rfl))]
  unfold delimiter
  rw [hs]
  simp

theorem step_closing_delimiter (hs : s.nesting = 1) :
    step o source s closing = .ok (flush (take { s with nesting := 0 } closing)) := by
  rw [step_of_delimits (delimits h hpattern (.inr rfl))]
  unfold delimiter
  rw [hs]
  by_cases hsame : opening = closing
  · simp [hsame]
  · simp [hsame, Ne.symm hsame]

omit h in
/-- Between delimiters everything else is taken. -/
theorem step_between_delimiters (hc : c ≠ opening ∧ c ≠ closing) (hs : s.nesting = 1) :
    step o source s c = .ok (s.take c) := by
  refine step_of_taken (fun hvariable => ?_) fun hzero => by omega
  have hmem : c ∈ o.pattern.delimiters := Options.mem_claimed_of_tokenizer? hvariable
  rw [hpattern] at hmem
  exact (Pattern.mem_delimiters.mp hmem).elim hc.1 hc.2

/-- A variable between delimiters is one value, whatever its name holds. -/
theorem reads_escaped {name : Text} (hname : ∀ c ∈ name, c ≠ opening ∧ c ≠ closing)
    (hpending : s.pending = []) (hs : s.nesting = 0) :
    ∃ s' t, Reads o source (opening :: name ++ [closing]) s [t] s' ∧ s'.opens = s.opens ∧
      t.kind = .value ∧ t.text = opening :: name ++ [closing] := by
  have hblank : ∀ {c : Char}, c = opening ∨ c = closing → Text.isBlank c = false :=
    fun hc => (h.delimitersApart _ (Options.mem_claimed_of_tokenizer? (delimits h hpattern hc).claimed)).2
  have htrim : Text.trim (opening :: name ++ [closing]) = opening :: name ++ [closing] :=
    Text.trim_of_ends rfl List.getLast?_concat (hblank (.inl rfl)) (hblank (.inr rfl))
  have hne : opening :: name ++ [closing] ≠ [] := List.cons_ne_nil _ _
  obtain ⟨t, hvalue, hkind, htext⟩ := exists_value hne htrim (s.index + 1 + name.length + 1)
  have hreverse : closing :: (name.reverse ++ opening :: s.pending) =
      (opening :: name ++ [closing]).reverse := by
    rw [hpending]
    simp
  have hfold : (opening :: name ++ [closing]).foldlM (step o source) s =
      .ok (flush { s with
        index := s.index + 1 + name.length + 1, nesting := 0, variableStart := s.index
        pending := (opening :: name ++ [closing]).reverse }) := by
    rw [List.cons_append, List.foldlM_cons, step_opening_delimiter h hpattern hs]
    show (name ++ [closing]).foldlM (step o source) _ = _
    rw [List.foldlM_append, foldlM_of_taken rfl fun c hc s' hs' =>
      step_between_delimiters hpattern (hname c hc) hs']
    show [closing].foldlM (step o source) _ = _
    rw [List.foldlM_cons, step_closing_delimiter h hpattern rfl, ← List.cons_append, ← hreverse]
    rfl
  refine ⟨_, t, ⟨hfold, rfl, ?_⟩, rfl, hkind, htext⟩
  rw [flush_tokens rfl, flush_tokens hpending]
  exact flush_tokens_of_value hvalue

end Escaped

end Scan

/-! ### Rendered text -/

/-- Where no value is pending, reading the text adds tokens of some sort and leaves no parenthesis
open. -/
def Spans (o : Options) (source : Text) (text : Text) (P : List Token → Prop) : Prop :=
  ∀ s : Scan, s.pending = [] → s.nesting = 0 →
    ∃ s' ts, Scan.Reads o source text s ts s' ∧ s'.opens = s.opens ∧ P ts

namespace Spans

variable {o : Options} {source a b : Text} {c : Char} {kind : TokenKind} {P Q : List Token → Prop}

theorem imp (h : Spans o source a P) (hpq : ∀ ts, P ts → Q ts) : Spans o source a Q := by
  intro s hpending hs
  obtain ⟨s', ts, hts, hopens, hP⟩ := h s hpending hs
  exact ⟨s', ts, hts, hopens, hpq ts hP⟩

theorem nil : Spans o source [] (· = []) := by
  intro s _ hs
  exact ⟨s, [], ⟨rfl, hs, rfl⟩, rfl, rfl⟩

/-- Two texts with an operator or a separator between them. -/
theorem linked (hc : ∀ s : Scan, s.nesting = 0 → s.Breaks o source c kind s.opens)
    (ha : Spans o source a P) (hb : Spans o source b Q) :
    Spans o source (a ++ c :: b) fun ts =>
      ∃ xs t ys, ts = xs ++ t :: ys ∧ P xs ∧ t.kind = kind ∧ t.text = [c] ∧ Q ys := by
  intro s hpending hs
  obtain ⟨s₁, xs, hxs, hopens₁, hP⟩ := ha s hpending hs
  obtain ⟨s₂, t, ht, hpending₂, hopens₂, hkind, htext⟩ := hc s₁ hxs.nesting
  obtain ⟨s₃, ys, hys, hopens₃, hQ⟩ := hb s₂ hpending₂ ht.nesting
  refine ⟨s₃, xs ++ ([t] ++ ys), hxs.append (ht.append hys), ?_, xs, t, ys, rfl, hP, hkind, htext, hQ⟩
  rw [hopens₃, hopens₂, hopens₁]

/-- A text in parentheses; these end a value before them, so one may be pending. -/
theorem exists_enclosed (h : o.Splits) (ha : Spans o source a P) {s : Scan} (hs : s.nesting = 0) :
    ∃ s' x ts y, Scan.Reads o source ('(' :: (a ++ [')'])) s (x :: (ts ++ [y])) s' ∧
      s'.opens = s.opens ∧ x.kind = .opening ∧ y.kind = .closing ∧ P ts := by
  obtain ⟨s₁, x, hx, hpending, hopens₁, hxkind, -⟩ := Scan.breaks_opening h hs
  obtain ⟨s₂, ts, hts, hopens₂, hP⟩ := ha s₁ hpending hx.nesting
  obtain ⟨s₃, y, hy, -, hopens₃, hykind, -⟩ :=
    Scan.breaks_closing h hts.nesting (hopens₂.trans hopens₁)
  exact ⟨s₃, x, ts, y, hx.append (hts.append hy), hopens₃, hxkind, hykind, hP⟩

theorem enclosed (h : o.Splits) (ha : Spans o source a P) :
    Spans o source ('(' :: (a ++ [')'])) fun ts =>
      ∃ x us y, ts = x :: (us ++ [y]) ∧ x.kind = .opening ∧ y.kind = .closing ∧ P us := by
  intro s _ hs
  obtain ⟨s', x, us, y, hrun, hopens, hx, hy, hP⟩ := exists_enclosed h ha hs
  exact ⟨s', _, hrun, hopens, x, us, y, rfl, hx, hy, hP⟩

/-- A name before a text in parentheses. -/
theorem called (h : o.Splits) {name : Text} (hname : Text.isName name = true)
    (hfree : ∀ c ∈ name, o.tokenizer? c = none) (ha : Spans o source a P) :
    Spans o source (name ++ '(' :: (a ++ [')'])) fun ts =>
      ∃ t x us y, ts = t :: x :: (us ++ [y]) ∧ t.kind = .value ∧ t.text = name ∧
        x.kind = .opening ∧ y.kind = .closing ∧ P us := by
  intro s hpending hs
  obtain ⟨s₁, t, ht, hopens₁, hkind, htext⟩ :=
    Scan.reads_whole (Text.ne_nil_of_isName hname) (Text.trim_of_isName hname) hfree hpending hs
  obtain ⟨s₂, x, us, y, hrun, hopens₂, hx, hy, hP⟩ := exists_enclosed h ha ht.nesting
  exact ⟨s₂, _, ht.append hrun, hopens₂.trans hopens₁, t, x, us, y, rfl, hkind, htext, hx, hy, hP⟩

/-- Texts with separators between them, each of which spans tokens for its tree. -/
theorem joined (h : o.Splits) {R : Expr → List Token → Prop} {x : Text × Expr}
    {rest : List (Text × Expr)} (hall : ∀ y ∈ x :: rest, Spans o source y.1 (R y.2)) :
    Spans o source (Text.join [','] ((x :: rest).map (·.1))) fun ts =>
      ∃ (first : List Token) (items : List Item), ts = Shape.linked first (items.map Item.piece) ∧
        items.map Item.tree = rest.map (·.2) ∧ R x.2 first ∧
        (∀ y ∈ items, y.token.kind = .separator) ∧ ∀ y ∈ items, R y.tree y.run := by
  induction rest generalizing x with
  | nil =>
      refine (hall x List.mem_cons_self).imp fun ts hts => ⟨ts, [], ?_, rfl, hts, ?_, ?_⟩
      · rw [List.map_nil, Shape.linked_nil]
      · simp
      · simp
  | cons z rest ih =>
      have hlinked := linked (fun s hs => Scan.breaks_separator h hs)
        (hall x List.mem_cons_self) (ih fun y hy => hall y (List.mem_cons_of_mem x hy))
      show Spans o source (x.1 ++ [','] ++ Text.join [','] ((z :: rest).map (·.1))) _
      rw [List.append_assoc]
      refine hlinked.imp ?_
      rintro ts ⟨xs, t, ys, rfl, hxs, hkind, -, first, items, rfl, hrest, hfirst, hsep, hitems⟩
      refine ⟨xs, ⟨t, first, z.2⟩ :: items, ?_, ?_, hxs, ?_, ?_⟩
      · rw [List.map_cons]
        exact (Shape.linked_cons xs first t _).symm
      · rw [List.map_cons, hrest, List.map_cons]
      · exact List.forall_mem_cons.mpr ⟨hkind, hsep⟩
      · exact List.forall_mem_cons.mpr ⟨hfirst, hitems⟩

/-- A whole text that spans some tokens is split into them. -/
theorem exists_tokenize (h : Spans o a a P) : ∃ ts, tokenize o a = .ok ts ∧ P ts := by
  obtain ⟨s, ts, hrun, hopens, hP⟩ := h Scan.start rfl rfl
  have htokens : s.flush.tokens.reverse = ts := by
    have hflush : s.flush.tokens = ts.reverse ++ Scan.start.flush.tokens := hrun.tokens
    rw [hflush, List.reverse_append, List.reverse_reverse]
    rfl
  exact ⟨ts, Failing.bind_eq_ok.mpr ⟨s, hrun.run,
    Scan.finish_eq_ok.mpr ⟨hrun.nesting, hopens, htokens⟩⟩, hP⟩

end Spans

variable {o : Options} {source : Text}

theorem spans_plain (h : o.Readable) {text : Text} (hne : text ≠ [])
    (hplain : ∀ c ∈ text, Text.isPlain c = true) :
    Spans o source text fun ts => ∃ t, ts = [t] ∧ t.kind = .value ∧ t.text = text := by
  intro s hpending hs
  obtain ⟨s', t, hrun, hopens, hkind, htext⟩ := Scan.reads_whole hne
    (Text.trim_of_isPlain hne hplain) (fun c hc => h.tokenizer?_of_isPlain (hplain c hc)) hpending hs
  exact ⟨s', [t], hrun, hopens, t, rfl, hkind, htext⟩

/-- A variable is one value in either pattern. -/
theorem spans_wrap (h : o.Readable) {name : Text} (hname : o.pattern.allows name = true) :
    Spans o source (o.pattern.wrap name) fun ts =>
      ∃ t, ts = [t] ∧ t.kind = .value ∧ t.text = o.pattern.wrap name := by
  cases hpattern : o.pattern with
  | plain opening closing =>
      rw [hpattern] at hname
      exact spans_plain h (Text.ne_nil_of_isName hname) (Text.isPlain_of_mem_isName hname)
  | escaped opening closing =>
      rw [hpattern] at hname
      have hapart : ∀ c ∈ name, c ≠ opening ∧ c ≠ closing := by
        intro c hc
        simp only [Pattern.allows, Bool.and_eq_true, Bool.not_eq_true', List.contains_eq_mem,
          decide_eq_false_iff_not] at hname
        exact ⟨fun heq => hname.1.2 (heq ▸ hc), fun heq => hname.2 (heq ▸ hc)⟩
      intro s hpending hs
      obtain ⟨s', t, hrun, hopens, hkind, htext⟩ :=
        Scan.reads_escaped h hpattern hapart hpending hs
      exact ⟨s', [t], hrun, hopens, t, rfl, hkind, htext⟩

/-- The size of a literal is one value. -/
theorem spans_sizeText (h : o.Readable) {l : Literal} (hl : l.isBounded = true) :
    Spans o source l.sizeText fun ts => ∃ t, ts = [t] ∧ t.kind = .value ∧ t.text = l.sizeText := by
  obtain ⟨⟨n, hread, -⟩, hbegins⟩ := Literal.writes_size hl
  have hne : l.sizeText ≠ [] := by
    obtain ⟨c, rest, htext, -⟩ := Numeral.exists_of_read? hread
    rw [htext]
    exact List.cons_ne_nil c rest
  refine spans_plain h hne fun c hc => ?_
  rw [Text.isPlain, hbegins c hc, Bool.or_true]

theorem breaks_known (h : o.Readable) {symbol : Text} {op : Operator}
    (known : o.operator? symbol = some op) :
    ∃ c, symbol = [c] ∧
      ∀ s : Scan, s.nesting = 0 → s.Breaks o source c .operator s.opens :=
  ⟨op.symbol, (Options.operator?_text known).symm, fun _ hs =>
    Scan.breaks_operator
      (h.tokenizer?_of_claimed (List.mem_map_of_mem (Options.operator?_mem known))) hs⟩

end Reckon
