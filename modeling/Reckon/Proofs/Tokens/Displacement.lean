/-
Scanning the same characters further on.

Two scans read the same characters, but in one of them more stands in front: other text, whose tokens
are made already, or white space that has come in at some offset.  `Scan.Displaced` relates the two
states, and every step keeps them related, so the second scan finds the tokens of the first, and
those that stand behind the offset are further on by as many characters as have come in.

The one thing to see to is the value that is pending where the white space comes in.  As long as
nothing splits the text it may turn out to stand before the white space, or behind it, or on both
sides; `Scan.Pends` keeps all three apart until the value ends, and only the last would spoil it.
-/
import Reckon.Proofs.Tokens.Tiling
import Reckon.Proofs.Shape.Places

namespace Reckon

variable {o : Options} {source source' : Text} {i k : Nat}

/-! ### Tokens further on -/

namespace Token

/-- Where a token stands once so many characters have come in at offset `i`. -/
def spread (i k : Nat) (t : Token) : Token :=
  if t.start < i then t else { t with start := t.start + k, stop := t.stop + k }

theorem moves_spread (i k : Nat) : Moves (spread i k) where
  kind t := by
    unfold spread
    split <;> rfl
  text t := by
    unfold spread
    split <;> rfl

theorem spread_of_lt {t : Token} (h : t.start < i) : t.spread i k = t := if_pos h

/-- A token at or behind the offset is further on. -/
theorem spread_of_le {kind : TokenKind} {text : Text} {n : Nat} {length : Int} (h : i ≤ n) :
    spread i k ⟨kind, text, n, n + length⟩ =
      ⟨kind, text, (n + k : Nat), (n + k : Nat) + length⟩ := by
  have hstart : ((n + k : Nat) : Int) = n + k := Int.natCast_add n k
  rw [spread, if_neg (by dsimp only; omega), hstart, Int.add_right_comm]

end Token

/-- No value stands on both sides of an offset. -/
def Whole (i : Nat) (tokens : List Token) : Prop :=
  ∀ t ∈ tokens, t.kind = .value → ¬(t.start < i ∧ i < t.stop)

theorem Whole.of_subset {tokens more : List Token} (h : Whole i more) (hsub : tokens ⊆ more) :
    Whole i tokens :=
  fun t ht => h t (hsub ht)

theorem whole_zero {tokens : List Token} (h : ∀ t ∈ tokens, 0 ≤ t.start) : Whole 0 tokens := by
  intro t ht _ hin
  have := h t ht
  omega

namespace Scan

variable {index : Nat} {pending pending' : Text} {outer : List Nat} {before : List Token}
  {s s' s₁ : Scan} {c : Char} {kind : TokenKind}

/-! ### Pending values -/

/-- What is pending before offset `index`, and what is so once `k` characters have come in at offset
`i`.  It began at offset `n`. -/
inductive Pends (i k index : Nat) (pending pending' : Text) : Prop
  /-- It began behind the offset, so it is the same. -/
  | behind {n : Nat} (raw : Text) (hn : i ≤ n) (hindex : index = n + raw.length)
      (hraw : pending = raw.reverse) (hraw' : pending' = raw.reverse)
  /-- It began before the offset, where now white space comes in between. -/
  | parted {n : Nat} {x gap y : Text} (hgap : ∀ c ∈ gap, Text.isBlank c = true)
      (hlength : gap.length = k) (hi : i = n + x.length) (hindex : index = n + (x ++ y).length)
      (hraw : pending = (x ++ y).reverse) (hraw' : pending' = (x ++ gap ++ y).reverse)

theorem Pends.le (h : Pends i k index pending pending') : i ≤ index := by
  cases h with
  | behind hn hindex => omega
  | parted _ _ hi hindex =>
      rw [List.length_append] at hindex
      omega

theorem Pends.take (h : Pends i k index pending pending') (c : Char) :
    Pends i k (index + 1) (c :: pending) (c :: pending') := by
  cases h with
  | @behind n raw hn hindex hraw hraw' =>
      refine behind (raw ++ [c]) hn ?_ ?_ ?_
      · rw [List.length_append, hindex, Nat.add_assoc, List.length_singleton]
      · rw [List.reverse_concat, hraw]
      · rw [List.reverse_concat, hraw']
  | @parted n x gap y hgap hlength hi hindex hraw hraw' =>
      have happend : ∀ before : Text, before ++ (y ++ [c]) = before ++ y ++ [c] :=
        fun before => (List.append_assoc before y [c]).symm
      refine parted hgap hlength hi (y := y ++ [c]) ?_ ?_ ?_
      · rw [happend, List.length_append, hindex, Nat.add_assoc, List.length_singleton]
      · rw [happend, List.reverse_concat, hraw]
      · rw [happend, List.reverse_concat, hraw']

/-- What began behind the offset is further on as a whole. -/
theorem value?_add {n : Nat} (h : i ≤ n) (k : Nat) (raw : Text) :
    value? (n + k + raw.length) raw.reverse =
      (value? (n + raw.length) raw.reverse).map (Token.spread i k) := by
  rcases Text.blank_or_between raw with hblank | ⟨front, text, back, rfl, hfront, htext, hback⟩
  · rw [value?_blank hblank, value?_blank hblank]
    rfl
  · rw [value?_between (n + k) hfront htext hback, value?_between n hfront htext hback,
      Option.map_some, Token.spread_of_le (h.trans (Nat.le_add_right n _)), Nat.add_right_comm]

/-- What began before the offset stays there or comes to stand behind the gap. -/
theorem value?_gap (n : Nat) {x gap y : Text} (hgap : ∀ c ∈ gap, Text.isBlank c = true)
    (hwhole : Whole (n + x.length) (value? (n + (x ++ y).length) (x ++ y).reverse).toList) :
    value? (n + (x ++ gap ++ y).length) (x ++ gap ++ y).reverse =
      (value? (n + (x ++ y).length) (x ++ y).reverse).map
        (Token.spread (n + x.length) gap.length) := by
  rcases Text.blank_or_between (x ++ y) with hblank | ⟨front, text, back, hxy, hfront, htext, hback⟩
  · have hblank' : ∀ c ∈ x ++ gap ++ y, Text.isBlank c = true := by
      intro c hc
      simp only [List.mem_append] at hblank hc
      rcases hc with (hc | hc) | hc
      · exact hblank c (.inl hc)
      · exact hgap c hc
      · exact hblank c (.inr hc)
    rw [value?_blank hblank, value?_blank hblank']
    rfl
  rw [hxy, value?_between n hfront htext hback] at hwhole ⊢
  have happart := hwhole _ (Option.mem_toList.mpr rfl) rfl
  dsimp only at happart
  rw [Option.map_some]
  rcases Nat.lt_or_ge front.length x.length with hlt | hle
  · -- The value ends before the offset, so the gap lengthens what is trimmed off behind it.
    have hprefix : front ++ text <+: x := by
      refine List.prefix_of_prefix_length_le ⟨back, hxy.symm⟩ (List.prefix_append x y) ?_
      rw [List.length_append]
      omega
    obtain ⟨mid, rfl⟩ := hprefix
    have hback' : back = mid ++ y := by
      rw [List.append_assoc] at hxy
      exact (List.append_cancel_left hxy).symm
    subst hback'
    have hblank : ∀ c ∈ mid ++ gap ++ y, Text.isBlank c = true := by
      intro c hc
      simp only [List.mem_append] at hback hc
      rcases hc with (hc | hc) | hc
      · exact hback c (.inl hc)
      · exact hgap c hc
      · exact hback c (.inr hc)
    have hsame : front ++ text ++ mid ++ gap ++ y = front ++ text ++ (mid ++ gap ++ y) := by
      simp only [List.append_assoc]
    rw [hsame, value?_between n hfront htext hblank, Token.spread_of_lt (by dsimp only; omega)]
  · -- The value begins behind the offset, so the gap lengthens what is trimmed off before it.
    have hprefix : x <+: front := by
      refine List.prefix_of_prefix_length_le (List.prefix_append x y) ⟨text ++ back, ?_⟩ hle
      rw [hxy, List.append_assoc]
    obtain ⟨mid, rfl⟩ := hprefix
    have hy : y = mid ++ text ++ back := by
      simp only [List.append_assoc] at hxy ⊢
      exact List.append_cancel_left hxy
    subst hy
    have hblank : ∀ c ∈ x ++ gap ++ mid, Text.isBlank c = true := by
      intro c hc
      simp only [List.mem_append] at hfront hc
      rcases hc with (hc | hc) | hc
      · exact hfront c (.inl hc)
      · exact hgap c hc
      · exact hfront c (.inr hc)
    have hsame : x ++ gap ++ (mid ++ text ++ back) = x ++ gap ++ mid ++ text ++ back := by
      simp only [List.append_assoc]
    have hplace : n + (x ++ gap ++ mid).length = n + (x ++ mid).length + gap.length := by
      simp only [List.length_append]
      omega
    rw [hsame, value?_between n hblank htext hback, Token.spread_of_le (by omega), hplace]

/-- A value that does not stand on both sides of the offset stays as it is, but for its place. -/
theorem Pends.value? (h : Pends i k index pending pending')
    (hwhole : Whole i (Scan.value? index pending).toList) :
    Scan.value? (index + k) pending' = (Scan.value? index pending).map (Token.spread i k) := by
  cases h with
  | @behind n raw hn hindex hraw hraw' =>
      rw [hraw, hraw', hindex, Nat.add_right_comm]
      exact value?_add hn k raw
  | @parted n x gap y hgap hlength hi hindex hraw hraw' =>
      have hfurther : index + k = n + (x ++ gap ++ y).length := by
        simp only [hindex, ← hlength, List.length_append]
        omega
      rw [hraw, hindex, hi] at hwhole
      rw [hfurther, hraw, hraw', hindex, hi, ← hlength]
      exact value?_gap n hgap hwhole

/-! ### Scans further on -/

/-- The second scan reads the same characters as the first, `k` characters further on from offset `i`,
and behind tokens and open parentheses of its own. -/
structure Displaced (i k : Nat) (outer : List Nat) (before : List Token) (s s' : Scan) : Prop where
  index : s'.index = s.index + k
  nesting : s'.nesting = s.nesting
  pends : Pends i k s.index s.pending s'.pending
  opens : ∃ inner, s'.opens = inner ++ outer ∧ inner.length = s.opens.length
  tokens : s'.tokens = s.tokens.map (Token.spread i k) ++ before

namespace Displaced

theorem take {n n' v v' : Nat} (h : Displaced i k outer before s s') (hn : n' = n) (c : Char) :
    Displaced i k outer before (Scan.take { s with nesting := n, variableStart := v } c)
      (Scan.take { s' with nesting := n', variableStart := v' } c) where
  index := by
    show s'.index + 1 = s.index + 1 + k
    rw [h.index, Nat.add_right_comm]
  nesting := hn
  pends := h.pends.take c
  opens := h.opens
  tokens := h.tokens

theorem flush (h : Displaced i k outer before s s') (hwhole : Whole i s.flush.tokens) :
    Displaced i k outer before s.flush s'.flush where
  index := h.index
  nesting := h.nesting
  pends := .behind [] h.pends.le rfl rfl rfl
  opens := h.opens
  tokens := by
    have hvalue := h.pends.value? (hwhole.of_subset (List.subset_append_left _ _))
    show (value? s'.index s'.pending).toList ++ s'.tokens =
      ((value? s.index s.pending).toList ++ s.tokens).map (Token.spread i k) ++ before
    rw [h.index, hvalue, h.tokens, List.map_append, List.append_assoc]
    cases value? s.index s.pending <;> rfl

theorem split (h : Displaced i k outer before s s') (hwhole : Whole i (s.split kind c).tokens) :
    Displaced i k outer before (s.split kind c) (s'.split kind c) where
  index := by
    show s'.index + 1 = s.index + 1 + k
    rw [h.index, Nat.add_right_comm]
  nesting := h.nesting
  pends := .behind [] (h.pends.le.trans (Nat.le_succ _)) rfl rfl rfl
  opens := h.opens
  tokens := by
    have hflush := (h.flush (hwhole.of_subset (List.subset_cons_self _ _))).tokens
    show (⟨kind, [c], s'.index, s'.index + 1⟩ : Token) :: s'.flush.tokens =
      Token.spread i k ⟨kind, [c], s.index, s.index + 1⟩ :: s.flush.tokens.map _ ++ before
    rw [hflush, h.index, Token.spread_of_le h.pends.le]
    rfl

/-- With other parentheses open, as many in both. -/
theorem withOpens (h : Displaced i k outer before s s') {opens inner : List Nat}
    (hinner : inner.length = opens.length) :
    Displaced i k outer before { s with opens := opens } { s' with opens := inner ++ outer } where
  index := h.index
  nesting := h.nesting
  pends := h.pends
  opens := ⟨inner, rfl, hinner⟩
  tokens := h.tokens

theorem step (h : Displaced i k outer before s s') (hstep : step o source s c = .ok s₁)
    (hwhole : Whole i s₁.tokens) :
    ∃ s₁', Scan.step o source' s' c = .ok s₁' ∧ Displaced i k outer before s₁ s₁' := by
  have hopensIff : ∀ {opening closing}, s'.Opens opening closing c ↔ s.Opens opening closing c := by
    intro opening closing
    rw [Opens, Opens, h.nesting]
  obtain ⟨inner, hopens, hlength⟩ := h.opens
  cases reading_of_step hstep with
  | taken hc hs =>
      have hs' : s'.nesting = 0 → o.tokenizer? c = none := fun hzero => hs (h.nesting ▸ hzero)
      exact ⟨_, step_of_reading (.taken hc hs'), h.take h.nesting c⟩
  | opened delimits hopening =>
      refine ⟨_, step_of_reading (.opened delimits (hopensIff.mpr hopening)), h.take ?_ c⟩
      rw [h.nesting]
  | closedInner delimits hclosing hs =>
      refine ⟨_, step_of_reading (.closedInner delimits (mt hopensIff.mp hclosing) ?_), h.take rfl c⟩
      rw [h.nesting, hs]
  | closedOuter delimits hclosing hs =>
      refine ⟨_, step_of_reading (.closedOuter delimits (mt hopensIff.mp hclosing) ?_),
        (h.take rfl c).flush hwhole⟩
      rw [h.nesting, hs]
  | openParenthesis claimed hs hc =>
      refine ⟨_, step_of_reading (.openParenthesis claimed (h.nesting.trans hs) hc), ?_⟩
      rw [hopens, ← List.cons_append]
      exact (h.split hwhole).withOpens (by rw [List.length_cons, List.length_cons, hlength])
  | @closeParenthesis position rest claimed hs hc hpositions =>
      obtain ⟨first, more, rfl⟩ : ∃ first more, inner = first :: more :=
        List.exists_cons_of_length_eq_add_one (by rw [hlength, hpositions]; rfl)
      refine ⟨_, step_of_reading (.closeParenthesis claimed (h.nesting.trans hs) hc hopens),
        (h.split hwhole).withOpens ?_⟩
      rw [hpositions] at hlength
      exact Nat.succ.inj hlength
  | separator claimed hs hc =>
      exact ⟨_, step_of_reading (.separator claimed (h.nesting.trans hs) hc), h.split hwhole⟩
  | operator claimed hs =>
      exact ⟨_, step_of_reading (.operator claimed (h.nesting.trans hs)), h.split hwhole⟩

end Displaced

/-! ### Runs -/

/-- No token is ever taken back. -/
theorem tokens_subset_of_step (h : step o source s c = .ok s₁) : s.tokens ⊆ s₁.tokens := by
  have hflush : ∀ s : Scan, s.tokens ⊆ s.flush.tokens := fun s => List.subset_append_right _ _
  cases reading_of_step h with
  | taken | opened | closedInner => exact List.Subset.refl _
  | closedOuter => exact hflush (Scan.take { s with nesting := 0 } c)
  | openParenthesis | closeParenthesis | separator | operator =>
      exact List.Subset.trans (hflush s) (List.subset_cons_self _ _)

theorem tokens_subset_of_run {text : Text} : ∀ {s : Scan},
    text.foldlM (step o source) s = .ok s₁ → s.tokens ⊆ s₁.tokens := by
  induction text with
  | nil =>
      intro s h
      cases h
      exact List.Subset.refl _
  | cons c rest ih =>
      intro s h
      obtain ⟨s₂, hstep, hrest⟩ := Failing.bind_eq_ok.mp h
      exact List.Subset.trans (tokens_subset_of_step hstep) (ih hrest)

theorem Displaced.run {text : Text} : ∀ {s s' : Scan}, Displaced i k outer before s s' →
    text.foldlM (Scan.step o source) s = .ok s₁ → Whole i s₁.tokens →
    ∃ s₁', text.foldlM (Scan.step o source') s' = .ok s₁' ∧
      Displaced i k outer before s₁ s₁' := by
  induction text with
  | nil =>
      intro s s' h hrun _
      cases hrun
      exact ⟨s', rfl, h⟩
  | cons c rest ih =>
      intro s s' h hrun hwhole
      obtain ⟨s₂, hstep, hrest⟩ := Failing.bind_eq_ok.mp hrun
      have hwhole₂ : Whole i s₂.tokens := hwhole.of_subset (tokens_subset_of_run hrest)
      obtain ⟨s₂', hstep', h₂⟩ := h.step hstep hwhole₂
      obtain ⟨s₁', hrest', h₁⟩ := ih h₂ hrest hwhole
      exact ⟨s₁', Failing.bind_eq_ok.mpr ⟨s₂', hstep', hrest'⟩, h₁⟩

end Scan

end Reckon
