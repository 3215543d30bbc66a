/-
White space between tokens is irrelevant.

White space may come in anywhere in a source but inside a value.  The scan up to there is the same,
since nothing that splits a text looks ahead.  The white space joins what is pending, whatever that
is, for no tokenizer claims any of it.  From there on the scan is the displaced one, and what it
finds is read as before, because the places of tokens do not matter to the tree.
-/
import Reckon.Proofs.Tokens.Displacement

namespace Reckon

variable {o : Options} {source source' a gap b : Text} {tokens : List Token}

/-- No white space splits a text. -/
def Options.LeavesBlanks (o : Options) : Prop :=
  ∀ c kind, (c, kind) ∈ o.delimiterTable → Text.isBlank c = false

theorem Options.LeavesBlanks.free {c : Char} (h : o.LeavesBlanks) (hc : Text.isBlank c = true) :
    o.tokenizer? c = none := by
  cases hkind : o.tokenizer? c with
  | none => rfl
  | some kind =>
      rw [h c kind (Options.mem_delimiterTable.mpr hkind)] at hc
      cases hc

theorem Options.Readable.leavesBlanks (h : o.Readable) : o.LeavesBlanks := by
  intro c kind hlisted
  have hclaimed := Options.mem_claimed_of_tokenizer? (Options.mem_delimiterTable.mp hlisted)
  cases kind with
  | «variable» => exact (h.delimitersApart c hclaimed).2
  | parenthesis =>
      simp only [Options.claimed, Options.structural, List.mem_cons, List.not_mem_nil,
        or_false] at hclaimed
      rcases hclaimed with rfl | rfl | rfl <;> rfl
  | operator =>
      obtain ⟨op, hop, rfl⟩ := List.mem_map.mp hclaimed
      exact (h.operatorsApart op hop).2

namespace Scan

variable {s s₁ : Scan} {c : Char}

/-! ### Up to the white space -/

/-- The source is there for faults only. -/
theorem step_of_source (h : step o source s c = .ok s₁) : step o source' s c = .ok s₁ := by
  cases reading_of_step h with
  | taken hc hs => exact step_of_reading (.taken hc hs)
  | opened delimits hopens => exact step_of_reading (.opened delimits hopens)
  | closedInner delimits hopens hs => exact step_of_reading (.closedInner delimits hopens hs)
  | closedOuter delimits hopens hs => exact step_of_reading (.closedOuter delimits hopens hs)
  | openParenthesis claimed hs hc => exact step_of_reading (.openParenthesis claimed hs hc)
  | closeParenthesis claimed hs hc hopens =>
      exact step_of_reading (.closeParenthesis claimed hs hc hopens)
  | separator claimed hs hc => exact step_of_reading (.separator claimed hs hc)
  | operator claimed hs => exact step_of_reading (.operator claimed hs)

theorem run_of_source {text : Text} (h : text.foldlM (step o source) s = .ok s₁) :
    text.foldlM (step o source') s = .ok s₁ := by
  obtain ⟨s₁', hrun, rfl⟩ := Failing.foldlM_related (R := Eq)
    (fun _ _ _ _ hsame hstep => ⟨_, hsame ▸ step_of_source hstep, rfl⟩) rfl h
  exact hrun

/-- Where white space comes in, all tokens so far stand before it, and it joins what is pending. -/
theorem Tiles.displaced (h : Tiles o a s) (hgap : ∀ c ∈ gap, Text.isBlank c = true) :
    Displaced a.length gap.length [] [] s
      { s with index := s.index + gap.length, pending := gap.reverse ++ s.pending } := by
  obtain ⟨before, hbefore, htiled⟩ := h.tiled
  have hlength : a.length = before.length + s.pending.reverse.length := by
    rw [hbefore, List.length_append]
  have hstay : ∀ t ∈ s.tokens, t.spread a.length gap.length = t := by
    intro t ht
    obtain ⟨x, y, hxy, hstart, -, spells⟩ := htiled.exists_of_mem (List.mem_reverse.mpr ht)
    have hpos := List.length_pos_iff.mpr spells.ne_nil
    have hinside := congrArg List.length hxy
    simp only [List.length_append] at hinside
    exact Token.spread_of_lt (by omega)
  refine ⟨rfl, rfl, ?_, ⟨s.opens, (List.append_nil _).symm, rfl⟩, ?_⟩
  · refine .parted hgap rfl hlength (y := []) ?_ ?_ ?_
    · rw [h.index, hlength, List.append_nil]
    · rw [List.append_nil, List.reverse_reverse]
    · rw [List.append_nil, List.reverse_append, List.reverse_reverse]
  · rw [List.append_nil, List.map_congr_left hstay, List.map_id']

end Scan

/-! ### Tokens and trees -/

theorem tokenize_with_gap (hblanks : o.LeavesBlanks) (hgap : ∀ c ∈ gap, Text.isBlank c = true)
    (h : tokenize o (a ++ b) = .ok tokens) (hwhole : Whole a.length tokens) :
    tokenize o (a ++ gap ++ b) = .ok (tokens.map (Token.spread a.length gap.length)) := by
  obtain ⟨s, hrun, hfinish⟩ := Failing.bind_eq_ok.mp h
  obtain ⟨hnesting, hopens, htokens⟩ := Scan.finish_eq_ok.mp hfinish
  rw [List.foldlM_append] at hrun
  obtain ⟨s₁, hbefore, hbehind⟩ := Failing.bind_eq_ok.mp hrun
  have htaken : ∀ c ∈ gap, ∀ s : Scan, s.nesting = s₁.nesting →
      Scan.step o (a ++ gap ++ b) s c = .ok (s.take c) :=
    fun c hc _ _ => Scan.step_of_free (hblanks.free (hgap c hc))
  have hwhole' : Whole a.length s.flush.tokens :=
    hwhole.of_subset fun t ht => htokens ▸ List.mem_reverse.mpr ht
  obtain ⟨s', hrun', hdisplaced⟩ := ((Scan.tiles_of_run hbefore).displaced hgap).run hbehind
    (hwhole'.of_subset (List.subset_append_right _ _))
  have hflush := hdisplaced.flush hwhole'
  refine Failing.bind_eq_ok.mpr ⟨s', ?_, Scan.finish_eq_ok.mpr ⟨?_, ?_, ?_⟩⟩
  · rw [List.foldlM_append, List.foldlM_append, Scan.run_of_source hbefore]
    exact Failing.bind_eq_ok.mpr ⟨_, Scan.foldlM_of_taken rfl htaken, hrun'⟩
  · rw [hdisplaced.nesting, hnesting]
  · obtain ⟨inner, hinner, hlength⟩ := hdisplaced.opens
    rw [hopens] at hlength
    rw [hinner, List.append_nil, List.length_eq_zero_iff.mp hlength]
  · rw [hflush.tokens, List.append_nil, ← List.map_reverse, htokens]

/--
**White space between tokens is irrelevant.**

If no white space splits a text, then white space may come in at any offset of a source that is split
into tokens, but for the inside of a value.  The tokens stay the same, those at or behind the offset
stand further on by as much, and either source is read as a tree if and only if the other one is.
-/
theorem tokenize_spaced (hblanks : o.LeavesBlanks) (hgap : ∀ c ∈ gap, Text.isBlank c = true)
    (h : tokenize o (a ++ b) = .ok tokens)
    (hoffset : ∀ t ∈ tokens, t.kind = .value → ¬(t.start < a.length ∧ a.length < t.stop)) :
    tokenize o (a ++ gap ++ b) = .ok (tokens.map (Token.spread a.length gap.length)) ∧
      ∀ root, ReadsAs o (a ++ gap ++ b) root ↔ ReadsAs o (a ++ b) root := by
  have hspaced := tokenize_with_gap hblanks hgap h hoffset
  refine ⟨hspaced, fun root => ?_⟩
  have hsame : (parseTokens o (a ++ gap ++ b) (tokens.map (Token.spread a.length gap.length))).toOption =
      (parseTokens o (a ++ b) tokens).toOption := parseTokens_map (Token.moves_spread _ _) tokens
  rw [readsAs_of_tokenize h, readsAs_of_tokenize hspaced, ← Failing.toOption_eq_some,
    ← Failing.toOption_eq_some, hsame]

/-- White space comes in before the operator of `2*[x]`. -/
theorem tokenize_spaced_product :
    tokenize .standard ("2".toList ++ " \t".toList ++ "*[x]".toList) =
        .ok [⟨.value, ['2'], 0, 1⟩, ⟨.operator, ['*'], 3, 4⟩, ⟨.value, "[x]".toList, 4, 7⟩] ∧
      ∀ root, ReadsAs .standard ("2".toList ++ " \t".toList ++ "*[x]".toList) root ↔
        ReadsAs .standard ("2".toList ++ "*[x]".toList) root := by
  have h : tokenize .standard ("2".toList ++ "*[x]".toList) =
      .ok [⟨.value, ['2'], 0, 1⟩, ⟨.operator, ['*'], 1, 2⟩, ⟨.value, "[x]".toList, 2, 5⟩] := rfl
  exact tokenize_spaced Options.standard_readable.leavesBlanks (List.all_eq_true.mp rfl) h (by decide)

end Reckon
