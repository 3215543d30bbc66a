/-
A scan accepts the texts in balance, and blames the fault of any other.

The scan does not count.  It keeps the number of open variables, the offset of the outermost
one, and a stack of open parentheses, and it stops at the first character that does not fit.
`Scan.Follows` and `Scan.Pairs` say what this state means in terms of the text that has been
read, and every step that succeeds preserves both.  So a scan that comes to the end has met
no offending character, and what it still holds open there is what the text leaves open.
-/
import Reckon.Proofs.Tokens.Balance
import Reckon.Proofs.Failing

namespace Reckon

open Brackets

variable {o : Options} {source p : Text} {c : Char}

/-- A parenthesis at its offset, as a token. -/
def Token.ofParenthesis (x : Char × Nat) : Token :=
  ⟨if x.1 = '(' then .opening else .closing, [x.1], x.2, x.2 + 1⟩

/-- A token of a parenthesis. -/
def Token.isParenthesis (t : Token) : Bool := t.kind == .opening || t.kind == .closing

namespace Scan

variable {s s' : Scan}

/-! ### Variables -/

/-- The state knows which variables the text leaves open. -/
structure Follows (o : Options) (p : Text) (s : Scan) : Prop where
  index : s.index = p.length
  nesting : (s.nesting : Int) = o.nesting p
  opened : s.nesting ≠ 0 → OpenSince o p s.variableStart

namespace Follows

theorem of_start : Follows o [] start where
  index := rfl
  nesting := (Options.nesting_nil o).symm
  opened h := absurd rfl h

/-- A variable that is open at the next character is open already or begins there. -/
theorem concat (h : Follows o p s) (hindex : s'.index = s.index + 1)
    (hnesting : (s'.nesting : Int) = o.nesting (p ++ [c]))
    (hstart : s'.nesting ≠ 0 →
      s'.variableStart = if s.nesting = 0 then s.index else s.variableStart) :
    Follows o (p ++ [c]) s' where
  index := by rw [hindex, h.index, List.length_append, List.length_singleton]
  nesting := hnesting
  opened hs' := by
    have hpos : 0 < o.nesting (p ++ [c]) := by omega
    rw [hstart hs']
    split
    · rename_i hs
      rw [h.index]
      exact .begin (by rw [← h.nesting, hs]; rfl) hpos
    · rename_i hs
      exact (h.opened hs).concat hpos

variable {opening closing : Char}

/-- A delimiter that opens a variable counts as one more, any other as one less. -/
theorem nesting_of_delimits (h : Follows o p s) (delimits : o.Delimits opening closing c) :
    (s.Opens opening closing c → o.nesting (p ++ [c]) = s.nesting + 1) ∧
      (¬s.Opens opening closing c → o.nesting (p ++ [c]) = s.nesting - 1) := by
  obtain ⟨-, hdelimiters, hc⟩ := delimits
  have hp := h.nesting
  unfold Opens
  by_cases hsame : opening = closing
  · subst hsame
    obtain rfl := hc.elim id id
    rw [if_pos rfl]
    -- One character for both: whether it opens is whether the count is even.
    rcases Options.nesting_concat_same hdelimiters p with ⟨hzero, hone⟩ | ⟨hone, hzero⟩ <;>
      constructor <;> intro hs <;> omega
  · rw [if_neg hsame, hp]
    constructor
    · rintro rfl
      exact Options.nesting_concat_opening hdelimiters hsame p
    · intro hne
      rw [hc.resolve_left hne]
      exact Options.nesting_concat_closing hdelimiters hsame p

theorem nesting_of_ne (h : Follows o p s) (hv : o.Valid) (hc : o.tokenizer? c ≠ some .variable) :
    o.nesting (p ++ [c]) = s.nesting := by
  rw [h.nesting]
  refine Options.nesting_concat_of_ne (fun opening closing hdelimiters => ⟨?_, ?_⟩) p
  · exact fun heq => hc (hv.delimits hdelimiters (.inl heq)).claimed
  · exact fun heq => hc (hv.delimits hdelimiters (.inr heq)).claimed

theorem step (hv : o.Valid) (h : Follows o p s) (hstep : step o source s c = .ok s') :
    Follows o (p ++ [c]) s' := by
  cases reading_of_step hstep with
  | taken hc => exact h.concat rfl (h.nesting_of_ne hv hc).symm fun hs => (if_neg hs).symm
  | opened delimits hopens =>
      exact h.concat rfl ((h.nesting_of_delimits delimits).1 hopens).symm fun _ => rfl
  | @closedInner _ _ n delimits hopens hs =>
      refine h.concat rfl ?_ fun _ => (if_neg (by omega)).symm
      show ((n + 1 : Nat) : Int) = _
      rw [(h.nesting_of_delimits delimits).2 hopens, hs]
      omega
  | closedOuter delimits hopens hs =>
      refine h.concat rfl ?_ fun hs' => absurd rfl hs'
      rw [(h.nesting_of_delimits delimits).2 hopens, hs]
      rfl
  | openParenthesis claimed hs
  | closeParenthesis claimed hs
  | separator claimed hs
  | operator claimed hs =>
      have hc : o.tokenizer? c ≠ some .variable := by simp [claimed]
      exact h.concat rfl (h.nesting_of_ne hv hc).symm fun hs' => absurd hs hs'

end Follows

/-! ### Parentheses -/

/-- The state knows which parentheses outside variables the text holds, and which of them wait for a
partner.  Tokens are kept newest first. -/
structure Pairs (o : Options) (p : Text) (s : Scan) : Prop where
  stacked : Stacked (o.parentheses p) s.opens
  tokens : s.tokens.filter Token.isParenthesis = ((o.parentheses p).map Token.ofParenthesis).reverse

theorem filter_flush (s : Scan) :
    s.flush.tokens.filter Token.isParenthesis = s.tokens.filter Token.isParenthesis := by
  unfold flush value?
  dsimp only
  split <;> rfl

namespace Pairs

theorem of_start : Pairs o [] start where
  stacked := by
    rw [Options.parentheses_nil]
    exact .even .nil
  tokens := by
    rw [Options.parentheses_nil]
    rfl

/-- The character is no parenthesis outside variables. -/
theorem keep (h : Pairs o p s) (hp : o.parentheses (p ++ [c]) = o.parentheses p)
    (hopens : s'.opens = s.opens)
    (htokens : s'.tokens.filter Token.isParenthesis = s.tokens.filter Token.isParenthesis) :
    Pairs o (p ++ [c]) s' where
  stacked := by
    rw [hp, hopens]
    exact h.stacked
  tokens := by rw [hp, htokens, h.tokens]

/-- The character is a parenthesis outside variables. -/
theorem concat (h : Pairs o p s)
    (hp : o.parentheses (p ++ [c]) = o.parentheses p ++ [(c, p.length)])
    (hstacked : Stacked (o.parentheses p ++ [(c, p.length)]) s'.opens)
    (htokens : s'.tokens.filter Token.isParenthesis =
      Token.ofParenthesis (c, p.length) :: s.tokens.filter Token.isParenthesis) :
    Pairs o (p ++ [c]) s' where
  stacked := by rwa [hp]
  tokens := by
    rw [hp, htokens, h.tokens, List.map_append, List.reverse_append]
    rfl

theorem step (hv : o.Valid) (hfollows : Follows o p s) (h : Pairs o p s)
    (hstep : step o source s c = .ok s') : Pairs o (p ++ [c]) s' := by
  have hnesting := hfollows.nesting
  cases reading_of_step hstep with
  | taken hc hs =>
      refine h.keep ?_ rfl rfl
      by_cases hzero : s.nesting = 0
      · exact hv.parentheses_concat_of_ne (by simp [hs hzero]) p
      · exact Options.parentheses_concat_of_nesting (by omega)
  | opened delimits
  | closedInner delimits =>
      exact h.keep (hv.parentheses_concat_of_ne (by simp [delimits.claimed]) p) rfl rfl
  | closedOuter delimits =>
      refine h.keep (hv.parentheses_concat_of_ne (by simp [delimits.claimed]) p) rfl ?_
      exact filter_flush _
  | openParenthesis claimed hs hc =>
      subst hc
      rw [hs] at hnesting
      refine h.concat (Options.parentheses_concat_of_claimed claimed (.inl rfl) hnesting.symm) ?_ ?_
      · rw [← hfollows.index]
        exact h.stacked.push s.index
      · rw [← filter_flush s, ← hfollows.index]
        rfl
  | @closeParenthesis position outer claimed hs hc hopens =>
      subst hc
      rw [hs] at hnesting
      refine h.concat (Options.parentheses_concat_of_claimed claimed (.inr rfl) hnesting.symm) ?_ ?_
      · have hstacked := h.stacked
        rw [hopens] at hstacked
        exact hstacked.pop p.length
      · rw [← filter_flush s, ← hfollows.index]
        rfl
  | separator claimed hs hc =>
      refine h.keep ?_ rfl (filter_flush s)
      rw [Options.parentheses_concat, if_neg (by simp [hc]), List.append_nil]
  | operator claimed hs =>
      exact h.keep (hv.parentheses_concat_of_ne (by simp [claimed]) p) rfl (filter_flush s)

end Pairs

/-! ### Offending characters -/

/-- A step that fails has met an offending character. -/
theorem offends_of_step {fault : Located ScanCause} (hfollows : Follows o p s) (hpairs : Pairs o p s)
    (hstep : step o source s c = .error fault) :
    Offends o p c fault.cause ∧ fault.excerpt = ⟨source, p.length, p.length + 1⟩ := by
  have hnesting := hfollows.nesting
  rw [← hfollows.index]
  cases reading_of_step hstep with
  | @closesNothing opening closing delimits hopens hs =>
      rw [hs] at hnesting
      refine ⟨?_, rfl⟩
      unfold Opens at hopens
      split at hopens
      · exact absurd hs hopens
      · rename_i hne
        obtain rfl := delimits.either.resolve_left hopens
        exact .delimiter delimits.delimiters hne hnesting.symm
  | unmatchedClose claimed hs hc hopens =>
      subst hc
      rw [hs] at hnesting
      refine ⟨.parenthesis ?_, rfl⟩
      have hdepth := hpairs.stacked.depth_eq_length
      rw [hopens] at hdepth
      rw [Options.parentheses_concat_of_claimed claimed (.inr rfl) hnesting.symm, depth_append, hdepth,
        depth_closing, depth_nil]
      decide

/-- A step that succeeds has met none. -/
theorem not_offends_of_step (hv : o.Valid) (hfollows : Follows o p s)
    (hpairs : Pairs o (p ++ [c]) s') (hstep : step o source s c = .ok s') (cause : ScanCause) :
    ¬Offends o p c cause := by
  intro hoffends
  cases hoffends with
  | parenthesis hneg =>
      rw [hpairs.stacked.depth_eq_length] at hneg
      omega
  | @delimiter opening _ hdelimiters hne hp =>
      -- Of the steps for a delimiter only those that close are left, and they need an open variable.
      have hclaimed := (hv.delimits hdelimiters (.inr rfl)).claimed
      have hnesting := hfollows.nesting
      rw [hp] at hnesting
      cases reading_of_step hstep with
      | taken hc => exact hc hclaimed
      | opened delimits hopens =>
          have heq := delimits.delimiters
          rw [hdelimiters] at heq
          cases heq
          rw [Opens, if_neg hne] at hopens
          exact hne hopens.symm
      | closedInner _ _ hs | closedOuter _ _ hs => omega
      | openParenthesis claimed
      | closeParenthesis claimed
      | separator claimed
      | operator claimed =>
          rw [hclaimed] at claimed
          cases claimed

/-- What is known of the state behind a text without offending characters. -/
structure Reached (o : Options) (p : Text) (s : Scan) : Prop where
  follows : Follows o p s
  pairs : Pairs o p s
  unbroken : Unbroken o p

theorem Reached.step (hv : o.Valid) (h : Reached o p s) (hstep : step o source s c = .ok s') :
    Reached o (p ++ [c]) s' := by
  have hpairs := h.pairs.step hv h.follows hstep
  exact ⟨h.follows.step hv hstep, hpairs,
    h.unbroken.concat (not_offends_of_step hv h.follows hpairs hstep)⟩

theorem reached_start : Reached o [] start := ⟨.of_start, .of_start, unbroken_nil⟩

/-- Where nothing is open at the end, the text is in balance. -/
theorem Reached.balanced (h : Reached o source s) (hs : s.nesting = 0) (hopens : s.opens = []) :
    Balanced o source where
  opened opening closing hdelimiters hne p hp hzero :=
    h.unbroken p closing hp _ (.delimiter hdelimiters hne hzero)
  ended := by
    rw [← h.follows.nesting, hs]
    rfl
  ahead p hp := h.unbroken.depth_nonneg hp
  even := by
    rw [h.pairs.stacked.depth_eq_length, hopens]
    rfl

/-- What is open at the end is to blame. -/
theorem Reached.blames {fault : Located ScanCause} (h : Reached o source s)
    (hfinish : s.finish source = .error fault) :
    Blames o source fault ∧ ¬Balanced o source := by
  rcases finish_eq_error hfinish with ⟨hs, rfl⟩ | ⟨hs, position, outer, hopens, rfl⟩
  · have hopen := h.follows.opened hs
    refine ⟨.openVariable h.unbroken hopen, fun hbalanced => ?_⟩
    have hpos := hopen.nesting_pos
    rw [hbalanced.ended] at hpos
    exact absurd hpos (by decide)
  · have hstacked := h.pairs.stacked
    rw [hopens] at hstacked
    have hended : o.nesting source = 0 := by
      rw [← h.follows.nesting, hs]
      rfl
    have hlast := hstacked.lastUnclosed (o.pairwise_parentheses source)
    refine ⟨.openParenthesis h.unbroken hended hlast, fun hbalanced => ?_⟩
    have hdepth := hstacked.depth_eq_length
    rw [hbalanced.even, List.length_cons] at hdepth
    omega

end Scan

/-! ### Every text -/

variable {tokens : List Token} {fault : Located ScanCause}

/-- The parentheses among the tokens are those outside variables, all with a partner. -/
structure Accepts (o : Options) (source : Text) (tokens : List Token) : Prop where
  balanced : Balanced o source
  nested : Nested (o.parentheses source)
  parentheses : tokens.filter Token.isParenthesis = (o.parentheses source).map Token.ofParenthesis

/-- A text is accepted or refused, and for good reason. -/
theorem tokenize_cases (hv : o.Valid) (source : Text) :
    (∃ tokens, tokenize o source = .ok tokens ∧ Accepts o source tokens) ∨
      ∃ fault, tokenize o source = .error fault ∧ Blames o source fault ∧ ¬Balanced o source := by
  rcases Failing.foldlM_cases Scan.reached_start
    (fun _ _ _ _ hreached hstep => Scan.Reached.step hv hreached hstep) source with
    ⟨s, hrun, hreached⟩ | ⟨p, c, rest, s, fault, hsource, hreached, hstep, hrun⟩
  · have htokenize : tokenize o source = s.finish source := by
      rw [tokenize, hrun]
      rfl
    rw [htokenize]
    cases hfinish : s.finish source with
    | error fault => exact .inr ⟨fault, rfl, hreached.blames hfinish⟩
    | ok tokens =>
        obtain ⟨hs, hopens, rfl⟩ := Scan.finish_eq_ok.mp hfinish
        have hstacked := hreached.pairs.stacked
        rw [hopens] at hstacked
        refine .inl ⟨_, rfl, hreached.balanced hs hopens, hstacked.nested, ?_⟩
        rw [List.filter_reverse, Scan.filter_flush, hreached.pairs.tokens, List.reverse_reverse]
  · have htokenize : tokenize o source = .error fault := by
      rw [tokenize, hrun]
      rfl
    obtain ⟨hoffends, hexcerpt⟩ := Scan.offends_of_step hreached.follows hreached.pairs hstep
    have hp : p ++ [c] <+: source := ⟨rest, by simp [hsource]⟩
    refine .inr ⟨fault, htokenize, ?_, fun hbalanced => hbalanced.unbroken p c hp _ hoffends⟩
    obtain ⟨cause, excerpt⟩ := fault
    cases hexcerpt
    exact .character hp hreached.unbroken hoffends

/-- What is accepted has no fault. -/
theorem Accepts.not_blames (h : Accepts o source tokens) : ¬Blames o source fault := by
  intro hblames
  cases hblames with
  | character hp _ hoffends => exact h.balanced.unbroken _ _ hp _ hoffends
  | openVariable _ hopen =>
      have hpos := hopen.nesting_pos
      rw [h.balanced.ended] at hpos
      exact absurd hpos (by decide)
  | openParenthesis _ _ hlast =>
      obtain ⟨j, hj⟩ := h.nested.exists_partner hlast.mem
      exact hlast.alone j hj

/--
**A text is split into tokens if and only if it is in balance, and otherwise its fault is reported.**

The tokens of parentheses are then exactly the parentheses outside variables.  The fault is the one
that the text has: the first character that closes something that is not open, else the variable
that is open at the end, else the last parenthesis that nothing closes.
-/
theorem tokenize_iff_balanced (hv : o.Valid) (source : Text) :
    ((∃ tokens, tokenize o source = .ok tokens) ↔ Balanced o source) ∧
      (∀ tokens, tokenize o source = .ok tokens →
        tokens.filter Token.isParenthesis = (o.parentheses source).map Token.ofParenthesis) ∧
      ∀ fault, tokenize o source = .error fault ↔ Blames o source fault := by
  rcases tokenize_cases hv source with ⟨tokens, hok, haccepts⟩ | ⟨fault, herror, hblames, hnot⟩
  · rw [hok]
    refine ⟨⟨fun _ => haccepts.balanced, fun _ => ⟨tokens, rfl⟩⟩, ?_, fun fault => ⟨?_, ?_⟩⟩
    · rintro _ ⟨⟩
      exact haccepts.parentheses
    · rintro ⟨⟩
    · exact fun hblames => absurd hblames haccepts.not_blames
  · rw [herror]
    refine ⟨⟨?_, fun hbalanced => absurd hbalanced hnot⟩, ?_, fun fault' => ⟨?_, ?_⟩⟩
    · rintro ⟨tokens, ⟨⟩⟩
    · rintro tokens ⟨⟩
    · rintro ⟨⟩
      exact hblames
    · intro hblames'
      rw [hblames.unique hv hblames']

/-- In `([a(](1)` the variable hides one parenthesis, and nothing closes the first one. -/
theorem tokenize_iff_balanced_hidden :
    Options.standard.Valid ∧
      Blames .standard "([a(](1)".toList ⟨.unclosedParenthesis, ⟨"([a(](1)".toList, 0, 1⟩⟩ := by
  have hv : Options.standard.Valid := Options.standard_readable.valid
  exact ⟨hv, ((tokenize_iff_balanced hv "([a(](1)".toList).2.2 _).mp rfl⟩

end Reckon
