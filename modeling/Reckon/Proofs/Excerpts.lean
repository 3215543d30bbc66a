/-
Every fault of reading points at a real part of the source.

A fault of the scan points at the character to blame, and one at the end of the text at where the open
variable or parenthesis began.  A fault of the parser points at tokens that follow each other, at any depth,
and tokens stand where they say they do.  So what is pointed at begins as its first token does and ends as
its last one does, with something else than white space.
-/
import Reckon.Proofs.Descent
import Reckon.Proofs.Tokens.Spacing
import Reckon.Proofs.Tokens.Verdict

namespace Reckon

open Brackets
open Shape (PointsInto)

variable {o : Options} {source : Text} {tokens : List Token} {c : Char}

/-! ### Parts of a text -/

namespace Text

variable {s : Text} {i j k l : Nat}

theorem head?_slice (hij : i < j) (hj : j ≤ s.length) : (s.slice i j).head? = s[i]? := by
  rw [slice, position_natCast hj, position_natCast (hij.le.trans hj), List.head?_drop,
    List.getElem?_take_of_lt hij]

theorem getLast?_slice (hij : i < j) (hj : j ≤ s.length) : (s.slice i j).getLast? = s[j - 1]? := by
  have hlength : (s.take j).length = j := List.length_take_of_le hj
  rw [slice, position_natCast hj, position_natCast (hij.le.trans hj), List.getLast?_drop,
    if_neg (by omega), List.getLast?_eq_getElem?, hlength, List.getElem?_take_of_lt (by omega)]

/-- From the beginning of one part without white space at its ends to the end of another one. -/
theorem isTrimmed_slice (h : (s.slice i j).IsTrimmed) (h' : (s.slice k l).IsTrimmed) (hij : i < j)
    (hj : j ≤ s.length) (hkl : k < l) (hl : l ≤ s.length) (hil : i < l) :
    (s.slice i l).IsTrimmed := by
  obtain ⟨c, -, hhead, -, hc, -⟩ := h
  obtain ⟨-, d, -, hlast, -, hd⟩ := h'
  refine ⟨c, d, ?_, ?_, hc, hd⟩
  · rw [head?_slice hil hl, ← head?_slice hij hj, hhead]
  · rw [getLast?_slice hil hl, ← getLast?_slice hkl hl, hlast]

end Text

/-- The part lies in the source. -/
structure Excerpt.Inside (source : Text) (e : Excerpt) : Prop where
  part : e.source = source
  nonneg : 0 ≤ e.start
  ordered : e.start ≤ e.stop
  within : e.stop ≤ source.length

/-! ### Malformed texts -/

/-- The characters that a malformed text can be blamed on: a parenthesis, or a delimiter of variables. -/
def ScanCause.Offender (o : Options) : ScanCause → Char → Prop
  | closingWithoutOpening closing opening, c => c = closing ∧ o.delimiters? = some (opening, closing)
  | unmatchedClose, c => c = ')'
  | unterminatedVariable, c => ∃ closing, o.delimiters? = some (c, closing)
  | unclosedParenthesis, c => c = '('

theorem Offends.offender {p : Text} {cause : ScanCause} (h : Offends o p c cause)
    (hp : Unbroken o p) : cause.Offender o c := by
  cases h with
  | delimiter hdelimiters => exact ⟨rfl, hdelimiters⟩
  | parenthesis hneg =>
      -- Only a closing parenthesis brings the depth down.
      have hdepth := hp.depth_nonneg (List.prefix_refl p)
      rw [Options.parentheses_concat] at hneg
      split at hneg
      · rename_i hcounts
        rcases hcounts.2.1 with rfl | rfl
        · rw [depth_append, depth_opening, depth_nil] at hneg
          omega
        · rfl
      · rw [List.append_nil] at hneg
        omega

/-- A variable begins with the delimiter that opens one. -/
theorem OpenSince.exists_opening {start : Nat} (h : OpenSince o source start) :
    ∃ c closing, source[start]? = some c ∧ o.delimiters? = some (c, closing) := by
  obtain ⟨c, hc⟩ : ∃ c, source[start]? = some c := ⟨_, List.getElem?_eq_getElem h.inside⟩
  have hbefore := h.before
  have hpos := h.since (start + 1) (Nat.lt_succ_self start) h.inside
  rw [List.take_add_one, hc, Option.toList_some] at hpos
  have hdelimits : ∃ opening closing, o.delimiters? = some (opening, closing) ∧
      (c = opening ∨ c = closing) := by
    by_contra hnot
    rw [Options.nesting_concat_of_ne fun a b hab =>
      ⟨fun heq => hnot ⟨a, b, hab, .inl heq⟩, fun heq => hnot ⟨a, b, hab, .inr heq⟩⟩] at hpos
    omega
  obtain ⟨opening, closing, hdelimiters, rfl | rfl⟩ := hdelimits
  · exact ⟨c, closing, hc, hdelimiters⟩
  · by_cases hsame : opening = c
    · subst hsame
      exact ⟨opening, opening, hc, hdelimiters⟩
    · -- A delimiter that only closes would bring the count down.
      rw [Options.nesting_concat_closing hdelimiters hsame] at hpos
      omega

theorem Options.getElem?_of_mem_parentheses {i : Nat} (h : (c, i) ∈ o.parentheses source) :
    source[i]? = some c := by
  unfold parentheses at h
  split at h
  · exact (List.mem_zipIdx_iff_getElem?.mp (List.mem_of_mem_filter h))
  · cases h

/-- The part that begins at a character that is there. -/
theorem Excerpt.inside_of_getElem? {i j : Nat} (hi : source[i]? = some c) (hij : i < j)
    (hj : j ≤ source.length) :
    (Excerpt.mk source i j).Inside source ∧ (Excerpt.mk source i j).snippet.head? = some c :=
  ⟨⟨rfl, Int.natCast_nonneg i, by dsimp only; omega, by dsimp only; omega⟩,
    (Text.head?_slice hij hj).trans hi⟩

/-- What is to blame for a malformed text is where the fault begins. -/
theorem Blames.begins {fault : Located ScanCause} (h : Blames o source fault) :
    fault.excerpt.Inside source ∧
      ∃ c, fault.cause.Offender o c ∧ fault.excerpt.snippet.head? = some c := by
  cases h with
  | @character p c cause hp unbroken hoffends =>
      obtain ⟨rest, rfl⟩ := hp
      have hlength : p.length + 1 ≤ (p ++ [c] ++ rest).length := by simp
      have hc : (p ++ [c] ++ rest)[p.length]? = some c := by simp
      obtain ⟨hinside, hhead⟩ := Excerpt.inside_of_getElem? hc (Nat.lt_succ_self _) hlength
      exact ⟨hinside, c, hoffends.offender unbroken, hhead⟩
  | openVariable _ hopen =>
      obtain ⟨c, closing, hc, hdelimiters⟩ := hopen.exists_opening
      obtain ⟨hinside, hhead⟩ := Excerpt.inside_of_getElem? hc hopen.inside (Nat.le_refl _)
      exact ⟨hinside, c, ⟨closing, hdelimiters⟩, hhead⟩
  | openParenthesis _ _ hlast =>
      have hc := Options.getElem?_of_mem_parentheses hlast.mem
      obtain ⟨hlt, -⟩ := List.getElem?_eq_some_iff.mp hc
      obtain ⟨hinside, hhead⟩ := Excerpt.inside_of_getElem? hc (Nat.lt_succ_self _) hlt
      exact ⟨hinside, '(', rfl, hhead⟩

/-! ### Tokens that make no sense -/

theorem Options.Spells.isTrimmed {kind : TokenKind} {text : Text} (h : o.Spells kind text)
    (hblanks : o.LeavesBlanks) : text.IsTrimmed := by
  have hsingle : ∀ c kind, (c, kind) ∈ o.delimiterTable → Text.IsTrimmed [c] := fun c kind hc =>
    ⟨c, c, rfl, rfl, hblanks c kind hc, hblanks c kind hc⟩
  cases kind with
  | value => exact h
  | operator =>
      obtain ⟨c, rfl, hc⟩ := h
      exact hsingle c _ hc
  | opening | closing | separator =>
      obtain ⟨rfl, hc⟩ := h
      exact hsingle _ _ hc

/-- From the beginning of a token to the end of the same or a later one. -/
structure Excerpt.Reaches (tokens : List Token) (e : Excerpt) : Prop where
  tokens : ∃ (i j : Nat) (t u : Token), i ≤ j ∧ tokens[i]? = some t ∧ tokens[j]? = some u ∧
    e.start = t.start ∧ e.stop = u.stop
  /-- There is something in it, and no white space at its ends. -/
  trimmed : e.snippet.IsTrimmed

theorem Covers.stop_le_of_le (h : Covers o source tokens) {i j : Nat} {t u : Token} (hij : i ≤ j)
    (ht : tokens[i]? = some t) (hu : tokens[j]? = some u) : t.stop ≤ u.stop := by
  rcases Nat.eq_or_lt_of_le hij with rfl | hlt
  · rw [ht] at hu
    cases hu
    exact Int.le_refl _
  · obtain ⟨hi, rfl⟩ := List.getElem?_eq_some_iff.mp ht
    obtain ⟨hj, rfl⟩ := List.getElem?_eq_some_iff.mp hu
    have hapart := List.pairwise_iff_getElem.mp h.ordered i j hi hj hlt
    have hinside := h.inside _ (List.getElem_mem hj)
    omega

theorem Covers.reaches (h : Covers o source tokens) (hblanks : o.LeavesBlanks) {place : Excerpt}
    (hplace : PointsInto source tokens place) : place.Inside source ∧ place.Reaches tokens := by
  obtain ⟨run, hne, ⟨before, behind, htokens⟩, rfl⟩ := hplace
  obtain ⟨hfirst, hlast⟩ : tokens[before.length]? = some (run.head hne) ∧
      tokens[before.length + (run.length - 1)]? = some (run.getLast hne) := by
    have hpos := List.length_pos_iff.mpr hne
    constructor
    · rw [← htokens, List.append_assoc, List.getElem?_append_right (Nat.le_refl _), Nat.sub_self,
        List.getElem?_append_left hpos, ← List.head?_eq_getElem?, List.head?_eq_some_head hne]
    · rw [← htokens, List.append_assoc, List.getElem?_append_right (Nat.le_add_right _ _),
        Nat.add_sub_cancel_left, List.getElem?_append_left (by omega), ← List.getLast?_eq_getElem?,
        List.getLast?_eq_some_getLast hne]
  have hstart : (Excerpt.covering source run).start = (run.head hne).start := by
    rw [Excerpt.covering, List.head?_eq_some_head hne]
    rfl
  have hstop : (Excerpt.covering source run).stop = (run.getLast hne).stop := by
    rw [Excerpt.covering, List.getLast?_eq_some_getLast hne]
    rfl
  generalize run.head hne = t at hfirst hstart
  generalize run.getLast hne = u at hlast hstop
  have ht := List.mem_of_getElem? hfirst
  have hu := List.mem_of_getElem? hlast
  have hle := h.stop_le_of_le (Nat.le_add_right _ _) hfirst hlast
  obtain ⟨ht₀, ht₁, ht₂⟩ := h.inside t ht
  obtain ⟨hu₀, hu₁, hu₂⟩ := h.inside u hu
  refine ⟨⟨rfl, by omega, by omega, by omega⟩,
    ⟨_, _, t, u, Nat.le_add_right _ _, hfirst, hlast, hstart, hstop⟩, ?_⟩
  have htrimmed := (h.spells t ht).isTrimmed hblanks
  have htrimmed' := (h.spells u hu).isTrimmed hblanks
  rw [h.text t ht] at htrimmed
  rw [h.text u hu] at htrimmed'
  rw [Excerpt.snippet, hstart, hstop]
  show (source.slice t.start u.stop).IsTrimmed
  -- Offsets that are not negative are numbers, and mean what they say.
  lift t.start to ℕ using ht₀ with i
  lift u.start to ℕ using hu₀ with k
  lift t.stop to ℕ using (by omega) with j
  lift u.stop to ℕ using (by omega) with l
  exact Text.isTrimmed_slice htrimmed htrimmed' (by omega) (by omega) (by omega) (by omega) (by omega)

/-! ### Blank texts -/

theorem tokenize_eq_nil_iff (hblanks : o.LeavesBlanks) :
    tokenize o source = .ok [] ↔ ∀ c ∈ source, Text.isBlank c = true := by
  constructor
  · intro h
    cases tiled_of_tokenize h with
    | last hgap => exact hgap
  · intro hblank
    have htaken : ∀ c ∈ source, ∀ s : Scan, s.nesting = 0 → Scan.step o source s c = .ok (s.take c) :=
      fun c hc _ _ => Scan.step_of_free (hblanks.free (hblank c hc))
    refine Failing.bind_eq_ok.mpr ⟨_, Scan.foldlM_of_taken (s := Scan.start) rfl htaken, ?_⟩
    refine Scan.finish_eq_ok.mpr ⟨rfl, rfl, ?_⟩
    have hvalue := Scan.value?_blank hblank (Scan.start.index + source.length)
    show ((Scan.value? _ (source.reverse ++ [])).toList ++ []).reverse = []
    rw [List.append_nil, List.append_nil, hvalue]
    rfl

/-! ### All faults of reading -/

/-- What a fault of reading points at. -/
inductive Fault.Points (o : Options) (source : Text) : Fault → Prop
  /-- A malformed text is blamed on the parenthesis or delimiter where the part begins. -/
  | scan {fault : Located ScanCause} {c : Char} (hoffender : fault.cause.Offender o c)
      (hhead : fault.excerpt.snippet.head? = some c) : Points o source (.scan fault)
  | empty (hblank : ∀ c ∈ source, Text.isBlank c = true) :
      Points o source (.parse ⟨.emptyEquation, ⟨source, 0, source.length⟩⟩)
  | parse {fault : Located ParseCause} {tokens : List Token} (hcause : fault.cause ≠ .emptyEquation)
      (htokens : tokenize o source = .ok tokens) (hreaches : fault.excerpt.Reaches tokens) :
      Points o source (.parse fault)

/-- A text that is not read is malformed, or its tokens make no sense. -/
theorem Equation.parse_eq_error {fault : Fault} (h : Equation.parse o source = .error fault) :
    (∃ e, tokenize o source = .error e ∧ fault = .scan e) ∨
      ∃ tokens e, tokenize o source = .ok tokens ∧ parseTokens o source tokens = .error e ∧
        fault = .parse e := by
  rcases Failing.bind_eq_error.mp h with hscan | ⟨tokens, htokens, h⟩
  · obtain ⟨e, he, rfl⟩ := Failing.mapError_eq_error.mp hscan
    exact .inl ⟨e, he, rfl⟩
  · rcases Failing.bind_eq_error.mp h with hparse | ⟨_, -, h⟩
    · obtain ⟨e, he, rfl⟩ := Failing.mapError_eq_error.mp hparse
      exact .inr ⟨tokens, e, Failing.mapError_eq_ok.mp htokens, he, rfl⟩
    · cases h

theorem Equation.points_of_error (hv : o.Valid) (hblanks : o.LeavesBlanks) {fault : Fault}
    (h : Equation.parse o source = .error fault) :
    ∃ e, fault.excerpt? = some e ∧ e.Inside source ∧ fault.Points o source := by
  rcases Equation.parse_eq_error h with ⟨e, herror, rfl⟩ | ⟨tokens, e, htokens, herror, rfl⟩
  · rcases tokenize_cases hv source with ⟨tokens, hok, -⟩ | ⟨e', herror', hblames, -⟩
    · rw [hok] at herror
      cases herror
    · rw [herror'] at herror
      cases herror
      obtain ⟨hinside, c, hoffender, hhead⟩ := hblames.begins
      exact ⟨_, rfl, hinside, .scan hoffender hhead⟩
  · by_cases hne : tokens = []
    · subst hne
      cases herror
      refine ⟨_, rfl, ⟨rfl, Int.le_refl 0, Int.natCast_nonneg _, Int.le_refl _⟩, .empty ?_⟩
      exact (tokenize_eq_nil_iff hblanks).mp htokens
    · rw [parseTokens_of_ne_nil hne] at herror
      have harises := arises_of_parseLevels _ herror
      have hcovers := (tiled_of_tokenize htokens).covers
      obtain ⟨hinside, hreaches⟩ := hcovers.reaches hblanks (harises.pointsInto hne)
      exact ⟨_, rfl, hinside, .parse harises.cause_ne_emptyEquation htokens hreaches⟩

/--
**Every fault of reading points at a real part of the source.**

If no white space splits a text, then whatever the source is, a fault of reading it is one of the scan or
of the parser, and has a part of the source that it points at.  For a malformed text that is where the
parenthesis or delimiter stands that is to blame.  For tokens that make no sense it is what stands from the
beginning of a token to the end of the same or a later one.  A source is an empty equation, and is reported
so as a whole, exactly if it is blank.
-/
theorem parse_points (hv : o.Valid) (hblanks : o.LeavesBlanks) (source : Text) :
    (∀ fault, Equation.parse o source = .error fault →
      ∃ e, fault.excerpt? = some e ∧ e.Inside source ∧ fault.Points o source) ∧
    (Equation.parse o source =
        .error (.parse ⟨.emptyEquation, ⟨source, 0, source.length⟩⟩) ↔
      ∀ c ∈ source, Text.isBlank c = true) ∧
    ParseCause.emptyEquation.message = "Empty equation".toList := by
  refine ⟨fun fault h => Equation.points_of_error hv hblanks h, ⟨fun h => ?_, fun hblank => ?_⟩, rfl⟩
  · obtain ⟨_, -, -, hpoints⟩ := Equation.points_of_error hv hblanks h
    cases hpoints with
    | empty hblank => exact hblank
    | parse hcause => exact absurd rfl hcause
  · have htokens := (tokenize_eq_nil_iff hblanks).mpr hblank
    unfold Equation.parse
    rw [htokens]
    rfl

/-- Inside the parentheses no operator joins two values, and the fault points at both of them. -/
theorem parse_points_adjacent :
    let source := " 3 * (2 4 + 1) ".toList
    let place : Excerpt := ⟨source, 6, 9⟩
    let fault : Fault := .parse ⟨.unreadable "2 4".toList, place⟩
    Options.standard.Valid ∧ Options.standard.LeavesBlanks ∧
      Equation.parse .standard source = .error fault ∧ place.Inside source ∧
      fault.Points .standard source ∧ ¬ ∀ c ∈ source, Text.isBlank c = true := by
  intro source place fault
  have hv : Options.standard.Valid := Options.standard_readable.valid
  have hblanks : Options.standard.LeavesBlanks := Options.standard_readable.leavesBlanks
  have hfault : Equation.parse .standard source = .error fault := rfl
  obtain ⟨hpoints, hempty, -⟩ := parse_points hv hblanks source
  obtain ⟨e, he, hinside, hreaches⟩ := hpoints fault hfault
  cases he
  refine ⟨hv, hblanks, hfault, hinside, hreaches, fun hblank => ?_⟩
  have hsame : Except.error (Fault.parse ⟨.unreadable "2 4".toList, place⟩) = _ :=
    hfault.symm.trans (hempty.mpr hblank)
  cases hsame

end Reckon
