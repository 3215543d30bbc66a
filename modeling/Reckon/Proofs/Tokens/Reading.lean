/-
What a single character does to a scan.

`Scan.Reading` lists the cases, each with the condition that singles it out: a character joins the
pending value, splits the text, or opens or closes a variable, and two of them can fail.
Whoever follows a scan goes through these cases and need not look into the step itself.
-/
import Reckon.Token.Scan
import Reckon.Proofs.Rendering.Readable

namespace Reckon

namespace Options

variable {o : Options} {opening closing c : Char}

/-! ### Who splits where -/

/-- A character that splits an equation belongs to the tokenizer that the table of claimed characters
lists with it. -/
theorem mem_delimiterTable {kind : TokenizerKind} :
    (c, kind) ∈ o.delimiterTable ↔ o.tokenizer? c = some kind := by
  unfold delimiterTable
  constructor
  · intro h
    obtain ⟨d, -, hd⟩ := List.mem_filterMap.mp h
    obtain ⟨k, hk, heq⟩ := Option.map_eq_some_iff.mp hd
    cases heq
    exact hk
  · intro h
    refine List.mem_filterMap.mpr ⟨c, ?_, by rw [h]; rfl⟩
    have hmem : c ∈ o.tokenizers.flatMap o.claimed :=
      List.mem_flatMap.mpr ⟨kind, List.mem_of_find?_eq_some h, mem_claimed_of_tokenizer? h⟩
    exact List.mem_mergeSort.mpr (List.mem_eraseDups.mpr hmem)

/-- The delimiters of variables, provided that these may split a text. -/
def delimiters? (o : Options) : Option (Char × Char) :=
  match o.pattern with
  | .plain _ _ => none
  | .escaped opening closing => if .variable ∈ o.tokenizers then some (opening, closing) else none

theorem delimiters?_eq_some :
    o.delimiters? = some (opening, closing) ↔
      o.pattern = .escaped opening closing ∧ .variable ∈ o.tokenizers := by
  unfold delimiters?
  split
  · rename_i hpattern
    simp [hpattern]
  · rename_i hpattern
    rw [hpattern]
    split
    · rename_i hregistered
      simp [hregistered]
    · rename_i hregistered
      simp [hregistered]

/-- The character is one of the two delimiters of variables, and splits as such. -/
structure Delimits (o : Options) (opening closing c : Char) : Prop where
  claimed : o.tokenizer? c = some .variable
  delimiters : o.delimiters? = some (opening, closing)
  either : c = opening ∨ c = closing

/-- Only delimiters are claimed for variables. -/
theorem exists_delimits (h : o.tokenizer? c = some .variable) :
    ∃ opening closing, o.pattern = .escaped opening closing ∧ o.Delimits opening closing c := by
  have hmem : c ∈ o.pattern.delimiters := mem_claimed_of_tokenizer? h
  cases hpattern : o.pattern with
  | plain _ _ =>
      rw [hpattern] at hmem
      cases hmem
  | escaped opening closing =>
      rw [hpattern] at hmem
      have hdelimiters := delimiters?_eq_some.mpr ⟨hpattern, List.mem_of_find?_eq_some h⟩
      exact ⟨opening, closing, rfl, h, hdelimiters, Pattern.mem_delimiters.mp hmem⟩

theorem Valid.delimits (h : o.Valid) (hdelimiters : o.delimiters? = some (opening, closing))
    (hc : c = opening ∨ c = closing) : o.Delimits opening closing c where
  claimed := by
    obtain ⟨hpattern, hregistered⟩ := delimiters?_eq_some.mp hdelimiters
    refine h.tokenizer?_of_claimed hregistered ?_
    show c ∈ o.pattern.delimiters
    rw [hpattern]
    exact Pattern.mem_delimiters.mpr hc
  delimiters := hdelimiters
  either := hc

end Options

/-! ### One step -/

namespace Scan

/-- A delimiter opens a variable: if it might close one as well, it does so where no variable is
open. -/
def Opens (s : Scan) (opening closing c : Char) : Prop :=
  if opening = closing then s.nesting = 0 else c = opening

/-- What the next character can lead to. -/
inductive Reading (o : Options) (source : Text) (s : Scan) (c : Char) :
    Except (Located ScanCause) Scan → Prop
  /-- No tokenizer claims the character, or it stands in a variable without delimiting one. -/
  | taken (hc : o.tokenizer? c ≠ some .variable) (hs : s.nesting = 0 → o.tokenizer? c = none) :
      Reading o source s c (.ok (s.take c))
  | opened {opening closing : Char} (delimits : o.Delimits opening closing c)
      (hopens : s.Opens opening closing c) :
      Reading o source s c (.ok (take { s with
        nesting := s.nesting + 1
        variableStart := if s.nesting = 0 then s.index else s.variableStart } c))
  | closedInner {opening closing : Char} {n : Nat} (delimits : o.Delimits opening closing c)
      (hopens : ¬s.Opens opening closing c) (hs : s.nesting = n + 2) :
      Reading o source s c (.ok (take { s with nesting := n + 1 } c))
  /-- The delimiter that closes the outermost variable ends the value. -/
  | closedOuter {opening closing : Char} (delimits : o.Delimits opening closing c)
      (hopens : ¬s.Opens opening closing c) (hs : s.nesting = 1) :
      Reading o source s c (.ok (flush (take { s with nesting := 0 } c)))
  | closesNothing {opening closing : Char} (delimits : o.Delimits opening closing c)
      (hopens : ¬s.Opens opening closing c) (hs : s.nesting = 0) :
      Reading o source s c
        (.error ⟨.closingWithoutOpening c opening, ⟨source, s.index, s.index + 1⟩⟩)
  | openParenthesis (claimed : o.tokenizer? c = some .parenthesis) (hs : s.nesting = 0)
      (hc : c = '(') :
      Reading o source s c (.ok { s.split .opening c with opens := s.index :: s.opens })
  | closeParenthesis {position : Nat} {outer : List Nat}
      (claimed : o.tokenizer? c = some .parenthesis) (hs : s.nesting = 0) (hc : c = ')')
      (hopens : s.opens = position :: outer) :
      Reading o source s c (.ok { s.split .closing c with opens := outer })
  | unmatchedClose (claimed : o.tokenizer? c = some .parenthesis) (hs : s.nesting = 0)
      (hc : c = ')') (hopens : s.opens = []) :
      Reading o source s c (.error ⟨.unmatchedClose, ⟨source, s.index, s.index + 1⟩⟩)
  | separator (claimed : o.tokenizer? c = some .parenthesis) (hs : s.nesting = 0) (hc : c = ',') :
      Reading o source s c (.ok (s.split .separator c))
  | operator (claimed : o.tokenizer? c = some .operator) (hs : s.nesting = 0) :
      Reading o source s c (.ok (s.split .operator c))

variable {o : Options} {source : Text}

theorem opens_iff {s : Scan} {opening closing c : Char} :
    (if (opening == closing) = true then s.nesting == 0 else c == opening) = true ↔
      s.Opens opening closing c := by
  unfold Opens
  by_cases hsame : opening = closing <;> simp [hsame]

/-! #### Who reads the character -/

theorem step_of_delimits {s : Scan} {opening closing c : Char}
    (delimits : o.Delimits opening closing c) :
    step o source s c = s.delimiter source opening closing c := by
  obtain ⟨hpattern, -⟩ := Options.delimiters?_eq_some.mp delimits.delimiters
  unfold step
  rw [delimits.claimed, hpattern]

theorem step_of_parenthesis {s : Scan} {c : Char} (claimed : o.tokenizer? c = some .parenthesis)
    (hs : s.nesting = 0) : step o source s c = s.parenthesis source c := by
  unfold step
  rw [claimed]
  dsimp only
  rw [if_pos (beq_iff_eq.mpr hs)]

theorem step_of_operator {s : Scan} {c : Char} (claimed : o.tokenizer? c = some .operator)
    (hs : s.nesting = 0) : step o source s c = .ok (s.split .operator c) := by
  unfold step
  rw [claimed]
  dsimp only
  rw [if_pos (beq_iff_eq.mpr hs)]

theorem step_of_taken {s : Scan} {c : Char} (hc : o.tokenizer? c ≠ some .variable)
    (hs : s.nesting = 0 → o.tokenizer? c = none) : step o source s c = .ok (s.take c) := by
  unfold step
  cases hkind : o.tokenizer? c with
  | none => rfl
  | some kind =>
      have hinside : ¬(s.nesting == 0) = true := by
        intro hzero
        rw [hs (beq_iff_eq.mp hzero)] at hkind
        cases hkind
      cases kind with
      | «variable» => exact absurd hkind hc
      | parenthesis => exact if_neg hinside
      | operator => exact if_neg hinside

/-- A character that nobody claims is taken everywhere. -/
theorem step_of_free {s : Scan} {c : Char} (hc : o.tokenizer? c = none) :
    step o source s c = .ok (s.take c) :=
  step_of_taken (by simp [hc]) fun _ => hc

/-! #### All cases -/

theorem reading_delimiter {s : Scan} {opening closing c : Char}
    (delimits : o.Delimits opening closing c) :
    Reading o source s c (s.delimiter source opening closing c) := by
  unfold delimiter
  by_cases h : s.Opens opening closing c
  · rw [if_pos (opens_iff.mpr h)]
    simp only [beq_iff_eq]
    exact .opened delimits h
  · rw [if_neg fun hb => h (opens_iff.mp hb)]
    split
    · exact .closesNothing delimits h ‹_›
    · exact .closedOuter delimits h ‹_›
    · exact .closedInner delimits h ‹_›

theorem reading_parenthesis {s : Scan} {c : Char} (claimed : o.tokenizer? c = some .parenthesis)
    (hs : s.nesting = 0) : Reading o source s c (s.parenthesis source c) := by
  unfold parenthesis
  by_cases hopen : c = '('
  · rw [if_pos (beq_iff_eq.mpr hopen)]
    exact .openParenthesis claimed hs hopen
  rw [if_neg (by simpa using hopen)]
  by_cases hclose : c = ')'
  · rw [if_pos (beq_iff_eq.mpr hclose)]
    split
    · exact .unmatchedClose claimed hs hclose ‹_›
    · exact .closeParenthesis claimed hs hclose ‹_›
  rw [if_neg (by simpa using hclose)]
  have hstructural : c = '(' ∨ c = ')' ∨ c = ',' := by
    simpa [Options.claimed, Options.structural] using Options.mem_claimed_of_tokenizer? claimed
  rcases hstructural with h | h | h
  · exact absurd h hopen
  · exact absurd h hclose
  · exact .separator claimed hs h

/-- There are no other cases. -/
theorem reading_step (s : Scan) (c : Char) : Reading o source s c (step o source s c) := by
  cases hkind : o.tokenizer? c with
  | none =>
      rw [step_of_free hkind]
      exact .taken (by simp [hkind]) fun _ => hkind
  | some kind =>
      cases kind with
      | «variable» =>
          obtain ⟨opening, closing, -, delimits⟩ := Options.exists_delimits hkind
          rw [step_of_delimits delimits]
          exact reading_delimiter delimits
      | parenthesis =>
          by_cases hs : s.nesting = 0
          · rw [step_of_parenthesis hkind hs]
            exact reading_parenthesis hkind hs
          · rw [step_of_taken (by simp [hkind]) fun hzero => absurd hzero hs]
            exact .taken (by simp [hkind]) fun hzero => absurd hzero hs
      | operator =>
          by_cases hs : s.nesting = 0
          · rw [step_of_operator hkind hs]
            exact .operator hkind hs
          · rw [step_of_taken (by simp [hkind]) fun hzero => absurd hzero hs]
            exact .taken (by simp [hkind]) fun hzero => absurd hzero hs

theorem reading_of_step {s : Scan} {c : Char} {result : Except (Located ScanCause) Scan}
    (h : step o source s c = result) : Reading o source s c result := by
  rw [← h]
  exact reading_step s c

/-- The cases exclude each other. -/
theorem step_of_reading {s : Scan} {c : Char} {result : Except (Located ScanCause) Scan}
    (h : Reading o source s c result) : step o source s c = result := by
  cases h with
  | taken hc hs => exact step_of_taken hc hs
  | opened delimits hopens =>
      rw [step_of_delimits delimits, delimiter, if_pos (opens_iff.mpr hopens)]
      simp only [beq_iff_eq]
  | closedInner delimits hopens hs
  | closedOuter delimits hopens hs =>
      rw [step_of_delimits delimits, delimiter, if_neg fun hb => hopens (opens_iff.mp hb), hs]
  | closesNothing delimits hopens hs =>
      rw [step_of_delimits delimits, delimiter, if_neg fun hb => hopens (opens_iff.mp hb), hs]
      rfl
  | openParenthesis claimed hs hc =>
      subst hc
      rw [step_of_parenthesis claimed hs]
      rfl
  | closeParenthesis claimed hs hc hopens
  | unmatchedClose claimed hs hc hopens =>
      subst hc
      rw [step_of_parenthesis claimed hs, parenthesis, hopens]
      rfl
  | separator claimed hs hc =>
      subst hc
      rw [step_of_parenthesis claimed hs]
      rfl
  | operator claimed hs => exact step_of_operator claimed hs

/-! ### Several steps -/

/-- Characters that are taken wherever so many delimiters are open all join the pending value. -/
theorem foldlM_of_taken {s : Scan} {n : Nat} {text : Text} (hs : s.nesting = n)
    (htaken : ∀ c ∈ text, ∀ s : Scan, s.nesting = n → step o source s c = .ok (s.take c)) :
    text.foldlM (step o source) s =
      .ok { s with index := s.index + text.length, pending := text.reverse ++ s.pending } := by
  induction text generalizing s with
  | nil => rfl
  | cons c rest ih =>
      have hrest := ih (s := s.take c) hs fun d hd => htaken d (List.mem_cons_of_mem c hd)
      rw [List.foldlM_cons, htaken c List.mem_cons_self s hs]
      refine hrest.trans ?_
      rw [List.length_cons, List.reverse_cons, List.append_assoc, Nat.add_comm rest.length,
        ← Nat.add_assoc]
      rfl

/-- A scan yields tokens only where nothing is open. -/
theorem finish_eq_ok {s : Scan} {tokens : List Token} :
    s.finish source = .ok tokens ↔
      s.nesting = 0 ∧ s.opens = [] ∧ s.flush.tokens.reverse = tokens := by
  unfold finish
  by_cases hs : s.nesting = 0
  · rw [if_neg (by simpa using hs)]
    cases hopens : s.opens <;> simp [hs]
  · rw [if_pos (by simpa using hs)]
    simp [hs]

/-- An open variable is reported before an open parenthesis. -/
theorem finish_eq_error {s : Scan} {fault : Located ScanCause} (h : s.finish source = .error fault) :
    s.nesting ≠ 0 ∧ fault = ⟨.unterminatedVariable, ⟨source, s.variableStart, source.length⟩⟩ ∨
      s.nesting = 0 ∧ ∃ position outer, s.opens = position :: outer ∧
        fault = ⟨.unclosedParenthesis, ⟨source, position, position + 1⟩⟩ := by
  unfold finish at h
  by_cases hs : s.nesting = 0
  · rw [if_neg (by simpa using hs)] at h
    cases hopens : s.opens with
    | nil =>
        rw [hopens] at h
        cases h
    | cons position outer =>
        rw [hopens] at h
        cases h
        exact .inr ⟨hs, position, outer, rfl, rfl⟩
  · rw [if_pos (by simpa using hs)] at h
    cases h
    exact .inl ⟨hs, rfl⟩

end Scan
end Reckon
