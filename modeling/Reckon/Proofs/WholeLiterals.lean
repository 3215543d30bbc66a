/-
Whole numbers are judged by their value, as long as their texts can be read.

Two limits guard a literal of digits.  One is on the binary digits of its value, the other on the
digits of its text, and both refuse a literal in the same words.  A text without a zero in front is
over the first limit long before it is over the second, so the second takes nothing away from it.
With enough zeros in front any value is refused.

Up to that length zeros do not count, wherever in an equation the literals stand: a literal with
zeros in front of it is another spelling of the same number.
-/
import Reckon.Proofs.Shape.Places
import Reckon.Proofs.Rendering.Scanning

namespace Reckon

/-! ### Digits and values -/

namespace Text

variable {s : Text}

theorem IsDigits.zeros_append (h : s.IsDigits) (k : Nat) :
    IsDigits (List.replicate k '0' ++ s) where
  nonempty := List.append_ne_nil_of_right_ne_nil _ h.nonempty
  digits c hc := by
    rcases List.mem_append.mp hc with hc | hc
    · exact isDigit_of_mem_zeros hc
    · exact h.digits c hc

theorem toNat_cons (c : Char) (s : Text) :
    toNat (c :: s) = 10 ^ s.length * digitValue c + toNat s := by
  rw [toNat_eq_ofDigitChars, toNat_eq_ofDigitChars, Nat.ofDigitChars_cons,
    Nat.ofDigitChars_eq_ofDigitChars_zero, Nat.mul_zero, Nat.zero_add]
  rfl

/-- A number is at least as large as its length says if no zero is in front. -/
theorem pow_le_toNat {c : Char} (hc : isDigit c = true) (hzero : c ≠ '0') (s : Text) :
    10 ^ s.length ≤ toNat (c :: s) := by
  have hpos : 1 ≤ digitValue c := by
    have hcode := isDigit_iff.mp hc
    have hne : c.toNat ≠ 48 := fun heq => hzero (Char.toNat_inj.mp heq)
    show 1 ≤ c.toNat - 48
    omega
  rw [toNat_cons]
  exact (Nat.le_mul_of_pos_right _ hpos).trans (Nat.le_add_right _ _)

/-- A value within the limits does not need more digits than are read. -/
theorem length_le_of_bitLength (h : s.IsDigits) (hhead : s.head? ≠ some '0')
    (hbits : bitLength (toNat s) ≤ maxBits) : s.length ≤ Numeral.digitLimit := by
  cases s with
  | nil => exact absurd rfl h.nonempty
  | cons c rest =>
      have hzero : c ≠ '0' := fun heq => hhead (by rw [heq]; rfl)
      have hlt : 10 ^ rest.length < 10 ^ maxBits :=
        calc 10 ^ rest.length ≤ toNat (c :: rest) :=
              pow_le_toNat (h.digits c List.mem_cons_self) hzero rest
          _ < 2 ^ maxBits := Literal.lt_of_bitLength_le hbits
          _ ≤ 10 ^ maxBits := Nat.pow_le_pow_left (by norm_num) maxBits
      have hlength : rest.length < maxBits := (Nat.pow_lt_pow_iff_right (by norm_num)).mp hlt
      have hlimits : maxBits ≤ Numeral.digitLimit := by decide
      rw [List.length_cons]
      omega

end Text

/-! ### The two limits -/

namespace Shape

variable {source : Text} {t : Token}

/-- What becomes of a literal of digits if only its value counts. -/
def judged (source : Text) (t : Token) : Except (Located ParseCause) (Option Shape) :=
  if bitLength (Text.toNat t.text) ≤ maxBits then
    .ok (some (.leaf (.const (.int (Text.toNat t.text)))))
  else fault source [t] (.literalOutOfRange t.text)

theorem literal?_of_digits (s : Text) :
    literal? ⟨s, none, none⟩ =
      if s.length ≤ Numeral.digitLimit ∧ bitLength (Text.toNat s) ≤ maxBits then
        some (.int (Text.toNat s))
      else none := by
  have hwhole : Numeral.isWhole ⟨s, none, none⟩ = true := rfl
  unfold literal?
  rw [if_pos hwhole, Numeral.whole?]
  by_cases hlong : Numeral.digitLimit < s.length
  · rw [if_pos hlong, if_neg fun h => hlong.not_ge h.1]
  · rw [if_neg hlong]
    dsimp only
    by_cases hbits : bitLength (Text.toNat s) ≤ maxBits
    · rw [if_pos hbits, if_pos ⟨not_lt.mp hlong, hbits⟩]
    · rw [if_neg hbits, if_neg fun h => hbits h.2]

theorem constantLeaf?_of_digits (hk : t.kind = .value) (h : t.text.IsDigits) :
    constantLeaf? source [t] =
      if t.text.length ≤ Numeral.digitLimit then judged source t
      else fault source [t] (.literalOutOfRange t.text) := by
  simp only [constantLeaf?, hk, bne_self_eq_false, Bool.false_eq_true, if_false,
    Numeral.read?_digits h.nonempty h.digits false, literal?_of_digits, judged]
  by_cases hlength : t.text.length ≤ Numeral.digitLimit <;>
    by_cases hbits : bitLength (Text.toNat t.text) ≤ maxBits <;>
    simp only [hlength, hbits, and_self, and_true, and_false, if_true, if_false]

/-- The length of the text takes something away just where the value is within the limits. -/
theorem constantLeaf?_eq_judged_iff (hk : t.kind = .value) (h : t.text.IsDigits) :
    constantLeaf? source [t] = judged source t ↔
      t.text.length ≤ Numeral.digitLimit ∨ maxBits < bitLength (Text.toNat t.text) := by
  rw [constantLeaf?_of_digits hk h]
  by_cases hlength : t.text.length ≤ Numeral.digitLimit
  · simp only [hlength, if_true, true_or]
  · rw [if_neg hlength, judged]
    by_cases hbits : bitLength (Text.toNat t.text) ≤ maxBits
    · simp [hlength, hbits, fault]
    · simp [hlength, hbits, not_le.mp hbits]

/-- Without a zero in front only the value counts. -/
theorem constantLeaf?_of_head (hk : t.kind = .value) (h : t.text.IsDigits)
    (hhead : t.text.head? ≠ some '0') : constantLeaf? source [t] = judged source t := by
  rw [constantLeaf?_eq_judged_iff hk h]
  by_cases hbits : bitLength (Text.toNat t.text) ≤ maxBits
  · exact .inl (Text.length_le_of_bitLength h hhead hbits)
  · exact .inr (not_le.mp hbits)

end Shape

/-! ### Zeros in front -/

/-- Whether the token is a literal of digits. -/
def Token.isWhole (t : Token) : Bool :=
  t.kind == .value && !t.text.isEmpty && t.text.all Text.isDigit

/-- Puts zeros in front of literals of digits, so many as `zeros` says of each. -/
def Token.padded (zeros : Token → Nat) (t : Token) : Token :=
  if t.isWhole then { t with text := List.replicate (zeros t) '0' ++ t.text } else t

variable {o : Options} {source source' : Text} {t : Token}

theorem Token.isWhole_iff : t.isWhole = true ↔ t.kind = .value ∧ t.text.IsDigits := by
  simp only [isWhole, Bool.and_eq_true, beq_iff_eq, Bool.not_eq_true', List.isEmpty_eq_false_iff,
    List.all_eq_true]
  exact ⟨fun ⟨⟨hk, hne⟩, hall⟩ => ⟨hk, hne, hall⟩, fun ⟨hk, hne, hall⟩ => ⟨⟨hk, hne⟩, hall⟩⟩

/-- Digits are no name, and no variable unless digits delimit them. -/
theorem Text.IsDigits.skips {s : Text} {p : Pattern} (h : s.IsDigits)
    (hp : ∀ c, p.delimits c = true → Text.isDigit c = false) : p.Skips s := by
  cases s with
  | nil => exact absurd rfl h.nonempty
  | cons c rest =>
      have hdigit := h.digits c List.mem_cons_self
      refine ⟨?_, ?_⟩
      · have hstart : Text.isNameStart c = false := by
          cases hc : Text.isNameStart c with
          | false => rfl
          | true =>
              have hbegins := Numeral.begins_of_isNameStart hc
              rw [Numeral.begins, hdigit, Bool.true_or] at hbegins
              cases hbegins
        rw [Text.isName, hstart, Bool.false_and]
      · rintro _ ⟨⟩
        cases hc : p.delimits c with
        | false => rfl
        | true =>
            rw [hp c hc] at hdigit
            cases hdigit

theorem Pattern.respelled_zeros {p : Pattern} {s : Text} {k : Nat} (h : s.IsDigits)
    (hp : ∀ c, p.delimits c = true → Text.isDigit c = false)
    (hlength : k + s.length ≤ Numeral.digitLimit) :
    p.Respelled s (List.replicate k '0' ++ s) where
  skips := h.skips hp
  skips' := (h.zeros_append k).skips hp
  reading := by
    have hpadded := h.zeros_append k
    have hlength' : (List.replicate k '0' ++ s).length ≤ Numeral.digitLimit := by
      rwa [List.length_append, List.length_replicate]
    have hshort : s.length ≤ Numeral.digitLimit := by omega
    rw [Numeral.read?_digits hpadded.nonempty hpadded.digits,
      Numeral.read?_digits h.nonempty h.digits, Option.map_some, Option.map_some,
      Shape.literal?_of_digits, Shape.literal?_of_digits, Text.toNat_zeros_append]
    simp only [hlength', hshort, true_and]

/-- Zeros in front of literals spell the same numbers, up to the length that is read. -/
theorem Token.respells_padded {p : Pattern} {zeros : Token → Nat}
    (hp : ∀ c, p.delimits c = true → Text.isDigit c = false)
    (hzeros : ∀ t, zeros t = 0 ∨ zeros t + t.text.length ≤ Numeral.digitLimit) :
    Respells p (padded zeros) where
  kind t := by
    unfold padded
    split <;> rfl
  text t := by
    unfold padded
    split
    · rename_i hwhole
      obtain ⟨hk, h⟩ := isWhole_iff.mp hwhole
      rcases hzeros t with hnone | hlength
      · exact .inl (by rw [hnone]; rfl)
      · exact .inr ⟨hk, Pattern.respelled_zeros h hp hlength⟩
    · exact .inl rfl

/--
**A whole number is judged by its value, as long as its text is read.**

A literal of digits is the constant of its value if the value is within the limits, and else out of
range.  That is so for texts of at most `digitLimit` digits, for longer ones without a zero in
front, and for all that are out of range by their value; it is not so for any others.  Zeros in
front of literals, wherever they stand, do not change what an equation is read as while the texts
are no longer than that.
-/
theorem literals_judged_by_value (source : Text) :
    (∀ {t : Token}, t.kind = .value → t.text.IsDigits →
        (t.text.head? ≠ some '0' → Shape.constantLeaf? source [t] = Shape.judged source t) ∧
        (Shape.constantLeaf? source [t] = Shape.judged source t ↔
          t.text.length ≤ Numeral.digitLimit ∨ maxBits < bitLength (Text.toNat t.text))) ∧
      ∀ {o : Options}, (∀ c, o.pattern.delimits c = true → Text.isDigit c = false) →
        ∀ {zeros : Token → Nat},
          (∀ t, zeros t = 0 ∨ zeros t + t.text.length ≤ Numeral.digitLimit) →
          ∀ (source' : Text) (tokens : List Token),
            (parseTokens o source' (tokens.map (Token.padded zeros))).toOption =
              (parseTokens o source tokens).toOption := by
  constructor
  · intro t hk h
    exact ⟨Shape.constantLeaf?_of_head hk h, Shape.constantLeaf?_eq_judged_iff hk h⟩
  · intro o hp zeros hzeros source' tokens
    exact parseTokens_respelled (Token.respells_padded hp hzeros) tokens

/-- The literal `007`, and the sum `7+5` with two zeros in front of each number. -/
theorem literals_judged_by_value_zeros :
    Shape.constantLeaf? [] [⟨.value, ['0', '0', '7'], 0, 3⟩] =
        .ok (some (.leaf (.const (.int 7)))) ∧
      (parseTokens .standard [] [⟨.value, ['0', '0', '7'], 0, 1⟩, ⟨.operator, ['+'], 1, 2⟩,
          ⟨.value, ['0', '0', '5'], 2, 3⟩]).toOption =
        some (.binary ['+'] (.const (.int 7)) (.const (.int 5))) := by
  obtain ⟨hvalue, hpadded⟩ := literals_judged_by_value []
  constructor
  · obtain ⟨hk, hdigits⟩ : Token.kind ⟨.value, ['0', '0', '7'], 0, 3⟩ = .value ∧ _ :=
      Token.isWhole_iff.mp rfl
    exact ((hvalue hk hdigits).2.mpr (.inl (by decide))).trans rfl
  · have hdelimiters (c : Char) (hc : Options.standard.pattern.delimits c = true) :
        Text.isDigit c = false := by
      rcases Bool.or_eq_true _ _ ▸ hc with hc | hc <;> rw [beq_iff_eq.mp hc] <;> rfl
    have hshort (t : Token) : (if t.text.length = 1 then 2 else 0) = 0 ∨
        (if t.text.length = 1 then 2 else 0) + t.text.length ≤ Numeral.digitLimit := by
      unfold Numeral.digitLimit
      split <;> omega
    exact @hpadded .standard hdelimiters (fun t => if t.text.length = 1 then 2 else 0) hshort []
      [⟨.value, ['7'], 0, 1⟩, ⟨.operator, ['+'], 1, 2⟩, ⟨.value, ['5'], 2, 3⟩]

/-! ### An equation of digits alone -/

theorem Shape.of_digits (hmem : .constant ∈ o.parsers) (hp : o.pattern.isUnlikeNumber = true)
    (hk : t.kind = .value) (h : t.text.IsDigits) :
    of o source [t] =
      if t.text.length ≤ Numeral.digitLimit ∧ bitLength (Text.toNat t.text) ≤ maxBits then
        .ok (.leaf (.const (.int (Text.toNat t.text))))
      else fault source [t] (.literalOutOfRange t.text) := by
  have hleft : LeftTo o source [t] .constant :=
    leftTo_constant hp hk (Numeral.read?_digits h.nonempty h.digits false)
  have hfound : ofKind o source [t] .constant = _ := constantLeaf?_of_digits hk h
  rw [of, first?_of_leftTo hleft, if_pos hmem, hfound, judged]
  by_cases hlength : t.text.length ≤ Numeral.digitLimit <;>
    by_cases hbits : bitLength (Text.toNat t.text) ≤ maxBits <;>
    simp only [hlength, hbits, and_self, and_true, and_false, if_true, if_false] <;> rfl

theorem parseTokens_digits (hmem : .constant ∈ o.parsers) (hp : o.pattern.isUnlikeNumber = true)
    (hdepth : o.maxDepth ≠ 0) (hk : t.kind = .value) (h : t.text.IsDigits) :
    parseTokens o source [t] =
      if t.text.length ≤ Numeral.digitLimit ∧ bitLength (Text.toNat t.text) ≤ maxBits then
        .ok (.const (.int (Text.toNat t.text)))
      else Shape.fault source [t] (.literalOutOfRange t.text) := by
  obtain ⟨n, hn⟩ := Nat.exists_eq_succ_of_ne_zero hdepth
  show parseLevels o source o.maxDepth [t] = _
  rw [hn, parseLevels_succ, Shape.of_digits hmem hp hk h]
  split <;> rfl

/-- What an equation of nothing but digits is read as. -/
theorem Equation.parse_digits (ho : o.Readable) (hdepth : o.maxDepth ≠ 0) {s : Text}
    (h : s.IsDigits) :
    ∃ place, Equation.parse o s =
      if s.length ≤ Numeral.digitLimit ∧ bitLength (Text.toNat s) ≤ maxBits then
        .ok ⟨.const (.int (Text.toNat s)), s, o⟩
      else .error (.parse ⟨.literalOutOfRange s, place⟩) := by
  have hplain : ∀ c ∈ s, Text.isPlain c = true := by
    intro c hc
    rw [Text.isPlain, Numeral.begins, h.digits c hc, Bool.true_or, Bool.or_true]
  obtain ⟨_, htokens, t, rfl, hk, rfl⟩ := (spans_plain ho h.nonempty hplain).exists_tokenize
  have hparsed :=
    @parseTokens_digits o t.text t (ho.parsers .constant) ho.isUnlikeNumber hdepth hk h
  refine ⟨.covering t.text [t], ?_⟩
  show ((tokenize o t.text).mapError Fault.scan >>= fun tokens =>
    (parseTokens o t.text tokens).mapError Fault.parse >>= _) = _
  rw [htokens]
  show ((parseTokens o t.text [t]).mapError Fault.parse >>= _) = _
  rw [hparsed]
  split <;> rfl

/-- The number one with so many zeros in front that its text is not read. -/
def distantOne : Text := List.replicate Numeral.digitLimit '0' ++ ['1']

/-- The value of a text can be within the limits and the text be refused as out of range.  Without
the zeros it is read. -/
theorem not_judged_distantOne :
    distantOne.IsDigits ∧ Text.toNat distantOne = 1 ∧ bitLength 1 ≤ maxBits ∧
      (∃ place, Equation.parse .standard distantOne =
        .error (.parse ⟨.literalOutOfRange distantOne, place⟩)) ∧
      (∀ source start stop, Shape.constantLeaf? source [⟨.value, distantOne, start, stop⟩] =
        Shape.fault source [⟨.value, distantOne, start, stop⟩] (.literalOutOfRange distantOne)) ∧
      Equation.parse .standard ['1'] = .ok ⟨.const (.int 1), ['1'], .standard⟩ := by
  have hone : Text.IsDigits ['1'] := (Token.isWhole_iff (t := ⟨.value, ['1'], 0, 1⟩)).mp rfl |>.2
  have hdigits : distantOne.IsDigits := hone.zeros_append _
  have hlong : ¬distantOne.length ≤ Numeral.digitLimit := by
    rw [distantOne, List.length_append, List.length_replicate]
    exact Nat.not_succ_le_self _
  refine ⟨hdigits, Text.toNat_zeros_append _ _, by decide, ?_, fun source start stop => ?_, rfl⟩
  · obtain ⟨place, hparse⟩ := Equation.parse_digits Options.standard_readable (by decide) hdigits
    rw [if_neg fun h => hlong h.1] at hparse
    exact ⟨place, hparse⟩
  · rw [Shape.constantLeaf?_of_digits rfl hdigits, if_neg hlong]

end Reckon
