/-
Both notations denote the decimal.

A numeral denotes a rational: the number of its digits, times ten to its exponent, and a tenth of that for
each digit behind the point.  Rounding comes later and does not concern the notation.  In that sense the
positional and the scientific text of a decimal denote the decimal itself, whatever its digits are and
wherever its point stands.
-/
import Reckon.Decimal.Notation
import Reckon.Proofs.Decimal.Language
import Reckon.Proofs.Decimal.Reading

namespace Reckon

open Text

/-! ### Digits on both sides of a point -/

namespace Text

/-- Digits, a point and digits. -/
def IsPointed (s : Text) : Prop :=
  ∃ whole fraction : Text, s = whole ++ '.' :: fraction ∧ whole.IsDigits ∧ fraction.IsDigits

variable {s : Text}

theorem IsPointed.begins (h : s.IsPointed) : ∀ c ∈ s, Numeral.begins c = true := by
  obtain ⟨whole, fraction, rfl, hwhole, hfraction⟩ := h
  have hdigit : ∀ {c}, isDigit c = true → Numeral.begins c = true :=
    fun hc => Bool.or_eq_true_iff.mpr (.inl hc)
  rw [List.forall_mem_append, List.forall_mem_cons]
  exact ⟨fun c hc => hdigit (hwhole.digits c hc), rfl, fun c hc => hdigit (hfraction.digits c hc)⟩

/-- The text is read as a numeral, by its expression. -/
theorem IsPointed.mem_expression (h : s.IsPointed) : s ∈ Numeral.expression.matches' := by
  obtain ⟨whole, fraction, rfl, hwhole, hfraction⟩ := h
  rw [← Numeral.read?_isSome_iff,
    Numeral.read?_fraction hwhole.nonempty hwhole.digits hfraction.digits, Option.isSome_some]

/-- The point keeps the text from being a whole number. -/
theorem IsPointed.not_all_digits (h : s.IsPointed) : s.all isDigit = false := by
  obtain ⟨whole, fraction, rfl, -, -⟩ := h
  rw [List.all_append, List.all_cons, show isDigit '.' = false by decide, Bool.false_and, Bool.and_false]

end Text

/-! ### The value of a numeral -/

namespace Numeral

variable {s : Text} {n : Numeral}

/-- The rational that a numeral denotes. -/
def value (n : Numeral) : ℚ :=
  Text.toNat (n.whole ++ n.fraction.getD []) * 10 ^ (n.exponent.getD 0 - (n.fraction.getD []).length)

/-- The rational that a text denotes, if it is a numeral with or without a sign. -/
def denoted? (s : Text) : Option ℚ :=
  (read? true (unsigned s).2).map fun n => if (unsigned s).1 then -n.value else n.value

theorem denoted?_of_read? (h : read? true s = some n) : denoted? s = some n.value := by
  obtain ⟨c, rest, rfl, hc⟩ := exists_of_read? h
  have hunsigned : unsigned (c :: rest) = (false, c :: rest) := by
    unfold unsigned
    split
    · rename_i heq
      cases heq
      cases hc
    · rename_i heq
      cases heq
      cases hc
    · rfl
  rw [denoted?, hunsigned, h]
  rfl

theorem denoted?_minus (h : read? true s = some n) : denoted? ('-' :: s) = some (-n.value) := by
  have hunsigned : unsigned ('-' :: s) = (true, s) := rfl
  rw [denoted?, hunsigned, h]
  rfl

end Numeral

namespace Decimal

open Numeral

variable {d : Decimal} {figures : Text}

/-! ### Positional notation -/

theorem isPointed_positional (d : Decimal) : d.positional.IsPointed := by
  obtain ⟨whole, fraction, htext, hshows⟩ := d.exists_positional
  exact ⟨whole, fraction, htext, ⟨hshows.whole_ne_nil, hshows.whole_digits⟩,
    ⟨hshows.fraction_ne_nil, hshows.fraction_digits⟩⟩

theorem read?_positional (d : Decimal) :
    ∃ n, read? true d.positional = some n ∧ n.value = d.value := by
  obtain ⟨whole, fraction, htext, hshows⟩ := d.exists_positional
  refine ⟨⟨whole, some fraction, none⟩, ?_, ?_⟩
  · rw [htext]
    exact read?_fraction hshows.whole_ne_nil hshows.whole_digits hshows.fraction_digits true
  · rw [← hshows.value, Numeral.value, Option.getD_none, zero_sub]
    rfl

/-! ### Scientific notation -/

/-- The digits of an exponent, at least two. -/
def exponentDigits (e : Int) : Text :=
  if (Text.ofNat e.natAbs).length < 2 then '0' :: Text.ofNat e.natAbs else Text.ofNat e.natAbs

theorem isDigits_exponentDigits (e : Int) : (exponentDigits e).IsDigits := by
  have hdigits : ∀ c ∈ Text.ofNat e.natAbs, isDigit c = true := fun _ hc => isDigit_of_mem_ofNat hc
  unfold exponentDigits
  split
  · exact ⟨by simp, List.forall_mem_cons.mpr ⟨by decide, hdigits⟩⟩
  · exact ⟨ofNat_ne_nil _, hdigits⟩

theorem toNat_exponentDigits (e : Int) : Text.toNat (exponentDigits e) = e.natAbs := by
  unfold exponentDigits
  split
  · exact (toNat_zeros_append 1 _).trans (toNat_ofNat _)
  · exact toNat_ofNat _

/-- The exponent is read with its sign. -/
theorem isExponent_signed (e : Int) :
    IsExponent true ('e' :: (if e < 0 then '-' else '+') :: exponentDigits e) (some e) := by
  have hsigned := exponent?_signed (isDigits_exponentDigits e) (decide (e < 0))
  rw [toNat_exponentDigits] at hsigned
  simp only [decide_eq_true_eq] at hsigned
  refine .some (.inl rfl) (hsigned.trans (congrArg some ?_))
  split <;> omega

/-- One digit before the point and the others behind it, if there are others. -/
theorem read?_scientificText {c : Char} {rest : Text} (h : Text.IsDigits (c :: rest)) (e : Int) :
    ∃ n, read? true (scientificText (c :: rest) e) = some n ∧
      n.value = Text.toNat (c :: rest) * 10 ^ (e - rest.length) := by
  obtain ⟨hc, hrest⟩ := List.forall_mem_cons.mp h.digits
  have hwhole : ∀ d ∈ [c], isDigit d = true := by simpa using hc
  cases rest with
  | nil =>
      refine ⟨⟨[c], none, some e⟩, read?_eq_some.mpr ⟨hwhole, List.forall_mem_nil _, .inl (by simp),
        _, rfl, isExponent_signed e⟩, rfl⟩
  | cons d rest =>
      refine ⟨⟨[c], some (d :: rest), some e⟩, read?_eq_some.mpr ⟨hwhole, hrest, .inl (by simp),
        _, ?_, isExponent_signed e⟩, rfl⟩
      simp [scientificText, pointed, exponentDigits]

theorem read?_scientific (d : Decimal) :
    ∃ n, read? true d.scientific = some n ∧ n.value = d.value := by
  have hdigits : d.figures.IsDigits := ⟨figures_ne_nil, isDigit_of_mem_figures⟩
  have hnumber : Text.toNat d.figures = d.digits := toNat_figures
  have hpoint : d.point = d.figures.length + d.exponent := rfl
  unfold scientific
  cases hfigures : d.figures with
  | nil => exact absurd hfigures figures_ne_nil
  | cons c rest =>
      rw [hfigures] at hdigits hnumber hpoint
      obtain ⟨n, hn, hvalue⟩ := read?_scientificText hdigits (d.point - 1)
      refine ⟨n, hn, ?_⟩
      rw [hvalue, hnumber, Decimal.value]
      congr 2
      rw [hpoint, List.length_cons]
      omega

/-- Both notations denote the decimal. -/
theorem denoted?_notations (d : Decimal) :
    denoted? d.positional = some d.value ∧ denoted? d.scientific = some d.value := by
  obtain ⟨n, hpositional, hn⟩ := d.read?_positional
  obtain ⟨m, hscientific, hm⟩ := d.read?_scientific
  rw [denoted?_of_read? hpositional, denoted?_of_read? hscientific, hn, hm]
  exact ⟨rfl, rfl⟩

end Decimal
end Reckon
