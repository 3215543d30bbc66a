/-
The text of a double keeps its value and stays a double.

A double is shown in one of two notations, but in an equation it is written with all its places and a
point.  Both texts denote the same rational, so that nothing is rounded on the way from one to the other.
The one in an equation has digits on both sides of its point.  It is one value when the equation is split,
and a literal, and not that of a whole number.

The zero with a sign is not below zero either.  It is shown with its sign and written without, and both
texts denote zero.
-/
import Reckon.Proofs.Decimal.Notation
import Reckon.Proofs.Rendering.Scanning

namespace Reckon

open Binary64 Numeral

/-! ### How doubles are shown -/

namespace Decimal

/-- The decimal of a zero is zero. -/
theorem value_shortest_zero (negative : Bool) : (shortest (sized negative 0)).value = 0 := by
  unfold shortest
  dsimp only
  rw [if_pos (by rw [Literal.significand_parts_zero]; rfl)]
  norm_num [Decimal.value]

end Decimal

/-- A finite double is shown by a text that denotes its shortest decimal, with the sign. -/
theorem Binary64.denoted?_display {negative : Bool} {n : Nat} (h : n < sizeBound) :
    denoted? (display (sized negative n)) =
      let v := (Decimal.shortest (sized negative n)).value
      some (if negative then -v else v) := by
  obtain ⟨s, m, htext, hread, hvalue⟩ : ∃ s m, display (sized negative n) = signed (sized negative n) s ∧
      read? true s = some m ∧ m.value = (Decimal.shortest (sized negative n)).value := by
    unfold display
    rw [if_pos (isFinite_sized h)]
    dsimp only
    split
    · obtain ⟨m, hread, hvalue⟩ := (Decimal.shortest (sized negative n)).read?_positional
      exact ⟨_, m, rfl, hread, hvalue⟩
    · obtain ⟨m, hread, hvalue⟩ := (Decimal.shortest (sized negative n)).read?_scientific
      exact ⟨_, m, rfl, hread, hvalue⟩
  rw [htext, signed, Literal.isNegative_sized h, ← hvalue]
  cases negative with
  | true => exact denoted?_minus hread
  | false => exact denoted?_of_read? hread

/-! ### One value -/

/-- A text with digits on both sides of a point is one value, unless digits or points split a text. -/
theorem Text.IsPointed.exists_tokenize {o : Options} {s : Text} (h : s.IsPointed)
    (hfree : ∀ c, Numeral.begins c = true → o.tokenizer? c = none) :
    ∃ t, tokenize o s = .ok [t] ∧ t.kind = .value ∧ t.text = s := by
  have hne : s ≠ [] := by
    obtain ⟨whole, fraction, rfl, -, -⟩ := h
    simp
  have htrim : s.trim = s := Text.trim_of_isPlain hne fun c hc => by
    rw [Text.isPlain, h.begins c hc, Bool.or_true]
  have hspans : Spans o s s fun ts => ∃ t, ts = [t] ∧ t.kind = .value ∧ t.text = s := by
    intro start hpending hnesting
    obtain ⟨stop, t, hrun, hopens, hkind, htext⟩ :=
      Scan.reads_whole hne htrim (fun c hc => hfree c (h.begins c hc)) hpending hnesting
    exact ⟨stop, [t], hrun, hopens, t, rfl, hkind, htext⟩
  obtain ⟨_, htokens, t, rfl, hkind, htext⟩ := hspans.exists_tokenize
  exact ⟨t, htokens, hkind, htext⟩

/-! ### Doubles that are not below zero -/

namespace Literal

/-- What is not below zero is written without a sign. -/
theorem render_of_nonneg {negative : Bool} {n : Nat} (h : n < sizeBound)
    (hsign : negative = false ∨ n = 0) :
    (float (sized negative n)).render = (Decimal.shortest (sized negative n)).positional := by
  have hnot : ¬sized negative n < 0 := by
    rw [sized_lt_zero h]
    rintro ⟨rfl, hn⟩
    simp [hn] at hsign
  have hnegative : (float (sized negative n)).isNegative = false := decide_eq_false hnot
  rw [render, hnegative, if_neg Bool.false_ne_true, sizeText_sized h]

/-- The literal is read back as the double without its sign. -/
theorem constantLeaf?_sizeText {source : Text} {t : Token} {x : Float} (h : x.isFinite = true)
    (hk : t.kind = .value) (ht : t.text = (float x).sizeText) :
    Shape.constantLeaf? source [t] = .ok (some (.leaf (.const (.float x.abs)))) := by
  obtain ⟨⟨m, hread, hliteral⟩, -⟩ := writes_float (x := x) h
  have hsize : (float x).size = float x.abs := by
    obtain ⟨negative, n, hn, rfl⟩ := exists_sized h
    rw [size_sized hn, abs_sized hn]
  rw [hsize] at hliteral
  rw [← ht] at hread
  exact Shape.constantLeaf?_eq_some.mpr ⟨t, m, _, rfl, hk, hread, hliteral, rfl⟩

/--
**The positional text of a double keeps its value and is a literal of a double.**

In positional notation a decimal has digits on both sides of its point, wherever the point stands.  That
makes a numeral, though not a whole number, and it denotes the decimal as its scientific notation does.
So a finite double that is not below zero is written as a numeral that denotes the same rational as the
text that the double is shown by.  The numeral is read as that double, and it is one value of an equation
unless digits or points split a text there.
-/
theorem render_keeps_value :
    (∀ d : Decimal, d.positional.IsPointed ∧ d.positional ∈ expression.matches' ∧
      d.positional.all Text.isDigit = false ∧
      denoted? d.positional = some d.value ∧ denoted? d.scientific = some d.value) ∧
    ∀ x : Float, x.isFinite = true → 0 ≤ x →
      let text := (float x).render
      text.IsPointed ∧ text ∈ expression.matches' ∧ text.all Text.isDigit = false ∧
      denoted? text = some (Decimal.shortest x).value ∧
      denoted? (display x) = some (Decimal.shortest x).value ∧
      (∀ source t, t.kind = .value → t.text = text →
        Shape.constantLeaf? source [t] = .ok (some (.leaf (.const (.float x.abs))))) ∧
      ∀ o : Options, (∀ c, begins c = true → o.tokenizer? c = none) →
        ∃ t, tokenize o text = .ok [t] ∧ t.kind = .value ∧ t.text = text := by
  refine ⟨fun d => ?_, fun x hfinite hnonneg => ?_⟩
  · have hpointed := d.isPointed_positional
    exact ⟨hpointed, hpointed.mem_expression, hpointed.not_all_digits, d.denoted?_notations⟩
  · obtain ⟨negative, n, hn, rfl⟩ := exists_sized hfinite
    have hsign := (zero_le_sized hn).mp hnonneg
    have hrender := render_of_nonneg hn hsign
    have hpointed := (Decimal.shortest (sized negative n)).isPointed_positional
    have hdisplay : denoted? (display (sized negative n)) =
        some (Decimal.shortest (sized negative n)).value := by
      rw [denoted?_display hn]
      rcases hsign with rfl | rfl
      · rfl
      · simp [Decimal.value_shortest_zero]
    rw [hrender]
    refine ⟨hpointed, hpointed.mem_expression, hpointed.not_all_digits,
      (Decimal.denoted?_notations _).1, hdisplay, fun source t hk ht => ?_,
      fun o hfree => hpointed.exists_tokenize hfree⟩
    exact constantLeaf?_sizeText hfinite hk (ht.trans (sizeText_sized hn).symm)

/-- A small number loses its exponent and the zero its sign, and both keep their values. -/
theorem render_keeps_value_exponent :
    let small : Float := 2.5e-7
    let zero : Float := -0.0
    (float small).render = "0.00000025".toList ∧ display small = "2.5e-07".toList ∧
      denoted? (float small).render = denoted? (display small) ∧
      (float zero).render = "0.0".toList ∧ display zero = "-0.0".toList ∧
      denoted? (float zero).render = denoted? (display zero) ∧
      ∃ t, tokenize .standard (float small).render = .ok [t] ∧
        Shape.constantLeaf? (float small).render [t] = .ok (some (.leaf (.const (.float small)))) := by
  intro small zero
  obtain ⟨-, -, -, hsmall, hshown, hread, htokens⟩ :=
    render_keeps_value.2 small (by decide +kernel) (by decide +kernel)
  obtain ⟨-, -, -, hzero, hsigned, -, -⟩ :=
    render_keeps_value.2 zero (by decide +kernel) (by decide +kernel)
  obtain ⟨t, htokenize, hkind, htext⟩ := htokens .standard fun c hc =>
    Options.standard_readable.tokenizer?_of_isPlain (Bool.or_eq_true_iff.mpr (.inr hc))
  have habs : small.abs = small := eq_of_toBits_eq (by decide +kernel)
  refine ⟨by decide +kernel, by decide +kernel, hsmall.trans hshown.symm, by decide +kernel,
    by decide +kernel, hzero.trans hsigned.symm, t, htokenize, ?_⟩
  rw [hread _ t hkind htext, habs]

end Literal
end Reckon
