/-
The texts that are read as numerals.

Reading takes digits off the front of a text, then a point and the digits behind it, and looks at what is
left.  `Spells` tells the same without an order: the parts of the numeral, written one behind the other,
are the text.  The two agree because each run of digits ends where something else begins.

Inside an equation, where an exponent has no sign, the texts that are read are the words of a regular
expression.
-/
import Mathlib
import Reckon.Proofs.Numerals

namespace Reckon.Numeral

open Text

variable {signed : Bool} {s whole rest tail : Text} {fraction : Option Text} {n : Numeral}

/-! ### Exponents -/

/-- A text is an exponent, or it is empty and there is none. -/
inductive IsExponent (signed : Bool) : Text → Option Int → Prop
  | none : IsExponent signed [] none
  | some {c : Char} {digits : Text} {e : Int} (hc : c = 'e' ∨ c = 'E')
      (he : exponent? signed digits = some e) : IsExponent signed (c :: digits) (some e)

theorem exponent?_unsigned {digits : Text} {e : Int} :
    exponent? false digits = some e ↔ digits.IsDigits ∧ (Text.toNat digits : Int) = e := by
  by_cases h : digits.IsDigits
  · have hempty : digits.isEmpty = false := List.isEmpty_eq_false_iff.mpr h.nonempty
    have hall : digits.all isDigit = true := List.all_eq_true.mpr h.digits
    simp [exponent?, hempty, hall, h]
  · have hnot : (digits.isEmpty || !digits.all isDigit) = true := by
      by_contra hfalse
      simp only [Bool.or_eq_true, List.isEmpty_iff, Bool.not_eq_true', List.all_eq_false, not_or,
        not_exists, not_and, not_not] at hfalse
      exact h ⟨hfalse.1, hfalse.2⟩
    simp only [exponent?, h, false_and, iff_false]
    rw [if_pos hnot]
    simp

/-- With a sign in front an exponent is that of the digits, or its opposite. -/
theorem exponent?_signed {digits : Text} (h : digits.IsDigits) (negative : Bool) :
    exponent? true ((if negative then '-' else '+') :: digits) =
      some (if negative then -(Text.toNat digits : Int) else Text.toNat digits) := by
  have hempty : digits.isEmpty = false := List.isEmpty_eq_false_iff.mpr h.nonempty
  have hall : digits.all isDigit = true := List.all_eq_true.mpr h.digits
  cases negative <;> simp [exponent?, hempty, hall]

/-! ### What reading comes to -/

/-- What is behind the digits of a numeral, with the numeral so far. -/
def ending (signed : Bool) (n : Numeral) : Text → Option Numeral
  | [] => some n
  | c :: rest =>
    if c == 'e' || c == 'E' then (exponent? signed rest).map fun e => { n with exponent := some e }
    else none

theorem ending_eq_some (hn : n.exponent = none) {m : Numeral} :
    ending signed n tail = some m ↔
      ∃ e, IsExponent signed tail e ∧ m = { n with exponent := e } := by
  cases tail with
  | nil =>
      constructor
      · intro h
        cases h
        exact ⟨none, .none, by rw [← hn]⟩
      · rintro ⟨e, he, rfl⟩
        cases he
        rw [ending, ← hn]
  | cons c rest =>
      by_cases hc : c = 'e' ∨ c = 'E'
      · have hmark : (c == 'e' || c == 'E') = true := by simpa using hc
        rw [ending, if_pos hmark, Option.map_eq_some_iff]
        constructor
        · rintro ⟨e, he, rfl⟩
          exact ⟨some e, .some hc he, rfl⟩
        · rintro ⟨e, he, rfl⟩
          cases he with
          | some _ he => exact ⟨_, he, rfl⟩
      · have hmark : ¬(c == 'e' || c == 'E') = true := by simpa using hc
        rw [ending, if_neg hmark]
        constructor
        · intro h
          cases h
        · rintro ⟨e, he, rfl⟩
          cases he with
          | some hmark _ => exact absurd hmark hc

theorem read?_pointed (hwhole : ∀ c ∈ whole, isDigit c = true) (rest : Text) :
    read? signed (whole ++ '.' :: rest) =
      if whole = [] ∧ rest.takeWhile isDigit = [] then none
      else ending signed ⟨whole, some (rest.takeWhile isDigit), none⟩ (rest.dropWhile isDigit) := by
  unfold read?
  rw [takeWhile_digits hwhole (head?_point rest), dropWhile_digits hwhole (head?_point rest)]
  simp only [Option.getD_some, Bool.and_eq_true, List.isEmpty_iff]
  rfl

theorem read?_unpointed (hwhole : ∀ c ∈ whole, isDigit c = true)
    (htail : ∀ c ∈ tail.head?, begins c = false) :
    read? signed (whole ++ tail) =
      if whole = [] then none else ending signed ⟨whole, none, none⟩ tail := by
  have hdigit : ∀ c ∈ tail.head?, isDigit c = false :=
    fun c hc => (Bool.or_eq_false_iff.mp (htail c hc)).1
  unfold read?
  rw [takeWhile_digits hwhole hdigit, dropWhile_digits hwhole hdigit]
  cases tail with
  | nil => simp [ending]
  | cons c rest =>
      have hc : c ≠ '.' := by
        rintro rfl
        cases htail '.' rfl
      simp [hc, ending]

/-! ### The texts that spell a numeral -/

/-- A point and the digits behind it, if there is a point. -/
def pointed : Option Text → Text
  | none => []
  | some fraction => '.' :: fraction

/-- The parts of the numeral, one behind the other, are the text. -/
structure Spells (signed : Bool) (s : Text) (n : Numeral) : Prop where
  whole_digits : ∀ c ∈ n.whole, isDigit c = true
  fraction_digits : ∀ c ∈ n.fraction.getD [], isDigit c = true
  /-- A point alone is no numeral. -/
  some_digit : n.whole ≠ [] ∨ n.fraction.getD [] ≠ []
  parts : ∃ tail, s = n.whole ++ (pointed n.fraction ++ tail) ∧ IsExponent signed tail n.exponent

/-- An exponent does not begin as the digits before it would go on. -/
theorem IsExponent.not_begins {e : Option Int} (h : IsExponent signed tail e) :
    ∀ c ∈ tail.head?, begins c = false := by
  rintro c hc
  cases h with
  | none => cases hc
  | some hmark _ =>
      cases hc
      rcases hmark with rfl | rfl <;> decide

theorem isDigit_of_mem_takeWhile {c : Char} (hc : c ∈ s.takeWhile isDigit) : isDigit c = true :=
  List.mem_takeWhile_imp hc

/-- Reading finds the numeral that a text spells, and no other. -/
theorem read?_eq_some : read? signed s = some n ↔ Spells signed s n := by
  constructor
  · intro h
    have hsplit : s = s.takeWhile isDigit ++ s.dropWhile isDigit := List.takeWhile_append_dropWhile.symm
    have hwhole : ∀ c ∈ s.takeWhile isDigit, isDigit c = true := fun _ => isDigit_of_mem_takeWhile
    by_cases hpoint : ∃ rest, s.dropWhile isDigit = '.' :: rest
    · obtain ⟨rest, hrest⟩ := hpoint
      rw [hsplit, hrest, read?_pointed hwhole] at h
      split at h
      · cases h
      · rename_i hdigit
        obtain ⟨e, he, rfl⟩ := (ending_eq_some rfl).mp h
        refine ⟨hwhole, fun _ => isDigit_of_mem_takeWhile, not_and_or.mp hdigit, _, ?_, he⟩
        rw [pointed, List.cons_append, List.takeWhile_append_dropWhile, ← hrest]
        exact hsplit
    · have htail : ∀ c ∈ (s.dropWhile isDigit).head?, begins c = false := by
        intro c hc
        obtain ⟨rest, hrest⟩ := List.head?_eq_some_iff.mp hc
        refine Bool.or_eq_false_iff.mpr ⟨?_, beq_eq_false_iff_ne.mpr ?_⟩
        · have hnot := List.head?_dropWhile_not isDigit s
          rw [hrest] at hnot
          simpa using hnot
        · rintro rfl
          exact hpoint ⟨rest, hrest⟩
      rw [hsplit, read?_unpointed hwhole htail] at h
      split at h
      · cases h
      · rename_i hdigit
        obtain ⟨e, he, rfl⟩ := (ending_eq_some rfl).mp h
        exact ⟨hwhole, List.forall_mem_nil _, .inl hdigit, _, hsplit, he⟩
  · rintro ⟨hwhole, hfraction, hdigit, tail, rfl, he⟩
    obtain ⟨whole, fraction, exponent⟩ := n
    cases fraction with
    | none =>
        rw [pointed, List.nil_append, read?_unpointed hwhole he.not_begins, if_neg (by simpa using hdigit)]
        exact (ending_eq_some rfl).mpr ⟨exponent, he, rfl⟩
    | some fraction =>
        rw [Option.getD_some] at hfraction hdigit
        have htail : ∀ c ∈ tail.head?, isDigit c = false :=
          fun c hc => (Bool.or_eq_false_iff.mp (he.not_begins c hc)).1
        rw [pointed, List.cons_append, read?_pointed hwhole, takeWhile_digits hfraction htail,
          dropWhile_digits hfraction htail, if_neg (not_and_or.mpr hdigit)]
        exact (ending_eq_some rfl).mpr ⟨exponent, he, rfl⟩

/-! ### Numerals as a regular language -/

section Expression

open RegularExpression

/-- One of some characters. -/
def oneOf (cs : List Char) : RegularExpression Char := (cs.map char).sum

/-- A digit. -/
def digit : RegularExpression Char := oneOf ['0', '1', '2', '3', '4', '5', '6', '7', '8', '9']

/-- At least one digit. -/
def digits : RegularExpression Char := digit * digit.star

/-- What the expression describes, or nothing. -/
def optionally (r : RegularExpression Char) : RegularExpression Char := r + 1

/-- Digits, and behind them a point and any digits or nothing; or a point and digits. -/
def body : RegularExpression Char :=
  digits * optionally (char '.' * digit.star) + char '.' * digits

/-- A numeral without a sign in its exponent. -/
def expression : RegularExpression Char := body * optionally (oneOf ['e', 'E'] * digits)

theorem mem_oneOf {cs : List Char} : s ∈ (oneOf cs).matches' ↔ ∃ c ∈ cs, s = [c] := by
  induction cs with
  | nil => simp [oneOf]
  | cons c cs ih =>
      have hcons : oneOf (c :: cs) = char c + oneOf cs := rfl
      rw [hcons, matches'_add, Language.mem_add, ih, matches'_char, List.exists_mem_cons_iff]
      rfl

theorem mem_optionally {r : RegularExpression Char} :
    s ∈ (optionally r).matches' ↔ s ∈ r.matches' ∨ s = [] := by
  rw [optionally, matches'_add, Language.mem_add, matches'_epsilon, Language.mem_one]

theorem mem_char_mul {c : Char} {r : RegularExpression Char} :
    s ∈ (char c * r).matches' ↔ ∃ rest ∈ r.matches', s = c :: rest := by
  rw [matches'_mul, Language.mem_mul, matches'_char]
  constructor
  · rintro ⟨_, rfl, rest, hrest, rfl⟩
    exact ⟨rest, hrest, rfl⟩
  · rintro ⟨rest, hrest, rfl⟩
    exact ⟨[c], rfl, rest, hrest, rfl⟩

theorem mem_digit : s ∈ digit.matches' ↔ ∃ c, isDigit c = true ∧ s = [c] := by
  rw [digit, mem_oneOf]
  refine exists_congr fun c => and_congr_left fun _ => ?_
  rw [isDigit_iff]
  simp only [List.mem_cons, List.not_mem_nil, or_false, ← Char.toNat_inj, Char.reduceToNat]
  omega

theorem mem_star_digit : s ∈ digit.star.matches' ↔ ∀ c ∈ s, isDigit c = true := by
  rw [matches'_star, Language.mem_kstar]
  constructor
  · rintro ⟨words, rfl, hwords⟩ c hc
    obtain ⟨word, hword, hc⟩ := List.mem_flatten.mp hc
    obtain ⟨d, hd, rfl⟩ := mem_digit.mp (hwords word hword)
    rwa [List.mem_singleton.mp hc]
  · intro h
    refine ⟨s.map fun c => [c], (List.flatMap_singleton' s).symm, fun word hword => ?_⟩
    obtain ⟨c, hc, rfl⟩ := List.mem_map.mp hword
    exact mem_digit.mpr ⟨c, h c hc, rfl⟩

theorem mem_digits : s ∈ digits.matches' ↔ s.IsDigits := by
  rw [digits, matches'_mul, Language.mem_mul]
  constructor
  · rintro ⟨_, hfirst, rest, hrest, rfl⟩
    obtain ⟨c, hc, rfl⟩ := mem_digit.mp hfirst
    exact ⟨by simp, List.forall_mem_cons.mpr ⟨hc, mem_star_digit.mp hrest⟩⟩
  · rintro ⟨hne, hdigits⟩
    cases s with
    | nil => exact absurd rfl hne
    | cons c rest =>
        obtain ⟨hc, hrest⟩ := List.forall_mem_cons.mp hdigits
        exact ⟨[c], mem_digit.mpr ⟨c, hc, rfl⟩, rest, mem_star_digit.mpr hrest, rfl⟩

theorem mem_exponent :
    s ∈ (optionally (oneOf ['e', 'E'] * digits)).matches' ↔ ∃ e, IsExponent false s e := by
  rw [mem_optionally, matches'_mul, Language.mem_mul]
  constructor
  · rintro (⟨_, hmark, digits, hdigits, rfl⟩ | rfl)
    · obtain ⟨c, hc, rfl⟩ := mem_oneOf.mp hmark
      exact ⟨_, .some (by simpa using hc) (exponent?_unsigned.mpr ⟨mem_digits.mp hdigits, rfl⟩)⟩
    · exact ⟨none, .none⟩
  · rintro ⟨e, he⟩
    cases he with
    | none => exact .inr rfl
    | some hc he =>
        refine .inl ⟨_, mem_oneOf.mpr ⟨_, by simpa using hc, rfl⟩, _, ?_, rfl⟩
        exact mem_digits.mpr (exponent?_unsigned.mp he).1

theorem mem_body :
    s ∈ body.matches' ↔
      ∃ whole fraction, s = whole ++ pointed fraction ∧ (∀ c ∈ whole, isDigit c = true) ∧
        (∀ c ∈ fraction.getD [], isDigit c = true) ∧ (whole ≠ [] ∨ fraction.getD [] ≠ []) := by
  rw [body, matches'_add, Language.mem_add, matches'_mul, Language.mem_mul, mem_char_mul]
  constructor
  · rintro (⟨whole, hwhole, point, hpoint, rfl⟩ | ⟨fraction, hfraction, rfl⟩)
    · obtain ⟨hne, hwhole⟩ := mem_digits.mp hwhole
      rcases mem_optionally.mp hpoint with hpoint | rfl
      · obtain ⟨fraction, hfraction, rfl⟩ := mem_char_mul.mp hpoint
        exact ⟨whole, some fraction, rfl, hwhole, mem_star_digit.mp hfraction, .inl hne⟩
      · exact ⟨whole, none, rfl, hwhole, List.forall_mem_nil _, .inl hne⟩
    · obtain ⟨hne, hfraction⟩ := mem_digits.mp hfraction
      exact ⟨[], some fraction, rfl, List.forall_mem_nil _, hfraction, .inr hne⟩
  · rintro ⟨whole, fraction, rfl, hwhole, hfraction, hdigit⟩
    by_cases hne : whole = []
    · subst hne
      cases fraction with
      | none => simp at hdigit
      | some fraction =>
          have hne : fraction ≠ [] := by simpa using hdigit
          exact .inr ⟨fraction, mem_digits.mpr ⟨hne, hfraction⟩, rfl⟩
    · refine .inl ⟨whole, mem_digits.mpr ⟨hne, hwhole⟩, _, mem_optionally.mpr ?_, rfl⟩
      cases fraction with
      | none => exact .inr rfl
      | some fraction => exact .inl (mem_char_mul.mpr ⟨fraction, mem_star_digit.mpr hfraction, rfl⟩)

/-- Inside an equation the texts that are read as numerals are the words of the expression. -/
theorem read?_isSome_iff : (read? false s).isSome = true ↔ s ∈ expression.matches' := by
  rw [Option.isSome_iff_exists, expression, matches'_mul, Language.mem_mul]
  constructor
  · rintro ⟨n, h⟩
    obtain ⟨hwhole, hfraction, hdigit, tail, rfl, he⟩ := read?_eq_some.mp h
    refine ⟨_, mem_body.mpr ⟨n.whole, n.fraction, rfl, hwhole, hfraction, hdigit⟩, tail, ?_, by simp⟩
    exact mem_exponent.mpr ⟨n.exponent, he⟩
  · rintro ⟨start, hstart, tail, htail, rfl⟩
    obtain ⟨whole, fraction, rfl, hwhole, hfraction, hdigit⟩ := mem_body.mp hstart
    obtain ⟨e, he⟩ := mem_exponent.mp htail
    exact ⟨⟨whole, fraction, e⟩, read?_eq_some.mpr
      ⟨hwhole, hfraction, hdigit, tail, List.append_assoc _ _ _, he⟩⟩

end Expression

end Reckon.Numeral
