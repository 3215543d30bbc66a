/-
Texts in balance, and what is to blame in any other.

A text is in balance if variables and parentheses open before they close and all of them do
close; `Balanced` says so by counting.  A text out of balance has one fault, which `Blames` finds
by looking, in this order, for a character that closes something that is not open, for a
variable that is still open at the end, and for a parenthesis that nothing closes.
-/
import Reckon.Proofs.Tokens.Regions

namespace Reckon

open Brackets

variable {o : Options} {source p : Text} {c : Char} {cause : ScanCause} {start : Nat}

/-! ### Texts in balance -/

/-- A text in which everything opens before it closes, and closes. -/
structure Balanced (o : Options) (source : Text) : Prop where
  /-- A delimiter that only closes variables stands in one. -/
  opened : ∀ opening closing, o.delimiters? = some (opening, closing) → opening ≠ closing →
    ∀ p, p ++ [closing] <+: source → o.nesting p ≠ 0
  /-- No variable is open at the end. -/
  ended : o.nesting source = 0
  /-- Nowhere have more parentheses been closed than opened. -/
  ahead : ∀ p, p <+: source → 0 ≤ depth (o.parentheses p)
  even : depth (o.parentheses source) = 0

/-! ### Offending characters -/

/-- The character behind a text closes something that is not open. -/
inductive Offends (o : Options) (p : Text) : Char → ScanCause → Prop
  | delimiter {opening closing : Char} (hdelimiters : o.delimiters? = some (opening, closing))
      (hne : opening ≠ closing) (hp : o.nesting p = 0) :
      Offends o p closing (.closingWithoutOpening closing opening)
  | parenthesis {c : Char} (h : depth (o.parentheses (p ++ [c])) < 0) :
      Offends o p c .unmatchedClose

/-- None of the characters offends. -/
def Unbroken (o : Options) (s : Text) : Prop :=
  ∀ p c, p ++ [c] <+: s → ∀ cause, ¬Offends o p c cause

theorem unbroken_nil : Unbroken o [] := by
  intro p c hp
  exact absurd (List.prefix_nil.mp hp) (by simp)

theorem Unbroken.concat (h : Unbroken o p) (hc : ∀ cause, ¬Offends o p c cause) :
    Unbroken o (p ++ [c]) := by
  intro q d hq
  rcases List.prefix_concat_iff.mp hq with heq | hq
  · obtain ⟨rfl, hd⟩ := List.append_inj' heq rfl
    cases hd
    exact hc
  · exact h q d hq

/-- Up to a character that offends no longer text is without offence. -/
theorem Unbroken.length_le {q : Text} {d : Char} (h : Unbroken o p) (hp : p ++ [c] <+: source)
    (hq : q ++ [d] <+: source) (hoffends : Offends o q d cause) : p.length ≤ q.length := by
  by_contra hlt
  have hprefix : q ++ [d] <+: p := by
    refine List.prefix_of_prefix_length_le hq ((List.prefix_append p [c]).trans hp) ?_
    rw [List.length_append, List.length_singleton]
    omega
  exact h q d hprefix cause hoffends

theorem Unbroken.depth_nonneg (h : Unbroken o source) (hp : p <+: source) :
    0 ≤ depth (o.parentheses p) := by
  rcases List.eq_nil_or_concat p with rfl | ⟨q, c, rfl⟩
  · rw [Options.parentheses_nil]
    exact Int.le_of_eq depth_nil.symm
  · rw [List.concat_eq_append] at hp ⊢
    exact Int.not_lt.mp fun hneg => h q c hp _ (.parenthesis hneg)

theorem Balanced.unbroken (h : Balanced o source) : Unbroken o source := by
  intro p c hp cause hoffends
  cases hoffends with
  | delimiter hdelimiters hne hzero => exact h.opened _ _ hdelimiters hne p hp hzero
  | parenthesis hneg => exact absurd (h.ahead _ hp) (Int.not_le.mpr hneg)

/-- A delimiter of variables is no parenthesis, so a character offends in one way only. -/
theorem Offends.unique {cause' : ScanCause} (hv : o.Valid) (hp : Unbroken o p)
    (h : Offends o p c cause) (h' : Offends o p c cause') : cause = cause' := by
  have happart : ∀ {opening closing}, o.delimiters? = some (opening, closing) →
      ¬depth (o.parentheses (p ++ [closing])) < 0 := by
    intro opening closing hdelimiters hneg
    have hclaimed := (hv.delimits hdelimiters (.inr rfl)).claimed
    rw [hv.parentheses_concat_of_ne (by rw [hclaimed]; decide)] at hneg
    exact absurd (hp.depth_nonneg (List.prefix_refl p)) (Int.not_le.mpr hneg)
  cases h with
  | delimiter hdelimiters =>
      cases h' with
      | delimiter hdelimiters' =>
          rw [hdelimiters] at hdelimiters'
          cases hdelimiters'
          rfl
      | parenthesis hneg => exact absurd hneg (happart hdelimiters)
  | parenthesis hneg =>
      cases h' with
      | delimiter hdelimiters => exact absurd hneg (happart hdelimiters)
      | parenthesis => rfl

/-! ### Variables that stay open -/

/-- The outermost variable that is open behind the text has been so since offset `start`. -/
structure OpenSince (o : Options) (p : Text) (start : Nat) : Prop where
  inside : start < p.length
  before : o.nesting (p.take start) = 0
  since : ∀ i, start < i → i ≤ p.length → 0 < o.nesting (p.take i)

namespace OpenSince

theorem begin (h : o.nesting p = 0) (hpos : 0 < o.nesting (p ++ [c])) :
    OpenSince o (p ++ [c]) p.length where
  inside := by
    rw [List.length_append, List.length_singleton]
    exact Nat.lt_succ_self _
  before := by rwa [List.take_left]
  since i hi hlength := by
    rw [List.length_append, List.length_singleton] at hlength
    rwa [List.take_of_length_le]
    rw [List.length_append, List.length_singleton]
    omega

theorem concat (h : OpenSince o p start) (hpos : 0 < o.nesting (p ++ [c])) :
    OpenSince o (p ++ [c]) start where
  inside := by
    rw [List.length_append]
    exact Nat.lt_add_right _ h.inside
  before := by
    rw [List.take_append_of_le_length (Nat.le_of_lt h.inside)]
    exact h.before
  since i hi hlength := by
    rw [List.length_append, List.length_singleton] at hlength
    rcases Nat.lt_or_ge p.length i with hend | hinside
    · rwa [List.take_of_length_le]
      rw [List.length_append, List.length_singleton]
      omega
    · rw [List.take_append_of_le_length hinside]
      exact h.since i hi hinside

theorem nesting_pos (h : OpenSince o p start) : 0 < o.nesting p := by
  have hpos := h.since p.length h.inside (Nat.le_refl _)
  rwa [List.take_length] at hpos

theorem unique {start' : Nat} (h : OpenSince o p start) (h' : OpenSince o p start') :
    start = start' := by
  have hle : ∀ {m n}, OpenSince o p m → OpenSince o p n → n ≤ m := by
    intro m n hm hn
    by_contra hlt
    have hpos := hm.since n (Nat.lt_of_not_le hlt) (Nat.le_of_lt hn.inside)
    rw [hn.before] at hpos
    exact absurd hpos (by decide)
  exact Nat.le_antisymm (hle h' h) (hle h h')

end OpenSince

/-! ### What is to blame -/

/-- The fault of a text out of balance.  The first offending character is to blame; if there is none,
the variable that is still open; and if there is none either, the last parenthesis that nothing
closes. -/
inductive Blames (o : Options) (source : Text) : Located ScanCause → Prop
  | character {p : Text} {c : Char} {cause : ScanCause} (hp : p ++ [c] <+: source)
      (unbroken : Unbroken o p) (h : Offends o p c cause) :
      Blames o source ⟨cause, ⟨source, p.length, p.length + 1⟩⟩
  | openVariable {start : Nat} (unbroken : Unbroken o source) (h : OpenSince o source start) :
      Blames o source ⟨.unterminatedVariable, ⟨source, start, source.length⟩⟩
  | openParenthesis {i : Nat} (unbroken : Unbroken o source) (hended : o.nesting source = 0)
      (h : LastUnclosed (o.parentheses source) i) :
      Blames o source ⟨.unclosedParenthesis, ⟨source, i, i + 1⟩⟩

/-- There is no more than one fault. -/
theorem Blames.unique {fault fault' : Located ScanCause} (hv : o.Valid) (h : Blames o source fault)
    (h' : Blames o source fault') : fault = fault' := by
  cases h with
  | @character p c cause hp unbroken hoffends =>
      cases h' with
      | @character p' c' cause' hp' unbroken' hoffends' =>
          have hlength : p.length = p'.length :=
            Nat.le_antisymm (unbroken.length_le hp hp' hoffends') (unbroken'.length_le hp' hp hoffends)
          have heq : p ++ [c] = p' ++ [c'] := by
            refine (List.prefix_of_prefix_length_le hp hp' ?_).eq_of_length ?_ <;>
              simp only [List.length_append, List.length_singleton, hlength, Nat.le_refl]
          obtain ⟨rfl, hc⟩ := List.append_inj' heq rfl
          cases hc
          rw [hoffends.unique hv unbroken hoffends']
      | openVariable whole => exact absurd hoffends (whole p c hp cause)
      | openParenthesis whole => exact absurd hoffends (whole p c hp cause)
  | openVariable whole hopen =>
      cases h' with
      | character hp _ hoffends => exact absurd hoffends (whole _ _ hp _)
      | openVariable _ hopen' => rw [hopen.unique hopen']
      | openParenthesis _ hended => exact absurd hopen.nesting_pos (by rw [hended]; decide)
  | openParenthesis whole hended hlast =>
      cases h' with
      | character hp _ hoffends => exact absurd hoffends (whole _ _ hp _)
      | openVariable _ hopen => exact absurd hopen.nesting_pos (by rw [hended]; decide)
      | openParenthesis _ _ hlast' => rw [hlast.unique hlast']

end Reckon
