/-
The order of the registered parsers does not matter.

The parsers are asked one after the other, and each of them may find a form, find one that is wrong
inside, or pass the run by.  The first that does not pass it by decides, so their order could matter
in two ways: another form might be found, or another fault reported.  Neither happens, because for
every run there is one kind of parser that all others leave it to, however malformed the run is.
Parentheses around a whole run hide whatever operators are inside, a single value is no operation,
and what is read as a number is never read as a variable.
-/
import Reckon.Proofs.Levels
import Reckon.Proofs.Shape.Forms

namespace Reckon

variable {o : Options} {source : Text} {parsers : List ParserKind}

namespace Shape

/-! ### The kind that a run is left to -/

theorem leftTo_of_value {t : Token} (hp : o.pattern.isUnlikeNumber = true) (hk : t.kind = .value) :
    ∃ kind, LeftTo o source [t] kind := by
  cases hread : Numeral.read? false t.text with
  | some n => exact ⟨.constant, leftTo_constant hp hk hread⟩
  | none => exact ⟨.variable, leftTo_variable hk (by simp [constantLeaf?, hread])⟩

theorem leftTo_operation_of_single {t : Token} (hk : t.kind ≠ .value) :
    LeftTo o source [t] .operation := by
  intro other hother
  cases other with
  | constant => simp [ofKind, constantLeaf?, hk]
  | «variable» => simp [ofKind, variableLeaf?, hk]
  | parenthesis => rfl
  | operation => exact absurd rfl hother

/-- Every run is left to one kind of parser, also a run that nothing can be made of. -/
theorem exists_leftTo (hp : o.pattern.isUnlikeNumber = true) (ts : List Token) :
    ∃ kind, LeftTo o source ts kind := by
  match ts with
  | [] => exact ⟨.constant, fun other _ => by cases other <;> rfl⟩
  | [t] =>
    by_cases hk : t.kind = .value
    · exact leftTo_of_value hp hk
    · exact ⟨.operation, leftTo_operation_of_single hk⟩
  | first :: second :: rest =>
    have hlong : 2 ≤ (first :: second :: rest).length := by simp
    rcases parenthesis?_cases o source (first :: second :: rest) with
      hnone | ⟨a, xs, b, hts, ha, hb, hbal⟩ | ⟨t, a, xs, b, hts, ht, -, ha, hb, hbal⟩
    · exact ⟨.operation, leftTo_operation hlong hnone⟩
    · refine ⟨.parenthesis, leftTo_parenthesis hlong ?_⟩
      rw [hts]
      exact operation?_eq_none (.enclosed ha hb hbal) (marks_unmarked _) (by simp [ha])
    · refine ⟨.parenthesis, leftTo_parenthesis hlong ?_⟩
      rw [hts]
      exact operation?_eq_none (.called ht ha hb hbal) (marks_unmarked _) (by simp [ht])

/-! ### Asking the parsers in any order -/

/-- Options with the same parsers in another order find the same form, or the same fault. -/
theorem of_reordered (hsame : ∀ kind, kind ∈ parsers ↔ kind ∈ o.parsers)
    (hp : o.pattern.isUnlikeNumber = true) (ts : List Token) :
    of { o with parsers := parsers } source ts = of o source ts := by
  obtain ⟨kind, h⟩ : ∃ kind, LeftTo o source ts kind := exists_leftTo hp ts
  have h' : LeftTo { o with parsers := parsers } source ts kind :=
    fun other hother => (ofKind_with ts other).trans (h other hother)
  have hkind : ofKind { o with parsers := parsers } source ts kind = ofKind o source ts kind :=
    ofKind_with ts kind
  rw [of, of, first?_of_leftTo h, first?_of_leftTo h', hkind]
  simp only [hsame]

end Shape

/-! ### Runs and equations -/

theorem parseLevels_reordered (hsame : ∀ kind, kind ∈ parsers ↔ kind ∈ o.parsers)
    (hp : o.pattern.isUnlikeNumber = true) (n : Nat) : ∀ ts,
    parseLevels { o with parsers := parsers } source n ts = parseLevels o source n ts :=
  parseLevels_congr (Shape.of_reordered hsame hp) rfl n

/--
**The order of the registered parsers never matters.**

Options that register the same kinds of parsers make the same of all tokens, however these have come
about: the same tree, or the same fault at the same place.
-/
theorem parseTokens_reordered (hsame : ∀ kind, kind ∈ parsers ↔ kind ∈ o.parsers)
    (hp : o.pattern.isUnlikeNumber = true) (source : Text) (tokens : List Token) :
    parseTokens { o with parsers := parsers } source tokens = parseTokens o source tokens := by
  unfold parseTokens
  split
  · rfl
  · exact parseLevels_reordered hsame hp o.maxDepth tokens

/-- The call `min(1,)` lacks an argument, whoever is asked first. -/
theorem parseTokens_reordered_call :
    parseTokens { Options.standard with parsers := [.variable, .constant, .operation, .parenthesis] }
      "min(1,)".toList [⟨.value, "min".toList, 0, 3⟩, ⟨.opening, ['('], 3, 4⟩, ⟨.value, ['1'], 4, 5⟩,
        ⟨.separator, [','], 5, 6⟩, ⟨.closing, [')'], 6, 7⟩] =
      .error ⟨.missingArgument "min".toList, ⟨"min(1,)".toList, 0, 7⟩⟩ := by
  have hsame : ∀ kind : ParserKind,
      kind ∈ [.variable, .constant, .operation, .parenthesis] ↔ kind ∈ Options.standard.parsers := by
    intro kind
    cases kind <;> decide
  exact (parseTokens_reordered hsame (by decide) _ _).trans rfl

end Reckon
