/-
Variables and parentheses as the text alone tells them.

How many variables are open at a place is a matter of counting delimiters up to there: distinct
delimiters are subtracted from each other, and one that both opens and closes does so in turn.
A parenthesis counts if no variable is open where it stands.  Neither definition knows of a
scan; the lemmas say what one more character changes.
-/
import Reckon.Proofs.Tokens.Reading
import Reckon.Proofs.Tokens.Brackets

namespace Reckon.Options

variable {o : Options} {opening closing c : Char} {s : Text}

/-! ### How deep variables nest -/

/-- How many variables are open behind a text. -/
def nesting (o : Options) (s : Text) : Int :=
  match o.delimiters? with
  | none => 0
  | some (opening, closing) =>
    if opening = closing then (s.count opening % 2 : Nat)
    else s.count opening - s.count closing

@[simp] theorem nesting_nil (o : Options) : o.nesting [] = 0 := by
  unfold nesting
  split
  · rfl
  · split <;> rfl

/-- The only delimiter there is turns one state into the other. -/
theorem nesting_concat_same (h : o.delimiters? = some (c, c)) (s : Text) :
    o.nesting s = 0 ∧ o.nesting (s ++ [c]) = 1 ∨ o.nesting s = 1 ∧ o.nesting (s ++ [c]) = 0 := by
  simp only [nesting, h, if_pos, List.count_append, List.count_singleton_self]
  omega

theorem nesting_concat_opening (h : o.delimiters? = some (opening, closing)) (hne : opening ≠ closing)
    (s : Text) : o.nesting (s ++ [opening]) = o.nesting s + 1 := by
  simp [nesting, h, hne]
  omega

theorem nesting_concat_closing (h : o.delimiters? = some (opening, closing)) (hne : opening ≠ closing)
    (s : Text) : o.nesting (s ++ [closing]) = o.nesting s - 1 := by
  simp [nesting, h, hne.symm, hne]
  omega

theorem nesting_concat_of_ne (hc : ∀ opening closing, o.delimiters? = some (opening, closing) →
    c ≠ opening ∧ c ≠ closing) (s : Text) : o.nesting (s ++ [c]) = o.nesting s := by
  unfold nesting
  split
  · rfl
  · rename_i opening closing h
    obtain ⟨hopening, hclosing⟩ := hc opening closing h
    simp [hopening, hclosing]

/-! ### Parentheses outside variables -/

/-- The parentheses outside variables with their offsets, provided that they may split a text. -/
def parentheses (o : Options) (s : Text) : List (Char × Nat) :=
  if .parenthesis ∈ o.tokenizers then
    s.zipIdx.filter fun x => (x.1 == '(' || x.1 == ')') && o.nesting (s.take x.2) == 0
  else []

@[simp] theorem parentheses_nil (o : Options) : o.parentheses [] = [] := by
  unfold parentheses
  split <;> rfl

theorem parentheses_concat (o : Options) (s : Text) (c : Char) :
    o.parentheses (s ++ [c]) = o.parentheses s ++
      if .parenthesis ∈ o.tokenizers ∧ (c = '(' ∨ c = ')') ∧ o.nesting s = 0 then [(c, s.length)]
      else [] := by
  unfold parentheses
  by_cases hregistered : .parenthesis ∈ o.tokenizers
  · rw [if_pos hregistered, if_pos hregistered, List.zipIdx_append, List.filter_append]
    congr 1
    · refine List.filter_congr fun x hx => ?_
      have hlt : x.2 ≤ s.length := by
        have := (List.mem_zipIdx hx).2.1
        omega
      rw [List.take_append_of_le_length hlt]
    · simp [hregistered, List.filter_cons]
  · simp [hregistered]

/-- Parentheses are listed from left to right. -/
theorem pairwise_parentheses (o : Options) (s : Text) :
    (o.parentheses s).Pairwise fun x y => x.2 < y.2 := by
  unfold parentheses
  split
  · refine List.Pairwise.filter _ (List.pairwise_map.mp ?_)
    rw [List.zipIdx_map_snd]
    exact List.pairwise_lt_range'
  · exact .nil

theorem Valid.tokenizer?_of_parenthesis (h : o.Valid) (hregistered : .parenthesis ∈ o.tokenizers)
    (hc : c = '(' ∨ c = ')') : o.tokenizer? c = some .parenthesis := by
  refine h.tokenizer?_of_claimed hregistered ?_
  show c ∈ structural
  rcases hc with rfl | rfl <;> decide

/-- A character that makes no token of a parenthesis is none outside variables. -/
theorem Valid.parentheses_concat_of_ne (h : o.Valid) (hc : o.tokenizer? c ≠ some .parenthesis)
    (s : Text) : o.parentheses (s ++ [c]) = o.parentheses s := by
  rw [parentheses_concat, if_neg, List.append_nil]
  rintro ⟨hregistered, hparenthesis, -⟩
  exact hc (h.tokenizer?_of_parenthesis hregistered hparenthesis)

theorem parentheses_concat_of_nesting (hs : o.nesting s ≠ 0) :
    o.parentheses (s ++ [c]) = o.parentheses s := by
  rw [parentheses_concat, if_neg fun h => hs h.2.2, List.append_nil]

theorem parentheses_concat_of_claimed (hc : o.tokenizer? c = some .parenthesis)
    (hparenthesis : c = '(' ∨ c = ')') (hs : o.nesting s = 0) :
    o.parentheses (s ++ [c]) = o.parentheses s ++ [(c, s.length)] := by
  rw [parentheses_concat, if_pos ⟨List.mem_of_find?_eq_some hc, hparenthesis, hs⟩]

end Reckon.Options
