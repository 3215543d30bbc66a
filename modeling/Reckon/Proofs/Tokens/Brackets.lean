/-
Rows of parentheses and who closes whom.

A row holds the parentheses of some text, each with its offset.  It can be judged in two ways.
Counting says how many more parentheses open than close, up to any place.  Pairing says which
parenthesis closes which: two are partners if everything between them is paired off.  A stack of
the parentheses that wait for a partner links the two, since its height is the count, and its
top is the last parenthesis without a partner.
-/
import Reckon.Text
import Mathlib.Data.List.Infix

namespace Reckon.Brackets

variable {ps qs inner rest : List (Char × Nat)} {c : Char} {i j k : Nat} {opens : List Nat}

/-! ### Counting -/

/-- How many more parentheses open than close. -/
def depth (ps : List (Char × Nat)) : Int :=
  (ps.countP fun x => x.1 == '(') - (ps.countP fun x => x.1 == ')')

@[simp] theorem depth_nil : depth [] = 0 := rfl

@[simp] theorem depth_append (ps qs : List (Char × Nat)) :
    depth (ps ++ qs) = depth ps + depth qs := by
  simp only [depth, List.countP_append]
  omega

@[simp] theorem depth_opening (i : Nat) (ps : List (Char × Nat)) :
    depth (('(', i) :: ps) = depth ps + 1 := by
  simp [depth]
  omega

@[simp] theorem depth_closing (i : Nat) (ps : List (Char × Nat)) :
    depth ((')', i) :: ps) = depth ps - 1 := by
  simp [depth]
  omega

/-! ### Pairing -/

/-- Every parenthesis in the row has a partner. -/
inductive Nested : List (Char × Nat) → Prop
  | nil : Nested []
  | pair {i j : Nat} {inner rest : List (Char × Nat)} (hinner : Nested inner) (hrest : Nested rest) :
      Nested (('(', i) :: inner ++ (')', j) :: rest)

/-- In the row, the parenthesis at `j` closes the one at `i`. -/
def Partners (ps : List (Char × Nat)) (i j : Nat) : Prop :=
  ∃ before inner after, ps = before ++ ('(', i) :: inner ++ (')', j) :: after ∧ Nested inner

theorem Partners.append_left (h : Partners ps i j) (qs : List (Char × Nat)) :
    Partners (qs ++ ps) i j := by
  obtain ⟨before, inner, after, rfl, hinner⟩ := h
  exact ⟨qs ++ before, inner, after, by simp, hinner⟩

theorem Partners.append_right (h : Partners ps i j) (qs : List (Char × Nat)) :
    Partners (ps ++ qs) i j := by
  obtain ⟨before, inner, after, rfl, hinner⟩ := h
  exact ⟨before, inner, after ++ qs, by simp, hinner⟩

namespace Nested

theorem append (h : Nested ps) (h' : Nested qs) : Nested (ps ++ qs) := by
  induction h with
  | nil => exact h'
  | pair hinner _ _ ih =>
      rw [List.append_assoc]
      exact pair hinner ih

theorem depth_eq_zero (h : Nested ps) : depth ps = 0 := by
  induction h with
  | nil => rfl
  | pair _ _ ihinner ihrest =>
      rw [depth_append, depth_opening, depth_closing]
      omega

theorem depth_nonneg (h : Nested ps) : ∀ {qs}, qs <+: ps → 0 ≤ depth qs := by
  induction h with
  | nil =>
      intro qs hqs
      obtain rfl := List.prefix_nil.mp hqs
      exact Int.le_of_eq depth_nil.symm
  | @pair i j inner rest hinner _ ihinner ihrest =>
      intro qs hqs
      rcases List.prefix_cons_iff.mp hqs with rfl | ⟨tail, rfl, htail⟩
      · exact Int.le_of_eq depth_nil.symm
      rw [depth_opening]
      rcases List.prefix_or_prefix_of_prefix htail (List.prefix_append inner _) with hpart | hwhole
      · have := ihinner hpart
        omega
      obtain ⟨more, rfl⟩ := hwhole
      rw [depth_append, hinner.depth_eq_zero]
      have hmore := (List.prefix_append_right_inj inner).mp htail
      rcases List.prefix_cons_iff.mp hmore with rfl | ⟨last, rfl, hlast⟩
      · decide
      · have := ihrest hlast
        rw [depth_closing]
        omega

theorem exists_partner (h : Nested ps) (hi : ('(', i) ∈ ps) : ∃ j, Partners ps i j := by
  induction h with
  | nil => cases hi
  | @pair k j inner rest hinner _ ihinner ihrest =>
      simp only [List.cons_append, List.mem_cons, List.mem_append, Prod.mk.injEq] at hi
      rcases hi with ⟨-, rfl⟩ | hi | ⟨hc, -⟩ | hi
      · exact ⟨j, [], inner, rest, rfl, hinner⟩
      · obtain ⟨m, hm⟩ := ihinner hi
        exact ⟨m, (hm.append_left [('(', k)]).append_right _⟩
      · exact absurd hc (by decide)
      · obtain ⟨m, hm⟩ := ihrest hi
        refine ⟨m, ?_⟩
        rw [List.append_cons]
        exact hm.append_left _

end Nested

/-! ### The parentheses that wait for a partner -/

/-- The row without the parentheses at `opens` is paired off, and so is what stands between these. -/
inductive Stacked : List (Char × Nat) → List Nat → Prop
  | even {ps : List (Char × Nat)} (h : Nested ps) : Stacked ps []
  | opened {ps inner : List (Char × Nat)} {i : Nat} {opens : List Nat} (h : Stacked ps opens)
      (hinner : Nested inner) : Stacked (ps ++ ('(', i) :: inner) (i :: opens)

namespace Stacked

theorem nested (h : Stacked ps []) : Nested ps := by
  cases h with
  | even h => exact h

theorem append (h : Stacked ps opens) (hqs : Nested qs) : Stacked (ps ++ qs) opens := by
  cases h with
  | even h => exact .even (h.append hqs)
  | opened h hinner =>
      rw [List.append_assoc, List.cons_append]
      exact .opened h (hinner.append hqs)

theorem push (h : Stacked ps opens) (i : Nat) : Stacked (ps ++ [('(', i)]) (i :: opens) :=
  .opened h .nil

/-- A closing parenthesis is the partner of the last one that waits. -/
theorem pop (h : Stacked ps (i :: opens)) (j : Nat) : Stacked (ps ++ [(')', j)]) opens := by
  cases h with
  | opened h hinner =>
      rw [List.append_assoc]
      exact h.append (.pair hinner .nil)

theorem depth_eq_length (h : Stacked ps opens) : depth ps = opens.length := by
  induction h with
  | even h => exact h.depth_eq_zero
  | opened _ hinner ih =>
      rw [depth_append, depth_opening, ih, hinner.depth_eq_zero, List.length_cons]
      omega

end Stacked

/-- The parenthesis at `i` is the last one that nothing closes. -/
structure LastUnclosed (ps : List (Char × Nat)) (i : Nat) : Prop where
  mem : ('(', i) ∈ ps
  alone : ∀ j, ¬Partners ps i j
  later : ∀ k, i < k → ('(', k) ∈ ps → ∃ j, Partners ps k j

theorem LastUnclosed.unique (h : LastUnclosed ps i) (h' : LastUnclosed ps j) : i = j := by
  rcases Nat.lt_trichotomy i j with hlt | heq | hlt
  · obtain ⟨k, hk⟩ := h.later j hlt h'.mem
    exact absurd hk (h'.alone k)
  · exact heq
  · obtain ⟨k, hk⟩ := h'.later i hlt h.mem
    exact absurd hk (h.alone k)

/-- The parenthesis that waits at the top of the stack; the offsets in the row have to increase. -/
theorem Stacked.lastUnclosed (h : Stacked ps (i :: opens))
    (increasing : ps.Pairwise fun x y => x.2 < y.2) : LastUnclosed ps i := by
  cases h with
  | opened h hinner =>
      rename_i ps inner
      obtain ⟨-, htail, hcross⟩ := List.pairwise_append.mp increasing
      have hbehind := (List.pairwise_cons.mp htail).1
      refine ⟨by simp, ?_, ?_⟩
      · -- A partner would stand in `inner` and close more there than has been opened.
        rintro j ⟨before, between, after, heq, hbetween⟩
        have hbefore : ('(', i) ∉ ps :=
          fun hmem => Nat.lt_irrefl i (hcross _ hmem _ List.mem_cons_self)
        have hinside : ('(', i) ∉ inner := fun hmem => Nat.lt_irrefl i (hbehind _ hmem)
        rw [List.append_assoc, List.cons_append,
          List.append_cons_inj_of_notMem hbefore hinside] at heq
        obtain ⟨-, -, rfl⟩ := heq
        have hprefix : between ++ [(')', j)] <+: between ++ (')', j) :: after := ⟨after, by simp⟩
        have hnonneg := hinner.depth_nonneg hprefix
        rw [depth_append, hbetween.depth_eq_zero, depth_closing] at hnonneg
        exact absurd hnonneg (by decide)
      · -- Whatever opens later stands in `inner`, where everything has a partner.
        intro k hk hmem
        have hmem' : ('(', k) ∈ inner := by
          rcases List.mem_append.mp hmem with hps | hmem
          · have := hcross _ hps _ List.mem_cons_self
            dsimp only at this
            omega
          · rcases List.mem_cons.mp hmem with heq | hmem
            · cases heq
              omega
            · exact hmem
        obtain ⟨j, hj⟩ := hinner.exists_partner hmem'
        exact ⟨j, (hj.append_left [('(', i)]).append_left ps⟩

end Reckon.Brackets
