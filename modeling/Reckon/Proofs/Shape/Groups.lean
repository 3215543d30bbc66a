/-
Runs that separators or operators divide.

`linked` writes a divided run: a first piece, then every further piece behind the token that
divides it from the one before.  Arguments are linked by separators and the operands of a
chain by operators, so both splits are stated by the same function.

`splitGroups` cuts at the separators outside parentheses.  Whatever it returns links up to
the run it was given, and it returns exactly the pieces when none of them holds a separator
of its own outside parentheses, which is what `Undivided` says.
-/
import Mathlib.Logic.Basic
import Reckon.Proofs.Shape.Nesting

namespace Reckon.Shape

/-- A first run, and further ones that each follow a token of their own. -/
def linked (first : List Token) (rest : List (Token × List Token)) : List Token :=
  first ++ rest.flatMap fun (t, ts) => t :: ts

@[simp] theorem linked_nil (first : List Token) : linked first [] = first := by
  simp [linked]

@[simp] theorem linked_cons (first ts : List Token) (t : Token) (rest : List (Token × List Token)) :
    linked first ((t, ts) :: rest) = first ++ t :: linked ts rest := by
  simp [linked]

theorem cons_linked (t : Token) (first : List Token) (rest : List (Token × List Token)) :
    t :: linked first rest = linked (t :: first) rest := rfl

/-- A piece stands in the whole. -/
theorem infix_linked {first ts : List Token} {rest : List (Token × List Token)}
    (h : ts ∈ first :: rest.map (·.2)) : ts <:+: linked first rest := by
  induction rest generalizing first with
  | nil =>
      rw [List.map_nil, List.mem_singleton] at h
      rw [linked_nil]
      exact h ▸ List.infix_rfl
  | cons x rest ih =>
      obtain ⟨t, us⟩ := x
      rw [linked_cons]
      rcases List.mem_cons.mp h with rfl | hrest
      · exact (List.prefix_append ts _).isInfix
      · have hbehind : t :: linked us rest <:+ first ++ t :: linked us rest := List.suffix_append _ _
        exact (List.infix_cons (ih hrest)).trans hbehind.isInfix

theorem length_le_linked {first ts : List Token} {rest : List (Token × List Token)}
    (h : ts ∈ first :: rest.map (·.2)) : ts.length ≤ (linked first rest).length :=
  (infix_linked h).length_le

/-- Every piece is shorter than the whole if there are at least two. -/
theorem length_lt_linked {first ts : List Token} {rest : List (Token × List Token)}
    (hne : rest ≠ []) (h : ts ∈ first :: rest.map (·.2)) :
    ts.length < (linked first rest).length := by
  cases rest with
  | nil => exact absurd rfl hne
  | cons x rest =>
      obtain ⟨t, us⟩ := x
      rw [linked_cons, List.length_append, List.length_cons]
      rcases List.mem_cons.mp h with rfl | hrest
      · omega
      · have : _ ≤ (linked us rest).length := length_le_linked hrest
        omega

/-! ### The split at separators -/

theorem splitGroups_keep {t : Token} {depth : Int} (h : t.kind ≠ .separator ∨ depth ≠ 0)
    (rest : List Token) :
    splitGroups depth (t :: rest) =
      (t :: (splitGroups (depthAfter depth t) rest).1,
        (splitGroups (depthAfter depth t) rest).2) := by
  have hcond : (t.kind == .separator && depth == 0) = false := by
    rcases h with h | h <;> simp [h]
  simp [splitGroups, hcond]

theorem splitGroups_separator {t : Token} (h : t.kind = .separator) (rest : List Token) :
    splitGroups 0 (t :: rest) = ([], (splitGroups 0 rest).1 :: (splitGroups 0 rest).2) := by
  simp [splitGroups, h, depthAfter]

/-- The pieces link up to the run, whatever the run is. -/
theorem exists_linked_splitGroups (ts : List Token) : ∀ depth : Int,
    ∃ rest : List (Token × List Token), ts = linked (splitGroups depth ts).1 rest ∧
      (splitGroups depth ts).2 = rest.map (·.2) ∧ ∀ x ∈ rest, x.1.kind = .separator := by
  induction ts with
  | nil => intro depth; exact ⟨[], rfl, rfl, by simp⟩
  | cons t tail ih =>
      intro depth
      by_cases h : t.kind = .separator ∧ depth = 0
      · obtain ⟨hk, rfl⟩ := h
        obtain ⟨rest, hts, hmore, hsep⟩ := ih 0
        refine ⟨(t, (splitGroups 0 tail).1) :: rest, ?_, ?_, ?_⟩
        · rw [splitGroups_separator hk, linked_cons, List.nil_append, ← hts]
        · rw [splitGroups_separator hk, List.map_cons, hmore]
        · intro x hx
          rcases List.mem_cons.mp hx with rfl | hx'
          · exact hk
          · exact hsep x hx'
      · obtain ⟨rest, hts, hmore, hsep⟩ := ih (depthAfter depth t)
        have hkeep := splitGroups_keep (not_and_or.mp h) tail
        refine ⟨rest, ?_, ?_, hsep⟩
        · rw [hkeep, ← cons_linked, ← hts]
        · rw [hkeep, hmore]

/-! ### Runs that are not divided -/

/-- Without separators outside parentheses: the run stays together, and with what follows it. -/
def Undivided (ts : List Token) : Prop :=
  ∀ rest, splitGroups 0 (ts ++ rest) = (ts ++ (splitGroups 0 rest).1, (splitGroups 0 rest).2)

theorem Undivided.nil : Undivided [] := fun _ => rfl

theorem Undivided.append {xs ys : List Token} (hx : Undivided xs) (hy : Undivided ys) :
    Undivided (xs ++ ys) := by
  intro rest
  rw [List.append_assoc, hx, hy, List.append_assoc]

theorem Undivided.cons {t : Token} {ts : List Token} (hflat : isFlat t = true)
    (hk : t.kind ≠ .separator) (h : Undivided ts) : Undivided (t :: ts) := by
  intro rest
  rw [List.cons_append, splitGroups_keep (.inl hk), depthAfter_flat hflat, h]
  rfl

/-- Inside parentheses nothing is split. -/
theorem splitGroups_nested {xs : List Token} {d e : Nat} (h : Nests d xs e) (rest : List Token) :
    splitGroups (d + 1) (xs ++ rest) =
      (xs ++ (splitGroups (e + 1) rest).1, (splitGroups (e + 1) rest).2) := by
  induction h with
  | nil => rfl
  | @opening d _ t _ kind _ ih =>
      have hdepth : depthAfter ((d : Int) + 1) t = ((d + 1 : Nat) : Int) + 1 := by
        rw [depthAfter_opening kind]; push_cast; rfl
      rw [List.cons_append, splitGroups_keep (.inr (by omega)), hdepth, ih]
      rfl
  | @closing d _ t _ kind _ ih =>
      have hdepth : depthAfter (((d + 1 : Nat) : Int) + 1) t = (d : Int) + 1 := by
        rw [depthAfter_closing kind]; push_cast; omega
      rw [List.cons_append, splitGroups_keep (.inr (by omega)), hdepth, ih]
      rfl
  | @flat d _ t _ flat _ ih =>
      rw [List.cons_append, splitGroups_keep (.inr (by omega)), depthAfter_flat flat, ih]
      rfl

theorem Undivided.enclosed {a b : Token} {ts : List Token} (ha : a.kind = .opening)
    (hb : b.kind = .closing) (h : Balanced ts) : Undivided (a :: (ts ++ [b])) := by
  intro rest
  have hdepth : depthAfter 0 a = ((0 : Nat) : Int) + 1 := by rw [depthAfter_opening ha]; rfl
  rw [List.cons_append, splitGroups_keep (.inl (by simp [ha])), hdepth, List.append_assoc,
    splitGroups_nested h, List.singleton_append, splitGroups_keep (.inl (by simp [hb])),
    depthAfter_closing hb]
  simp

/-- Undivided pieces are what the split finds. -/
theorem splitGroups_linked {first : List Token} {rest : List (Token × List Token)}
    (hund : ∀ ts ∈ first :: rest.map (·.2), Undivided ts)
    (hsep : ∀ x ∈ rest, x.1.kind = .separator) :
    splitGroups 0 (linked first rest) = (first, rest.map (·.2)) := by
  induction rest generalizing first with
  | nil =>
      have h := hund first (by simp) []
      rw [List.append_nil] at h
      rw [linked_nil, h]
      simp [splitGroups]
  | cons x rest ih =>
      obtain ⟨t, ts⟩ := x
      have hts : splitGroups 0 (linked ts rest) = (ts, rest.map (·.2)) :=
        ih (fun us hus => hund us (by simp_all)) (fun y hy => hsep y (by simp [hy]))
      rw [linked_cons, hund first (by simp), splitGroups_separator (hsep (t, ts) (by simp)), hts]
      simp

theorem arguments_linked {first : List Token} {rest : List (Token × List Token)}
    (hne : first ≠ []) (hund : ∀ ts ∈ first :: rest.map (·.2), Undivided ts)
    (hsep : ∀ x ∈ rest, x.1.kind = .separator) :
    arguments (linked first rest) = first :: rest.map (·.2) := by
  have hlinked : (linked first rest).isEmpty = false := by
    cases first with
    | nil => exact absurd rfl hne
    | cons t ts => rfl
  rw [arguments, hlinked, splitGroups_linked hund hsep]
  rfl

end Reckon.Shape
