/-
How parentheses nest in a run of tokens.

Three readers count parentheses, each in its own way: the search for the parenthesis that
closes the first one, the split at separators, and the search for operators.  `Nests` is
the one count that all three are compared with.  It follows a run from one depth to
another and has no rule for a parenthesis that closes what the run did not open, so a run
that nests from zero to zero has balanced parentheses.

Everything a reader does inside such a run happens at least as deep as it started.  That is
why parentheses hide separators and operators, and why the parenthesis that closes a
balanced run is found where it stands.
-/
import Reckon.Shape

namespace Reckon.Shape

/-! ### Depth -/

/-- Neither an opening nor a closing parenthesis, so that the depth stays as it is. -/
def isFlat (t : Token) : Bool := t.kind != .opening && t.kind != .closing

/-- `Nests d ts e` if `ts` leads from depth `d` to depth `e` without ever going below zero. -/
inductive Nests : Nat → List Token → Nat → Prop
  | nil (depth : Nat) : Nests depth [] depth
  | opening {depth inner : Nat} {t : Token} {rest : List Token} (kind : t.kind = .opening)
      (h : Nests (depth + 1) rest inner) : Nests depth (t :: rest) inner
  | closing {depth inner : Nat} {t : Token} {rest : List Token} (kind : t.kind = .closing)
      (h : Nests depth rest inner) : Nests (depth + 1) (t :: rest) inner
  | flat {depth inner : Nat} {t : Token} {rest : List Token} (flat : isFlat t = true)
      (h : Nests depth rest inner) : Nests depth (t :: rest) inner

/-- Balanced parentheses. -/
abbrev Balanced (ts : List Token) : Prop := Nests 0 ts 0

theorem Nests.append {xs ys : List Token} {d e f : Nat} (hx : Nests d xs e) (hy : Nests e ys f) :
    Nests d (xs ++ ys) f := by
  induction hx with
  | nil => exact hy
  | opening kind _ ih => exact .opening kind (ih hy)
  | closing kind _ ih => exact .closing kind (ih hy)
  | flat flat _ ih => exact .flat flat (ih hy)

/-- A run that nests from one depth does so as well when it begins deeper. -/
theorem Nests.deeper {ts : List Token} {d e : Nat} (h : Nests d ts e) (k : Nat) :
    Nests (d + k) ts (e + k) := by
  induction h with
  | nil depth => exact .nil _
  | opening kind _ ih => exact .opening kind (by rw [Nat.add_right_comm]; exact ih)
  | closing kind _ ih => rw [Nat.add_right_comm]; exact .closing kind ih
  | flat flat _ ih => exact .flat flat ih

/-- A balanced run between two parentheses. -/
theorem Balanced.enclosed {a b : Token} {ts : List Token} (ha : a.kind = .opening)
    (hb : b.kind = .closing) (h : Balanced ts) : Balanced (a :: (ts ++ [b])) :=
  .opening ha ((h.deeper 1).append (.closing hb (.nil 0)))

/-! ### The parenthesis that closes the first one -/

theorem closesLast_flat {t : Token} (h : isFlat t = true) (depth : Nat) (rest : List Token) :
    closesLast depth (t :: rest) = closesLast depth rest := by
  cases hk : t.kind <;> simp_all [isFlat, closesLast]

theorem closesLast_opening {t : Token} (h : t.kind = .opening) (depth : Nat) (rest : List Token) :
    closesLast depth (t :: rest) = closesLast (depth + 1) rest := by
  simp [closesLast, h]

theorem closesLast_closing {t : Token} (h : t.kind = .closing) (depth : Nat) (rest : List Token) :
    closesLast (depth + 2) (t :: rest) = closesLast (depth + 1) rest := by
  simp [closesLast, h]

/-- A run that stays open leaves the search for its end to what follows. -/
theorem closesLast_append {xs : List Token} {d e : Nat} (h : Nests d xs e) (ys : List Token) :
    closesLast (d + 1) (xs ++ ys) = closesLast (e + 1) ys := by
  induction h with
  | nil => rfl
  | opening kind _ ih => rw [← ih, List.cons_append, closesLast_opening kind]
  | closing kind _ ih => rw [← ih, List.cons_append, closesLast_closing kind]
  | flat flat _ ih => rw [← ih, List.cons_append, closesLast_flat flat]

theorem closesLast_enclosed {ts : List Token} {b : Token} (h : Balanced ts)
    (hb : b.kind = .closing) : closesLast 1 (ts ++ [b]) = true := by
  rw [closesLast_append h]
  simp [closesLast, hb]

/-- What stands before the last token is balanced if the last token closes the first one. -/
theorem exists_of_closesLast {ts : List Token} : ∀ {depth : Nat},
    closesLast (depth + 1) ts = true →
    ∃ us b, ts = us ++ [b] ∧ b.kind = .closing ∧ Nests depth us 0 := by
  induction ts with
  | nil => intro depth h; simp [closesLast] at h
  | cons t rest ih =>
      intro depth h
      by_cases hflat : isFlat t = true
      · rw [closesLast_flat hflat] at h
        obtain ⟨us, b, hts, hb, hus⟩ := ih h
        exact ⟨t :: us, b, by rw [hts, List.cons_append], hb, .flat hflat hus⟩
      · cases hk : t.kind with
        | opening =>
            rw [closesLast_opening hk] at h
            obtain ⟨us, b, hts, hb, hus⟩ := ih h
            exact ⟨t :: us, b, by rw [hts, List.cons_append], hb, .opening hk hus⟩
        | closing =>
            cases depth with
            | zero =>
                have hrest : rest = [] := by simpa [closesLast, hk] using h
                exact ⟨[], t, by rw [hrest, List.nil_append], hk, .nil 0⟩
            | succ n =>
                rw [closesLast_closing hk] at h
                obtain ⟨us, b, hts, hb, hus⟩ := ih h
                exact ⟨t :: us, b, by rw [hts, List.cons_append], hb, .closing hk hus⟩
        | _ => exact absurd (by simp [isFlat, hk]) hflat

/-! ### Depth as the other readers count it -/

theorem depthAfter_flat {t : Token} (h : isFlat t = true) (depth : Int) :
    depthAfter depth t = depth := by
  cases hk : t.kind <;> simp_all [isFlat, depthAfter]

theorem depthAfter_opening {t : Token} (h : t.kind = .opening) (depth : Int) :
    depthAfter depth t = depth + 1 := by
  simp [depthAfter, h]

theorem depthAfter_closing {t : Token} (h : t.kind = .closing) (depth : Int) :
    depthAfter depth t = depth - 1 := by
  simp [depthAfter, h]

/-- The depth behind a run, counted from any depth. -/
theorem foldl_depthAfter {ts : List Token} {d e : Nat} (h : Nests d ts e) (k : Int) :
    ts.foldl depthAfter (d + k) = e + k := by
  induction h with
  | nil => rfl
  | @opening d _ _ _ kind _ ih =>
      rw [List.foldl_cons, depthAfter_opening kind, ← ih]
      congr 1
      push_cast
      omega
  | @closing d _ _ _ kind _ ih =>
      rw [List.foldl_cons, depthAfter_closing kind, ← ih]
      congr 1
      push_cast
      omega
  | flat flat _ ih => rw [List.foldl_cons, depthAfter_flat flat, ih]

theorem Balanced.foldl_depthAfter {ts : List Token} (h : Balanced ts) (depth : Int) :
    ts.foldl depthAfter depth = depth := by
  simpa using Shape.foldl_depthAfter h depth

end Reckon.Shape
