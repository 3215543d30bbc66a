/-
Runs that can stand as an operand.

Whatever a parser accepts has balanced parentheses, is not divided by a separator outside
them, and ends where an operand ends.  `Run` keeps these facts together with the marks of
the run.  Every way to build a run from smaller ones preserves them, so that a proof by
induction on an equation carries one fact through all its cases.
-/
import Reckon.Proofs.Shape.Marks

namespace Reckon.Shape

variable {o : Options} {source : Text}

/-- A run of tokens that can stand as an operand, with its marks. -/
structure Run (o : Options) (source : Text) (ts : List Token) (m : Marked) : Prop where
  balanced : Balanced ts
  undivided : Undivided ts
  ends : operandBehind false ts = true
  reads : markBinary o source 0 false ts = .ok m

namespace Run

variable {ts xs ys : List Token} {m n : Marked}

theorem ne_nil (h : Run o source ts m) : ts ≠ [] := by
  rintro rfl
  exact absurd h.ends (by simp [operandBehind])

/-- Whatever stands before a run, an operand ends behind it. -/
theorem ends_any (h : Run o source ts m) (after : Bool) : operandBehind after ts = true := by
  cases ts with
  | nil => exact absurd rfl h.ne_nil
  | cons t rest => exact h.ends

theorem value {t : Token} (hk : t.kind = .value) : Run o source [t] (unmarked [t]) where
  balanced := .flat (by simp [isFlat, hk]) (.nil 0)
  undivided := Undivided.nil.cons (by simp [isFlat, hk]) (by simp [hk])
  ends := by simp [operandBehind, endsOperand, hk]
  reads := markBinary_skip (by simp [isBetween, hk]) rfl

end Run

/-- A run between parentheses carries no marks, whatever stands before it. -/
theorem markBinary_enclosed {a b : Token} {xs : List Token} (ha : a.kind = .opening)
    (hb : b.kind = .closing) (h : Balanced xs) (after : Bool) :
    markBinary o source 0 after (a :: (xs ++ [b])) = .ok (unmarked (a :: (xs ++ [b]))) := by
  refine markBinary_skip (by simp [isBetween, ha]) ?_
  have hdepth : depthAfter 0 a = ((0 : Nat) : Int) + 1 := by rw [depthAfter_opening ha]; rfl
  have hclose : markBinary o source (xs.foldl depthAfter (((0 : Nat) : Int) + 1))
      (operandBehind (endsOperand a) xs) [b] = .ok (unmarked [b]) :=
    markBinary_skip (by simp [isBetween, hb]) rfl
  rw [hdepth]
  simpa [unmarked] using markBinary_append (markBinary_nested h (endsOperand a)) hclose

namespace Run

variable {ts xs ys : List Token} {m n : Marked}

theorem enclosed {a b : Token} (ha : a.kind = .opening) (hb : b.kind = .closing)
    (h : Balanced xs) : Run o source (a :: (xs ++ [b])) (unmarked (a :: (xs ++ [b]))) where
  balanced := h.enclosed ha hb
  undivided := .enclosed ha hb h
  ends := by
    rw [← List.cons_append, operandBehind_concat]
    simp [endsOperand, hb]
  reads := markBinary_enclosed ha hb h false

/-- The name of a function before its arguments. -/
theorem called {t a b : Token} (ht : t.kind = .value) (ha : a.kind = .opening)
    (hb : b.kind = .closing) (h : Balanced xs) :
    Run o source (t :: a :: (xs ++ [b])) (unmarked (t :: a :: (xs ++ [b]))) where
  balanced := .flat (by simp [isFlat, ht]) (h.enclosed ha hb)
  undivided := (Undivided.enclosed ha hb h).cons (by simp [isFlat, ht]) (by simp [ht])
  ends := by
    have := (enclosed ha hb h : Run o source _ _).ends_any (endsOperand t)
    exact this
  reads := by
    refine markBinary_skip (by simp [isBetween, ht]) ?_
    rw [depthAfter_flat (by simp [isFlat, ht])]
    exact markBinary_enclosed ha hb h _

/-- A prefix operator is not marked, since no operand ends in front of it. -/
theorem prefixed {t : Token} (hk : t.kind = .operator) (h : Run o source ts m) :
    Run o source (t :: ts) ((t, none) :: m) where
  balanced := .flat (by simp [isFlat, hk]) h.balanced
  undivided := h.undivided.cons (by simp [isFlat, hk]) (by simp [hk])
  ends := h.ends_any (endsOperand t)
  reads := (markBinary_operator hk).mpr ⟨m, rfl, h.reads⟩

/-- An operator between two runs is marked. -/
theorem linked {t : Token} {op : Operator} (hk : t.kind = .operator)
    (known : o.operator? t.text = some op) (hx : Run o source xs m) (hy : Run o source ys n) :
    Run o source (xs ++ t :: ys) (m ++ (t, some op) :: n) where
  balanced := hx.balanced.append (.flat (by simp [isFlat, hk]) hy.balanced)
  undivided := hx.undivided.append (hy.undivided.cons (by simp [isFlat, hk]) (by simp [hk]))
  ends := by
    rw [operandBehind_append]
    exact hy.ends_any _
  reads := by
    refine markBinary_append hx.reads ?_
    rw [hx.balanced.foldl_depthAfter, hx.ends]
    refine markBinary_cons_eq_ok.mpr ⟨some op, n, rfl, .between (by simp [isBetween, hk]) known, ?_⟩
    rw [depthAfter_flat (by simp [isFlat, hk]), show endsOperand t = false by simp [endsOperand, hk]]
    exact hy.reads

end Run

/-! ### Linked runs -/

/-- Runs with operators between them make a run. -/
theorem exists_run_chain {first : List Token} {rest : List (Token × List Token)}
    (hfirst : ∃ m, Run o source first m)
    (hrest : ∀ x ∈ rest, (x.1.kind = .operator ∧ ∃ op, o.operator? x.1.text = some op) ∧
      ∃ m, Run o source x.2 m) : ∃ m, Run o source (linked first rest) m := by
  induction rest generalizing first with
  | nil => rwa [linked_nil]
  | cons x rest ih =>
      obtain ⟨t, ts⟩ := x
      obtain ⟨m, hm⟩ := hfirst
      obtain ⟨⟨hk, op, known⟩, hts⟩ := hrest (t, ts) List.mem_cons_self
      obtain ⟨n, hn⟩ := ih hts fun y hy => hrest y (List.mem_cons_of_mem _ hy)
      rw [linked_cons]
      exact ⟨_, hm.linked hk known hn⟩

/-- A run whose operators all bind tighter than a level. -/
def Tighter (o : Options) (source : Text) (level : Int) (ts : List Token) : Prop :=
  ∃ m, Run o source ts m ∧ ∀ op ∈ marks m, level < op.precedence

/-- Tighter runs with operators of one level between them make a run, and the cut at that level
finds them again. -/
theorem exists_run_linked {level : Int} {first : List Token} {rest : List (Token × List Token)}
    (hfirst : Tighter o source level first)
    (hrest : ∀ x ∈ rest, Divides o level x.1 ∧ Tighter o source level x.2) :
    ∃ m, Run o source (linked first rest) m ∧ (∀ op ∈ marks m, level ≤ op.precedence) ∧
      (rest ≠ [] → ∃ op ∈ marks m, op.precedence = level) ∧ cut level m = (first, rest) := by
  induction rest generalizing first with
  | nil =>
      obtain ⟨m, hrun, hm⟩ := hfirst
      refine ⟨m, by rwa [linked_nil], fun op hop => Int.le_of_lt (hm op hop), fun h => absurd rfl h, ?_⟩
      rw [cut_of_forall_ne fun op hop => Int.ne_of_gt (hm op hop), map_fst_of_markBinary hrun.reads]
  | cons x rest ih =>
      obtain ⟨t, ts⟩ := x
      obtain ⟨m, hrun, hm⟩ := hfirst
      obtain ⟨⟨hk, op, known, hop⟩, hts⟩ := hrest (t, ts) (by simp)
      obtain ⟨n, hn, hle, -, hcut⟩ := ih hts fun y hy => hrest y (by simp [hy])
      refine ⟨m ++ (t, some op) :: n, by rw [linked_cons]; exact hrun.linked hk known hn, ?_, ?_, ?_⟩
      · intro b hb
        rw [marks_append, marks_cons_some, List.mem_append, List.mem_cons] at hb
        rcases hb with hb | rfl | hb
        · exact Int.le_of_lt (hm b hb)
        · exact Int.le_of_eq hop.symm
        · exact hle b hb
      · intro _
        exact ⟨op, by simp, hop⟩
      · rw [cut_append fun b hb => Int.ne_of_gt (hm b hb), map_fst_of_markBinary hrun.reads, ← hop,
          cut_cons_mark, hop, hcut, List.append_nil]

/-- Separated runs together are balanced. -/
theorem balanced_linked {first : List Token} {rest : List (Token × List Token)}
    (hsep : ∀ x ∈ rest, x.1.kind = .separator)
    (hbal : ∀ ts ∈ first :: rest.map (·.2), Balanced ts) : Balanced (linked first rest) := by
  induction rest generalizing first with
  | nil =>
      rw [linked_nil]
      exact hbal first (by simp)
  | cons x rest ih =>
      obtain ⟨t, ts⟩ := x
      have hk : t.kind = .separator := hsep (t, ts) (by simp)
      rw [linked_cons]
      refine (hbal first (by simp)).append (.flat (by simp [isFlat, hk]) (ih ?_ ?_))
      · exact fun y hy => hsep y (by simp [hy])
      · exact fun us hus => hbal us (by simp_all)

end Reckon.Shape
