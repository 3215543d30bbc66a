/-
The operators between operands, and the cut at the weakest of them.

`markBinary` reads a run once and marks the operators that stand between two operands
outside parentheses.  What it does with a run depends on the run in front only through the
depth and through whether an operand ended there, so marking a concatenation is marking its
parts, and parentheses hide whatever they enclose.

`cut` divides a marked run at the marks of one precedence.  Each piece starts behind an
operator at depth zero, which is how a run of its own starts too.  Hence a piece carries
the same marks when it is read by itself, and since the cut is made at the weakest
precedence, what is left in the pieces binds tighter.  This is where the levels of
precedence come from.
-/
import Reckon.Proofs.Failing
import Reckon.Proofs.Shape.Groups

namespace Reckon.Shape

variable {o : Options} {source : Text}

/-- A token behind which an operator stands between two operands. -/
def endsOperand (t : Token) : Bool := t.kind == .value || t.kind == .closing

/-- Whether an operand ends where a run ends; `after` says it of an empty run. -/
def operandBehind : Bool → List Token → Bool
  | after, [] => after
  | _, t :: rest => operandBehind (endsOperand t) rest

theorem operandBehind_append (xs ys : List Token) : ∀ after,
    operandBehind after (xs ++ ys) = operandBehind (operandBehind after xs) ys := by
  induction xs with
  | nil => intro after; rfl
  | cons t rest ih => intro after; exact ih _

theorem operandBehind_concat (after : Bool) (us : List Token) (t : Token) :
    operandBehind after (us ++ [t]) = endsOperand t := by
  rw [operandBehind_append]
  rfl

/-! ### Marking token by token -/

/-- A marked run. -/
abbrev Marked := List (Token × Option Operator)

/-- A run without marks. -/
def unmarked (ts : List Token) : Marked := ts.map fun t => (t, none)

/-- The marks of a run, in order. -/
def marks (m : Marked) : List Operator := m.filterMap (·.2)

@[simp] theorem marks_unmarked (ts : List Token) : marks (unmarked ts) = [] := by
  induction ts with
  | nil => rfl
  | cons t rest ih => simp [unmarked, marks]

@[simp] theorem marks_append (m n : Marked) : marks (m ++ n) = marks m ++ marks n :=
  List.filterMap_append

@[simp] theorem marks_cons_none (t : Token) (m : Marked) : marks ((t, none) :: m) = marks m := rfl

@[simp] theorem marks_cons_some (t : Token) (op : Operator) (m : Marked) :
    marks ((t, some op) :: m) = op :: marks m := rfl

/-- Whether a token is an operator between two operands outside parentheses. -/
def isBetween (depth : Int) (after : Bool) (t : Token) : Bool :=
  t.kind == .operator && depth == 0 && after

/-- The mark that a token gets at the given depth, if it can get one. -/
inductive MarkOf (o : Options) (depth : Int) (after : Bool) (t : Token) : Option Operator → Prop
  | skip (h : isBetween depth after t = false) : MarkOf o depth after t none
  | between {op : Operator} (h : isBetween depth after t = true)
      (known : o.operator? t.text = some op) : MarkOf o depth after t (some op)

theorem operatorOf_eq_ok {t : Token} {op : Operator} :
    operatorOf o source t = .ok op ↔ o.operator? t.text = some op := by
  unfold operatorOf
  cases o.operator? t.text <;> simp [fault]

/-- The reading of one token gives the token its mark and goes on. -/
theorem markBinary_cons (depth : Int) (after : Bool) (t : Token) (rest : List Token) :
    markBinary o source depth after (t :: rest) =
      (if isBetween depth after t = true then some <$> operatorOf o source t else pure none) >>=
        fun mark => (markBinary o source (depthAfter depth t) (endsOperand t) rest).map
          ((t, mark) :: ·) := by
  have hmore : ∀ mark : Option Operator,
      (markBinary o source (depthAfter depth t) (endsOperand t) rest >>= fun more =>
        pure ((t, mark) :: more)) =
      (markBinary o source (depthAfter depth t) (endsOperand t) rest).map ((t, mark) :: ·) := by
    intro mark
    cases markBinary o source (depthAfter depth t) (endsOperand t) rest <;> rfl
  have hb : (t.kind == .operator && depth == 0 && after) = isBetween depth after t := rfl
  rw [markBinary, hb]
  split
  · exact congrArg _ (funext hmore)
  · exact congrArg _ (funext hmore)

theorem markBinary_cons_eq_ok {t : Token} {rest : List Token} {depth : Int} {after : Bool}
    {m : Marked} :
    markBinary o source depth after (t :: rest) = .ok m ↔
      ∃ mark more, m = (t, mark) :: more ∧ MarkOf o depth after t mark ∧
        markBinary o source (depthAfter depth t) (endsOperand t) rest = .ok more := by
  rw [markBinary_cons, Failing.bind_eq_ok]
  constructor
  · rintro ⟨mark, hmark, h⟩
    obtain ⟨more, hmore, rfl⟩ := Failing.map_eq_ok.mp h
    refine ⟨mark, more, rfl, ?_, hmore⟩
    by_cases hb : isBetween depth after t = true
    · rw [if_pos hb] at hmark
      obtain ⟨op, hop, rfl⟩ := Failing.functor_map_eq_ok.mp hmark
      exact .between hb (operatorOf_eq_ok.mp hop)
    · rw [if_neg hb] at hmark
      cases hmark
      exact .skip (by simpa using hb)
  · rintro ⟨mark, more, rfl, hmark, hmore⟩
    refine ⟨mark, ?_, by rw [hmore]; rfl⟩
    cases hmark with
    | skip hb => rw [if_neg (by simp [hb])]; rfl
    | between hb known => rw [if_pos hb, operatorOf_eq_ok.mpr known]; rfl

theorem map_fst_of_markBinary {ts : List Token} : ∀ {depth : Int} {after : Bool} {m : Marked},
    markBinary o source depth after ts = .ok m → m.map (·.1) = ts := by
  induction ts with
  | nil =>
      intro depth after m h
      cases h
      rfl
  | cons t rest ih =>
      intro depth after m h
      obtain ⟨mark, more, rfl, -, hrest⟩ := markBinary_cons_eq_ok.mp h
      rw [List.map_cons, ih hrest]

/-- Marking goes on behind a run with the depth and the operand that the run leaves. -/
theorem markBinary_append {xs ys : List Token} {n : Marked} :
    ∀ {depth : Int} {after : Bool} {m : Marked},
      markBinary o source depth after xs = .ok m →
      markBinary o source (xs.foldl depthAfter depth) (operandBehind after xs) ys = .ok n →
      markBinary o source depth after (xs ++ ys) = .ok (m ++ n) := by
  induction xs with
  | nil =>
      intro depth after m hm hn
      cases hm
      exact hn
  | cons t rest ih =>
      intro depth after m hm hn
      obtain ⟨mark, more, rfl, hmark, hrest⟩ := markBinary_cons_eq_ok.mp hm
      exact markBinary_cons_eq_ok.mpr ⟨mark, more ++ n, rfl, hmark, ih hrest hn⟩

theorem markBinary_skip {t : Token} {rest : List Token} {depth : Int} {after : Bool} {m : Marked}
    (hb : isBetween depth after t = false)
    (h : markBinary o source (depthAfter depth t) (endsOperand t) rest = .ok m) :
    markBinary o source depth after (t :: rest) = .ok ((t, none) :: m) :=
  markBinary_cons_eq_ok.mpr ⟨none, m, rfl, .skip hb, h⟩

/-- An operator at the front is not marked; what follows it is read as by itself. -/
theorem markBinary_operator {t : Token} {rest : List Token} {m : Marked} (hk : t.kind = .operator) :
    markBinary o source 0 false (t :: rest) = .ok m ↔
      ∃ more, m = (t, none) :: more ∧ markBinary o source 0 false rest = .ok more := by
  have hflat : depthAfter 0 t = 0 := depthAfter_flat (by simp [isFlat, hk]) 0
  have hends : endsOperand t = false := by simp [endsOperand, hk]
  rw [markBinary_cons_eq_ok, hflat, hends]
  constructor
  · rintro ⟨mark, more, rfl, hmark, hmore⟩
    cases hmark with
    | skip => exact ⟨more, rfl, hmore⟩
    | between hb => simp [isBetween] at hb
  · rintro ⟨more, rfl, hmore⟩
    exact ⟨none, more, rfl, .skip (by simp [isBetween]), hmore⟩

/-- The part of a marked run in front is marked as by itself. -/
theorem markBinary_front {ts : List Token} {m₂ : Marked} : ∀ {m₁ : Marked} {depth : Int} {after : Bool},
    markBinary o source depth after ts = .ok (m₁ ++ m₂) →
    markBinary o source depth after (m₁.map (·.1)) = .ok m₁ ∧
      markBinary o source ((m₁.map (·.1)).foldl depthAfter depth) (operandBehind after (m₁.map (·.1)))
        (m₂.map (·.1)) = .ok m₂ := by
  induction ts with
  | nil =>
      intro m₁ depth after h
      obtain ⟨rfl, rfl⟩ : m₁ = [] ∧ m₂ = [] := by
        cases m₁ <;> cases m₂ <;> cases h
        exact ⟨rfl, rfl⟩
      exact ⟨rfl, rfl⟩
  | cons t rest ih =>
      intro m₁ depth after h
      cases m₁ with
      | nil =>
          refine ⟨rfl, ?_⟩
          rw [← map_fst_of_markBinary h] at h
          exact h
      | cons x more =>
          obtain ⟨mark, tail, htail, hmark, hmore⟩ := markBinary_cons_eq_ok.mp h
          cases htail
          obtain ⟨hfront, hbehind⟩ := ih hmore
          exact ⟨markBinary_cons_eq_ok.mpr ⟨mark, more, rfl, hmark, hfront⟩, hbehind⟩

/-- The runs on both sides of a mark are marked as by themselves. -/
theorem markBinary_beside {ts : List Token} {t : Token} {op : Operator} {m₁ m₂ : Marked}
    (h : markBinary o source 0 false ts = .ok (m₁ ++ (t, some op) :: m₂)) :
    markBinary o source 0 false (m₁.map (·.1)) = .ok m₁ ∧
      markBinary o source 0 false (m₂.map (·.1)) = .ok m₂ := by
  obtain ⟨hfront, hbehind⟩ := markBinary_front h
  refine ⟨hfront, ?_⟩
  generalize (m₁.map (·.1)).foldl depthAfter 0 = depth at hbehind
  generalize operandBehind false (m₁.map (·.1)) = after at hbehind
  obtain ⟨mark, more, hmore, hmark, hrest⟩ := markBinary_cons_eq_ok.mp hbehind
  cases hmore
  cases hmark with
  | between hb =>
      obtain ⟨hk, rfl⟩ : t.kind = .operator ∧ depth = 0 := by
        simp only [isBetween, Bool.and_eq_true, beq_iff_eq] at hb
        exact hb.1
      rwa [depthAfter_flat (by simp [isFlat, hk]),
        show endsOperand t = false by simp [endsOperand, hk]] at hrest

/-- Inside parentheses nothing is marked. -/
theorem markBinary_nested {xs : List Token} {d e : Nat} (h : Nests d xs e) : ∀ after,
    markBinary o source (d + 1) after xs = .ok (unmarked xs) := by
  have inside : ∀ (d : Nat) (after : Bool) (t : Token),
      isBetween ((d : Int) + 1) after t = false := by
    intro d after t
    have : ((d : Int) + 1 == 0) = false := by simp; omega
    simp [isBetween, this]
  induction h with
  | nil => intro after; rfl
  | @opening d _ t rest kind _ ih =>
      intro after
      refine markBinary_skip (inside d after t) ?_
      rw [depthAfter_opening kind]
      exact_mod_cast ih _
  | @closing d _ t rest kind _ ih =>
      intro after
      refine markBinary_skip (inside (d + 1) after t) ?_
      rw [depthAfter_closing kind, Int.add_sub_cancel]
      exact_mod_cast ih _
  | @flat d _ t rest flat _ ih =>
      intro after
      refine markBinary_skip (inside d after t) ?_
      rw [depthAfter_flat flat]
      exact ih _

/-! ### The weakest mark -/

/-- The better of two choices for the weakest operator. -/
private def weaker (best mark : Option Operator) : Option Operator :=
  match best, mark with
  | some b, some op => if op.precedence < b.precedence then some op else some b
  | none, op => op
  | best, none => best

private theorem weakest?_eq_foldl (m : Marked) :
    weakest? m = (m.map (·.2)).foldl weaker none := by
  rw [weakest?, List.foldl_map]
  rfl

private theorem foldl_weaker_none (m : Marked) :
    (m.map (·.2)).foldl weaker none = none ↔ marks m = [] := by
  have kept : ∀ (m : Marked) (b : Operator), (m.map (·.2)).foldl weaker (some b) ≠ none := by
    intro m
    induction m with
    | nil => intro b; simp
    | cons x rest ih =>
        intro b
        obtain ⟨t, mark⟩ := x
        cases mark with
        | none => exact ih b
        | some op =>
            rw [List.map_cons, List.foldl_cons, weaker]
            split <;> exact ih _
  induction m with
  | nil => simp [marks]
  | cons x rest ih =>
      obtain ⟨t, mark⟩ := x
      cases mark with
      | none => exact ih
      | some op => exact ⟨fun h => absurd h (kept rest op), fun h => by simp at h⟩

private theorem foldl_weaker_some (m : Marked) : ∀ {b op : Operator},
    (m.map (·.2)).foldl weaker (some b) = some op →
    op ∈ b :: marks m ∧ ∀ x ∈ b :: marks m, op.precedence ≤ x.precedence := by
  induction m with
  | nil =>
      intro b op h
      cases h
      simp [marks]
  | cons x rest ih =>
      intro b op h
      obtain ⟨t, mark⟩ := x
      cases mark with
      | none => exact ih h
      | some next =>
          rw [List.map_cons, List.foldl_cons, weaker] at h
          split at h
          · rename_i hlt
            obtain ⟨hmem, hle⟩ := ih h
            have hnext := hle next (by simp)
            refine ⟨List.mem_cons_of_mem _ hmem, fun x hx => ?_⟩
            rcases List.mem_cons.mp hx with rfl | hx'
            · omega
            · exact hle x (by simpa using hx')
          · rename_i hge
            obtain ⟨hmem, hle⟩ := ih h
            have hb := hle b (by simp)
            have hmem' : op ∈ b :: marks ((t, some next) :: rest) := by
              rcases List.mem_cons.mp hmem with rfl | hrest
              · exact List.mem_cons_self
              · exact List.mem_cons_of_mem _ (List.mem_cons_of_mem _ hrest)
            refine ⟨hmem', fun x hx => ?_⟩
            simp only [marks_cons_some, List.mem_cons] at hx
            rcases hx with rfl | rfl | hx'
            · exact hb
            · omega
            · exact hle x (by simp [hx'])

theorem weakest?_eq_none {m : Marked} : weakest? m = none ↔ marks m = [] := by
  rw [weakest?_eq_foldl, foldl_weaker_none]

/-- The weakest mark is one of the marks, and no mark is weaker. -/
theorem weakest?_eq_some {m : Marked} {op : Operator} (h : weakest? m = some op) :
    op ∈ marks m ∧ ∀ x ∈ marks m, op.precedence ≤ x.precedence := by
  rw [weakest?_eq_foldl] at h
  induction m with
  | nil => simp at h
  | cons x rest ih =>
      obtain ⟨t, mark⟩ := x
      cases mark with
      | none => exact ih h
      | some b => exact foldl_weaker_some rest h

/-! ### The cut at one precedence -/

theorem cut_cons_mark {op : Operator} (t : Token) (m : Marked) :
    cut op.precedence ((t, some op) :: m) =
      ([], (t, (cut op.precedence m).1) :: (cut op.precedence m).2) := by
  simp [cut]

theorem cut_cons_keep {level : Int} {mark : Option Operator}
    (h : ∀ op, mark = some op → op.precedence ≠ level) (t : Token) (m : Marked) :
    cut level ((t, mark) :: m) = (t :: (cut level m).1, (cut level m).2) := by
  have hkeep : ((mark.map Operator.precedence) == some level) = false := by
    cases mark with
    | none => rfl
    | some op => simpa using h op rfl
  simp [cut, hkeep]

/-- A run without marks of the level stays whole, and with what follows it. -/
theorem cut_append {level : Int} {m : Marked} (h : ∀ op ∈ marks m, op.precedence ≠ level)
    (n : Marked) :
    cut level (m ++ n) = (m.map (·.1) ++ (cut level n).1, (cut level n).2) := by
  induction m with
  | nil => rfl
  | cons x rest ih =>
      obtain ⟨t, mark⟩ := x
      have hrest : ∀ op ∈ marks rest, op.precedence ≠ level := by
        intro op hop
        cases mark with
        | none => exact h op hop
        | some b => exact h op (by simp [hop])
      have hmark : ∀ op, mark = some op → op.precedence ≠ level := by
        rintro op rfl
        exact h op (by simp)
      rw [List.cons_append, cut_cons_keep hmark, ih hrest]
      rfl

/-- A mark of the level divides the cut. -/
theorem cut_append_mark {op : Operator} (m₁ m₂ : Marked) (t : Token) :
    cut op.precedence (m₁ ++ (t, some op) :: m₂) =
      ((cut op.precedence m₁).1,
        (cut op.precedence m₁).2 ++ (t, (cut op.precedence m₂).1) :: (cut op.precedence m₂).2) := by
  induction m₁ with
  | nil => exact cut_cons_mark t m₂
  | cons x rest ih =>
      obtain ⟨u, mark⟩ := x
      rw [List.cons_append]
      by_cases hlevel : ∃ b, mark = some b ∧ b.precedence = op.precedence
      · obtain ⟨b, rfl, hb⟩ := hlevel
        rw [← hb] at ih ⊢
        rw [cut_cons_mark, cut_cons_mark, ih]
        rfl
      · have hkeep : ∀ b, mark = some b → b.precedence ≠ op.precedence :=
          fun b hb hp => hlevel ⟨b, hb, hp⟩
        rw [cut_cons_keep hkeep, cut_cons_keep hkeep, ih]

theorem cut_of_forall_ne {level : Int} {m : Marked}
    (h : ∀ op ∈ marks m, op.precedence ≠ level) : cut level m = (m.map (·.1), []) := by
  have hcut := cut_append h []
  rw [List.append_nil] at hcut
  rw [hcut, cut]
  simp

/-- A mark of the level divides the run. -/
theorem cut_ne_nil {m : Marked} {op : Operator} (h : op ∈ marks m) :
    (cut op.precedence m).2 ≠ [] := by
  induction m with
  | nil => simp [marks] at h
  | cons x rest ih =>
      obtain ⟨t, mark⟩ := x
      by_cases hlevel : ∃ b, mark = some b ∧ b.precedence = op.precedence
      · obtain ⟨b, rfl, hb⟩ := hlevel
        rw [← hb, cut_cons_mark]
        simp
      · rw [cut_cons_keep fun b hb hp => hlevel ⟨b, hb, hp⟩]
        cases mark with
        | none => exact ih h
        | some b =>
            rcases List.mem_cons.mp h with rfl | hrest
            · exact absurd ⟨_, rfl, rfl⟩ hlevel
            · exact ih hrest

/-- What one piece of a cut is when it is read by itself: its marks are those that it has in the
whole run, all of them of another level. -/
def Piece (o : Options) (source : Text) (level : Int) (m : Marked) (depth : Int) (after : Bool)
    (ts : List Token) : Prop :=
  ∃ n, markBinary o source depth after ts = .ok n ∧
    ∀ op ∈ marks n, op ∈ marks m ∧ op.precedence ≠ level

theorem Piece.mono {level : Int} {m m' : Marked} {depth : Int} {after : Bool} {ts : List Token}
    (hsub : ∀ op ∈ marks m, op ∈ marks m') (h : Piece o source level m depth after ts) :
    Piece o source level m' depth after ts := by
  obtain ⟨n, hn, hmarks⟩ := h
  exact ⟨n, hn, fun op hop => ⟨hsub op (hmarks op hop).1, (hmarks op hop).2⟩⟩

/-- One more token in front of a piece, with a mark of another level or none. -/
theorem Piece.cons {level : Int} {t : Token} {mark : Option Operator} {more : Marked} {depth : Int}
    {after : Bool} {ts : List Token} (hmark : MarkOf o depth after t mark)
    (hkeep : ∀ op, mark = some op → op.precedence ≠ level)
    (h : Piece o source level more (depthAfter depth t) (endsOperand t) ts) :
    Piece o source level ((t, mark) :: more) depth after (t :: ts) := by
  obtain ⟨n, hn, hmarks⟩ := h
  refine ⟨(t, mark) :: n, markBinary_cons_eq_ok.mpr ⟨mark, n, rfl, hmark, hn⟩, ?_⟩
  intro op hop
  cases mark with
  | none => exact hmarks op hop
  | some b =>
      rcases List.mem_cons.mp hop with rfl | hop'
      · exact ⟨by simp, hkeep _ rfl⟩
      · obtain ⟨hmem, hlevel⟩ := hmarks op hop'
        exact ⟨List.mem_cons_of_mem _ hmem, hlevel⟩

/-- A token that divides the pieces of a cut. -/
def Divides (o : Options) (level : Int) (t : Token) : Prop :=
  t.kind = .operator ∧ ∃ op, o.operator? t.text = some op ∧ op.precedence = level

/-- The pieces of a cut link up to the run and are read by themselves as in the run. -/
theorem cut_pieces (level : Int) {ts : List Token} : ∀ {depth : Int} {after : Bool} {m : Marked},
    markBinary o source depth after ts = .ok m →
    ts = linked (cut level m).1 (cut level m).2 ∧
    Piece o source level m depth after (cut level m).1 ∧
    ∀ x ∈ (cut level m).2, Divides o level x.1 ∧ Piece o source level m 0 false x.2 := by
  induction ts with
  | nil =>
      intro depth after m h
      cases h
      exact ⟨rfl, ⟨[], rfl, by simp [marks]⟩, by simp [cut]⟩
  | cons t rest ih =>
      intro depth after m h
      obtain ⟨mark, more, rfl, hmark, hmore⟩ := markBinary_cons_eq_ok.mp h
      obtain ⟨hlinked, hfirst, hrest⟩ := ih hmore
      have hsub : ∀ op ∈ marks more, op ∈ marks ((t, mark) :: more) := by
        intro op hop
        cases mark <;> simp [hop]
      have hlater : ∀ x ∈ (cut level more).2,
          Divides o level x.1 ∧ Piece o source level ((t, mark) :: more) 0 false x.2 :=
        fun x hx => ⟨(hrest x hx).1, (hrest x hx).2.mono hsub⟩
      by_cases hlevel : ∃ op, mark = some op ∧ op.precedence = level
      · obtain ⟨op, rfl, rfl⟩ := hlevel
        cases hmark with
        | between hb known =>
            have hk : t.kind = .operator ∧ depth = 0 := by
              simp [isBetween] at hb
              exact hb.1
            obtain ⟨hop, rfl⟩ := hk
            have hflat : depthAfter 0 t = 0 := by simp [depthAfter, hop]
            have hends : endsOperand t = false := by simp [endsOperand, hop]
            rw [hflat, hends] at hfirst
            rw [cut_cons_mark]
            refine ⟨?_, ⟨[], rfl, by simp [marks]⟩, ?_⟩
            · rw [linked_cons, List.nil_append, ← hlinked]
            · intro x hx
              rcases List.mem_cons.mp hx with rfl | hx'
              · exact ⟨⟨hop, op, known, rfl⟩, hfirst.mono hsub⟩
              · exact hlater x hx'
      · have hkeep : ∀ op, mark = some op → op.precedence ≠ level :=
          fun op hop hp => hlevel ⟨op, hop, hp⟩
        rw [cut_cons_keep hkeep]
        refine ⟨?_, hfirst.cons hmark hkeep, hlater⟩
        rw [← cons_linked, ← hlinked]

end Reckon.Shape
