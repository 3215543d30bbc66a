/-
What rendering and reading do to a tree.

Rendered text has parentheses around every operation, and it has no negative constants: a
sign is written as a negation.  So what comes back is the tree with its negative constants
written out, `withNegations`, and how many levels reading it takes depends on the tree
alone.  An operation takes two levels, one for its parentheses and one for itself, a call
takes one, and a negative constant is an operation.
-/
import Reckon.Proofs.Literals

namespace Reckon.Expr

/-! ### Height and levels -/

mutual
/-- How deep the operations and calls of a tree nest.  A negative constant counts as one. -/
def height : Expr → Nat
  | const l => if l.isNegative then 1 else 0
  | var _ => 0
  | unary _ e => height e + 1
  | binary _ l r => max (height l) (height r) + 1
  | call _ args => heightAbove args

/-- The height of a call with the given arguments; without any it is a leaf. -/
def heightAbove : List Expr → Nat
  | [] => 0
  | e :: rest => max (height e + 1) (heightAbove rest)
end

mutual
/-- How many levels it takes to read a tree from its rendered text. -/
def readingDepth : Expr → Nat
  | const l => if l.isNegative then 3 else 1
  | var _ => 1
  | unary _ e => readingDepth e + 2
  | binary _ l r => max (readingDepth l) (readingDepth r) + 2
  | call _ args => deepestReading args + 1

/-- The most levels that one of some trees takes. -/
def deepestReading : List Expr → Nat
  | [] => 0
  | e :: rest => max (readingDepth e) (deepestReading rest)
end

mutual
theorem readingDepth_le : ∀ e : Expr, e.readingDepth ≤ 2 * e.height + 1
  | const l => by
      unfold readingDepth height
      split <;> omega
  | var _ => Nat.le_refl 1
  | unary _ e => by
      have := readingDepth_le e
      unfold readingDepth height
      omega
  | binary _ l r => by
      have := readingDepth_le l
      have := readingDepth_le r
      unfold readingDepth height
      omega
  | call _ args => by
      have := deepestReading_le args
      unfold readingDepth height
      omega

theorem deepestReading_le : ∀ args : List Expr, deepestReading args ≤ 2 * heightAbove args
  | [] => Nat.le_refl 0
  | e :: rest => by
      have := readingDepth_le e
      have := deepestReading_le rest
      unfold deepestReading heightAbove
      omega
end

/-! ### Negations in place of negative constants -/

mutual
/-- The tree with its negative constants written as negations; `size` takes the sign off. -/
def withNegations (size : Literal → Literal) : Expr → Expr
  | const l => if l.isNegative then unary ['-'] (const (size l)) else const (size l)
  | var name => var name
  | unary symbol e => unary symbol (withNegations size e)
  | binary symbol l r => binary symbol (withNegations size l) (withNegations size r)
  | call name args => call name (withNegationsAll size args)

/-- Each of some trees with its negative constants written as negations. -/
def withNegationsAll (size : Literal → Literal) : List Expr → List Expr
  | [] => []
  | e :: rest => withNegations size e :: withNegationsAll size rest
end

theorem withNegationsAll_eq_map (size : Literal → Literal) (es : List Expr) :
    withNegationsAll size es = es.map (withNegations size) := by
  induction es with
  | nil => rfl
  | cons e rest ih => rw [withNegationsAll, ih, List.map_cons]

theorem renderAll_eq_map (p : Pattern) (es : List Expr) : renderAll p es = es.map (render p) := by
  induction es with
  | nil => rfl
  | cons e rest ih => rw [renderAll, ih, List.map_cons]

/-- A tree without negative constants stays as it is. -/
theorem withNegations_eq_self {o : Options} {P : Literal → Prop} {size : Literal → Literal}
    (hsize : ∀ l, P l → l.isNegative = false ∧ size l = l) {e : Expr} (h : e.WellFormed o P) :
    e.withNegations size = e := by
  induction h with
  | const hl =>
      obtain ⟨hnegative, hself⟩ := hsize _ hl
      rw [withNegations, hnegative, hself]
      rfl
  | var => rfl
  | unary _ _ _ ih => rw [withNegations, ih]
  | binary _ _ _ ihl ihr => rw [withNegations, ihl, ihr]
  | call _ _ _ _ ih =>
      rw [withNegations, withNegationsAll_eq_map]
      exact congrArg _ ((List.map_congr_left (g := id) ih).trans (List.map_id _))

/-! ### The same numbers -/

mutual
/-- Whether two trees have the same form and names, and numbers that are equal and of one kind. -/
def alike : Expr → Expr → Bool
  | const a, const b => a.alike b
  | var m, var n => m == n
  | unary s e, unary t f => s == t && alike e f
  | binary s l r, binary t m q => s == t && alike l m && alike r q
  | call m as, call n bs => m == n && alikeAll as bs
  | _, _ => false

/-- Whether two lists of trees are alike one by one. -/
def alikeAll : List Expr → List Expr → Bool
  | [], [] => true
  | a :: as, b :: bs => alike a b && alikeAll as bs
  | _, _ => false
end

/-- Two ways to take the signs off that give the same numbers give trees that are alike. -/
theorem withNegations_alike {o : Options} {P : Literal → Prop} {f g : Literal → Literal}
    (hfg : ∀ l, P l → (f l).alike (g l) = true) {e : Expr} (h : e.WellFormed o P) :
    (e.withNegations f).alike (e.withNegations g) = true := by
  induction h with
  | @const l hl =>
      unfold withNegations
      split
      · simp [alike, hfg l hl]
      · exact hfg l hl
  | var => simp [withNegations, alike]
  | unary _ _ _ ih => simp [withNegations, alike, ih]
  | binary _ _ _ ihl ihr => simp [withNegations, alike, ihl, ihr]
  | @call _ _ args _ _ _ _ ih =>
      have hall : ∀ es : List Expr, (∀ e ∈ es, e ∈ args) →
          alikeAll (withNegationsAll f es) (withNegationsAll g es) = true := by
        intro es
        induction es with
        | nil => intro _; rfl
        | cons e rest ihes =>
            intro hsub
            simp only [withNegationsAll, alikeAll, Bool.and_eq_true]
            exact ⟨ih e (hsub e (by simp)), ihes fun x hx => hsub x (by simp [hx])⟩
      simp only [withNegations, alike, beq_self_eq_true, Bool.true_and]
      exact hall args fun e he => he

end Reckon.Expr
