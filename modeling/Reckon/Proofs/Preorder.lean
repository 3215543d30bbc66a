/-
The walk over a tree is its pre-order.

The walk is a loop over the trees that wait to be visited, and nothing in it speaks of the tree as a
whole.  Pre-order is said by recursion: a tree, then the pre-order of each of its children, from the
first to the last.  What ties the two together holds at any moment of the loop, whatever has been
listed so far: what is listed, followed by the pre-orders of the trees that wait, is the pre-order of
the tree that the walk began with.  Every turn lists one tree, so the number of parts that are still to
come falls by one, and the loop ends when there are none.

A tree may have equal parts in several places, so that no part comes twice cannot be said of the parts.
It is said of their places.  A place is the way down from the root, child by child, and pre-order goes
through all places in the order of words in a dictionary.
-/
import Reckon.Proofs.Limits

namespace Reckon.Expr

/-! ### Pre-order by recursion -/

mutual
/-- The tree, then what is below: its operand, the left operand and then the right one, or its
arguments from first to last. -/
def preorder : Expr → List Expr
  | const value => [const value]
  | var name => [var name]
  | unary symbol operand => unary symbol operand :: preorder operand
  | binary symbol l r => binary symbol l r :: (preorder l ++ preorder r)
  | call name args => call name args :: preorderAll args

/-- The pre-orders of some trees, one behind the other. -/
def preorderAll : List Expr → List Expr
  | [] => []
  | e :: rest => preorder e ++ preorderAll rest
end

theorem preorder_eq (e : Expr) : e.preorder = e :: preorderAll e.children := by
  cases e <;> simp [preorder, preorderAll, children]

theorem preorderAll_append (es more : List Expr) :
    preorderAll (es ++ more) = preorderAll es ++ preorderAll more := by
  induction es with
  | nil => rfl
  | cons e rest ih => rw [List.cons_append, preorderAll, preorderAll, ih, List.append_assoc]

/-- Whatever trees wait, the walk lists their pre-orders. -/
theorem walk_eq_preorderAll (stack : List Expr) : walk stack = preorderAll stack := by
  induction stack using walk.induct with
  | case1 => rw [walk, preorderAll]
  | case2 e rest ih =>
      rw [walk_cons, ih, preorderAll_append, preorderAll, preorder_eq, List.cons_append]

/-! ### The loop, turn by turn -/

/-- The walk on its way: what it has listed, and the trees that wait, the next one first. -/
structure Walking where
  listed : List Expr
  stack : List Expr

/-- One turn of the loop: the next tree is listed, and its children wait before the others. -/
def Walking.turn : Walking → Walking
  | ⟨listed, []⟩ => ⟨listed, []⟩
  | ⟨listed, e :: rest⟩ => ⟨listed ++ [e], e.children ++ rest⟩

namespace Walking

/-- What is listed and what is to come make up the same pre-order before and after a turn, and each
turn leaves one part less to come. -/
theorem turn_keeps (w : Walking) :
    w.turn.listed ++ preorderAll w.turn.stack = w.listed ++ preorderAll w.stack ∧
      sizeAll w.turn.stack = sizeAll w.stack - 1 := by
  obtain ⟨listed, stack⟩ := w
  cases stack with
  | nil => exact ⟨rfl, rfl⟩
  | cons e rest =>
      have hsize := sizeAll_children e
      constructor
      · simp only [turn, preorderAll, preorderAll_append, preorder_eq e, List.append_assoc,
          List.cons_append, List.nil_append]
      · simp only [turn, sizeAll, sizeAll_append]
        omega

theorem turns_keep (w : Walking) (turns : Nat) :
    (turn^[turns] w).listed ++ preorderAll (turn^[turns] w).stack = w.listed ++ preorderAll w.stack ∧
      sizeAll (turn^[turns] w).stack = sizeAll w.stack - turns := by
  induction turns with
  | zero => exact ⟨rfl, rfl⟩
  | succ turns ih =>
      obtain ⟨hlisted, hsize⟩ := turn_keeps (turn^[turns] w)
      rw [Function.iterate_succ_apply', hlisted, hsize, ih.1, ih.2]
      exact ⟨rfl, by omega⟩

end Walking

theorem sizeAll_eq_zero {es : List Expr} : sizeAll es = 0 ↔ es = [] := by
  cases es with
  | nil => simp [sizeAll]
  | cons e rest =>
      have := sizeAll_children e
      simp [sizeAll]
      omega

/-! ### Places -/

/-- The part at a place, which is the way down to it: the number of the child at each step. -/
def at? (e : Expr) : List Nat → Option Expr
  | [] => some e
  | i :: place => e.children[i]?.bind fun c => c.at? place

/-- A part with its place, seen from one step further up. -/
def under (i : Nat) (part : List Nat × Expr) : List Nat × Expr := (i :: part.1, part.2)

mutual
/-- The parts of a tree in pre-order, each with its place. -/
def placed : Expr → List (List Nat × Expr)
  | const value => [([], const value)]
  | var name => [([], var name)]
  | unary symbol operand => ([], unary symbol operand) :: (placed operand).map (under 0)
  | binary symbol l r =>
    ([], binary symbol l r) :: ((placed l).map (under 0) ++ (placed r).map (under 1))
  | call name args => ([], call name args) :: placedFrom 0 args

/-- The parts of some trees with their places, where the trees are children that are numbered from
`i` on. -/
def placedFrom (i : Nat) : List Expr → List (List Nat × Expr)
  | [] => []
  | e :: rest => (placed e).map (under i) ++ placedFrom (i + 1) rest
end

theorem placed_eq (e : Expr) : e.placed = ([], e) :: placedFrom 0 e.children := by
  cases e <;> simp [placed, placedFrom, children]

/-- Children of a tree come before it in an induction. -/
theorem inductionOnChildren {P : Expr → Prop} (h : ∀ e, (∀ c ∈ e.children, P c) → P e) (e : Expr) :
    P e :=
  h e fun c _ => inductionOnChildren h c
termination_by e.size
decreasing_by exact size_child_lt ‹_›

theorem map_snd_placedFrom {es : List Expr} (h : ∀ e ∈ es, e.placed.map (·.2) = e.preorder)
    (i : Nat) : (placedFrom i es).map (·.2) = preorderAll es := by
  induction es generalizing i with
  | nil => rfl
  | cons e rest ih =>
      have hunder : ((·.2) ∘ under i : List Nat × Expr → Expr) = (·.2) := rfl
      rw [placedFrom, List.map_append, List.map_map, hunder, h e List.mem_cons_self,
        ih (fun d hd => h d (List.mem_cons_of_mem e hd)) (i + 1), preorderAll]

/-- Without their places they are the pre-order. -/
theorem map_snd_placed (e : Expr) : e.placed.map (·.2) = e.preorder := by
  induction e using inductionOnChildren with
  | h e ih => rw [placed_eq, preorder_eq, List.map_cons, map_snd_placedFrom ih 0]

theorem mem_placedFrom {i : Nat} {es : List Expr} {place : List Nat} {n : Expr} :
    (place, n) ∈ placedFrom i es ↔
      ∃ j rest c, place = (i + j) :: rest ∧ es[j]? = some c ∧ (rest, n) ∈ c.placed := by
  induction es generalizing i with
  | nil => simp [placedFrom]
  | cons e es ih =>
      rw [placedFrom, List.mem_append, ih, List.mem_map]
      constructor
      · rintro (⟨⟨rest, m⟩, hmem, hunder⟩ | ⟨j, rest, c, rfl, hc, hmem⟩)
        · cases hunder
          exact ⟨0, rest, e, rfl, rfl, hmem⟩
        · exact ⟨j + 1, rest, c, by rw [Nat.add_assoc, Nat.add_comm 1 j], hc, hmem⟩
      · rintro ⟨j, rest, c, rfl, hc, hmem⟩
        cases j with
        | zero =>
            cases hc
            exact .inl ⟨(rest, n), hmem, rfl⟩
        | succ j => exact .inr ⟨j, rest, c, by rw [Nat.add_assoc, Nat.add_comm 1 j], hc, hmem⟩

/-- What is listed with a place is the part that is there, and nothing is left out. -/
theorem mem_placed {e : Expr} {place : List Nat} {n : Expr} :
    (place, n) ∈ e.placed ↔ e.at? place = some n := by
  induction place generalizing e with
  | nil =>
      rw [placed_eq, List.mem_cons, mem_placedFrom, at?]
      simp [eq_comm]
  | cons i place ih =>
      rw [placed_eq, List.mem_cons, mem_placedFrom, at?, Option.bind_eq_some_iff]
      constructor
      · rintro (h | ⟨j, rest, c, hplace, hc, hmem⟩)
        · cases h
        · rw [Nat.zero_add] at hplace
          cases hplace
          exact ⟨c, hc, ih.mp hmem⟩
      · rintro ⟨c, hc, hat⟩
        exact .inr ⟨i, place, c, by rw [Nat.zero_add], hc, ih.mpr hat⟩

theorem pairwise_placedFrom {es : List Expr}
    (h : ∀ e ∈ es, e.placed.Pairwise fun x y => x.1 < y.1) (i : Nat) :
    (placedFrom i es).Pairwise fun x y => x.1 < y.1 := by
  induction es generalizing i with
  | nil => exact .nil
  | cons e rest ih =>
      rw [placedFrom, List.pairwise_append]
      refine ⟨?_, ih (fun d hd => h d (List.mem_cons_of_mem e hd)) (i + 1), ?_⟩
      · exact (h e List.mem_cons_self).map (under i) fun x y hxy =>
          List.cons_lt_cons_iff.mpr (.inr ⟨rfl, hxy⟩)
      · intro x hx y hy
        obtain ⟨x, -, rfl⟩ := List.mem_map.mp hx
        obtain ⟨place, n⟩ := y
        obtain ⟨j, place, c, rfl, -, -⟩ := mem_placedFrom.mp hy
        exact List.cons_lt_cons_iff.mpr (.inl (by omega))

/-- Their places follow one another in the order of words in a dictionary. -/
theorem pairwise_placed (e : Expr) : e.placed.Pairwise fun x y => x.1 < y.1 := by
  induction e using inductionOnChildren with
  | h e ih =>
      rw [placed_eq, List.pairwise_cons]
      refine ⟨fun part hpart => ?_, pairwise_placedFrom ih 0⟩
      obtain ⟨place, n⟩ := part
      obtain ⟨j, rest, c, rfl, -, -⟩ := mem_placedFrom.mp hpart
      exact List.nil_lt_cons _ _

/-! ### The walk -/

/--
**The walk ends, and lists the tree in pre-order.**

At every moment what is listed and the pre-orders of the trees that wait make up the pre-order of the
tree; trees wait as long as the loop has made fewer turns than the tree has parts, and when none is left
all is listed.  So every part is visited exactly once: with its place for each part that the walk lists,
the places come in strictly increasing order, and they are all the places of the tree.
-/
theorem nodes_eq_preorder (e : Expr) :
    (∀ turns : Nat,
      let w := Walking.turn^[turns] ⟨[], [e]⟩
      w.listed ++ preorderAll w.stack = e.preorder ∧ (w.stack = [] ↔ e.size ≤ turns)) ∧
    Walking.turn^[e.size] ⟨[], [e]⟩ = ⟨e.nodes, []⟩ ∧
    e.nodes = e.preorder ∧
    ∃ placed : List (List Nat × Expr), placed.map (·.2) = e.nodes ∧
      placed.Pairwise (fun x y => x.1 < y.1) ∧
      ∀ place n, (place, n) ∈ placed ↔ e.at? place = some n := by
  have hnodes : e.nodes = e.preorder := by
    rw [nodes, walk_eq_preorderAll, preorderAll, preorderAll, List.append_nil]
  have hturns : ∀ turns : Nat,
      (Walking.turn^[turns] ⟨[], [e]⟩).listed ++ preorderAll (Walking.turn^[turns] ⟨[], [e]⟩).stack =
        e.preorder ∧ ((Walking.turn^[turns] ⟨[], [e]⟩).stack = [] ↔ e.size ≤ turns) := by
    intro turns
    obtain ⟨hlisted, hsize⟩ := Walking.turns_keep ⟨[], [e]⟩ turns
    constructor
    · rw [hlisted]
      simp only [List.nil_append, preorderAll, List.append_nil]
    · rw [← sizeAll_eq_zero, hsize]
      simp only [sizeAll]
      omega
  refine ⟨hturns, ?_, hnodes, e.placed, ?_, pairwise_placed e, fun _ _ => mem_placed⟩
  · obtain ⟨hlisted, hends⟩ := hturns e.size
    generalize Walking.turn^[e.size] ⟨[], [e]⟩ = w at hlisted hends ⊢
    obtain ⟨listed, stack⟩ := w
    obtain rfl : stack = [] := hends.mpr (Nat.le_refl _)
    rw [preorderAll, List.append_nil] at hlisted
    rw [hnodes, ← hlisted]
  · rw [map_snd_placed, hnodes]

end Reckon.Expr
