/-
How deep evaluation nests.

`eval` calls itself for the operands that hang off a chain and for the operand at its end, but not
for the operations inside the chain.  `nesting` counts the calls that are open at once.  Parsing
puts a chain of any length on one level, so one would expect a parsed equation to nest no deeper
when it is evaluated than it did when it was parsed.

For a chain that groups to the left that is so.  A chain that groups to the right is followed down
its right side only if its first operand is not an operation itself.  Otherwise the loop turns to
the left, into that operand, and what follows in the chain is evaluated by a call of its own, where
the same choice is made again.  Each turn costs a call, until an operand comes that is no operation:
from there on the loop keeps to the right.  `detours` counts the turns that are possible, and it
bounds by how much evaluation nests deeper than parsing.

The induction has to follow both sides of a tree at once, because the loop may come from above and
go down either side, whatever the tree would do by itself.  `Within` keeps the three bounds together.
-/
import Reckon.Eval
import Reckon.Proofs.Layout
import Reckon.Proofs.Shape.Places

namespace Reckon

namespace Expr

/-! ### Open calls -/

/-- The greatest of some numbers. -/
def greatest (ns : List Nat) : Nat := ns.foldr max 0

theorem greatest_le {ns : List Nat} {n : Nat} : greatest ns ≤ n ↔ ∀ m ∈ ns, m ≤ n := by
  induction ns with
  | nil => simp [greatest]
  | cons m rest ih => exact Nat.max_le.trans (by rw [List.forall_mem_cons, ← ih]; rfl)

/-- The most calls of `eval` that are open at once when a tree is evaluated.  It calls itself where
`eval` does. -/
def nesting (e : Expr) : Nat :=
  match e with
  | const _ | var _ => 1
  | unary _ operand => operand.nesting + 1
  | binary symbol l r =>
    let side := l.chainSide
    let chain := (binary symbol l r).links side
    max ((binary symbol l r).chainEnd side).nesting
      (greatest (chain.attach.map fun link => link.1.operand.nesting)) + 1
  | call _ args => greatest (args.attach.map fun arg => arg.1.nesting) + 1
termination_by e.size
decreasing_by
  · simp only [size]; omega
  · exact size_chainEnd_lt _ _ _ _
  · exact size_operand_lt link.2
  · exact size_arg_lt arg.2

/-- The most calls that are open at once below the loop that follows a chain down one side. -/
def nestingDown (side : Side) (e : Expr) : Nat :=
  max (e.chainEnd side).nesting (greatest ((e.links side).map fun link => link.operand.nesting))

theorem nesting_const (value : Literal) : (const value).nesting = 1 := by rw [nesting]

theorem nesting_var (name : Text) : (var name).nesting = 1 := by rw [nesting]

theorem nesting_unary (symbol : Text) (e : Expr) : (unary symbol e).nesting = e.nesting + 1 := by
  rw [nesting]

theorem nesting_call (name : Text) (args : List Expr) :
    (call name args).nesting = greatest (args.map nesting) + 1 := by
  rw [nesting, List.attach_map_val]

theorem nesting_binary (symbol : Text) (l r : Expr) :
    (binary symbol l r).nesting = (binary symbol l r).nestingDown l.chainSide + 1 := by
  have hlinks := fun chain : List Link =>
    List.attach_map_val (l := chain) (f := fun link => link.operand.nesting)
  rw [nesting, hlinks, nestingDown]

/-! ### Down one side -/

theorem nestingDown_left (symbol : Text) (l r : Expr) :
    (binary symbol l r).nestingDown .left = max (l.nestingDown .left) r.nesting := by
  show max (l.chainEnd .left).nesting (max r.nesting (greatest _)) = _
  rw [max_comm r.nesting, ← max_assoc]
  rfl

theorem nestingDown_right (symbol : Text) (l r : Expr) :
    (binary symbol l r).nestingDown .right = max l.nesting (r.nestingDown .right) := by
  show max (r.chainEnd .right).nesting (max l.nesting (greatest _)) = _
  rw [max_left_comm]
  rfl

/-- What is no operation on two operands is evaluated as one operand, from whichever side. -/
theorem nestingDown_of_not_binary {e : Expr} (h : e.isBinary = false) (side : Side) :
    e.nestingDown side = e.nesting := by
  cases e with
  | binary => cases h
  | _ => exact max_eq_left (Nat.zero_le _)

/-- The loop goes into a left operand that is an operation, and calls itself for the right one. -/
theorem nesting_of_isBinary {l : Expr} (h : l.isBinary = true) (symbol : Text) (r : Expr) :
    (binary symbol l r).nesting = max (l.nestingDown .left) r.nesting + 1 := by
  rw [nesting_binary, chainSide, if_pos h, nestingDown_left]

/-- Otherwise it calls itself for the left operand and goes on to the right. -/
theorem nesting_of_not_binary {l : Expr} (h : l.isBinary = false) (symbol : Text) (r : Expr) :
    (binary symbol l r).nesting = max l.nesting (r.nestingDown .right) + 1 := by
  rw [nesting_binary, chainSide, if_neg (by simp [h]), nestingDown_right]

/-- At most so many calls are open at once, by itself and below a loop from either side. -/
structure Within (e : Expr) (n : Nat) : Prop where
  self : e.nesting ≤ n
  left : e.nestingDown .left ≤ n
  right : e.nestingDown .right ≤ n

theorem Within.mono {e : Expr} {m n : Nat} (h : e.Within m) (hmn : m ≤ n) : e.Within n :=
  ⟨h.self.trans hmn, h.left.trans hmn, h.right.trans hmn⟩

theorem Within.of_not_binary {e : Expr} {n : Nat} (h : e.isBinary = false) (hn : e.nesting ≤ n) :
    e.Within n := by
  refine ⟨hn, ?_, ?_⟩ <;> rwa [nestingDown_of_not_binary h]

/-! ### Chains -/

/-- A chain that groups to the left adds one call.  The loop from its last operation goes down to the
first operand, so what is grouped already counts as far as the loop sees it. -/
theorem within_foldLeft {n : Nat} {links : List (Text × Expr)} : ∀ {first : Expr},
    first.nestingDown .left ≤ n → first.Within (n + 1) → (∀ x ∈ links, x.2.Within n) →
    (Shape.foldLeft first links).Within (n + 1) := by
  induction links with
  | nil => intro first _ hfirst _; exact hfirst
  | cons x rest ih =>
      obtain ⟨symbol, e⟩ := x
      intro first hleft hfirst hlinks
      have he : e.Within n := hlinks (symbol, e) List.mem_cons_self
      have hleft' : (binary symbol first e).nestingDown .left ≤ n := by
        rw [nestingDown_left]
        exact max_le hleft he.self
      refine ih hleft' ⟨?_, hleft'.trans (Nat.le_succ n), ?_⟩
        fun y hy => hlinks y (List.mem_cons_of_mem _ hy)
      · cases hbinary : first.isBinary with
        | true =>
            rw [nesting_of_isBinary hbinary, ← nestingDown_left symbol]
            exact Nat.succ_le_succ hleft'
        | false =>
            rw [nestingDown_of_not_binary hbinary] at hleft
            rw [nesting_of_not_binary hbinary]
            exact Nat.succ_le_succ (max_le hleft he.right)
      · rw [nestingDown_right]
        exact max_le hfirst.self (he.right.trans (Nat.le_succ n))

/-- How many operations on two operands stand at the front of a chain, its last two operands aside. -/
def leading : Expr → List (Text × Expr) → Nat
  | _, [] => 0
  | e, (_, f) :: rest => if e.isBinary = true ∧ rest ≠ [] then leading f rest + 1 else 0

/-- The turns that a chain to the right costs at most.  The first operand does not count if the loop
comes from above and passes it. -/
def turns : Expr → List (Text × Expr) → Nat
  | _, [] => 0
  | e, (symbol, f) :: rest => max (leading e ((symbol, f) :: rest)) (leading f rest)

/-- A chain that groups to the right adds one call, and one more for each operation at its front.  The
loop down its right side adds none. -/
theorem nesting_foldRight {n : Nat} {links : List (Text × Expr)} : ∀ {first : Expr},
    first.Within n → (∀ x ∈ links, x.2.Within n) →
    (Shape.foldRight first links).nesting ≤ n + leading first links + 1 ∧
      (Shape.foldRight first links).nestingDown .right ≤ n := by
  induction links with
  | nil => intro first hfirst _; exact ⟨hfirst.self.trans (by omega), hfirst.right⟩
  | cons x rest ih =>
      obtain ⟨symbol, e⟩ := x
      intro first hfirst hlinks
      have he : e.Within n := hlinks (symbol, e) List.mem_cons_self
      obtain ⟨htail, htailRight⟩ := ih he fun y hy => hlinks y (List.mem_cons_of_mem _ hy)
      have hright : (binary symbol first (Shape.foldRight e rest)).nestingDown .right ≤ n := by
        rw [nestingDown_right]
        exact max_le hfirst.self htailRight
      refine ⟨?_, hright⟩
      show (binary symbol first (Shape.foldRight e rest)).nesting ≤ _
      cases hbinary : first.isBinary with
      | false =>
          rw [nesting_of_not_binary hbinary, ← nestingDown_right symbol]
          omega
      | true =>
          -- The rest of the chain is the last operand, or a chain that takes a call of its own.
          have hrest : (Shape.foldRight e rest).nesting ≤ n + leading first ((symbol, e) :: rest) := by
            cases rest with
            | nil => exact he.self.trans (Nat.le_add_right n _)
            | cons y more =>
                rw [leading, if_pos ⟨hbinary, List.cons_ne_nil y more⟩, ← Nat.add_assoc]
                exact htail
          rw [nesting_of_isBinary hbinary]
          exact Nat.succ_le_succ (max_le (hfirst.left.trans (Nat.le_add_right n _)) hrest)

theorem within_foldRight {n : Nat} {links : List (Text × Expr)} {first : Expr} (hfirst : first.Within n)
    (hlinks : ∀ x ∈ links, x.2.Within n) :
    (Shape.foldRight first links).Within (n + turns first links + 1) := by
  cases links with
  | nil => exact hfirst.mono (by omega)
  | cons x rest =>
      obtain ⟨symbol, e⟩ := x
      obtain ⟨hself, hright⟩ := nesting_foldRight hfirst hlinks
      have htail : (Shape.foldRight e rest).nesting ≤ n + leading e rest + 1 :=
        (nesting_foldRight (hlinks (symbol, e) List.mem_cons_self)
          fun y hy => hlinks y (List.mem_cons_of_mem _ hy)).1
      have hfront : leading first ((symbol, e) :: rest) ≤ turns first ((symbol, e) :: rest) :=
        le_max_left _ _
      have hbehind : leading e rest ≤ turns first ((symbol, e) :: rest) := le_max_right _ _
      refine ⟨hself.trans (by omega), ?_, hright.trans (by omega)⟩
      have := hfirst.left
      show (binary symbol first (Shape.foldRight e rest)).nestingDown .left ≤ _
      rw [nestingDown_left]
      exact max_le (by omega) (by omega)

end Expr

/-! ### Parsed equations -/

namespace Layout

mutual
/-- How many more calls than levels evaluation may need: the turns of chains that group to the right,
added up where such chains lie inside one another. -/
def detours : Layout → Nat
  | number _ | name _ => 0
  | group interior => interior.detours
  | prefixed _ operand => operand.detours
  | call _ args => detoursOfArgs args
  | chain .left first rest => max first.detours (detoursOfLinks rest)
  | chain .right first rest =>
    max first.detours (detoursOfLinks rest) + Expr.turns first.tree (links rest)

/-- The most detours in an argument of a call. -/
def detoursOfArgs : List Layout → Nat
  | [] => 0
  | arg :: rest => max arg.detours (detoursOfArgs rest)

/-- The most detours in a further operand of a chain. -/
def detoursOfLinks : List (Text × Layout) → Nat
  | [] => 0
  | (_, operand) :: rest => max operand.detours (detoursOfLinks rest)
end

mutual
/-- Evaluating a layout takes no more calls than the levels that it needs and its detours. -/
theorem within : ∀ p : Layout, p.tree.Within (p.need + p.detours)
  | number value => .of_not_binary rfl (by rw [tree, Expr.nesting_const]; exact Nat.le_refl 1)
  | name text => .of_not_binary rfl (by rw [tree, Expr.nesting_var]; exact Nat.le_refl 1)
  | group interior => (within interior).mono (by simp only [need, detours]; omega)
  | prefixed _ operand => by
      have := (within operand).self
      refine .of_not_binary rfl ?_
      rw [tree, Expr.nesting_unary, need, detours]
      omega
  | call _ args => by
      refine .of_not_binary rfl ?_
      have hargs : Expr.greatest ((trees args).map Expr.nesting) ≤
          needOfArgs args + detoursOfArgs args := by
        refine Expr.greatest_le.mpr fun m hm => ?_
        obtain ⟨e, he, rfl⟩ := List.mem_map.mp hm
        exact (within_args args e he).self
      rw [tree, Expr.nesting_call, need, detours]
      omega
  | chain side first rest => by
      have hfirst : first.tree.Within (max first.need (needOfLinks rest) +
          max first.detours (detoursOfLinks rest)) := (within first).mono (by omega)
      have hrest : ∀ x ∈ links rest, x.2.Within (max first.need (needOfLinks rest) +
          max first.detours (detoursOfLinks rest)) :=
        fun x hx => (within_links rest x hx).mono (by omega)
      cases side with
      | left =>
          have := Expr.within_foldLeft hfirst.left (hfirst.mono (Nat.le_succ _)) hrest
          exact this.mono (by simp only [need, detours]; omega)
      | right =>
          exact (Expr.within_foldRight hfirst hrest).mono (by simp only [need, detours]; omega)

theorem within_args : ∀ (args : List Layout), ∀ e ∈ trees args,
    e.Within (needOfArgs args + detoursOfArgs args)
  | [], e, he => by cases he
  | arg :: rest, e, he => by
      unfold needOfArgs detoursOfArgs
      rcases List.mem_cons.mp he with rfl | he
      · exact (within arg).mono (by omega)
      · exact (within_args rest e he).mono (by omega)

theorem within_links : ∀ (rest : List (Text × Layout)), ∀ x ∈ links rest,
    x.2.Within (needOfLinks rest + detoursOfLinks rest)
  | [], x, hx => by cases hx
  | (_, operand) :: rest, x, hx => by
      unfold needOfLinks detoursOfLinks
      rcases List.mem_cons.mp hx with rfl | hx
      · exact (within operand).mono (by omega)
      · exact (within_links rest x hx).mono (by omega)
end

end Layout

/--
**Evaluating a parsed equation nests no deeper than parsing did, but for its detours.**

The tokens of an equation that is parsed have a layout, and every layout that they have shows its
tree.  At most so many calls are open at once as there were levels and the layout has detours.  In
particular the limit on the levels holds for evaluation, too, if in no chain that groups to the right
the first or the second operand is an operation on two operands, the last two operands aside.
-/
theorem nesting_le_maxDepth_add_detours {o : Options} {source : Text} {equation : Equation}
    (h : Equation.parse o source = .ok equation) :
    ∃ tokens, tokenize o source = .ok tokens ∧ (∃ p : Layout, p.Reads o source tokens) ∧
      ∀ p : Layout, p.Reads o source tokens →
        p.tree = equation.root ∧ equation.root.nesting ≤ o.maxDepth + p.detours := by
  obtain ⟨tokens, htokens, hparsed⟩ := readsAs_iff.mp ⟨equation, h, rfl⟩
  obtain ⟨-, hlevels⟩ := parseTokens_eq_ok.mp hparsed
  refine ⟨tokens, htokens, Layout.exists_of_parseLevels o.maxDepth hlevels, fun p hp => ?_⟩
  obtain ⟨htree, hneed⟩ := hp.of_parseLevels hlevels
  have hcalls := p.within.self
  rw [htree] at hcalls
  exact ⟨htree, hcalls.trans (Nat.add_le_add_right hneed _)⟩

/-- The equation `2^(1+1)^(1+1)` takes four levels.  Its chain of powers ends in two sums, which is no
detour. -/
theorem nesting_le_of_power :
    let o := { Options.standard with maxDepth := 4 }
    ∃ equation, Equation.parse o "2^(1+1)^(1+1)".toList = .ok equation ∧
      equation.root.nesting ≤ o.maxDepth := by
  intro o
  let sum : Layout := .group (.chain .left (.number (.int 1)) [(['+'], .number (.int 1))])
  let p : Layout := .chain .right (.number (.int 2)) [(['^'], sum), (['^'], sum)]
  have hparse : Equation.parse o "2^(1+1)^(1+1)".toList =
      .ok ⟨p.tree, "2^(1+1)^(1+1)".toList, o⟩ := rfl
  obtain ⟨tokens, htokens, -, hall⟩ := nesting_le_maxDepth_add_detours hparse
  have hreads : p.Reads o "2^(1+1)^(1+1)".toList tokens := by
    cases (Except.ok.inj htokens : _ = tokens)
    exact ⟨_, _, rfl, rfl, _, _, _, rfl, rfl, ⟨_, rfl, _, _, rfl, rfl, _, _, _, rfl, rfl, rfl, rfl⟩,
      _, _, _, rfl, rfl, ⟨_, rfl, _, _, rfl, rfl, _, _, _, rfl, rfl, rfl, rfl⟩, rfl⟩
  exact ⟨_, hparse, (hall p hreads).2⟩

/-! ### A tower of sums -/

/-- The sum of two ones. -/
def twoOnes : Expr := .binary ['+'] (.const (.int 1)) (.const (.int 1))

/-- Sums of two ones, each raised to the power of what follows, as in `(1+1)^(1+1)^(1+1)`, with so many
powers. -/
def tower : Nat → Expr
  | 0 => twoOnes
  | powers + 1 => .binary ['^'] twoOnes (tower powers)

/-- Every further sum costs a call, although parsing puts the whole chain on one level. -/
theorem nesting_tower (powers : Nat) : (tower powers).nesting = powers + 2 := by
  have hone : (Expr.const (.int 1)).nestingDown .left = 1 := by
    rw [Expr.nestingDown_of_not_binary rfl, Expr.nesting_const]
  have hsum : twoOnes.nestingDown .left = 1 := by
    rw [twoOnes, Expr.nestingDown_left, hone, Expr.nesting_const]
    rfl
  induction powers with
  | zero =>
      rw [tower, twoOnes, Expr.nesting_of_not_binary rfl, Expr.nestingDown_of_not_binary rfl,
        Expr.nesting_const]
      rfl
  | succ n ih =>
      rw [tower, Expr.nesting_of_isBinary rfl, hsum, ih]
      omega

/-- A chain of powers is followed to the left if its first operand is a sum.  So the rest of it nests
as deep as it is long: what is parsed with four levels needs five calls. -/
theorem not_nesting_le_tower :
    let o := { Options.standard with maxDepth := 4 }
    ∃ equation, Equation.parse o "(1+1)^(1+1)^(1+1)^(1+1)".toList = .ok equation ∧
      ¬equation.root.nesting ≤ o.maxDepth := by
  intro o
  have hparse : Equation.parse o "(1+1)^(1+1)^(1+1)^(1+1)".toList =
      .ok ⟨tower 3, "(1+1)^(1+1)^(1+1)^(1+1)".toList, o⟩ := rfl
  refine ⟨_, hparse, ?_⟩
  rw [nesting_tower]
  decide

end Reckon
