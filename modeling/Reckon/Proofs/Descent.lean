/-
Parsing comes to an end, whatever the tokens are.

The parser calls itself for the parts of the form of a run, and a part is a shorter run with something in
it.  So from any tokens it comes to finitely many runs, none of them empty, and each level that it goes down
takes a token away.  A fault arises at one of these runs: the run has a flaw, or no level is left for it,
which cannot happen while there are as many levels as tokens.
-/
import Mathlib.Logic.Relation
import Reckon.Proofs.Shape.Flaws
import Reckon.Proofs.Shape.Parts

namespace Reckon

open Shape (Flaw Part PointsInto)

variable {o : Options} {source : Text} {ts run : List Token} {e : Located ParseCause}

/-- The parser calls itself for a part of the form of a run. -/
def Calls (o : Options) (source : Text) (ts part : List Token) : Prop :=
  ∃ shape, Shape.of o source ts = .ok shape ∧ part ∈ shape.parts

/-- The parser comes to a run when it is given some tokens. -/
abbrev Visits (o : Options) (source : Text) : List Token → List Token → Prop :=
  Relation.ReflTransGen (Calls o source)

theorem Calls.part {part : List Token} (h : Calls o source ts part) : Part ts part := by
  obtain ⟨shape, hshape, hpart⟩ := h
  exact .of_shape hshape hpart

theorem Visits.inside (h : Visits o source ts run) (hne : ts ≠ []) : run ≠ [] ∧ run <:+: ts := by
  induction h with
  | refl => exact ⟨hne, List.infix_rfl⟩
  | tail _ hcall ih => exact ⟨hcall.part.ne_nil, hcall.part.inside.trans ih.2⟩

/-! ### Where a fault arises -/

/-- A fault of some tokens for which there are so many levels. -/
inductive Arises (o : Options) (source : Text) (levels : Nat) (ts : List Token) :
    Located ParseCause → Prop
  | flaw {run : List Token} {e : Located ParseCause} (hrun : Visits o source ts run)
      (h : Flaw o source run e) : Arises o source levels ts e
  /-- The tokens that no level is left for are fewer by as many as there were levels. -/
  | tooDeep {run : List Token} (hrun : Visits o source ts run)
      (hlevels : levels + run.length ≤ ts.length) :
      Arises o source levels ts ⟨.tooDeep o.maxDepth, .covering source run⟩

/-- A fault of a part is one of the run, a level further up. -/
theorem Arises.of_call {levels : Nat} {part : List Token} (h : Arises o source levels part e)
    (hcall : Calls o source ts part) : Arises o source (levels + 1) ts e := by
  cases h with
  | flaw hrun hflaw => exact .flaw (.head hcall hrun) hflaw
  | tooDeep hrun hlevels =>
      have := hcall.part.shorter
      exact .tooDeep (.head hcall hrun) (by omega)

theorem arises_of_parseLevels (levels : Nat) : ∀ {ts : List Token},
    parseLevels o source levels ts = .error e → Arises o source levels ts e := by
  induction levels with
  | zero =>
      intro ts h
      cases h
      exact .tooDeep .refl (Nat.le_of_eq (Nat.zero_add _))
  | succ levels ih =>
      intro ts h
      rcases Failing.bind_eq_error.mp h with hform | ⟨shape, hshape, h⟩
      · exact .flaw .refl (Shape.flaw_of_error hform)
      · obtain ⟨part, hpart, hfail⟩ := Failing.exists_of_mapM_eq_error (Failing.map_eq_error.mp h)
        exact (ih hfail).of_call ⟨shape, hshape, hpart⟩

theorem Arises.pointsInto {levels : Nat} (h : Arises o source levels ts e) (hne : ts ≠ []) :
    PointsInto source ts e.excerpt := by
  cases h with
  | flaw hrun hflaw =>
      obtain ⟨hrunNe, hinside⟩ := hrun.inside hne
      exact (hflaw.pointsInto hrunNe).widen hinside
  | tooDeep hrun =>
      obtain ⟨hrunNe, hinside⟩ := hrun.inside hne
      exact ⟨_, hrunNe, hinside, rfl⟩

theorem Arises.cause_ne_emptyEquation {levels : Nat} (h : Arises o source levels ts e) :
    e.cause ≠ .emptyEquation := by
  cases h with
  | flaw _ hflaw => exact hflaw.cause_ne.2
  | tooDeep => exact ParseCause.noConfusion

/-- Levels give out only before tokens do. -/
theorem Arises.lt_length {levels limit : Nat} (h : Arises o source levels ts e) (hne : ts ≠ [])
    (hcause : e.cause = .tooDeep limit) : limit = o.maxDepth ∧ levels < ts.length := by
  cases h with
  | flaw _ hflaw => exact absurd hcause (hflaw.cause_ne.1 limit)
  | tooDeep hrun hlevels =>
      have := List.length_pos_iff.mpr (hrun.inside hne).1
      cases hcause
      exact ⟨rfl, by omega⟩

theorem parseTokens_of_ne_nil (hne : ts ≠ []) :
    parseTokens o source ts = parseLevels o source o.maxDepth ts := by
  unfold parseTokens
  rw [if_neg (by simpa using hne)]

/--
**Parsing is safe and comes to an end on any tokens.**

Whatever the tokens are, as long as there are any, every run that the parser comes to has something in it,
and so has every part that it calls itself for, which is a shorter run.  The outcome is a tree, or a fault
that points at tokens that are there.  The limit on the levels can be to blame only if it is smaller than
the number of tokens.
-/
theorem parseTokens_descends (o : Options) (source : Text) {tokens : List Token}
    (hne : tokens ≠ []) :
    (∀ run, Visits o source tokens run → run ≠ [] ∧ run <:+: tokens ∧
      ∀ part, Calls o source run part → part ≠ [] ∧ part <:+: run ∧ part.length < run.length) ∧
    ((∃ root, parseTokens o source tokens = .ok root) ∨
      ∃ e, parseTokens o source tokens = .error e ∧ PointsInto source tokens e.excerpt) ∧
    ∀ e limit, parseTokens o source tokens = .error e → e.cause = .tooDeep limit →
      limit = o.maxDepth ∧ o.maxDepth < tokens.length := by
  rw [parseTokens_of_ne_nil hne]
  refine ⟨fun run hrun => ?_, ?_, fun e limit h => (arises_of_parseLevels _ h).lt_length hne⟩
  · obtain ⟨hrunNe, hinside⟩ := hrun.inside hne
    exact ⟨hrunNe, hinside, fun part hcall =>
      ⟨hcall.part.ne_nil, hcall.part.inside, hcall.part.shorter⟩⟩
  · cases h : parseLevels o source o.maxDepth tokens with
    | ok root => exact .inl ⟨root, rfl⟩
    | error e => exact .inr ⟨e, rfl, (arises_of_parseLevels _ h).pointsInto hne⟩

/-- In `(1))(2+3` the parentheses are out of balance, and yet the operator stands at depth zero.  So the
parser calls itself for what is in front of it, and finds nothing there. -/
theorem parseTokens_descends_unbalanced :
    let source : Text := "(1))(2+3".toList
    let front : List Token :=
      [⟨.opening, ['('], 0, 1⟩, ⟨.value, ['1'], 1, 2⟩, ⟨.closing, [')'], 2, 3⟩,
        ⟨.closing, [')'], 3, 4⟩, ⟨.opening, ['('], 4, 5⟩, ⟨.value, ['2'], 5, 6⟩]
    let tokens : List Token := front ++ [⟨.operator, ['+'], 6, 7⟩, ⟨.value, ['3'], 7, 8⟩]
    tokens ≠ [] ∧ Calls .standard source tokens front ∧ front ≠ [] ∧
      front.length < tokens.length ∧
      parseTokens .standard source tokens =
        .error ⟨.unreadable "(1))(2".toList, .covering source front⟩ := by
  intro source front tokens
  have hne : tokens ≠ [] := List.cons_ne_nil _ _
  have hcall : Calls .standard source tokens front := ⟨_, rfl, List.mem_cons_self⟩
  obtain ⟨hruns, -, -⟩ := parseTokens_descends .standard source hne
  obtain ⟨-, -, hparts⟩ := hruns tokens .refl
  obtain ⟨hfront, -, hshorter⟩ := hparts front hcall
  exact ⟨hne, hcall, hfront, hshorter, rfl⟩

end Reckon
