/-
A tree in place of a variable.

Instead of storing a value under a name one can put a tree that has this value wherever the name is
used.  Evaluation does not go the same way in both cases.  A variable is no operation, but what comes
in its place may be one, and then another side of a chain is followed, and operations belong to one
chain that belonged to two.  Plain recursion knows nothing of chains: it meets the tree where it met the
variable, and everything around is as before.

A stored value is checked when it is looked up, the value of a tree is not.  It need not be, since it is
within the limits already.
-/
import Reckon.Proofs.Store.Entries
import Reckon.Proofs.Variables

namespace Reckon

namespace Expr

/-! ### Replacing -/

mutual
/-- The tree with `s` in place of every variable of the name. -/
def replace (t : Expr) (name : Text) (s : Expr) : Expr :=
  match t with
  | const value => const value
  | var other => if other = name then s else var other
  | unary symbol operand => unary symbol (operand.replace name s)
  | binary symbol l r => binary symbol (l.replace name s) (r.replace name s)
  | call function args => call function (replaceAll args name s)

/-- Each of some trees with `s` in place of every variable of the name. -/
def replaceAll (ts : List Expr) (name : Text) (s : Expr) : List Expr :=
  match ts with
  | [] => []
  | t :: rest => t.replace name s :: replaceAll rest name s
end

variable {o : Options} {get : Text → Option Value} {name : Text} {s : Expr} {v : Quantity}

mutual
/-- Whatever operators there are come from one of the two trees. -/
theorem knowsBinaries_replace (hs : s.knowsBinaries o = true) : ∀ {t : Expr},
    t.knowsBinaries o = true → (t.replace name s).knowsBinaries o = true
  | const _, _ => by rw [replace, knowsBinaries]
  | var other, _ => by
      rw [replace]
      split
      · exact hs
      · rw [knowsBinaries]
  | unary _ operand, h => by
      rw [knowsBinaries] at h
      rw [replace, knowsBinaries]
      exact knowsBinaries_replace hs h
  | binary _ l r, h => by
      rw [knowsBinaries, Bool.and_eq_true, Bool.and_eq_true] at h
      obtain ⟨⟨hsymbol, hl⟩, hr⟩ := h
      rw [replace, knowsBinaries, hsymbol, knowsBinaries_replace hs hl, knowsBinaries_replace hs hr]
      rfl
  | call _ args, h => by
      rw [knowsBinaries] at h
      rw [replace, knowsBinaries]
      exact knowsAllBinaries_replaceAll hs h

theorem knowsAllBinaries_replaceAll (hs : s.knowsBinaries o = true) : ∀ {ts : List Expr},
    knowsAllBinaries o ts = true → knowsAllBinaries o (replaceAll ts name s) = true
  | [], _ => by rw [replaceAll, knowsAllBinaries]
  | t :: rest, h => by
      rw [knowsAllBinaries, Bool.and_eq_true] at h
      rw [replaceAll, knowsAllBinaries, knowsBinaries_replace hs h.1,
        knowsAllBinaries_replaceAll hs h.2]
      rfl
end

/-! ### The value in place of the tree -/

/-- A stored number within the limits comes out as it was put in. -/
theorem variableValue_update (hbounded : v.isBounded = true) :
    variableValue (Function.update get name (some (.number v))) name = .ok v := by
  have hcheck : (Value.number v).check = .ok v := Quantity.check_eq_ok.mpr ⟨rfl, hbounded⟩
  rw [variableValue, Function.update_self]
  show (Value.number v).check.mapError _ = _
  rw [hcheck]
  rfl

mutual
theorem evalPlain_replace (hs : s.evalPlain o get = .ok v) (hbounded : v.isBounded = true) :
    ∀ t : Expr, (t.replace name s).evalPlain o get =
      t.evalPlain o (Function.update get name (some (.number v)))
  | const _ => by rw [replace, evalPlain_const, evalPlain_const]
  | var other => by
      by_cases hother : other = name
      · subst hother
        rw [replace, if_pos rfl, evalPlain_var, hs, variableValue_update hbounded]
      · rw [replace, if_neg hother, evalPlain_var, evalPlain_var]
        refine variableValue_congr ?_
        rw [Function.update_of_ne hother]
  | unary symbol operand => by
      rw [replace, evalPlain_unary, evalPlain_unary, evalPlain_replace hs hbounded operand]
  | binary symbol l r => by
      rw [replace, evalPlain_binary, evalPlain_binary, evalPlain_replace hs hbounded l,
        evalPlain_replace hs hbounded r]
  | call function args => by
      rw [replace, evalPlain_call, evalPlain_call, mapM_replaceAll hs hbounded args]

theorem mapM_replaceAll (hs : s.evalPlain o get = .ok v) (hbounded : v.isBounded = true) :
    ∀ ts : List Expr, (replaceAll ts name s).mapM (evalPlain o get) =
      ts.mapM (evalPlain o (Function.update get name (some (.number v))))
  | [] => by rw [replaceAll, List.mapM_nil, List.mapM_nil]
  | t :: rest => by
      rw [replaceAll, List.mapM_cons, List.mapM_cons, evalPlain_replace hs hbounded t,
        mapM_replaceAll hs hbounded rest]
end

/--
**Putting a tree in place of a variable is the same as storing its value.**

If `s` has a value, then a tree with `s` in place of a variable comes out as the tree itself does where
that value is stored under the name: with the same value, or with the same fault.  This is so whatever
answers for the other names, and in particular for a store that the value is put into.
-/
theorem eval_replace (hconst : ∀ l, const l ∈ s.nodes → l.isBounded = true) {t : Expr}
    (ht : t.knowsBinaries o = true) (hv : s.eval o get = .ok v) :
    (t.replace name s).eval o get = t.eval o (Function.update get name (some (.number v))) ∧
      ∀ store : Store, store.get? = get →
        (t.replace name s).eval o get = t.eval o (store.insert name (.number v)).get? := by
  have hplain : s.evalPlain o get = .ok v := eval_eq_ok.mp hv
  have hbounded : v.isBounded = true := isBounded_of_eval hconst hv
  have hs : s.knowsBinaries o = true := knowsBinaries_of_evalPlain s hplain
  have hsame : (t.replace name s).eval o get =
      t.eval o (Function.update get name (some (.number v))) := by
    rw [eval_eq_evalPlain o _ _ (knowsBinaries_replace hs ht), eval_eq_evalPlain o _ _ ht]
    exact evalPlain_replace hplain hbounded t
  refine ⟨hsame, ?_⟩
  rintro store rfl
  rw [Store.get?_insert]
  exact hsame

/-- The tree `[x]/(6-[x])` with `9-[y]` in place of `x`, where `y` is three.  A chain down the right side
becomes one down the left side, and both fail in the same way. -/
theorem eval_replace_quotient :
    let get : Text → Option Value := fun name => if name = ['y'] then some (.number (.int 3)) else none
    let s := binary ['-'] (const (.int 9)) (var ['y'])
    let t := binary ['/'] (var ['x']) (binary ['-'] (const (.int 6)) (var ['x']))
    s.eval .standard get = .ok (.int 6) ∧ (var ['x']).chainSide = .right ∧ s.chainSide = .left ∧
      (t.replace ['x'] s).eval .standard get =
        .error (.failed (.operator ['/']) .divisionByZero) := by
  intro get s t
  have hvalue : s.eval .standard get = .ok (.int 6) := eval_eq_ok.mpr rfl
  have hconst : ∀ l, const l ∈ s.nodes → l.isBounded = true := by
    intro l hl
    simp [s, nodes_binary, nodes_eq (const _), nodes_eq (var _), children] at hl
    subst hl
    rfl
  have hfails : t.eval .standard (Function.update get ['x'] (some (.number (.int 6)))) =
      .error (.failed (.operator ['/']) .divisionByZero) := by
    rw [eval_eq_evalPlain _ _ _ (by decide)]
    rfl
  exact ⟨hvalue, rfl, rfl, (eval_replace hconst (by decide) hvalue).1.trans hfails⟩

end Expr
end Reckon
