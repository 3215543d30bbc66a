/-
What an equation reads from the storage.

The names of the variables in an equation are found by a walk over its tree, values are asked for
by evaluation.  The two go through the tree in different ways: the walk with a list of trees that
wait, evaluation with calls and with loops along chains.  They meet the same variables all the same.
Everything that evaluation calls itself for is a part of the tree, so it asks for no other name; and
if it ends with a value it has asked for all of them, since such a tree has values in all its parts.

The first half compares two worlds that agree on the variables of the tree.  The second half takes
evaluation apart call by call, and it needs that no rule fails for want of a variable.
-/
import Reckon.Outcome
import Reckon.Proofs.Worlds

namespace Reckon

/-! ### What a storage answers -/

/-- What comes of a variable depends on what the storage answers, where `nothing` is as good as no
answer. -/
theorem variableValue_congr {get₁ get₂ : Text → Option Value} {name : Text}
    (h : (get₁ name).getD .nothing = (get₂ name).getD .nothing) :
    variableValue get₁ name = variableValue get₂ name := by
  unfold variableValue answered
  generalize get₁ name = answer₁ at h ⊢
  generalize get₂ name = answer₂ at h ⊢
  cases answer₁ <;> cases answer₂ <;> cases h <;> rfl

theorem variableValue_eq_ok {get : Text → Option Value} {name : Text} {r : Quantity}
    (h : variableValue get name = .ok r) : ∃ v, get name = some v ∧ v.check = .ok r := by
  unfold variableValue answered at h
  split at h
  · cases h
  · cases h
  · rename_i v _ hv
    exact ⟨v, hv, Failing.mapError_eq_ok.mp h⟩

theorem variableValue_eq_unresolved {get : Text → Option Value} {other name : Text}
    (h : variableValue get other = .error (.unresolved name)) :
    other = name ∧ (get name).getD .nothing = .nothing := by
  unfold variableValue answered at h
  split at h
  · rename_i hnone
    cases h
    exact ⟨rfl, by rw [hnone]; rfl⟩
  · rename_i hnothing
    cases h
    exact ⟨rfl, by rw [hnothing]; rfl⟩
  · obtain ⟨failure, -, hfailure⟩ := Failing.mapError_eq_error.mp h
    cases hfailure

namespace Expr

variable {o : Options} {get get₁ get₂ : Text → Option Value}

/-! ### Nothing else is read -/

/-- The names of the variables are those that the walk comes by. -/
theorem mem_variableNames {e : Expr} {name : Text} : name ∈ e.variableNames ↔ var name ∈ e.nodes := by
  unfold variableNames Text.sorted
  rw [List.mem_mergeSort, List.mem_eraseDups, List.mem_filterMap]
  constructor
  · rintro ⟨n, hn, hname⟩
    cases n with
    | var => cases hname; exact hn
    | _ => cases hname
  · intro h
    exact ⟨_, h, rfl⟩

/-- Evaluation goes the same way if all variables of the tree come out alike. -/
theorem eval_congr (e : Expr)
    (h : ∀ name, var name ∈ e.nodes → variableValue get₁ name = variableValue get₂ name) :
    e.eval o get₁ = e.eval o get₂ := by
  have halike : Coupling.outcomes.Alike (fun _ => True) (e.evalIn o (.answering get₁))
      (e.evalIn o (.answering get₂)) := by
    refine evalIn_alike _ (fun site rule args _ => ?_) e (fun _ _ => trivial) fun name hname => ?_
    · rw [World.applyAt_answering, World.applyAt_answering]
      exact ⟨rfl, fun _ _ => trivial⟩
    · rw [World.value_answering, World.value_answering]
      exact ⟨h name hname, fun _ _ => trivial⟩
  exact halike.1

end Expr

/-! ### A variable without a value is one of the equation -/

/-- What a rule fails with is no variable without a value. -/
theorem Rule.applyAt_ne_unresolved {site : Site} {rule : Rule} {args : List Quantity} {name : Text} :
    rule.applyAt site args ≠ .error (.unresolved name) := by
  unfold applyAt
  cases rule.call args with
  | returned v =>
      intro h
      obtain ⟨failure, -, hfailure⟩ := Failing.mapError_eq_error.mp h
      cases hfailure
  | raised e => exact nofun
  | threw thrown => exact nofun

theorem Options.operatorNamed_ne_unresolved {o : Options} {symbol name : Text} :
    o.operatorNamed symbol ≠ .error (.unresolved name) := by
  unfold operatorNamed
  split <;> simp

theorem Options.functionNamed_ne_unresolved {o : Options} {function name : Text} :
    o.functionNamed function ≠ .error (.unresolved name) := by
  unfold functionNamed
  split <;> simp

namespace Expr

variable {o : Options} {get : Text → Option Value}

/-- The loop down the left side lacks a variable only if one of its operands does. -/
theorem exists_of_foldLeftward {v : Expr → Except EvalFault Quantity} {first : Quantity} {name : Text}
    {chain : List (Link × Operator)}
    (h : foldLeftward Rule.applyAt v first chain = .error (.unresolved name)) :
    ∃ x ∈ chain, v x.1.operand = .error (.unresolved name) := by
  induction chain with
  | nil => cases h
  | cons x rest ih =>
      obtain ⟨link, op⟩ := x
      rw [foldLeftward_cons] at h
      rcases Failing.bind_eq_error.mp h with hrest | ⟨a, -, h⟩
      · obtain ⟨y, hy, hfail⟩ := ih hrest
        exact ⟨y, List.mem_cons_of_mem _ hy, hfail⟩
      · rcases Failing.bind_eq_error.mp h with hoperand | ⟨b, -, h⟩
        · exact ⟨(link, op), List.mem_cons_self, hoperand⟩
        · exact absurd h Rule.applyAt_ne_unresolved

/-- The loop down the right side has all values before it begins. -/
theorem foldRightward_ne_unresolved {last : Quantity} {name : Text}
    {chain : List ((Link × Operator) × Quantity)} :
    foldRightward Rule.applyAt last chain ≠ .error (.unresolved name) := by
  induction chain with
  | nil => intro h; cases h
  | cons x rest ih =>
      obtain ⟨⟨link, op⟩, left⟩ := x
      intro h
      rw [foldRightward_cons] at h
      rcases Failing.bind_eq_error.mp h with hrest | ⟨b, -, h⟩
      · exact ih hrest
      · exact Rule.applyAt_ne_unresolved h

theorem mapM_operatorNamed_ne_unresolved {chain : List Link} {name : Text} :
    (chain.mapM fun link => o.operatorNamed link.symbol) ≠ .error (.unresolved name) := by
  intro h
  obtain ⟨link, -, hfail⟩ := Failing.exists_of_mapM_eq_error h
  exact Options.operatorNamed_ne_unresolved hfail

/-- If evaluation lacks a variable, then one in the tree. -/
theorem mem_nodes_of_unresolved {name : Text} (e : Expr) :
    e.eval o get = .error (.unresolved name) →
    var name ∈ e.nodes ∧ (get name).getD .nothing = .nothing := by
  induction e using inductionOnCalls with
  | hconst value => intro h; rw [eval_const] at h; cases h
  | hvar other =>
      intro h
      rw [eval_var] at h
      obtain ⟨rfl, hnothing⟩ := variableValue_eq_unresolved h
      exact ⟨mem_nodes_self _, hnothing⟩
  | hunary symbol operand ih =>
      intro h
      rw [eval_unary] at h
      rcases Failing.bind_eq_error.mp h with h | ⟨op, -, h⟩
      · exact absurd h Options.operatorNamed_ne_unresolved
      · split at h
        · cases h
        · rcases Failing.bind_eq_error.mp h with h | ⟨a, -, h⟩
          · obtain ⟨hmem, hnothing⟩ := ih h
            exact ⟨mem_nodes_of_child List.mem_cons_self hmem, hnothing⟩
          · exact absurd h Rule.applyAt_ne_unresolved
  | hcall function args ih =>
      intro h
      rw [eval_call] at h
      rcases Failing.bind_eq_error.mp h with h | ⟨f, -, h⟩
      · exact absurd h Options.functionNamed_ne_unresolved
      · rcases Failing.bind_eq_error.mp h with h | ⟨values, -, h⟩
        · obtain ⟨arg, harg, hfail⟩ := Failing.exists_of_mapM_eq_error h
          obtain ⟨hmem, hnothing⟩ := ih arg harg hfail
          exact ⟨mem_nodes_of_child harg hmem, hnothing⟩
        · exact absurd h Rule.applyAt_ne_unresolved
  | hbinary symbol l r ihend ihlink =>
      intro h
      have hofEnd : ∀ side, ((binary symbol l r).chainEnd side).eval o get =
          .error (.unresolved name) → var name ∈ (binary symbol l r).nodes ∧ _ := fun side hfail =>
        (ihend side hfail).imp_left (nodes_subset (mem_nodes_chain side _).1 _)
      have hofLink : ∀ side, ∀ link ∈ (binary symbol l r).links side, link.operand.eval o get =
          .error (.unresolved name) → var name ∈ (binary symbol l r).nodes ∧ _ :=
        fun side link hmem hfail =>
          (ihlink side link hmem hfail).imp_left (nodes_subset ((mem_nodes_chain side _).2 link hmem) _)
      cases hside : l.chainSide with
      | left =>
          rw [eval_binary_left hside] at h
          rcases Failing.bind_eq_error.mp h with h | ⟨operators, -, h⟩
          · exact absurd h mapM_operatorNamed_ne_unresolved
          · rcases Failing.bind_eq_error.mp h with h | ⟨first, -, h⟩
            · exact hofEnd .left h
            · obtain ⟨x, hx, hfail⟩ := exists_of_foldLeftward h
              exact hofLink .left x.1 (List.of_mem_zip hx).1 hfail
      | right =>
          rw [eval_binary_right hside] at h
          rcases Failing.bind_eq_error.mp h with h | ⟨operators, -, h⟩
          · exact absurd h mapM_operatorNamed_ne_unresolved
          · rcases Failing.bind_eq_error.mp h with h | ⟨lefts, -, h⟩
            · obtain ⟨link, hlink, hfail⟩ := Failing.exists_of_mapM_eq_error h
              exact hofLink .right link hlink hfail
            · rcases Failing.bind_eq_error.mp h with h | ⟨last, -, h⟩
              · exact hofEnd .right h
              · exact absurd h foldRightward_ne_unresolved

/-! ### Every variable is read -/

/-- If a tree has a value, every variable in it has one. -/
theorem variableValue_of_eval {e : Expr} {q : Quantity} (h : e.eval o get = .ok q) {name : Text}
    (hname : var name ∈ e.nodes) : ∃ r, variableValue get name = .ok r := by
  obtain ⟨r, hr⟩ := exists_value_of_mem_nodes h _ hname
  rw [eval_var] at hr
  exact ⟨r, hr⟩

end Expr

namespace Equation

/--
**An equation depends on its variables, on all of them, and on nothing else that is stored.**

Storages that answer alike for the variables of an equation give it the same value or the same fault,
however they differ otherwise.  If it has a value, every one of its variables has a number within the
limits.  If it fails for want of a variable, that is one of its own, and the storage has no value for it.
-/
theorem depends_on_variables (equation : Equation) :
    (∀ get₁ get₂ : Text → Option Value,
      (∀ name ∈ equation.variableNames,
        (get₁ name).getD .nothing = (get₂ name).getD .nothing) →
      equation.evaluate get₁ = equation.evaluate get₂ ∧
        equation.deliverValue get₁ = equation.deliverValue get₂) ∧
    (∀ get q, equation.evaluate get = .ok q →
      ∀ name ∈ equation.variableNames, ∃ v r, get name = some v ∧ v.check = .ok r) ∧
    ∀ get name, equation.evaluate get = .error (.eval (.unresolved name)) →
      name ∈ equation.variableNames ∧ (get name).getD .nothing = .nothing := by
  refine ⟨fun get₁ get₂ h => ?_, fun get q h name hname => ?_, fun get name h => ?_⟩
  · have heval : equation.evaluate get₁ = equation.evaluate get₂ :=
      congrArg (Except.mapError Fault.eval) <| Expr.eval_congr equation.root fun name hname =>
        variableValue_congr (h name (Expr.mem_variableNames.mpr hname))
    exact ⟨heval, congrArg equation.options.errorBehavior.deliver heval⟩
  · obtain ⟨r, hr⟩ := Expr.variableValue_of_eval (Failing.mapError_eq_ok.mp h)
      (Expr.mem_variableNames.mp hname)
    obtain ⟨v, hv, hcheck⟩ := variableValue_eq_ok hr
    exact ⟨v, r, hv, hcheck⟩
  · obtain ⟨fault, hfault, hname⟩ := Failing.mapError_eq_error.mp h
    cases hname
    obtain ⟨hmem, hnothing⟩ := Expr.mem_nodes_of_unresolved equation.root hfault
    exact ⟨Expr.mem_variableNames.mpr hmem, hnothing⟩

/-- The equation `[x]-([y]-1)-[x]`, where `x` is two: with `y` as three, whatever is stored as `z`, and
without `y`. -/
theorem depends_on_variables_difference :
    let get : Option Value → Option Value → Text → Option Value := fun y z name =>
      if name = ['x'] then some (.number (.int 2))
      else if name = ['y'] then y else if name = ['z'] then z else none
    let three : Option Value := some (.number (.int 3))
    ∃ equation, Equation.parse .standard "[x]-([y]-1)-[x]".toList = .ok equation ∧
      (∀ name, name ∈ equation.variableNames ↔ name = ['x'] ∨ name = ['y']) ∧
      (∀ z, equation.evaluate (get three z) = equation.evaluate (get three none)) ∧
      (∃ v r, get three none ['y'] = some v ∧ v.check = .ok r) ∧
      (get (some .nothing) none ['y']).getD .nothing = .nothing := by
  intro get three
  let e : Expr := .binary ['-'] (.binary ['-'] (.var ['x'])
    (.binary ['-'] (.var ['y']) (.const (.int 1)))) (.var ['x'])
  let equation : Equation := ⟨e, "[x]-([y]-1)-[x]".toList, .standard⟩
  have hread : Equation.parse .standard "[x]-([y]-1)-[x]".toList = .ok equation := rfl
  have hnames : ∀ name, name ∈ equation.variableNames ↔ name = ['x'] ∨ name = ['y'] := by
    intro name
    unfold Equation.variableNames
    rw [Expr.mem_variableNames]
    simp [equation, e, Expr.nodes_binary, Expr.nodes_eq (.var _), Expr.nodes_eq (.const _),
      Expr.children, or_comm]
  obtain ⟨hsame, hall, hown⟩ := depends_on_variables equation
  have hvalue : equation.evaluate (get three none) = .ok (.int (-2)) :=
    Failing.mapError_eq_ok.mpr (Expr.eval_eq_ok.mpr rfl)
  have hlacking : equation.evaluate (get (some .nothing) none) = .error (.eval (.unresolved ['y'])) := by
    refine Failing.mapError_eq_error.mpr ⟨_, ?_, rfl⟩
    rw [Expr.eval_eq_evalPlain _ _ _ (by decide)]
    rfl
  refine ⟨equation, hread, hnames, fun z => (hsame _ _ ?_).1, ?_, (hown _ _ hlacking).2⟩
  · intro name hname
    rcases (hnames name).mp hname with rfl | rfl <;> rfl
  · exact hall _ _ hvalue ['y'] ((hnames _).mpr (.inr rfl))

end Equation
end Reckon
