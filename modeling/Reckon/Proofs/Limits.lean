/-
No value grows beyond the limits.

Whatever computes a number hands it through one check at the end: a stored value when it is
looked up, the result of a rule when the rule has been applied.  Constants are not checked
again, so they have to be within the limits from the start; reading sees to that.  Hence the
value of every part of a tree is within the limits, provided that every part has a value at
all.

That it has one is the rest of the argument.  If a tree has a value, evaluation has not
skipped anything: not a left operand that is computed long before its operator is applied, not
an argument, and no operation inside a chain.  For the loop over chains this goes by way of
plain recursion, and here no operator has to be known beforehand, since a loop that ends with
a value has looked up all of them.
-/
import Reckon.Proofs.Evaluation
import Reckon.Proofs.Literals

namespace Reckon

/-! ### The limits -/

/-- Within the limits: a whole number, or both parts of a ratio, of at most `maxBits` binary digits,
or a double that is finite. -/
def Quantity.isBounded : Quantity → Bool
  | int n => decide (bitLength n.natAbs ≤ maxBits)
  | float x => x.isFinite
  | ratio r => decide (bitLength r.num.natAbs ≤ maxBits) && decide (bitLength r.den ≤ maxBits)

theorem Quantity.check_eq_ok {q r : Quantity} : q.check = .ok r ↔ r = q ∧ q.isBounded = true := by
  cases q with
  | int n =>
      simp only [check, isBounded, decide_eq_true_eq]
      split
      · rename_i hbits
        simp [hbits, eq_comm]
      · rename_i hbits
        simp [hbits]
  | float x =>
      simp only [check, isBounded]
      split
      · rename_i hfinite
        simp [hfinite, eq_comm]
      · rename_i hfinite
        simp [hfinite]
  | ratio r =>
      simp only [check, isBounded, Bool.and_eq_true, decide_eq_true_eq]
      split
      · rename_i hbits
        simp [hbits, eq_comm]
      · rename_i hbits
        simp [hbits]

theorem Value.check_eq_ok {v : Value} {q : Quantity} :
    v.check = .ok q ↔ v = .number q ∧ q.isBounded = true := by
  cases v with
  | number p =>
      rw [check, Quantity.check_eq_ok, number.injEq, eq_comm]
      constructor <;> (rintro ⟨rfl, h⟩; exact ⟨rfl, h⟩)
  | _ => exact ⟨nofun, nofun⟩

/-- A value that a rule returned is settled as the number that it is or counts as, within the limits. -/
theorem Value.settle_eq_ok {v : Value} {q : Quantity} :
    v.settle = .ok q ↔ v.whole = .number q ∧ q.isBounded = true := by
  cases v with
  | complex re im => exact ⟨nofun, nofun⟩
  | _ => rw [settle, check_eq_ok]; nofun

/-- A stored value that is good for a number is that number, within the limits. -/
theorem answered_eq_ok {name : Text} {answer : Option Value} {q : Quantity} :
    answered name answer = .ok q ↔ answer = some (.number q) ∧ q.isBounded = true := by
  cases answer with
  | none => exact ⟨nofun, nofun⟩
  | some v =>
      rw [Option.some.injEq, ← Value.check_eq_ok]
      cases v with
      | nothing => exact ⟨nofun, nofun⟩
      | _ => rw [answered, Failing.mapError_eq_ok]; nofun

/-- What a rule is good for: it returned a number, or what counts as a whole one, within the limits. -/
theorem Rule.applyAt_eq_ok {site : Site} {rule : Rule} {args : List Quantity} {q : Quantity} :
    rule.applyAt site args = .ok q ↔
      ∃ v, rule.call args = .returned v ∧ v.whole = .number q ∧ q.isBounded = true := by
  unfold applyAt
  cases rule.call args with
  | returned v => simp [Response.settleAt, Failing.mapError_eq_ok, Value.settle_eq_ok]
  | raised e => simp [Response.settleAt]
  | threw thrown => simp [Response.settleAt]

namespace Expr

variable {o : Options} {get : Text → Option Value}

/-! ### The parts of a tree -/

theorem walk_cons (e : Expr) (rest : List Expr) : walk (e :: rest) = e :: walk (e.children ++ rest) := by
  rw [walk]

/-- What holds of the trees that wait to be visited and passes to the children of a tree holds of all
parts that are visited. -/
theorem forall_mem_walk {P : Expr → Prop} (hchild : ∀ e, P e → ∀ c ∈ e.children, P c)
    {stack : List Expr} : (∀ e ∈ stack, P e) → ∀ n ∈ walk stack, P n := by
  induction stack using walk.induct with
  | case1 =>
      intro _ n hn
      rw [walk] at hn
      cases hn
  | case2 e rest ih =>
      intro hstack n hn
      rw [walk_cons] at hn
      have he : P e := hstack e List.mem_cons_self
      rcases List.mem_cons.mp hn with rfl | hn
      · exact he
      · refine ih (fun c hc => ?_) n hn
        rcases List.mem_append.mp hc with hc | hc
        · exact hchild e he c hc
        · exact hstack c (List.mem_cons_of_mem e hc)

theorem forall_mem_nodes {P : Expr → Prop} (hchild : ∀ e, P e → ∀ c ∈ e.children, P c) {e : Expr}
    (he : P e) : ∀ n ∈ e.nodes, P n :=
  forall_mem_walk hchild fun d hd => by rwa [List.mem_singleton.mp hd]

theorem mem_nodes_self (e : Expr) : e ∈ e.nodes := by
  rw [nodes, walk_cons]
  exact List.mem_cons_self

theorem walk_append (stack more : List Expr) : walk (stack ++ more) = walk stack ++ walk more := by
  induction stack using walk.induct with
  | case1 => rw [walk, List.nil_append, List.nil_append]
  | case2 e rest ih =>
      rw [List.cons_append, walk_cons, walk_cons, ← List.append_assoc, ih, List.cons_append]

theorem walk_eq_flatMap (stack : List Expr) : walk stack = stack.flatMap nodes := by
  induction stack with
  | nil => rw [walk, List.flatMap_nil]
  | cons e rest ih => rw [← List.singleton_append, walk_append, ih]; rfl

/-- The parts of a tree are the tree itself and the parts of its children. -/
theorem nodes_eq (e : Expr) : e.nodes = e :: e.children.flatMap nodes := by
  rw [nodes, walk_cons, List.append_nil, walk_eq_flatMap]

theorem nodes_unary (symbol : Text) (e : Expr) :
    (unary symbol e).nodes = unary symbol e :: e.nodes := by
  rw [nodes_eq, children, List.flatMap_singleton]

theorem nodes_binary (symbol : Text) (l r : Expr) :
    (binary symbol l r).nodes = binary symbol l r :: (l.nodes ++ r.nodes) := by
  rw [nodes_eq, children, List.flatMap_cons, List.flatMap_singleton]

theorem WellFormed.of_child {P : Literal → Prop} {e : Expr} (h : e.WellFormed o P) :
    ∀ c ∈ e.children, c.WellFormed o P := by
  intro c hc
  cases h with
  | const | var => cases hc
  | unary _ _ h => rwa [List.mem_singleton.mp hc]
  | binary _ hl hr =>
      rcases List.mem_cons.mp hc with rfl | hc
      · exact hl
      · rwa [List.mem_singleton.mp hc]
  | call _ _ _ h => exact h c hc

/-- Every constant of a well formed tree is as the constants of such trees have to be. -/
theorem WellFormed.const_mem {P : Literal → Prop} {e : Expr} (h : e.WellFormed o P) {l : Literal}
    (hl : Expr.const l ∈ e.nodes) : P l := by
  have hnode := forall_mem_nodes (fun _ hd => WellFormed.of_child hd) h (Expr.const l) hl
  cases hnode with
  | const hl => exact hl

/-! ### Plain evaluation leaves nothing out -/

/-- The rule of an operation or of a call, as the options have it. -/
def rule? (o : Options) : Expr → Option Rule
  | unary symbol _ => (o.operator? symbol).bind (·.unary)
  | binary symbol _ _ => (o.operator? symbol).map (·.binary)
  | call name _ => (o.function? name).map (·.rule)
  | _ => none

/-- Where the value of a tree comes from.  A stored value is the number itself; a rule was called with
the values of all operands, as `value` finds them, and what it returned is the number or counts as
it. -/
inductive Computes (o : Options) (get : Text → Option Value)
    (value : Expr → Except EvalFault Quantity) : Expr → Quantity → Prop
  | const {l : Literal} : Computes o get value (const l) l.quantity
  | var {name : Text} {q : Quantity} (stored : get name = some (.number q))
      (hbounded : q.isBounded = true) : Computes o get value (var name) q
  | applied {e : Expr} {rule : Rule} {args : List Quantity} {v : Value} {q : Quantity}
      (hrule : e.rule? o = some rule)
      (hargs : List.Forall₂ (fun c a => value c = .ok a) e.children args)
      (hcall : rule.call args = .returned v) (hnumber : v.whole = .number q)
      (hbounded : q.isBounded = true) : Computes o get value e q

theorem operator?_of_named {symbol : Text} {op : Operator} (h : o.operatorNamed symbol = .ok op) :
    o.operator? symbol = some op := by
  unfold Options.operatorNamed at h
  split at h
  · rename_i hop
    cases h
    exact hop
  · cases h

theorem function?_of_named {name : Text} {f : MathFunction} (h : o.functionNamed name = .ok f) :
    o.function? name = some f := by
  unfold Options.functionNamed at h
  split at h
  · rename_i hf
    cases h
    exact hf
  · cases h

theorem computes_of_evalPlain {e : Expr} {q : Quantity} (h : e.evalPlain o get = .ok q) :
    Computes o get (evalPlain o get) e q := by
  have happlied : ∀ {e : Expr} {site : Site} {rule : Rule} {args : List Quantity},
      e.rule? o = some rule → List.Forall₂ (fun c a => c.evalPlain o get = .ok a) e.children args →
      rule.applyAt site args = .ok q → Computes o get (evalPlain o get) e q := by
    intro e site rule args hrule hargs happly
    obtain ⟨v, hcall, hnumber, hbounded⟩ := Rule.applyAt_eq_ok.mp happly
    exact .applied hrule hargs hcall hnumber hbounded
  cases e with
  | const l =>
      rw [evalPlain_const] at h
      cases h
      exact .const
  | var name =>
      rw [evalPlain_var] at h
      obtain ⟨stored, hbounded⟩ := answered_eq_ok.mp h
      exact .var stored hbounded
  | unary symbol operand =>
      rw [evalPlain_unary] at h
      obtain ⟨op, known, h⟩ := Failing.bind_eq_ok.mp h
      split at h
      · cases h
      · rename_i hunary
        obtain ⟨a, ha, happly⟩ := Failing.bind_eq_ok.mp h
        refine happlied ?_ (.cons ha .nil) happly
        rw [rule?, operator?_of_named known]
        exact hunary
  | binary symbol l r =>
      rw [evalPlain_binary] at h
      obtain ⟨a, ha, h⟩ := Failing.bind_eq_ok.mp h
      obtain ⟨b, hb, h⟩ := Failing.bind_eq_ok.mp h
      obtain ⟨op, known, happly⟩ := Failing.bind_eq_ok.mp h
      exact happlied (by rw [rule?, operator?_of_named known]; rfl) (.cons ha (.cons hb .nil)) happly
  | call name args =>
      rw [evalPlain_call] at h
      obtain ⟨f, known, h⟩ := Failing.bind_eq_ok.mp h
      obtain ⟨values, hvalues, happly⟩ := Failing.bind_eq_ok.mp h
      exact happlied (by rw [rule?, function?_of_named known]; rfl) (Failing.mapM_eq_ok.mp hvalues)
        happly

/-- All children of a tree with a value have values. -/
theorem exists_value_of_child {e : Expr} {q : Quantity} (h : e.evalPlain o get = .ok q) :
    ∀ c ∈ e.children, ∃ v, c.evalPlain o get = .ok v := by
  intro c hc
  cases computes_of_evalPlain h with
  | const | var => cases hc
  | applied _ hargs =>
      obtain ⟨i, hi, rfl⟩ := List.getElem_of_mem hc
      exact ⟨_, hargs.get hi (by rw [← hargs.length_eq]; exact hi)⟩

theorem size_child_lt {e c : Expr} (h : c ∈ e.children) : c.size < e.size := by
  have hle : ∀ {es : List Expr}, c ∈ es → c.size ≤ sizeAll es := by
    intro es hc
    induction es with
    | nil => cases hc
    | cons d rest ih =>
        rw [sizeAll]
        rcases List.mem_cons.mp hc with rfl | hc
        · omega
        · have := ih hc
          omega
  have := hle h
  have := sizeAll_children e
  omega

theorem knowsBinaries_of_children {e : Expr}
    (hsymbol : ∀ symbol l r, e = binary symbol l r → (o.operator? symbol).isSome = true)
    (h : ∀ c ∈ e.children, c.knowsBinaries o = true) : e.knowsBinaries o = true := by
  cases e with
  | const | var => rfl
  | unary symbol operand => exact h operand List.mem_cons_self
  | binary symbol l r =>
      rw [knowsBinaries, hsymbol symbol l r rfl, h l List.mem_cons_self,
        h r (List.mem_cons_of_mem l List.mem_cons_self)]
      rfl
  | call name args => exact knowsAllBinaries_iff.mpr h

/-- A tree with a value has looked all its operators up. -/
theorem knowsBinaries_of_evalPlain {q : Quantity} (e : Expr) (h : e.evalPlain o get = .ok q) :
    e.knowsBinaries o = true := by
  refine knowsBinaries_of_children ?_ fun c hc => ?_
  · rintro symbol l r rfl
    cases computes_of_evalPlain h with
    | applied hrule =>
        obtain ⟨op, hop, -⟩ := Option.map_eq_some_iff.mp hrule
        rw [hop]
        rfl
  · obtain ⟨v, hv⟩ := exists_value_of_child h c hc
    exact knowsBinaries_of_evalPlain c hv
termination_by e.size
decreasing_by exact size_child_lt hc

/-! ### A loop that ends with a value -/

/-- The fold down the left side goes the same way over any evaluator that finds the same values. -/
theorem foldLeftward_eq_ok {v w : Expr → Except EvalFault Quantity} {first : Quantity}
    {apply : Site → Rule → List Quantity → Except EvalFault Quantity}
    {chain : List (Link × Operator)}
    (hvalue : ∀ x ∈ chain, ∀ q, v x.1.operand = .ok q → w x.1.operand = .ok q) :
    ∀ {q : Quantity}, foldLeftward apply v first chain = .ok q →
      foldLeftward apply w first chain = .ok q := by
  induction chain with
  | nil => intro q h; exact h
  | cons x rest ih =>
      obtain ⟨link, op⟩ := x
      intro q h
      rw [foldLeftward_cons] at h ⊢
      obtain ⟨a, ha, h⟩ := Failing.bind_eq_ok.mp h
      obtain ⟨b, hb, h⟩ := Failing.bind_eq_ok.mp h
      rw [ih (fun y hy => hvalue y (List.mem_cons_of_mem _ hy)) ha]
      show (w link.operand >>= _) = _
      rw [hvalue (link, op) List.mem_cons_self b hb]
      exact h

/-- The loop over chains goes the same way as plain recursion if its operands and its end do. -/
theorem evalPlain_binary_of_eval {symbol : Text} {l r : Expr} {q : Quantity}
    (hend : ∀ side v, ((binary symbol l r).chainEnd side).eval o get = .ok v →
      ((binary symbol l r).chainEnd side).evalPlain o get = .ok v)
    (hlink : ∀ side, ∀ link ∈ (binary symbol l r).links side, ∀ v,
      link.operand.eval o get = .ok v → link.operand.evalPlain o get = .ok v)
    (h : (binary symbol l r).eval o get = .ok q) : (binary symbol l r).evalPlain o get = .ok q := by
  cases hside : l.chainSide with
  | left =>
      rw [eval_binary_left hside] at h
      obtain ⟨operators, hoperators, h⟩ := Failing.bind_eq_ok.mp h
      obtain ⟨first, hfirst, h⟩ := Failing.bind_eq_ok.mp h
      rw [evalPlain_leftward (Failing.mapM_eq_ok.mp hoperators)]
      refine Failing.bind_eq_ok.mpr ⟨first, hend .left _ hfirst, ?_⟩
      exact foldLeftward_eq_ok (fun x hx => hlink .left x.1 (List.of_mem_zip hx).1) h
  | right =>
      rw [eval_binary_right hside] at h
      obtain ⟨operators, hoperators, h⟩ := Failing.bind_eq_ok.mp h
      obtain ⟨lefts, hlefts, h⟩ := Failing.bind_eq_ok.mp h
      obtain ⟨last, hlast, h⟩ := Failing.bind_eq_ok.mp h
      rw [evalPlain_rightward (Failing.mapM_eq_ok.mp hoperators)]
      have hplain := Failing.mapM_eq_ok_of_imp (hlink .right) hlefts
      refine Failing.bind_eq_ok.mpr ⟨lefts, hplain, ?_⟩
      exact Failing.bind_eq_ok.mpr ⟨last, hend .right _ hlast, h⟩

theorem evalPlain_of_eval (e : Expr) : ∀ {q}, e.eval o get = .ok q → e.evalPlain o get = .ok q := by
  induction e using inductionOnCalls with
  | hconst value =>
      intro q h
      rw [eval_const] at h
      exact h
  | hvar name =>
      intro q h
      rw [eval_var] at h
      rw [evalPlain_var]
      exact h
  | hunary symbol operand ih =>
      intro q h
      rw [eval_unary] at h
      rw [evalPlain_unary]
      obtain ⟨op, hop, h⟩ := Failing.bind_eq_ok.mp h
      refine Failing.bind_eq_ok.mpr ⟨op, hop, ?_⟩
      cases hunary : op.unary with
      | none =>
          rw [hunary] at h
          cases h
      | some rule =>
          rw [hunary] at h
          obtain ⟨a, ha, h⟩ := Failing.bind_eq_ok.mp h
          exact Failing.bind_eq_ok.mpr ⟨a, ih ha, h⟩
  | hcall name args ih =>
      intro q h
      rw [eval_call] at h
      rw [evalPlain_call]
      obtain ⟨f, hf, h⟩ := Failing.bind_eq_ok.mp h
      obtain ⟨values, hvalues, h⟩ := Failing.bind_eq_ok.mp h
      have hplain := Failing.mapM_eq_ok_of_imp (fun arg harg _ => ih arg harg) hvalues
      exact Failing.bind_eq_ok.mpr ⟨f, hf, Failing.bind_eq_ok.mpr ⟨values, hplain, h⟩⟩
  | hbinary symbol l r ihend ihlink =>
      intro q h
      exact evalPlain_binary_of_eval (fun side _ => ihend side)
        (fun side link hlink _ => ihlink side link hlink) h

/-- The loop over chains and plain recursion find the same values, whatever operators a tree uses. -/
theorem eval_eq_ok {e : Expr} {q : Quantity} : e.eval o get = .ok q ↔ e.evalPlain o get = .ok q := by
  constructor
  · exact evalPlain_of_eval e
  · intro h
    rw [eval_eq_evalPlain o get e (knowsBinaries_of_evalPlain e h)]
    exact h

/-! ### Values within the limits -/

/-- The value of a tree is within the limits, unless the tree is a constant that is not. -/
theorem Computes.isBounded {value : Expr → Except EvalFault Quantity} {e : Expr} {q : Quantity}
    (h : Computes o get value e q) (hconst : ∀ l, e = .const l → l.isBounded = true) :
    q.isBounded = true := by
  cases h with
  | @const l =>
      have hbounded := hconst l rfl
      cases l <;> exact hbounded
  | var _ hbounded | applied _ _ _ _ hbounded => exact hbounded

theorem computes_of_eval {e : Expr} {q : Quantity} (h : e.eval o get = .ok q) :
    Computes o get (eval o get) e q := by
  cases computes_of_evalPlain (eval_eq_ok.mp h) with
  | const => exact .const
  | var stored hbounded => exact .var stored hbounded
  | applied hrule hargs hcall hnumber hbounded =>
      exact .applied hrule (hargs.imp fun _ _ => eval_eq_ok.mpr) hcall hnumber hbounded

/-- If a tree has a value then all of its parts do. -/
theorem exists_value_of_mem_nodes {e : Expr} {q : Quantity} (h : e.eval o get = .ok q) :
    ∀ n ∈ e.nodes, ∃ v, n.eval o get = .ok v := by
  intro n hn
  have hchild : ∀ d : Expr, (∃ v, d.evalPlain o get = .ok v) →
      ∀ c ∈ d.children, ∃ v, c.evalPlain o get = .ok v :=
    fun d ⟨v, hv⟩ => exists_value_of_child hv
  obtain ⟨v, hv⟩ := forall_mem_nodes hchild ⟨q, eval_eq_ok.mp h⟩ n hn
  exact ⟨v, eval_eq_ok.mpr hv⟩

/-- If the constants of a tree are within the limits, a value of the tree is so, too. -/
theorem isBounded_of_eval {e : Expr} {q : Quantity}
    (hconst : ∀ l, const l ∈ e.nodes → l.isBounded = true) (h : e.eval o get = .ok q) :
    q.isBounded = true := by
  refine (computes_of_eval h).isBounded ?_
  rintro l rfl
  exact hconst l (mem_nodes_self _)

end Expr
end Reckon
