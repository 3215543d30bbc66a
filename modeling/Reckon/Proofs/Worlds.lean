/-
Two worlds side by side.

A tree can be evaluated in two worlds at once, also in two monads.  If all that it meets outside
comes to the same in both, then so does the evaluation.  What "to the same" means depends on the
monads, so a `Coupling` is any relation that the same result and the same failure stand in and that
is passed on from one step to the next.  It carries a predicate along, by which the numbers are known
that come up on the way.

One induction is enough for all couplings.  It follows the calls of evaluation, and needs one law for
each way to put computations together: one after the other, in a row, and in a loop.

The couplings below are of a world with one that responds alike, and of a world that keeps a state
with one that does not.  The first of them shows what no evaluation does: call a rule with a number
beyond the limits, or come to one itself.  That is a matter of the rules as little as of the storage.
Either may do whatever it likes, for everything that comes from outside is checked when it comes.
-/
import Reckon.Proofs.Limits

namespace Reckon

/-- A computation that can fail, and that can change a state on its way. -/
abbrev Asking (σ : Type) : Type → Type := ExceptT EvalFault (StateM σ)

/-- A step goes on in the state in which the one before it has ended. -/
theorem Asking.run_bind {σ α β : Type} (x : Asking σ α) (f : α → Asking σ β) (s : σ) :
    (x >>= f).run.run s = match x.run.run s with
      | (.ok a, s') => (f a).run.run s'
      | (.error fault, s') => (.error fault, s') := by
  rw [ExceptT.run_bind, StateT.run_bind]
  rcases x.run.run s with ⟨_ | _, s'⟩ <;> rfl

/-! ### Couplings -/

/-- A relation between computations in two monads that come to the same, with results of which a
predicate holds. -/
structure Coupling (m m' : Type → Type) [Monad m] [MonadExcept EvalFault m] [Monad m']
    [MonadExcept EvalFault m'] where
  Alike : {α : Type} → (α → Prop) → m α → m' α → Prop
  pure {α : Type} {P : α → Prop} {a : α} (h : P a) : Alike P (pure a) (pure a)
  throw {α : Type} {P : α → Prop} (fault : EvalFault) : Alike P (throw fault) (throw fault)
  bind {α β : Type} {P : α → Prop} {Q : β → Prop} {x : m α} {y : m' α} {f : α → m β} {g : α → m' β}
    (h : Alike P x y) (hnext : ∀ a, P a → Alike Q (f a) (g a)) : Alike Q (x >>= f) (y >>= g)

namespace Coupling

section Laws

variable {m m' : Type → Type} [Monad m] [MonadExcept EvalFault m] [Monad m']
  [MonadExcept EvalFault m'] (c : Coupling m m') {α β : Type} {P : α → Prop}

theorem ofExcept {outcome : Except EvalFault α} (h : ∀ a, outcome = .ok a → P a) :
    c.Alike P (ofExcept outcome) (ofExcept outcome) := by
  cases outcome with
  | ok a => exact c.pure (h a rfl)
  | error fault => exact c.throw fault

theorem mapM [LawfulMonad m] [LawfulMonad m'] {xs : List β} {f : β → m α} {g : β → m' α}
    (h : ∀ x ∈ xs, c.Alike P (f x) (g x)) :
    c.Alike (fun ys => ∀ y ∈ ys, P y) (xs.mapM f) (xs.mapM g) := by
  induction xs with
  | nil =>
      rw [List.mapM_nil, List.mapM_nil]
      exact c.pure fun y hy => nomatch hy
  | cons x rest ih =>
      rw [List.mapM_cons, List.mapM_cons]
      refine c.bind (h x List.mem_cons_self) fun y hy => ?_
      refine c.bind (ih fun z hz => h z (List.mem_cons_of_mem x hz)) fun more hmore => c.pure ?_
      exact List.forall_mem_cons.mpr ⟨hy, hmore⟩

theorem foldlM {xs : List β} {f : α → β → m α} {g : α → β → m' α}
    (h : ∀ a, P a → ∀ x ∈ xs, c.Alike P (f a x) (g a x)) :
    ∀ {a : α}, P a → c.Alike P (xs.foldlM f a) (xs.foldlM g a) := by
  induction xs with
  | nil => intro a ha; exact c.pure ha
  | cons x rest ih =>
      intro a ha
      rw [List.foldlM_cons, List.foldlM_cons]
      refine c.bind (h a ha x List.mem_cons_self) fun b hb => ?_
      exact ih (fun a ha y hy => h a ha y (List.mem_cons_of_mem x hy)) hb

/-- What a response comes to is within the limits. -/
theorem applyAt {w : World m} {w' : World m'} {site : Site} {rule : Rule} {args : List Quantity}
    (h : c.Alike (fun _ => True) (w.call rule args) (w'.call rule args)) :
    c.Alike (·.isBounded = true) (w.applyAt site rule args) (w'.applyAt site rule args) := by
  refine c.bind h fun response _ => c.ofExcept fun q hq => ?_
  cases response with
  | returned v => exact (Value.settle_eq_ok.mp (Failing.mapError_eq_ok.mp hq)).2
  | raised e => cases hq
  | threw thrown => cases hq

/-- What an answer comes to is within the limits. -/
theorem value {w : World m} {w' : World m'} {name : Text}
    (h : c.Alike (fun _ => True) (w.ask name) (w'.ask name)) :
    c.Alike (·.isBounded = true) (w.value name) (w'.value name) := by
  refine c.bind h fun answer _ => c.ofExcept fun q hq => ?_
  exact (answered_eq_ok.mp hq).2

end Laws

/-! ### Three of them -/

/-- The same outcome. -/
def outcomes : Coupling (Except EvalFault) (Except EvalFault) where
  Alike P x y := x = y ∧ ∀ a, x = .ok a → P a
  pure h := ⟨rfl, fun _ ha => Except.ok.inj ha ▸ h⟩
  throw _ := ⟨rfl, nofun⟩
  bind {_ _ _ _ x _ _ _} h hnext := by
    obtain ⟨rfl, hx⟩ := h
    cases x with
    | ok a => exact hnext a (hx a rfl)
    | error fault => exact ⟨rfl, nofun⟩

/-- The same computation, in whatever state it begins. -/
def computations (σ : Type) : Coupling (Asking σ) (Asking σ) where
  Alike P x y := x = y ∧ ∀ s a s', x.run.run s = (.ok a, s') → P a
  pure h := ⟨rfl, fun _ _ _ hrun => Except.ok.inj (Prod.mk.inj hrun).1 ▸ h⟩
  throw _ := ⟨rfl, fun _ _ _ hrun => nomatch (Prod.mk.inj hrun).1⟩
  bind {_ _ _ _ x _ f g} h hnext := by
    obtain ⟨rfl, hx⟩ := h
    constructor
    · funext s
      show (x >>= f).run.run s = (x >>= g).run.run s
      rw [Asking.run_bind, Asking.run_bind]
      rcases hrun : x.run.run s with ⟨_ | a, s'⟩
      · rfl
      · show (f a).run.run s' = (g a).run.run s'
        rw [(hnext a (hx s a s' hrun)).1]
    · intro s b s' hrun
      rw [Asking.run_bind] at hrun
      rcases hfirst : x.run.run s with ⟨_ | a, s₁⟩
      · rw [hfirst] at hrun
        cases hrun
      · rw [hfirst] at hrun
        exact (hnext a (hx s a s₁ hfirst)).2 s₁ b s' hrun

/-- A computation that comes to an outcome, and after it the state is the one before. -/
def leaving {σ : Type} (s : σ) : Coupling (Asking σ) (Except EvalFault) where
  Alike P x outcome := x.run.run s = (outcome, s) ∧ ∀ a, outcome = .ok a → P a
  pure h := ⟨rfl, fun _ ha => Except.ok.inj ha ▸ h⟩
  throw _ := ⟨rfl, nofun⟩
  bind {_ _ _ _ _ outcome _ _} h hnext := by
    obtain ⟨hrun, houtcome⟩ := h
    cases outcome with
    | ok a =>
        obtain ⟨hrest, hresult⟩ := hnext a (houtcome a rfl)
        exact ⟨by rw [Asking.run_bind, hrun]; exact hrest, hresult⟩
    | error fault => exact ⟨by rw [Asking.run_bind, hrun]; rfl, nofun⟩

end Coupling

namespace Expr

/-! ### Parts of a chain -/

theorem mem_nodes_of_child {c e n : Expr} (hc : c ∈ e.children) (hn : n ∈ c.nodes) : n ∈ e.nodes := by
  rw [nodes_eq]
  exact List.mem_cons_of_mem e (List.mem_flatMap.mpr ⟨c, hc, hn⟩)

/-- The parts of a part are parts. -/
theorem nodes_subset {d e : Expr} (h : d ∈ e.nodes) : ∀ n ∈ d.nodes, n ∈ e.nodes :=
  forall_mem_nodes (P := fun d => ∀ n ∈ d.nodes, n ∈ e.nodes)
    (fun _ hd _ hc n hn => hd n (mem_nodes_of_child hc hn)) (fun _ hn => hn) d h

/-- The end of a chain and what hangs off it are parts of the tree. -/
theorem mem_nodes_chain (side : Side) (e : Expr) :
    e.chainEnd side ∈ e.nodes ∧ ∀ link ∈ e.links side, link.operand ∈ e.nodes := by
  fun_induction links side e with
  | case1 symbol l r hside ih =>
      subst hside
      obtain ⟨hend, hlinks⟩ := ih
      have hl : l ∈ (binary symbol l r).children := List.mem_cons_self
      have hr : r ∈ (binary symbol l r).children := List.mem_cons_of_mem l List.mem_cons_self
      refine ⟨mem_nodes_of_child hl hend, fun link hlink => ?_⟩
      rcases List.mem_cons.mp hlink with rfl | hlink
      · exact mem_nodes_of_child hr (mem_nodes_self r)
      · exact mem_nodes_of_child hl (hlinks link hlink)
  | case2 symbol l r hside ih =>
      subst hside
      obtain ⟨hend, hlinks⟩ := ih
      have hl : l ∈ (binary symbol l r).children := List.mem_cons_self
      have hr : r ∈ (binary symbol l r).children := List.mem_cons_of_mem l List.mem_cons_self
      refine ⟨mem_nodes_of_child hr hend, fun link hlink => ?_⟩
      rcases List.mem_cons.mp hlink with rfl | hlink
      · exact mem_nodes_of_child hl (mem_nodes_self l)
      · exact mem_nodes_of_child hr (hlinks link hlink)
  | case3 e hne =>
      rw [chainEnd_eq_self hne]
      exact ⟨mem_nodes_self e, by simp⟩

/-! ### Evaluation in both -/

variable {m m' : Type → Type} [Monad m] [LawfulMonad m] [MonadExcept EvalFault m] [Monad m']
  [LawfulMonad m'] [MonadExcept EvalFault m'] (c : Coupling m m') {o : Options} {w : World m}
  {w' : World m'} {P : Quantity → Prop}

/-- If variables and rules come to the same in two worlds, a tree does. -/
theorem evalIn_alike
    (hrule : ∀ site rule args, (∀ a ∈ args, P a) →
      c.Alike P (w.applyAt site rule args) (w'.applyAt site rule args)) (e : Expr) :
    (∀ l, const l ∈ e.nodes → P l.quantity) →
    (∀ name, var name ∈ e.nodes → c.Alike P (w.value name) (w'.value name)) →
    c.Alike P (e.evalIn o w) (e.evalIn o w') := by
  induction e using inductionOnCalls with
  | hconst value =>
      intro hconst _
      rw [evalIn, evalIn]
      exact c.pure (hconst value (mem_nodes_self _))
  | hvar name =>
      intro _ hvar
      rw [evalIn, evalIn]
      exact hvar name (mem_nodes_self _)
  | hunary symbol operand ih =>
      intro hconst hvar
      have hoperand := ih (fun l hl => hconst l (mem_nodes_of_child List.mem_cons_self hl))
        fun name hname => hvar name (mem_nodes_of_child List.mem_cons_self hname)
      rw [evalIn, evalIn]
      refine c.bind (P := fun _ => True) (c.ofExcept fun _ _ => trivial) fun op _ => ?_
      cases op.unary with
      | none => exact c.throw _
      | some rule =>
          refine c.bind hoperand fun a ha => hrule _ _ _ ?_
          exact List.forall_mem_singleton.mpr ha
  | hcall name args ih =>
      intro hconst hvar
      have hargs : ∀ arg ∈ args, c.Alike P (arg.evalIn o w) (arg.evalIn o w') := fun arg harg =>
        ih arg harg (fun l hl => hconst l (mem_nodes_of_child harg hl))
          fun name hname => hvar name (mem_nodes_of_child harg hname)
      rw [evalIn_call, evalIn_call]
      refine c.bind (P := fun _ => True) (c.ofExcept fun _ _ => trivial) fun f _ => ?_
      exact c.bind (c.mapM hargs) fun values hvalues => hrule _ _ _ hvalues
  | hbinary symbol l r ihend ihlink =>
      intro hconst hvar
      -- The operators of a chain come from the options, so only its operands are met in the worlds.
      have hend : ∀ side, c.Alike P (((binary symbol l r).chainEnd side).evalIn o w)
          (((binary symbol l r).chainEnd side).evalIn o w') := fun side =>
        have hsub := nodes_subset (mem_nodes_chain side (binary symbol l r)).1
        ihend side (fun l hl => hconst l (hsub _ hl)) fun name hname => hvar name (hsub _ hname)
      have hlink : ∀ side, ∀ link ∈ (binary symbol l r).links side,
          c.Alike P (link.operand.evalIn o w) (link.operand.evalIn o w') := fun side link hmem =>
        have hsub := nodes_subset ((mem_nodes_chain side (binary symbol l r)).2 link hmem)
        ihlink side link hmem (fun l hl => hconst l (hsub _ hl))
          fun name hname => hvar name (hsub _ hname)
      cases hside : l.chainSide with
      | left =>
          rw [evalIn_binary_left hside, evalIn_binary_left hside]
          refine c.bind (c.mapM fun link _ => c.ofExcept (P := fun _ => True) fun _ _ => trivial)
            fun operators _ => ?_
          refine c.bind (hend .left) fun first hfirst => c.foldlM (fun value hvalue x hx => ?_) hfirst
          have hoperand := hlink .left x.1 (List.of_mem_zip (List.mem_reverse.mp hx)).1
          refine c.bind hoperand fun right hright => hrule _ _ _ ?_
          exact List.forall_mem_cons.mpr ⟨hvalue, List.forall_mem_singleton.mpr hright⟩
      | right =>
          rw [evalIn_binary_right hside, evalIn_binary_right hside]
          refine c.bind (c.mapM fun link _ => c.ofExcept (P := fun _ => True) fun _ _ => trivial)
            fun operators _ => ?_
          refine c.bind (c.mapM (hlink .right)) fun lefts hlefts => ?_
          refine c.bind (hend .right) fun last hlast => c.foldlM (fun value hvalue x hx => ?_) hlast
          have hleft := hlefts x.2 (List.of_mem_zip (List.mem_reverse.mp hx)).2
          refine hrule _ _ _ ?_
          exact List.forall_mem_cons.mpr ⟨hleft, List.forall_mem_singleton.mpr hvalue⟩

/-! ### Values within the limits, in any world -/

/-- A rule is called with numbers within the limits only, so what it does with others does not matter;
and what an evaluation comes to is within the limits. -/
theorem evalIn_isBounded {σ : Type} {w : World (Asking σ)}
    {call : Rule → List Quantity → Asking σ Response} {e : Expr}
    (hconst : ∀ l, const l ∈ e.nodes → l.isBounded = true)
    (hcall : ∀ rule args, (∀ a ∈ args, a.isBounded = true) → call rule args = w.call rule args) :
    e.evalIn o { w with call := call } = e.evalIn o w ∧
      ∀ s q s', (e.evalIn o w).run.run s = (.ok q, s') → q.isBounded = true := by
  let w' : World (Asking σ) := { w with call := call }
  have halike : (Coupling.computations σ).Alike (·.isBounded = true) (e.evalIn o w)
      (e.evalIn o w') := by
    refine evalIn_alike _ ?_ e (fun l hl => ?_) fun name _ => ?_
    · intro site rule args hargs
      exact Coupling.applyAt _ ⟨(hcall rule args hargs).symm, fun _ _ _ _ => trivial⟩
    · have hbounded := hconst l hl
      cases l <;> exact hbounded
    · exact Coupling.value _ ⟨rfl, fun _ _ _ _ => trivial⟩
  exact ⟨halike.1.symm, halike.2⟩

/--
**Every value that evaluation produces is within the limits.**

The constants of a parsed tree are within the limits.  If those of a tree are and the tree has a value,
then every part of the tree has one, and all these values are within the limits, whatever the stored
values are and whatever the rules come back with.  Each of them is a constant, or the very number that is
stored, or what a rule returned for the values of its operands: a number, or something that counts as a
whole one.

The storage and the rules may do more than that and keep a state.  Still no rule is called with a number
beyond the limits, as what it does with such numbers does not matter, and no value is one.
-/
theorem eval_isBounded (o : Options) :
    (∀ (source : Text) (tokens : List Token) (e : Expr), parseTokens o source tokens = .ok e →
        ∀ l, const l ∈ e.nodes → l.isBounded = true) ∧
      (∀ (get : Text → Option Value) (e : Expr) (q : Quantity),
        (∀ l, const l ∈ e.nodes → l.isBounded = true) → e.eval o get = .ok q →
        q.isBounded = true ∧ ∀ n ∈ e.nodes, ∃ v, n.eval o get = .ok v ∧ v.isBounded = true ∧
          n.Computes o get (eval o get) v) ∧
      ∀ (σ : Type) (w : World (Asking σ)) (call : Rule → List Quantity → Asking σ Response) (e : Expr),
        (∀ l, const l ∈ e.nodes → l.isBounded = true) →
        (∀ rule args, (∀ a ∈ args, a.isBounded = true) → call rule args = w.call rule args) →
        e.evalIn o { w with call := call } = e.evalIn o w ∧
          ∀ s q s', (e.evalIn o w).run.run s = (.ok q, s') → q.isBounded = true := by
  refine ⟨fun source tokens e h l hl => ?_, fun get e q hconst h => ?_,
    fun σ w call e hconst hcall => evalIn_isBounded hconst hcall⟩
  · exact ((wellFormed_of_parseLevels _ (parseTokens_eq_ok.mp h).2).const_mem hl).spec.1
  · refine ⟨isBounded_of_eval hconst h, fun n hn => ?_⟩
    obtain ⟨v, hv⟩ := exists_value_of_mem_nodes h n hn
    have hbounded := isBounded_of_eval (fun l hl => hconst l (nodes_subset hn _ hl)) hv
    exact ⟨v, hv, hbounded, computes_of_eval hv⟩

/-- The equation `double([x])-(5-1)`, where `double` is no function of the library and comes back with
something that counts as a whole number: `x` is four, and then `x` is how often it has been asked for. -/
theorem eval_isBounded_difference :
    let double : Rule := .custom "double".toList fun
      | [.int n] => .returned (.object "int64".toList (Text.ofInt (2 * n)) (some (2 * n)))
      | _ => .returned .nothing
    let o : Options := { Options.standard with functions := [⟨"double".toList, double, 1, some 1⟩] }
    let source := "double([x])-(5-1)".toList
    let tokens : List Token :=
      [⟨.value, "double".toList, 0, 6⟩, ⟨.opening, ['('], 6, 7⟩, ⟨.value, "[x]".toList, 7, 10⟩,
        ⟨.closing, [')'], 10, 11⟩, ⟨.operator, ['-'], 11, 12⟩, ⟨.opening, ['('], 12, 13⟩,
        ⟨.value, ['5'], 13, 14⟩, ⟨.operator, ['-'], 14, 15⟩, ⟨.value, ['1'], 15, 16⟩,
        ⟨.closing, [')'], 16, 17⟩]
    let get : Text → Option Value := fun _ => some (.number (.int 4))
    let counting : World (Asking Nat) :=
      ⟨fun _ => modifyGet fun n : Nat => (some (.number (.int n)), n + 1),
        fun rule args => pure (rule.call args)⟩
    let call : Rule → List Quantity → Asking Nat Response := fun rule args =>
      if args.all (·.isBounded) then pure (rule.call args) else pure (.returned (.truth true))
    ∃ e, parseTokens o source tokens = .ok e ∧ e.eval o get = .ok (.int 4) ∧
      (Quantity.int 4).isBounded = true ∧
      (∀ n ∈ e.nodes, ∃ v, n.eval o get = .ok v ∧ v.isBounded = true ∧
        n.Computes o get (eval o get) v) ∧
      e.evalIn o { counting with call := call } = e.evalIn o counting := by
  intro double o source tokens get counting call
  let e := binary ['-'] (Expr.call "double".toList [var ['x']])
    (binary ['-'] (const (.int 5)) (const (.int 1)))
  have hread : parseTokens o source tokens = .ok e := rfl
  have hvalue : e.eval o get = .ok (.int 4) := eval_eq_ok.mpr rfl
  obtain ⟨hconst, hvalues, hworlds⟩ := eval_isBounded o
  obtain ⟨hbounded, hparts⟩ := hvalues get e _ (hconst _ tokens e hread) hvalue
  refine ⟨e, hread, hvalue, hbounded, hparts, ?_⟩
  refine (hworlds Nat counting call e (hconst _ tokens e hread) fun rule args hargs => ?_).1
  exact if_pos (List.all_eq_true.mpr hargs)

end Expr
end Reckon
