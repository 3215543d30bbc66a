/-
A chain is evaluated as if it were evaluated recursively.

`evalIn` collects the operations that nest along one side of a tree and folds them in a loop,
so that a sum of a thousand terms does not nest a thousand calls.  `evalPlainIn` knows nothing
of chains: it evaluates the left operand, then the right one, then applies the operator.
What is proved here is that nobody can tell the two apart, not by the value and not by which
of several failures comes out first.  Nor can a storage or a rule that keeps a state: both ask
the same questions and make the same calls in the same order.

The loop decides on a side once, at the outermost operation, whatever the operations further
in look like.  So each side gets its own lemma, by induction down that side.  Operands that hang off
the chain are evaluated anew, and so is its end.  `inductionOnCalls` is the induction that follows
these calls: below an operation on two operands it does not go to the two operands but to those of
the chain.

One thing does come earlier in the loop: it looks up every operator of the chain before it
evaluates any operand.  That is why the trees here only use operators that exist.
-/
import Reckon.Eval
import Reckon.Proofs.WellFormed

namespace Reckon

namespace World

/-- In the world of functions a variable has the value that is looked up. -/
@[simp] theorem value_answering (get : Text → Option Value) :
    (answering get).value = variableValue get :=
  funext fun _ => Failing.ofExcept_eq _

/-- In the world of functions a rule is only applied. -/
@[simp] theorem applyAt_answering (get : Text → Option Value) :
    (answering get).applyAt = Rule.applyAt :=
  funext fun _ => funext fun _ => funext fun _ => Failing.ofExcept_eq _

end World

namespace Expr

/-! ### Evaluating without chains -/

mutual
/-- Evaluates a tree operand by operand: left, right, then the operation. -/
def evalPlainIn {m : Type → Type} [Monad m] [MonadExcept EvalFault m] (o : Options) (w : World m) :
    Expr → m Quantity
  | const value => pure value.quantity
  | var name => w.value name
  | unary symbol operand => do
    match (← ofExcept (o.operatorNamed symbol)).unary with
    | none => throw (.noPrefixForm symbol)
    | some rule =>
      let a ← evalPlainIn o w operand
      w.applyAt (.operator symbol) rule [a]
  | binary symbol l r => do
    let a ← evalPlainIn o w l
    let b ← evalPlainIn o w r
    let op ← ofExcept (o.operatorNamed symbol)
    w.applyAt (.operator symbol) op.binary [a, b]
  | call name args => do
    let f ← ofExcept (o.functionNamed name)
    let values ← evalPlainAllIn o w args
    w.applyAt (.call name) f.rule values

/-- Evaluates some trees, one after the other. -/
def evalPlainAllIn {m : Type → Type} [Monad m] [MonadExcept EvalFault m] (o : Options) (w : World m) :
    List Expr → m (List Quantity)
  | [] => pure []
  | e :: rest => do
    let a ← evalPlainIn o w e
    let more ← evalPlainAllIn o w rest
    pure (a :: more)
end

/-- The value of a tree, computed operand by operand. -/
def evalPlain (o : Options) (get : Text → Option Value) (e : Expr) : Except EvalFault Quantity :=
  e.evalPlainIn o (.answering get)

mutual
/-- Whether all operations on two operands in a tree have operators that exist. -/
def knowsBinaries (o : Options) : Expr → Bool
  | const _ | var _ => true
  | unary _ operand => knowsBinaries o operand
  | binary symbol l r => (o.operator? symbol).isSome && knowsBinaries o l && knowsBinaries o r
  | call _ args => knowsAllBinaries o args

/-- Whether all operations on two operands in some trees have operators that exist. -/
def knowsAllBinaries (o : Options) : List Expr → Bool
  | [] => true
  | e :: rest => knowsBinaries o e && knowsAllBinaries o rest
end

variable {o : Options} {get : Text → Option Value}

theorem knowsAllBinaries_iff {es : List Expr} :
    knowsAllBinaries o es = true ↔ ∀ e ∈ es, e.knowsBinaries o = true := by
  induction es with
  | nil => simp [knowsAllBinaries]
  | cons e rest ih => simp [knowsAllBinaries, ih]

/-! ### What a chain consists of -/

theorem links_eq_nil {side : Side} {e : Expr} (h : ∀ symbol l r, e = binary symbol l r → False) :
    e.links side = [] := by
  cases e with
  | binary symbol l r => exact absurd rfl (h symbol l r)
  | _ => rfl

theorem chainEnd_eq_self {side : Side} {e : Expr}
    (h : ∀ symbol l r, e = binary symbol l r → False) : e.chainEnd side = e := by
  cases e with
  | binary symbol l r => exact absurd rfl (h symbol l r)
  | _ => rfl

theorem knowsBinaries_chain {side : Side} {e : Expr} (hk : e.knowsBinaries o = true) :
    (e.chainEnd side).knowsBinaries o = true ∧
      ∀ link ∈ e.links side,
        (o.operator? link.symbol).isSome = true ∧ link.operand.knowsBinaries o = true := by
  fun_induction links side e with
  | case1 symbol l r hside ih =>
      subst hside
      simp only [knowsBinaries, Bool.and_eq_true] at hk
      obtain ⟨hend, hlinks⟩ := ih hk.1.2
      refine ⟨hend, ?_⟩
      intro link hlink
      rcases List.mem_cons.mp hlink with rfl | hrest
      · exact ⟨hk.1.1, hk.2⟩
      · exact hlinks link hrest
  | case2 symbol l r hside ih =>
      subst hside
      simp only [knowsBinaries, Bool.and_eq_true] at hk
      obtain ⟨hend, hlinks⟩ := ih hk.2
      refine ⟨hend, ?_⟩
      intro link hlink
      rcases List.mem_cons.mp hlink with rfl | hrest
      · exact ⟨hk.1.1, hk.1.2⟩
      · exact hlinks link hrest
  | case3 e hne =>
      rw [chainEnd_eq_self hne]
      exact ⟨hk, by simp⟩

/-- The operators that belong to the links of a chain, one for each. -/
def Looked (o : Options) : List Link → List Operator → Prop :=
  List.Forall₂ fun link op => o.operatorNamed link.symbol = .ok op

theorem exists_looked {chain : List Link}
    (h : ∀ link ∈ chain, (o.operator? link.symbol).isSome = true) :
    ∃ operators, Looked o chain operators := by
  induction chain with
  | nil => exact ⟨[], .nil⟩
  | cons link rest ih =>
      obtain ⟨op, hop⟩ := Option.isSome_iff_exists.mp (h link (by simp))
      obtain ⟨operators, hrest⟩ := ih fun l hl => h l (by simp [hl])
      exact ⟨op :: operators, .cons (by simp [Options.operatorNamed, hop]) hrest⟩

/-! ### The parts that evaluation calls itself for -/

/-- What passes up every call of `eval` holds of all trees. -/
theorem inductionOnCalls {P : Expr → Prop} (hconst : ∀ value, P (const value))
    (hvar : ∀ name, P (var name)) (hunary : ∀ symbol e, P e → P (unary symbol e))
    (hbinary : ∀ symbol l r, (∀ side, P ((binary symbol l r).chainEnd side)) →
      (∀ side, ∀ link ∈ (binary symbol l r).links side, P link.operand) → P (binary symbol l r))
    (hcall : ∀ name args, (∀ arg ∈ args, P arg) → P (call name args)) (e : Expr) : P e := by
  cases e with
  | const value => exact hconst value
  | var name => exact hvar name
  | unary symbol e => exact hunary symbol e (inductionOnCalls hconst hvar hunary hbinary hcall e)
  | binary symbol l r =>
      refine hbinary symbol l r (fun side => ?_) fun side link hlink => ?_
      · exact inductionOnCalls hconst hvar hunary hbinary hcall _
      · exact inductionOnCalls hconst hvar hunary hbinary hcall link.operand
  | call name args =>
      exact hcall name args fun arg harg => inductionOnCalls hconst hvar hunary hbinary hcall arg
termination_by e.size
decreasing_by
  · simp only [size]; omega
  · exact size_chainEnd_lt _ _ _ _
  · exact size_operand_lt hlink
  · exact size_arg_lt harg

/-! ### One fold for each side -/

section Fold

variable {m : Type → Type} [Monad m]

/-- The fold of a chain down the left side, over whatever applies rules and evaluates the operands: an
operand on the right is evaluated when its link is reached. -/
def foldLeftward (apply : Site → Rule → List Quantity → m Quantity) (value : Expr → m Quantity)
    (first : Quantity) (chain : List (Link × Operator)) : m Quantity :=
  chain.reverse.foldlM (fun acc (link, op) => do
    let right ← value link.operand
    apply (.operator link.symbol) op.binary [acc, right]) first

/-- The fold of a chain down the right side: the operands on the left have their values already. -/
def foldRightward (apply : Site → Rule → List Quantity → m Quantity) (last : Quantity)
    (chain : List ((Link × Operator) × Quantity)) : m Quantity :=
  chain.reverse.foldlM (fun acc ((link, op), left) =>
    apply (.operator link.symbol) op.binary [left, acc]) last

variable [LawfulMonad m] {apply : Site → Rule → List Quantity → m Quantity}

theorem foldLeftward_cons (v : Expr → m Quantity) (first : Quantity) (link : Link) (op : Operator)
    (chain : List (Link × Operator)) :
    foldLeftward apply v first ((link, op) :: chain) = (do
      let a ← foldLeftward apply v first chain
      let b ← v link.operand
      apply (.operator link.symbol) op.binary [a, b]) := by
  simp [foldLeftward]

theorem foldRightward_cons (last left : Quantity) (link : Link) (op : Operator)
    (chain : List ((Link × Operator) × Quantity)) :
    foldRightward apply last (((link, op), left) :: chain) = (do
      let b ← foldRightward apply last chain
      apply (.operator link.symbol) op.binary [left, b]) := by
  simp [foldRightward]

theorem foldLeftward_congr {v w : Expr → m Quantity} (first : Quantity)
    {chain : List (Link × Operator)} (h : ∀ x ∈ chain, v x.1.operand = w x.1.operand) :
    foldLeftward apply v first chain = foldLeftward apply w first chain := by
  induction chain with
  | nil => rfl
  | cons x rest ih =>
      obtain ⟨link, op⟩ := x
      rw [foldLeftward_cons, foldLeftward_cons, ih fun y hy => h y (by simp [hy]),
        show v link.operand = w link.operand from h (link, op) (by simp)]

end Fold

/-! ### In any world -/

section World

variable {m : Type → Type} [Monad m] [LawfulMonad m] [MonadExcept EvalFault m] {w : World m}

omit [LawfulMonad m] in
theorem evalIn_binary_left {symbol : Text} {l r : Expr} (hside : l.chainSide = .left) :
    (binary symbol l r).evalIn o w = (do
      let chain := (binary symbol l r).links .left
      let operators ← chain.mapM fun link => ofExcept (o.operatorNamed link.symbol)
      let first ← ((binary symbol l r).chainEnd .left).evalIn o w
      foldLeftward w.applyAt (evalIn o w) first (chain.zip operators)) := by
  rw [evalIn]
  generalize l.chainSide = side at hside
  subst hside
  dsimp only [foldLeftward]
  congr 1
  funext operators
  congr 1
  funext first
  generalize (binary symbol l r).links .left = chain
  conv_rhs => rw [← List.attach_map_subtype_val chain]
  rw [List.zip_map_left, ← List.map_reverse, List.foldlM_map]
  rfl

theorem evalIn_binary_right {symbol : Text} {l r : Expr} (hside : l.chainSide = .right) :
    (binary symbol l r).evalIn o w = (do
      let chain := (binary symbol l r).links .right
      let operators ← chain.mapM fun link => ofExcept (o.operatorNamed link.symbol)
      let lefts ← chain.mapM fun link => link.operand.evalIn o w
      let last ← ((binary symbol l r).chainEnd .right).evalIn o w
      foldRightward w.applyAt last ((chain.zip operators).zip lefts)) := by
  rw [evalIn]
  generalize l.chainSide = side at hside
  subst hside
  dsimp only [foldRightward]
  rw [Failing.mapM_attach fun link : Link => link.operand.evalIn o w]

theorem evalIn_call {name : Text} {args : List Expr} :
    (call name args).evalIn o w = (do
      let f ← ofExcept (o.functionNamed name)
      let values ← args.mapM (evalIn o w)
      w.applyAt (.call name) f.rule values) := by
  rw [evalIn, Failing.mapM_attach]

theorem evalPlainAllIn_eq_mapM (es : List Expr) :
    evalPlainAllIn o w es = es.mapM (evalPlainIn o w) := by
  induction es with
  | nil => rw [evalPlainAllIn, List.mapM_nil]
  | cons e rest ih => rw [List.mapM_cons, evalPlainAllIn, ih]

theorem mapM_of_looked {chain : List Link} {operators : List Operator}
    (h : Looked o chain operators) :
    (chain.mapM fun link => ofExcept (o.operatorNamed link.symbol)) =
      (pure operators : m (List Operator)) := by
  induction h with
  | nil => rw [List.mapM_nil]
  | cons hop _ ih =>
      rw [List.mapM_cons, hop, ih]
      simp [ofExcept]

/-! ### Plain evaluation as a fold -/

/-- Plain evaluation is the fold down the left side, too. -/
theorem evalPlainIn_leftward {e : Expr} : ∀ {operators : List Operator},
    Looked o (e.links .left) operators →
    e.evalPlainIn o w = (do
      let first ← (e.chainEnd .left).evalPlainIn o w
      foldLeftward w.applyAt (evalPlainIn o w) first ((e.links .left).zip operators)) := by
  induction e using links.induct .left with
  | case1 symbol l r _ ih =>
      intro operators h
      simp only [links] at h
      cases h with
      | @cons _ op _ rest hop hrest =>
          simp only [links, chainEnd, List.zip_cons_cons, foldLeftward_cons, evalPlainIn]
          rw [ih hrest, bind_assoc]
          simp only [hop, ofExcept, pure_bind]
  | case2 symbol l r hside ih => exact absurd hside (by decide)
  | case3 e hne =>
      intro operators h
      rw [links_eq_nil hne, chainEnd_eq_self hne]
      exact (bind_pure _).symm

/-- And it is the fold down the right side, with the operands on the left evaluated first. -/
theorem evalPlainIn_rightward {e : Expr} : ∀ {operators : List Operator},
    Looked o (e.links .right) operators →
    e.evalPlainIn o w = (do
      let lefts ← (e.links .right).mapM fun link => link.operand.evalPlainIn o w
      let last ← (e.chainEnd .right).evalPlainIn o w
      foldRightward w.applyAt last (((e.links .right).zip operators).zip lefts)) := by
  induction e using links.induct .right with
  | case1 symbol l r hside ih => exact absurd hside (by decide)
  | case2 symbol l r _ ih =>
      intro operators h
      simp only [links] at h
      cases h with
      | @cons _ op _ rest hop hrest =>
          simp only [links, chainEnd, List.mapM_cons, List.zip_cons_cons, evalPlainIn, bind_assoc,
            pure_bind, foldRightward_cons]
          rw [ih hrest]
          simp only [hop, ofExcept, pure_bind, bind_assoc]
  | case3 e hne =>
      intro operators h
      rw [links_eq_nil hne, chainEnd_eq_self hne, List.mapM_nil, pure_bind]
      exact (bind_pure _).symm

/-! ### The two agree -/

/-- A chain is evaluated as plainly as its operands and its end are, whichever side the loop takes. -/
theorem evalIn_binary_eq_evalPlainIn {symbol : Text} {l r : Expr}
    (hk : (binary symbol l r).knowsBinaries o = true)
    (hoperand : ∀ side, ∀ link ∈ (binary symbol l r).links side,
      link.operand.evalIn o w = link.operand.evalPlainIn o w)
    (hend : ∀ side, ((binary symbol l r).chainEnd side).evalIn o w =
      ((binary symbol l r).chainEnd side).evalPlainIn o w) :
    (binary symbol l r).evalIn o w = (binary symbol l r).evalPlainIn o w := by
  cases hside : l.chainSide with
  | left =>
      obtain ⟨operators, hlooked⟩ := exists_looked (o := o)
        fun link hlink => ((knowsBinaries_chain hk).2 link hlink).1
      rw [evalIn_binary_left hside, evalPlainIn_leftward hlooked]
      dsimp only
      rw [mapM_of_looked hlooked, pure_bind, hend]
      refine bind_congr fun first => foldLeftward_congr first fun x hx => ?_
      exact hoperand .left x.1 (List.of_mem_zip hx).1
  | right =>
      obtain ⟨operators, hlooked⟩ := exists_looked (o := o)
        fun link hlink => ((knowsBinaries_chain hk).2 link hlink).1
      rw [evalIn_binary_right hside, evalPlainIn_rightward hlooked]
      dsimp only
      rw [mapM_of_looked hlooked, pure_bind, hend, Failing.mapM_congr_mem (hoperand .right)]

theorem evalIn_eq_evalPlainIn (w : World m) (e : Expr) :
    e.knowsBinaries o = true → e.evalIn o w = e.evalPlainIn o w := by
  induction e using inductionOnCalls with
  | hconst value => intro _; rw [evalIn, evalPlainIn]
  | hvar name => intro _; rw [evalIn, evalPlainIn]
  | hunary symbol operand ih =>
      intro hk
      rw [knowsBinaries] at hk
      rw [evalIn, evalPlainIn]
      refine bind_congr fun op => ?_
      cases op.unary with
      | none => rfl
      | some rule => rw [ih hk]
  | hcall name args ih =>
      intro hk
      rw [knowsBinaries, knowsAllBinaries_iff] at hk
      rw [evalIn_call, evalPlainIn, evalPlainAllIn_eq_mapM,
        Failing.mapM_congr_mem fun arg harg => ih arg harg (hk arg harg)]
  | hbinary symbol l r ihend ihlink =>
      intro hk
      refine evalIn_binary_eq_evalPlainIn hk (fun side link hlink => ?_) fun side => ?_
      · exact ihlink side link hlink ((knowsBinaries_chain hk).2 link hlink).2
      · exact ihend side (knowsBinaries_chain hk).1

end World

/-! ### In the world of functions -/

theorem eval_eq_evalPlain (o : Options) (get : Text → Option Value) (e : Expr)
    (hk : e.knowsBinaries o = true) : e.eval o get = e.evalPlain o get :=
  evalIn_eq_evalPlainIn _ e hk

theorem eval_const (value : Literal) : (const value).eval o get = .ok value.quantity := by
  rw [eval, evalIn]
  rfl

theorem eval_var (name : Text) : (var name).eval o get = variableValue get name := by
  rw [eval, evalIn, World.value_answering]

theorem eval_unary (symbol : Text) (operand : Expr) :
    (unary symbol operand).eval o get = (do
      match (← o.operatorNamed symbol).unary with
      | none => throw (.noPrefixForm symbol)
      | some rule =>
        let a ← operand.eval o get
        rule.applyAt (.operator symbol) [a]) := by
  rw [eval, evalIn, World.applyAt_answering, Failing.ofExcept_eq]
  rfl

theorem eval_binary_left {symbol : Text} {l r : Expr} (hside : l.chainSide = .left) :
    (binary symbol l r).eval o get = (do
      let chain := (binary symbol l r).links .left
      let operators ← chain.mapM fun link => o.operatorNamed link.symbol
      let first ← ((binary symbol l r).chainEnd .left).eval o get
      foldLeftward Rule.applyAt (eval o get) first (chain.zip operators)) := by
  rw [eval, evalIn_binary_left hside]
  simp only [World.applyAt_answering, Failing.ofExcept_eq]
  rfl

theorem eval_binary_right {symbol : Text} {l r : Expr} (hside : l.chainSide = .right) :
    (binary symbol l r).eval o get = (do
      let chain := (binary symbol l r).links .right
      let operators ← chain.mapM fun link => o.operatorNamed link.symbol
      let lefts ← chain.mapM fun link => link.operand.eval o get
      let last ← ((binary symbol l r).chainEnd .right).eval o get
      foldRightward Rule.applyAt last ((chain.zip operators).zip lefts)) := by
  rw [eval, evalIn_binary_right hside]
  simp only [World.applyAt_answering, Failing.ofExcept_eq]
  rfl

theorem eval_call {name : Text} {args : List Expr} :
    (call name args).eval o get = (do
      let f ← o.functionNamed name
      let values ← args.mapM (eval o get)
      f.rule.applyAt (.call name) values) := by
  rw [eval, evalIn_call, World.applyAt_answering, Failing.ofExcept_eq]
  rfl

theorem evalPlain_const (value : Literal) : (const value).evalPlain o get = .ok value.quantity := rfl

theorem evalPlain_var (name : Text) : (var name).evalPlain o get = variableValue get name := by
  rw [evalPlain, evalPlainIn, World.value_answering]

theorem evalPlain_unary (symbol : Text) (operand : Expr) :
    (unary symbol operand).evalPlain o get = (do
      match (← o.operatorNamed symbol).unary with
      | none => throw (.noPrefixForm symbol)
      | some rule =>
        let a ← operand.evalPlain o get
        rule.applyAt (.operator symbol) [a]) := by
  rw [evalPlain, evalPlainIn, World.applyAt_answering, Failing.ofExcept_eq]
  rfl

theorem evalPlain_binary (symbol : Text) (l r : Expr) :
    (binary symbol l r).evalPlain o get = (do
      let a ← l.evalPlain o get
      let b ← r.evalPlain o get
      let op ← o.operatorNamed symbol
      op.binary.applyAt (.operator symbol) [a, b]) := by
  rw [evalPlain, evalPlainIn, World.applyAt_answering, Failing.ofExcept_eq]
  rfl

theorem evalPlain_call (name : Text) (args : List Expr) :
    (call name args).evalPlain o get = (do
      let f ← o.functionNamed name
      let values ← args.mapM (evalPlain o get)
      f.rule.applyAt (.call name) values) := by
  rw [evalPlain, evalPlainIn, World.applyAt_answering, Failing.ofExcept_eq, evalPlainAllIn_eq_mapM]
  rfl

/-- Plain evaluation is the fold down the left side, too. -/
theorem evalPlain_leftward {e : Expr} {operators : List Operator}
    (h : Looked o (e.links .left) operators) :
    e.evalPlain o get = (do
      let first ← (e.chainEnd .left).evalPlain o get
      foldLeftward Rule.applyAt (evalPlain o get) first ((e.links .left).zip operators)) := by
  rw [evalPlain, evalPlainIn_leftward h, World.applyAt_answering]
  rfl

/-- And the fold down the right side. -/
theorem evalPlain_rightward {e : Expr} {operators : List Operator}
    (h : Looked o (e.links .right) operators) :
    e.evalPlain o get = (do
      let lefts ← (e.links .right).mapM fun link => link.operand.evalPlain o get
      let last ← (e.chainEnd .right).evalPlain o get
      foldRightward Rule.applyAt last (((e.links .right).zip operators).zip lefts)) := by
  rw [evalPlain, evalPlainIn_rightward h, World.applyAt_answering]
  rfl

/-! ### Parsed trees -/

theorem WellFormed.knowsBinaries {P : Literal → Prop} {e : Expr} (h : e.WellFormed o P) :
    e.knowsBinaries o = true := by
  induction h with
  | const => rfl
  | var => rfl
  | unary _ _ _ ih => exact ih
  | binary known _ _ ihl ihr => simp [Expr.knowsBinaries, known, ihl, ihr]
  | call _ _ _ _ ih => exact knowsAllBinaries_iff.mpr ih

/-- **The loop over chains computes what plain recursion computes,** the same value or the same
failure, for every tree whose operations on two operands all have operators that exist.  Every
parsed tree is one of them.  The storage may hold anything and the rules may be any, and in a world
where they keep a state of their own the two agree on that as well. -/
theorem eval_refines_evalPlain (o : Options) :
    (∀ e : Expr, e.knowsBinaries o = true → ∀ get, e.eval o get = e.evalPlain o get) ∧
      (∀ source equation, Equation.parse o source = .ok equation →
        ∀ get, equation.root.eval o get = equation.root.evalPlain o get) ∧
      ∀ e : Expr, e.knowsBinaries o = true → ∀ (m : Type → Type) [Monad m] [LawfulMonad m]
        [MonadExcept EvalFault m] (w : World m), e.evalIn o w = e.evalPlainIn o w := by
  refine ⟨fun e hk get => eval_eq_evalPlain o get e hk, fun source equation h get => ?_,
    fun e hk m _ _ _ w => evalIn_eq_evalPlainIn w e hk⟩
  exact eval_eq_evalPlain o get equation.root (wellFormed_of_parse h).1.knowsBinaries

/-- Operations that nest on either side of each other, `(9 - (5 - 3)) - (8 - (4 - 1))`; an equation
with a function that is none of the library; and `[x] - ([x] - [x])`, where the storage counts how
often it is asked. -/
theorem eval_nested_both_sides :
    let double : Rule := .custom "double".toList fun
      | [q] => .of ((q.multiply (.int 2)).map .number)
      | _ => .raised (.misuse (.stated "double takes one argument".toList))
    let o : Options :=
      { Options.standard with functions := [⟨"double".toList, double, 1, some 1⟩] }
    let counting : World (ExceptT EvalFault (StateM Nat)) :=
      ⟨fun _ => modifyGet fun n : Nat => (some (.number (.int n)), n + 1),
        fun rule args => pure (rule.call args)⟩
    (binary ['-']
      (binary ['-'] (const (.int 9)) (binary ['-'] (const (.int 5)) (const (.int 3))))
      (binary ['-'] (const (.int 8)) (binary ['-'] (const (.int 4)) (const (.int 1))))).eval
        o (fun _ => none) = .ok (.int 2) ∧
    (∃ equation, Equation.parse o "9-double(3)-1".toList = .ok equation ∧
      equation.root.eval o (fun _ => none) = .ok (.int 2)) ∧
    ((binary ['-'] (var ['x']) (binary ['-'] (var ['x']) (var ['x']))).evalIn o counting).run.run 0 =
      (.ok (.int 1), 3) := by
  intro double o counting
  obtain ⟨htrees, hparsed, hworlds⟩ := eval_refines_evalPlain o
  refine ⟨htrees _ (by decide) _, ⟨_, rfl, hparsed "9-double(3)-1".toList _ rfl _⟩, ?_⟩
  rw [hworlds _ (by decide)]
  rfl

end Expr

end Reckon
