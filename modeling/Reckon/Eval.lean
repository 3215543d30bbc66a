/-
Evaluating a tree.

Operands are evaluated before the operation, from left to right, and the first failure ends
everything.  Binary operations that nest along one side are a chain.  A chain is collected and
then folded, so that its length does not nest the evaluation: a tree whose left operand is
itself a binary operation is a chain that runs down the left side, any other binary operation
begins a chain that runs down the right side.  All operators of a chain are looked up before
any of its operands is evaluated.

Evaluation asks a storage for the values of variables and calls rules, and both are given to
it.  They may live in any monad with failures, where they can keep a state of their own.  `eval`
is evaluation where a storage is a function and a rule does nothing but respond.
-/
import Reckon.Expr
import Reckon.Options
import Reckon.Fault

namespace Reckon

/-! ### One rule -/

/-- The number that comes of a response, if it is one within the limits. -/
def Response.settleAt (site : Site) : Response → Except EvalFault Quantity
  | returned v => v.settle.mapError (.failed site)
  | raised e => .error (.failed site e.failure)
  | threw thrown => .error (.passed thrown)

/-- What a rule makes of its arguments. -/
def Rule.applyAt (site : Site) (rule : Rule) (args : List Quantity) : Except EvalFault Quantity :=
  (rule.call args).settleAt site

/-! ### Looking up -/

namespace Options

/-- The operator of a symbol in a tree. -/
def operatorNamed (o : Options) (symbol : Text) : Except EvalFault Operator :=
  match o.operator? symbol with
  | some op => .ok op
  | none => .error (.unknownOperator symbol)

/-- The function of a name in a tree. -/
def functionNamed (o : Options) (name : Text) : Except EvalFault MathFunction :=
  match o.function? name with
  | some f => .ok f
  | none => .error (.unknownFunction name)

end Options

/-- The value of a variable for which a storage has given an answer.  A stored `nothing` is the same
as no value. -/
def answered (name : Text) : Option Value → Except EvalFault Quantity
  | none | some .nothing => .error (.unresolved name)
  | some v => v.check.mapError (.failed (.variable name))

/-- The value of a variable. -/
def variableValue (get : Text → Option Value) (name : Text) : Except EvalFault Quantity :=
  answered name (get name)

/-! ### What a tree is evaluated in -/

/-- What evaluation meets outside of a tree: a storage that is asked for values, and rules that are
called.  Either may do more than that, as far as the monad lets it. -/
structure World (m : Type → Type) where
  ask : Text → m (Option Value)
  call : Rule → List Quantity → m Response

namespace World

/-- The world in which a storage is a function and a rule does nothing but respond. -/
def answering (get : Text → Option Value) : World (Except EvalFault) where
  ask name := .ok (get name)
  call rule args := .ok (rule.call args)

/-- The value of a variable. -/
def value {m : Type → Type} [Monad m] [MonadExcept EvalFault m] (w : World m) (name : Text) :
    m Quantity := do
  ofExcept (answered name (← w.ask name))

/-- What a rule makes of its arguments. -/
def applyAt {m : Type → Type} [Monad m] [MonadExcept EvalFault m] (w : World m) (site : Site)
    (rule : Rule) (args : List Quantity) : m Quantity := do
  ofExcept ((← w.call rule args).settleAt site)

end World

/-! ### Chains -/

/-- The side of an operation along which a chain goes on. -/
inductive Side
  | left | right
deriving DecidableEq

/-- One operation of a chain: its operator, and the operand that hangs off the chain. -/
structure Link where
  symbol : Text
  operand : Expr

namespace Expr

/-- Whether the tree is an operation on two operands. -/
def isBinary : Expr → Bool
  | binary _ _ _ => true
  | _ => false

/-- The side along which a chain runs that begins with the given left operand. -/
def chainSide (l : Expr) : Side := if l.isBinary then .left else .right

/-- The operations of the chain down one side of a tree, outermost first. -/
def links (side : Side) : Expr → List Link
  | binary symbol l r =>
    match side with
    | .left => ⟨symbol, r⟩ :: l.links side
    | .right => ⟨symbol, l⟩ :: r.links side
  | _ => []

/-- The operand at the inner end of that chain. -/
def chainEnd (side : Side) : Expr → Expr
  | binary _ l r =>
    match side with
    | .left => l.chainEnd side
    | .right => r.chainEnd side
  | e => e

theorem size_chainEnd_le (side : Side) (e : Expr) : (e.chainEnd side).size ≤ e.size := by
  fun_induction chainEnd side e with
  | case1 _ l r hside ih => subst hside; simp only [size]; omega
  | case2 _ l r hside ih => subst hside; simp only [size]; omega
  | case3 e _ => exact Nat.le_refl _

theorem size_chainEnd_lt (side : Side) (symbol : Text) (l r : Expr) :
    ((binary symbol l r).chainEnd side).size < (binary symbol l r).size := by
  have hl := size_chainEnd_le .left l
  have hr := size_chainEnd_le .right r
  cases side <;> simp only [chainEnd, size] <;> omega

theorem size_operand_lt {side : Side} {e : Expr} {link : Link} (h : link ∈ e.links side) :
    link.operand.size < e.size := by
  fun_induction links side e with
  | case1 symbol l r hside ih =>
      subst hside
      rcases List.mem_cons.mp h with rfl | h'
      · simp only [size]; omega
      · have := ih h'
        simp only [size]; omega
  | case2 symbol l r hside ih =>
      subst hside
      rcases List.mem_cons.mp h with rfl | h'
      · simp only [size]; omega
      · have := ih h'
        simp only [size]; omega
  | case3 e _ => simp at h

theorem size_arg_lt {name : Text} {args : List Expr} {e : Expr} (h : e ∈ args) :
    e.size < (call name args).size := by
  induction args with
  | nil => simp at h
  | cons a rest ih =>
      simp only [size, sizeAll] at ih ⊢
      rcases List.mem_cons.mp h with rfl | h'
      · omega
      · have := ih h'
        omega

/-! ### Evaluation -/

/-- Evaluates a tree in a world. -/
def evalIn {m : Type → Type} [Monad m] [MonadExcept EvalFault m] (o : Options) (w : World m)
    (e : Expr) : m Quantity :=
  match e with
  | const value => pure value.quantity
  | var name => w.value name
  | unary symbol operand => do
    match (← ofExcept (o.operatorNamed symbol)).unary with
    | none => throw (.noPrefixForm symbol)
    | some rule =>
      let a ← evalIn o w operand
      w.applyAt (.operator symbol) rule [a]
  | binary symbol l r => do
    let side := l.chainSide
    let chain := (binary symbol l r).links side
    let operators ← chain.mapM fun link => ofExcept (o.operatorNamed link.symbol)
    match side with
    | .left =>
      let first ← evalIn o w ((binary symbol l r).chainEnd .left)
      (chain.attach.zip operators).reverse.foldlM (fun value (link, op) => do
        let right ← evalIn o w link.1.operand
        w.applyAt (.operator link.1.symbol) op.binary [value, right]) first
    | .right =>
      let lefts ← chain.attach.mapM fun link => evalIn o w link.1.operand
      let last ← evalIn o w ((binary symbol l r).chainEnd .right)
      ((chain.zip operators).zip lefts).reverse.foldlM (fun value ((link, op), left) =>
        w.applyAt (.operator link.symbol) op.binary [left, value]) last
  | call name args => do
    let f ← ofExcept (o.functionNamed name)
    let values ← args.attach.mapM fun arg => evalIn o w arg.1
    w.applyAt (.call name) f.rule values
termination_by e.size
decreasing_by
  · simp only [size]; omega
  · exact size_chainEnd_lt _ _ _ _
  · exact size_operand_lt link.2
  · exact size_operand_lt link.2
  · exact size_chainEnd_lt _ _ _ _
  · exact size_arg_lt arg.2

/-- The value of a tree, with variables looked up by `get`. -/
def eval (o : Options) (get : Text → Option Value) (e : Expr) : Except EvalFault Quantity :=
  e.evalIn o (.answering get)

end Expr
end Reckon
