/-
Equations as trees.

A tree keeps operators and functions by name; what they do is looked up when the tree is
evaluated.  `render` writes a tree with parentheses around every operation, so that no
precedence is needed to read it back.  `walk` lists the parts of trees in the order in
which they are written, each part before its own parts, and works through a list of trees
still to be visited.
-/
import Reckon.Pattern
import Reckon.Quantity
import Reckon.Decimal.Notation

namespace Reckon

/-- A number written in an equation. -/
inductive Literal
  | int (n : Int)
  | float (x : Float)

/-- An equation, or a part of one. -/
inductive Expr
  | const (value : Literal)
  | var (name : Text)
  | unary (symbol : Text) (operand : Expr)
  | binary (symbol : Text) (left right : Expr)
  | call (name : Text) (args : List Expr)

namespace Literal

/-- The number that a literal stands for. -/
def quantity : Literal → Quantity
  | int n => .int n
  | float x => .float x

/-- Digits without sign or exponent; a double always has a point. -/
def sizeText : Literal → Text
  | int n => Text.ofNat n.natAbs
  | float x =>
    if x.isNaN then "NaN.0".toList
    else if x.isInf then "Infinity.0".toList
    else (Decimal.shortest x).positional

/-- Whether the number is below zero. -/
def isNegative : Literal → Bool
  | int n => n < 0
  | float x => x < 0

/-- The literal as text that can be read back; a negative one becomes a negation. -/
def render (l : Literal) : Text :=
  if l.isNegative then '(' :: '-' :: l.sizeText ++ [')'] else l.sizeText

end Literal

namespace Expr

/-! ### Writing -/

mutual
/-- The tree as text, with variables written in the given pattern. -/
def render (p : Pattern) : Expr → Text
  | const value => value.render
  | var name => p.wrap name
  | unary symbol operand => '(' :: symbol ++ render p operand ++ [')']
  | binary symbol left right => '(' :: render p left ++ symbol ++ render p right ++ [')']
  | call name args => name ++ '(' :: Text.join [','] (renderAll p args) ++ [')']

/-- Each of some trees as text. -/
def renderAll (p : Pattern) : List Expr → List Text
  | [] => []
  | e :: rest => render p e :: renderAll p rest
end

/-! ### Equality -/

mutual
/-- Whether two trees have the same form and names, and equal numbers. -/
def same : Expr → Expr → Bool
  | const a, const b => a.quantity.same b.quantity
  | var m, var n => m == n
  | unary s e, unary t f => s == t && same e f
  | binary s l r, binary t m q => s == t && same l m && same r q
  | call m as, call n bs => m == n && sameAll as bs
  | _, _ => false

/-- Whether two lists of trees agree one by one. -/
def sameAll : List Expr → List Expr → Bool
  | [], [] => true
  | a :: as, b :: bs => same a b && sameAll as bs
  | _, _ => false
end

/-! ### The parts of a tree -/

/-- The parts directly below, in the order in which they are written. -/
def children : Expr → List Expr
  | const _ | var _ => []
  | unary _ operand => [operand]
  | binary _ left right => [left, right]
  | call _ args => args

mutual
/-- The number of parts, the tree itself included. -/
def size : Expr → Nat
  | const _ | var _ => 1
  | unary _ operand => operand.size + 1
  | binary _ left right => left.size + right.size + 1
  | call _ args => sizeAll args + 1

/-- The number of parts of some trees together. -/
def sizeAll : List Expr → Nat
  | [] => 0
  | e :: rest => e.size + sizeAll rest
end

theorem sizeAll_append (l r : List Expr) : sizeAll (l ++ r) = sizeAll l + sizeAll r := by
  induction l with
  | nil => simp [sizeAll]
  | cons e rest ih => simp [sizeAll, ih, Nat.add_assoc]

theorem sizeAll_children (e : Expr) : sizeAll e.children + 1 = e.size := by
  cases e <;> simp [children, size, sizeAll]

/-- The parts of the trees that wait to be visited, each part before its own parts. -/
def walk : List Expr → List Expr
  | [] => []
  | e :: rest => e :: walk (e.children ++ rest)
termination_by stack => sizeAll stack
decreasing_by
  have := sizeAll_children e
  simp only [sizeAll_append, sizeAll]
  omega

/-- All parts of a tree. -/
def nodes (e : Expr) : List Expr := walk [e]

/-- The name of a variable. -/
def variableName? : Expr → Option Text
  | var name => some name
  | _ => none

/-- The names of the variables in a tree, sorted, each once. -/
def variableNames (e : Expr) : List Text := Text.sorted (e.nodes.filterMap variableName?)

end Expr
end Reckon
