/-
From tokens to a tree.

The form of a run of tokens says which runs to parse next.  Every such step goes one level
deeper, and a limit on the levels ends it: parentheses, arguments, prefix operators and the
operands of a chain each cost a level, while the length of a chain costs nothing.
-/
import Reckon.Shape
import Reckon.Token.Scan

namespace Reckon

/-- Parses a run of tokens that may use `levels` levels. -/
def parseLevels (o : Options) (source : Text) :
    Nat → List Token → Except (Located ParseCause) Expr
  | 0, tokens => Shape.fault source tokens (.tooDeep o.maxDepth)
  | levels + 1, tokens => do
    let shape ← Shape.of o source tokens
    shape.tree <$> shape.parts.mapM (parseLevels o source levels)

/-- The tree of the tokens of an equation. -/
def parseTokens (o : Options) (source : Text) (tokens : List Token) :
    Except (Located ParseCause) Expr :=
  if tokens.isEmpty then .error ⟨.emptyEquation, ⟨source, 0, source.length⟩⟩
  else parseLevels o source o.maxDepth tokens

/-- An equation: its tree, the text it was read from, and the options it was read with. -/
structure Equation where
  root : Expr
  source : Text
  options : Options

namespace Equation

/-- Reads an equation. -/
def parse (o : Options) (source : Text) : Except Fault Equation := do
  let tokens ← (tokenize o source).mapError Fault.scan
  let root ← (parseTokens o source tokens).mapError Fault.parse
  pure ⟨root, source, o⟩

/-- The names of the variables in the equation. -/
def variableNames (e : Equation) : List Text := e.root.variableNames

/-- The equation written anew, with parentheses around every operation. -/
def render (e : Equation) : Text := e.root.render e.options.pattern

end Equation
end Reckon
