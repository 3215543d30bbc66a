/-
What form a run of tokens has.

A run is a literal, a variable, a parenthesized run, a call, a chain of operators or a
prefix operator before another run.  Each kind of parser looks for its own forms: it finds
one, finds none, or finds one that is wrong inside.  The first registered parser that does
not pass the run by decides.  Deciding looks at one level only; the parts of the form are
runs themselves, and they are shorter.
-/
import Reckon.Options
import Reckon.Token
import Reckon.Fault
import Reckon.Expr

namespace Reckon

/-- The form of a run of tokens.  A chain keeps its operators apart from its operands, one more. -/
inductive Shape
  | leaf (e : Expr)
  | group (interior : List Token)
  | call (name : Text) (args : List (List Token))
  | chain (side : Associativity) (first : List Token) (rest : List (Token × List Token))
  | prefixed (symbol : Text) (operand : List Token)

namespace Shape

/-- The runs that a form is made of, in order. -/
def parts : Shape → List (List Token)
  | leaf _ => []
  | group interior => [interior]
  | call _ args => args
  | chain _ first rest => first :: rest.map (·.2)
  | prefixed _ operand => [operand]

/-- Groups a chain to the left. -/
def foldLeft (first : Expr) (rest : List (Text × Expr)) : Expr :=
  rest.foldl (fun tree (symbol, e) => .binary symbol tree e) first

/-- Groups a chain to the right. -/
def foldRight (first : Expr) : List (Text × Expr) → Expr
  | [] => first
  | (symbol, e) :: rest => .binary symbol first (foldRight e rest)

/-- The tree of a form, given the trees of its parts, as many as there are parts. -/
def tree : Shape → List Expr → Expr
  | leaf e, _ => e
  | group _, e :: _ => e
  | call name _, es => .call name es
  | chain side _ rest, e :: es =>
    let links := (rest.map (·.1.text)).zip es
    match side with
    | .left => foldLeft e links
    | .right => foldRight e links
  | prefixed symbol _, e :: _ => .unary symbol e
  | _, [] => .call [] []

/-! ### Faults -/

/-- A fault at the place of some tokens. -/
def fault {α : Type} (source : Text) (tokens : List Token) (cause : ParseCause) :
    Except (Located ParseCause) α :=
  .error ⟨cause, .covering source tokens⟩

/-- The part of the source that some tokens cover. -/
def covered (source : Text) (tokens : List Token) : Text :=
  (Excerpt.covering source tokens).snippet

/-! ### Single tokens -/

/-- The number that a numeral stands for: whole if it has neither point nor exponent. -/
def literal? (n : Numeral) : Option Literal :=
  if n.isWhole then
    match Numeral.whole? n.whole with
    | some m => if bitLength m ≤ maxBits then some (.int m) else none
    | none => none
  else
    let x := n.toFloat false
    if x.isFinite then some (.float x) else none

/-- A literal. -/
def constantLeaf? (source : Text) : List Token → Except (Located ParseCause) (Option Shape)
  | [t] =>
    if t.kind != .value then .ok none
    else match Numeral.read? false t.text with
      | none => .ok none
      | some n => match literal? n with
        | some l => .ok (some (.leaf (.const l)))
        | none => fault source [t] (.literalOutOfRange t.text)
  | _ => .ok none

/-- A variable.  Between delimiters any name is legal that is not empty and holds neither of them. -/
def variableLeaf? (p : Pattern) (source : Text) :
    List Token → Except (Located ParseCause) (Option Shape)
  | [t] =>
    if t.kind != .value then .ok none
    else match p with
      | .plain _ _ => .ok (if Text.isName t.text then some (.leaf (.var t.text)) else none)
      | .escaped opening closing =>
        if t.text.length < 2 || t.text.head? != some opening || t.text.getLast? != some closing then
          .ok none
        else
          let name := t.text.tail.dropLast
          if name.isEmpty || name.contains opening || name.contains closing then
            fault source [t] (.invalidVariable t.text)
          else .ok (some (.leaf (.var name)))
  | _ => .ok none

/-! ### Parentheses -/

/-- Whether the parenthesis that closes the `depth` open ones is the last token. -/
def closesLast : Nat → List Token → Bool
  | _, [] => false
  | depth, t :: rest =>
    match t.kind, depth with
    | .opening, _ => closesLast (depth + 1) rest
    | .closing, 0 | .closing, 1 => rest.isEmpty
    | .closing, n + 2 => closesLast (n + 1) rest
    | _, _ => closesLast depth rest

/-- The depth of parentheses behind a token. -/
def depthAfter (depth : Int) (t : Token) : Int :=
  match t.kind with
  | .opening => depth + 1
  | .closing => depth - 1
  | _ => depth

/-- Splits a run at the separators outside its parentheses: the first group, and the others. -/
def splitGroups (depth : Int) : List Token → List Token × List (List Token)
  | [] => ([], [])
  | t :: rest =>
    let (head, more) := splitGroups (depthAfter depth t) rest
    if t.kind == .separator && depth == 0 then ([], head :: more) else (t :: head, more)

/-- The groups of a run between separators; an empty run has no group. -/
def arguments (tokens : List Token) : List (List Token) :=
  if tokens.isEmpty then [] else
    let (first, more) := splitGroups 0 tokens
    first :: more

/-- The call of the function that the token `name` names, where `tokens` is the whole run. -/
def callOf (o : Options) (source : Text) (name : Token) (tokens interior : List Token) :
    Except (Located ParseCause) Shape :=
  match o.function? name.text with
  | none => fault source [name] (.unknownFunction name.text)
  | some f =>
    let args := arguments interior
    if args.any (·.isEmpty) then fault source tokens (.missingArgument name.text)
    else if !f.accepts args.length then
      fault source tokens (.argumentCount f.name f.arityText args.length)
    else .ok (.call f.name args)

/-- A parenthesized run or a call, if its last parenthesis closes its first one. -/
def parenthesis? (o : Options) (source : Text) (tokens : List Token) :
    Except (Located ParseCause) (Option Shape) :=
  match tokens with
  | first :: second :: rest =>
    if (tokens.getLast?.map Token.kind) != some .closing then .ok none
    else if first.kind == .opening then
      if !closesLast 1 (second :: rest) then .ok none
      else
        let interior := (second :: rest).dropLast
        if interior.isEmpty then fault source tokens .emptyParentheses
        else if 1 < (arguments interior).length then
          fault source tokens (.unexpectedSeparator (covered source tokens))
        else .ok (some (.group interior))
    else if first.kind == .value && second.kind == .opening && Text.isName first.text then
      if !closesLast 1 rest then .ok none
      else (callOf o source first tokens rest.dropLast).map some
    else .ok none
  | _ => .ok none

/-! ### Operators -/

/-- The operator that a token stands for. -/
def operatorOf (o : Options) (source : Text) (t : Token) :
    Except (Located ParseCause) Operator :=
  match o.operator? t.text with
  | some op => .ok op
  | none => fault source [t] (.unknownOperator t.text)

/-- Marks each token that is an operator between two operands outside all parentheses: it follows a
value or a closing parenthesis, which `afterOperand` says of the first token. -/
def markBinary (o : Options) (source : Text) (depth : Int) (afterOperand : Bool) :
    List Token → Except (Located ParseCause) (List (Token × Option Operator))
  | [] => .ok []
  | t :: rest => do
    let mark ←
      if t.kind == .operator && depth == 0 && afterOperand then
        some <$> operatorOf o source t
      else pure none
    let more ← markBinary o source (depthAfter depth t) (t.kind == .value || t.kind == .closing) rest
    pure ((t, mark) :: more)

/-- The first of the marked operators that no other is weaker than. -/
def weakest? (marked : List (Token × Option Operator)) : Option Operator :=
  marked.foldl (fun best (_, mark) =>
    match best, mark with
    | some b, some op => if op.precedence < b.precedence then some op else some b
    | none, op => op
    | best, none => best) none

/-- Cuts a run at the marked operators of one precedence. -/
def cut (level : Int) :
    List (Token × Option Operator) → List Token × List (Token × List Token)
  | [] => ([], [])
  | (t, mark) :: rest =>
    let (operand, links) := cut level rest
    if (mark.map Operator.precedence) == some level then ([], (t, operand) :: links)
    else (t :: operand, links)

/-- A prefix operator before the rest of the run. -/
def prefixed? (o : Options) (source : Text) :
    List Token → Except (Located ParseCause) (Option Shape)
  | [] => .ok none
  | t :: rest =>
    if t.kind != .operator then .ok none
    else do
      let op ← operatorOf o source t
      if op.unary.isNone then fault source [t] (.noPrefixForm t.text)
      else if rest.isEmpty then fault source [t] (.missingOperand t.text)
      else pure (some (.prefixed t.text rest))

/-- A chain of the weakest operators, or a prefix operator if nothing is between two operands. -/
def operation? (o : Options) (source : Text) (tokens : List Token) :
    Except (Located ParseCause) (Option Shape) := do
  let marked ← markBinary o source 0 false tokens
  match weakest? marked with
  | none => prefixed? o source tokens
  | some op =>
    let (first, links) := cut op.precedence marked
    match links.getLast? with
    | some (t, []) => fault source [t] (.missingRightOperand t.text)
    | _ => pure (some (.chain op.associativity first links))

/-! ### The deciding parser -/

/-- What one kind of parser makes of a run. -/
def ofKind (o : Options) (source : Text) (tokens : List Token) :
    ParserKind → Except (Located ParseCause) (Option Shape)
  | .constant => constantLeaf? source tokens
  | .variable => variableLeaf? o.pattern source tokens
  | .parenthesis => parenthesis? o source tokens
  | .operation => operation? o source tokens

/-- The first form that one of the given parsers finds. -/
def first? (o : Options) (source : Text) (tokens : List Token) :
    List ParserKind → Except (Located ParseCause) (Option Shape)
  | [] => .ok none
  | kind :: rest => do
    match ← ofKind o source tokens kind with
    | some shape => pure (some shape)
    | none => first? o source tokens rest

/-- The form of a run. -/
def of (o : Options) (source : Text) (tokens : List Token) :
    Except (Located ParseCause) Shape := do
  match ← first? o source tokens o.parsers with
  | some shape => pure shape
  | none => fault source tokens (.unreadable (covered source tokens))

end Shape
end Reckon
