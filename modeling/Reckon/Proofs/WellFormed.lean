/-
Trees that options know how to write and to read.

A tree is well formed for some options if its operators and functions exist there and are
used as they may be used, if its names can be written, and if its constants are of a kind
that the context asks for.  Which kind that is stays open: rendering copes with constants
that no equation contains, such as negative ones, while a parsed tree only holds constants
that have been read.

That parsed trees are well formed goes by the levels that parsing uses.  Each form passes
the property on from the trees of its parts to its own tree.
-/
import Reckon.Proofs.Levels
import Reckon.Proofs.Shape.Forms

namespace Reckon

namespace Options

theorem operator?_mem {o : Options} {text : Text} {op : Operator}
    (h : o.operator? text = some op) : op ∈ o.operators :=
  List.mem_reverse.mp (List.mem_of_find?_eq_some h)

theorem operator?_text {o : Options} {text : Text} {op : Operator}
    (h : o.operator? text = some op) : [op.symbol] = text := by
  simpa using List.find?_some h

theorem function?_name {o : Options} {text : Text} {f : MathFunction}
    (h : o.function? text = some f) : f.name = text := by
  simpa using List.find?_some h

end Options

namespace Expr

/-- A tree that fits the options, with constants of which `P` holds. -/
inductive WellFormed (o : Options) (P : Literal → Prop) : Expr → Prop
  | const {l : Literal} (h : P l) : WellFormed o P (const l)
  | var {name : Text} (h : o.pattern.allows name = true) : WellFormed o P (var name)
  | unary {symbol : Text} {op : Operator} {e : Expr} (known : o.operator? symbol = some op)
      (hunary : op.unary.isSome = true) (h : WellFormed o P e) : WellFormed o P (unary symbol e)
  | binary {symbol : Text} {op : Operator} {l r : Expr} (known : o.operator? symbol = some op)
      (hl : WellFormed o P l) (hr : WellFormed o P r) : WellFormed o P (binary symbol l r)
  | call {name : Text} {f : MathFunction} {args : List Expr} (hname : Text.isName name = true)
      (hf : o.function? name = some f) (haccepts : f.accepts args.length = true)
      (h : ∀ e ∈ args, WellFormed o P e) : WellFormed o P (call name args)

theorem WellFormed.imp {o : Options} {P Q : Literal → Prop} {e : Expr} (h : e.WellFormed o P)
    (hpq : ∀ l, P l → Q l) : e.WellFormed o Q := by
  induction h with
  | const hl => exact .const (hpq _ hl)
  | var hname => exact .var hname
  | unary known hunary _ ih => exact .unary known hunary ih
  | binary known _ _ ihl ihr => exact .binary known ihl ihr
  | call hname hf haccepts _ ih => exact .call hname hf haccepts ih

end Expr

/-! ### Parsed trees -/

/-- A literal that some numeral stands for. -/
def Literal.IsRead (l : Literal) : Prop := ∃ n, Shape.literal? n = some l

variable {o : Options} {source : Text} {P : Literal → Prop}

/-- A chain of known operators is well formed if its operands are, to whichever side it groups. -/
theorem wellFormed_folded (side : Associativity) {first : Expr} {links : List (Text × Expr)}
    (hfirst : first.WellFormed o P)
    (hlinks : ∀ x ∈ links, (∃ op, o.operator? x.1 = some op) ∧ x.2.WellFormed o P) :
    (Shape.folded side first links).WellFormed o P := by
  induction links generalizing first with
  | nil => cases side <;> exact hfirst
  | cons x rest ih =>
      obtain ⟨symbol, e⟩ := x
      obtain ⟨⟨op, known⟩, he⟩ := hlinks (symbol, e) (by simp)
      have hrest := fun y hy => hlinks y (List.mem_cons_of_mem _ hy)
      cases side with
      | left => exact ih (.binary known hfirst he) hrest
      | right => exact .binary known hfirst (ih he hrest)

/-- The tree of a form is well formed if the trees of its parts are. -/
theorem wellFormed_tree {ts : List Token} {shape : Shape} {es : List Expr}
    (h : Shape.of o source ts = .ok shape) (hlen : shape.parts.length = es.length)
    (hes : ∀ e ∈ es, e.WellFormed o Literal.IsRead) :
    (shape.tree es).WellFormed o Literal.IsRead := by
  obtain ⟨kind, -, hkind⟩ := Shape.exists_kind_of_eq_ok h
  cases kind with
  | constant =>
      obtain ⟨t, n, l, rfl, -, -, hlit, rfl⟩ := Shape.constantLeaf?_eq_some.mp hkind
      exact .const ⟨n, hlit⟩
  | «variable» =>
      obtain ⟨t, name, rfl, -, hname, -, rfl⟩ := Shape.variableLeaf?_eq_some.mp hkind
      exact .var hname
  | parenthesis =>
      rcases Shape.parenthesis?_eq_some hkind with
        ⟨a, xs, b, rfl, -, -, -, -, -, rfl⟩ |
        ⟨t, a, xs, b, f, rfl, -, hname, -, -, -, hf, -, haccepts, rfl⟩
      · match es, hlen with
        | [e], _ => exact hes e (by simp)
      · rw [← Options.function?_name hf] at hname hf
        exact .call hname hf (hlen ▸ haccepts) hes
  | operation =>
      obtain ⟨m, hm, ⟨-, hprefixed⟩ | ⟨op, -, rfl⟩⟩ := Shape.operation?_eq_some hkind
      · obtain ⟨t, rest, op, rfl, -, known, hunary, -, rfl⟩ := Shape.prefixed?_eq_some hprefixed
        match es, hlen with
        | [e], _ => exact .unary known hunary (hes e (by simp))
      · match es, hlen with
        | e :: more, _ =>
          rw [Shape.tree_chain]
          refine wellFormed_folded _ (hes e (by simp)) fun x hx => ?_
          obtain ⟨hsymbol, hmem⟩ := List.of_mem_zip hx
          obtain ⟨y, hy, hsymbol⟩ := List.mem_map.mp hsymbol
          obtain ⟨⟨-, b, known, -⟩, -⟩ := (Shape.cut_pieces op.precedence hm).2.2 y hy
          exact ⟨⟨b, hsymbol ▸ known⟩, hes _ (List.mem_cons_of_mem _ hmem)⟩

/-- Whatever is parsed is well formed. -/
theorem wellFormed_of_parseLevels : ∀ (n : Nat) {ts : List Token} {e : Expr},
    parseLevels o source n ts = .ok e → e.WellFormed o Literal.IsRead := by
  intro n
  induction n with
  | zero => intro ts e h; cases h
  | succ n ih =>
      intro ts e h
      obtain ⟨k, shape, es, hk, hshape, hes, rfl⟩ := parseLevels_eq_ok.mp h
      cases hk
      refine wellFormed_tree hshape hes.length_eq fun e he => ?_
      obtain ⟨i, hi, rfl⟩ := List.getElem_of_mem he
      exact ih (hes.get (by rw [hes.length_eq]; exact hi) hi)

theorem wellFormed_of_parse {equation : Equation} (h : Equation.parse o source = .ok equation) :
    equation.root.WellFormed o Literal.IsRead ∧ equation.options = o := by
  obtain ⟨tokens, -, h⟩ := Failing.bind_eq_ok.mp h
  obtain ⟨root, hroot, h⟩ := Failing.bind_eq_ok.mp h
  cases h
  refine ⟨?_, rfl⟩
  cases hparsed : parseTokens o source tokens with
  | error fault => rw [hparsed] at hroot; cases hroot
  | ok e =>
      rw [hparsed] at hroot
      cases hroot
      exact wellFormed_of_parseLevels _ (parseTokens_eq_ok.mp hparsed).2

end Reckon
