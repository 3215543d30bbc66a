/-
A tree keeps the tokens that it was read from, and their order.

Read from the left to the right, the leaves, operators and functions of a tree are the tokens of the
equation, parentheses aside.  Nothing is lost where a run is cut at its operators or at its separators,
and nothing changes places where a chain is grouped, whichever way it groups: an operator takes what
stands next to it on both sides.

`Yields` says of a tree and a run which part of the tree has which part of the run.  Parsing goes by
levels, so a form has to pass the relation on from its parts; for a chain that is an induction on its
operands in the direction in which it groups.  All the rest is read off the relation.
-/
import Reckon.Proofs.WellFormed

namespace Reckon

open Shape (Item linked linked_nil linked_cons isFlat)

/-! ### Reading a tree in order -/

/-- What a tree is made of, as it is written from the left to the right. -/
inductive Lexeme
  | leaf (e : Expr)
  | operator (symbol : Text)
  | function (name : Text)
  | separator

namespace Expr

mutual
/-- A tree from the left to the right.  An operator stands between its operands or in front of its only
one, a function in front of its arguments, and a separator between two neighbouring arguments. -/
def lexemes : Expr → List Lexeme
  | const value => [.leaf (.const value)]
  | var name => [.leaf (.var name)]
  | unary symbol operand => .operator symbol :: lexemes operand
  | binary symbol left right => lexemes left ++ .operator symbol :: lexemes right
  | call name [] => [.function name]
  | call name (first :: rest) => .function name :: (lexemes first ++ furtherLexemes rest)

/-- Arguments behind another one. -/
def furtherLexemes : List Expr → List Lexeme
  | [] => []
  | e :: rest => .separator :: lexemes e ++ furtherLexemes rest
end

end Expr

variable {o : Options} {source : Text}

/-- The token that stands for a part of a tree.  For a leaf it is a value that is parsed to it. -/
inductive Stands (o : Options) (source : Text) : Lexeme → Token → Prop
  | leaf {e : Expr} {t : Token} (kind : t.kind = .value) (h : parseTokens o source [t] = .ok e) :
      Stands o source (.leaf e) t
  | operator {t : Token} (kind : t.kind = .operator) : Stands o source (.operator t.text) t
  | function {t : Token} (kind : t.kind = .value) : Stands o source (.function t.text) t
  | separator {t : Token} (kind : t.kind = .separator) : Stands o source .separator t

/-- The tokens that a tree yields when it is written again.  Parentheses around a run leave no trace in
the tree; those of a call stand behind its name and behind its arguments, with separators between the
arguments and nowhere else. -/
inductive Yields (o : Options) (source : Text) : Expr → List Token → Prop
  | const {l : Literal} {t : Token} (kind : t.kind = .value)
      (h : parseTokens o source [t] = .ok (.const l)) : Yields o source (.const l) [t]
  | var {name : Text} {t : Token} (kind : t.kind = .value)
      (h : parseTokens o source [t] = .ok (.var name)) : Yields o source (.var name) [t]
  | group {e : Expr} {a b : Token} {ts : List Token} (ha : a.kind = .opening) (hb : b.kind = .closing)
      (h : Yields o source e ts) : Yields o source e (a :: (ts ++ [b]))
  | unary {e : Expr} {t : Token} {ts : List Token} (kind : t.kind = .operator)
      (h : Yields o source e ts) : Yields o source (.unary t.text e) (t :: ts)
  | binary {l r : Expr} {t : Token} {xs ys : List Token} (kind : t.kind = .operator)
      (hl : Yields o source l xs) (hr : Yields o source r ys) :
      Yields o source (.binary t.text l r) (xs ++ t :: ys)
  | emptyCall {t a b : Token} (kind : t.kind = .value) (ha : a.kind = .opening)
      (hb : b.kind = .closing) : Yields o source (.call t.text []) [t, a, b]
  | call {t a b : Token} {first : List Token} {e : Expr} {rest : List Item} (kind : t.kind = .value)
      (ha : a.kind = .opening) (hb : b.kind = .closing) (hfirst : Yields o source e first)
      (hsep : ∀ x ∈ rest, x.token.kind = .separator)
      (hrest : ∀ x ∈ rest, Yields o source x.tree x.run) :
      Yields o source (.call t.text (e :: rest.map Item.tree))
        (t :: a :: (linked first (rest.map Item.piece) ++ [b]))

/-! ### What is known of the tokens that a tree yields -/

namespace Yields

theorem balanced {e : Expr} {ts : List Token} (h : Yields o source e ts) : Shape.Balanced ts := by
  induction h with
  | const kind | var kind => exact .flat (by simp [isFlat, kind]) (.nil 0)
  | group ha hb _ ih => exact ih.enclosed ha hb
  | unary kind _ ih => exact .flat (by simp [isFlat, kind]) ih
  | binary kind _ _ ihl ihr => exact ihl.append (.flat (by simp [isFlat, kind]) ihr)
  | emptyCall kind ha hb =>
      exact .flat (by simp [isFlat, kind]) (Shape.Balanced.enclosed ha hb (.nil 0))
  | @call t a b first e rest kind ha hb _ hsep _ ihfirst ihrest =>
      refine .flat (by simp [isFlat, kind]) (Shape.Balanced.enclosed ha hb ?_)
      refine Shape.balanced_linked (fun x hx => ?_) fun ts hts => ?_
      · obtain ⟨y, hy, rfl⟩ := List.mem_map.mp hx
        exact hsep y hy
      · rcases List.mem_cons.mp hts with rfl | hts'
        · exact ihfirst
        · rw [List.map_map] at hts'
          obtain ⟨y, hy, rfl⟩ := List.mem_map.mp hts'
          exact ihrest y hy

/-- Arguments behind another one, each with a separator in front. -/
theorem further_stands {rest : List Item} (hsep : ∀ x ∈ rest, x.token.kind = .separator)
    (h : ∀ x ∈ rest, List.Forall₂ (Stands o source) x.tree.lexemes (x.run.filter isFlat))
    {first : List Token} {before : List Lexeme}
    (hfirst : List.Forall₂ (Stands o source) before (first.filter isFlat)) :
    List.Forall₂ (Stands o source) (before ++ Expr.furtherLexemes (rest.map Item.tree))
      ((linked first (rest.map Item.piece)).filter isFlat) := by
  induction rest generalizing first before with
  | nil =>
      rw [List.map_nil, List.map_nil, linked_nil, Expr.furtherLexemes, List.append_nil]
      exact hfirst
  | cons x rest ih =>
      have hx : isFlat x.token = true := by simp [isFlat, hsep x]
      rw [List.map_cons, List.map_cons, Item.piece, linked_cons, List.filter_append,
        List.filter_cons_of_pos hx, Expr.furtherLexemes, List.cons_append]
      refine List.rel_append hfirst (.cons (.separator (hsep x List.mem_cons_self)) ?_)
      exact ih (fun y hy => hsep y (List.mem_cons_of_mem _ hy))
        (fun y hy => h y (List.mem_cons_of_mem _ hy)) (h x List.mem_cons_self)

/-- Parentheses aside, the tokens that a tree yields stand for its parts, in order. -/
theorem stands {e : Expr} {ts : List Token} (h : Yields o source e ts) :
    List.Forall₂ (Stands o source) e.lexemes (ts.filter isFlat) := by
  have skip : ∀ {a b : Token} (us : List Token), a.kind = .opening → b.kind = .closing →
      (a :: (us ++ [b])).filter isFlat = us.filter isFlat := by
    intro a b us ha hb
    simp [isFlat, ha, hb]
  induction h with
  | const kind h | var kind h =>
      rw [Expr.lexemes, List.filter_cons_of_pos (by simp [isFlat, kind])]
      exact .cons (.leaf kind h) .nil
  | group ha hb _ ih => rwa [skip _ ha hb]
  | unary kind _ ih =>
      rw [Expr.lexemes, List.filter_cons_of_pos (by simp [isFlat, kind])]
      exact .cons (.operator kind) ih
  | binary kind _ _ ihl ihr =>
      rw [Expr.lexemes, List.filter_append, List.filter_cons_of_pos (by simp [isFlat, kind])]
      exact List.rel_append ihl (.cons (.operator kind) ihr)
  | emptyCall kind ha hb =>
      have hnone : List.filter isFlat [_, _] = [] := skip [] ha hb
      rw [Expr.lexemes, List.filter_cons_of_pos (by simp [isFlat, kind]), hnone]
      exact .cons (.function kind) .nil
  | call kind ha hb _ hsep _ ihfirst ihrest =>
      rw [Expr.lexemes, List.filter_cons_of_pos (by simp [isFlat, kind]), skip _ ha hb]
      exact .cons (.function kind) (further_stands hsep ihrest ihfirst)

/-! ### Chains -/

/-- A chain yields its operands and the operators between them, whichever way it groups. -/
theorem folded (side : Associativity) {rest : List Item}
    (hops : ∀ x ∈ rest, x.token.kind = .operator)
    (hrest : ∀ x ∈ rest, Yields o source x.tree x.run) : ∀ {e : Expr} {first : List Token},
    Yields o source e first →
    Yields o source (Shape.folded side e (rest.map Item.link)) (linked first (rest.map Item.piece)) := by
  induction rest with
  | nil =>
      intro e first hfirst
      rw [List.map_nil, List.map_nil, linked_nil]
      cases side <;> exact hfirst
  | cons x rest ih =>
      intro e first hfirst
      have hx := hrest x List.mem_cons_self
      have hkind := hops x List.mem_cons_self
      have hmore := @ih (fun y hy => hops y (List.mem_cons_of_mem _ hy))
        fun y hy => hrest y (List.mem_cons_of_mem _ hy)
      rw [List.map_cons, List.map_cons, Item.piece, linked_cons]
      cases side with
      | left =>
          -- The first operation is the first operand of what follows.
          have hstart : first ++ x.token :: linked x.run (rest.map Item.piece) =
              linked (first ++ x.token :: x.run) (rest.map Item.piece) := by
            simp [linked]
          rw [hstart]
          exact hmore (.binary hkind hfirst hx)
      | right => exact .binary hkind hfirst (hmore hx)

end Yields

/-! ### Parsed trees -/

theorem yields_of_call {t a b : Token} {xs : List Token} {es : List Expr} (kind : t.kind = .value)
    (ha : a.kind = .opening) (hb : b.kind = .closing)
    (hes : List.Forall₂ (fun part tree => Yields o source tree part) (Shape.arguments xs) es) :
    Yields o source (.call t.text es) (t :: a :: (xs ++ [b])) := by
  by_cases hempty : xs = []
  · subst hempty
    cases hes
    exact .emptyCall kind ha hb
  · obtain ⟨first, rest, hxs, hargs, hsep⟩ := Shape.exists_linked_arguments hempty
    rw [hargs] at hes
    cases hes with
    | cons hfirst hmore =>
        obtain ⟨items, rfl, rfl, hall⟩ := Shape.exists_items hmore
        subst hxs
        exact .call kind ha hb hfirst (fun x hx => hsep x.piece (List.mem_map_of_mem hx)) hall

theorem yields_of_chain {ts : List Token} {m : Shape.Marked} {op : Operator} {es : List Expr}
    (hreads : Shape.markBinary o source 0 false ts = .ok m)
    (hes : List.Forall₂ (fun part tree => Yields o source tree part)
      ((Shape.cut op.precedence m).1 :: (Shape.cut op.precedence m).2.map (·.2)) es) :
    Yields o source ((Shape.chain op.associativity (Shape.cut op.precedence m).1
      (Shape.cut op.precedence m).2).tree es) ts := by
  obtain ⟨hlinked, -, hrest⟩ := Shape.cut_pieces op.precedence hreads
  cases hes with
  | cons hfirst hmore =>
      obtain ⟨items, hlinks, rfl, hall⟩ := Shape.exists_items hmore
      rw [Shape.tree_chain, hlinked, hlinks, Shape.zip_items]
      refine Yields.folded op.associativity (fun x hx => ?_) hall hfirst
      have hx' : x.piece ∈ (Shape.cut op.precedence m).2 := by
        rw [hlinks]
        exact List.mem_map_of_mem hx
      exact (hrest _ hx').1.1

/-- A tree yields the run that it was parsed from. -/
theorem yields_of_parseLevels (hdepth : 0 < o.maxDepth) : ∀ (n : Nat) {ts : List Token} {e : Expr},
    parseLevels o source n ts = .ok e → Yields o source e ts := by
  intro n
  induction n with
  | zero => intro ts e h; cases h
  | succ n ih =>
      intro ts e h
      obtain ⟨k, shape, es, hk, hshape, hes, rfl⟩ := parseLevels_eq_ok.mp h
      cases hk
      have hparts : List.Forall₂ (fun part tree => Yields o source tree part) shape.parts es :=
        hes.imp fun _ _ hpart => ih hpart
      -- One level is enough for a leaf, so it is parsed by itself as well.
      have hleaf : ∀ {t : Token} {leaf : Expr}, Shape.of o source [t] = .ok (.leaf leaf) →
          parseTokens o source [t] = .ok leaf := by
        intro t leaf h
        obtain ⟨d, hd⟩ : ∃ d, o.maxDepth = d + 1 := ⟨o.maxDepth - 1, by omega⟩
        refine parseTokens_eq_ok.mpr ⟨List.cons_ne_nil _ _, ?_⟩
        rw [hd, parseLevels_of_shape h]
        rfl
      obtain ⟨kind, -, hkind⟩ := Shape.exists_kind_of_eq_ok hshape
      cases kind with
      | constant =>
          obtain ⟨t, m, l, rfl, hk, -, -, rfl⟩ := Shape.constantLeaf?_eq_some.mp hkind
          exact .const hk (hleaf hshape)
      | «variable» =>
          obtain ⟨t, name, rfl, hk, -, -, rfl⟩ := Shape.variableLeaf?_eq_some.mp hkind
          exact .var hk (hleaf hshape)
      | parenthesis =>
          rcases Shape.parenthesis?_eq_some hkind with
            ⟨a, xs, b, rfl, ha, hb, -, -, -, rfl⟩ |
            ⟨t, a, xs, b, f, rfl, hk, -, ha, hb, -, hf, -, -, rfl⟩
          · cases hparts with
            | cons hinner hnil =>
                cases hnil
                exact .group ha hb hinner
          · rw [Options.function?_name hf]
            exact yields_of_call hk ha hb hparts
      | operation =>
          obtain ⟨m, hm, ⟨-, hprefixed⟩ | ⟨op, -, rfl⟩⟩ := Shape.operation?_eq_some hkind
          · obtain ⟨t, rest, op, rfl, hk, -, -, -, rfl⟩ := Shape.prefixed?_eq_some hprefixed
            cases hparts with
            | cons hrest hnil =>
                cases hnil
                exact .unary hk hrest
          · exact yields_of_chain hm hparts

/--
**A tree keeps every token, in order.**

Whatever the options are, a parsed tree yields the tokens that it was parsed from.  Parentheses aside,
these stand for its leaves, operators and functions and for the separators between the arguments of one
call, one for one and in the order in which the tree is read.  The parentheses are balanced.
-/
theorem parseTokens_keeps_tokens {tokens : List Token} {root : Expr}
    (h : parseTokens o source tokens = .ok root) :
    Yields o source root tokens ∧
      List.Forall₂ (Stands o source) root.lexemes (tokens.filter isFlat) ∧ Shape.Balanced tokens := by
  obtain ⟨-, hlevels⟩ := parseTokens_eq_ok.mp h
  have hdepth : 0 < o.maxDepth := by
    obtain ⟨k, -, -, hk, -⟩ := parseLevels_eq_ok.mp hlevels
    omega
  have hyields := yields_of_parseLevels hdepth o.maxDepth hlevels
  exact ⟨hyields, hyields.stands, hyields.balanced⟩

/-- The tokens of `min(2,-(1))-3^[x]`: of the parentheses around the one nothing is left in the tree. -/
theorem parseTokens_keeps_tokens_difference :
    let tokens : List Token := [⟨.value, "min".toList, 0, 3⟩, ⟨.opening, ['('], 3, 4⟩,
      ⟨.value, ['2'], 4, 5⟩, ⟨.separator, [','], 5, 6⟩, ⟨.operator, ['-'], 6, 7⟩,
      ⟨.opening, ['('], 7, 8⟩, ⟨.value, ['1'], 8, 9⟩, ⟨.closing, [')'], 9, 10⟩,
      ⟨.closing, [')'], 10, 11⟩, ⟨.operator, ['-'], 11, 12⟩, ⟨.value, ['3'], 12, 13⟩,
      ⟨.operator, ['^'], 13, 14⟩, ⟨.value, "[x]".toList, 14, 17⟩]
    List.Forall₂ (Stands .standard "min(2,-(1))-3^[x]".toList)
      [.function "min".toList, .leaf (.const (.int 2)), .separator, .operator ['-'],
        .leaf (.const (.int 1)), .operator ['-'], .leaf (.const (.int 3)), .operator ['^'],
        .leaf (.var ['x'])]
      (tokens.filter isFlat) := by
  intro tokens
  have hparse : parseTokens .standard "min(2,-(1))-3^[x]".toList tokens =
      .ok (.binary ['-'] (.call "min".toList [.const (.int 2), .unary ['-'] (.const (.int 1))])
        (.binary ['^'] (.const (.int 3)) (.var ['x']))) := rfl
  exact (parseTokens_keeps_tokens hparse).2.1

end Reckon
