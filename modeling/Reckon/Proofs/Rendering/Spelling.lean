/-
The tokens of rendered text, and the tree that they are read as.

`Spells` says which tokens a tree is written in, whatever places they claim.  Every
operation stands in parentheses there, so a tree is always an atom and its tokens carry no
marks outside parentheses.  That makes each form easy to decide: between the parentheses of
an operation its operator is the only mark, whatever the precedences are.
-/
import Reckon.Proofs.Rendering.Trees

namespace Reckon

open Shape (Item Run marks)

/-- The options can write the literal and read it back. -/
def Literal.IsWritable (o : Options) (l : Literal) : Prop :=
  l.isBounded = true ∧
    (l.isNegative = true → ∃ op, o.operator? ['-'] = some op ∧ op.unary.isSome = true)

/-- The tokens that a tree is written in. -/
inductive Spells (p : Pattern) : Expr → List Token → Prop
  | size {l : Literal} {t : Token} (hl : l.isNegative = false) (ht : t.kind = .value)
      (htext : t.text = l.sizeText) : Spells p (.const l) [t]
  | negative {l : Literal} {a s t b : Token} (hl : l.isNegative = true) (ha : a.kind = .opening)
      (hs : s.kind = .operator) (hsymbol : s.text = ['-']) (ht : t.kind = .value)
      (htext : t.text = l.sizeText) (hb : b.kind = .closing) :
      Spells p (.const l) (a :: (s :: [t] ++ [b]))
  | var {name : Text} {t : Token} (ht : t.kind = .value) (htext : t.text = p.wrap name) :
      Spells p (.var name) [t]
  | unary {symbol : Text} {e : Expr} {a s b : Token} {ts : List Token} (ha : a.kind = .opening)
      (hs : s.kind = .operator) (hsymbol : s.text = symbol) (hb : b.kind = .closing)
      (h : Spells p e ts) : Spells p (.unary symbol e) (a :: (s :: ts ++ [b]))
  | binary {symbol : Text} {l r : Expr} {a s b : Token} {xs ys : List Token}
      (ha : a.kind = .opening) (hs : s.kind = .operator) (hsymbol : s.text = symbol)
      (hb : b.kind = .closing) (hl : Spells p l xs) (hr : Spells p r ys) :
      Spells p (.binary symbol l r) (a :: (xs ++ s :: ys ++ [b]))
  | emptyCall {name : Text} {t a b : Token} (ht : t.kind = .value) (htext : t.text = name)
      (ha : a.kind = .opening) (hb : b.kind = .closing) : Spells p (.call name []) [t, a, b]
  | call {name : Text} {t a b : Token} {first : List Token} {e : Expr} {rest : List Item}
      (ht : t.kind = .value) (htext : t.text = name) (ha : a.kind = .opening)
      (hb : b.kind = .closing) (hfirst : Spells p e first)
      (hsep : ∀ x ∈ rest, x.token.kind = .separator) (hrest : ∀ x ∈ rest, Spells p x.tree x.run) :
      Spells p (.call name (e :: rest.map Item.tree))
        (t :: a :: (Shape.linked first (rest.map Item.piece) ++ [b]))

variable {o : Options} {source : Text}

/-! ### Reading one form -/

/-- A run without marks that is read as a tree. -/
structure Atom (o : Options) (source : Text) (ts : List Token) (e : Expr) (depth : Nat) : Prop where
  run : ∃ m, Run o source ts m ∧ marks m = []
  reads : ReadsTo o source ts e depth

section Forms

variable {a b s : Token} {xs ys : List Token} {e f : Expr} {d k : Nat}

theorem ReadsTo.leaf {t : Token} (h : Shape.of o source [t] = .ok (.leaf e)) :
    ReadsTo o source [t] e 1 :=
  ReadsTo.of_shape h .nil

theorem Atom.enclosed {m : Shape.Marked} (hparenthesis : .parenthesis ∈ o.parsers)
    (ha : a.kind = .opening) (hb : b.kind = .closing) (hrun : Run o source xs m)
    (h : ReadsTo o source xs e d) : Atom o source (a :: (xs ++ [b])) e (d + 1) where
  run := ⟨_, .enclosed ha hb hrun.balanced, Shape.marks_unmarked _⟩
  reads := ReadsTo.of_one (Shape.of_group hparenthesis ha hb hrun) rfl h

section Operations

variable (hoperation : .operation ∈ o.parsers)
include hoperation

/-- A prefix operator before an atom. -/
theorem ReadsTo.negated {op : Operator} (hs : s.kind = .operator)
    (known : o.operator? s.text = some op) (hunary : op.unary.isSome = true)
    (h : Atom o source xs e d) : ReadsTo o source (s :: xs) (.unary s.text e) (d + 1) := by
  obtain ⟨⟨m, hrun, hm⟩, hreads⟩ := h
  exact ReadsTo.of_one (Shape.of_prefixed hoperation hs known hunary hrun hm) rfl hreads

/-- An operator between two atoms is the only mark. -/
theorem of_lone_operator {op : Operator} {m n : Shape.Marked} (hs : s.kind = .operator)
    (known : o.operator? s.text = some op) (hx : Run o source xs m) (hm : marks m = [])
    (hy : Run o source ys n) (hn : marks n = []) :
    Shape.of o source (xs ++ s :: ys) = .ok (.chain op.associativity xs [(s, ys)]) := by
  have hmarks : marks (m ++ (s, some op) :: n) = [op] := by
    rw [Shape.marks_append, Shape.marks_cons_some, hm, hn]
    rfl
  have hweak : Shape.weakest? (m ++ (s, some op) :: n) = some op := by
    cases hw : Shape.weakest? (m ++ (s, some op) :: n) with
    | none =>
        rw [Shape.weakest?_eq_none.mp hw] at hmarks
        cases hmarks
    | some b =>
        have hb := (Shape.weakest?_eq_some hw).1
        rw [hmarks, List.mem_singleton] at hb
        rw [hb]
  have hcut : Shape.cut op.precedence (m ++ (s, some op) :: n) = (xs, [(s, ys)]) := by
    have hnone : ∀ {k : Shape.Marked}, marks k = [] → ∀ b ∈ marks k, b.precedence ≠ op.precedence := by
      intro k hk b hb
      rw [hk] at hb
      cases hb
    rw [Shape.cut_append (hnone hm), Shape.cut_cons_mark, Shape.cut_of_forall_ne (hnone hn),
      Shape.map_fst_of_markBinary hx.reads, Shape.map_fst_of_markBinary hy.reads, List.append_nil]
  refine Shape.of_chain hoperation (hx.linked hs known hy).reads hweak hcut fun x hx => ?_
  rw [List.mem_singleton.mp hx]
  exact hy.ne_nil

/-- An operator between two atoms. -/
theorem ReadsTo.joined {op : Operator} (hs : s.kind = .operator)
    (known : o.operator? s.text = some op) (hx : Atom o source xs e d) (hy : Atom o source ys f k) :
    ReadsTo o source (xs ++ s :: ys) (.binary s.text e f) (max d k + 1) := by
  obtain ⟨⟨m, hxrun, hm⟩, hxreads⟩ := hx
  obtain ⟨⟨n, hyrun, hn⟩, hyreads⟩ := hy
  have hshape := of_lone_operator hoperation hs known hxrun hm hyrun hn
  have hreads := ReadsTo.of_two hshape rfl hxreads hyreads
  have htree : (Shape.chain op.associativity xs [(s, ys)]).tree [e, f] = .binary s.text e f := by
    rw [Shape.tree_chain]
    cases op.associativity <;> rfl
  rwa [htree] at hreads

end Operations

/-- A prefix operator before an atom, both in parentheses. -/
theorem Atom.negated {op : Operator} (hall : ∀ kind, kind ∈ o.parsers) (ha : a.kind = .opening)
    (hb : b.kind = .closing) (hs : s.kind = .operator) (known : o.operator? s.text = some op)
    (hunary : op.unary.isSome = true) (h : Atom o source xs e d) :
    Atom o source (a :: (s :: xs ++ [b])) (.unary s.text e) (d + 2) := by
  obtain ⟨m, hrun, -⟩ := h.run
  exact .enclosed (hall _) ha hb (hrun.prefixed hs) (.negated (hall _) hs known hunary h)

/-- An operator between two atoms, all in parentheses. -/
theorem Atom.joined {op : Operator} (hall : ∀ kind, kind ∈ o.parsers) (ha : a.kind = .opening)
    (hb : b.kind = .closing) (hs : s.kind = .operator) (known : o.operator? s.text = some op)
    (hx : Atom o source xs e d) (hy : Atom o source ys f k) :
    Atom o source (a :: (xs ++ s :: ys ++ [b])) (.binary s.text e f) (max d k + 2) := by
  obtain ⟨m, hxrun, -⟩ := hx.run
  obtain ⟨n, hyrun, -⟩ := hy.run
  exact .enclosed (hall _) ha hb (hxrun.linked hs known hyrun) (.joined (hall _) hs known hx hy)

/-- The name of a function before separated runs in parentheses. -/
theorem Atom.called {t : Token} {func : MathFunction} {first : List Token} {rest : List Item}
    {results : List (Expr × Nat)} (hparenthesis : .parenthesis ∈ o.parsers) (ht : t.kind = .value)
    (hname : Text.isName t.text = true) (hf : o.function? t.text = some func)
    (ha : a.kind = .opening) (hb : b.kind = .closing)
    (haccepts : func.accepts results.length = true)
    (hsep : ∀ x ∈ rest, x.token.kind = .separator)
    (hparts : List.Forall₂ (fun part r => (∃ m, Run o source part m) ∧ ReadsTo o source part r.1 r.2)
      (first :: (rest.map Item.piece).map (·.2)) results) :
    Atom o source (t :: a :: (Shape.linked first (rest.map Item.piece) ++ [b]))
      (.call t.text (results.map (·.1))) (deepest results + 1) := by
  have hruns : ∀ ts ∈ first :: (rest.map Item.piece).map (·.2), ∃ m, Run o source ts m := by
    intro ts hts
    obtain ⟨i, hi, rfl⟩ := List.getElem_of_mem hts
    exact (hparts.get hi (by rw [← hparts.length_eq]; exact hi)).1
  have hseps : ∀ x ∈ rest.map Item.piece, x.1.kind = .separator := by
    intro x hx
    obtain ⟨y, hy, rfl⟩ := List.mem_map.mp hx
    exact hsep y hy
  have hne : ∀ ts ∈ first :: (rest.map Item.piece).map (·.2), ts ≠ [] := by
    intro ts hts
    obtain ⟨m, hrun⟩ := hruns ts hts
    exact hrun.ne_nil
  have hbal : Shape.Balanced (Shape.linked first (rest.map Item.piece)) :=
    Shape.balanced_linked hseps fun ts hts => let ⟨_, hrun⟩ := hruns ts hts; hrun.balanced
  have hargs := Shape.arguments_linked (hne first List.mem_cons_self)
    (fun ts hts => let ⟨_, hrun⟩ := hruns ts hts; hrun.undivided) hseps
  refine ⟨⟨_, .called ht ha hb hbal, Shape.marks_unmarked _⟩, ?_⟩
  have hshape : Shape.of o source (t :: a :: (Shape.linked first (rest.map Item.piece) ++ [b])) = _ :=
    Shape.of_call hparenthesis ht hname hf ha hb hbal (by rw [hargs]; exact hne)
      (by rw [hargs, hparts.length_eq]; exact haccepts)
  rw [← Options.function?_name hf]
  refine ReadsTo.of_shape hshape ?_
  have hreads : List.Forall₂ (fun part r => ReadsTo o source part r.1 r.2)
      (Shape.arguments (Shape.linked first (rest.map Item.piece))) results := by
    rw [hargs]
    exact hparts.imp fun _ _ h => h.2
  exact hreads

end Forms

/-! ### Reading the tokens of a tree -/

/-- What comes back from an argument of a call, and the levels it takes. -/
def resultOf (e : Expr) : Expr × Nat := (e.withNegations Literal.size, e.readingDepth)

theorem deepest_map_resultOf (es : List Expr) :
    deepest (es.map resultOf) = Expr.deepestReading es := by
  induction es with
  | nil => rfl
  | cons e rest ih =>
      show max e.readingDepth (deepest (rest.map resultOf)) = _
      rw [ih]
      rfl

theorem map_fst_map_resultOf (es : List Expr) :
    (es.map resultOf).map (·.1) = Expr.withNegationsAll Literal.size es := by
  rw [List.map_map, Expr.withNegationsAll_eq_map]
  rfl

/-- The tokens of a tree are an atom that is read as the tree with its negative constants written as
negations, and the levels this takes are known exactly. -/
theorem atom_of_spells (hall : ∀ kind, kind ∈ o.parsers) (hp : o.pattern.isUnlikeNumber = true)
    {e : Expr} {ts : List Token} (h : Spells o.pattern e ts)
    (hw : e.WellFormed o (Literal.IsWritable o)) :
    Atom o source ts (e.withNegations Literal.size) e.readingDepth := by
  induction h with
  | @size l t hl ht htext =>
      cases hw with
      | const hwritable =>
          obtain ⟨⟨n, hread, hlit⟩, -⟩ := Literal.writes_size hwritable.1
          rw [Expr.withNegations, Expr.readingDepth, hl]
          refine ⟨⟨_, .value ht, Shape.marks_unmarked _⟩, .leaf ?_⟩
          exact Shape.of_literal (hall _) hp ht (by rw [htext]; exact hread) hlit
  | @negative l a s t b hl ha hs hsymbol ht htext hb =>
      cases hw with
      | const hwritable =>
          obtain ⟨⟨n, hread, hlit⟩, -⟩ := Literal.writes_size hwritable.1
          obtain ⟨op, known, hunary⟩ := hwritable.2 hl
          rw [← hsymbol] at known
          have hleaf : Atom o source [t] (.const l.size) 1 :=
            ⟨⟨_, .value ht, Shape.marks_unmarked _⟩,
              .leaf (Shape.of_literal (hall _) hp ht (by rw [htext]; exact hread) hlit)⟩
          rw [Expr.withNegations, Expr.readingDepth, hl, if_pos rfl, if_pos rfl, ← hsymbol]
          exact .negated hall ha hb hs known hunary hleaf
  | var ht htext =>
      cases hw with
      | var hname =>
          refine ⟨⟨_, .value ht, Shape.marks_unmarked _⟩, .leaf ?_⟩
          exact Shape.of_variable (hall _) hp ht hname htext
  | unary ha hs hsymbol hb _ ih =>
      cases hw with
      | unary known hunary hwe =>
          subst hsymbol
          exact .negated hall ha hb hs known hunary (ih hwe)
  | binary ha hs hsymbol hb _ _ ihl ihr =>
      cases hw with
      | binary known hwl hwr =>
          subst hsymbol
          exact .joined hall ha hb hs known (ihl hwl) (ihr hwr)
  | @emptyCall name t a b ht htext ha hb =>
      cases hw with
      | call hname hf haccepts _ =>
          subst htext
          have hbalanced : Shape.Balanced [] := .nil 0
          have hshape : Shape.of o source [t, a, b] = _ :=
            Shape.of_call (hall _) ht hname hf ha hb hbalanced (by simp [Shape.arguments]) haccepts
          refine ⟨⟨_, .called ht ha hb hbalanced, Shape.marks_unmarked _⟩, ?_⟩
          rw [Options.function?_name hf] at hshape
          exact ReadsTo.of_shape hshape .nil
  | @call name t a b first e rest ht htext ha hb _ hsep _ ihfirst ihrest =>
      cases hw with
      | call hname hf haccepts hargs =>
          subst htext
          have hparts : List.Forall₂ (fun part r => Atom o source part r.1 r.2)
              (first :: (rest.map Item.piece).map (·.2))
              ((e :: rest.map Item.tree).map resultOf) := by
            have hrest : ∀ x ∈ rest, Atom o source x.run (resultOf x.tree).1 (resultOf x.tree).2 :=
              fun x hx => ihrest x hx (hargs x.tree (List.mem_cons_of_mem _ (List.mem_map_of_mem hx)))
            exact .cons (ihfirst (hargs e (by simp)))
              (List.forall₂_map_right_iff.mpr (Shape.forall₂_items hrest))
          have hatom := Atom.called (hall _) ht hname hf ha hb
            (by rw [List.length_map]; exact haccepts) hsep
            (hparts.imp fun _ _ h => ⟨h.run.imp fun _ hrun => hrun.1, h.reads⟩)
          rw [deepest_map_resultOf, map_fst_map_resultOf] at hatom
          exact hatom

end Reckon
