/-
The grammar of equations.

`Derives` states which runs of tokens are equations and which trees they have.  It knows
nothing of splitting: an atom stands by itself, a prefix operator takes what binds as
tightly as itself, and a chain has operators of one precedence between operands that bind
tighter.  The parser finds the same trees by cutting a run at its weakest operators.

One direction goes by the levels that parsing uses.  It has to say more than that the run
is derivable: a run without marks is a prefix expression, and one whose weakest mark is of
some precedence is a chain of that precedence.  The other direction is an induction on
derivations, each of which yields a run whose marks show its category.
-/
import Reckon.Proofs.WellFormed

namespace Reckon.Grammar

open Shape (Item linked Run marks markBinary weakest? cut Divides Tighter Marked exists_items
  forall₂_items run_mem_pieces zip_items)

/-! ### Derivations -/

/-- What a run of tokens can be derived as. -/
inductive Category
  | atom
  | prefixed
  | chain (precedence : Int)
  | tighter (precedence : Int)
  | expression

/-- `Grouped side first links tree` if a chain groups to `tree`.  To the left the first operation
takes the first two operands and is itself the first operand of the rest; to the right the rest
of the chain is the second operand. -/
inductive Grouped : Associativity → Expr → List (Text × Expr) → Expr → Prop
  | single (side : Associativity) (e : Expr) : Grouped side e [] e
  | left {first e tree : Expr} {symbol : Text} {rest : List (Text × Expr)}
      (h : Grouped .left (.binary symbol first e) rest tree) :
      Grouped .left first ((symbol, e) :: rest) tree
  | right {first e tree : Expr} {symbol : Text} {rest : List (Text × Expr)}
      (h : Grouped .right e rest tree) :
      Grouped .right first ((symbol, e) :: rest) (.binary symbol first tree)

/-- A token is an operator of the given precedence and associativity. -/
def IsOperator (o : Options) (precedence : Int) (side : Associativity) (t : Token) : Prop :=
  t.kind = .operator ∧ ∃ op, o.operator? t.text = some op ∧ op.precedence = precedence ∧
    op.associativity = side

/-- The tokens of an equation and its tree. -/
inductive Derives (o : Options) : Category → List Token → Expr → Prop
  | literal {t : Token} {n : Numeral} {l : Literal} (kind : t.kind = .value)
      (hread : Numeral.read? false t.text = some n) (hlit : Shape.literal? n = some l) :
      Derives o .atom [t] (.const l)
  | variable {t : Token} {name : Text} (kind : t.kind = .value)
      (hname : o.pattern.allows name = true) (htext : t.text = o.pattern.wrap name) :
      Derives o .atom [t] (.var name)
  | group {a b : Token} {ts : List Token} {e : Expr} (ha : a.kind = .opening)
      (hb : b.kind = .closing) (h : Derives o .expression ts e) :
      Derives o .atom (a :: (ts ++ [b])) e
  | emptyCall {t a b : Token} {f : MathFunction} (kind : t.kind = .value)
      (hname : Text.isName t.text = true) (hf : o.function? t.text = some f)
      (ha : a.kind = .opening) (hb : b.kind = .closing) (haccepts : f.accepts 0 = true) :
      Derives o .atom [t, a, b] (.call t.text [])
  | call {t a b : Token} {f : MathFunction} {first : List Token} {e : Expr} {rest : List Item}
      (kind : t.kind = .value) (hname : Text.isName t.text = true)
      (hf : o.function? t.text = some f) (ha : a.kind = .opening) (hb : b.kind = .closing)
      (haccepts : f.accepts (rest.length + 1) = true) (hfirst : Derives o .expression first e)
      (hsep : ∀ x ∈ rest, x.token.kind = .separator)
      (hrest : ∀ x ∈ rest, Derives o .expression x.run x.tree) :
      Derives o .atom (t :: a :: (linked first (rest.map Item.piece) ++ [b]))
        (.call t.text (e :: rest.map Item.tree))
  | atom {ts : List Token} {e : Expr} (h : Derives o .atom ts e) : Derives o .prefixed ts e
  | prefixed {t : Token} {op : Operator} {ts : List Token} {e : Expr} (kind : t.kind = .operator)
      (known : o.operator? t.text = some op) (hunary : op.unary.isSome = true)
      (h : Derives o .prefixed ts e) : Derives o .prefixed (t :: ts) (.unary t.text e)
  | chain {p : Int} {side : Associativity} {first : List Token} {e tree : Expr} {rest : List Item}
      (hne : rest ≠ []) (hfirst : Derives o (.tighter p) first e)
      (hops : ∀ x ∈ rest, IsOperator o p side x.token)
      (hrest : ∀ x ∈ rest, Derives o (.tighter p) x.run x.tree)
      (hgrouped : Grouped side e (rest.map Item.link) tree) :
      Derives o (.chain p) (linked first (rest.map Item.piece)) tree
  | tighterPrefixed {p : Int} {ts : List Token} {e : Expr} (h : Derives o .prefixed ts e) :
      Derives o (.tighter p) ts e
  | tighterChain {p q : Int} {ts : List Token} {e : Expr} (hlt : p < q)
      (h : Derives o (.chain q) ts e) : Derives o (.tighter p) ts e
  | expressionPrefixed {ts : List Token} {e : Expr} (h : Derives o .prefixed ts e) :
      Derives o .expression ts e
  | expressionChain {p : Int} {ts : List Token} {e : Expr} (h : Derives o (.chain p) ts e) :
      Derives o .expression ts e

/-- Operators of one precedence group to one side. -/
def GroupsOneWay (o : Options) : Prop :=
  ∀ a ∈ o.operators, ∀ b ∈ o.operators, a.precedence = b.precedence →
    a.associativity = b.associativity

variable {o : Options} {source : Text}

/-! ### Grouping -/

theorem grouped_folded (side : Associativity) : ∀ (first : Expr) (links : List (Text × Expr)),
    Grouped side first links (Shape.folded side first links) := by
  cases side with
  | left =>
      intro first links
      induction links generalizing first with
      | nil => exact .single _ _
      | cons x rest ih => exact .left (ih _)
  | right =>
      intro first links
      induction links generalizing first with
      | nil => exact .single _ _
      | cons x rest ih => exact .right (ih _)

/-- A chain groups in one way only. -/
theorem Grouped.eq_folded {side : Associativity} {first tree : Expr} {links : List (Text × Expr)}
    (h : Grouped side first links tree) : tree = Shape.folded side first links := by
  induction h with
  | single side e => cases side <;> rfl
  | left _ ih => exact ih
  | right _ ih => rw [ih]; rfl

/-! ### From the parser to the grammar -/

/-- What a run is, as its marks show. -/
def categoryOf (m : Marked) : Category :=
  match weakest? m with
  | none => .prefixed
  | some op => .chain op.precedence

theorem categoryOf_of_unmarked {m : Marked} (h : marks m = []) : categoryOf m = .prefixed := by
  rw [categoryOf, Shape.weakest?_eq_none.mpr h]

theorem Derives.toExpression {m : Marked} {ts : List Token} {e : Expr}
    (h : Derives o (categoryOf m) ts e) : Derives o .expression ts e := by
  unfold categoryOf at h
  split at h
  · exact .expressionPrefixed h
  · exact .expressionChain h

theorem Derives.toTighter {m : Marked} {ts : List Token} {e : Expr} {p : Int}
    (h : Derives o (categoryOf m) ts e) (hm : ∀ op ∈ marks m, p < op.precedence) :
    Derives o (.tighter p) ts e := by
  unfold categoryOf at h
  split at h
  · exact .tighterPrefixed h
  · rename_i op hweak
    exact .tighterChain (hm op (Shape.weakest?_eq_some hweak).1) h

/-- Every mark is a known operator. -/
theorem marks_known {ts : List Token} : ∀ {depth : Int} {after : Bool} {m : Marked},
    markBinary o source depth after ts = .ok m → ∀ op ∈ marks m, op ∈ o.operators := by
  induction ts with
  | nil =>
      intro depth after m h op hop
      cases h
      simp [marks] at hop
  | cons t rest ih =>
      intro depth after m h op hop
      obtain ⟨mark, more, rfl, hmark, hmore⟩ := Shape.markBinary_cons_eq_ok.mp h
      cases hmark with
      | skip => exact ih hmore op hop
      | between _ known =>
          rcases List.mem_cons.mp hop with rfl | hop'
          · exact Options.operator?_mem known
          · exact ih hmore op hop'

/-- An atom carries no marks, so it is derived as what its marks show. -/
theorem shown_of_atom {ts : List Token} {m : Marked} {e : Expr} (hrun : Run o source ts m)
    (hm : marks m = []) (h : Derives o .atom ts e) :
    ∃ m, markBinary o source 0 false ts = .ok m ∧ Derives o (categoryOf m) ts e :=
  ⟨m, hrun.reads, by rw [categoryOf_of_unmarked hm]; exact .atom h⟩

/-- Separated arguments that can be derived make a call. -/
theorem shown_of_call {t a b : Token} {xs : List Token} {f : MathFunction} {es : List Expr}
    (hk : t.kind = .value) (hname : Text.isName t.text = true)
    (hf : o.function? t.text = some f) (ha : a.kind = .opening) (hb : b.kind = .closing)
    (hbal : Shape.Balanced xs) (haccepts : f.accepts (Shape.arguments xs).length = true)
    (hes : List.Forall₂ (Derives o .expression) (Shape.arguments xs) es) :
    ∃ m, markBinary o source 0 false (t :: a :: (xs ++ [b])) = .ok m ∧
      Derives o (categoryOf m) (t :: a :: (xs ++ [b])) (.call f.name es) := by
  refine shown_of_atom (.called hk ha hb hbal) (Shape.marks_unmarked _) ?_
  rw [Options.function?_name hf]
  by_cases hempty : xs = []
  · subst hempty
    cases hes
    exact .emptyCall hk hname hf ha hb haccepts
  · obtain ⟨first, rest, hxs, hargs, hsep⟩ := Shape.exists_linked_arguments hempty
    rw [hargs] at hes haccepts
    cases hes with
    | cons hfirst hmore =>
        obtain ⟨items, rfl, rfl, hall⟩ := exists_items hmore
        subst hxs
        refine .call hk hname hf ha hb (by simpa using haccepts) hfirst ?_ hall
        exact fun x hx => hsep x.piece (List.mem_map_of_mem hx)

/-- A run without marks is a prefix expression behind a prefix operator. -/
theorem shown_of_prefixed {t : Token} {rest : List Token} {m : Marked} {op : Operator} {e : Expr}
    (hk : t.kind = .operator) (known : o.operator? t.text = some op)
    (hunary : op.unary.isSome = true) (hreads : markBinary o source 0 false (t :: rest) = .ok m)
    (hm : marks m = [])
    (hrest : ∃ m, markBinary o source 0 false rest = .ok m ∧ Derives o (categoryOf m) rest e) :
    Derives o (categoryOf m) (t :: rest) (.unary t.text e) := by
  obtain ⟨more, rfl, hmore⟩ := (Shape.markBinary_operator hk).mp hreads
  obtain ⟨m, hm', hderives⟩ := hrest
  rw [hmore] at hm'
  cases hm'
  have hmore' : marks more = [] := hm
  rw [categoryOf_of_unmarked hmore'] at hderives
  rw [categoryOf_of_unmarked hm]
  exact .prefixed hk known hunary hderives

/-- The pieces of a cut at the weakest operator make a chain if they can be derived. -/
theorem shown_of_chain {ts : List Token} {m : Marked} {op : Operator} {es : List Expr}
    (hone : GroupsOneWay o) (hreads : markBinary o source 0 false ts = .ok m)
    (hweak : weakest? m = some op)
    (hes : List.Forall₂ (fun part tree => ∃ m, markBinary o source 0 false part = .ok m ∧
        Derives o (categoryOf m) part tree)
      ((cut op.precedence m).1 :: (cut op.precedence m).2.map (·.2)) es) :
    Derives o (categoryOf m) ts
      ((Shape.chain op.associativity (cut op.precedence m).1 (cut op.precedence m).2).tree es) := by
  obtain ⟨hmem, hmin⟩ := Shape.weakest?_eq_some hweak
  obtain ⟨hlinked, hfirst, hrest⟩ := Shape.cut_pieces op.precedence hreads
  -- A piece carries only marks of other levels, and none is weaker than the cut.
  have htighter : ∀ {part tree}, Shape.Piece o source op.precedence m 0 false part →
      (∃ m, markBinary o source 0 false part = .ok m ∧ Derives o (categoryOf m) part tree) →
      Derives o (.tighter op.precedence) part tree := by
    rintro part tree ⟨n, hn, hmarks⟩ ⟨n', hn', htree⟩
    rw [hn] at hn'
    cases hn'
    refine htree.toTighter fun x hx => ?_
    have hle := hmin x (hmarks x hx).1
    have hne := (hmarks x hx).2
    omega
  rw [categoryOf, hweak]
  cases hes with
  | @cons _ e _ more hhead hmore =>
      obtain ⟨items, hlinks, rfl, hall⟩ := exists_items hmore
      rw [Shape.tree_chain]
      have hpieces : ∀ x ∈ items, x.piece ∈ (cut op.precedence m).2 := by
        intro x hx
        rw [hlinks]
        exact List.mem_map_of_mem hx
      have hne : items ≠ [] := by
        rintro rfl
        exact Shape.cut_ne_nil hmem hlinks
      rw [hlinked, hlinks, zip_items]
      have hgrouped := grouped_folded op.associativity e (items.map Item.link)
      refine .chain hne (htighter hfirst hhead) ?_ ?_ hgrouped
      · intro x hx
        obtain ⟨hk, b, known, hb⟩ := (hrest _ (hpieces x hx)).1
        exact ⟨hk, b, known, hb, hone b (Options.operator?_mem known) op (marks_known hreads op hmem) hb⟩
      · exact fun x hx => htighter (hrest _ (hpieces x hx)).2 (hall x hx)

/-- Whatever is parsed can be derived as what its marks show. -/
theorem derives_of_parseLevels (hone : GroupsOneWay o) : ∀ (n : Nat) {ts : List Token} {e : Expr},
    parseLevels o source n ts = .ok e →
    ∃ m, markBinary o source 0 false ts = .ok m ∧ Derives o (categoryOf m) ts e := by
  intro n
  induction n with
  | zero => intro ts e h; cases h
  | succ n ih =>
      intro ts e h
      obtain ⟨k, shape, es, hk, hshape, hes, rfl⟩ := parseLevels_eq_ok.mp h
      cases hk
      have hparts : List.Forall₂ (fun part tree => ∃ m,
          markBinary o source 0 false part = .ok m ∧ Derives o (categoryOf m) part tree)
          shape.parts es := hes.imp fun _ _ hpart => ih hpart
      obtain ⟨kind, -, hkind⟩ := Shape.exists_kind_of_eq_ok hshape
      cases kind with
      | constant =>
          obtain ⟨t, m, l, rfl, hk, hread, hlit, rfl⟩ := Shape.constantLeaf?_eq_some.mp hkind
          exact shown_of_atom (.value hk) (Shape.marks_unmarked _) (.literal hk hread hlit)
      | «variable» =>
          obtain ⟨t, name, rfl, hk, hname, htext, rfl⟩ := Shape.variableLeaf?_eq_some.mp hkind
          exact shown_of_atom (.value hk) (Shape.marks_unmarked _) (.variable hk hname htext)
      | parenthesis =>
          rcases Shape.parenthesis?_eq_some hkind with
            ⟨a, xs, b, rfl, ha, hb, hbal, -, -, rfl⟩ |
            ⟨t, a, xs, b, f, rfl, hk, hname, ha, hb, hbal, hf, -, haccepts, rfl⟩
          · cases hparts with
            | cons hinner hnil =>
                cases hnil
                obtain ⟨m, -, hm⟩ := hinner
                exact shown_of_atom (.enclosed ha hb hbal) (Shape.marks_unmarked _)
                  (.group ha hb hm.toExpression)
          · refine shown_of_call hk hname hf ha hb hbal haccepts (hparts.imp ?_)
            rintro part tree ⟨m, -, hm⟩
            exact hm.toExpression
      | operation =>
          obtain ⟨m, hm, ⟨hnone, hprefixed⟩ | ⟨op, hweak, rfl⟩⟩ := Shape.operation?_eq_some hkind
          · obtain ⟨t, rest, op, rfl, hk, known, hunary, -, rfl⟩ := Shape.prefixed?_eq_some hprefixed
            cases hparts with
            | cons hrest hnil =>
                cases hnil
                have hempty := Shape.weakest?_eq_none.mp hnone
                exact ⟨m, hm, shown_of_prefixed hk known hunary hm hempty hrest⟩
          · exact ⟨m, hm, shown_of_chain hone hm hweak hparts⟩

/-! ### From the grammar to the parser -/

/-- What the marks of a run of each category are. -/
def Category.shownBy : Category → Marked → Prop
  | .atom, m => marks m = []
  | .prefixed, m => marks m = []
  | .chain p, m => (∀ op ∈ marks m, p ≤ op.precedence) ∧ ∃ op ∈ marks m, op.precedence = p
  | .tighter p, m => ∀ op ∈ marks m, p < op.precedence
  | .expression, _ => True

/-- A run is parsed to a tree as soon as there are as many levels as tokens. -/
def Parses (o : Options) (source : Text) (ts : List Token) (e : Expr) : Prop :=
  ∀ n, ts.length ≤ n → parseLevels o source n ts = .ok e

/-- A run is parsed if the parts of its form are, since they are shorter. -/
theorem Parses.of_shape {ts : List Token} {shape : Shape} {es : List Expr} (hne : ts ≠ [])
    (hshape : Shape.of o source ts = .ok shape)
    (hparts : List.Forall₂ (fun part tree => part.length < ts.length ∧ Parses o source part tree)
      shape.parts es) : Parses o source ts (shape.tree es) := by
  intro n hn
  have hpos : 0 < ts.length := List.length_pos_iff.mpr hne
  obtain ⟨k, rfl⟩ : ∃ k, n = k + 1 := ⟨n - 1, by omega⟩
  refine parseLevels_eq_ok.mpr ⟨k, shape, es, rfl, hshape, hparts.imp ?_, rfl⟩
  rintro part tree ⟨hlt, hpart⟩
  exact hpart k (by omega)

theorem Parses.leaf {t : Token} {e : Expr} (h : Shape.of o source [t] = .ok (.leaf e)) :
    Parses o source [t] e :=
  Parses.of_shape (List.cons_ne_nil _ _) h .nil

/-- What a derivation says about its run: it can stand as an operand, its marks show the category,
and it is parsed. -/
def Found (o : Options) (source : Text) (c : Category) (ts : List Token) (e : Expr) : Prop :=
  (∃ m, Run o source ts m ∧ c.shownBy m) ∧ Parses o source ts e

theorem Found.run {c : Category} {ts : List Token} {e : Expr} (h : Found o source c ts e) :
    ∃ m, Run o source ts m :=
  let ⟨⟨m, hrun, _⟩, _⟩ := h
  ⟨m, hrun⟩

theorem Found.tighter {p : Int} {ts : List Token} {e : Expr}
    (h : Found o source (.tighter p) ts e) : Tighter o source p ts := h.1

section Complete

variable (hall : ∀ kind, kind ∈ o.parsers)

include hall

theorem found_group {a b : Token} {ts : List Token} {e : Expr} (ha : a.kind = .opening)
    (hb : b.kind = .closing) (h : Found o source .expression ts e) :
    Found o source .atom (a :: (ts ++ [b])) e := by
  obtain ⟨⟨m, hrun, -⟩, hparses⟩ := h
  refine ⟨⟨_, .enclosed ha hb hrun.balanced, Shape.marks_unmarked _⟩, ?_⟩
  have hparts : List.Forall₂ (fun part tree => part.length < (a :: (ts ++ [b])).length ∧
      Parses o source part tree) (Shape.group ts).parts [e] :=
    .cons ⟨by rw [List.length_cons, List.length_append]; omega, hparses⟩ .nil
  exact Parses.of_shape (List.cons_ne_nil _ _) (Shape.of_group (hall _) ha hb hrun) hparts

theorem found_call {t a b : Token} {f : MathFunction} {xs : List Token} {es : List Expr}
    (hk : t.kind = .value) (hname : Text.isName t.text = true)
    (hf : o.function? t.text = some f) (ha : a.kind = .opening) (hb : b.kind = .closing)
    (hbal : Shape.Balanced xs) (haccepts : f.accepts es.length = true)
    (hargs : ∀ arg ∈ Shape.arguments xs, arg ≠ [])
    (hes : List.Forall₂ (fun part tree => part.length ≤ xs.length ∧ Parses o source part tree)
      (Shape.arguments xs) es) :
    Found o source .atom (t :: a :: (xs ++ [b])) (.call t.text es) := by
  refine ⟨⟨_, .called hk ha hb hbal, Shape.marks_unmarked _⟩, ?_⟩
  have hshape : Shape.of o source (t :: a :: (xs ++ [b])) = .ok (.call f.name (Shape.arguments xs)) :=
    Shape.of_call (hall _) hk hname hf ha hb hbal hargs (by rwa [hes.length_eq])
  rw [← Options.function?_name hf]
  refine Parses.of_shape (List.cons_ne_nil _ _) hshape (hes.imp ?_)
  rintro part tree ⟨hle, hparses⟩
  refine ⟨?_, hparses⟩
  rw [List.length_cons, List.length_cons, List.length_append]
  omega

/-- The arguments of a call between their separators. -/
theorem found_arguments {t a b : Token} {f : MathFunction} {first : List Token} {e : Expr}
    {rest : List Item} (hk : t.kind = .value) (hname : Text.isName t.text = true)
    (hf : o.function? t.text = some f) (ha : a.kind = .opening) (hb : b.kind = .closing)
    (haccepts : f.accepts (rest.length + 1) = true) (hfirst : Found o source .expression first e)
    (hsep : ∀ x ∈ rest, x.token.kind = .separator)
    (hrest : ∀ x ∈ rest, Found o source .expression x.run x.tree) :
    Found o source .atom (t :: a :: (linked first (rest.map Item.piece) ++ [b]))
      (.call t.text (e :: rest.map Item.tree)) := by
  have hruns : ∀ ts ∈ first :: (rest.map Item.piece).map (·.2), ∃ m, Run o source ts m := by
    intro ts hts
    rcases List.mem_cons.mp hts with rfl | hts'
    · exact hfirst.run
    · rw [List.map_map] at hts'
      obtain ⟨x, hx, rfl⟩ := List.mem_map.mp hts'
      exact (hrest x hx).run
  have hseps : ∀ x ∈ rest.map Item.piece, x.1.kind = .separator := by
    intro x hx
    obtain ⟨y, hy, rfl⟩ := List.mem_map.mp hx
    exact hsep y hy
  have hfirst_ne : first ≠ [] := by
    obtain ⟨m, hrun⟩ := hfirst.run
    exact hrun.ne_nil
  have hargs := Shape.arguments_linked hfirst_ne
    (fun ts hts => let ⟨_, hrun⟩ := hruns ts hts; hrun.undivided) hseps
  refine found_call hall hk hname hf ha hb ?_ (by simpa using haccepts) ?_ ?_
  · exact Shape.balanced_linked hseps fun ts hts => let ⟨_, hrun⟩ := hruns ts hts; hrun.balanced
  · rw [hargs]
    intro arg harg
    obtain ⟨m, hrun⟩ := hruns arg harg
    exact hrun.ne_nil
  · rw [hargs]
    refine .cons ⟨Shape.length_le_linked List.mem_cons_self, hfirst.2⟩ (forall₂_items fun x hx => ?_)
    exact ⟨Shape.length_le_linked (run_mem_pieces hx), (hrest x hx).2⟩

theorem found_chain (hone : GroupsOneWay o) {p : Int} {side : Associativity} {first : List Token}
    {e tree : Expr} {rest : List Item} (hne : rest ≠ []) (hfirst : Found o source (.tighter p) first e)
    (hops : ∀ x ∈ rest, IsOperator o p side x.token)
    (hrest : ∀ x ∈ rest, Found o source (.tighter p) x.run x.tree)
    (hgrouped : Grouped side e (rest.map Item.link) tree) :
    Found o source (.chain p) (linked first (rest.map Item.piece)) tree := by
  have hpieces : ∀ x ∈ rest.map Item.piece, Divides o p x.1 ∧ Tighter o source p x.2 := by
    intro x hx
    obtain ⟨y, hy, rfl⟩ := List.mem_map.mp hx
    obtain ⟨hk, op, known, hop, -⟩ := hops y hy
    exact ⟨⟨hk, op, known, hop⟩, (hrest y hy).1⟩
  obtain ⟨m, hrun, hle, hmark, hcut⟩ := Shape.exists_run_linked hfirst.1 hpieces
  obtain ⟨op, hop, hprec⟩ := hmark (by simpa using hne)
  refine ⟨⟨m, hrun, hle, op, hop, hprec⟩, ?_⟩
  -- The weakest mark need not be `op`, but it has the same precedence, hence the same side.
  obtain ⟨weakest, hweak⟩ : ∃ b, weakest? m = some b := by
    cases hw : weakest? m with
    | some b => exact ⟨b, rfl⟩
    | none => rw [Shape.weakest?_eq_none.mp hw] at hop; simp at hop
  obtain ⟨hmem, hmin⟩ := Shape.weakest?_eq_some hweak
  have hlevel : weakest.precedence = p := by
    have := hle weakest hmem
    have := hmin op hop
    omega
  obtain ⟨x, hx⟩ := List.exists_mem_of_ne_nil rest hne
  obtain ⟨-, b, known, hb, hside⟩ := hops x hx
  have hassoc : weakest.associativity = side := by
    rw [← hside]
    exact hone weakest (marks_known hrun.reads weakest hmem) b (Options.operator?_mem known) (by omega)
  have hshape : Shape.of o source (linked first (rest.map Item.piece)) =
      .ok (.chain side first (rest.map Item.piece)) := by
    rw [← hassoc]
    refine Shape.of_chain (hall _) hrun.reads hweak (by rw [hlevel, hcut]) fun y hy => ?_
    obtain ⟨n, hn, -⟩ := (hpieces y hy).2
    exact hn.ne_nil
  rw [hgrouped.eq_folded, ← zip_items, ← Shape.tree_chain side first]
  refine Parses.of_shape hrun.ne_nil hshape ?_
  have hne' : rest.map Item.piece ≠ [] := by simpa using hne
  refine .cons ⟨Shape.length_lt_linked hne' List.mem_cons_self, hfirst.2⟩
    (forall₂_items fun y hy => ?_)
  exact ⟨Shape.length_lt_linked hne' (run_mem_pieces hy), (hrest y hy).2⟩

/-- Whatever can be derived is found by the parser. -/
theorem found_of_derives (hp : o.pattern.isUnlikeNumber = true) (hone : GroupsOneWay o)
    {c : Category} {ts : List Token} {e : Expr} (h : Derives o c ts e) : Found o source c ts e := by
  induction h with
  | literal hk hread hlit =>
      exact ⟨⟨_, .value hk, Shape.marks_unmarked _⟩,
        .leaf (Shape.of_literal (hall _) hp hk hread hlit)⟩
  | «variable» hk hname htext =>
      exact ⟨⟨_, .value hk, Shape.marks_unmarked _⟩,
        .leaf (Shape.of_variable (hall _) hp hk hname htext)⟩
  | group ha hb _ ih => exact found_group hall ha hb ih
  | emptyCall hk hname hf ha hb haccepts =>
      exact found_call hall hk hname hf ha hb (.nil 0) haccepts (by simp [Shape.arguments]) .nil
  | call hk hname hf ha hb haccepts _ hsep _ ihfirst ihrest =>
      exact found_arguments hall hk hname hf ha hb haccepts ihfirst hsep ihrest
  | atom _ ih => exact ih
  | @prefixed t op ts e hk known hunary _ ih =>
      obtain ⟨⟨m, hrun, hm⟩, hparses⟩ := ih
      have hshape := Shape.of_prefixed (hall _) hk known hunary hrun hm
      have hparts : List.Forall₂ (fun part tree => part.length < (t :: ts).length ∧
          Parses o source part tree) (Shape.prefixed t.text ts).parts [e] :=
        .cons ⟨Nat.lt_succ_self _, hparses⟩ .nil
      exact ⟨⟨_, hrun.prefixed hk, hm⟩, Parses.of_shape (List.cons_ne_nil _ _) hshape hparts⟩
  | chain hne _ hops _ hgrouped ihfirst ihrest =>
      exact found_chain hall hone hne ihfirst hops ihrest hgrouped
  | tighterPrefixed _ ih =>
      obtain ⟨⟨m, hrun, hm⟩, hparses⟩ := ih
      refine ⟨⟨m, hrun, fun op hop => ?_⟩, hparses⟩
      rw [show marks m = [] from hm] at hop
      cases hop
  | tighterChain hlt _ ih =>
      obtain ⟨⟨m, hrun, hle, -⟩, hparses⟩ := ih
      exact ⟨⟨m, hrun, fun op hop => Int.lt_of_lt_of_le hlt (hle op hop)⟩, hparses⟩
  | expressionPrefixed _ ih =>
      obtain ⟨⟨m, hrun, -⟩, hparses⟩ := ih
      exact ⟨⟨m, hrun, trivial⟩, hparses⟩
  | expressionChain _ ih =>
      obtain ⟨⟨m, hrun, -⟩, hparses⟩ := ih
      exact ⟨⟨m, hrun, trivial⟩, hparses⟩

end Complete

/-! ### The parser and the grammar -/

/-- **The parser accepts exactly the grammar and builds the trees that the grammar prescribes.**  It
is complete as soon as the limit on the levels is not below the number of tokens; whatever
cannot be derived is refused. -/
theorem parseTokens_iff_derives (o : Options) (source : Text) (tokens : List Token)
    (hall : ∀ kind, kind ∈ o.parsers) (hone : GroupsOneWay o)
    (hp : o.pattern.isUnlikeNumber = true) (hne : tokens ≠ [])
    (hdepth : tokens.length ≤ o.maxDepth) :
    (∀ e, parseTokens o source tokens = .ok e ↔ Derives o .expression tokens e) ∧
      ((¬∃ e, Derives o .expression tokens e) →
        ∃ fault, parseTokens o source tokens = .error fault) := by
  have hiff : ∀ e, parseTokens o source tokens = .ok e ↔ Derives o .expression tokens e := by
    intro e
    constructor
    · intro h
      obtain ⟨m, -, hm⟩ := derives_of_parseLevels hone o.maxDepth (parseTokens_eq_ok.mp h).2
      exact hm.toExpression
    · intro h
      exact parseTokens_eq_ok.mpr ⟨hne, (found_of_derives hall hp hone h).2 o.maxDepth hdepth⟩
  refine ⟨hiff, fun hnone => ?_⟩
  cases hresult : parseTokens o source tokens with
  | error fault => exact ⟨fault, rfl⟩
  | ok e => exact absurd ⟨e, (hiff e).mp hresult⟩ hnone

/-- With the standard operators `1-2*3-4` can only be the difference of a difference. -/
theorem derives_difference :
    Derives Options.standard .expression
      [⟨.value, ['1'], 0, 1⟩, ⟨.operator, ['-'], 1, 2⟩, ⟨.value, ['2'], 2, 3⟩,
        ⟨.operator, ['*'], 3, 4⟩, ⟨.value, ['3'], 4, 5⟩, ⟨.operator, ['-'], 5, 6⟩,
        ⟨.value, ['4'], 6, 7⟩]
      (.binary ['-']
        (.binary ['-'] (.const (.int 1)) (.binary ['*'] (.const (.int 2)) (.const (.int 3))))
        (.const (.int 4))) := by
  have hall : ∀ kind, kind ∈ Options.standard.parsers := by
    intro kind
    cases kind <;> decide
  have hone : GroupsOneWay Options.standard := by
    unfold GroupsOneWay
    decide
  exact ((parseTokens_iff_derives Options.standard "1-2*3-4".toList _ hall hone rfl
    (List.cons_ne_nil _ _) (by decide)).1 _).mp rfl

end Reckon.Grammar
