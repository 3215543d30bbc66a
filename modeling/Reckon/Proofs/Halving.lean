/-
Splitting a run in two.

A chain of operators can be read by taking it apart one operator at a time.  A run is divided at its
weakest operator between two operands: at the last one of its level if the level groups to the left, at
the first one if it groups to the right.  Both sides are read in the same way, and only a run without
such an operator can begin with a prefix operator.  The parser does not go about it like that.  It looks
for all operators of the weakest level at once, cuts the run at each of them, and groups the chain
afterwards.

Both find the same trees.  Whether an operator is between two operands depends only on what stands
before it, so a side is divided where the whole run would be.  A run may be cut at any level that none
of its operators is weaker than, also at a level that it has no operator of; hence a side and the whole
run can be cut at one and the same level, and what the two cuts differ in is the operator that the run
was divided at.
-/
import Reckon.Proofs.Grammar
import Reckon.Proofs.Kinds

namespace Reckon.Halving

open Grammar (GroupsOneWay)
open Kinds (Finder formBy readBy Settles Shrinks shrinks_ofKind settles_iff)
open Shape (Marked marks markBinary cut linked weakest? operandBehind endsOperand isBetween depthAfter)

/-! ### Dividing a run at one operator -/

/-- A run divided at an operator. -/
structure Division where
  left : List Token
  token : Token
  op : Operator
  right : List Token

/-- Whether a token behind others is an operator between two operands: as many parentheses have been
closed as opened, and it follows a value or a closing parenthesis. -/
def isBinaryBehind (before : List Token) (t : Token) : Bool :=
  t.kind == .operator &&
    before.countP (·.kind == .opening) == before.countP (·.kind == .closing) &&
    before.getLast?.any fun u => u.kind == .value || u.kind == .closing

/-- The divisions of a run at its operators between two operands, in order; `before` stands in front of
the tokens that are still to be looked at. -/
def divisions (o : Options) (source : Text) (before : List Token) :
    List Token → Except (Located ParseCause) (List Division)
  | [] => .ok []
  | t :: rest =>
    if isBinaryBehind before t then do
      let op ← Shape.operatorOf o source t
      let more ← divisions o source (before ++ [t]) rest
      pure (⟨before, t, op, rest⟩ :: more)
    else divisions o source (before ++ [t]) rest

/-- The one of two divisions to read a run by, where `y` comes behind `x`: the one at the weaker
operator.  Of two that are as weak it is the last one if they group to the left, and the first one if
they group to the right. -/
def prefer (x y : Division) : Division :=
  if y.op.precedence < x.op.precedence then y
  else if x.op.precedence < y.op.precedence then x
  else match x.op.associativity with
    | .left => y
    | .right => x

/-- The division to read a run by, if there is any. -/
def choose : List Division → Option Division
  | [] => none
  | x :: rest => some (match choose rest with
    | none => x
    | some y => prefer x y)

/-- The operation with the two sides of a division, which may not be empty. -/
def Division.form? (source : Text) (x : Division) : Except (Located ParseCause) (Option Shape) :=
  if x.left.isEmpty || x.right.isEmpty then
    Shape.fault source [x.token] (.missingOperand x.token.text)
  else .ok (some (.chain x.op.associativity x.left [(x.token, x.right)]))

/-- The operation that a run is, or a prefix operator if no operator is between two operands. -/
def operation? (o : Options) (source : Text) (ts : List Token) :
    Except (Located ParseCause) (Option Shape) := do
  match choose (← divisions o source [] ts) with
  | none => Shape.prefixed? o source ts
  | some x => x.form? source

/-- The kinds of parsers, with operations divided in two. -/
def ofKind (o : Options) (source : Text) : Finder := fun ts kind =>
  match kind with
  | .operation => operation? o source ts
  | kind => Shape.ofKind o source ts kind

/-- The tree of some tokens, found by dividing operations in two. -/
def splitTokens (o : Options) (source : Text) (tokens : List Token) :
    Except (Located ParseCause) Expr :=
  readBy o source (ofKind o source) o.maxDepth tokens

variable {o : Options} {source : Text} {ts : List Token} {e : Expr}

/-! ### The divisions of a run -/

theorem foldl_depthAfter_eq (before : List Token) (d : Int) :
    before.foldl depthAfter d = d + before.countP (·.kind == .opening) -
      before.countP (·.kind == .closing) := by
  induction before generalizing d with
  | nil => simp
  | cons t rest ih =>
      rw [List.foldl_cons, ih, List.countP_cons, List.countP_cons]
      cases hk : t.kind <;> simp [depthAfter, hk] <;> omega

/-- The parser sees the operators between two operands where they are. -/
theorem isBinaryBehind_eq (before : List Token) (t : Token) :
    isBinaryBehind before t =
      isBetween (before.foldl depthAfter 0) (operandBehind false before) t := by
  have hdepth : (before.foldl depthAfter 0 == 0) =
      (before.countP (·.kind == .opening) == before.countP (·.kind == .closing)) := by
    rw [foldl_depthAfter_eq, Bool.eq_iff_iff, beq_iff_eq, beq_iff_eq]
    omega
  have hlast : operandBehind false before =
      before.getLast?.any fun u => u.kind == .value || u.kind == .closing := by
    rcases List.eq_nil_or_concat before with rfl | ⟨us, u, rfl⟩
    · rfl
    · rw [List.concat_eq_append, Shape.operandBehind_concat, List.getLast?_concat]
      rfl
  rw [isBinaryBehind, isBetween, hdepth, hlast]

/-- The divisions of a marked run behind others: one at each mark. -/
def divisionsOf (before : List Token) : Marked → List Division
  | [] => []
  | (t, none) :: rest => divisionsOf (before ++ [t]) rest
  | (t, some op) :: rest => ⟨before, t, op, rest.map (·.1)⟩ :: divisionsOf (before ++ [t]) rest

/-- A run is divided at the marks that the parser sets, and unknown operators are faults to both. -/
theorem divisions_eq (ts : List Token) : ∀ before : List Token,
    divisions o source before ts =
      (markBinary o source (before.foldl depthAfter 0) (operandBehind false before) ts).map
        (divisionsOf before) := by
  induction ts with
  | nil => intro before; rfl
  | cons t rest ih =>
      intro before
      have hdepth : (before ++ [t]).foldl depthAfter 0 = depthAfter (before.foldl depthAfter 0) t := by
        rw [List.foldl_append]
        rfl
      have hmore := ih (before ++ [t])
      rw [hdepth, Shape.operandBehind_concat] at hmore
      rw [divisions, isBinaryBehind_eq, Shape.markBinary_cons, hmore]
      generalize depthAfter (before.foldl depthAfter 0) t = depth
      cases hreads : markBinary o source depth (endsOperand t) rest with
      | error fault => split <;> cases Shape.operatorOf o source t <;> rfl
      | ok m =>
          split
          · cases Shape.operatorOf o source t with
            | error fault => rfl
            | ok op =>
                rw [← Shape.map_fst_of_markBinary hreads]
                rfl
          · rfl

/-- The division that is chosen in a marked run: its operator is a mark that no mark is weaker than, and
of those that are as weak it is the last or the first one, according to the side they group to. -/
structure Chosen (before : List Token) (m : Marked) (x : Division) (m₁ m₂ : Marked) : Prop where
  whole : m = m₁ ++ (x.token, some x.op) :: m₂
  left : x.left = before ++ m₁.map (·.1)
  right : x.right = m₂.map (·.1)
  weakest : ∀ op ∈ marks m, x.op.precedence ≤ op.precedence
  last : x.op.associativity = .left → ∀ op ∈ marks m₂, x.op.precedence < op.precedence
  first : x.op.associativity = .right → ∀ op ∈ marks m₁, x.op.precedence < op.precedence

namespace Chosen

variable {before : List Token} {t : Token} {op : Operator} {m m₁ m₂ : Marked} {x : Division}

/-- An unmarked token in front changes nothing. -/
theorem skip (h : Chosen (before ++ [t]) m x m₁ m₂) :
    Chosen before ((t, none) :: m) x ((t, none) :: m₁) m₂ where
  whole := by rw [h.whole, List.cons_append]
  left := by rw [h.left, List.append_assoc]; rfl
  right := h.right
  weakest := h.weakest
  last := h.last
  first := h.first

/-- The choice stays if the operator in front is no weaker, and strictly tighter where the level groups
to the right. -/
theorem behind (h : Chosen (before ++ [t]) m x m₁ m₂) (hle : x.op.precedence ≤ op.precedence)
    (hlt : x.op.associativity = .right → x.op.precedence < op.precedence) :
    Chosen before ((t, some op) :: m) x ((t, some op) :: m₁) m₂ where
  whole := by rw [h.whole, List.cons_append]
  left := by rw [h.left, List.append_assoc]; rfl
  right := h.right
  weakest := by
    intro b hb
    rcases List.mem_cons.mp hb with rfl | hb'
    · exact hle
    · exact h.weakest b hb'
  last := h.last
  first := by
    intro hside b hb
    rcases List.mem_cons.mp hb with rfl | hb'
    · exact hlt hside
    · exact h.first hside b hb'

/-- The operator in front is chosen if none is weaker, and no other one is as weak where the level
groups to the left. -/
theorem front (hle : ∀ b ∈ marks m, op.precedence ≤ b.precedence)
    (hlt : op.associativity = .left → ∀ b ∈ marks m, op.precedence < b.precedence) :
    Chosen before ((t, some op) :: m) ⟨before, t, op, m.map (·.1)⟩ [] m where
  whole := rfl
  left := (List.append_nil before).symm
  right := rfl
  weakest := by
    intro b hb
    rcases List.mem_cons.mp hb with rfl | hb'
    · exact Int.le_refl _
    · exact hle b hb'
  last := hlt
  first := by
    intro _ b hb
    cases hb

/-- Where equally weak operators group to one side, the preferred division is the one to choose. -/
theorem prefer (h : Chosen (before ++ [t]) m x m₁ m₂)
    (hside : op.precedence = x.op.precedence → op.associativity = x.op.associativity) :
    ∃ n₁ n₂, Chosen before ((t, some op) :: m) (prefer ⟨before, t, op, m.map (·.1)⟩ x) n₁ n₂ := by
  unfold Halving.prefer
  dsimp only
  by_cases hlt : x.op.precedence < op.precedence
  · rw [if_pos hlt]
    exact ⟨_, m₂, h.behind (Int.le_of_lt hlt) fun _ => hlt⟩
  rw [if_neg hlt]
  by_cases hgt : op.precedence < x.op.precedence
  · rw [if_pos hgt]
    have htighter : ∀ b ∈ marks m, op.precedence < b.precedence :=
      fun b hb => Int.lt_of_lt_of_le hgt (h.weakest b hb)
    exact ⟨[], m, .front (fun b hb => Int.le_of_lt (htighter b hb)) fun _ => htighter⟩
  rw [if_neg hgt]
  have heq : op.precedence = x.op.precedence := by omega
  cases hop : op.associativity with
  | left =>
      have hx : x.op.associativity = .left := (hside heq).symm.trans hop
      exact ⟨_, m₂, h.behind (Int.le_of_eq heq.symm) fun hright => by cases hx.symm.trans hright⟩
  | right =>
      have hle : ∀ b ∈ marks m, op.precedence ≤ b.precedence := fun b hb => heq ▸ h.weakest b hb
      exact ⟨[], m, .front hle fun hleft => by cases hop.symm.trans hleft⟩

end Chosen

/-- A division is chosen exactly if a run has a mark. -/
theorem choose_divisionsOf (m : Marked) : ∀ before : List Token,
    (∀ a ∈ marks m, ∀ b ∈ marks m, a.precedence = b.precedence → a.associativity = b.associativity) →
    (marks m = [] ∧ choose (divisionsOf before m) = none) ∨
      ∃ x m₁ m₂, choose (divisionsOf before m) = some x ∧ Chosen before m x m₁ m₂ := by
  induction m with
  | nil => intro before _; exact .inl ⟨rfl, rfl⟩
  | cons y rest ih =>
      intro before hone
      obtain ⟨t, mark⟩ := y
      cases mark with
      | none =>
          rcases ih (before ++ [t]) hone with hnone | ⟨x, m₁, m₂, hx, hchosen⟩
          · exact .inl hnone
          · exact .inr ⟨x, _, m₂, hx, hchosen.skip⟩
      | some op =>
          refine .inr ?_
          have hrest : ∀ a ∈ marks rest, ∀ b ∈ marks rest, a.precedence = b.precedence →
              a.associativity = b.associativity :=
            fun a ha b hb => hone a (List.mem_cons_of_mem _ ha) b (List.mem_cons_of_mem _ hb)
          rw [divisionsOf, choose]
          rcases ih (before ++ [t]) hrest with ⟨hnone, hx⟩ | ⟨x, m₁, m₂, hx, hchosen⟩
          · rw [hx]
            exact ⟨_, [], rest, rfl, .front (by simp [hnone]) (by simp [hnone])⟩
          · rw [hx]
            have hmem : x.op ∈ marks rest := by simp [hchosen.whole]
            obtain ⟨n₁, n₂, hprefer⟩ := hchosen.prefer
              (hone op List.mem_cons_self x.op (List.mem_cons_of_mem _ hmem))
            exact ⟨_, n₁, n₂, rfl, hprefer⟩

/-! ### What becomes of an operation -/

/-- All other kinds pass by a run with an operator between operands. -/
theorem leftTo_of_marked {m : Marked} (hreads : markBinary o source 0 false ts = .ok m)
    (hm : marks m ≠ []) : Shape.LeftTo o source ts .operation :=
  Shape.leftTo_operation (Shape.two_le_of_marked hreads hm) (Shape.parenthesis?_of_marked hreads hm)

/-- What a marked run is divided at. -/
theorem operation?_of_reads (hone : GroupsOneWay o) {m : Marked}
    (hreads : markBinary o source 0 false ts = .ok m) :
    (marks m = [] ∧ operation? o source ts = Shape.prefixed? o source ts) ∨
      ∃ x m₁ m₂, Chosen [] m x m₁ m₂ ∧ operation? o source ts = x.form? source := by
  have hdivisions : divisions o source [] ts = .ok (divisionsOf [] m) := by
    rw [divisions_eq ts []]
    exact congrArg (Except.map _) hreads
  have hknown := Grammar.marks_known hreads
  have hsides : ∀ a ∈ marks m, ∀ b ∈ marks m, a.precedence = b.precedence →
      a.associativity = b.associativity := fun a ha b hb => hone a (hknown a ha) b (hknown b hb)
  unfold operation?
  rw [hdivisions]
  dsimp only [bind, Except.bind]
  rcases choose_divisionsOf m [] hsides with ⟨hnone, hx⟩ | ⟨x, m₁, m₂, hx, hchosen⟩
  · rw [hx]
    exact .inl ⟨hnone, rfl⟩
  · rw [hx]
    exact .inr ⟨x, m₁, m₂, hchosen, rfl⟩

theorem operation?_of_error {fault : Located ParseCause}
    (hreads : markBinary o source 0 false ts = .error fault) :
    operation? o source ts = .error fault ∧ Shape.operation? o source ts = .error fault := by
  have hdivisions : divisions o source [] ts = .error fault := by
    rw [divisions_eq ts []]
    exact congrArg (Except.map _) hreads
  constructor
  · unfold operation?
    rw [hdivisions]
    rfl
  · unfold Shape.operation?
    rw [hreads]
    rfl

theorem Division.form?_eq_some {x : Division} {shape : Shape} :
    x.form? source = .ok (some shape) ↔ x.left ≠ [] ∧ x.right ≠ [] ∧
      shape = .chain x.op.associativity x.left [(x.token, x.right)] := by
  constructor
  · intro h
    unfold form? at h
    split at h
    · cases h
    · rename_i hsides
      rw [Bool.or_eq_true, List.isEmpty_iff, List.isEmpty_iff, not_or] at hsides
      cases h
      exact ⟨hsides.1, hsides.2, rfl⟩
  · rintro ⟨hl, hr, rfl⟩
    simp [form?, hl, hr]

/-- The two sides with the operator between them are the run. -/
theorem Chosen.sides {m m₁ m₂ : Marked} {x : Division} (h : Chosen [] m x m₁ m₂)
    (hreads : markBinary o source 0 false ts = .ok m) : ts = x.left ++ x.token :: x.right := by
  rw [← Shape.map_fst_of_markBinary hreads, h.whole, h.left, h.right]
  simp

theorem shrinks_halved (hone : GroupsOneWay o) : Shrinks (ofKind o source) := by
  intro ts kind shape h
  have hparser : Shrinks (Shape.ofKind o source) := shrinks_ofKind
  cases kind with
  | constant => exact hparser ts .constant shape h
  | «variable» => exact hparser ts .variable shape h
  | parenthesis => exact hparser ts .parenthesis shape h
  | operation =>
      cases hreads : markBinary o source 0 false ts with
      | error fault => cases (operation?_of_error hreads).1.symm.trans h
      | ok m =>
          rcases operation?_of_reads hone hreads with ⟨-, hprefixed⟩ | ⟨x, m₁, m₂, hchosen, hx⟩
          · obtain ⟨t, rest, _, rfl, -, -, -, -, rfl⟩ :=
              Shape.prefixed?_eq_some (hprefixed.symm.trans h)
            exact ⟨List.cons_ne_nil _ _, by simp [Shape.parts]⟩
          · obtain ⟨-, -, rfl⟩ := Division.form?_eq_some.mp (hx.symm.trans h)
            have hlinked : ts = linked x.left [(x.token, x.right)] := by
              rw [Shape.linked_cons, Shape.linked_nil]
              exact hchosen.sides hreads
            rw [hlinked]
            exact ⟨by simp [linked], fun part hpart =>
              Shape.length_lt_linked (List.cons_ne_nil _ _) hpart⟩

/-! ### Trees of a run -/

/-- A run has a tree by the parser, which cuts a chain at all its operators. -/
abbrev ByCut (o : Options) (source : Text) : List Token → Expr → Prop :=
  Settles o source (Shape.ofKind o source)

/-- A run has a tree by dividing operations in two. -/
abbrev ByHalves (o : Options) (source : Text) : List Token → Expr → Prop :=
  Settles o source (ofKind o source)

/-- A tree is made of trees of the two sides of a division. -/
def Division.Makes (x : Division) (tree : List Token → Expr → Prop) (e : Expr) : Prop :=
  ∃ l r, tree x.left l ∧ tree x.right r ∧ .binary x.token.text l r = e

/-! ### Cutting at a level -/

/-- A run may be cut at any level that none of its operators is weaker than, whether or not it has an
operator of that level. -/
theorem byCut_iff (hmem : .operation ∈ o.parsers) {m : Marked} {p : Int}
    {side : Associativity} (hreads : markBinary o source 0 false ts = .ok m)
    (hle : ∀ op ∈ marks m, p ≤ op.precedence)
    (hside : ∀ op ∈ marks m, op.precedence = p → op.associativity = side) :
    ByCut o source ts e ↔
      ∃ first es, ByCut o source (cut p m).1 first ∧
        List.Forall₂ (ByCut o source) ((cut p m).2.map (·.2)) es ∧
        Shape.folded side first (((cut p m).2.map (·.1.text)).zip es) = e := by
  by_cases hlevel : ∃ op ∈ marks m, op.precedence = p
  · obtain ⟨op, hop, rfl⟩ := hlevel
    obtain ⟨w, hweak⟩ : ∃ w, weakest? m = some w := by
      cases hw : weakest? m with
      | some w => exact ⟨w, rfl⟩
      | none => rw [Shape.weakest?_eq_none.mp hw] at hop; cases hop
    obtain ⟨hwmem, hwle⟩ := Shape.weakest?_eq_some hweak
    have hw : w.precedence = op.precedence := Int.le_antisymm (hwle op hop) (hle w hwmem)
    have hassoc : w.associativity = side := hside w hwmem hw
    have hothers := leftTo_of_marked hreads (List.ne_nil_of_mem hop)
    refine (settles_iff shrinks_ofKind).trans ⟨?_, ?_⟩
    · rintro ⟨shape, es, hshape, hparts, rfl⟩
      have hfound := (Kinds.formBy_eq_ok_iff hmem hothers).mp hshape
      obtain ⟨m', hm', ⟨hnone, -⟩ | ⟨w', hweak', rfl⟩⟩ := Shape.operation?_eq_some hfound
      · cases hreads.symm.trans hm'
        rw [hweak] at hnone
        cases hnone
      · cases hreads.symm.trans hm'
        cases hweak.symm.trans hweak'
        rw [← hw, ← hassoc]
        cases hparts with
        | cons hfirst hrest =>
            exact ⟨_, _, hfirst, hrest, (Shape.tree_chain _ _ _ _ _).symm⟩
    · rintro ⟨first, es, hfirst, hrest, rfl⟩
      rw [← hw] at hfirst hrest ⊢
      refine ⟨.chain side (cut w.precedence m).1 (cut w.precedence m).2, first :: es, ?_,
        .cons hfirst hrest, Shape.tree_chain _ _ _ _ _⟩
      rw [← Kinds.of_eq_formBy, ← hassoc]
      refine Shape.of_chain hmem hreads hweak rfl fun x hx hnil => ?_
      -- No piece is empty, since an empty run has no tree.
      have hsettled := ((List.forall₂_and_left (p := fun part => part ≠ []) _ es).mp
        (hrest.imp fun part _ hpart => ⟨fun h => Kinds.not_settles_nil (h ▸ hpart), hpart⟩)).1
      exact hsettled x.2 (List.mem_map_of_mem hx) hnil
  · rw [Shape.cut_of_forall_ne fun op hop hp => hlevel ⟨op, hop, hp⟩,
      Shape.map_fst_of_markBinary hreads]
    constructor
    · intro h
      exact ⟨e, [], h, .nil, by cases side <;> rfl⟩
    · rintro ⟨first, es, hfirst, hes, rfl⟩
      cases hes
      cases side <;> exact hfirst

/-! ### The two sides of a division -/

theorem exists_of_forall₂_concat {α β : Type} {R : α → β → Prop} {a : α} {xs : List α} :
    ∀ {ys : List β}, List.Forall₂ R (xs ++ [a]) ys →
      ∃ bs b, ys = bs ++ [b] ∧ List.Forall₂ R xs bs ∧ R a b := by
  induction xs with
  | nil =>
      intro ys h
      cases h with
      | cons hab hnil =>
          cases hnil
          exact ⟨[], _, rfl, .nil, hab⟩
  | cons x rest ih =>
      intro ys h
      cases h with
      | cons hx hmore =>
          obtain ⟨bs, b, rfl, hbs, hb⟩ := ih hmore
          exact ⟨_ :: bs, b, rfl, .cons hx hbs, hb⟩

/-- A chain of a level that groups to the left ends with its last operator. -/
theorem byCut_last (hmem : .operation ∈ o.parsers) {m m₁ m₂ : Marked} {x : Division}
    (hreads : markBinary o source 0 false ts = .ok m) (hchosen : Chosen [] m x m₁ m₂)
    (hside : ∀ op ∈ marks m, op.precedence = x.op.precedence → op.associativity = .left)
    (hlast : ∀ op ∈ marks m₂, x.op.precedence < op.precedence) :
    ByCut o source ts e ↔ x.Makes (ByCut o source) e := by
  have hbefore : ∀ op ∈ marks m₁, op ∈ marks m := by
    intro op hop
    simp [hchosen.whole, hop]
  obtain ⟨hfront, -⟩ := Shape.markBinary_beside (hchosen.whole ▸ hreads)
  have hleft : x.left = m₁.map (·.1) := hchosen.left
  rw [Division.Makes, hleft, hchosen.right, byCut_iff hmem hreads hchosen.weakest hside, hchosen.whole,
    Shape.cut_append_mark, Shape.cut_of_forall_ne fun op hop => Int.ne_of_gt (hlast op hop),
    List.map_append, List.map_append]
  have hcut : ∀ {l : Expr}, ByCut o source (m₁.map (·.1)) l ↔ _ := fun {l} =>
    byCut_iff hmem hfront (fun op hop => hchosen.weakest op (hbefore op hop))
      fun op hop => hside op (hbefore op hop)
  constructor
  · rintro ⟨first, es, hfirst, hes, rfl⟩
    obtain ⟨es, r, rfl, hes, hr⟩ := exists_of_forall₂_concat hes
    refine ⟨_, r, hcut.mpr ⟨first, es, hfirst, hes, rfl⟩, hr, ?_⟩
    rw [List.zip_append (by simpa using hes.length_eq)]
    simp [Shape.folded, Shape.foldLeft]
  · rintro ⟨l, r, hl, hr, rfl⟩
    obtain ⟨first, es, hfirst, hes, rfl⟩ := hcut.mp hl
    refine ⟨first, es ++ [r], hfirst, List.rel_append hes (.cons hr .nil), ?_⟩
    rw [List.zip_append (by simpa using hes.length_eq)]
    simp [Shape.folded, Shape.foldLeft]

/-- A chain of a level that groups to the right begins with its first operator. -/
theorem byCut_first (hmem : .operation ∈ o.parsers) {m m₁ m₂ : Marked} {x : Division}
    (hreads : markBinary o source 0 false ts = .ok m) (hchosen : Chosen [] m x m₁ m₂)
    (hside : ∀ op ∈ marks m, op.precedence = x.op.precedence → op.associativity = .right)
    (hfirst : ∀ op ∈ marks m₁, x.op.precedence < op.precedence) :
    ByCut o source ts e ↔ x.Makes (ByCut o source) e := by
  have hbehind : ∀ op ∈ marks m₂, op ∈ marks m := by
    intro op hop
    simp [hchosen.whole, hop]
  obtain ⟨-, hreads₂⟩ := Shape.markBinary_beside (hchosen.whole ▸ hreads)
  have hleft : x.left = m₁.map (·.1) := hchosen.left
  rw [Division.Makes, hleft, hchosen.right, byCut_iff hmem hreads hchosen.weakest hside, hchosen.whole,
    Shape.cut_append_mark, Shape.cut_of_forall_ne fun op hop => Int.ne_of_gt (hfirst op hop),
    List.nil_append, List.map_cons, List.map_cons]
  have hcut : ∀ {r : Expr}, ByCut o source (m₂.map (·.1)) r ↔ _ := fun {r} =>
    byCut_iff hmem hreads₂ (fun op hop => hchosen.weakest op (hbehind op hop))
      fun op hop => hside op (hbehind op hop)
  constructor
  · rintro ⟨l, es, hl, hes, rfl⟩
    cases hes with
    | cons hnext hrest => exact ⟨l, _, hl, hcut.mpr ⟨_, _, hnext, hrest, rfl⟩, rfl⟩
  · rintro ⟨l, r, hl, hr, rfl⟩
    obtain ⟨next, es, hnext, hes, rfl⟩ := hcut.mp hr
    exact ⟨l, next :: es, hl, .cons hnext hes, rfl⟩

/-- Where a run is divided, its tree is made of the trees of the two sides. -/
theorem byCut_divided (hone : GroupsOneWay o) (hmem : .operation ∈ o.parsers) {m m₁ m₂ : Marked}
    {x : Division} (hreads : markBinary o source 0 false ts = .ok m) (hchosen : Chosen [] m x m₁ m₂) :
    ByCut o source ts e ↔ x.Makes (ByCut o source) e := by
  have hknown := Grammar.marks_known hreads
  have hx : x.op ∈ marks m := by simp [hchosen.whole]
  have hside : ∀ op ∈ marks m, op.precedence = x.op.precedence →
      op.associativity = x.op.associativity :=
    fun op hop hlevel => hone op (hknown op hop) x.op (hknown x.op hx) hlevel
  cases hassoc : x.op.associativity with
  | left => exact byCut_last hmem hreads hchosen (hassoc ▸ hside) (hchosen.last hassoc)
  | right => exact byCut_first hmem hreads hchosen (hassoc ▸ hside) (hchosen.first hassoc)

/-- Dividing a run in two means reading the two sides. -/
theorem byHalves_divided (hone : GroupsOneWay o) (hmem : .operation ∈ o.parsers) {m m₁ m₂ : Marked}
    {x : Division} (hreads : markBinary o source 0 false ts = .ok m) (hchosen : Chosen [] m x m₁ m₂)
    (hfound : operation? o source ts = x.form? source) :
    ByHalves o source ts e ↔ x.Makes (ByHalves o source) e := by
  have hm : marks m ≠ [] := by simp [hchosen.whole]
  have hothers : ∀ other, other ≠ .operation → ofKind o source ts other = .ok none := by
    intro other hother
    have hpasses := leftTo_of_marked hreads hm other hother
    cases other with
    | operation => exact absurd rfl hother
    | constant | «variable» | parenthesis => exact hpasses
  have hform : ∀ {shape}, formBy o source (ofKind o source) ts = .ok shape ↔
      x.left ≠ [] ∧ x.right ≠ [] ∧ shape = .chain x.op.associativity x.left [(x.token, x.right)] := by
    intro shape
    rw [Kinds.formBy_eq_ok_iff hmem hothers, ← Division.form?_eq_some, ← hfound]
    rfl
  have htree : ∀ l r, (Shape.chain x.op.associativity x.left [(x.token, x.right)]).tree [l, r] =
      .binary x.token.text l r := by
    intro l r
    cases hassoc : x.op.associativity <;> rfl
  refine (settles_iff (shrinks_halved hone)).trans ⟨?_, ?_⟩
  · rintro ⟨shape, es, hshape, hparts, rfl⟩
    obtain ⟨-, -, rfl⟩ := hform.mp hshape
    cases hparts with
    | cons hl hmore =>
        cases hmore with
        | cons hr hnil =>
            cases hnil
            exact ⟨_, _, hl, hr, (htree _ _).symm⟩
  · rintro ⟨l, r, hl, hr, rfl⟩
    have hleft : x.left ≠ [] := fun hnil => Kinds.not_settles_nil (hnil ▸ hl)
    have hright : x.right ≠ [] := fun hnil => Kinds.not_settles_nil (hnil ▸ hr)
    exact ⟨_, [l, r], hform.mpr ⟨hleft, hright, rfl⟩, .cons hl (.cons hr .nil), htree l r⟩

/-! ### Both ways find the same trees -/

/-- A run that is no operation, or a wrong one, has the same trees if its parts have. -/
theorem byCut_iff_byHalves_of_alike (hone : GroupsOneWay o)
    (halike : (Shape.operation? o source ts).toOption = (operation? o source ts).toOption)
    (hparts : ∀ part : List Token, part.length < ts.length → ∀ tree,
      ByCut o source part tree ↔ ByHalves o source part tree) :
    ByCut o source ts e ↔ ByHalves o source ts e := by
  have hkinds : ∀ kind,
      (Shape.ofKind o source ts kind).toOption = (ofKind o source ts kind).toOption := by
    intro kind
    cases kind with
    | operation => exact halike
    | constant | «variable» | parenthesis => rfl
  have hform : ∀ {shape}, formBy o source (Shape.ofKind o source) ts = .ok shape ↔
      formBy o source (ofKind o source) ts = .ok shape := Kinds.formBy_congr hkinds
  constructor
  · exact .transfer shrinks_ofKind (shrinks_halved hone) (fun _ h => hform.mp h)
      fun part hpart tree => (hparts part hpart tree).mp
  · exact .transfer (shrinks_halved hone) shrinks_ofKind (fun _ h => hform.mpr h)
      fun part hpart tree => (hparts part hpart tree).mpr

/-- A run has the same trees either way, by induction on its length. -/
theorem byCut_iff_byHalves (hone : GroupsOneWay o) (hmem : .operation ∈ o.parsers) (n : Nat) :
    ∀ ts : List Token, ts.length < n → ∀ e, ByCut o source ts e ↔ ByHalves o source ts e := by
  induction n with
  | zero => intro ts h; exact absurd h (Nat.not_lt_zero _)
  | succ n ih =>
      intro ts hlength e
      have hparts : ∀ part : List Token, part.length < ts.length → ∀ tree,
          ByCut o source part tree ↔ ByHalves o source part tree :=
        fun part hpart => ih part (by omega)
      cases hreads : markBinary o source 0 false ts with
      | error fault =>
          obtain ⟨hhalves, hcut⟩ := operation?_of_error hreads
          exact byCut_iff_byHalves_of_alike hone (by rw [hhalves, hcut]) hparts
      | ok m =>
          rcases operation?_of_reads hone hreads with ⟨hm, hprefixed⟩ | ⟨x, m₁, m₂, hchosen, hfound⟩
          · refine byCut_iff_byHalves_of_alike hone ?_ hparts
            rw [hprefixed, Shape.operation?_of_unmarked hreads hm]
          · have hts : ts.length = (x.left ++ x.token :: x.right).length :=
              congrArg List.length (hchosen.sides hreads)
            rw [List.length_append, List.length_cons] at hts
            rw [byCut_divided hone hmem hreads hchosen,
              byHalves_divided hone hmem hreads hchosen hfound, Division.Makes, Division.Makes]
            simp only [hparts x.left (by omega), hparts x.right (by omega)]

/--
**Cutting a chain at all its operators finds the trees that dividing it in two finds.**

Where operators of one precedence group to one side and operations are read at all, the parser makes a
tree of some tokens exactly if the division does, and then it is the same tree, as soon as the limit on
the levels is not below the number of tokens.
-/
theorem parseTokens_iff_splitTokens (hone : GroupsOneWay o) (hmem : .operation ∈ o.parsers)
    {tokens : List Token} (hdepth : tokens.length ≤ o.maxDepth) (e : Expr) :
    parseTokens o source tokens = .ok e ↔ splitTokens o source tokens = .ok e := by
  have hsame : ByCut o source tokens e ↔ ByHalves o source tokens e :=
    byCut_iff_byHalves hone hmem (tokens.length + 1) tokens (Nat.lt_succ_self _) e
  constructor
  · intro h
    have hread := (parseTokens_eq_ok.mp h).2
    rw [Kinds.parseLevels_eq_readBy] at hread
    exact hsame.mp (Kinds.settles_of_readBy shrinks_ofKind _ hread) o.maxDepth hdepth
  · intro h
    have hsettles := hsame.mpr (Kinds.settles_of_readBy (shrinks_halved hone) _ h)
    refine parseTokens_eq_ok.mpr ⟨?_, ?_⟩
    · rintro rfl
      exact Kinds.not_settles_nil hsettles
    · rw [Kinds.parseLevels_eq_readBy]
      exact hsettles o.maxDepth hdepth

/-- In `6-3-2^3^[x]` the subtractions are divided from the right, the powers from the left. -/
theorem parseTokens_iff_splitTokens_difference :
    let tokens : List Token := [⟨.value, ['6'], 0, 1⟩, ⟨.operator, ['-'], 1, 2⟩, ⟨.value, ['3'], 2, 3⟩,
      ⟨.operator, ['-'], 3, 4⟩, ⟨.value, ['2'], 4, 5⟩, ⟨.operator, ['^'], 5, 6⟩, ⟨.value, ['3'], 6, 7⟩,
      ⟨.operator, ['^'], 7, 8⟩, ⟨.value, "[x]".toList, 8, 11⟩]
    GroupsOneWay .standard ∧ splitTokens .standard "6-3-2^3^[x]".toList tokens =
      .ok (.binary ['-'] (.binary ['-'] (.const (.int 6)) (.const (.int 3)))
        (.binary ['^'] (.const (.int 2)) (.binary ['^'] (.const (.int 3)) (.var ['x'])))) := by
  intro tokens
  have hone : GroupsOneWay .standard := by
    unfold GroupsOneWay
    decide
  exact ⟨hone, (parseTokens_iff_splitTokens hone (by decide) (by decide) _).mp rfl⟩

end Reckon.Halving
