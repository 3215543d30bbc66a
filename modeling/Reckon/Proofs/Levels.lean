/-
What one level of parsing does.

At each level the form of a run is decided and its parts are parsed one level deeper.  So a
run is parsed exactly if it has a form and all parts of the form are parsed.

How many levels a run needs is exact as well: with fewer the parser does not find another
tree and does not fail otherwise, it says that the limit has been reached.  `ReadsTo` keeps
both sides of this together, and a run passes them on from its parts.
-/
import Reckon.Parse
import Reckon.Proofs.Failing
import Reckon.Proofs.Shape.Groups

namespace Reckon

variable {o : Options} {source : Text} {ts : List Token}

theorem parseLevels_succ (n : Nat) (ts : List Token) :
    parseLevels o source (n + 1) ts =
      Shape.of o source ts >>= fun shape =>
        (shape.parts.mapM (parseLevels o source n)).map shape.tree := rfl

/-- The level at which the form of a run is decided, when that form is known. -/
theorem parseLevels_of_shape {shape : Shape} (h : Shape.of o source ts = .ok shape) (n : Nat) :
    parseLevels o source (n + 1) ts =
      (shape.parts.mapM (parseLevels o source n)).map shape.tree := by
  rw [parseLevels_succ, h]
  rfl

theorem parseLevels_eq_ok {n : Nat} {e : Expr} :
    parseLevels o source n ts = .ok e ↔
      ∃ k shape es, n = k + 1 ∧ Shape.of o source ts = .ok shape ∧
        List.Forall₂ (fun part tree => parseLevels o source k part = .ok tree) shape.parts es ∧
        shape.tree es = e := by
  constructor
  · intro h
    cases n with
    | zero => cases h
    | succ k =>
        obtain ⟨shape, hshape, h⟩ := Failing.bind_eq_ok.mp h
        obtain ⟨es, hes, htree⟩ := Failing.functor_map_eq_ok.mp h
        exact ⟨k, shape, es, rfl, hshape, Failing.mapM_eq_ok.mp hes, htree⟩
  · rintro ⟨k, shape, es, rfl, hshape, hes, htree⟩
    rw [parseLevels_of_shape hshape, Failing.mapM_eq_ok.mpr hes]
    exact congrArg Except.ok htree

theorem parseTokens_eq_ok {e : Expr} :
    parseTokens o source ts = .ok e ↔ ts ≠ [] ∧ parseLevels o source o.maxDepth ts = .ok e := by
  unfold parseTokens
  cases ts with
  | nil => simp
  | cons t rest => simp

/-! ### Options that find the same forms -/

section Congr

variable {o' : Options} (h : ∀ ts, Shape.of o' source ts = Shape.of o source ts)
  (hdepth : o'.maxDepth = o.maxDepth)
include h hdepth

/-- Of options parsing knows the forms that they find, and the limit. -/
theorem parseLevels_congr (n : Nat) : ∀ ts,
    parseLevels o' source n ts = parseLevels o source n ts := by
  induction n with
  | zero =>
      intro ts
      rw [parseLevels, parseLevels, hdepth]
  | succ n ih =>
      intro ts
      rw [parseLevels_succ, parseLevels_succ, h, funext ih]

theorem parseTokens_congr (ts : List Token) : parseTokens o' source ts = parseTokens o source ts := by
  rw [parseTokens, parseTokens, hdepth, parseLevels_congr h hdepth]

end Congr

/-! ### The levels that a run needs -/

/-- The limit on the levels has been reached. -/
def TooDeep {α : Type} (o : Options) (result : Except (Located ParseCause) α) : Prop :=
  ∃ place, result = .error ⟨.tooDeep o.maxDepth, place⟩

/-- A run is read as a tree if it may use at least `depth` levels, and the limit is reached if it may
use fewer. -/
structure ReadsTo (o : Options) (source : Text) (ts : List Token) (e : Expr) (depth : Nat) : Prop where
  enough : ∀ n, depth ≤ n → parseLevels o source n ts = .ok e
  lacking : ∀ n, n < depth → TooDeep o (parseLevels o source n ts)

/-- The most levels that one of some trees needs. -/
def deepest (results : List (Expr × Nat)) : Nat := results.foldr (fun r d => max r.2 d) 0

theorem mapM_readsTo {parts : List (List Token)} {results : List (Expr × Nat)}
    (h : List.Forall₂ (fun part r => ReadsTo o source part r.1 r.2) parts results) (n : Nat) :
    (deepest results ≤ n →
      parts.mapM (parseLevels o source n) = .ok (results.map (·.1))) ∧
    (n < deepest results → TooDeep o (parts.mapM (parseLevels o source n))) := by
  induction h with
  | nil => exact ⟨fun _ => rfl, fun h => absurd h (Nat.not_lt_zero n)⟩
  | @cons part r parts results hpart _ ih =>
      have hdeepest : deepest (r :: results) = max r.2 (deepest results) := rfl
      rw [List.mapM_cons, hdeepest]
      constructor
      · intro hle
        rw [hpart.enough n (by omega), ih.1 (by omega)]
        rfl
      · intro hlt
        by_cases hfirst : r.2 ≤ n
        · obtain ⟨place, hplace⟩ := ih.2 (by omega)
          rw [hpart.enough n hfirst, hplace]
          exact ⟨place, rfl⟩
        · obtain ⟨place, hplace⟩ := hpart.lacking n (by omega)
          rw [hplace]
          exact ⟨place, rfl⟩

/-- A run needs one level more than the part of its form that needs most. -/
theorem ReadsTo.of_shape {shape : Shape} {results : List (Expr × Nat)}
    (hshape : Shape.of o source ts = .ok shape)
    (hparts : List.Forall₂ (fun part r => ReadsTo o source part r.1 r.2) shape.parts results) :
    ReadsTo o source ts (shape.tree (results.map (·.1))) (deepest results + 1) where
  enough := by
    intro n hn
    obtain ⟨k, rfl⟩ : ∃ k, n = k + 1 := ⟨n - 1, by omega⟩
    rw [parseLevels_of_shape hshape, (mapM_readsTo hparts k).1 (by omega)]
    rfl
  lacking := by
    intro n hn
    cases n with
    | zero => exact ⟨_, rfl⟩
    | succ k =>
        obtain ⟨place, hplace⟩ := (mapM_readsTo hparts k).2 (by omega)
        rw [parseLevels_of_shape hshape, hplace]
        exact ⟨place, rfl⟩

theorem ReadsTo.of_one {shape : Shape} {part : List Token} {e : Expr} {d : Nat}
    (hshape : Shape.of o source ts = .ok shape) (hparts : shape.parts = [part])
    (h : ReadsTo o source part e d) : ReadsTo o source ts (shape.tree [e]) (d + 1) := by
  have hresults : List.Forall₂ (fun part r => ReadsTo o source part r.1 r.2) shape.parts [(e, d)] := by
    rw [hparts]
    exact .cons h .nil
  have hdeepest : deepest [(e, d)] = d := Nat.max_eq_left (Nat.zero_le d)
  have := ReadsTo.of_shape hshape hresults
  rwa [hdeepest] at this

theorem ReadsTo.of_two {shape : Shape} {part other : List Token} {e f : Expr} {d k : Nat}
    (hshape : Shape.of o source ts = .ok shape) (hparts : shape.parts = [part, other])
    (h : ReadsTo o source part e d) (h' : ReadsTo o source other f k) :
    ReadsTo o source ts (shape.tree [e, f]) (max d k + 1) := by
  have hresults : List.Forall₂ (fun part r => ReadsTo o source part r.1 r.2) shape.parts
      [(e, d), (f, k)] := by
    rw [hparts]
    exact .cons h (.cons h' .nil)
  have hdeepest : deepest [(e, d), (f, k)] = max d k := by
    show max d (max k 0) = max d k
    rw [Nat.max_eq_left (Nat.zero_le k)]
  have := ReadsTo.of_shape hshape hresults
  rwa [hdeepest] at this

/-- Levels chosen one by one for some trees, and the most of them. -/
theorem exists_results {R : List Token → Expr → Nat → Prop} {n : Nat} {parts : List (List Token)}
    {es : List Expr} (h : List.Forall₂ (fun part e => ∃ d ≤ n, R part e d) parts es) :
    ∃ results : List (Expr × Nat), results.map (·.1) = es ∧ deepest results ≤ n ∧
      List.Forall₂ (fun part r => R part r.1 r.2) parts results := by
  induction h with
  | nil => exact ⟨[], rfl, Nat.zero_le n, .nil⟩
  | @cons part e parts es hpart _ ih =>
      obtain ⟨d, hd, hR⟩ := hpart
      obtain ⟨results, hes, hdeepest, hresults⟩ := ih
      refine ⟨(e, d) :: results, by rw [List.map_cons, hes], ?_, .cons hR hresults⟩
      exact Nat.max_le.mpr ⟨hd, hdeepest⟩

/-- A run that has been read needs so many levels, and no more than it was allowed. -/
theorem readsTo_of_parseLevels (n : Nat) : ∀ {ts : List Token} {e : Expr},
    parseLevels o source n ts = .ok e → ∃ d ≤ n, ReadsTo o source ts e d := by
  induction n with
  | zero => intro ts e h; cases h
  | succ n ih =>
      intro ts e h
      obtain ⟨k, shape, es, hk, hshape, hes, rfl⟩ := parseLevels_eq_ok.mp h
      cases hk
      obtain ⟨results, rfl, hdeepest, hresults⟩ := exists_results (hes.imp fun _ _ hpart => ih hpart)
      exact ⟨_, Nat.succ_le_succ hdeepest, ReadsTo.of_shape hshape hresults⟩

namespace Shape

/-! ### Groups of a chain -/

/-- A chain of operators of one side, grouped to that side. -/
def folded : Associativity → Expr → List (Text × Expr) → Expr
  | .left => foldLeft
  | .right => foldRight

theorem tree_chain (side : Associativity) (first : List Token) (rest : List (Token × List Token))
    (e : Expr) (es : List Expr) :
    (Shape.chain side first rest).tree (e :: es) =
      folded side e ((rest.map (·.1.text)).zip es) := by
  cases side <;> rfl

/-! ### Arguments -/

/-- The arguments of a call link up to what stands between its parentheses. -/
theorem exists_linked_arguments {xs : List Token} (hne : xs ≠ []) :
    ∃ (first : List Token) (rest : List (Token × List Token)), xs = linked first rest ∧
      arguments xs = first :: rest.map (·.2) ∧ ∀ x ∈ rest, x.1.kind = .separator := by
  obtain ⟨rest, hxs, hmore, hsep⟩ := exists_linked_splitGroups xs 0
  refine ⟨(splitGroups 0 xs).1, rest, hxs, ?_, hsep⟩
  unfold arguments
  rw [if_neg (by simpa using hne), ← hmore]

/-! ### Items -/

/-- One more operand of a chain or argument of a call: the token in front of it, its tokens and its
tree. -/
structure Item where
  token : Token
  run : List Token
  tree : Expr

/-- The tokens of an item. -/
def Item.piece (x : Item) : Token × List Token := (x.token, x.run)

/-- The operator in front of an item, by its name, and its tree. -/
def Item.link (x : Item) : Text × Expr := (x.token.text, x.tree)

/-- Trees for the pieces of a split, given one by one, make items. -/
theorem exists_items {R : List Token → Expr → Prop} {links : List (Token × List Token)} :
    ∀ {es : List Expr}, List.Forall₂ R (links.map (·.2)) es →
    ∃ items : List Item, links = items.map Item.piece ∧ es = items.map Item.tree ∧
      ∀ x ∈ items, R x.run x.tree := by
  induction links with
  | nil =>
      intro es h
      cases h
      exact ⟨[], rfl, rfl, by simp⟩
  | cons link rest ih =>
      intro es h
      obtain ⟨t, ts⟩ := link
      cases h with
      | @cons _ e _ more hts hmore =>
          obtain ⟨items, hlinks, hes, hall⟩ := ih hmore
          refine ⟨⟨t, ts, e⟩ :: items, by rw [hlinks]; rfl, by rw [hes]; rfl, ?_⟩
          intro x hx
          rcases List.mem_cons.mp hx with rfl | hx'
          · exact hts
          · exact hall x hx'

/-- Items whose runs have their trees are as many runs as trees. -/
theorem forall₂_items {R : List Token → Expr → Prop} {items : List Item}
    (h : ∀ x ∈ items, R x.run x.tree) :
    List.Forall₂ R ((items.map Item.piece).map (·.2)) (items.map Item.tree) := by
  induction items with
  | nil => exact .nil
  | cons x rest ih => exact .cons (h x (by simp)) (ih fun y hy => h y (by simp [hy]))

theorem run_mem_pieces {first : List Token} {items : List Item} {x : Item} (h : x ∈ items) :
    x.run ∈ first :: (items.map Item.piece).map (·.2) := by
  refine List.mem_cons_of_mem _ ?_
  rw [List.map_map]
  exact List.mem_map.mpr ⟨x, h, rfl⟩

theorem zip_items (items : List Item) :
    ((items.map Item.piece).map (·.1.text)).zip (items.map Item.tree) = items.map Item.link := by
  rw [List.map_map, List.zip_map']
  rfl

end Shape
end Reckon
