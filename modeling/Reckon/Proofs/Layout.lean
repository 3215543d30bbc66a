/-
How many levels an equation needs.

The form of a run, the forms of its parts, and so on down to single tokens, make up its layout.
Which layout a run has does not depend on the limit on the levels, so a number can be read off
it before anything is parsed: `need`.  Parentheses, prefix operators, calls and chains add one
level to what lies inside them, and the number of operands in a chain does not come into it.

That number is a threshold.  With fewer levels the parser reaches the limit, and nothing else can
go wrong first: every form that it looks at on the way is one of the layout, and those are sound.
With as many or more it finds the tree of the layout.
-/
import Reckon.Proofs.Levels
import Reckon.Proofs.Shape.Forms

namespace Reckon

/-- How a run of tokens is read: its form, and how each of its parts is read. -/
inductive Layout
  | number (value : Literal)
  | name (text : Text)
  | group (interior : Layout)
  | prefixed (symbol : Text) (operand : Layout)
  | call (function : Text) (args : List Layout)
  | chain (side : Associativity) (first : Layout) (rest : List (Text × Layout))

namespace Layout

mutual
/-- The tree that a layout stands for. -/
def tree : Layout → Expr
  | number value => .const value
  | name text => .var text
  | group interior => interior.tree
  | prefixed symbol operand => .unary symbol operand.tree
  | call function args => .call function (trees args)
  | chain side first rest => Shape.folded side first.tree (links rest)

/-- The trees of the arguments of a call. -/
def trees : List Layout → List Expr
  | [] => []
  | arg :: rest => arg.tree :: trees rest

/-- The further operands of a chain as trees, each behind its operator. -/
def links : List (Text × Layout) → List (Text × Expr)
  | [] => []
  | (symbol, operand) :: rest => (symbol, operand.tree) :: links rest
end

mutual
/-- The levels that a layout needs. -/
def need : Layout → Nat
  | number _ | name _ => 1
  | group interior => interior.need + 1
  | prefixed _ operand => operand.need + 1
  | call _ args => needOfArgs args + 1
  | chain _ first rest => max first.need (needOfLinks rest) + 1

/-- The most levels that an argument of a call needs. -/
def needOfArgs : List Layout → Nat
  | [] => 0
  | arg :: rest => max arg.need (needOfArgs rest)

/-- The most levels that a further operand of a chain needs. -/
def needOfLinks : List (Text × Layout) → Nat
  | [] => 0
  | (_, operand) :: rest => max operand.need (needOfLinks rest)
end

mutual
/-- A run of tokens has a layout under some options. -/
def Reads (o : Options) (source : Text) : Layout → List Token → Prop
  | number value, ts => Shape.of o source ts = .ok (.leaf (.const value))
  | name text, ts => Shape.of o source ts = .ok (.leaf (.var text))
  | group interior, ts =>
    ∃ run, Shape.of o source ts = .ok (.group run) ∧ interior.Reads o source run
  | prefixed symbol operand, ts =>
    ∃ run, Shape.of o source ts = .ok (.prefixed symbol run) ∧ operand.Reads o source run
  | call function args, ts =>
    ∃ runs, Shape.of o source ts = .ok (.call function runs) ∧ ReadsArgs o source args runs
  | chain side first rest, ts =>
    ∃ run pieces, Shape.of o source ts = .ok (.chain side run pieces) ∧
      first.Reads o source run ∧ ReadsLinks o source rest pieces

/-- The arguments of a call have these layouts. -/
def ReadsArgs (o : Options) (source : Text) : List Layout → List (List Token) → Prop
  | [], runs => runs = []
  | arg :: rest, runs =>
    ∃ run more, runs = run :: more ∧ arg.Reads o source run ∧ ReadsArgs o source rest more

/-- The further operands of a chain have these layouts, each behind its operator. -/
def ReadsLinks (o : Options) (source : Text) :
    List (Text × Layout) → List (Token × List Token) → Prop
  | [], pieces => pieces = []
  | (symbol, operand) :: rest, pieces =>
    ∃ t run more, pieces = (t, run) :: more ∧ t.text = symbol ∧ operand.Reads o source run ∧
      ReadsLinks o source rest more
end

variable {o : Options} {source : Text}

/-! ### The limit on the levels has no part in a layout -/

mutual
theorem reads_withDepth (depth : Nat) : ∀ (p : Layout) {ts : List Token},
    p.Reads { o with maxDepth := depth } source ts ↔ p.Reads o source ts
  | number _, ts => by simp only [Reads, Shape.of_withDepth]
  | name _, ts => by simp only [Reads, Shape.of_withDepth]
  | group interior, ts => by simp only [Reads, Shape.of_withDepth, reads_withDepth depth interior]
  | prefixed _ operand, ts => by
      simp only [Reads, Shape.of_withDepth, reads_withDepth depth operand]
  | call _ args, ts => by simp only [Reads, Shape.of_withDepth, readsArgs_withDepth depth args]
  | chain _ first rest, ts => by
      simp only [Reads, Shape.of_withDepth, reads_withDepth depth first,
        readsLinks_withDepth depth rest]

theorem readsArgs_withDepth (depth : Nat) : ∀ (args : List Layout) {runs : List (List Token)},
    ReadsArgs { o with maxDepth := depth } source args runs ↔ ReadsArgs o source args runs
  | [], runs => Iff.rfl
  | arg :: rest, runs => by
      simp only [ReadsArgs, reads_withDepth depth arg, readsArgs_withDepth depth rest]

theorem readsLinks_withDepth (depth : Nat) :
    ∀ (rest : List (Text × Layout)) {pieces : List (Token × List Token)},
    ReadsLinks { o with maxDepth := depth } source rest pieces ↔ ReadsLinks o source rest pieces
  | [], pieces => Iff.rfl
  | (_, operand) :: rest, pieces => by
      simp only [ReadsLinks, reads_withDepth depth operand, readsLinks_withDepth depth rest]
end

/-! ### A layout says how a run is parsed -/

mutual
/-- The levels that a layout needs are those that its run needs. -/
theorem readsTo : ∀ (p : Layout) {ts : List Token}, p.Reads o source ts →
    ReadsTo o source ts p.tree p.need
  | number _, ts, h => ReadsTo.of_shape h .nil
  | name _, ts, h => ReadsTo.of_shape h .nil
  | group interior, ts, ⟨_, hshape, hinterior⟩ =>
      ReadsTo.of_one hshape rfl (readsTo interior hinterior)
  | prefixed _ operand, ts, ⟨_, hshape, hoperand⟩ =>
      ReadsTo.of_one hshape rfl (readsTo operand hoperand)
  | call _ args, ts, ⟨_, hshape, hargs⟩ => by
      obtain ⟨results, hresults, htrees, hneed⟩ := readsTo_args args hargs
      have := ReadsTo.of_shape hshape hresults
      rwa [htrees, hneed] at this
  | chain side first rest, ts, ⟨run, pieces, hshape, hfirst, hrest⟩ => by
      obtain ⟨results, hresults, hlinks, hneed⟩ := readsTo_links rest hrest
      have hparts : List.Forall₂ (fun part r => ReadsTo o source part r.1 r.2)
          (Shape.chain side run pieces).parts ((first.tree, first.need) :: results) :=
        .cons (readsTo first hfirst) hresults
      have := ReadsTo.of_shape hshape hparts
      rw [List.map_cons, Shape.tree_chain, hlinks] at this
      rwa [show deepest ((first.tree, first.need) :: results) = max first.need (needOfLinks rest)
        from congrArg (max first.need) hneed] at this

theorem readsTo_args : ∀ (args : List Layout) {runs : List (List Token)},
    ReadsArgs o source args runs → ∃ results : List (Expr × Nat),
      List.Forall₂ (fun part r => ReadsTo o source part r.1 r.2) runs results ∧
      results.map (·.1) = trees args ∧ deepest results = needOfArgs args
  | [], _, rfl => ⟨[], .nil, rfl, rfl⟩
  | arg :: rest, _, ⟨_, _, rfl, harg, hrest⟩ => by
      obtain ⟨results, hresults, htrees, hneed⟩ := readsTo_args rest hrest
      refine ⟨(arg.tree, arg.need) :: results, .cons (readsTo arg harg) hresults, ?_, ?_⟩
      · rw [List.map_cons, htrees, trees]
      · exact congrArg (max arg.need) hneed

theorem readsTo_links : ∀ (rest : List (Text × Layout)) {pieces : List (Token × List Token)},
    ReadsLinks o source rest pieces → ∃ results : List (Expr × Nat),
      List.Forall₂ (fun part r => ReadsTo o source part r.1 r.2) (pieces.map (·.2)) results ∧
      (pieces.map (·.1.text)).zip (results.map (·.1)) = links rest ∧
      deepest results = needOfLinks rest
  | [], _, rfl => ⟨[], .nil, rfl, rfl⟩
  | (symbol, operand) :: rest, _, ⟨t, run, more, rfl, hsymbol, hoperand, hrest⟩ => by
      obtain ⟨results, hresults, hlinks, hneed⟩ := readsTo_links rest hrest
      refine ⟨(operand.tree, operand.need) :: results, .cons (readsTo operand hoperand) hresults,
        ?_, ?_⟩
      · rw [List.map_cons, List.map_cons, List.zip_cons_cons, hlinks, hsymbol, links]
      · exact congrArg (max operand.need) hneed
end

/-! ### What is parsed has a layout -/

theorem exists_args {runs : List (List Token)} {es : List Expr}
    (h : List.Forall₂ (fun run (_ : Expr) => ∃ p : Layout, p.Reads o source run) runs es) :
    ∃ args, ReadsArgs o source args runs := by
  induction h with
  | nil => exact ⟨[], rfl⟩
  | cons hrun _ ih =>
      obtain ⟨p, hp⟩ := hrun
      obtain ⟨args, hargs⟩ := ih
      exact ⟨p :: args, _, _, rfl, hp, hargs⟩

theorem exists_links {pieces : List (Token × List Token)} : ∀ {es : List Expr},
    List.Forall₂ (fun run (_ : Expr) => ∃ p : Layout, p.Reads o source run) (pieces.map (·.2)) es →
    ∃ rest, ReadsLinks o source rest pieces := by
  induction pieces with
  | nil => intro es _; exact ⟨[], rfl⟩
  | cons piece more ih =>
      intro es h
      cases h with
      | cons hrun hmore =>
          obtain ⟨p, hp⟩ := hrun
          obtain ⟨rest, hrest⟩ := ih hmore
          exact ⟨(piece.1.text, p) :: rest, piece.1, piece.2, more, rfl, rfl, hp, hrest⟩

/-- A form that is a single token is a number or a name. -/
theorem leaf_cases {ts : List Token} {e : Expr} (h : Shape.of o source ts = .ok (.leaf e)) :
    (∃ value, e = .const value) ∨ ∃ text, e = .var text := by
  obtain ⟨kind, -, hkind⟩ := Shape.exists_kind_of_eq_ok h
  cases kind with
  | constant =>
      obtain ⟨_, _, value, -, -, -, -, hleaf⟩ := Shape.constantLeaf?_eq_some.mp hkind
      cases hleaf
      exact .inl ⟨value, rfl⟩
  | «variable» =>
      obtain ⟨_, text, -, -, -, -, hleaf⟩ := Shape.variableLeaf?_eq_some.mp hkind
      cases hleaf
      exact .inr ⟨text, rfl⟩
  | parenthesis =>
      rcases Shape.parenthesis?_eq_some hkind with ⟨_, _, _, -, -, -, -, -, -, hleaf⟩ |
        ⟨_, _, _, _, _, -, -, -, -, -, -, -, -, -, hleaf⟩ <;> cases hleaf
  | operation =>
      obtain ⟨_, -, ⟨-, hprefixed⟩ | ⟨_, -, hleaf⟩⟩ := Shape.operation?_eq_some hkind
      · obtain ⟨_, _, _, -, -, -, -, -, hleaf⟩ := Shape.prefixed?_eq_some hprefixed
        cases hleaf
      · cases hleaf

/-- A run whose form and parts are known has a layout. -/
theorem exists_of_shape {ts : List Token} {shape : Shape} {es : List Expr}
    (h : Shape.of o source ts = .ok shape)
    (hparts : List.Forall₂ (fun run (_ : Expr) => ∃ p : Layout, p.Reads o source run)
      shape.parts es) : ∃ p : Layout, p.Reads o source ts := by
  cases shape with
  | leaf e =>
      rcases leaf_cases h with ⟨value, rfl⟩ | ⟨text, rfl⟩
      · exact ⟨.number value, h⟩
      · exact ⟨.name text, h⟩
  | group run =>
      cases hparts with
      | cons hrun _ =>
          obtain ⟨p, hp⟩ := hrun
          exact ⟨.group p, run, h, hp⟩
  | call function runs =>
      obtain ⟨args, hargs⟩ := exists_args hparts
      exact ⟨.call function args, runs, h, hargs⟩
  | chain side run pieces =>
      cases hparts with
      | cons hrun hmore =>
          obtain ⟨p, hp⟩ := hrun
          obtain ⟨rest, hrest⟩ := exists_links hmore
          exact ⟨.chain side p rest, run, pieces, h, hp, hrest⟩
  | prefixed symbol run =>
      cases hparts with
      | cons hrun _ =>
          obtain ⟨p, hp⟩ := hrun
          exact ⟨.prefixed symbol p, run, h, hp⟩

theorem exists_of_parseLevels (n : Nat) : ∀ {ts : List Token} {e : Expr},
    parseLevels o source n ts = .ok e → ∃ p : Layout, p.Reads o source ts := by
  induction n with
  | zero => intro ts e h; cases h
  | succ n ih =>
      intro ts e h
      obtain ⟨k, shape, es, hk, hshape, hes, -⟩ := parseLevels_eq_ok.mp h
      cases hk
      exact exists_of_shape hshape (hes.imp fun _ _ hpart => ih hpart)

/-- However a run has been parsed, its layouts show that tree, and need no more than was allowed. -/
theorem Reads.of_parseLevels {p : Layout} {ts : List Token} (hp : p.Reads o source ts) {n : Nat}
    {e : Expr} (h : parseLevels o source n ts = .ok e) : p.tree = e ∧ p.need ≤ n := by
  have hneed : p.need ≤ n := by
    by_contra hlt
    obtain ⟨place, hplace⟩ := (p.readsTo hp).lacking n (not_le.mp hlt)
    rw [h] at hplace
    cases hplace
  have htree := (p.readsTo hp).enough n hneed
  rw [h] at htree
  cases htree
  exact ⟨rfl, hneed⟩

/-! ### The threshold -/

theorem parseTokens_of_reads {p : Layout} {ts : List Token} (hne : ts ≠ [])
    (hp : p.Reads o source ts) :
    (p.need ≤ o.maxDepth → parseTokens o source ts = .ok p.tree) ∧
    (o.maxDepth < p.need → TooDeep o (parseTokens o source ts)) := by
  have hparse : parseTokens o source ts = parseLevels o source o.maxDepth ts := by
    unfold parseTokens
    rw [if_neg (by simpa using hne)]
  rw [hparse]
  exact ⟨(p.readsTo hp).enough _, (p.readsTo hp).lacking _⟩

end Layout

/--
**The limit on the levels is a threshold that measures how deep an equation nests.**

If some limit lets tokens through, they have a layout, and every layout that they have shows the
tree that was found.  Under any limit the same tree is found if the limit is at least what the layout
needs; otherwise the limit is reached, and that is what the failure says.
-/
theorem parseTokens_threshold {o : Options} {source : Text} {ts : List Token} {limit : Nat} {e : Expr}
    (h : parseTokens { o with maxDepth := limit } source ts = .ok e) :
    (∃ p : Layout, p.Reads o source ts) ∧
    ∀ p : Layout, p.Reads o source ts → p.tree = e ∧ ∀ m,
      (p.need ≤ m → parseTokens { o with maxDepth := m } source ts = .ok e) ∧
      (m < p.need → ∃ place,
        parseTokens { o with maxDepth := m } source ts = .error ⟨.tooDeep m, place⟩ ∧
        (ParseCause.tooDeep m).message =
          "Equation nested deeper than ".toList ++ Text.ofNat m ++ " levels".toList) := by
  obtain ⟨hne, hparsed⟩ := parseTokens_eq_ok.mp h
  refine ⟨?_, fun p hp => ?_⟩
  · obtain ⟨p, hp⟩ := Layout.exists_of_parseLevels limit hparsed
    exact ⟨p, (p.reads_withDepth limit).mp hp⟩
  · obtain ⟨rfl, -⟩ := ((p.reads_withDepth limit).mpr hp).of_parseLevels hparsed
    refine ⟨rfl, fun m => ?_⟩
    obtain ⟨henough, hlacking⟩ := Layout.parseTokens_of_reads hne ((p.reads_withDepth m).mpr hp)
    refine ⟨henough, fun hlt => ?_⟩
    obtain ⟨place, hplace⟩ := hlacking hlt
    exact ⟨place, hplace, rfl⟩

/-- The equation `2^-(3)` needs four levels: one for the chain, one for the sign, one for the
parentheses and one for the number inside them. -/
theorem parseTokens_threshold_power :
    let source : Text := "2^-(3)".toList
    let tokens : List Token :=
      [⟨.value, ['2'], 0, 1⟩, ⟨.operator, ['^'], 1, 2⟩, ⟨.operator, ['-'], 2, 3⟩,
        ⟨.opening, ['('], 3, 4⟩, ⟨.value, ['3'], 4, 5⟩, ⟨.closing, [')'], 5, 6⟩]
    let p : Layout := .chain .right (.number (.int 2))
      [(['^'], .prefixed ['-'] (.group (.number (.int 3))))]
    p.Reads .standard source tokens ∧ p.need = 4 ∧
      parseTokens { Options.standard with maxDepth := 9 } source tokens = .ok p.tree ∧
      ∀ m, (4 ≤ m → parseTokens { Options.standard with maxDepth := m } source tokens = .ok p.tree) ∧
        (m < 4 → ∃ place, parseTokens { Options.standard with maxDepth := m } source tokens =
            .error ⟨.tooDeep m, place⟩ ∧
          (ParseCause.tooDeep m).message =
            "Equation nested deeper than ".toList ++ Text.ofNat m ++ " levels".toList) := by
  intro source tokens p
  have hreads : p.Reads .standard source tokens :=
    ⟨_, _, rfl, rfl, _, _, _, rfl, rfl, ⟨_, rfl, _, rfl, rfl⟩, rfl⟩
  have hparsed : parseTokens { Options.standard with maxDepth := 9 } source tokens = .ok p.tree := rfl
  exact ⟨hreads, rfl, hparsed, ((parseTokens_threshold hparsed).2 p hreads).2⟩

end Reckon
