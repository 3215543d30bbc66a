/-
Equations made of other equations.

A source that is accepted leaves nothing behind: no variable and no parenthesis is open at its end,
and a parenthesis ends the value that may be pending.  So inside another source, between two
parentheses, it is scanned as it is by itself, only further on.  Its tokens are then a run that can
stand as an operand, because every accepted run is one, and that is what a form asks of its parts.

A parenthesized source costs one level more than the source itself, and what it is made part of by
an operator or as an argument costs at most one more.
-/
import Reckon.Proofs.Rendering.Scanning
import Reckon.Proofs.Tokens.Displacement

namespace Reckon

open Shape (Item Run marks)

variable {o : Options} {source a b : Text} {tokens : List Token} {e f : Expr} {m n : Nat}

/-! ### An accepted run is an operand -/

namespace Shape

/-- A form that can stand as an operand if its parts can. -/
theorem exists_run_of_parts {ts : List Token} {shape : Shape} (hshape : of o source ts = .ok shape)
    (hparts : ∀ part ∈ shape.parts, ∃ m, Run o source part m) : ∃ m, Run o source ts m := by
  obtain ⟨kind, -, hkind⟩ := exists_kind_of_eq_ok hshape
  cases kind with
  | constant =>
      obtain ⟨t, _, _, rfl, hk, -⟩ := constantLeaf?_eq_some.mp hkind
      exact ⟨_, .value hk⟩
  | «variable» =>
      obtain ⟨t, _, rfl, hk, -⟩ := variableLeaf?_eq_some.mp hkind
      exact ⟨_, .value hk⟩
  | parenthesis =>
      rcases parenthesis?_eq_some hkind with ⟨x, xs, y, rfl, hx, hy, hbal, -⟩ |
        ⟨t, x, xs, y, _, rfl, ht, -, hx, hy, hbal, -⟩
      · exact ⟨_, .enclosed hx hy hbal⟩
      · exact ⟨_, .called ht hx hy hbal⟩
  | operation =>
      obtain ⟨marked, hmarked, ⟨-, hprefixed⟩ | ⟨op, -, rfl⟩⟩ := operation?_eq_some hkind
      · obtain ⟨t, rest, _, rfl, hk, -, -, -, rfl⟩ := prefixed?_eq_some hprefixed
        obtain ⟨_, hrun⟩ := hparts rest List.mem_cons_self
        exact ⟨_, hrun.prefixed hk⟩
      · obtain ⟨hlinked, -, hlinks⟩ := cut_pieces op.precedence hmarked
        rw [hlinked]
        refine exists_run_chain (hparts _ List.mem_cons_self) fun x hx => ⟨?_, ?_⟩
        · obtain ⟨⟨hk, b, known, -⟩, -⟩ := hlinks x hx
          exact ⟨hk, b, known⟩
        · exact hparts _ (List.mem_cons_of_mem _ (List.mem_map_of_mem hx))

end Shape

theorem exists_run_of_parseLevels (n : Nat) : ∀ {ts : List Token} {e : Expr},
    parseLevels o source n ts = .ok e → ∃ m, Run o source ts m := by
  induction n with
  | zero => intro ts e h; cases h
  | succ n ih =>
      intro ts e h
      obtain ⟨k, shape, es, hk, hshape, hes, -⟩ := parseLevels_eq_ok.mp h
      cases hk
      refine Shape.exists_run_of_parts hshape fun part hpart => ?_
      obtain ⟨i, hi, rfl⟩ := List.getElem_of_mem hpart
      exact ih (hes.get hi (by rw [← hes.length_eq]; exact hi))

/-- A run that can stand as an operand and is read as a tree, with so many levels if not with fewer. -/
def Operand (o : Options) (source : Text) (n : Nat) (e : Expr) (ts : List Token) : Prop :=
  ∃ d ≤ n, (∃ m, Run o source ts m) ∧ ReadsTo o source ts e d

theorem Operand.mono {ts : List Token} (h : Operand o source m e ts) (hmn : m ≤ n) :
    Operand o source n e ts := by
  obtain ⟨d, hd, hrest⟩ := h
  exact ⟨d, hd.trans hmn, hrest⟩

theorem operand_of_parseLevels {ts : List Token} (h : parseLevels o source n ts = .ok e) :
    Operand o source n e ts := by
  obtain ⟨d, hd, hreads⟩ := readsTo_of_parseLevels n h
  exact ⟨d, hd, exists_run_of_parseLevels n h, hreads⟩

/-! ### A source inside another one -/

/-- An accepted source is scanned anywhere as it is by itself. -/
theorem spans_of_tokenize (h : tokenize o a = .ok tokens) :
    Spans o source a fun ts => ∃ f, Token.Moves f ∧ ts = tokens.map f := by
  obtain ⟨s₁, hrun, hfinish⟩ := Failing.bind_eq_ok.mp h
  obtain ⟨hnesting, hopens, htokens⟩ := Scan.finish_eq_ok.mp hfinish
  have hwhole : Whole 0 s₁.flush.tokens := by
    refine whole_zero fun t ht => ?_
    obtain ⟨before, _, -, hstart, -⟩ :=
      (Scan.tiles_of_run hrun).flush.2.exists_of_mem (List.mem_reverse.mpr ht)
    rw [hstart]
    exact Int.natCast_nonneg _
  intro s hpending hs
  have hstart : Scan.Displaced 0 s.index s.opens s.tokens Scan.start s :=
    { index := (Nat.zero_add _).symm
      nesting := hs
      pends := .behind [] (Nat.le_refl 0) rfl rfl hpending
      opens := ⟨[], rfl, rfl⟩
      tokens := rfl }
  obtain ⟨s₁', hrun', hdisplaced⟩ :=
    hstart.run hrun (hwhole.of_subset (List.subset_append_right _ _))
  refine ⟨s₁', tokens.map (Token.spread 0 s.index), ⟨hrun', ?_, ?_⟩, ?_,
    _, Token.moves_spread 0 s.index, rfl⟩
  · rw [hdisplaced.nesting, hnesting]
  · rw [(hdisplaced.flush hwhole).tokens, ← htokens, List.map_reverse, List.reverse_reverse,
      Scan.flush_tokens hpending]
  · obtain ⟨inner, hinner, hlength⟩ := hdisplaced.opens
    rw [hopens] at hlength
    rw [hinner, List.length_eq_zero_iff.mp hlength, List.nil_append]

theorem parseLevels_withDepth (depth n : Nat) : ∀ ts,
    (parseLevels { o with maxDepth := depth } source n ts).toOption =
      (parseLevels o source n ts).toOption := by
  induction n with
  | zero => intro ts; rfl
  | succ n ih =>
      intro ts
      rw [parseLevels_succ, parseLevels_succ, Shape.of_withDepth, Failing.toOption_bind,
        Failing.toOption_bind]
      refine congrArg _ (funext fun shape => ?_)
      have hparts := Failing.toOption_mapM_map (r := id) fun part (_ : part ∈ shape.parts) => ih part
      rw [List.map_id] at hparts
      rw [Failing.toOption_map, Failing.toOption_map, hparts]

/-- What is accepted by itself spans an operand anywhere. -/
theorem spans_of_readsAs (h : ReadsAs { o with maxDepth := m } a e) :
    Spans o source a (Operand o source m e) := by
  obtain ⟨tokens, htokens, hparsed⟩ := readsAs_iff.mp h
  obtain ⟨-, hlevels⟩ := parseTokens_eq_ok.mp hparsed
  have htokens' : tokenize o a = .ok tokens := htokens
  refine (spans_of_tokenize htokens').imp ?_
  rintro ts ⟨f, hf, rfl⟩
  refine operand_of_parseLevels (Failing.toOption_eq_some.mp ?_)
  have hmoved : (parseLevels o source m (tokens.map f)).toOption =
      (parseLevels o a m tokens).toOption := parseLevels_map hf m tokens
  rw [hmoved, ← parseLevels_withDepth m]
  exact Failing.toOption_eq_some.mpr hlevels

/-- A source that as a whole spans an operand is accepted. -/
theorem readsAs_of_spans (h : Spans o a a (Operand o a o.maxDepth e)) : ReadsAs o a e := by
  obtain ⟨ts, htokens, d, hd, ⟨_, hrun⟩, hreads⟩ := h.exists_tokenize
  exact (readsAs_of_tokenize htokens).mpr
    (parseTokens_eq_ok.mpr ⟨hrun.ne_nil, hreads.enough _ hd⟩)

/-! ### Making one source of others -/

/-- Without conflict every operator is the one that its symbol stands for. -/
theorem Options.Valid.operator?_of_mem {op : Operator} (h : o.Valid) (hop : op ∈ o.operators) :
    o.operator? [op.symbol] = some op := by
  have hnodup : (o.operators.map (·.symbol)).Nodup := (Options.conflict?_eq_none.mp h.fits).1
  have hsome : (o.operator? [op.symbol]).isSome = true :=
    List.find?_isSome.mpr ⟨op, List.mem_reverse.mpr hop, beq_self_eq_true _⟩
  obtain ⟨found, hfound⟩ := Option.isSome_iff_exists.mp hsome
  have hsymbol : found.symbol = op.symbol := by simpa using Options.operator?_text hfound
  rw [hfound, List.inj_on_of_nodup_map hnodup (Options.operator?_mem hfound) hop hsymbol]

/-- A text in parentheses. -/
def Text.parenthesized (a : Text) : Text := '(' :: (a ++ [')'])

/-- In parentheses a run is an atom. -/
def Enclosed (o : Options) (source : Text) (n : Nat) (e : Expr) (ts : List Token) : Prop :=
  ∃ d ≤ n, Atom o source ts e d

theorem Enclosed.operand {ts : List Token} (h : Enclosed o source n e ts) :
    Operand o source n e ts := by
  obtain ⟨d, hd, hatom⟩ := h
  obtain ⟨m, hrun, -⟩ := hatom.run
  exact ⟨d, hd, ⟨m, hrun⟩, hatom.reads⟩

theorem spans_parenthesized (hsplits : o.Splits) (hparenthesis : .parenthesis ∈ o.parsers)
    (h : Spans o source a (Operand o source n e)) :
    Spans o source a.parenthesized (Enclosed o source (n + 1) e) := by
  refine (Spans.enclosed hsplits h).imp ?_
  rintro ts ⟨x, us, y, rfl, hx, hy, d, hd, ⟨_, hrun⟩, hreads⟩
  exact ⟨d + 1, Nat.succ_le_succ hd, .enclosed hparenthesis hx hy hrun hreads⟩

section Operations

variable {op : Operator} (claimed : o.tokenizer? op.symbol = some .operator)
  (known : o.operator? [op.symbol] = some op) (hoperation : .operation ∈ o.parsers)
include claimed known hoperation

theorem spans_binary (ha : Spans o source a (Enclosed o source n e))
    (hb : Spans o source b (Enclosed o source n f)) :
    Spans o source (a ++ op.symbol :: b) (Operand o source (n + 1) (.binary [op.symbol] e f)) := by
  refine (Spans.linked (fun s hs => Scan.breaks_operator claimed hs) ha hb).imp ?_
  rintro ts ⟨xs, t, ys, rfl, ⟨d, hd, hx⟩, hk, htext, k, hk', hy⟩
  rw [← htext] at known ⊢
  obtain ⟨_, hxrun, -⟩ := hx.run
  obtain ⟨_, hyrun, -⟩ := hy.run
  exact ⟨max d k + 1, Nat.succ_le_succ (Nat.max_le.mpr ⟨hd, hk'⟩),
    ⟨_, hxrun.linked hk known hyrun⟩, .joined hoperation hk known hx hy⟩

theorem spans_unary (hunary : op.unary.isSome = true)
    (ha : Spans o source a (Enclosed o source n e)) :
    Spans o source (op.symbol :: a) (Operand o source (n + 1) (.unary [op.symbol] e)) := by
  refine (Spans.linked (fun s hs => Scan.breaks_operator claimed hs) .nil ha).imp ?_
  rintro ts ⟨xs, t, ys, rfl, rfl, hk, htext, d, hd, hy⟩
  rw [← htext] at known ⊢
  obtain ⟨_, hyrun, -⟩ := hy.run
  exact ⟨d + 1, Nat.succ_le_succ hd, ⟨_, hyrun.prefixed hk⟩,
    .negated hoperation hk known hunary hy⟩

end Operations

theorem spans_call (hsplits : o.Splits) (hparenthesis : .parenthesis ∈ o.parsers)
    {func : MathFunction} (known : o.function? func.name = some func)
    (hname : Text.isName func.name = true) (hfree : ∀ c ∈ func.name, o.tokenizer? c = none)
    {args : List (Text × Expr)} (hne : args ≠ []) (haccepts : func.accepts args.length = true)
    (h : ∀ x ∈ args, Spans o source x.1 (Operand o source n x.2)) :
    Spans o source (func.name ++ (Text.join [','] (args.map (·.1))).parenthesized)
      (Operand o source (n + 1) (.call func.name (args.map (·.2)))) := by
  obtain ⟨x, rest, rfl⟩ := List.exists_cons_of_ne_nil hne
  refine (Spans.called hsplits hname hfree (Spans.joined hsplits h)).imp ?_
  rintro ts ⟨t, p, us, q, rfl, ht, htext, hp, hq, first, items, rfl, hitems, hfirst, hsep, hrest⟩
  -- Each argument has chosen a number of levels of its own.
  have hparts : List.Forall₂ (fun part e => ∃ d ≤ n, (∃ m, Run o source part m) ∧
      ReadsTo o source part e d) (first :: (items.map Item.piece).map (·.2))
      (x.2 :: items.map Item.tree) := .cons hfirst (Shape.forall₂_items hrest)
  obtain ⟨results, hes, hdeepest, hresults⟩ := exists_results hparts
  have hlength : results.length = (x :: rest).length := by
    have hlengths := congrArg List.length hes
    rw [List.length_map, List.length_cons, hitems, List.length_map] at hlengths
    exact hlengths
  rw [← hlength] at haccepts
  rw [← htext] at hname known
  have hatom := Atom.called hparenthesis ht hname known hp hq haccepts hsep hresults
  rw [hes, hitems, htext] at hatom
  exact Enclosed.operand ⟨_, Nat.succ_le_succ hdeepest, hatom⟩

/--
**Reading is compositional.**

Take any options that split at parentheses and operators and look for parentheses and operations.
Two levels above those that some sources need, each of them may stand in parentheses, beside an
operator in parentheses of its own, or among the arguments of a call, and it is read there as it is
by itself.
-/
theorem readsAs_composed (hv : o.Valid) (hparentheses : .parenthesis ∈ o.tokenizers)
    (hoperators : .operator ∈ o.tokenizers) (hparenthesis : .parenthesis ∈ o.parsers)
    (hoperation : .operation ∈ o.parsers) (m : Nat) :
    (∀ a e, ReadsAs { o with maxDepth := m } a e →
      ReadsAs { o with maxDepth := m + 2 } a.parenthesized e) ∧
    (∀ op ∈ o.operators, ∀ a e b f, ReadsAs { o with maxDepth := m } a e →
      ReadsAs { o with maxDepth := m } b f →
      ReadsAs { o with maxDepth := m + 2 } (a.parenthesized ++ op.symbol :: b.parenthesized)
        (.binary [op.symbol] e f)) ∧
    (∀ op ∈ o.operators, op.unary.isSome = true → ∀ a e, ReadsAs { o with maxDepth := m } a e →
      ReadsAs { o with maxDepth := m + 2 } (op.symbol :: a.parenthesized)
        (.unary [op.symbol] e)) ∧
    ∀ func : MathFunction, o.function? func.name = some func → Text.isName func.name = true →
      (∀ c kind, (c, kind) ∈ o.delimiterTable → c ∉ func.name) →
      ∀ args : List (Text × Expr), args ≠ [] → func.accepts args.length = true →
      (∀ x ∈ args, ReadsAs { o with maxDepth := m } x.1 x.2) →
      ReadsAs { o with maxDepth := m + 2 }
        (func.name ++ (Text.join [','] (args.map (·.1))).parenthesized)
        (.call func.name (args.map (·.2))) := by
  let limited : Options := { o with maxDepth := m + 2 }
  have hsplits : limited.Splits := hv.splits hparentheses
  have hclaimed : ∀ op ∈ o.operators, limited.tokenizer? op.symbol = some .operator :=
    fun op hop => hv.tokenizer?_of_claimed hoperators (List.mem_map_of_mem hop)
  have hpart : ∀ {source a e}, ReadsAs { o with maxDepth := m } a e →
      Spans limited source a (Operand limited source m e) :=
    fun h => spans_of_readsAs (o := limited) h
  have henclosed : ∀ {source a e}, ReadsAs { o with maxDepth := m } a e →
      Spans limited source a.parenthesized (Enclosed limited source (m + 1) e) :=
    fun h => spans_parenthesized hsplits hparenthesis (hpart h)
  refine ⟨fun a e ha => ?_, fun op hop a e b f ha hb => ?_, fun op hop hunary a e ha => ?_, ?_⟩
  · exact readsAs_of_spans ((henclosed ha).imp fun ts h => h.operand.mono (Nat.le_succ _))
  · exact readsAs_of_spans (spans_binary (hclaimed op hop) (hv.operator?_of_mem hop) hoperation
      (henclosed ha) (henclosed hb))
  · exact readsAs_of_spans (spans_unary (hclaimed op hop) (hv.operator?_of_mem hop) hoperation
      hunary (henclosed ha))
  · intro func known hname hapart args hne haccepts hargs
    have hfree : ∀ c ∈ func.name, limited.tokenizer? c = none := by
      intro c hc
      cases hkind : o.tokenizer? c with
      | none => exact hkind
      | some kind => exact absurd hc (hapart c kind (Options.mem_delimiterTable.mpr hkind))
    have hargs' : ∀ {source}, ∀ x ∈ args, Spans limited source x.1 (Operand limited source m x.2) :=
      fun x hx => hpart (hargs x hx)
    exact readsAs_of_spans ((spans_call hsplits hparenthesis known hname hfree hne haccepts
      hargs').imp fun ts h => h.mono (Nat.le_succ _))

/-- The argument `-[x]` takes two levels, so four are enough for `min(-[x],1)`. -/
theorem readsAs_composed_call :
    ReadsAs { Options.standard with maxDepth := 4 } "min(-[x],1)".toList
      (.call "min".toList [.unary ['-'] (.var ['x']), .const (.int 1)]) := by
  have hv : Options.standard.Valid := Options.standard_readable.valid
  have hx : ReadsAs { Options.standard with maxDepth := 2 } "-[x]".toList
      (.unary ['-'] (.var ['x'])) := ⟨_, rfl, rfl⟩
  have hone : ReadsAs { Options.standard with maxDepth := 2 } "1".toList (.const (.int 1)) :=
    ⟨_, rfl, rfl⟩
  have hapart : ∀ c kind, (c, kind) ∈ Options.standard.delimiterTable → c ∉ "min".toList := by
    intro c kind hlisted hc
    have hplain : Text.isPlain c = true := Text.isPlain_of_mem_isName (by decide) c hc
    rw [Options.mem_delimiterTable, Options.standard_readable.tokenizer?_of_isPlain hplain] at hlisted
    cases hlisted
  exact (readsAs_composed hv (by decide) (by decide) (by decide) (by decide) 2).2.2.2
    (.ofBuiltin .min) rfl (by decide) hapart
    [("-[x]".toList, .unary ['-'] (.var ['x'])), ("1".toList, .const (.int 1))] (by simp)
    (by decide) (List.forall_mem_cons.mpr ⟨hx, List.forall_mem_singleton.mpr hone⟩)

end Reckon
