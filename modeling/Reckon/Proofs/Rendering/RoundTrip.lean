/-
Reading rendered text back.

Rendered text always consists of the tokens that spell its tree, so reading it gives the
tree back, up to negative constants, which come back as negations.  The one thing that can
go wrong is the limit on the levels: parentheses cost levels that the original text may not
have needed.  How many it takes is known exactly, so both directions follow: what fits the
limit is read back, and what does not fails for that reason and no other.
-/
import Reckon.Proofs.Rendering.Scanning

namespace Reckon

variable {o : Options} {source : Text} {e : Expr}

/-! ### The tokens of a rendered tree -/

/-- Reading the text of a tree gives tokens that spell it. -/
theorem spans_render (h : o.Readable) (hw : e.WellFormed o (Literal.IsWritable o)) :
    Spans o source (e.render o.pattern) (Spells o.pattern e) := by
  induction hw with
  | @const l hl =>
      show Spans o source l.render _
      unfold Literal.render
      by_cases hnegative : l.isNegative = true
      · rw [if_pos hnegative]
        obtain ⟨op, known, -⟩ := hl.2 hnegative
        obtain ⟨c, hc, hbreaks⟩ := breaks_known h known
        cases hc
        refine (Spans.enclosed h.splits (.linked hbreaks .nil (spans_sizeText h hl.1))).imp ?_
        rintro ts ⟨a, us, b, rfl, ha, hb, xs, s, ys, rfl, rfl, hs, hsymbol, t, rfl, ht, htext⟩
        exact .negative hnegative ha hs hsymbol ht htext hb
      · rw [if_neg hnegative]
        refine (spans_sizeText h hl.1).imp ?_
        rintro ts ⟨t, rfl, ht, htext⟩
        exact .size (by simpa using hnegative) ht htext
  | var hname =>
      refine (spans_wrap h hname).imp ?_
      rintro ts ⟨t, rfl, ht, htext⟩
      exact .var ht htext
  | unary known _ _ ih =>
      obtain ⟨c, rfl, hbreaks⟩ := breaks_known h known
      refine (Spans.enclosed h.splits (.linked hbreaks .nil ih)).imp ?_
      rintro ts ⟨a, us, b, rfl, ha, hb, xs, s, ys, rfl, rfl, hs, hsymbol, hys⟩
      exact .unary ha hs hsymbol hb hys
  | @binary symbol _ l r known _ _ ihl ihr =>
      obtain ⟨c, rfl, hbreaks⟩ := breaks_known h known
      have hrender : (Expr.binary [c] l r).render o.pattern =
          '(' :: (l.render o.pattern ++ c :: r.render o.pattern ++ [')']) := by
        simp [Expr.render]
      rw [hrender]
      refine (Spans.enclosed h.splits (.linked hbreaks ihl ihr)).imp ?_
      rintro ts ⟨a, us, b, rfl, ha, hb, xs, s, ys, rfl, hxs, hs, hsymbol, hys⟩
      exact .binary ha hs hsymbol hb hxs hys
  | @call name _ args hname _ _ _ ih =>
      have hrender : (Expr.call name args).render o.pattern =
          name ++ '(' :: (Text.join [','] (Expr.renderAll o.pattern args) ++ [')']) := by
        simp [Expr.render]
      rw [hrender]
      have hfree : ∀ c ∈ name, o.tokenizer? c = none :=
        fun c hc => h.tokenizer?_of_isPlain (Text.isPlain_of_mem_isName hname c hc)
      cases args with
      | nil =>
          refine (Spans.called h.splits hname hfree .nil).imp ?_
          rintro ts ⟨t, a, us, b, rfl, ht, htext, ha, hb, rfl⟩
          exact .emptyCall ht htext ha hb
      | cons first rest =>
          have hspans : ∀ y ∈ (first.render o.pattern, first) ::
              rest.map (fun e => (e.render o.pattern, e)),
              Spans o source y.1 (Spells o.pattern y.2) := by
            intro y hy
            rcases List.mem_cons.mp hy with rfl | hy
            · exact ih first List.mem_cons_self
            · obtain ⟨e, he, rfl⟩ := List.mem_map.mp hy
              exact ih e (List.mem_cons_of_mem _ he)
          have hjoined := Spans.joined h.splits hspans
          rw [List.map_cons, List.map_map, List.map_map, Function.comp_def, Function.comp_def,
            List.map_id'] at hjoined
          rw [Expr.renderAll_eq_map, List.map_cons]
          refine (Spans.called h.splits hname hfree hjoined).imp ?_
          rintro ts ⟨t, a, us, b, rfl, ht, htext, ha, hb, xs, items, rfl, rfl, hfirst, hsep, hitems⟩
          exact .call ht htext ha hb hfirst hsep hitems

theorem tokenize_render (h : o.Readable) (hw : e.WellFormed o (Literal.IsWritable o)) :
    ∃ ts, tokenize o (e.render o.pattern) = .ok ts ∧ Spells o.pattern e ts :=
  (spans_render h hw).exists_tokenize

/-! ### The tree of a rendered tree -/

/-- A rendered tree is read back if it may use at least so many levels, and the limit is reached if it
may use fewer. -/
theorem parse_render (h : o.Readable) (hw : e.WellFormed o (Literal.IsWritable o)) :
    (e.readingDepth ≤ o.maxDepth →
      Equation.parse o (e.render o.pattern) =
        .ok ⟨e.withNegations Literal.size, e.render o.pattern, o⟩) ∧
    (o.maxDepth < e.readingDepth →
      ∃ place, Equation.parse o (e.render o.pattern) = .error (.parse ⟨.tooDeep o.maxDepth, place⟩)) := by
  obtain ⟨ts, htokens, hspells⟩ := tokenize_render h hw
  obtain ⟨⟨m, hrun, -⟩, hreads⟩ : Atom o (e.render o.pattern) ts _ _ :=
    atom_of_spells h.parsers h.isUnlikeNumber hspells hw
  have hparse : Equation.parse o (e.render o.pattern) =
      ((parseLevels o (e.render o.pattern) o.maxDepth ts).mapError Fault.parse).map
        fun root => ⟨root, e.render o.pattern, o⟩ := by
    have hparsed : parseTokens o (e.render o.pattern) ts =
        parseLevels o (e.render o.pattern) o.maxDepth ts := by
      unfold parseTokens
      rw [if_neg (by simpa using hrun.ne_nil)]
    unfold Equation.parse
    rw [htokens, ← hparsed]
    rfl
  constructor
  · intro hle
    rw [hparse, hreads.enough _ hle]
    rfl
  · intro hlt
    obtain ⟨place, hplace⟩ := hreads.lacking _ hlt
    rw [hparse, hplace]
    exact ⟨place, rfl⟩

/--
**Reading undoes rendering.**

Two levels for every operation and call that nests in the tree, and one more, are enough to read the
text of a tree that fits the options, whatever the precedences and the names are.  What comes back
is the tree itself, except that every negative constant is the negation of its opposite.
-/
theorem parse_render_alike (h : o.Readable) (hw : e.WellFormed o (Literal.IsWritable o))
    (hdepth : 2 * e.height + 1 ≤ o.maxDepth) :
    ∃ equation, Equation.parse o (e.render o.pattern) = .ok equation ∧
      equation.root.alike (e.withNegations Literal.unsigned) = true := by
  have hread := (parse_render h hw).1 (e.readingDepth_le.trans hdepth)
  exact ⟨_, hread, e.withNegations_alike (fun _ hl => Literal.size_alike hl.1) hw⟩

/-- A tree with a negative double, with a name that only delimiters can hold, and with a negation of a
negative number. -/
def mixedTree : Expr :=
  .binary ['^'] (.const (.float (-2.5)))
    (.call "max".toList [.var "a (b".toList, .unary ['-'] (.const (.int (-3)))])

theorem wellFormed_mixedTree : mixedTree.WellFormed .standard (Literal.IsWritable .standard) := by
  have hdouble : (Literal.float (-2.5)).IsWritable .standard :=
    ⟨by decide +kernel, fun _ => ⟨_, rfl, rfl⟩⟩
  have hint : (Literal.int (-3)).IsWritable .standard := ⟨by decide, fun _ => ⟨_, rfl, rfl⟩⟩
  refine .binary rfl (.const hdouble) (.call (by decide) rfl (by decide) fun e he => ?_)
  rcases List.mem_cons.mp he with rfl | he
  · exact .var (by decide)
  · rw [List.mem_singleton.mp he]
    exact .unary rfl rfl (.const hint)

theorem parse_render_mixedTree :
    ∃ equation, Equation.parse .standard (mixedTree.render .brackets) = .ok equation ∧
      equation.root.alike (mixedTree.withNegations Literal.unsigned) = true :=
  parse_render_alike Options.standard_readable wellFormed_mixedTree (by decide +kernel)

/-! ### Reading an equation again -/

/-- A literal that has been read can be written. -/
theorem Literal.IsRead.isWritable {l : Literal} (h : l.IsRead) : l.IsWritable o := by
  obtain ⟨hbounded, hnegative, -⟩ := h.spec
  refine ⟨hbounded, fun h => ?_⟩
  rw [hnegative] at h
  cases h

/-- An equation that has been read is read again with the same tree if its rendered text may use so
many levels, and otherwise the limit is reached. -/
theorem parse_render_equation (h : o.Readable) {equation : Equation}
    (hread : Equation.parse o source = .ok equation) :
    (equation.root.readingDepth ≤ o.maxDepth →
      Equation.parse o equation.render = .ok ⟨equation.root, equation.render, o⟩) ∧
    (o.maxDepth < equation.root.readingDepth →
      ∃ place, Equation.parse o equation.render = .error (.parse ⟨.tooDeep o.maxDepth, place⟩)) := by
  obtain ⟨hw, hoptions⟩ := wellFormed_of_parse hread
  have hrender : equation.render = equation.root.render o.pattern := by rw [← hoptions]; rfl
  have hself : equation.root.withNegations Literal.size = equation.root :=
    Expr.withNegations_eq_self (fun _ hl => hl.spec.2) hw
  have hboth := parse_render h (hw.imp fun _ hl => hl.isWritable)
  rw [hself] at hboth
  rw [hrender]
  exact hboth

/--
**Which equations can be rendered and read again under the same limit.**

With the standard options and any limit on the levels, an accepted equation is read again with the
same tree exactly if its rendered text needs no more levels than the limit allows.  If it needs
more, reading it reaches the limit.
-/
theorem reread_standard_iff {depth : Nat} {equation : Equation}
    (hread : Equation.parse { Options.standard with maxDepth := depth } source = .ok equation) :
    ((∃ again, Equation.parse { Options.standard with maxDepth := depth } equation.render = .ok again ∧
        again.root = equation.root) ↔ equation.root.readingDepth ≤ depth) ∧
    (depth < equation.root.readingDepth →
      ∃ place, Equation.parse { Options.standard with maxDepth := depth } equation.render =
        .error (.parse ⟨.tooDeep depth, place⟩)) := by
  obtain ⟨henough, hlacking⟩ := parse_render_equation (Options.standard_readable.withDepth depth) hread
  refine ⟨⟨fun ⟨again, hagain, _⟩ => ?_, fun hle => ⟨_, henough hle, rfl⟩⟩, hlacking⟩
  by_contra hnot
  obtain ⟨place, hplace⟩ := hlacking (not_le.mp hnot)
  rw [hagain] at hplace
  cases hplace

theorem reread_at_the_limit :
    ∃ equation, Equation.parse { Options.standard with maxDepth := 5 } "2*[x]+1".toList = .ok equation ∧
      ∃ again, Equation.parse { Options.standard with maxDepth := 5 } equation.render = .ok again ∧
        again.root = equation.root := by
  have hread : Equation.parse { Options.standard with maxDepth := 5 } "2*[x]+1".toList =
      .ok ⟨.binary ['+'] (.binary ['*'] (.const (.int 2)) (.var ['x'])) (.const (.int 1)),
        "2*[x]+1".toList, { Options.standard with maxDepth := 5 }⟩ := rfl
  exact ⟨_, hread, (reread_standard_iff hread).1.mpr (by decide)⟩

/-- A sum of ones with that many operators. -/
def sumOfOnes (operators : Nat) : Text := '1' :: (List.replicate operators ['+', '1']).flatten

/-- A long sum nests no deeper than a short one, but every operator of it costs two levels once it is
rendered. -/
theorem not_reread_sumOfOnes :
    ∃ equation, Equation.parse Options.standard (sumOfOnes 100) = .ok equation ∧
      ¬∃ again, Equation.parse Options.standard equation.render = .ok again ∧
        again.root = equation.root := by
  have hdepth : (Equation.parse Options.standard (sumOfOnes 100)).toOption.map
      (·.root.readingDepth) = some 201 := by decide +kernel
  cases hread : Equation.parse Options.standard (sumOfOnes 100) with
  | error fault =>
      rw [hread] at hdepth
      cases hdepth
  | ok equation =>
      rw [hread] at hdepth
      have hlevels : equation.root.readingDepth = 201 := Option.some.inj hdepth
      refine ⟨equation, rfl, ?_⟩
      rintro ⟨again, hagain, -⟩
      have hlimit : Options.standard.maxDepth < equation.root.readingDepth := by
        rw [hlevels]
        decide
      obtain ⟨place, hplace⟩ := (parse_render_equation Options.standard_readable hread).2 hlimit
      rw [hagain] at hplace
      cases hplace

end Reckon
