/-
The parts of a form.

Whatever the run is, each part of its form stands in it as it is, is not empty, and is shorter.  For a
chain nobody checks that there is something between two operators: that follows from what an operator
between operands is.  It stands behind a value or a closing parenthesis, so the token in front of it is no
operator that the run is cut at, at any depth of parentheses, unbalanced ones included.
-/
import Reckon.Proofs.Levels
import Reckon.Proofs.Shape.Forms

namespace Reckon.Shape

variable {o : Options} {source : Text} {ts part : List Token}

/-! ### Operands between operators -/

/-- An operator that a run is cut at has an operand in front of it.  `after` says whether one ends where
the run begins. -/
theorem cut_operands (level : Int) : ∀ {ts : List Token} {depth : Int} {after : Bool} {m : Marked},
    markBinary o source depth after ts = .ok m →
    (after = false → (cut level m).2 ≠ [] → (cut level m).1 ≠ []) ∧
    ∀ x ∈ (cut level m).2.dropLast, x.2 ≠ []
  | [], depth, after, m, h => by
      cases h
      exact ⟨fun _ hne => absurd rfl hne, fun x hx => absurd hx List.not_mem_nil⟩
  | t :: rest, depth, after, m, h => by
      obtain ⟨mark, more, rfl, hmark, hmore⟩ := markBinary_cons_eq_ok.mp h
      obtain ⟨hfirst, hlinks⟩ := cut_operands level hmore
      by_cases hlevel : ∃ op, mark = some op ∧ op.precedence = level
      · obtain ⟨op, rfl, rfl⟩ := hlevel
        cases hmark with
        | between hb known =>
            obtain ⟨⟨hk, -⟩, hafter⟩ : (t.kind = .operator ∧ depth = 0) ∧ after = true := by
              simpa [isBetween] using hb
            have hends : endsOperand t = false := by simp [endsOperand, hk]
            rw [cut_cons_mark]
            refine ⟨fun hfalse => absurd (hafter.symm.trans hfalse) (by decide), fun x hx => ?_⟩
            -- The operand behind this operator is checked where the next one is found.
            cases hcut : (cut op.precedence more).2 with
            | nil =>
                rw [hcut] at hx
                cases hx
            | cons next links =>
                rw [hcut, List.dropLast_cons_of_ne_nil (List.cons_ne_nil next links), ← hcut] at hx
                rcases List.mem_cons.mp hx with rfl | hx
                · exact hfirst hends (by rw [hcut]; exact List.cons_ne_nil next links)
                · exact hlinks x hx
      · rw [cut_cons_keep fun op hop hp => hlevel ⟨op, hop, hp⟩]
        exact ⟨fun _ _ => List.cons_ne_nil _ _, hlinks⟩

/-- No operand of a chain is empty if the last is not. -/
theorem cut_ne_nil_of_last {m : Marked} {level : Int} (h : markBinary o source 0 false ts = .ok m)
    (hne : (cut level m).2 ≠ []) (hlast : ∀ t, (cut level m).2.getLast? ≠ some (t, [])) :
    ∀ part ∈ (cut level m).1 :: (cut level m).2.map (·.2), part ≠ [] := by
  obtain ⟨hfirst, hlinks⟩ := cut_operands level h
  intro part hpart
  rcases List.mem_cons.mp hpart with rfl | hpart
  · exact hfirst rfl hne
  · obtain ⟨x, hx, rfl⟩ := List.mem_map.mp hpart
    rw [← List.dropLast_concat_getLast hne, List.mem_append, List.mem_singleton] at hx
    rcases hx with hx | rfl
    · exact hlinks x hx
    · intro hnil
      refine hlast ((cut level m).2.getLast hne).1 ?_
      rw [List.getLast?_eq_some_getLast hne, ← hnil]

/-- The last operand of a chain is the only one that is checked. -/
theorem last_of_operation? {side : Associativity} {first : List Token}
    {links : List (Token × List Token)}
    (h : operation? o source ts = .ok (some (.chain side first links))) (t : Token) :
    links.getLast? ≠ some (t, []) := by
  obtain ⟨m, -, h⟩ := Failing.bind_eq_ok.mp h
  cases hweak : weakest? m with
  | none =>
      rw [hweak] at h
      obtain ⟨_, _, _, -, -, -, -, -, hshape⟩ := prefixed?_eq_some h
      cases hshape
  | some op =>
      rw [hweak] at h
      dsimp only at h
      split at h
      · cases h
      · rename_i hlast
        cases h
        exact hlast t

/-! ### All forms -/

/-- A part of the form of a run. -/
structure Part (ts part : List Token) : Prop where
  ne_nil : part ≠ []
  inside : part <:+: ts
  shorter : part.length < ts.length

/-- A run in the inside of another one, which has a token in front of it. -/
theorem Part.of_piece {t : Token} {xs : List Token} (hne : part ≠ []) (h : part <:+: xs)
    (hxs : xs <:+: ts) : Part (t :: ts) part where
  ne_nil := hne
  inside := List.infix_cons (h.trans hxs)
  shorter := Nat.lt_succ_of_le (h.trans hxs).length_le

theorem ne_nil_of_ofKind {kind : ParserKind} {shape : Shape}
    (h : ofKind o source ts kind = .ok (some shape)) : ts ≠ [] := by
  rintro rfl
  cases kind <;> cases h

theorem Part.of_ofKind {kind : ParserKind} {shape : Shape}
    (h : ofKind o source ts kind = .ok (some shape)) (hpart : part ∈ shape.parts) : Part ts part := by
  cases kind with
  | constant =>
      obtain ⟨_, _, _, -, -, -, -, rfl⟩ := constantLeaf?_eq_some.mp h
      cases hpart
  | «variable» =>
      obtain ⟨_, _, -, -, -, -, rfl⟩ := variableLeaf?_eq_some.mp h
      cases hpart
  | parenthesis =>
      rcases parenthesis?_eq_some h with ⟨a, xs, b, rfl, -, -, -, hne, -, rfl⟩ |
        ⟨t, a, xs, b, f, rfl, -, -, -, -, -, -, hargs, -, rfl⟩
      · obtain rfl := List.mem_singleton.mp hpart
        exact .of_piece hne List.infix_rfl (List.prefix_append _ _).isInfix
      · have hne : xs ≠ [] := by
          rintro rfl
          cases hpart
        obtain ⟨first, rest, hxs, hrest, -⟩ := exists_linked_arguments hne
        have hinside : part <:+: xs := by
          rw [parts, hrest] at hpart
          exact hxs ▸ infix_linked hpart
        exact .of_piece (hargs part hpart) hinside (List.infix_cons (List.prefix_append _ _).isInfix)
  | operation =>
      obtain ⟨m, hreads, ⟨-, hprefixed⟩ | ⟨op, hweak, rfl⟩⟩ := operation?_eq_some h
      · obtain ⟨t, rest, _, rfl, -, -, -, hne, rfl⟩ := prefixed?_eq_some hprefixed
        obtain rfl := List.mem_singleton.mp hpart
        exact .of_piece hne List.infix_rfl List.infix_rfl
      · have hlinks := cut_ne_nil (weakest?_eq_some hweak).1
        obtain ⟨hlinked, -, -⟩ := cut_pieces op.precedence hreads
        refine ⟨cut_ne_nil_of_last hreads hlinks (last_of_operation? h) part hpart, ?_, ?_⟩
        · rw [hlinked]
          exact infix_linked hpart
        · rw [hlinked]
          exact length_lt_linked hlinks hpart

/-- The parts of the form of any run. -/
theorem Part.of_shape {shape : Shape} (h : of o source ts = .ok shape) (hpart : part ∈ shape.parts) :
    Part ts part := by
  obtain ⟨kind, -, hkind⟩ := exists_kind_of_eq_ok h
  exact .of_ofKind hkind hpart

end Reckon.Shape
