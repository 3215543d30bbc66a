/-
What can be wrong with a run.

`Flaw` lists every fault that deciding on a form can end with, each with the tokens that it points at:
the run as a whole, or a single token of the run.  The kinds are taken one after the other, and no other
fault is found.  So whatever the run is, a fault points at tokens that are there, and they are next to
each other.
-/
import Reckon.Proofs.Shape.Forms

namespace Reckon.Shape

/-- A fault of a run. -/
inductive Flaw (o : Options) (source : Text) (ts : List Token) : Located ParseCause → Prop
  /-- No kind of parser finds a form. -/
  | unreadable : Flaw o source ts ⟨.unreadable (covered source ts), .covering source ts⟩
  | literal {t : Token} {n : Numeral} (ht : t ∈ ts) (hread : Numeral.read? false t.text = some n)
      (hlit : literal? n = none) :
      Flaw o source ts ⟨.literalOutOfRange t.text, .covering source [t]⟩
  | name {t : Token} (ht : t ∈ ts) : Flaw o source ts ⟨.invalidVariable t.text, .covering source [t]⟩
  | emptyParentheses : Flaw o source ts ⟨.emptyParentheses, .covering source ts⟩
  | separator : Flaw o source ts ⟨.unexpectedSeparator (covered source ts), .covering source ts⟩
  | function {t : Token} (ht : t ∈ ts) (unknown : o.function? t.text = none) :
      Flaw o source ts ⟨.unknownFunction t.text, .covering source [t]⟩
  | argument {t : Token} (ht : t ∈ ts) :
      Flaw o source ts ⟨.missingArgument t.text, .covering source ts⟩
  | count {t : Token} {f : MathFunction} {n : Nat} (ht : t ∈ ts)
      (known : o.function? t.text = some f) (hrefused : f.accepts n = false) :
      Flaw o source ts ⟨.argumentCount f.name f.arityText n, .covering source ts⟩
  | rightOperand {t : Token} (ht : t ∈ ts) :
      Flaw o source ts ⟨.missingRightOperand t.text, .covering source [t]⟩
  | operator {t : Token} (ht : t ∈ ts) (unknown : o.operator? t.text = none) :
      Flaw o source ts ⟨.unknownOperator t.text, .covering source [t]⟩
  | prefixForm {t : Token} {op : Operator} (ht : t ∈ ts) (known : o.operator? t.text = some op)
      (hunary : op.unary = none) : Flaw o source ts ⟨.noPrefixForm t.text, .covering source [t]⟩
  | operand {t : Token} (ht : t ∈ ts) :
      Flaw o source ts ⟨.missingOperand t.text, .covering source [t]⟩

variable {o : Options} {source : Text} {ts : List Token} {e : Located ParseCause}

/-! ### What a flaw points at -/

/-- A fault points at some tokens of a run, which stand in it next to each other. -/
def PointsInto (source : Text) (ts : List Token) (place : Excerpt) : Prop :=
  ∃ run, run ≠ [] ∧ run <:+: ts ∧ place = .covering source run

theorem PointsInto.whole (hne : ts ≠ []) : PointsInto source ts (.covering source ts) :=
  ⟨ts, hne, List.infix_rfl, rfl⟩

theorem PointsInto.token {t : Token} (ht : t ∈ ts) :
    PointsInto source ts (.covering source [t]) := by
  obtain ⟨before, behind, rfl⟩ := List.append_of_mem ht
  exact ⟨[t], List.cons_ne_nil t [], ⟨before, behind, by simp⟩, rfl⟩

theorem PointsInto.widen {place : Excerpt} {part : List Token} (h : PointsInto source part place)
    (hpart : part <:+: ts) : PointsInto source ts place := by
  obtain ⟨run, hne, hrun, hplace⟩ := h
  exact ⟨run, hne, hrun.trans hpart, hplace⟩

theorem Flaw.pointsInto (h : Flaw o source ts e) (hne : ts ≠ []) : PointsInto source ts e.excerpt := by
  cases h with
  | unreadable | emptyParentheses | separator | argument | count => exact .whole hne
  | literal ht | name ht | function ht | rightOperand ht | operator ht | prefixForm ht | operand ht =>
      exact .token ht

/-- Neither the limit on the levels nor an empty equation is a matter of the form. -/
theorem Flaw.cause_ne (h : Flaw o source ts e) :
    (∀ limit, e.cause ≠ .tooDeep limit) ∧ e.cause ≠ .emptyEquation := by
  cases h <;> exact ⟨fun _ => ParseCause.noConfusion, ParseCause.noConfusion⟩

/-! ### Single tokens -/

theorem flaw_of_constantLeaf? (h : constantLeaf? source ts = .error e) : Flaw o source ts e := by
  match ts with
  | [] => cases h
  | _ :: _ :: _ => cases h
  | [t] =>
    unfold constantLeaf? at h
    dsimp only at h
    split at h
    · cases h
    · split at h
      · cases h
      · rename_i n hread
        split at h
        · cases h
        · rename_i hlit
          cases h
          exact .literal List.mem_cons_self hread hlit

theorem flaw_of_variableLeaf? {p : Pattern} (h : variableLeaf? p source ts = .error e) :
    Flaw o source ts e := by
  match ts with
  | [] => cases h
  | _ :: _ :: _ => cases h
  | [t] =>
    unfold variableLeaf? at h
    dsimp only at h
    split at h
    · cases h
    · split at h
      · cases h
      · split at h
        · cases h
        · split at h
          · cases h
            exact .name List.mem_cons_self
          · cases h

/-! ### Parentheses -/

theorem flaw_of_groupOf {xs : List Token} (h : groupOf source ts xs = .error e) :
    Flaw o source ts e := by
  unfold groupOf at h
  split at h
  · cases h
    exact .emptyParentheses
  · split at h
    · cases h
      exact .separator
    · cases h

theorem flaw_of_callOf {t : Token} {xs : List Token} (ht : t ∈ ts)
    (h : callOf o source t ts xs = .error e) : Flaw o source ts e := by
  unfold callOf at h
  split at h
  · rename_i unknown
    cases h
    exact .function ht unknown
  · rename_i f known
    dsimp only at h
    split at h
    · cases h
      exact .argument ht
    · split at h
      · rename_i hrefused
        cases h
        exact .count ht known (by simpa using hrefused)
      · cases h

theorem flaw_of_parenthesis? (h : parenthesis? o source ts = .error e) : Flaw o source ts e := by
  rcases parenthesis?_cases o source ts with hnone | ⟨a, xs, b, rfl, ha, hb, hbal⟩ |
    ⟨t, a, xs, b, rfl, ht, hname, ha, hb, hbal⟩
  · rw [hnone] at h
    cases h
  · rw [parenthesis?_enclosed ha hb hbal] at h
    exact flaw_of_groupOf h
  · rw [parenthesis?_called ht hname ha hb hbal] at h
    exact flaw_of_callOf List.mem_cons_self (Failing.map_eq_error.mp h)

/-! ### Operators -/

theorem flaw_of_operatorOf {t : Token} (ht : t ∈ ts) (h : operatorOf o source t = .error e) :
    Flaw o source ts e := by
  unfold operatorOf at h
  split at h
  · cases h
  · rename_i unknown
    cases h
    exact .operator ht unknown

theorem flaw_of_markBinary {us : List Token} : ∀ {depth : Int} {after : Bool}, us ⊆ ts →
    markBinary o source depth after us = .error e → Flaw o source ts e := by
  induction us with
  | nil => intro depth after _ h; cases h
  | cons t rest ih =>
      intro depth after hsub h
      obtain ⟨ht, hrest⟩ := List.cons_subset.mp hsub
      rw [markBinary_cons] at h
      rcases Failing.bind_eq_error.mp h with h | ⟨mark, -, h⟩
      · split at h
        · exact flaw_of_operatorOf ht (Failing.map_eq_error.mp h)
        · cases h
      · exact ih hrest (Failing.map_eq_error.mp h)

theorem flaw_of_prefixed? (h : prefixed? o source ts = .error e) : Flaw o source ts e := by
  cases ts with
  | nil => cases h
  | cons t rest =>
      have ht : t ∈ t :: rest := List.mem_cons_self
      unfold prefixed? at h
      dsimp only at h
      split at h
      · cases h
      · rcases Failing.bind_eq_error.mp h with h | ⟨op, hop, h⟩
        · exact flaw_of_operatorOf ht h
        · split at h
          · rename_i hunary
            cases h
            exact .prefixForm ht (operatorOf_eq_ok.mp hop) (Option.isNone_iff_eq_none.mp hunary)
          · split at h
            · cases h
              exact .operand ht
            · cases h

/-- The operator without a right operand is one that the run is cut at. -/
theorem mem_of_getLast?_cut {m : Marked} {level : Int} {t : Token}
    (hreads : markBinary o source 0 false ts = .ok m)
    (hlast : (cut level m).2.getLast? = some (t, [])) : t ∈ ts := by
  obtain ⟨hlinked, -, -⟩ := cut_pieces level hreads
  rw [hlinked, linked]
  refine List.mem_append_right _ (List.mem_flatMap.mpr ⟨_, List.mem_of_getLast? hlast, ?_⟩)
  exact List.mem_cons_self

theorem flaw_of_operation? (h : operation? o source ts = .error e) : Flaw o source ts e := by
  rcases Failing.bind_eq_error.mp h with h | ⟨m, hreads, h⟩
  · exact flaw_of_markBinary (List.Subset.refl ts) h
  · split at h
    · exact flaw_of_prefixed? h
    · dsimp only at h
      split at h
      · rename_i t hlast
        cases h
        exact .rightOperand (mem_of_getLast?_cut hreads hlast)
      · cases h

/-! ### All kinds -/

theorem flaw_of_ofKind {kind : ParserKind} (h : ofKind o source ts kind = .error e) :
    Flaw o source ts e := by
  cases kind with
  | constant => exact flaw_of_constantLeaf? h
  | «variable» => exact flaw_of_variableLeaf? h
  | parenthesis => exact flaw_of_parenthesis? h
  | operation => exact flaw_of_operation? h

/-- If a run has no form, it has a flaw. -/
theorem flaw_of_error (h : of o source ts = .error e) : Flaw o source ts e := by
  rw [Kinds.of_eq_formBy] at h
  rcases Kinds.formBy_eq_error h with ⟨kind, -, hkind⟩ | rfl
  · exact flaw_of_ofKind hkind
  · exact .unreadable

end Reckon.Shape
