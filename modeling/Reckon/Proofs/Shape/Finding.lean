/-
Which kind decides the form of a run.

The registered kinds are asked one after the other, whatever they do in particular.  So the first form
that is found is the form that one of them finds, and if all kinds but one pass the run by, it is what
that one finds.  The parser asks its kinds like that, and so does any other way to find the forms of runs.
-/
import Reckon.Shape
import Reckon.Proofs.Failing

namespace Reckon.Kinds

/-- What a kind of parser makes of a run. -/
abbrev Finder := List Token → ParserKind → Except (Located ParseCause) (Option Shape)

variable {o : Options} {source : Text} {find : Finder} {ts : List Token}

/-- The first form that one of the given parsers finds. -/
def firstBy (find : Finder) (ts : List Token) :
    List ParserKind → Except (Located ParseCause) (Option Shape)
  | [] => .ok none
  | kind :: rest => do
    match ← find ts kind with
    | some shape => pure (some shape)
    | none => firstBy find ts rest

/-- The form that the registered parsers give a run. -/
def formBy (o : Options) (source : Text) (find : Finder) (ts : List Token) :
    Except (Located ParseCause) Shape := do
  match ← firstBy find ts o.parsers with
  | some shape => pure shape
  | none => Shape.fault source ts (.unreadable (Shape.covered source ts))

/-! ### The parser asks its kinds like that -/

theorem first?_eq_firstBy (ts : List Token) (kinds : List ParserKind) :
    Shape.first? o source ts kinds = firstBy (Shape.ofKind o source) ts kinds := by
  induction kinds with
  | nil => rfl
  | cons kind rest ih =>
      refine congrArg (Shape.ofKind o source ts kind >>= ·) (funext fun found => ?_)
      cases found with
      | some shape => rfl
      | none => exact ih

theorem of_eq_formBy (ts : List Token) :
    Shape.of o source ts = formBy o source (Shape.ofKind o source) ts :=
  congrArg (· >>= _) (first?_eq_firstBy ts o.parsers)

/-! ### The kinds that matter -/

/-- Some registered kind has found the form of a run. -/
theorem exists_kind_of_formBy {shape : Shape} (h : formBy o source find ts = .ok shape) :
    ∃ kind ∈ o.parsers, find ts kind = .ok (some shape) := by
  have hfirst : ∀ kinds, firstBy find ts kinds = .ok (some shape) →
      ∃ kind ∈ kinds, find ts kind = .ok (some shape) := by
    intro kinds
    induction kinds with
    | nil => intro h; cases h
    | cons k rest ih =>
        intro h
        obtain ⟨found, hfound, h⟩ := Failing.bind_eq_ok.mp h
        cases found with
        | some s =>
            cases h
            exact ⟨k, List.mem_cons_self, hfound⟩
        | none =>
            obtain ⟨kind, hmem, hkind⟩ := ih h
            exact ⟨kind, List.mem_cons_of_mem _ hmem, hkind⟩
  obtain ⟨found, hfound, h⟩ := Failing.bind_eq_ok.mp h
  cases found with
  | some s =>
      cases h
      exact hfirst o.parsers hfound
  | none => cases h

/-- Some registered kind has found the form wrong, or none has found any. -/
theorem formBy_eq_error {fault : Located ParseCause} (h : formBy o source find ts = .error fault) :
    (∃ kind ∈ o.parsers, find ts kind = .error fault) ∨
      fault = ⟨.unreadable (Shape.covered source ts), .covering source ts⟩ := by
  have hfirst : ∀ kinds, firstBy find ts kinds = .error fault →
      ∃ kind ∈ kinds, find ts kind = .error fault := by
    intro kinds
    induction kinds with
    | nil => intro h; cases h
    | cons k rest ih =>
        intro h
        rcases Failing.bind_eq_error.mp h with hk | ⟨found, -, h⟩
        · exact ⟨k, List.mem_cons_self, hk⟩
        · cases found with
          | some s => cases h
          | none =>
              obtain ⟨kind, hmem, hkind⟩ := ih h
              exact ⟨kind, List.mem_cons_of_mem _ hmem, hkind⟩
  rcases Failing.bind_eq_error.mp h with hfound | ⟨found, -, h⟩
  · exact .inl (hfirst o.parsers hfound)
  · cases found with
    | some s => cases h
    | none =>
        cases h
        exact .inr rfl

/-- Of all parsers that are asked only the one counts that the others leave the run to, if it is asked at
all. -/
theorem firstBy_of_others {kind : ParserKind} (hothers : ∀ other, other ≠ kind → find ts other = .ok none)
    (kinds : List ParserKind) :
    firstBy find ts kinds = if kind ∈ kinds then find ts kind else .ok none := by
  induction kinds with
  | nil => rfl
  | cons k rest ih =>
      by_cases hk : k = kind
      · subst hk
        rw [firstBy, ih, if_pos List.mem_cons_self]
        -- If the kind passes the run by, then it does so whether or not it is asked again.
        cases hkind : find ts k with
        | error fault => rfl
        | ok found =>
            cases found with
            | some shape => rfl
            | none => exact ite_self _
      · rw [firstBy, hothers k hk]
        refine Eq.trans ih ?_
        simp only [List.mem_cons, Ne.symm hk, false_or]

/-- If all kinds but one pass a run by, then that kind has to find the form. -/
theorem formBy_eq_ok_iff {kind : ParserKind} (hmem : kind ∈ o.parsers)
    (hothers : ∀ other, other ≠ kind → find ts other = .ok none) {shape : Shape} :
    formBy o source find ts = .ok shape ↔ find ts kind = .ok (some shape) := by
  constructor
  · intro h
    obtain ⟨other, -, hother⟩ := exists_kind_of_formBy h
    by_cases hkind : other = kind
    · exact hkind ▸ hother
    · rw [hothers other hkind] at hother
      cases hother
  · intro hfound
    rw [formBy, firstBy_of_others hothers, if_pos hmem, hfound]
    rfl

/-- Kinds that find the same forms give a run the same form. -/
theorem formBy_congr {find' : Finder}
    (h : ∀ kind, (find ts kind).toOption = (find' ts kind).toOption) {shape : Shape} :
    formBy o source find ts = .ok shape ↔ formBy o source find' ts = .ok shape := by
  have hfirst : ∀ kinds, (firstBy find ts kinds).toOption = (firstBy find' ts kinds).toOption := by
    intro kinds
    induction kinds with
    | nil => rfl
    | cons kind rest ih =>
        rw [firstBy, firstBy, Failing.toOption_bind, Failing.toOption_bind, h kind]
        congr 1
        funext found
        cases found with
        | some shape => rfl
        | none => exact ih
  rw [← Failing.toOption_eq_some, ← Failing.toOption_eq_some, formBy, formBy, Failing.toOption_bind,
    Failing.toOption_bind, hfirst]

end Reckon.Kinds
