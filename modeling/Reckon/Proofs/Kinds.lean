/-
Reading with any kinds of parsers.

The parts of the form of a run are read in the same way one level deeper, whatever the kinds of parsers
do to find the form.  As long as the parts are shorter than the run, the levels are of no interest: a
run that is read at all is read with as many levels as it has tokens.  `Settles` says that a run is read
as a tree with so many levels or more, and it passes from the parts of a form to the run and back.
-/
import Reckon.Proofs.Shape.Parts

namespace Reckon.Kinds

variable {o : Options} {source : Text} {find : Finder}

/-- The tree of a run that may use `levels` levels. -/
def readBy (o : Options) (source : Text) (find : Finder) :
    Nat → List Token → Except (Located ParseCause) Expr
  | 0, ts => Shape.fault source ts (.tooDeep o.maxDepth)
  | levels + 1, ts => do
    let shape ← formBy o source find ts
    shape.tree <$> shape.parts.mapM (readBy o source find levels)

/-- The parser reads like that. -/
theorem parseLevels_eq_readBy (n : Nat) : ∀ ts,
    parseLevels o source n ts = readBy o source (Shape.ofKind o source) n ts := by
  induction n with
  | zero => intro ts; rfl
  | succ n ih =>
      intro ts
      rw [parseLevels_succ, of_eq_formBy, funext ih]
      rfl

/-! ### Trees that are found with enough levels -/

/-- A run is read as a tree as soon as there are as many levels as tokens. -/
def Settles (o : Options) (source : Text) (find : Finder) (ts : List Token) (e : Expr) : Prop :=
  ∀ n, ts.length ≤ n → readBy o source find n ts = .ok e

/-- The parts of a form are shorter than the run. -/
def Shrinks (find : Finder) : Prop :=
  ∀ ts kind shape, find ts kind = .ok (some shape) →
    ts ≠ [] ∧ ∀ part ∈ shape.parts, part.length < ts.length

variable {ts : List Token} {e : Expr}

theorem not_settles_nil : ¬Settles o source find [] e := by
  intro h
  cases h 0 (Nat.le_refl 0)

theorem readBy_succ_eq_ok {n : Nat} :
    readBy o source find (n + 1) ts = .ok e ↔
      ∃ shape es, formBy o source find ts = .ok shape ∧
        List.Forall₂ (fun part tree => readBy o source find n part = .ok tree) shape.parts es ∧
        shape.tree es = e := by
  constructor
  · intro h
    obtain ⟨shape, hshape, h⟩ := Failing.bind_eq_ok.mp h
    obtain ⟨es, hes, htree⟩ := Failing.functor_map_eq_ok.mp h
    exact ⟨shape, es, hshape, Failing.mapM_eq_ok.mp hes, htree⟩
  · rintro ⟨shape, es, hshape, hes, htree⟩
    rw [readBy, hshape]
    change shape.tree <$> shape.parts.mapM (readBy o source find n) = .ok e
    rw [Failing.mapM_eq_ok.mpr hes]
    exact congrArg Except.ok htree

/-- A run settles if the parts of its form do. -/
theorem Settles.of_form (hfind : Shrinks find) {shape : Shape} {es : List Expr}
    (hshape : formBy o source find ts = .ok shape)
    (hparts : List.Forall₂ (Settles o source find) shape.parts es) :
    Settles o source find ts (shape.tree es) := by
  obtain ⟨kind, -, hkind⟩ := exists_kind_of_formBy hshape
  obtain ⟨hne, hshorter⟩ := hfind ts kind shape hkind
  intro n hn
  have hpos : 0 < ts.length := List.length_pos_iff.mpr hne
  obtain ⟨k, rfl⟩ : ∃ k, n = k + 1 := ⟨n - 1, by omega⟩
  refine readBy_succ_eq_ok.mpr ⟨shape, es, hshape, ?_, rfl⟩
  refine ((List.forall₂_and_left _ _).mpr ⟨hshorter, hparts⟩).imp ?_
  rintro part tree ⟨hlt, hpart⟩
  exact hpart k (by omega)

/-- Whatever is read at all is read with as many levels as tokens. -/
theorem settles_of_readBy (hfind : Shrinks find) (n : Nat) : ∀ {ts : List Token} {e : Expr},
    readBy o source find n ts = .ok e → Settles o source find ts e := by
  induction n with
  | zero => intro ts e h; cases h
  | succ n ih =>
      intro ts e h
      obtain ⟨shape, es, hshape, hes, rfl⟩ := readBy_succ_eq_ok.mp h
      exact .of_form hfind hshape (hes.imp fun _ _ hpart => ih hpart)

theorem settles_iff (hfind : Shrinks find) :
    Settles o source find ts e ↔ ∃ shape es, formBy o source find ts = .ok shape ∧
      List.Forall₂ (Settles o source find) shape.parts es ∧ shape.tree es = e := by
  constructor
  · intro h
    obtain ⟨shape, es, hshape, hes, htree⟩ := readBy_succ_eq_ok.mp (h (ts.length + 1) (by omega))
    exact ⟨shape, es, hshape, hes.imp fun _ _ hpart => settles_of_readBy hfind _ hpart, htree⟩
  · rintro ⟨shape, es, hshape, hparts, rfl⟩
    exact .of_form hfind hshape hparts

/-- What settles one way settles another way, if the forms are found there as well and the parts settle
there. -/
theorem Settles.transfer {find' : Finder} (hfind : Shrinks find) (hfind' : Shrinks find')
    (hform : ∀ shape, formBy o source find ts = .ok shape → formBy o source find' ts = .ok shape)
    (hparts : ∀ part : List Token, part.length < ts.length → ∀ tree,
      Settles o source find part tree → Settles o source find' part tree)
    (h : Settles o source find ts e) : Settles o source find' ts e := by
  obtain ⟨shape, es, hshape, hes, rfl⟩ := (settles_iff hfind).mp h
  obtain ⟨kind, -, hkind⟩ := exists_kind_of_formBy hshape
  refine .of_form hfind' (hform shape hshape) ?_
  refine ((List.forall₂_and_left _ _).mpr ⟨(hfind ts kind shape hkind).2, hes⟩).imp ?_
  rintro part tree ⟨hlt, hpart⟩
  exact hparts part hlt tree hpart

/-! ### The forms that the parser finds -/

/-- The parts of a form are shorter than the run that has it. -/
theorem shrinks_ofKind : Shrinks (Shape.ofKind o source) := fun _ _ _ h =>
  ⟨Shape.ne_nil_of_ofKind h, fun _ hpart => (Shape.Part.of_ofKind h hpart).shorter⟩

end Reckon.Kinds
