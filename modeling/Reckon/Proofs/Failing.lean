/-
Computations that can fail.

A computation in `Except` succeeds exactly if each of its steps does.  These are the laws
that take such a computation apart, so that a proof about one never has to open it.
-/
import Mathlib.Data.List.Forall2

namespace Reckon.Failing

variable {ε α β : Type}

theorem bind_eq_ok {x : Except ε α} {f : α → Except ε β} {b : β} :
    (x >>= f) = .ok b ↔ ∃ a, x = .ok a ∧ f a = .ok b := by
  cases x <;> simp [bind, Except.bind]

theorem bind_eq_error {x : Except ε α} {f : α → Except ε β} {e : ε} :
    (x >>= f) = .error e ↔ x = .error e ∨ ∃ a, x = .ok a ∧ f a = .error e := by
  cases x <;> simp [bind, Except.bind]

theorem map_eq_ok {x : Except ε α} {f : α → β} {b : β} :
    x.map f = .ok b ↔ ∃ a, x = .ok a ∧ f a = b := by
  cases x <;> simp [Except.map]

theorem map_eq_error {x : Except ε α} {f : α → β} {e : ε} : x.map f = .error e ↔ x = .error e := by
  cases x <;> simp [Except.map]

theorem functor_map_eq_ok {x : Except ε α} {f : α → β} {b : β} :
    f <$> x = .ok b ↔ ∃ a, x = .ok a ∧ f a = b :=
  map_eq_ok

theorem mapM_eq_ok {f : α → Except ε β} {xs : List α} : ∀ {ys : List β},
    xs.mapM f = .ok ys ↔ List.Forall₂ (fun x y => f x = .ok y) xs ys := by
  induction xs with
  | nil =>
      intro ys
      cases ys <;> simp [pure, Except.pure]
  | cons x rest ih =>
      intro ys
      rw [List.mapM_cons]
      constructor
      · intro h
        obtain ⟨y, hy, h⟩ := bind_eq_ok.mp h
        obtain ⟨more, hmore, h⟩ := bind_eq_ok.mp h
        cases h
        exact .cons hy (ih.mp hmore)
      · intro h
        cases h with
        | cons hy hmore =>
            rw [hy, ih.mpr hmore]
            rfl

/-- A row of computations succeeds alike if each of them does. -/
theorem mapM_eq_ok_of_imp {f g : α → Except ε β} {xs : List α}
    (h : ∀ x ∈ xs, ∀ y, f x = .ok y → g x = .ok y) : ∀ {ys : List β},
    xs.mapM f = .ok ys → xs.mapM g = .ok ys := by
  induction xs with
  | nil => intro ys hf; cases hf; rfl
  | cons x rest ih =>
      intro ys hf
      rw [List.mapM_cons] at hf ⊢
      obtain ⟨y, hy, hf⟩ := bind_eq_ok.mp hf
      obtain ⟨more, hmore, hf⟩ := bind_eq_ok.mp hf
      rw [h x List.mem_cons_self y hy, ih (fun z hz => h z (List.mem_cons_of_mem x hz)) hmore]
      exact hf

/-- A row of computations fails as one of them fails. -/
theorem exists_of_mapM_eq_error {f : α → Except ε β} {xs : List α} {e : ε}
    (h : xs.mapM f = .error e) : ∃ x ∈ xs, f x = .error e := by
  induction xs with
  | nil => cases h
  | cons x rest ih =>
      rw [List.mapM_cons] at h
      rcases bind_eq_error.mp h with hx | ⟨y, -, h⟩
      · exact ⟨x, List.mem_cons_self, hx⟩
      · rcases bind_eq_error.mp h with hrest | ⟨more, -, h⟩
        · obtain ⟨z, hz, hfail⟩ := ih hrest
          exact ⟨z, List.mem_cons_of_mem x hz, hfail⟩
        · cases h

theorem mapError_eq_ok {δ : Type} {x : Except ε α} {f : ε → δ} {a : α} :
    x.mapError f = .ok a ↔ x = .ok a := by
  cases x <;> simp [Except.mapError]

theorem mapError_eq_error {δ : Type} {x : Except ε α} {f : ε → δ} {d : δ} :
    x.mapError f = .error d ↔ ∃ e, x = .error e ∧ f e = d := by
  cases x <;> simp [Except.mapError]

/-- An outcome that is taken into its own monad stays what it is. -/
@[simp] theorem ofExcept_eq (x : Except ε α) : (ofExcept x : Except ε α) = x := by
  cases x <;> rfl

/-! ### Rows of computations in any monad -/

section Rows

variable {m : Type → Type} [Monad m] [LawfulMonad m] {xs : List α}

theorem mapM_congr_mem {f g : α → m β} (h : ∀ x ∈ xs, f x = g x) : xs.mapM f = xs.mapM g := by
  induction xs with
  | nil => rw [List.mapM_nil, List.mapM_nil]
  | cons x rest ih =>
      rw [List.mapM_cons, List.mapM_cons, h x (by simp), ih fun y hy => h y (by simp [hy])]

theorem mapM_attach (f : α → m β) : (xs.attach.mapM fun x => f x.1) = xs.mapM f := by
  rw [List.mapM_subtype (fun _ _ => rfl), List.unattach_attach]

end Rows

/-! ### Without regard to how a computation fails -/

theorem toOption_bind {x : Except ε α} {f : α → Except ε β} :
    (x >>= f).toOption = x.toOption.bind fun a => (f a).toOption := by
  cases x <;> rfl

theorem toOption_map {x : Except ε α} {f : α → β} : (x.map f).toOption = x.toOption.map f := by
  cases x <;> rfl

theorem toOption_eq_some {x : Except ε α} {a : α} : x.toOption = some a ↔ x = .ok a := by
  cases x <;> simp [Except.toOption]

/-- Rows of computations that one by one succeed alike do so as a whole. -/
theorem toOption_mapM_map {δ γ : Type} {f : α → Except ε β} {g : γ → Except δ β} {r : γ → α}
    {xs : List γ} (h : ∀ x ∈ xs, (f (r x)).toOption = (g x).toOption) :
    ((xs.map r).mapM f).toOption = (xs.mapM g).toOption := by
  induction xs with
  | nil => rfl
  | cons x rest ih =>
      have hrest := ih fun y hy => h y (List.mem_cons_of_mem x hy)
      rw [List.map_cons, List.mapM_cons, List.mapM_cons, toOption_bind, toOption_bind,
        h x List.mem_cons_self]
      refine congrArg _ (funext fun y => ?_)
      rw [toOption_bind, toOption_bind, hrest]
      rfl

/-! ### Side by side -/

/-- Both computations fail in the same way, or both succeed, with related results. -/
inductive Rel {ε α β : Type} (R : α → β → Prop) : Except ε α → Except ε β → Prop
  | ok {a : α} {b : β} (h : R a b) : Rel R (.ok a) (.ok b)
  | error (e : ε) : Rel R (.error e) (.error e)

namespace Rel

variable {γ δ : Type} {R : α → β → Prop} {S : γ → δ → Prop} {x : Except ε α} {y : Except ε β}

theorem bind {f : α → Except ε γ} {g : β → Except ε δ} (h : Rel R x y)
    (hfg : ∀ a b, R a b → Rel S (f a) (g b)) : Rel S (x >>= f) (y >>= g) := by
  cases h with
  | ok hR => exact hfg _ _ hR
  | error e => exact .error e

theorem bind_eq {f : α → Except ε γ} {g : β → Except ε γ} (h : Rel R x y)
    (hfg : ∀ a b, R a b → g b = f a) : (y >>= g) = (x >>= f) := by
  cases h with
  | ok hR => exact hfg _ _ hR
  | error e => rfl

theorem map {f : α → γ} {g : β → δ} (h : Rel R x y) (hfg : ∀ a b, R a b → S (f a) (g b)) :
    Rel S (x.map f) (y.map g) := by
  cases h with
  | ok hR => exact .ok (hfg _ _ hR)
  | error e => exact .error e

end Rel

/-! ### Loops -/

/-- What holds before a loop and after every step that succeeds holds where the loop ends or fails. -/
theorem foldlM_cases {σ : Type} {f : σ → α → Except ε σ} {P : List α → σ → Prop} {s : σ}
    (hstart : P [] s)
    (hstep : ∀ done x s s', P done s → f s x = .ok s' → P (done ++ [x]) s') (xs : List α) :
    (∃ s', xs.foldlM f s = .ok s' ∧ P xs s') ∨
      ∃ done x rest s' e, xs = done ++ x :: rest ∧ P done s' ∧ f s' x = .error e ∧
        xs.foldlM f s = .error e := by
  have hfrom : ∀ (todo done : List α) (s : σ), P done s →
      (∃ s', todo.foldlM f s = .ok s' ∧ P (done ++ todo) s') ∨
        ∃ more x rest s' e, todo = more ++ x :: rest ∧ P (done ++ more) s' ∧ f s' x = .error e ∧
          todo.foldlM f s = .error e := by
    intro todo
    induction todo with
    | nil => intro done s h; exact .inl ⟨s, rfl, by rwa [List.append_nil]⟩
    | cons x rest ih =>
        intro done s h
        rw [List.foldlM_cons]
        cases hx : f s x with
        | error e => exact .inr ⟨[], x, rest, s, e, rfl, by rwa [List.append_nil], hx, rfl⟩
        | ok s₁ =>
            rw [List.append_cons]
            rcases ih (done ++ [x]) s₁ (hstep done x s s₁ h hx) with hok | herror
            · exact .inl hok
            · obtain ⟨more, y, rest', s', e, rfl, hmore, hy, hfold⟩ := herror
              refine .inr ⟨x :: more, y, rest', s', e, rfl, ?_, hy, hfold⟩
              rwa [List.append_cons]
  exact hfrom xs [] s hstart

theorem foldlM_keeps {σ : Type} {f : σ → α → Except ε σ} {P : List α → σ → Prop} {s s' : σ}
    {xs : List α} (hstart : P [] s)
    (hstep : ∀ done x s s', P done s → f s x = .ok s' → P (done ++ [x]) s')
    (h : xs.foldlM f s = .ok s') : P xs s' := by
  rcases foldlM_cases hstart hstep xs with ⟨s₁, hok, hP⟩ | ⟨-, -, -, -, e, -, -, -, herror⟩
  · rw [hok] at h
    cases h
    exact hP
  · rw [herror] at h
    cases h

/-- Two loops over the same items stay related if each step of the first can be taken by the second. -/
theorem foldlM_related {σ τ : Type} {f : σ → α → Except ε σ} {g : τ → α → Except ε τ}
    {R : σ → τ → Prop}
    (hstep : ∀ x s t s', R s t → f s x = .ok s' → ∃ t', g t x = .ok t' ∧ R s' t') {xs : List α} :
    ∀ {s : σ} {t : τ} {s' : σ}, R s t → xs.foldlM f s = .ok s' →
      ∃ t', xs.foldlM g t = .ok t' ∧ R s' t' := by
  induction xs with
  | nil =>
      intro s t s' hR h
      cases h
      exact ⟨t, rfl, hR⟩
  | cons x rest ih =>
      intro s t s' hR h
      obtain ⟨s₁, hfirst, hrest⟩ := bind_eq_ok.mp h
      obtain ⟨t₁, hfirst', hR₁⟩ := hstep x s t s₁ hR hfirst
      obtain ⟨t', hrest', hR'⟩ := ih hR₁ hrest
      exact ⟨t', bind_eq_ok.mpr ⟨t₁, hfirst', hrest'⟩, hR'⟩

end Reckon.Failing
