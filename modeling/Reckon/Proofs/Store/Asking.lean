/-
Evaluation asks the storage and does nothing else to it.

`eval` is given the answers of a storage as a function, so there is nothing that it could change.  Here
the storage is an object with a state of its own, which is asked for one name after the other while the
evaluation goes on, and which may be another one after each answer.  What an evaluation leaves behind is
then a question, also for one that fails halfway.  If the storage does not change when it is asked, the
evaluation comes to what `eval` comes to, and the storage is the one that it began with.
-/
import Reckon.Outcome
import Reckon.Proofs.Worlds

namespace Reckon

/-- The world in which a storage with a state is asked, and in which a rule does nothing but respond. -/
def World.asking {σ : Type} (ask : Text → StateM σ (Option Value)) : World (Asking σ) where
  ask name := liftM (ask name)
  call rule args := pure (rule.call args)

/-- A storage that does not change when it is asked is not changed by evaluation. -/
theorem Expr.run_evalIn_asking {σ : Type} {o : Options} {ask : Text → StateM σ (Option Value)}
    {get : Text → Option Value} {s : σ} (hask : ∀ name, (ask name).run s = (get name, s)) (e : Expr) :
    (e.evalIn o (.asking ask)).run.run s = (e.eval o get, s) := by
  have hanswer : ∀ name, (Coupling.leaving s).Alike (fun _ => True)
      ((World.asking ask).ask name) ((World.answering get).ask name) := by
    intro name
    refine ⟨?_, fun _ _ => trivial⟩
    show (Except.ok <$> ask name).run s = (Except.ok (get name), s)
    rw [StateT.run_map, hask]
    rfl
  have halike : (Coupling.leaving s).Alike (fun _ => True) (e.evalIn o (.asking ask))
      (e.evalIn o (.answering get)) := by
    refine evalIn_alike _ (fun site rule args _ => ?_) e (fun _ _ => trivial) fun name _ => ?_
    · refine Coupling.bind _ (P := fun _ => True) ⟨rfl, fun _ _ => trivial⟩ fun response _ => ?_
      exact Coupling.ofExcept _ fun _ _ => trivial
    · exact Coupling.bind _ (hanswer name) fun answer _ => Coupling.ofExcept _ fun _ _ => trivial
  exact halike.1

/-! ### Equations and stores -/

/-- The outcome of an equation, where the storage is asked whenever a variable is met. -/
def Equation.evaluateIn {σ : Type} (e : Equation) (ask : Text → StateM σ (Option Value)) :
    StateM σ (Except Fault Quantity) :=
  (·.mapError Fault.eval) <$> (e.root.evalIn e.options (.asking ask)).run

/-- A store is asked for the value of a name. -/
def Store.ask (name : Text) : StateM Store (Option Value) := do
  return (← get).get? name

/-- Evaluating an equation leaves a store as it was. -/
theorem Equation.evaluateIn_store (e : Equation) (s : Store) :
    (e.evaluateIn Store.ask).run s = (e.evaluate s.get?, s) := by
  have hask : ∀ name, (Store.ask name).run s = (s.get? name, s) := fun _ => rfl
  rw [evaluateIn, StateT.run_map, e.root.run_evalIn_asking hask]
  rfl

end Reckon
