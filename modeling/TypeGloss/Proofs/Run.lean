/-
# TypeGloss.Proofs.Run — runs of computations that may fail

Checkers and resolutions are computations with a state that survives a failure. A run
yields an outcome and the state it leaves; `outcome` and `after` name the two. A run of
one computation after another is the run of the first, followed by that of the second if
the first did not fail.
-/
import TypeGloss.Resolution.Context

namespace TypeGloss

set_option autoImplicit false

section Runs

variable {σ α β : Type}

/-- A computation with a state, which may fail. -/
abbrev Computation (σ α : Type) := ExceptT Fault (StateM σ) α

/-- What a run yields: a result or a fault. -/
def outcome (x : Computation σ α) (s : σ) : Result α := (x.run.run s).1

/-- The state that a run leaves, whether or not it fails. -/
def after (x : Computation σ α) (s : σ) : σ := (x.run.run s).2

/-- A computation stops at a fault; else the next one goes on from the state that is left. -/
theorem run_bind (x : Computation σ α) (f : α → Computation σ β) (s : σ) :
    (x >>= f).run.run s =
      match outcome x s with
      | .ok a => (f a).run.run (after x s)
      | .error fault => (.error fault, after x s) := by
  simp only [outcome, after, ExceptT.run_bind, StateT.run_bind]
  cases x.run.run s with
  | mk result middle => cases result <;> rfl

/-- After a first step that succeeds, a run is the run of the rest. -/
theorem run_bind_ok {x : Computation σ α} {f : α → Computation σ β} {s middle : σ} {a : α}
    (first : x.run.run s = (.ok a, middle)) : (x >>= f).run.run s = (f a).run.run middle := by
  rw [run_bind, outcome, after, first]

/-- After a first step that succeeds, the outcome is that of the rest. -/
theorem outcome_bind_ok {x : Computation σ α} {f : α → Computation σ β} {s : σ} {a : α}
    (first : outcome x s = .ok a) : outcome (x >>= f) s = outcome (f a) (after x s) := by
  rw [outcome, run_bind, first]
  rfl

theorem after_bind_ok {x : Computation σ α} {f : α → Computation σ β} {s : σ} {a : α}
    (first : outcome x s = .ok a) : after (x >>= f) s = after (f a) (after x s) := by
  rw [after, run_bind, first]
  rfl

/-- After a first step that fails, the outcome is its fault. -/
theorem outcome_bind_error {x : Computation σ α} {f : α → Computation σ β} {s : σ}
    {fault : Fault} (first : outcome x s = .error fault) :
    outcome (x >>= f) s = .error fault := by
  rw [outcome, run_bind, first]

/-- After a first step that fails, the state is the one that it left. -/
theorem after_bind_error {x : Computation σ α} {f : α → Computation σ β} {s : σ}
    {fault : Fault} (first : outcome x s = .error fault) : after (x >>= f) s = after x s := by
  rw [after, run_bind, first]

/-- A run that returns consists of a first run that returns and a second one. -/
theorem outcome_bind_eq_ok {x : Computation σ α} {f : α → Computation σ β} {s : σ} {b : β}
    (returned : outcome (x >>= f) s = .ok b) :
    ∃ a, outcome x s = .ok a ∧ outcome (f a) (after x s) = .ok b := by
  cases first : outcome x s with
  | error fault => simp [outcome_bind_error first] at returned
  | ok a => exact ⟨a, rfl, outcome_bind_ok first ▸ returned⟩

/-- If what follows fails wherever something else fails, it does so behind the same
beginning. -/
theorem outcome_bind_error_of {x : Computation σ α} {f : α → Computation σ β}
    {γ : Type} {g : α → Computation σ γ} {s : σ} {fault : Fault}
    (rest : ∀ a s, outcome (f a) s = .error fault → outcome (g a) s = .error fault)
    (failed : outcome (x >>= f) s = .error fault) : outcome (x >>= g) s = .error fault := by
  cases first : outcome x s with
  | error other =>
      rw [outcome_bind_error first] at failed
      cases failed
      exact outcome_bind_error first
  | ok a =>
      rw [outcome_bind_ok first] at failed ⊢
      exact rest a _ failed

end Runs

end TypeGloss
