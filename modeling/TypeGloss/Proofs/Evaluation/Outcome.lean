/-
# TypeGloss.Proofs.Evaluation.Outcome — what an evaluation comes to

The evaluation of an expression comes to a value, or it is unresolved, or it fails.
`Gives x a` says that `x` comes to `a`. What is put together from evaluations comes to a
value only if every part that was needed does, and the lemmas here say so once for every
way of putting evaluations together: an unresolved part is never mended.
-/
import Mathlib.Data.List.Forall2
import TypeGloss.Evaluation.Expression

namespace TypeGloss

set_option autoImplicit false

variable {α β : Type}

/-- What is returned in the end was made of what was returned before. -/
theorem Result.bind_eq_ok {x : Except Fault α} {f : α → Except Fault β} {b : β} :
    x >>= f = .ok b ↔ ∃ a, x = .ok a ∧ f a = .ok b := by
  cases x with
  | error fault => exact iff_of_false nofun nofun
  | ok a =>
      refine ⟨fun returned => ⟨a, rfl, returned⟩, ?_⟩
      rintro ⟨_, ⟨⟩, returned⟩
      exact returned

namespace Evaluation

/-- The evaluation comes to this value. -/
def Gives (x : Evaluation α) (a : α) : Prop :=
  x.run = .ok (some a)

@[simp] theorem gives_pure {a b : α} : Gives (pure a) b ↔ a = b := by
  simp only [Gives, OptionT.run_pure]
  simp [pure, Except.pure]

@[simp] theorem not_gives_unresolved {a : α} : ¬ Gives unresolved a := by
  simp [Gives, unresolved, ofOption]

@[simp] theorem gives_ofOption {found : Option α} {a : α} :
    Gives (ofOption found) a ↔ found = some a := by
  simp [Gives, ofOption]

@[simp] theorem gives_ofResult {result : Result α} {a : α} :
    Gives (ofResult result) a ↔ result = .ok a := by
  cases result <;> simp [Gives, ofResult, Functor.map, Except.map]

/-- One evaluation after another comes to a value if both do. -/
@[simp] theorem gives_bind {x : Evaluation α} {f : α → Evaluation β} {b : β} :
    Gives (x >>= f) b ↔ ∃ a, Gives x a ∧ Gives (f a) b := by
  simp only [Gives, OptionT.run_bind]
  cases x.run with
  | error fault => simp [Option.elimM, bind, Except.bind]
  | ok found => cases found <;> simp [Option.elimM, bind, Except.bind, pure, Except.pure]

@[simp] theorem gives_map {f : α → β} {x : Evaluation α} {b : β} :
    Gives (f <$> x) b ↔ ∃ a, Gives x a ∧ f a = b := by
  rw [map_eq_pure_bind]
  simp only [gives_bind, gives_pure]

/-- Every item has a value of its own. -/
theorem gives_mapM {f : α → Evaluation β} {items : List α} {values : List β} :
    Gives (items.mapM f) values ↔
      List.Forall₂ (fun item value => Gives (f item) value) items values := by
  induction items generalizing values with
  | nil => simp [eq_comm]
  | cons item rest ih =>
      simp only [List.mapM_cons, gives_bind, gives_pure, ih, List.forall₂_cons_left_iff]
      constructor
      · rintro ⟨value, here, more, there, rfl⟩
        exact ⟨value, more, here, there, rfl⟩
      · rintro ⟨value, more, here, there, rfl⟩
        exact ⟨value, here, more, there, rfl⟩

@[simp] theorem unresolved_bind (f : α → Evaluation β) : (unresolved >>= f) = unresolved := rfl

@[simp] theorem ofResult_ok_bind (a : α) (f : α → Evaluation β) :
    (ofResult (.ok a) >>= f) = f a := rfl

/-- An evaluation is unresolved, comes to a value, or fails. -/
theorem cases_outcome (x : Evaluation α) :
    x = unresolved ∨ (∃ a, x = pure a) ∨ ∃ fault, x = ofResult (.error fault) :=
  match (x : Except Fault (Option α)) with
  | .ok none => .inl rfl
  | .ok (some a) => .inr (.inl ⟨a, rfl⟩)
  | .error fault => .inr (.inr ⟨fault, rfl⟩)

end Evaluation

namespace Expression

open Evaluation

theorem absentOr_eq (below : Tree → Evaluation Value) (t : Option Tree) :
    absentOr below t = ofOption t >>= below := by
  cases t <;> rfl

/-- The initializer that a context has for a name. -/
def Context.find (context : Context) (name : String) : Evaluation Tree :=
  match context.lookup with
  | none => unresolved
  | some find => ofResult (find name) >>= ofOption

/-- A name that means neither a constant nor something built in is the value of its
initializer, and unresolved while that is being evaluated. -/
theorem name_eq (context : Context) (resolving : List String) (below : Below) (name : String) :
    Expression.name context resolving below name =
      if name = "undefined" then unresolved
      else if name = "NaN" then pure .nan
      else if name = "Infinity" then pure (.number (1.0 / 0.0))
      else
        match Entries.find? name context.constants with
        | some value => pure value
        | none =>
            if resolving.contains name then unresolved
            else context.find name >>= below (name :: resolving) := by
  simp only [Expression.name, Context.find]
  cases Entries.find? name context.constants with
  | some value => rfl
  | none =>
      cases context.lookup with
      | none => simp
      | some find => simp only [absentOr_eq, bind_assoc]

end Expression

end TypeGloss
