/-
# TypeGloss.CycleGuard — what is being expanded

A guard holds the identities of the types that are being expanded. `enter` takes
an identity in, unless it is there; `leave` lets it go, whether or not it is there.

A bracket around an expansion enters when it opens, and when it closes it leaves
only if the entering took place. An `Event` is what can happen to a guard and its
open brackets, and `History.run` lets events happen one after the other.
-/
import TypeGloss.Value

namespace TypeGloss

set_option autoImplicit false

/-- An identity that is given as a plain value. Numbers of one amount are one
identity, and a truth value counts as zero or one. -/
inductive Identity where
  | whole (n : Int)
  | fraction (bits : UInt64)
  | text (s : String)
  | nothing
  deriving Repr, DecidableEq

def Identity.ofValue : Value → Identity
  | .integer n => whole n
  | .flag b => whole (if b then 1 else 0)
  | .number x => (Number.toInteger? x).elim (fraction x.toBits) whole
  | .text s => text s
  | _ => nothing

/-- Identities being expanded, the latest first, each once. -/
structure CycleGuard (α : Type) where
  active : List α := []
  deriving Repr, DecidableEq

namespace CycleGuard

variable {α : Type} [DecidableEq α]

def contains (guard : CycleGuard α) (identity : α) : Bool :=
  guard.active.contains identity

def size (guard : CycleGuard α) : Nat := guard.active.length

/-- Take an identity in; false if it is there already. -/
def enter (guard : CycleGuard α) (identity : α) : Bool × CycleGuard α :=
  if guard.contains identity then (false, guard) else (true, ⟨identity :: guard.active⟩)

def leave (guard : CycleGuard α) (identity : α) : CycleGuard α :=
  ⟨guard.active.filter (· ≠ identity)⟩

/-- Close a bracket: an identity that its opening took in is let go. -/
def close (guard : CycleGuard α) (identity : α) (entered : Bool) : CycleGuard α :=
  if entered then guard.leave identity else guard

/-- What can happen to a guard. A bracket is closed in the same way whether what
it encloses ended or failed. -/
inductive Event (α : Type) where
  | enter (identity : α)
  | leave (identity : α)
  | contains (identity : α)
  | openBracket (identity : α)
  | closeBracket

/-- A guard with the brackets that are open, the innermost first. -/
structure History (α : Type) where
  guard : CycleGuard α := {}
  brackets : List (α × Bool) := []

/-- One event: its answer, if it has any, and what it leaves. -/
def History.step (history : History α) : Event α → Result (Option Bool × History α)
  | .enter identity =>
      let (entered, guard) := history.guard.enter identity
      .ok (some entered, { history with guard })
  | .leave identity => .ok (none, { history with guard := history.guard.leave identity })
  | .contains identity => .ok (some (history.guard.contains identity), history)
  | .openBracket identity =>
      let (entered, guard) := history.guard.enter identity
      .ok (some entered, ⟨guard, (identity, entered) :: history.brackets⟩)
  | .closeBracket =>
      match history.brackets with
      | (identity, entered) :: outer =>
          .ok (some false, ⟨history.guard.close identity entered, outer⟩)
      | [] => .error .emptySequence

/-- The answers of events one after the other, each with the size after it. -/
def History.run (history : History α) : List (Event α) → Result (List (Option Bool × Nat))
  | [] => .ok []
  | event :: rest => do
      let (answer, after) ← history.step event
      return (answer, after.guard.size) :: (← after.run rest)

end CycleGuard

end TypeGloss
