/-
# TypeGloss.Proofs.Checker.Sources — the sources of a checker

Whatever a checker has been through, each of its sources stands under its own path and has
the scope that is read from its tree, and its tree is the last one that was registered under
that path (`root_through`). So what a checker can find in its sources is known from what was
registered last under each path: neither the order nor what was replaced matters
(`agrees_of_latestRoot`).
-/
import TypeGloss.Proofs.Lookup.Agreement
import TypeGloss.Proofs.Lookup.Graph
import TypeGloss.Proofs.Resolution.History

namespace TypeGloss

set_option autoImplicit false

namespace Program.IsRegistered

theorem start (identity : Nat) (settings : SourceSettings) :
    Program.IsRegistered { identity, settings } := by
  constructor <;> intro path source found <;> simp [Entries.find?] at found

theorem addSource {s : State} (registered : s.toProgram.IsRegistered) (path : String)
    (root : Tree) : (Checker.addSource path root s).2.toProgram.IsRegistered := by
  constructor <;> intro other source found <;>
    simp only [Checker.addSource, Entries.find?_put] at found <;> split at found
  · next same =>
      cases found
      exact same.symm
  · exact registered.path found
  · cases found
    rfl
  · exact registered.scope found

theorem apply {s : State} (registered : s.toProgram.IsRegistered) (event : Event) :
    (event.apply s).toProgram.IsRegistered := by
  cases event with
  | asked x operation =>
      rw [Event.apply, (operation.steady.first s).program]
      exact registered
  | added path root => exact registered.addSource path root

theorem through {s : State} (registered : s.toProgram.IsRegistered) (history : List Event) :
    (s.through history).toProgram.IsRegistered := by
  induction history generalizing s with
  | nil => exact registered
  | cons event rest ih => exact ih (registered.apply event)

end Program.IsRegistered

/-- The sources that a checker can come to have stand under their paths. -/
theorem State.registered (identity : Nat) (settings : SourceSettings) (history : List Event) :
    (State.through { identity, settings } history).toProgram.IsRegistered :=
  (Program.IsRegistered.start identity settings).through history

/-! ## The latest tree of a path -/

/-- The tree that an event registers under a path. -/
def Event.root? (path : String) : Event → Option Tree
  | asked _ _ => none
  | added other root => if path = Path.normalize other then some root else none

/-- The tree that a history registers last under a path. -/
def latestRoot? (history : List Event) (path : String) : Option Tree :=
  history.foldl (fun known event => (event.root? path).or known) none

/-- After one event the root of a path is that of the event, if it is about this path. -/
theorem Event.root_apply (s : State) (event : Event) (path : String) :
    (Entries.find? path (event.apply s).sources).map Source.root =
      (event.root? path).or ((Entries.find? path s.sources).map Source.root) := by
  cases event with
  | asked x operation =>
      rw [Event.apply, show (after x s).sources = s.sources from
        congrArg Program.sources (operation.steady.first s).program]
      rfl
  | added other root =>
      simp only [Event.apply, Checker.addSource, Event.root?, Entries.find?_put]
      split <;> rfl

/-- After a history each path has the tree that was registered last. -/
theorem State.root_through (identity : Nat) (settings : SourceSettings) (history : List Event)
    (path : String) :
    (Entries.find? path (State.through { identity, settings } history).sources).map Source.root =
      latestRoot? history path := by
  have onwards (s : State) (known : Option Tree)
      (start : (Entries.find? path s.sources).map Source.root = known) :
      (Entries.find? path (s.through history).sources).map Source.root =
        history.foldl (fun known event => (event.root? path).or known) known := by
    induction history generalizing s known with
    | nil => exact start
    | cons event rest ih =>
        refine ih (event.apply s) _ ?_
        rw [Event.root_apply, start]
  exact onwards { identity, settings } none rfl

theorem State.settings_through (s : State) (history : List Event) :
    (s.through history).settings = s.settings := by
  induction history generalizing s with
  | nil => rfl
  | cons event rest ih =>
      refine (ih (event.apply s)).trans ?_
      cases event with
      | asked x operation => exact congrArg Program.settings (operation.steady.first s).program
      | added path root => rfl

/-- A source is known from its path and its tree. -/
theorem Program.IsRegistered.eq_of_root {program other : Program} {path : String}
    {source source' : Source} (registered : program.IsRegistered)
    (registered' : other.IsRegistered)
    (found : Entries.find? path program.sources = some source)
    (found' : Entries.find? path other.sources = some source')
    (sameRoot : source'.root = source.root) : source' = source := by
  have samePath := (registered'.path found').trans (registered.path found).symm
  have sameScope : source'.scope = source.scope := by
    rw [registered'.scope found', registered.scope found, sameRoot]
  obtain ⟨path, root, scope⟩ := source
  obtain ⟨path', root', scope'⟩ := source'
  simp only at samePath sameRoot sameScope
  rw [samePath, sameRoot, sameScope]

/-- Checkers with equal settings agree if the same tree was registered last under each
path. -/
theorem State.agrees_of_latestRoot {settings : SourceSettings} {history later : List Event}
    (same : ∀ path, latestRoot? later path = latestRoot? history path)
    (identity identity' : Nat) :
    (State.through { identity, settings } history).toProgram.Agrees
      (State.through { identity := identity', settings } later).toProgram where
  settings := by rw [State.settings_through, State.settings_through]
  sources path := by
    have registered := State.registered identity settings history
    have registered' := State.registered identity' settings later
    have roots := same path
    rw [← State.root_through identity' settings, ← State.root_through identity settings] at roots
    cases found : Entries.find? path (State.through { identity, settings } history).sources with
    | none =>
        rw [found, Option.map_none, Option.map_eq_none_iff] at roots
        exact roots
    | some source =>
        rw [found, Option.map_some, Option.map_eq_some_iff] at roots
        obtain ⟨source', found', sameRoot⟩ := roots
        rw [found', registered.eq_of_root registered' found found' sameRoot]

end TypeGloss
