/-
# TypeGloss.Proofs.Resolution.Cycle — the guard holds what is being expanded

A resolution keeps the types that are being expanded in a guard, which is part of its
state: it is changed when an expansion begins and ends, and everything in between may
fail. The types that are really being expanded where a type is met are another matter:
they are the *frames* of the recursion, one for every expansion that encloses the place.

`watched` is a resolution that is told its frames and passes them on, so it does not need
the guard: a type is left as a reference exactly if it is one of the frames. Besides it
calls a watch with the frames wherever a type is met and wherever an expansion begins.
`Watch.IsSilent` says that the watch does nothing where the guard holds exactly the
frames, each once; anywhere else it may do what it likes.

`resolve_guard_eq_frames`: a silent watch is never heard. So wherever a type is met the
guard is exactly the frames, no type is twice among them, a type is left as a reference
because of a cycle exactly if one of the expansions around it is of that type, and what
was done beside it makes no difference. In the end the guard is empty, also after a
failure.
-/
import TypeGloss.Proofs.Resolution.Depth

namespace TypeGloss

set_option autoImplicit false

/-! ## Resolutions that know their frames -/

/-- What is done where a type is met or expanded, given the types that are being
expanded there. -/
abbrev Watch := List TypeId → ResolveM Unit

/-- A watch that does nothing where the guard holds exactly the frames, each once. -/
def Watch.IsSilent (watch : Watch) : Prop :=
  ∀ (frames : List TypeId) (resolution : Resolution),
    resolution.guard.active = frames → frames.Nodup →
      (watch frames).run.run resolution = (.ok (), resolution)

namespace Resolution

/-- The documentation tree of a type that is met inside the given expansions. Whether it
is expanded is decided by these and not by the guard, which is kept for the watch. -/
def watched (watch : Watch) (plan : Plan) : Nat → List TypeId → Builder.Below
  | 0, frames, t, enclosing => do
      watch frames
      visit plan (fun _ _ context => return context.reference) t enclosing
  | fewer + 1, frames, t, enclosing => do
      watch frames
      visit plan (fun t category context =>
        if t ∈ frames then return context.reference
        else
          ResolveM.expanding t fun _ => do
            watch (t :: frames)
            Builder.expanded plan (watched watch plan fewer (t :: frames)) t category context)
        t enclosing

end Resolution

/-! ## Comparison under a guard -/

/-- Runs compared where the guard is the given one: they are the same, and leave the
guard as it is. -/
def Comparison.atGuard (guard : CycleGuard TypeId) : Comparison where
  follows P x y := ∀ resolution, resolution.guard = guard →
    y.run.run resolution = x.run.run resolution ∧ (after x resolution).guard = guard ∧
      ∀ a, outcome x resolution = .ok a → P a
  done holds := by
    intro resolution guarded
    refine ⟨rfl, guarded, fun a returned => ?_⟩
    cases returned
    exact holds
  andThen {α β P Q x y f g} first rest := by
    intro resolution guarded
    obtain ⟨same, kept, holds⟩ := first resolution guarded
    have sameOutcome : outcome y resolution = outcome x resolution := congrArg Prod.fst same
    have sameAfter : after y resolution = after x resolution := congrArg Prod.snd same
    rw [run_bind, run_bind, sameOutcome, sameAfter]
    cases returned : outcome x resolution with
    | error fault =>
        refine ⟨rfl, by rw [after_bind_error returned]; exact kept, fun b impossible => ?_⟩
        simp [outcome_bind_error returned] at impossible
    | ok a =>
        rw [after_bind_ok returned, outcome_bind_ok returned]
        exact rest a (holds a returned) (after x resolution) kept
  asked _ := fun _ guarded => ⟨rfl, guarded, fun _ _ => trivial⟩

namespace CycleGuard

variable {α : Type} [DecidableEq α]

theorem enter_of_mem {guard : CycleGuard α} {identity : α} (present : identity ∈ guard.active) :
    guard.enter identity = (false, guard) := by
  simp [enter, contains, present]

theorem enter_of_not_mem {guard : CycleGuard α} {identity : α}
    (absent : identity ∉ guard.active) :
    guard.enter identity = (true, ⟨identity :: guard.active⟩) := by
  simp [enter, contains, absent]

/-- Leaving what was just entered gives the guard back as it was before. -/
theorem close_cons {identity : α} {active : List α} (absent : identity ∉ active) :
    close ⟨identity :: active⟩ identity true = ⟨active⟩ := by
  have others : ∀ other ∈ active, other ≠ identity := fun other member same =>
    absent (same ▸ member)
  simpa [close, leave] using others

end CycleGuard

namespace Resolution

/-- A silent watch that is called where the guard is the frames can be left out. -/
theorem run_watch_bind {watch : Watch} (silent : watch.IsSilent) {frames : List TypeId}
    (distinct : frames.Nodup) {α : Type} (next : ResolveM α) {resolution : Resolution}
    (guarded : resolution.guard = ⟨frames⟩) :
    (watch frames >>= fun _ => next).run.run resolution = next.run.run resolution := by
  have quiet := silent frames resolution (by rw [guarded]) distinct
  have outcomeQuiet : outcome (watch frames) resolution = .ok () := congrArg Prod.fst quiet
  have afterQuiet : after (watch frames) resolution = resolution := congrArg Prod.snd quiet
  rw [run_bind, outcomeQuiet, afterQuiet]

/-- A bracket enters the type, runs the computation inside it, and leaves the type if it
was entered. -/
theorem run_expanding {α : Type} (t : TypeId) (body : Bool → ResolveM α)
    (resolution : Resolution) {entered : Bool} {guard : CycleGuard TypeId}
    (enters : resolution.guard.enter t = (entered, guard)) :
    (ResolveM.expanding t body).run.run resolution =
      (outcome (body entered) { resolution with guard },
        { after (body entered) { resolution with guard } with
          guard := (after (body entered) { resolution with guard }).guard.close t entered }) := by
  obtain rfl : (resolution.guard.enter t).1 = entered := by rw [enters]
  obtain rfl : (resolution.guard.enter t).2 = guard := by rw [enters]
  rfl

/-- An expansion that is decided by the guard is decided by the frames. -/
theorem expanding_follows {frames : List TypeId} {bound : Nat} (t : TypeId) (context : Context)
    {first second : ResolveM Node}
    (inside : t ∉ frames →
      (Comparison.atGuard ⟨t :: frames⟩).follows (Node.Shallow bound) first second) :
    (Comparison.atGuard ⟨frames⟩).follows (Node.Shallow bound)
      (ResolveM.expanding t fun entered =>
        if entered = true then first else return context.reference)
      (if t ∈ frames then return context.reference
        else ResolveM.expanding t fun _ => second) := by
  intro resolution guarded
  obtain ⟨checker, guard⟩ := resolution
  obtain rfl : guard = ⟨frames⟩ := guarded
  by_cases cyclic : t ∈ frames
  · have run := run_expanding t
      (fun entered => if entered = true then first else return context.reference)
      ⟨checker, ⟨frames⟩⟩ (CycleGuard.enter_of_mem cyclic)
    rw [if_pos cyclic]
    refine ⟨run.symm, congrArg (fun result => result.2.guard) run, fun node returned => ?_⟩
    cases (congrArg Prod.fst run).symm.trans returned
    exact context.shallow_reference bound
  · obtain ⟨same, kept, holds⟩ := inside cyclic ⟨checker, ⟨t :: frames⟩⟩ rfl
    have run (body : Bool → ResolveM Node) := run_expanding t body ⟨checker, ⟨frames⟩⟩
      (CycleGuard.enter_of_not_mem cyclic)
    have sameOutcome := congrArg Prod.fst same
    have sameAfter := congrArg Prod.snd same
    rw [if_neg cyclic]
    refine ⟨?_, ?_, fun node returned => ?_⟩
    · rw [run, run]
      exact congrArg₂ (fun result later => (result, { later with
        guard := later.guard.close t true })) sameOutcome sameAfter
    · refine (congrArg (fun result => result.2.guard) (run _)).trans ?_
      exact (congrArg (fun guard => guard.close t true) kept).trans (CycleGuard.close_cons cyclic)
    · exact holds node ((congrArg Prod.fst (run _)).symm.trans returned)

/-- Under a guard that holds the frames, a watched resolution runs like one that is not,
and the guard is the same afterwards. -/
theorem resolve_follows_watched {watch : Watch} (silent : watch.IsSilent) (plan : Plan)
    (remaining : Nat) {frames : List TypeId} (distinct : frames.Nodup) (t : TypeId)
    (enclosing : Option Declaration) :
    (Comparison.atGuard ⟨frames⟩).follows (Node.MaybeShallow remaining)
      (resolve plan remaining t enclosing)
      (watched watch plan remaining frames t enclosing) := by
  -- By induction on what may still be nested: the frames grow as it decreases.
  induction remaining generalizing frames t enclosing with
  | zero =>
      have leaves := visit_follows (.atGuard ⟨frames⟩) plan
        (fun _ _ context => (Comparison.atGuard ⟨frames⟩).done (context.shallow_reference 0))
        t enclosing
      intro resolution guarded
      rw [watched, run_watch_bind silent distinct _ guarded]
      exact leaves resolution guarded
  | succ fewer ih =>
      intro resolution guarded
      rw [watched, run_watch_bind silent distinct _ guarded]
      refine visit_follows (.atGuard ⟨frames⟩) plan (fun t category context => ?_) t enclosing
        resolution guarded
      refine expanding_follows t context fun absent => ?_
      have distinctInside : (t :: frames).Nodup := List.nodup_cons.2 ⟨absent, distinct⟩
      intro inside guardedInside
      rw [run_watch_bind silent distinctInside _ guardedInside]
      exact Builder.expanded_follows _ (fun t enclosing => ih distinctInside t enclosing) plan t
        category context inside guardedInside

/-- The guard of a resolution is always exactly the frames, each once: a watch that is
silent as long as this is so is never heard, and deciding by the frames is deciding by
the guard. When a resolution ends, also by a failure, its guard is empty. -/
theorem resolve_guard_eq_frames (watch : Watch) (silent : watch.IsSilent) (plan : Plan)
    (remaining : Nat) (t : TypeId) (enclosing : Option Declaration) (state : State) :
    (watched watch plan remaining [] t enclosing).run.run { checker := state } =
        (resolve plan remaining t enclosing).run.run { checker := state } ∧
      (after (resolve plan remaining t enclosing) { checker := state }).guard = {} := by
  obtain ⟨same, kept, -⟩ :=
    resolve_follows_watched silent plan remaining List.nodup_nil t enclosing
      { checker := state } rfl
  exact ⟨same, kept⟩

/-- A watch that fails wherever the guard is not the frames or a frame is there twice. -/
def alarm : Watch := fun frames => do
  let resolution ← getThe Resolution
  if resolution.guard.active = frames ∧ frames.Nodup then return ()
  else throw .foreignHandle

theorem alarm_isSilent : alarm.IsSilent := by
  intro frames resolution guarded distinct
  have calm : resolution.guard.active = frames ∧ frames.Nodup := ⟨guarded, distinct⟩
  change (if resolution.guard.active = frames ∧ frames.Nodup then pure () else
    throw .foreignHandle : ResolveM Unit).run.run resolution = _
  rw [if_pos calm]
  rfl

/-- Three arrays in a circle: the alarm is not raised, the third array's element is the
first array again and is a reference, and the guard is empty in the end. -/
theorem resolve_guard_eq_frames_arraysInCircle :
    alarm.IsSilent ∧
      (∃ first second third fourth : Header,
        outcome (resolve ⟨{}, fun _ => true⟩ 5 0 none) { checker := arraysInCircle } =
          .ok (some (.array first (.array second (.array third (.reference fourth)))))) ∧
      (watched alarm ⟨{}, fun _ => true⟩ 5 [] 0 none).run.run { checker := arraysInCircle } =
          (resolve ⟨{}, fun _ => true⟩ 5 0 none).run.run { checker := arraysInCircle } ∧
        (after (resolve ⟨{}, fun _ => true⟩ 5 0 none) { checker := arraysInCircle }).guard = {} :=
  ⟨alarm_isSilent, ⟨_, _, _, _, rfl⟩,
    resolve_guard_eq_frames alarm alarm_isSilent ⟨{}, fun _ => true⟩ 5 0 none arraysInCircle⟩

end Resolution

end TypeGloss
