/-
# TypeGloss.Proofs.Resolution.Stability — a tree that was made is made again

Every question to the checker is steady: an answer that is given is given again, from any
state that extends the one in which the first answer has left the checker. Documentation
trees are made of such answers, and of the guard against cycles, which is as it was
before. So a tree that was made once is made again, whatever else was asked meanwhile
(`resolveType_steady`, `resolveDeclaration_steady`).
-/
import TypeGloss.Proofs.Checker.Memory
import TypeGloss.Proofs.Resolution.Cycle

namespace TypeGloss

set_option autoImplicit false

/-! ## Questions -/

namespace Checker

theorem partOf?_steady (categories : List Category) (t : TypeId) (part : Part) :
    Steady (partOf? categories t part) (partOf? categories t part) := by
  refine (Check.category_steady t).bind fun category => ?_
  split
  · exact Answer.reliable_ask.load? t part
  · exact .pure none

theorem own_timeless (handle : Handle) : Timeless (own handle) := by
  refine Check.program_timeless.bind fun program => ?_
  split
  · exact .pure _
  · exact .throw _

theorem source_timeless (path : String) : Timeless (source path) := by
  refine Check.program_timeless.bind fun program => ?_
  split
  · exact .pure _
  · exact .throw _

theorem visible?_timeless (source : Source) (name : String) (space : Lookup.Space) :
    Timeless (visible? source name space) := by
  refine (Lookup.lookup_timeless source name space).bind fun found => ?_
  split
  · exact .pure _
  · exact Lookup.lookupExport_timeless source name space

theorem meaning?_timeless (source : Source) (name : String) :
    Timeless (meaning? source name) := by
  refine (visible?_timeless source name .types).bind fun found => ?_
  split
  · exact .pure _
  · exact visible?_timeless source name .values

theorem declarationByName_timeless (path name : String) :
    Timeless (declarationByName path name) := by
  refine Check.program_timeless.bind fun program => ?_
  split
  · exact .throw _
  · refine (meaning?_timeless _ name).bind fun found => ?_
    split
    · exact .pure _
    · exact .throw _

theorem isExported_timeless (declaration : Declaration) :
    Timeless (isExported declaration) := by
  refine Check.program_timeless.bind fun program => ?_
  split
  · exact (Check.scopeOf_timeless _).bind fun _ => .pure _
  · exact .pure false

theorem typeLocation?_steady (t : TypeId) : Steady (typeLocation? t) (typeLocation? t) := by
  refine (Check.facts_steady t).bind fun r => ?_
  split
  · exact .pure _
  · exact .pure none

theorem constantAt?_timeless (declaration : Declaration) (name : String) :
    Timeless (constantAt? declaration name) :=
  Check.program_timeless.bind fun _ => Check.ofResult_timeless _

theorem defaultOf_timeless (declaration : Declaration) (initializer : Option Cursor)
    (patterns : List Cursor) : Timeless (defaultOf declaration initializer patterns) := by
  refine Timeless.bind ?_ fun evaluation => Check.ofResult_timeless _
  exact Check.program_timeless.bind fun _ => .pure _

end Checker

/-- Every answer to an inquiry is given again. -/
theorem Inquiry.steady {α : Type} {question : CheckM α} (inquiry : Inquiry question) :
    Steady question question := by
  have reliable := Answer.reliable_ask
  induction inquiry with
  | own handle => exact (Checker.own_timeless handle).steady
  | source path => exact (Checker.source_timeless path).steady
  | category t => exact Check.category_steady t
  | text t => exact reliable.text t
  | simplified t => exact reliable.simplified t
  | symbol t => exact (Check.facts_steady t).bind fun _ => .pure _
  | name t => exact (Check.facts_steady t).bind fun _ => .pure _
  | arguments t => exact (Check.facts_steady t).bind fun _ => .pure _
  | literalValue t => exact (Check.facts_steady t).bind fun _ => .pure _
  | primitive t => exact (Check.facts_steady t).bind fun _ => .pure _
  | unionMembers t => exact (Checker.partOf?_steady _ t .members).bind fun _ => .pure _
  | intersectionMembers t => exact (Checker.partOf?_steady _ t .members).bind fun _ => .pure _
  | element t => exact Checker.partOf?_steady _ t .element
  | tupleItems t => exact (Checker.partOf?_steady _ t .elements).bind fun _ => .pure _
  | enumMembers t => exact (Checker.partOf?_steady _ t .enumMembers).bind fun _ => .pure _
  | classMembers t => exact (Checker.partOf?_steady _ t .classMembers).bind fun _ => .pure _
  | properties t => exact reliable.properties t
  | indexes t => exact reliable.indexes t
  | calls t => exact (Checker.partOf?_steady _ t .calls).bind fun _ => .pure _
  | constructs t => exact (Checker.partOf?_steady _ t .constructs).bind fun _ => .pure _
  | isAnonymousObject t => exact (Check.facts_steady t).bind fun _ => .pure _
  | typeOfSymbol symbol => exact reliable.ofSymbol symbol
  | typeOfDeclaration declaration => exact reliable.ofDeclaration declaration
  | declarationByName path name => exact (Checker.declarationByName_timeless path name).steady
  | isExported declaration => exact (Checker.isExported_timeless declaration).steady
  | typeLocation t => exact Checker.typeLocation?_steady t
  | libraryLocation t => exact (Check.facts_steady t).bind fun _ => .pure _
  | constantAt declaration name => exact (Checker.constantAt?_timeless declaration name).steady
  | defaultOf declaration initializer patterns =>
      exact (Checker.defaultOf_timeless declaration initializer patterns).steady
  | done a => exact .pure a
  | failed fault => exact .throw fault
  | andThen first rest ih ihs => exact ih.bind ihs

/-! ## Resolutions -/

namespace CycleGuard

/-- Leaving what was entered gives the guard back, whether or not it was there before. -/
theorem close_enter (guard : CycleGuard TypeId) (t : TypeId) :
    (guard.enter t).2.close t (guard.enter t).1 = guard := by
  by_cases present : t ∈ guard.active
  · rw [enter_of_mem present]
    rfl
  · rw [enter_of_not_mem present]
    exact close_cons present

end CycleGuard

/-- A resolution that forgets nothing, leaves the guard as it was, and returns nothing but
what has a property. -/
structure Guarded {α : Type} (P : α → Prop) (x : ResolveM α) : Prop where
  extended : ∀ resolution : Resolution,
    resolution.checker.Extends (after x resolution).checker
  guard : ∀ resolution : Resolution, (after x resolution).guard = resolution.guard
  holds : ∀ {resolution : Resolution} {a : α}, outcome x resolution = .ok a → P a

namespace Guarded

variable {α β : Type} {P : α → Prop} {Q : β → Prop}

theorem pure {a : α} (holds : P a) : Guarded P (pure a) where
  extended resolution := .refl resolution.checker
  guard _ := rfl
  holds returned := by
    cases returned
    exact holds

theorem asked {question : CheckM α} (inquiry : Inquiry question) :
    Guarded (fun _ => True) (liftM question : ResolveM α) where
  extended resolution := inquiry.steady.first resolution.checker
  guard _ := rfl
  holds _ := trivial

theorem bind {x : ResolveM α} {f : α → ResolveM β} (first : Guarded P x)
    (rest : ∀ a, P a → Guarded Q (f a)) : Guarded Q (x >>= f) where
  extended resolution := by
    cases returned : outcome x resolution with
    | error fault =>
        rw [after_bind_error returned]
        exact first.extended resolution
    | ok a =>
        rw [after_bind_ok returned]
        exact (first.extended resolution).trans ((rest a (first.holds returned)).extended _)
  guard resolution := by
    cases returned : outcome x resolution with
    | error fault => rw [after_bind_error returned, first.guard]
    | ok a =>
        rw [after_bind_ok returned, (rest a (first.holds returned)).guard, first.guard]
  holds {resolution b} returned := by
    obtain ⟨a, before, last⟩ := outcome_bind_eq_ok returned
    exact (rest a (first.holds before)).holds last

theorem expanding {body : Bool → ResolveM α} (each : ∀ entered, Guarded P (body entered))
    (t : TypeId) : Guarded P (ResolveM.expanding t body) where
  extended resolution := (each _).extended { resolution with guard := (resolution.guard.enter t).2 }
  guard resolution := by
    have kept := (each (resolution.guard.enter t).1).guard
      { resolution with guard := (resolution.guard.enter t).2 }
    rw [after, Resolution.run_expanding t body resolution rfl]
    exact (congrArg (fun guard => guard.close t (resolution.guard.enter t).1) kept).trans
      (resolution.guard.close_enter t)
  holds returned := (each _).holds returned

end Guarded

/-- What a resolution has returned is returned again under the same guard, from any state
of the checker that extends the one it has left. -/
def Comparison.again : Comparison where
  follows P x y := Guarded P x ∧ Guarded P y ∧
    ∀ (resolution : Resolution) (later : State) a, outcome x resolution = .ok a →
      (after x resolution).checker.Extends later →
        outcome y ⟨later, resolution.guard⟩ = .ok a
  done holds := ⟨.pure holds, .pure holds, fun _ _ _ returned _ => returned⟩
  andThen {α β P Q x y f g} first rest := by
    obtain ⟨guarded, guarded', again⟩ := first
    refine ⟨guarded.bind fun a holds => (rest a holds).1,
      guarded'.bind fun a holds => (rest a holds).2.1, ?_⟩
    intro resolution later b returned extended
    obtain ⟨a, before, last⟩ := outcome_bind_eq_ok returned
    obtain ⟨guardedRest, -, againRest⟩ := rest a (guarded.holds before)
    rw [after_bind_ok before] at extended
    have since : (after x resolution).checker.Extends later :=
      (guardedRest.extended _).trans extended
    have first := again resolution later a before since
    -- When the second part is done again, the guard is what it was the first time.
    have sameGuard : (after y ⟨later, resolution.guard⟩).guard = (after x resolution).guard := by
      rw [guarded'.guard, guarded.guard]
    have second := againRest (after x resolution) (after y ⟨later, resolution.guard⟩).checker b
      last (extended.trans (guarded'.extended ⟨later, resolution.guard⟩))
    rw [outcome_bind_ok first, ← second, ← sameGuard]
  asked inquiry := ⟨.asked inquiry, .asked inquiry, fun _ _ _ returned extended =>
    inquiry.steady.again returned extended⟩

namespace Resolution

/-- A resolution that is made again follows the first. -/
theorem resolve_again (plan : Plan) (remaining : Nat) (t : TypeId)
    (enclosing : Option Declaration) :
    Comparison.again.follows (Node.MaybeShallow remaining) (resolve plan remaining t enclosing)
      (resolve plan remaining t enclosing) := by
  refine resolve_follows .again ?_ plan remaining t enclosing
  intro α P t first second each
  refine ⟨.expanding (fun entered => (each entered).1) t,
    .expanding (fun entered => (each entered).2.1) t, ?_⟩
  intro resolution later a returned extended
  have inside := (each (resolution.guard.enter t).1).2.2
    { resolution with guard := (resolution.guard.enter t).2 }
  exact inside later a returned extended

/-- A resolution with a guard of its own is steady. -/
theorem run_resolve_steady (plan : Plan) (remaining : Nat) (t : TypeId)
    (enclosing : Option Declaration) :
    Steady (run (resolve plan remaining t enclosing))
      (run (resolve plan remaining t enclosing)) := by
  obtain ⟨guarded, -, again⟩ := resolve_again plan remaining t enclosing
  have conservative : Conservative (run (resolve plan remaining t enclosing)) :=
    fun s => guarded.extended { checker := s }
  exact ⟨conservative, conservative, fun {s later a} returned extended =>
    again { checker := s } later a returned extended⟩

theorem resolveType_steady (plan : Plan) (t : TypeId) (declaration : Option Declaration) :
    Steady (resolveType plan t declaration) (resolveType plan t declaration) := by
  refine (run_resolve_steady plan _ t declaration).bind fun node => ?_
  split
  · exact .pure node
  · exact .pure _

theorem resolveProperties_steady (plan : Plan) (t : TypeId) (declaration : Option Declaration) :
    Steady (resolveProperties plan t declaration) (resolveProperties plan t declaration) := by
  refine (resolveType_steady plan t declaration).bind fun node => ?_
  split
  · exact .pure _
  · exact .pure []

theorem resolveDeclaration_steady (plan : Plan) (path name : String) :
    Steady (resolveDeclaration plan path name) (resolveDeclaration plan path name) := by
  refine (Checker.declarationByName_timeless path name).steady.bind fun declaration => ?_
  refine (Inquiry.typeOfDeclaration declaration).steady.bind fun t => ?_
  exact resolveType_steady plan t (some declaration)

end Resolution

end TypeGloss
