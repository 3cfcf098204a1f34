/-
# TypeGloss.Proofs.Lookup.Reachability — a name is found exactly if it can be reached

A look-up is compared with the graph that it walks through.

* `search_decides`: where names are not passed on in a circle, every look-up ends, and it
  finds declarations exactly if its question leads to some; what it finds are the
  declarations of a name that it leads to. It fails only at a module that cannot be read.
  Modules may import from each other in circles.
* `search_ends_iff`: a name that is declared nowhere is missed in the end exactly if its
  look-up leads to no circle of modules that pass names on to each other. Otherwise no number
  of steps is enough, and the name is not reported as undeclared.
-/
import TypeGloss.Proofs.Checker.Sources
import TypeGloss.Proofs.Lookup.Termination

namespace TypeGloss.Lookup

set_option autoImplicit false

variable {program : Program} {space : Space}

/-! ## More steps -/

/-- A search that ends finds the same with more at hand. -/
theorem firstFound_of_ends {ask more : Question → List Visit → Result Trail}
    (same : ∀ question seen, Ends (ask question seen) → more question seen = ask question seen)
    {questions : List Question} {seen : List Visit}
    (ends : Ends (firstFound ask questions seen)) :
    firstFound more questions seen = firstFound ask questions seen := by
  induction questions generalizing seen with
  | nil => rfl
  | cons question rest ih =>
      rw [firstFound_cons] at ends ⊢
      rw [firstFound_cons]
      rcases first : ask question seen with fault | ⟨_ | found, after⟩
      · rw [first] at ends
        rw [same question seen (first ▸ ends), first]
      · rw [first] at ends
        rw [same question seen (first ▸ .ok _), first]
        exact ih ends
      · rw [same question seen (first ▸ .ok _), first]

theorem searchStep_of_ends {ask more : Question → List Visit → Result Trail}
    (same : ∀ question seen, Ends (ask question seen) → more question seen = ask question seen)
    {question : Question} {seen : List Visit}
    (ends : Ends (searchStep program space ask question seen)) :
    searchStep program space more question seen = searchStep program space ask question seen := by
  cases question with
  | within source name =>
      simp only [searchStep] at ends ⊢
      split
      · rfl
      · next new =>
          rw [if_neg new] at ends
          cases read : source.scope with
          | error fault => rfl
          | ok scope =>
              rw [read] at ends
              simp only [Bind.bind, Except.bind] at ends ⊢
              cases declared : declarations? scope name space with
              | some bindings => rfl
              | none =>
                  rw [declared] at ends
                  exact firstFound_of_ends same ends
  | exported source name =>
      simp only [searchStep] at ends ⊢
      cases read : source.scope with
      | error fault => rfl
      | ok scope =>
          rw [read] at ends
          exact firstFound_of_ends same ends

/-- A look-up that ends comes to the same in one step more. -/
theorem search_succ_of_ends {steps : Nat} {question : Question} {seen : List Visit}
    (ends : Ends (search program steps space question seen)) :
    search program (steps + 1) space question seen = search program steps space question seen := by
  induction steps generalizing question seen with
  | zero => exact absurd (search_zero program space question seen) ends
  | succ steps ih =>
      rw [search_succ] at ends
      rw [search_succ program (steps + 1), search_succ program steps]
      exact searchStep_of_ends (fun _ _ => ih) ends

theorem search_of_ends {steps more : Nat} {question : Question} {seen : List Visit}
    (ends : Ends (search program steps space question seen)) (le : steps ≤ more) :
    search program more space question seen = search program steps space question seen := by
  induction more, le using Nat.le_induction with
  | base => rfl
  | succ more _ ih => rw [search_succ_of_ends (ih ▸ ends), ih]

/-! ## Look-ups and reachability -/

/-- What a look-up comes to says what its question leads to: it finds something exactly if
the question leads to a declaration, what it finds are the declarations of a name that the
question leads to, and it fails only at a module that cannot be read. -/
structure Decides (program : Program) (space : Space) (question : Question)
    (result : Result Trail) : Prop where
  finds : ∀ {found trail}, result = .ok (found, trail) →
    (found.isSome = true ↔
      ∃ goal declared, Reaches program space question goal ∧ Declares space goal declared)
  declared : ∀ {found trail}, result = .ok (some found, trail) →
    found.bindings ≠ [] ∧
      ∃ goal, Reaches program space question goal ∧ Declares space goal found
  unread : ∀ {fault}, result = .error fault →
    ∃ goal, Reaches program space question goal ∧ goal.source.scope = .error fault

theorem decides_of_ends (registered : program.IsRegistered) {question : Question}
    (has : program.Has question.source) {steps : Nat} {result : Result Trail}
    (ends : Ends result) (run : search program steps space question [] = result) :
    Decides program space question result where
  finds {found trail} returned := by
    rw [returned] at run
    cases found with
    | some found =>
        obtain ⟨goal, reached, declares⟩ := declares_of_search run
        simpa using ⟨goal, reached, found, declares⟩
    | none =>
        simp only [Option.isSome_none, Bool.false_eq_true, false_iff]
        rintro ⟨goal, declared, reached, declares⟩
        exact undeclared_of_search registered has run reached declared declares
  declared {found trail} returned := by
    rw [returned] at run
    obtain ⟨goal, reached, declares⟩ := declares_of_search run
    refine ⟨?_, goal, reached, declares⟩
    cases declares with
    | @within source name scope bindings read declared =>
        have known := has_of_reaches registered reached has
        have filled := Module.Scope.ofTree_filled ((registered.scope known).symm.trans read)
        exact ne_nil_of_declarations? filled declared
  unread {fault} returned := by
    rw [returned] at run ends
    exact (unread_of_search run).resolve_left fun same => ends (congrArg _ same)

/-! ## Small modules -/

namespace Barrels

/-- A piece of syntax without parts. -/
def leaf (kind text : String) (field : Option String) : Tree :=
  .node ⟨kind, text, 0, 0, ⟨0, 0⟩, ⟨0, 0⟩, true, false, field⟩ []

def branch (kind : String) (field : Option String) (children : List Tree) : Tree :=
  .node ⟨kind, "", 0, 0, ⟨0, 0⟩, ⟨0, 0⟩, true, false, field⟩ children

/-- `import { X } from …` -/
def importX (specifier : String) : Tree :=
  branch "import_statement" none
    [branch "import_clause" none [branch "named_imports" none
        [branch "import_specifier" none [leaf "identifier" "X" (some "name")]]],
      leaf "string" specifier (some "source")]

/-- `export { X }` -/
def exportX : Tree :=
  branch "export_statement" none
    [branch "export_clause" none
      [branch "export_specifier" none [leaf "identifier" "X" (some "name")]]]

/-- `export * from …` -/
def exportAll (specifier : String) : Tree :=
  branch "export_statement" none [leaf "string" specifier (some "source")]

/-- `export type X = string` -/
def declareX : Tree :=
  branch "export_statement" none
    [branch "type_alias_declaration" (some "declaration")
      [leaf "type_identifier" "X" (some "name"), leaf "predefined_type" "string" (some "value")]]

/-- A module that is registered under a path. -/
def moduleOf (path : String) (statements : List Tree) : Source :=
  let root := branch "program" none statements
  ⟨path, root, Module.Scope.ofTree root⟩

/-- The source `import { X } from './b'; export { X }`. -/
def importing : Source := moduleOf "a.ts" [importX "'./b'", exportX]

/-- The source `import { X } from './a'; export { X }; export * from './c'`. -/
def passing : Source := moduleOf "b.ts" [importX "'./a'", exportX, exportAll "'./c'"]

/-- The source `export type X = string`. -/
def declaring : Source := moduleOf "c.ts" [declareX]

/-- Modules are registered one after the other. -/
def added (sources : List Source) : List Event :=
  sources.map fun source => .added source.path source.root

/-- Two modules that import from each other, and a third with the declaration. -/
def linked : Program := (State.through {} (added [importing, passing, declaring])).toProgram

theorem sources_linked :
    linked.sources = [("a.ts", importing), ("b.ts", passing), ("c.ts", declaring)] := by
  with_unfolding_all rfl

/-- The re-exports of a file are those of its scope, which is read in one way. -/
theorem reexports_eq {source : Source} {scope : Module.Scope} (expected : List Module.Reexport)
    (known : source.scope.map (·.reexports) = .ok expected) (read : source.scope = .ok scope) :
    scope.reexports = expected := by
  rw [read] at known
  exact Except.ok.inj known

/-- Only `b.ts` passes names on, and it passes them on from `c.ts`. -/
theorem passes_linked {question other : Question} (has : linked.Has question.source)
    (passes : Passes linked question other) :
    question.source = passing ∧ other.source = declaring := by
  have listed := Entries.mem_of_find?_eq_some has
  cases passes with
  | @mk source target name imported scope reexport read member covered present =>
      simp only [sources_linked, Question.source, List.mem_cons, List.not_mem_nil, or_false,
        Prod.mk.injEq] at listed
      rcases listed with ⟨-, rfl⟩ | ⟨-, rfl⟩ | ⟨-, rfl⟩
      · have none := reexports_eq [] (by with_unfolding_all rfl) read
        simp [none] at member
      · have one := reexports_eq [⟨"./c", none⟩] (by with_unfolding_all rfl) read
        simp only [one, List.mem_singleton] at member
        subst member
        have target : module? linked "b.ts" "./c" = some declaring := by with_unfolding_all rfl
        exact ⟨rfl, Option.some.inj (present.symm.trans target)⟩
      · have none := reexports_eq [] (by with_unfolding_all rfl) read
        simp [none] at member

theorem uncircled_linked (question : Question) (has : linked.Has question.source) :
    ¬ Circular linked question := by
  intro circular
  obtain ⟨other, passes, back⟩ := Relation.TransGen.head'_iff.1 circular
  obtain ⟨here, there⟩ := passes_linked has passes
  have different : passing ≠ declaring := fun same => absurd (congrArg Source.path same) (by decide)
  rcases back.cases_head with same | ⟨further, passesOn, -⟩
  · rw [same, here] at there
    exact different there
  · have known : linked.Has other.source := by
      rw [there]
      with_unfolding_all rfl
    exact different ((passes_linked known passesOn).1.symm.trans there)

end Barrels

open Barrels

/-- Where no names are passed on in a circle, a look-up ends, however modules import from each
other, and it finds declarations exactly if it leads to some. With fewer steps than it needs
a look-up comes to the same or says that the steps are used up. -/
theorem search_decides (identity : Nat) (settings : SourceSettings) (history : List Event) :
    let program := (State.through { identity, settings } history).toProgram
    (∀ question, program.Has question.source → ¬ Circular program question) →
      ∀ (space : Space) (question : Question), program.Has question.source →
        ∃ result, Ends result ∧ Decides program space question result ∧
          (∃ enough, ∀ steps, enough ≤ steps →
            search program steps space question [] = result) ∧
          ∀ steps, search program steps space question [] = result ∨
            search program steps space question [] = .error .exhausted := by
  intro program uncircled space question has
  have registered : program.IsRegistered := State.registered identity settings history
  obtain ⟨result, ends, enough, same⟩ :=
    settles_of_uncircled registered has
      (fun goal reached => uncircled goal (has_of_reaches registered reached has)) []
  refine ⟨result, ends, decides_of_ends registered has ends (same enough le_rfl),
    ⟨enough, same⟩, fun steps => ?_⟩
  by_cases early : Ends (search program steps space question [])
  · have later := search_of_ends early (le_max_left steps enough)
    exact .inl (later.symm.trans (same _ (le_max_right steps enough)))
  · exact .inr (not_not.1 early)

/-- The module that a look-up of `X` in `a.ts` ends at. -/
def home (result : Result Trail) : Result (Option Source) :=
  result.map fun trail => trail.1.map Found.source

/-- `a.ts` and `b.ts` import `X` from each other, and `b.ts` passes it on from `c.ts`: it is
found there. -/
theorem search_decides_linked :
    (∀ question, linked.Has question.source → ¬ Circular linked question) ∧
      linked.Has importing ∧
      ∃ result, Decides linked .types (.within importing "X") result ∧
        home result = .ok (some declaring) ∧
        ∃ enough, ∀ steps, enough ≤ steps →
          search linked steps .types (.within importing "X") [] = result := by
  have has : linked.Has importing := by with_unfolding_all rfl
  have seven : home (search linked 7 .types (.within importing "X") []) = .ok (some declaring) := by
    with_unfolding_all rfl
  obtain ⟨result, -, decides, same, each⟩ :=
    search_decides 0 {} (added [importing, passing, declaring]) uncircled_linked .types
      (.within importing "X") has
  refine ⟨uncircled_linked, has, result, decides, ?_, same⟩
  rcases each 7 with found | exhausted
  · rw [← found]
    exact seven
  · exact absurd ((congrArg home exhausted).symm.trans seven) (by simp [home, Except.map])

/-! ## Names that are declared nowhere -/

/-- A question leads to modules that can be read and declare nothing of what is asked for. -/
def Lost (program : Program) (space : Space) (question : Question) : Prop :=
  ∀ goal, Reaches program space question goal →
    (∃ scope, goal.source.scope = .ok scope) ∧ ∀ found, ¬ Declares space goal found

/-- What is declared nowhere is missed, or the steps are used up. -/
theorem search_of_lost {question : Question} (lost : Lost program space question) (steps : Nat) :
    (∃ trail, search program steps space question [] = .ok (none, trail)) ∨
      search program steps space question [] = .error .exhausted := by
  cases run : search program steps space question [] with
  | error fault =>
      rcases unread_of_search run with rfl | ⟨goal, reached, unread⟩
      · exact .inr rfl
      · obtain ⟨scope, read⟩ := (lost goal reached).1
        simp [read] at unread
  | ok trail =>
      obtain ⟨found, after⟩ := trail
      cases found with
      | none => exact .inl ⟨after, rfl⟩
      | some found =>
          obtain ⟨goal, reached, declares⟩ := declares_of_search run
          exact absurd declares ((lost goal reached).2 found)

/-- A look-up that leads to a circle does not come to nothing. -/
theorem ne_nothing_of_reaches_circular (registered : program.IsRegistered) {question goal : Question}
    (has : program.Has question.source) (reached : Reaches program space question goal)
    (circular : Circular program goal) (steps : Nat) (trail : List Visit) :
    search program steps space question [] ≠ .ok (none, trail) := by
  intro run
  have explored := explored_of_reaches registered has run reached
  cases goal with
  | within source name =>
      obtain ⟨other, passes, -⟩ := Relation.TransGen.head'_iff.1 circular
      cases passes
  | exported source name =>
      obtain ⟨steps, before, after, run, -⟩ := explored
      exact ne_nothing_of_circular circular steps before after run

theorem outcome_ofProgram {α : Type} (f : Program → Result α) (s : State) :
    outcome (do Check.ofResult (f (← Check.program))) s = f s.toProgram := by
  have read : outcome Check.program s = .ok s.toProgram := rfl
  rw [outcome_bind_ok read, Check.outcome_ofResult]

/-- A look-up is a search from the source, with nothing seen yet. -/
theorem outcome_lookup (source : Source) (name : String) (space : Space) (s : State) :
    outcome (lookup source name space) s =
      (search s.toProgram maxSteps space (.within source name) []).map Prod.fst := by
  rw [lookup, outcome_ofProgram fun program => find? program source name space, find?, search]

/-- A look-up among the exports of a file is a search with all the steps there are. -/
theorem outcome_lookupExport (source : Source) (name : String) (space : Space) (s : State) :
    outcome (lookupExport source name space) s =
      (search s.toProgram maxSteps space (.exported source name) []).map Prod.fst := by
  rw [lookupExport, outcome_ofProgram fun program =>
    (exported program maxSteps source name space []).map Prod.fst, search]

/-- The two questions that are asked for a name that a module is to show: what it means
inside the module, and what the module exports under it. -/
def visibleQuestions (source : Source) (name : String) : List Question :=
  [.within source name, .exported source name]

/-- What is declared nowhere is missed by a module, if its look-ups end. -/
theorem outcome_visible?_of_lost {s : State} {source : Source} {name : String}
    (lost : ∀ question ∈ visibleQuestions source name, Lost s.toProgram space question) :
    outcome (Checker.visible? source name space) s = .ok none ∧
        (∀ question ∈ visibleQuestions source name,
          Ends (search s.toProgram maxSteps space question [])) ∨
      outcome (Checker.visible? source name space) s = .error .exhausted := by
  have unchanged : after (lookup source name space) s = s :=
    (lookup_timeless source name space).unchanged s
  have inside := outcome_lookup source name space s
  have outside := outcome_lookupExport source name space s
  rcases search_of_lost (lost (.within source name) (by simp [visibleQuestions])) maxSteps with
    ⟨trail, missed⟩ | exhausted
  · rw [missed] at inside
    rw [Checker.visible?, outcome_bind_ok inside, unchanged]
    rcases search_of_lost (lost (.exported source name) (by simp [visibleQuestions])) maxSteps with
      ⟨last, missedToo⟩ | exhausted
    · refine .inl ⟨by rw [outside, missedToo]; rfl, ?_⟩
      simp only [visibleQuestions, List.mem_cons, List.not_mem_nil, or_false, forall_eq_or_imp,
        forall_eq, missed, missedToo]
      exact ⟨.ok _, .ok _⟩
    · exact .inr (by rw [outside, exhausted]; rfl)
  · rw [exhausted] at inside
    exact .inr (outcome_bind_error inside)

/-- What is declared nowhere is reported as undeclared exactly if its look-ups end. -/
theorem outcome_declarationByName_of_lost {s : State} {path name : String} {source : Source}
    (present : Entries.find? (Path.normalize path) s.sources = some source)
    (lost : ∀ space, ∀ question ∈ visibleQuestions source name, Lost s.toProgram space question) :
    outcome (Checker.declarationByName path name) s = .error (.undeclared path name) ∧
        (∀ space, ∀ question ∈ visibleQuestions source name,
          Ends (search s.toProgram maxSteps space question [])) ∨
      outcome (Checker.declarationByName path name) s = .error .exhausted := by
  have read : outcome Check.program s = .ok s.toProgram := rfl
  have unchanged : after Check.program s = s := rfl
  rw [Checker.declarationByName, outcome_bind_ok read, unchanged, present]
  have still : after (Checker.visible? source name .types) s = s :=
    (Checker.visible?_timeless source name .types).unchanged s
  rcases outcome_visible?_of_lost (lost .types) with ⟨noType, typesEnd⟩ | exhausted
  · rcases outcome_visible?_of_lost (lost .values) with ⟨noValue, valuesEnd⟩ | exhausted
    · have meaningless : outcome (Checker.meaning? source name) s = .ok none := by
        rw [Checker.meaning?, outcome_bind_ok noType, still]
        exact noValue
      refine .inl ⟨outcome_bind_ok meaningless, fun space => ?_⟩
      cases space with
      | types => exact typesEnd
      | values => exact valuesEnd
    · refine .inr (outcome_bind_error ?_)
      rw [Checker.meaning?, outcome_bind_ok noType, still]
      exact exhausted
  · exact .inr (outcome_bind_error (outcome_bind_error exhausted))

namespace Barrels

/-- The source `export * from './b'`. -/
def first : Source := moduleOf "a.ts" [exportAll "'./b'"]

/-- The source `export * from './a'`. -/
def second : Source := moduleOf "b.ts" [exportAll "'./a'"]

/-- Two modules that pass on all names of each other. -/
def ring : State := State.through {} (added [first, second])

theorem sources_ring : ring.sources = [("a.ts", first), ("b.ts", second)] := by
  with_unfolding_all rfl

/-- The two modules of the ring can be read and declare nothing. -/
theorem read_ring {source : Source} (has : ring.toProgram.Has source) :
    ∃ specifier, source.scope = .ok { reexports := [⟨specifier, none⟩] } := by
  have listed := Entries.mem_of_find?_eq_some has
  simp only [sources_ring, List.mem_cons, List.not_mem_nil, or_false, Prod.mk.injEq] at listed
  rcases listed with ⟨-, rfl⟩ | ⟨-, rfl⟩
  · exact ⟨"./b", by with_unfolding_all rfl⟩
  · exact ⟨"./a", by with_unfolding_all rfl⟩

theorem lost_ring (space : Space) {question : Question}
    (has : ring.toProgram.Has question.source) : Lost ring.toProgram space question := by
  intro goal reached
  have registered := State.registered 0 {} (added [first, second])
  obtain ⟨specifier, read⟩ := read_ring (has_of_reaches registered reached has)
  refine ⟨⟨_, read⟩, ?_⟩
  rintro found ⟨readAgain, declared⟩
  cases read.symm.trans readAgain
  cases space <;> simp [declarations?, Entries.find?] at declared

theorem circular_ring (name : String) (listed : name ≠ "default") :
    Circular ring.toProgram (.exported first name) := by
  have covered (specifier : String) : passedName? name ⟨specifier, none⟩ = some name := by
    simp [passedName?, listed]
  have readFirst : first.scope = .ok { reexports := [⟨"./b", none⟩] } := by with_unfolding_all rfl
  have readSecond : second.scope = .ok { reexports := [⟨"./a", none⟩] } := by
    with_unfolding_all rfl
  have away : Passes ring.toProgram (.exported first name) (.exported second name) :=
    .mk readFirst List.mem_cons_self (covered _) (by with_unfolding_all rfl)
  have back : Passes ring.toProgram (.exported second name) (.exported first name) :=
    .mk readSecond List.mem_cons_self (covered _) (by with_unfolding_all rfl)
  exact .head away (.single back)

end Barrels

/-- A look-up of a name that is declared nowhere comes to nothing, given enough steps,
exactly if it leads to no circle of modules that pass names on to each other; from a circle
it does not come back in any number of steps. And where the name is asked for, it is reported
as undeclared only if there is no such circle. -/
theorem search_ends_iff (identity : Nat) (settings : SourceSettings) (history : List Event) :
    let s := State.through { identity, settings } history
    (∀ (space : Space) (question : Question), s.toProgram.Has question.source →
      Lost s.toProgram space question →
        ((∃ enough trail, ∀ steps, enough ≤ steps →
            search s.toProgram steps space question [] = .ok (none, trail)) ↔
          ∀ goal, Reaches s.toProgram space question goal → ¬ Circular s.toProgram goal) ∧
        ∀ goal, Reaches s.toProgram space question goal → Circular s.toProgram goal →
          ∀ steps, search s.toProgram steps space question [] = .error .exhausted) ∧
    ∀ (path name : String) (source : Source),
      Entries.find? (Path.normalize path) s.sources = some source →
      (∀ space, ∀ question ∈ visibleQuestions source name,
        Lost s.toProgram space question) →
        (outcome (Checker.declarationByName path name) s = .error (.undeclared path name) ∨
          outcome (Checker.declarationByName path name) s = .error .exhausted) ∧
        ∀ space, ∀ question ∈ visibleQuestions source name, ∀ goal,
          Reaches s.toProgram space question goal → Circular s.toProgram goal →
            outcome (Checker.declarationByName path name) s = .error .exhausted := by
  intro s
  have registered : s.toProgram.IsRegistered := State.registered identity settings history
  have endless {space : Space} {question : Question} (has : s.toProgram.Has question.source)
      (lost : Lost s.toProgram space question) (goal : Question)
      (reached : Reaches s.toProgram space question goal) (circular : Circular s.toProgram goal)
      (steps : Nat) : search s.toProgram steps space question [] = .error .exhausted := by
    refine (search_of_lost lost steps).resolve_left ?_
    rintro ⟨trail, run⟩
    exact ne_nothing_of_reaches_circular registered has reached circular steps trail run
  refine ⟨fun space question has lost => ⟨⟨?_, fun uncircled => ?_⟩, endless has lost⟩, ?_⟩
  · rintro ⟨enough, trail, run⟩ goal reached circular
    exact ne_nothing_of_reaches_circular registered has reached circular enough trail
      (run enough le_rfl)
  · obtain ⟨result, ends, enough, same⟩ := settles_of_uncircled registered has uncircled []
    rcases search_of_lost lost enough with ⟨trail, missed⟩ | exhausted
    · refine ⟨enough, trail, fun steps more => ?_⟩
      exact (same steps more).trans ((same enough le_rfl).symm.trans missed)
    · exact absurd ((same enough le_rfl).symm.trans exhausted) ends
  · intro path name source present lost
    have has : s.toProgram.Has source := by
      rw [Program.Has, registered.path present]
      exact present
    have either := outcome_declarationByName_of_lost present lost
    refine ⟨either.imp And.left id, fun space question asked goal reached circular => ?_⟩
    refine either.resolve_left fun undeclared => undeclared.2 space question asked ?_
    have known : s.toProgram.Has question.source := by
      simp only [visibleQuestions, List.mem_cons, List.not_mem_nil, or_false] at asked
      rcases asked with rfl | rfl <;> exact has
    exact endless known (lost space question asked) goal reached circular maxSteps

/-- Two modules pass on all names of each other, and none has `X`: asking for it does not end. -/
theorem search_ends_iff_ring :
    (∀ space, ∀ question ∈ visibleQuestions first "X", Lost ring.toProgram space question) ∧
      Circular ring.toProgram (.exported first "X") ∧
      (∀ space steps, search ring.toProgram steps space (.exported first "X") [] = .error .exhausted) ∧
      outcome (Checker.declarationByName "a.ts" "X") ring = .error .exhausted := by
  have has : ring.toProgram.Has first := by with_unfolding_all rfl
  have circular := circular_ring "X" (by decide)
  have lost (space : Space) (question : Question) (asked : question ∈ visibleQuestions first "X") :
      Lost ring.toProgram space question := by
    simp only [visibleQuestions, List.mem_cons, List.not_mem_nil, or_false] at asked
    rcases asked with rfl | rfl <;> exact lost_ring space has
  obtain ⟨searches, asked⟩ := search_ends_iff 0 {} (added [first, second])
  refine ⟨lost, circular, fun space steps => ?_, ?_⟩
  · exact (searches space (.exported first "X") has (lost_ring space has)).2 _ .refl circular steps
  · exact (asked "a.ts" "X" first (by with_unfolding_all rfl) lost).2 .types (.exported first "X")
      (by simp [visibleQuestions]) _ .refl circular

end TypeGloss.Lookup
