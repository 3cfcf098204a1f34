/-
# TypeGloss.Proofs.Lookup.Graph — where a look-up leads

Looking up a name is walking through a graph. Its points are questions: a name in a module
(`within`), or a name in what a module exports (`exported`). From one question a look-up
goes on to others (`Leads`):

* a name that a module does not declare but imports leads to the exports of the module it
  is imported from;
* an exported name leads to the local name it stands for, and to every module that passes
  it on (`Passes`);
* in a declaration file that exports nothing and passes nothing on, every name is exported.

A look-up ends well at a name that the module declares (`Declares`).

`next` lists where a question leads, in the order in which a look-up tries it, and
`searchStep` is one step of a look-up: the first of these questions that has an answer.
`search_succ` says that a look-up of one step more is one such step, and `searchStep_cases`
all that a step can come to.
-/
import TypeGloss.Proofs.Module.Tables
import Mathlib.Logic.Relation

namespace TypeGloss

set_option autoImplicit false

/-! ## Sources -/

/-- Every source of a program stands under its own path, with the scope that is read from
its tree. -/
structure Program.IsRegistered (program : Program) : Prop where
  path : ∀ {path : String} {source : Source},
    Entries.find? path program.sources = some source → source.path = path
  scope : ∀ {path : String} {source : Source},
    Entries.find? path program.sources = some source →
      source.scope = Module.Scope.ofTree source.root

/-- A source is the one that a program has under its path. -/
def Program.Has (program : Program) (source : Source) : Prop :=
  Entries.find? source.path program.sources = some source

namespace Lookup

/-! ## Questions -/

/-- What is looked up: a name in a module, or in what a module exports. -/
inductive Question where
  | within (source : Source) (name : String)
  | exported (source : Source) (name : String)

namespace Question

/-- The module that is asked. -/
def source : Question → Source
  | within source _ => source
  | exported source _ => source

/-- The name that is asked for. -/
def name : Question → String
  | within _ name => name
  | exported _ name => name

/-- What has been visited once a question is being answered: names in modules are noted,
names in exports are not. -/
def mark (space : Space) : Question → List Visit → List Visit
  | within source name, seen => (source.path, name, space) :: seen
  | exported _ _, seen => seen

end Question

/-- The answer to a question, in a limited number of steps. -/
def search (program : Program) (steps : Nat) (space : Space) :
    Question → List Visit → Result Trail
  | .within source name, seen => within program steps source name space seen
  | .exported source name, seen => exported program steps source name space seen

/-- A module declares a name that is asked for. -/
inductive Declares (space : Space) : Question → Found → Prop where
  | within {source : Source} {name : String} {scope : Module.Scope}
      {bindings : List Module.Binding} (read : source.scope = .ok scope)
      (declared : declarations? scope name space = some bindings) :
      Declares space (.within source name) ⟨source, bindings⟩

/-- A module passes on an exported name from another module. -/
inductive Passes (program : Program) : Question → Question → Prop where
  | mk {source target : Source} {name imported : String} {scope : Module.Scope}
      {reexport : Module.Reexport} (read : source.scope = .ok scope)
      (listed : reexport ∈ scope.reexports) (covered : passedName? name reexport = some imported)
      (present : module? program source.path reexport.specifier = some target) :
      Passes program (.exported source name) (.exported target imported)

/-- A question leads to another. -/
inductive Leads (program : Program) (space : Space) : Question → Question → Prop where
  | imported {source target : Source} {name localName specifier imported : String}
      {scope : Module.Scope} (read : source.scope = .ok scope)
      (undeclared : declarations? scope name space = none)
      (listed : Entries.find? name scope.imports = some ⟨localName, specifier, some imported⟩)
      (present : module? program source.path specifier = some target) :
      Leads program space (.within source name) (.exported target imported)
  | own {source : Source} {name localName : String} {scope : Module.Scope}
      (read : source.scope = .ok scope)
      (listed : Entries.find? name scope.exports = some localName) :
      Leads program space (.exported source name) (.within source localName)
  | passed {question other : Question} (passes : Passes program question other) :
      Leads program space question other
  | implicit {source : Source} {name : String} {scope : Module.Scope}
      (read : source.scope = .ok scope)
      (declarations : Text.endsWith ".d.ts" source.path = true)
      (silent : scope.exports = [] ∧ scope.reexports = []) :
      Leads program space (.exported source name) (.within source name)

/-- A question leads to another in any number of steps. -/
abbrev Reaches (program : Program) (space : Space) : Question → Question → Prop :=
  Relation.ReflTransGen (Leads program space)

/-- Names are passed on in a circle through a question. -/
def Circular (program : Program) (question : Question) : Prop :=
  Relation.TransGen (Passes program) question question

/-! ## The order of a look-up -/

/-- Where a name leads that a module has an import for. -/
def nextWithin (program : Program) (source : Source) (name : String) (scope : Module.Scope) :
    List Question :=
  match Entries.find? name scope.imports with
  | some ⟨_, specifier, some imported⟩ =>
      (module? program source.path specifier).toList.map (.exported · imported)
  | _ => []

/-- Where an exported name leads that a module passes on. -/
def nextPassed (program : Program) (source : Source) (name : String)
    (reexport : Module.Reexport) : Option Question :=
  (passedName? name reexport).bind fun imported =>
    (module? program source.path reexport.specifier).map (.exported · imported)

/-- Where an exported name leads. -/
def nextExported (program : Program) (source : Source) (name : String) (scope : Module.Scope) :
    List Question :=
  (Entries.find? name scope.exports).toList.map (.within source) ++
    scope.reexports.filterMap (nextPassed program source name) ++
    if Text.endsWith ".d.ts" source.path && scope.exports.isEmpty && scope.reexports.isEmpty then
      [.within source name]
    else []

/-- Where a question leads, in the order in which a look-up goes there. -/
def next (program : Program) (space : Space) : Question → List Question
  | .within source name =>
      match source.scope with
      | .error _ => []
      | .ok scope =>
          if (declarations? scope name space).isSome then []
          else nextWithin program source name scope
  | .exported source name =>
      match source.scope with
      | .error _ => []
      | .ok scope => nextExported program source name scope

/-- Within a module, a name leads to what it was imported as. -/
theorem mem_nextWithin {program : Program} {source : Source} {name : String}
    {scope : Module.Scope} {other : Question} :
    other ∈ nextWithin program source name scope ↔
      ∃ localName specifier imported target,
        Entries.find? name scope.imports = some ⟨localName, specifier, some imported⟩ ∧
          module? program source.path specifier = some target ∧
            other = .exported target imported := by
  unfold nextWithin
  split
  · next localName specifier imported listed =>
      simp only [List.mem_map, Option.mem_toList, listed]
      constructor
      · rintro ⟨target, present, rfl⟩
        exact ⟨localName, specifier, imported, target, rfl, present, rfl⟩
      · rintro ⟨_, _, _, target, same, present, rfl⟩
        cases same
        exact ⟨target, present, rfl⟩
  · next unlisted =>
      simp only [List.not_mem_nil, false_iff]
      rintro ⟨localName, specifier, imported, target, listed, -, -⟩
      exact unlisted localName specifier imported listed

/-- A module that passes names on leads to the module it passes them on from. -/
theorem nextPassed_eq_some {program : Program} {source : Source} {name : String}
    {reexport : Module.Reexport} {other : Question} :
    nextPassed program source name reexport = some other ↔
      ∃ imported target, passedName? name reexport = some imported ∧
        module? program source.path reexport.specifier = some target ∧
          other = .exported target imported := by
  simp only [nextPassed, Option.bind_eq_some_iff, Option.map_eq_some_iff]
  constructor
  · rintro ⟨imported, covered, target, present, rfl⟩
    exact ⟨imported, target, covered, present, rfl⟩
  · rintro ⟨imported, target, covered, present, rfl⟩
    exact ⟨imported, covered, target, present, rfl⟩

/-- The list is the graph. -/
theorem mem_next {program : Program} {space : Space} {question other : Question} :
    other ∈ next program space question ↔ Leads program space question other := by
  constructor
  · intro member
    cases question with
    | within source name =>
        simp only [next] at member
        split at member
        · simp at member
        · next scope read =>
            split at member
            · simp at member
            · next undeclared =>
                obtain ⟨_, _, _, _, listed, present, rfl⟩ := mem_nextWithin.1 member
                exact .imported read (by simpa using undeclared) listed present
    | exported source name =>
        simp only [next] at member
        split at member
        · simp at member
        · next scope read =>
            simp only [nextExported, List.mem_append, List.mem_map, Option.mem_toList,
              List.mem_filterMap] at member
            rcases member with (⟨localName, listed, rfl⟩ | ⟨reexport, listed, passed⟩) | implicit
            · exact .own read listed
            · obtain ⟨imported, target, covered, present, rfl⟩ := nextPassed_eq_some.1 passed
              exact .passed (.mk read listed covered present)
            · split at implicit
              · next silent =>
                  simp only [Bool.and_eq_true, List.isEmpty_iff] at silent
                  rw [List.mem_singleton.1 implicit]
                  exact .implicit read silent.1.1 ⟨silent.1.2, silent.2⟩
              · simp at implicit
  · intro leads
    cases leads with
    | imported read undeclared listed present =>
        simp only [next, read, undeclared, Option.isSome_none, Bool.false_eq_true, if_false]
        exact mem_nextWithin.2 ⟨_, _, _, _, listed, present, rfl⟩
    | own read listed =>
        simp [next, read, nextExported, listed]
    | passed passes =>
        obtain ⟨read, listed, covered, present⟩ := passes
        simp only [next, read, nextExported, List.mem_append, List.mem_filterMap]
        exact .inl (.inr ⟨_, listed, nextPassed_eq_some.2 ⟨_, _, covered, present, rfl⟩⟩)
    | implicit read declarations silent =>
        simp [next, read, nextExported, declarations, silent]

/-! ## One step -/

/-- The first of several questions that has an answer. -/
def firstFound (ask : Question → List Visit → Result Trail) :
    List Question → List Visit → Result Trail
  | [], seen => .ok (none, seen)
  | question :: rest, seen => do
      match ← ask question seen with
      | (some found, after) => return (some found, after)
      | (none, after) => firstFound ask rest after

/-- One step of a look-up, given how it goes on. -/
def searchStep (program : Program) (space : Space) (ask : Question → List Visit → Result Trail) :
    Question → List Visit → Result Trail
  | .within source name, seen =>
      if seen.contains (source.path, name, space) then .ok (none, seen)
      else do
        let scope ← source.scope
        match declarations? scope name space with
        | some bindings => return (some ⟨source, bindings⟩, (source.path, name, space) :: seen)
        | none =>
            firstFound ask (nextWithin program source name scope)
              ((source.path, name, space) :: seen)
  | .exported source name, seen => do
      let scope ← source.scope
      firstFound ask (nextExported program source name scope) seen

/-- The questions behind the first are asked if it is answered with nothing. -/
theorem firstFound_cons (ask : Question → List Visit → Result Trail) (question : Question)
    (rest : List Question) (seen : List Visit) :
    firstFound ask (question :: rest) seen =
      match ask question seen with
      | .ok (none, after) => firstFound ask rest after
      | answer => answer := by
  simp only [firstFound, Bind.bind, Except.bind]
  rcases ask question seen with fault | ⟨_ | found, after⟩ <;> rfl

/-- A list of questions is asked up to the first that finds something. -/
theorem firstFound_append (ask : Question → List Visit → Result Trail)
    (first second : List Question) (seen : List Visit) :
    firstFound ask (first ++ second) seen = (do
      match ← firstFound ask first seen with
      | (some found, after) => return (some found, after)
      | (none, after) => firstFound ask second after) := by
  induction first generalizing seen with
  | nil => rfl
  | cons question rest ih =>
      rw [List.cons_append, firstFound_cons, firstFound_cons]
      rcases ask question seen with fault | ⟨_ | found, after⟩
      · rfl
      · exact ih after
      · rfl

theorem firstFound_singleton (ask : Question → List Visit → Result Trail) (question : Question)
    (seen : List Visit) : firstFound ask [question] seen = ask question seen := by
  rw [firstFound_cons]
  rcases ask question seen with fault | ⟨_ | found, after⟩ <;> rfl

/-- The files that a name is handed on to are asked as questions, in order. -/
theorem firstFound_passed (program : Program) (steps : Nat) (space : Space) (source : Source)
    (name : String) (reexports : List Module.Reexport) (seen : List Visit) :
    firstPassed program source name
        (fun target imported visits => exported program steps target imported space visits)
        reexports seen =
      firstFound (search program steps space)
        (reexports.filterMap (nextPassed program source name)) seen := by
  induction reexports generalizing seen with
  | nil => rfl
  | cons reexport rest ih =>
      cases covered : passedName? name reexport with
      | none => simp [firstPassed, covered, nextPassed, ih]
      | some imported =>
          cases present : module? program source.path reexport.specifier with
          | none => simp [firstPassed, covered, present, nextPassed, ih]
          | some target =>
              simp only [firstPassed, covered, present, nextPassed, List.filterMap_cons,
                Option.bind_some, Option.map_some, firstFound, search]
              cases exported program steps target imported space seen with
              | error fault => rfl
              | ok trail =>
                  obtain ⟨found, after⟩ := trail
                  cases found with
                  | some found => rfl
                  | none => exact ih after

theorem search_zero (program : Program) (space : Space) (question : Question)
    (seen : List Visit) : search program 0 space question seen = .error .exhausted := by
  cases question with
  | within source name => simp [search, within]
  | exported source name => simp [search, exported]

/-- A look-up of one step more is one step and the rest of the look-up. -/
theorem search_succ (program : Program) (steps : Nat) (space : Space) (question : Question)
    (seen : List Visit) :
    search program (steps + 1) space question seen =
      searchStep program space (search program steps space) question seen := by
  cases question with
  | within source name =>
      simp only [search, within, searchStep]
      split
      · rfl
      · refine bind_congr fun scope => ?_
        cases declarations? scope name space with
        | some bindings => rfl
        | none =>
            unfold nextWithin
            rcases Entries.find? name scope.imports with _ | ⟨localName, specifier, _ | imported⟩
            · rfl
            · rfl
            · dsimp only
              cases module? program source.path specifier with
              | none => rfl
              | some target =>
                  exact (firstFound_singleton (search program steps space)
                    (.exported target imported) _).symm
  | exported source name =>
      simp only [search, exported, searchStep]
      refine bind_congr fun scope => ?_
      simp only [nextExported, firstFound_append, firstFound_passed, bind_assoc]
      -- The three kinds of places come one after the other on both sides.
      have rest (after : List Visit) :
          (firstFound (search program steps space)
              (scope.reexports.filterMap (nextPassed program source name)) after >>=
            fun trail : Trail => match trail with
            | (some found, last) => pure (some found, last)
            | (none, last) =>
                if (Text.endsWith ".d.ts" source.path && scope.exports.isEmpty &&
                    scope.reexports.isEmpty) = true then
                  within program steps source name space last
                else pure (none, last)) =
          (firstFound (search program steps space)
              (scope.reexports.filterMap (nextPassed program source name)) after >>=
            fun trail : Trail => match trail with
            | (some found, last) => pure (some found, last)
            | (none, last) =>
                firstFound (search program steps space)
                  (if (Text.endsWith ".d.ts" source.path && scope.exports.isEmpty &&
                      scope.reexports.isEmpty) = true then [.within source name] else []) last) := by
        refine bind_congr fun trail => ?_
        obtain ⟨found, last⟩ := trail
        cases found with
        | some found => rfl
        | none =>
            dsimp only
            split
            · exact (firstFound_singleton (search program steps space)
                (.within source name) last).symm
            · rfl
      cases Entries.find? name scope.exports with
      | none => exact rest seen
      | some localName =>
          simp only [Option.toList_some, List.map_cons, List.map_nil, firstFound_singleton, search]
          refine bind_congr fun trail => ?_
          obtain ⟨found, after⟩ := trail
          cases found with
          | some found => rfl
          | none => exact rest after

/-- All that one step of a look-up can come to: the name is being looked up already, the
module cannot be read, it declares the name, or the look-up goes on. -/
inductive StepsTo (program : Program) (space : Space)
    (ask : Question → List Visit → Result Trail) :
    Question → List Visit → Result Trail → Prop where
  | again {source : Source} {name : String} {seen : List Visit}
      (visited : (source.path, name, space) ∈ seen) :
      StepsTo program space ask (.within source name) seen (.ok (none, seen))
  | unreadable {question : Question} {seen : List Visit} {fault : Fault}
      (unread : question.source.scope = .error fault) :
      StepsTo program space ask question seen (.error fault)
  | declared {question : Question} {seen : List Visit} {found : Found}
      (declares : Declares space question found) :
      StepsTo program space ask question seen (.ok (some found, question.mark space seen))
  | onward {question : Question} {seen : List Visit} {scope : Module.Scope}
      (read : question.source.scope = .ok scope)
      (undeclared : ∀ found, ¬ Declares space question found)
      (unvisited : ∀ source name, question = .within source name →
        (source.path, name, space) ∉ seen) :
      StepsTo program space ask question seen
        (firstFound ask (next program space question) (question.mark space seen))

/-- Each step of a search is one of the steps that the graph has. -/
theorem searchStep_cases (program : Program) (space : Space)
    (ask : Question → List Visit → Result Trail) (question : Question) (seen : List Visit) :
    StepsTo program space ask question seen (searchStep program space ask question seen) := by
  cases question with
  | within source name =>
      simp only [searchStep]
      split
      · next visited => exact .again (by simpa using visited)
      · next unvisited =>
          cases read : source.scope with
          | error fault => exact .unreadable read
          | ok scope =>
              simp only [Bind.bind, Except.bind]
              cases declared : declarations? scope name space with
              | some bindings => exact .declared (.within read declared)
              | none =>
                  have undeclared : ∀ found, ¬ Declares space (.within source name) found := by
                    rintro found ⟨otherRead, otherDeclared⟩
                    rw [read] at otherRead
                    cases otherRead
                    simp [declared] at otherDeclared
                  have goesOn : nextWithin program source name scope =
                      next program space (.within source name) := by simp [next, read, declared]
                  rw [goesOn]
                  refine .onward read undeclared ?_
                  rintro _ _ ⟨⟩
                  simpa using unvisited
  | exported source name =>
      simp only [searchStep]
      cases read : source.scope with
      | error fault => exact .unreadable read
      | ok scope =>
          have goesOn : nextExported program source name scope =
              next program space (.exported source name) := by simp [next, read]
          simp only [Bind.bind, Except.bind, goesOn]
          exact .onward read (by rintro found ⟨⟩) (by rintro _ _ ⟨⟩)

end Lookup

end TypeGloss
