/-
# TypeGloss.Proofs.Resolution.Invalidation — a new source makes a checker anew

When a source is registered, all keys are forgotten. The types, slots and frames that were
made before are still there, and handles to them still work, but nothing leads to them: the
checker is alike to one that has nothing but the sources (`alike_fresh`), at the offset that
the earlier types, slots and frames make up.

So two checkers that were given their last sources at the end of whatever histories, and have
the same tree under each path, are alike to one and the same fresh checker.
`answers_of_latestRoot`: they give the same answers to all questions about names, one after
the other, except that types are numbered from the number of types that each had made before;
and of every type that has been made since, both say the same and make the same documentation
tree.
-/
import TypeGloss.Proofs.Checker.Sources
import TypeGloss.Proofs.Resolution.Alike

namespace TypeGloss

set_option autoImplicit false

/-! ## The first frame -/

/-- What is done in the same way by a checker that is alike leaves the first frame as it
is: a checker is alike to itself. -/
theorem Parallel.bottom {α β : Type} {f : α → β} {x : CheckM α} {y : CheckM β}
    (parallel : Parallel Offset.zero.Alike f x y) {s : State} (bottom : s.frames[0]? = some []) :
    (after x s).frames[0]? = some [] :=
  (parallel (.refl bottom)).2.bottom

/-- An inquiry leaves the frame at the bottom as it is. -/
theorem Inquiry.bottom {α : Type} {question : CheckM α} (inquiry : Inquiry question) {s : State}
    (bottom : s.frames[0]? = some []) : (after question s).frames[0]? = some [] := by
  induction inquiry generalizing s with
  | own handle => rwa [(Checker.own_timeless handle).unchanged]
  | source path => exact (Checker.source_parallel path).bottom bottom
  | category t => exact (Check.category_parallel t).bottom bottom
  | text t => exact (Checker.text_parallel t).bottom bottom
  | simplified t => exact (Checker.simplified_parallel t).bottom bottom
  | symbol t => exact (Checker.symbol?_parallel t).bottom bottom
  | name t => exact (Checker.name?_parallel t).bottom bottom
  | arguments t => exact (Checker.arguments_parallel t).bottom bottom
  | literalValue t => exact (Checker.literalValue_parallel t).bottom bottom
  | primitive t => exact (Checker.primitive_parallel t).bottom bottom
  | unionMembers t => exact (Checker.unionMembers_parallel t).bottom bottom
  | intersectionMembers t => exact (Checker.intersectionMembers_parallel t).bottom bottom
  | element t => exact (Checker.element?_parallel t).bottom bottom
  | tupleItems t => exact (Checker.tupleItems_parallel t).bottom bottom
  | enumMembers t => exact (Checker.enumMembers_parallel t).bottom bottom
  | classMembers t => exact (Checker.classMembers_parallel t).bottom bottom
  | properties t => exact (Checker.properties_parallel t).bottom bottom
  | indexes t => exact (Checker.indexes_parallel t).bottom bottom
  | calls t => exact (Checker.calls_parallel t).bottom bottom
  | constructs t => exact (Checker.constructs_parallel t).bottom bottom
  | isAnonymousObject t => exact (Checker.isAnonymousObject_parallel t).bottom bottom
  | typeOfSymbol symbol => exact (Checker.typeOfSymbol_parallel symbol).bottom bottom
  | typeOfDeclaration declaration =>
      exact (Checker.typeOfDeclaration_parallel declaration).bottom bottom
  | declarationByName path name =>
      exact (Checker.declarationByName_parallel path name).bottom bottom
  | isExported declaration => exact (Checker.isExported_parallel declaration).bottom bottom
  | typeLocation t => exact (Checker.typeLocation?_parallel t).bottom bottom
  | libraryLocation t => exact (Checker.libraryLocation_parallel t).bottom bottom
  | constantAt declaration name =>
      exact (Checker.constantAt?_parallel declaration name).bottom bottom
  | defaultOf declaration initializer patterns =>
      exact (Checker.defaultOf_parallel declaration initializer patterns).bottom bottom
  | done a => exact bottom
  | failed fault => exact bottom
  | @andThen α β question next first rest ih ihs =>
      cases returned : outcome question s with
      | error fault =>
          rw [after_bind_error returned]
          exact ih bottom
      | ok a =>
          rw [after_bind_ok returned]
          exact ihs a (ih bottom)

theorem Operation.bottom {α : Type} {x : CheckM α} (operation : Operation x) {s : State}
    (bottom : s.frames[0]? = some []) : (after x s).frames[0]? = some [] := by
  cases operation with
  | inquiry asked => exact asked.bottom bottom
  | resolveType plan t declaration =>
      exact (Resolution.resolveType_parallel plan t declaration).bottom bottom
  | resolveProperties plan t declaration =>
      exact (Resolution.resolveProperties_parallel plan t declaration).bottom bottom
  | resolveDeclaration plan path name =>
      exact (Resolution.resolveDeclaration_parallel plan path name).bottom bottom

namespace State

theorem bottom_apply {s : State} (bottom : s.frames[0]? = some []) (event : Event) :
    (event.apply s).frames[0]? = some [] := by
  cases event with
  | asked x operation => exact operation.bottom bottom
  | added path root => exact bottom

theorem bottom_through {s : State} (bottom : s.frames[0]? = some []) (history : List Event) :
    (s.through history).frames[0]? = some [] := by
  induction history generalizing s with
  | nil => exact bottom
  | cons event rest ih => exact ih (bottom_apply bottom event)

/-! ## A checker that has forgotten its keys -/

/-- How much was made before. The first frame is not counted. -/
def offset (s : State) : Offset := ⟨s.records.size, s.slots.size, s.frames.size - 1⟩

/-- A checker at rest that knows no keys is alike to a fresh one with the same sources. -/
theorem alike_fresh {program : Program} {s : State} (agrees : program.Agrees s.toProgram)
    (quiescent : s.IsQuiescent) (forgotten : s.interned = {})
    (bottom : s.frames[0]? = some []) : s.offset.Alike { toProgram := program } s := by
  have frame : 0 < s.frames.size := (Array.getElem?_eq_some_iff.1 bottom).1
  exact {
    program := agrees
    interned := fun key => by simp [forgotten]
    records := fun t => by simp [offset, Offset.type]
    recordCount := by simp [offset, Offset.type]
    slots := fun slot => by simp [offset, Offset.slot]
    slotCount := by simp [offset, Offset.slot]
    frames := fun frame => by
      cases frame with
      | zero => exact bottom
      | succ n =>
          have above : s.frames.size ≤ n + 1 + (s.frames.size - 1) := by omega
          simp [offset, Offset.frame, Array.getElem?_eq_none above]
    frameCount := by
      simp only [offset, Offset.frame, List.size_toArray, List.length_cons, List.length_nil]
      omega
    bottom := rfl
    expanding := quiescent.expanding
    inferring := quiescent.inferring }

/-- After a source has been registered, whatever came before, a checker is alike to a fresh
one. -/
theorem alike_fresh_through {program : Program} {identity : Nat} {settings : SourceSettings}
    {history : List Event} {path : String} {root : Tree}
    (agrees : program.Agrees
      (State.through { identity, settings } (history ++ [.added path root])).toProgram) :
    let s := State.through { identity, settings } (history ++ [.added path root])
    s.offset.Alike { toProgram := program } s := by
  have quiescent := (IsQuiescent.start identity settings).through (history ++ [.added path root])
  refine alike_fresh agrees quiescent ?_ (bottom_through rfl _)
  simp only [through, List.foldl_append, List.foldl_cons, List.foldl_nil]
  rfl

end State

/-! ## Questions about names -/

/-- A question that is asked with names alone. -/
inductive NameQuery where
  /-- What does a name in a file mean, and which type is that? -/
  | typeOf (path name : String)
  /-- The documentation tree of a name in a file. -/
  | document (plan : Plan) (path name : String)
  /-- The source that an import of a file means. -/
  | moduleOf (importer specifier : String)

inductive NameAnswer where
  | type (declaration : Declaration) (t : TypeId)
  | tree (root : Option Node)
  | module (source : Option Source)

/-- The answer of a checker that has made so many types before. -/
def NameAnswer.above (count : Nat) : NameAnswer → NameAnswer
  | type declaration t => type declaration (t + count)
  | tree root => tree root
  | module source => module source

theorem NameAnswer.above_zero : NameAnswer.above 0 = id := by
  funext answer
  cases answer <;> rfl

namespace NameQuery

def ask : NameQuery → CheckM NameAnswer
  | typeOf path name => do
      let declaration ← Checker.declarationByName path name
      return .type declaration (← Checker.typeOfDeclaration declaration)
  | document plan path name => do return .tree (← Resolution.resolveDeclaration plan path name)
  | moduleOf importer specifier => do
      return .module (Lookup.module? (← Check.program) importer specifier)

/-- The answers to questions that are asked one after the other. -/
def answers (s : State) : List NameQuery → List (Result NameAnswer)
  | [] => []
  | query :: rest => outcome query.ask s :: answers (after query.ask s) rest

/-- The state after questions that are asked one after the other. -/
def afterAll (s : State) (queries : List NameQuery) : State :=
  queries.foldl (fun s query => after query.ask s) s

theorem ask_parallel {o : Offset} (query : NameQuery) :
    Parallel o.Alike (NameAnswer.above o.types) query.ask query.ask := by
  cases query with
  | typeOf path name =>
      refine (Checker.declarationByName_parallel path name).bind fun declaration => ?_
      exact (Checker.typeOfDeclaration_parallel declaration).bind fun _ => .done rfl
  | document plan path name =>
      exact (Resolution.resolveDeclaration_parallel plan path name).bind fun _ => .done rfl
  | moduleOf importer specifier =>
      refine Check.program_bind fun program other agrees => .done ?_
      rw [Lookup.module?_of_agrees agrees]
      rfl

/-- Checkers that are alike give the same answers, and are alike ever after. -/
theorem answers_of_alike {o : Offset} {s s' : State} (alike : o.Alike s s')
    (queries : List NameQuery) :
    answers s' queries = (answers s queries).map (Except.map (NameAnswer.above o.types)) ∧
      o.Alike (afterAll s queries) (afterAll s' queries) := by
  induction queries generalizing s s' with
  | nil => exact ⟨rfl, alike⟩
  | cons query rest ih =>
      obtain ⟨first, left⟩ := query.ask_parallel alike
      obtain ⟨others, last⟩ := ih left
      refine ⟨?_, last⟩
      rw [answers, answers, List.map_cons, first, others]

end NameQuery

/-- What a reader sees of a type. -/
structure TypeView where
  category : Result Category
  text : Result String
  tree : Plan → Option Declaration → Result (Option Node)

/-- What a reader would see of a type in a state. -/
def State.view (s : State) (t : TypeId) : TypeView where
  category := outcome (Checker.category t) s
  text := outcome (Checker.text t) s
  tree plan declaration := outcome (Resolution.resolveType plan t declaration) s

theorem Offset.Alike.view {o : Offset} {s s' : State} (alike : o.Alike s s') (t : TypeId) :
    s'.view (o.type t) = s.view t := by
  have same {α : Type} {x y : CheckM α} (parallel : Parallel o.Alike id x y) :
      outcome y s' = outcome x s := by
    rw [(parallel alike).1]
    cases outcome x s <;> rfl
  simp only [State.view, Checker.category, same (Check.category_parallel t),
    same (Checker.text_parallel t), same (Resolution.resolveType_parallel _ t _)]

/-! ## Two checkers of one alias -/

namespace AliasOfString

/-- The alias is documented before the other source is registered. -/
def asking : List Event :=
  [.added "a.ts" source, .asked document (.resolveDeclaration plan "a.ts" "A")]

/-- The other source comes first, and the alias takes the place of something else. -/
def replacing : List Event := [.added "a.ts" statement, .added "b.ts" source]

def replaced : State := State.through {} (replacing ++ [.added "./a.ts" source])

def queries : List NameQuery := [.typeOf "a.ts" "A", .moduleOf "a.ts" "./b"]

theorem latestRoot_asking (file : String) :
    latestRoot? (replacing ++ [.added "./a.ts" source]) file =
      latestRoot? (asking ++ [.added "b.ts" source]) file := by
  have a : Path.normalize "a.ts" = "a.ts" := by with_unfolding_all rfl
  have b : Path.normalize "b.ts" = "b.ts" := by with_unfolding_all rfl
  have dotted : Path.normalize "./a.ts" = "a.ts" := by with_unfolding_all rfl
  simp only [latestRoot?, replacing, asking, List.cons_append, List.nil_append, List.foldl_cons,
    List.foldl_nil, Event.root?, a, b, dotted]
  by_cases first : file = "a.ts" <;> by_cases second : file = "b.ts" <;> simp [first, second]

theorem records_asking :
    (State.through {} (asking ++ [.added "b.ts" source])).records.size = 1 := by
  have named : outcome (Checker.declarationByName "a.ts" "A") registered = .ok declaration := by
    rw [outcome, run_declarationByName]
  have unchanged : after (Checker.declarationByName "a.ts" "A") registered = registered := by
    rw [after, run_declarationByName]
  have typed : outcome (Checker.typeOfDeclaration declaration) registered = .ok 0 := by
    rw [outcome, run_typeOfDeclaration]
  have known : after (Checker.typeOfDeclaration declaration) registered = learned := by
    rw [after, run_typeOfDeclaration]
  have documented : after document registered = learned := by
    rw [document, Resolution.resolveDeclaration, after_bind_ok named, unchanged,
      after_bind_ok typed, known, after, run_resolveType]
  have size : (after document registered).records.size = 1 := by
    rw [documented]
    rfl
  exact size

theorem run_declarationByName_replaced :
    (Checker.declarationByName "a.ts" "A").run.run replaced = (.ok declaration, replaced) := by
  with_unfolding_all rfl

theorem outcome_typeOfDeclaration_replaced :
    outcome (Checker.typeOfDeclaration declaration) replaced = .ok 0 := by
  have expanded : (Checker.typeOfDeclaration declaration).run.run replaced =
      ((Check.primitive .string).run.run { replaced with expanding := [⟨"a.ts", 0, []⟩] }).map
        id fun s => { s with expanding := s.expanding.erase ⟨"a.ts", 0, []⟩ } := by
    with_unfolding_all rfl
  rw [outcome, expanded, Check.primitive, Check.run_intern_of_none Std.HashMap.getElem?_empty]
  rfl

/-- The source that is imported as `./b`. -/
def other : Source := ⟨"b.ts", source, Module.Scope.ofTree source⟩

theorem module_replaced (s : State) (same : s.toProgram = replaced.toProgram) :
    outcome (NameQuery.moduleOf "a.ts" "./b").ask s = .ok (.module (some other)) := by
  have read : outcome (NameQuery.moduleOf "a.ts" "./b").ask s =
      .ok (.module (Lookup.module? s.toProgram "a.ts" "./b")) := rfl
  rw [read, same]
  with_unfolding_all rfl

theorem answers_replaced :
    NameQuery.answers replaced queries =
      [.ok (.type declaration 0), .ok (.module (some other))] := by
  have named : outcome (Checker.declarationByName "a.ts" "A") replaced = .ok declaration := by
    rw [outcome, run_declarationByName_replaced]
  have unchanged : after (Checker.declarationByName "a.ts" "A") replaced = replaced := by
    rw [after, run_declarationByName_replaced]
  have typed : outcome (NameQuery.typeOf "a.ts" "A").ask replaced = .ok (.type declaration 0) := by
    rw [NameQuery.ask, outcome_bind_ok named, unchanged,
      outcome_bind_ok outcome_typeOfDeclaration_replaced]
    rfl
  have inquiry : Inquiry (NameQuery.typeOf "a.ts" "A").ask :=
    .andThen (.declarationByName _ _) fun declaration =>
      .andThen (.typeOfDeclaration declaration) fun _ => .done _
  have program := (inquiry.steady.first replaced).program
  rw [queries, NameQuery.answers, NameQuery.answers, NameQuery.answers, typed,
    module_replaced _ program]

end AliasOfString

open AliasOfString

/-! ## Two checkers -/

/-- Two checkers with the same tree under each path answer all questions about names alike,
if each was given a source last: neither the order of the sources, nor what they replaced,
nor what was asked before shows in the answers, but for the number at which types begin. -/
theorem State.answers_of_latestRoot (settings : SourceSettings) (identity identity' : Nat)
    (history history' : List Event) (path path' : String) (root root' : Tree)
    (same : ∀ file, latestRoot? (history' ++ [.added path' root']) file =
      latestRoot? (history ++ [.added path root]) file)
    (queries : List NameQuery) :
    let s := State.through { identity, settings } (history ++ [.added path root])
    let s' := State.through { identity := identity', settings }
      (history' ++ [.added path' root'])
    (∃ answers : List (Result NameAnswer),
      NameQuery.answers s queries =
        answers.map (Except.map (NameAnswer.above s.records.size)) ∧
      NameQuery.answers s' queries =
        answers.map (Except.map (NameAnswer.above s'.records.size))) ∧
    ∀ t, (NameQuery.afterAll s queries).view (t + s.records.size) =
      (NameQuery.afterAll s' queries).view (t + s'.records.size) := by
  intro s s'
  -- Both are compared with a checker that has the sources of the first and nothing else.
  have agrees : s.toProgram.Agrees s.toProgram := ⟨rfl, fun _ => rfl⟩
  have agrees' : s.toProgram.Agrees s'.toProgram := agrees_of_latestRoot same identity identity'
  obtain ⟨given, alike⟩ := NameQuery.answers_of_alike (alike_fresh_through agrees) queries
  obtain ⟨given', alike'⟩ := NameQuery.answers_of_alike (alike_fresh_through agrees') queries
  refine ⟨⟨NameQuery.answers { toProgram := s.toProgram } queries, given, given'⟩, fun t => ?_⟩
  exact (alike.view t).trans (alike'.view t).symm

/-- One checker has documented the alias before it was given the other source, the other
checker never has; the alias is type 1 of the one and type 0 of the other. -/
theorem State.answers_of_latestRoot_aliasOfString :
    let s := State.through {} (asking ++ [.added "b.ts" source])
    let s' := State.through {} (replacing ++ [.added "./a.ts" source])
    (∀ file, latestRoot? (replacing ++ [.added "./a.ts" source]) file =
      latestRoot? (asking ++ [.added "b.ts" source]) file) ∧
    s.records.size = 1 ∧ s'.records.size = 0 ∧
    NameQuery.answers s' queries = [.ok (.type declaration 0), .ok (.module (some other))] ∧
    NameQuery.answers s queries = [.ok (.type declaration 1), .ok (.module (some other))] ∧
    (NameQuery.afterAll s queries).view 1 = (NameQuery.afterAll s' queries).view 0 := by
  intro s s'
  have one : s.records.size = 1 := records_asking
  have zero : s'.records.size = 0 := rfl
  have given' : NameQuery.answers s' queries = _ := answers_replaced
  obtain ⟨⟨answers, first, second⟩, views⟩ := State.answers_of_latestRoot {} 0 0 asking replacing
    "b.ts" "./a.ts" source source latestRoot_asking queries
  have view := views 0
  change NameQuery.answers s queries = answers.map (Except.map (.above s.records.size)) at first
  change NameQuery.answers s' queries = answers.map (Except.map (.above s'.records.size)) at second
  change (NameQuery.afterAll s queries).view (0 + s.records.size) =
    (NameQuery.afterAll s' queries).view (0 + s'.records.size) at view
  have same : Except.map (NameAnswer.above 0) = (id : Result NameAnswer → _) := by
    rw [NameAnswer.above_zero, Except.map_id]
  rw [zero, same, List.map_id] at second
  rw [one] at first view
  rw [zero] at view
  refine ⟨latestRoot_asking, one, zero, given', ?_, view⟩
  rw [first, ← second, given']
  rfl

end TypeGloss
