/-
# TypeGloss.Proofs.Lookup.Termination — when a look-up ends

A look-up *settles* if from some number of steps on it comes to one and the same result,
which is not that the steps are used up.

Only finitely many questions can be reached, because the modules are finitely many and so
are the names that they speak of. A name in a module is followed once. A name in exports
is followed as often as it is met, but on one way down it is not met again unless names are
passed on in a circle. So a look-up settles that leads to no circle (`settles_of_uncircled`),
by induction on the names in modules that have not been visited, and below it on the order
in which names are passed on.
-/
import TypeGloss.Proofs.Lookup.Search
import TypeGloss.Proofs.Module.Reading
import Mathlib.Data.Finset.Card
import Mathlib.Order.WellFoundedSet

namespace TypeGloss.Lookup

set_option autoImplicit false

variable {program : Program} {space : Space}

/-! ## Settling -/

/-- From some number of steps on, a look-up comes to one result. -/
def Settles (run : Nat → Result Trail) : Prop :=
  ∃ result, Ends result ∧ ∃ enough, ∀ steps, enough ≤ steps → run steps = result

theorem Settles.of_eq {run : Nat → Result Trail} {result : Result Trail} (ends : Ends result)
    (same : ∀ steps, run steps = result) : Settles run :=
  ⟨result, ends, 0, fun steps _ => same steps⟩

theorem Settles.of_succ {run : Nat → Result Trail} (later : Settles fun steps => run (steps + 1)) :
    Settles run := by
  obtain ⟨result, ends, enough, same⟩ := later
  refine ⟨result, ends, enough + 1, fun steps more => ?_⟩
  obtain ⟨fewer, rfl⟩ : ∃ fewer, steps = fewer + 1 := Nat.exists_eq_add_of_le' (by omega)
  exact same fewer (by omega)

/-- The first of several questions settles if every one settles wherever it is asked. -/
theorem settles_firstFound {questions : List Question} {seen : List Visit}
    (each : ∀ question ∈ questions, ∀ later, seen ⊆ later →
      Settles fun steps => search program steps space question later) :
    Settles fun steps => firstFound (search program steps space) questions seen := by
  induction questions generalizing seen with
  | nil => exact .of_eq (.ok (none, seen)) fun _ => rfl
  | cons question rest ih =>
      obtain ⟨result, ends, enough, same⟩ :=
        each question List.mem_cons_self seen (List.Subset.refl _)
      simp only [firstFound_cons]
      rcases result with fault | ⟨_ | found, after⟩
      · exact ⟨.error fault, ends, enough, fun steps more => by simp only [same steps more]⟩
      · have grown : seen ⊆ after := search_grows enough _ _ _ _ (same enough le_rfl)
        obtain ⟨last, lastEnds, lastEnough, lastSame⟩ := ih fun other listed later kept =>
          each other (List.mem_cons_of_mem _ listed) later (List.Subset.trans grown kept)
        refine ⟨last, lastEnds, max enough lastEnough, fun steps more => ?_⟩
        simp only [same steps (le_trans (le_max_left _ _) more)]
        exact lastSame steps (le_trans (le_max_right _ _) more)
      · exact ⟨.ok (some found, after), ends, enough, fun steps more => by simp only [same steps more]⟩

/-! ## Finitely many questions -/

/-- The names that a module speaks of in what it imports, exports and passes on. -/
def spokenOf (source : Source) : List String :=
  match source.scope with
  | .error _ => []
  | .ok scope =>
      scope.imports.filterMap (fun entry => entry.2.imported) ++ Entries.entries scope.exports ++
        scope.reexports.flatMap fun reexport => (reexport.names.map Entries.entries).getD []

theorem name_of_leads {question other : Question} (leads : Leads program space question other) :
    other.name = question.name ∨ other.name ∈ spokenOf question.source := by
  cases leads with
  | imported read undeclared listed present =>
      have member := Entries.mem_of_find?_eq_some listed
      refine .inr ?_
      simp only [spokenOf, Question.source, read, List.mem_append, List.mem_filterMap]
      exact .inl (.inl ⟨_, member, rfl⟩)
  | own read listed =>
      have member := Entries.mem_of_find?_eq_some listed
      refine .inr ?_
      simp only [spokenOf, Question.source, read, List.mem_append, Entries.entries, List.mem_map]
      exact .inl (.inr ⟨_, member, rfl⟩)
  | passed passes =>
      obtain ⟨read, listed, covered, present⟩ := passes
      unfold passedName? at covered
      split at covered
      · split at covered
        · cases covered
        · cases covered
          exact .inl rfl
      · next names known =>
          have member := Entries.mem_of_find?_eq_some covered
          refine .inr ?_
          simp only [spokenOf, Question.source, read, List.mem_append, List.mem_flatMap]
          exact .inr ⟨_, listed, by simpa [known, Entries.entries] using ⟨_, member⟩⟩
  | implicit read declarations silent => exact .inl rfl

/-- The names that can come up when a name is looked up. -/
def namesFrom (program : Program) (name : String) : List String :=
  name :: (Entries.entries program.sources).flatMap spokenOf

/-- The questions that can come up when a name is looked up. -/
def questionsFrom (program : Program) (name : String) : List Question :=
  (Entries.entries program.sources).flatMap fun source =>
    (namesFrom program name).flatMap fun other => [.within source other, .exported source other]

theorem mem_entries_of_has {source : Source} (has : program.Has source) :
    source ∈ Entries.entries program.sources :=
  List.mem_map.2 ⟨_, Entries.mem_of_find?_eq_some has, rfl⟩

/-- The names that are asked for on the way are among those the program can come to. -/
theorem mem_namesFrom_of_reaches (registered : program.IsRegistered) {start goal : Question}
    (has : program.Has start.source) (reached : Reaches program space start goal) :
    goal.name ∈ namesFrom program start.name := by
  induction reached with
  | refl => exact List.mem_cons_self
  | tail before leads ih =>
      rcases name_of_leads leads with same | spoken
      · exact same ▸ ih
      · have known := mem_entries_of_has (has_of_reaches registered before has)
        exact List.mem_cons_of_mem _ (List.mem_flatMap.2 ⟨_, known, spoken⟩)

/-- All that a question leads to is among finitely many questions. -/
theorem mem_questionsFrom_of_reaches (registered : program.IsRegistered) {start goal : Question}
    (has : program.Has start.source) (reached : Reaches program space start goal) :
    goal ∈ questionsFrom program start.name := by
  have known := mem_entries_of_has (has_of_reaches registered reached has)
  have named := mem_namesFrom_of_reaches registered has reached
  refine List.mem_flatMap.2 ⟨goal.source, known, List.mem_flatMap.2 ⟨goal.name, named, ?_⟩⟩
  cases goal <;> simp [Question.source, Question.name]

/-! ## Names that are passed on -/

/-- Where no circle can be reached, passing on names is well-founded. -/
theorem wellFoundedOn_passes (registered : program.IsRegistered) {start : Question}
    (has : program.Has start.source)
    (uncircled : ∀ goal, Reaches program space start goal → ¬ Circular program goal) :
    {goal | Reaches program space start goal}.WellFoundedOn fun other question =>
      Passes program question other := by
  -- On the questions that can be reached, being passed on in any number of steps is a
  -- strict order, and these questions are finitely many.
  let below (other question : Question) : Prop :=
    Reaches program space start question ∧ Relation.TransGen (Passes program) question other
  have onward {question other : Question} (reached : Reaches program space start question)
      (passed : Relation.TransGen (Passes program) question other) :
      Reaches program space start other := by
    induction passed with
    | single passes => exact reached.tail (.passed passes)
    | tail _ passes ih => exact ih.tail (.passed passes)
  have strict : IsStrictOrder Question below :=
    { irrefl := fun question cycle => uncircled question cycle.1 cycle.2
      trans := fun _ _ _ first second => ⟨second.1, second.2.trans first.2⟩ }
  have finite : {goal | Reaches program space start goal}.Finite :=
    (List.finite_toSet (questionsFrom program start.name)).subset
      fun goal reached => mem_questionsFrom_of_reaches registered has reached
  refine (finite.wellFoundedOn (r := below)).mono' fun other _ question reached passes => ?_
  exact ⟨reached, .single passes⟩

/-! ## Names in modules -/

/-- The number of names in modules that can come up and have not been visited. -/
def unvisited (program : Program) (space : Space) (name : String) (seen : List Visit) : Nat :=
  (((questionsFrom program name).map fun question =>
    (question.source.path, question.name, space)).toFinset \ seen.toFinset).card

theorem unvisited_le {name : String} {seen later : List Visit} (kept : seen ⊆ later) :
    unvisited program space name later ≤ unvisited program space name seen := by
  refine Finset.card_le_card (Finset.sdiff_subset_sdiff (Finset.Subset.refl _) ?_)
  intro visit member
  exact List.mem_toFinset.2 (kept (List.mem_toFinset.1 member))

/-- With each new question fewer are left. -/
theorem unvisited_lt {name : String} {question : Question} {seen : List Visit}
    (asked : question ∈ questionsFrom program name)
    (new : (question.source.path, question.name, space) ∉ seen) :
    unvisited program space name ((question.source.path, question.name, space) :: seen) <
      unvisited program space name seen := by
  refine Finset.card_lt_card (Finset.ssubset_iff_of_subset ?_ |>.2 ?_)
  · refine Finset.sdiff_subset_sdiff (Finset.Subset.refl _) fun visit member => ?_
    exact List.mem_toFinset.2 (List.mem_cons_of_mem _ (List.mem_toFinset.1 member))
  · refine ⟨(question.source.path, question.name, space), ?_, ?_⟩
    · simp only [Finset.mem_sdiff, List.mem_toFinset]
      exact ⟨List.mem_map.2 ⟨question, asked, rfl⟩, new⟩
    · simp

/-! ## Look-ups that end -/

theorem scope_ends (registered : program.IsRegistered) {source : Source}
    (has : program.Has source) : Ends source.scope := by
  rw [registered.scope has]
  exact Module.Scope.ofTree_ends source.root

/-- A name in exports settles if everything that it leads to settles. -/
theorem settles_exported (registered : program.IsRegistered) {source : Source} {name : String}
    (has : program.Has source) {seen : List Visit}
    (each : ∀ other, Leads program space (.exported source name) other → ∀ later, seen ⊆ later →
      Settles fun steps => search program steps space other later) :
    Settles fun steps => search program steps space (.exported source name) seen := by
  refine .of_succ ?_
  simp only [search_succ, searchStep]
  have ends := scope_ends registered has
  cases read : source.scope with
  | error fault =>
      rw [read] at ends
      exact .of_eq (.error fun same => ends (congrArg _ same)) fun _ => rfl
  | ok scope =>
      refine settles_firstFound fun other listed later kept => each other ?_ later kept
      rw [← mem_next]
      simpa only [next, read] using listed

/-- A name in a module settles if everything that it leads to settles once the name has
been visited. -/
theorem settles_within (registered : program.IsRegistered) {source : Source} {name : String}
    (has : program.Has source) {seen : List Visit}
    (each : (source.path, name, space) ∉ seen →
      ∀ other, Leads program space (.within source name) other →
        ∀ later, (source.path, name, space) :: seen ⊆ later →
          Settles fun steps => search program steps space other later) :
    Settles fun steps => search program steps space (.within source name) seen := by
  refine .of_succ ?_
  simp only [search_succ, searchStep]
  by_cases visited : (source.path, name, space) ∈ seen
  · simp only [List.contains_iff_mem, visited, if_true]
    exact .of_eq (.ok _) fun _ => rfl
  · simp only [List.contains_iff_mem, visited, if_false]
    have ends := scope_ends registered has
    cases read : source.scope with
    | error fault =>
        rw [read] at ends
        exact .of_eq (.error fun same => ends (congrArg _ same)) fun _ => rfl
    | ok scope =>
        simp only [Bind.bind, Except.bind]
        cases declared : declarations? scope name space with
        | some bindings => exact .of_eq (.ok _) fun _ => rfl
        | none =>
            refine settles_firstFound fun other listed later kept => each visited other ?_ later kept
            rw [← mem_next]
            simpa [next, read, declared] using listed

section Uncircled

variable (registered : program.IsRegistered) {start : Question} (has : program.Has start.source)
  (uncircled : ∀ goal, Reaches program space start goal → ¬ Circular program goal)

include registered has uncircled

/-- Names in exports settle if names in modules do; by induction on the order in which names
are passed on. -/
theorem settles_exported_of_within {count : Nat}
    (inside : ∀ source name later, Reaches program space start (.within source name) →
      unvisited program space start.name later ≤ count →
        Settles fun steps => search program steps space (.within source name) later)
    {question : Question} (reached : Reaches program space start question) :
    ∀ seen, unvisited program space start.name seen ≤ count →
      Settles fun steps => search program steps space question seen := by
  have passing := wellFoundedOn_passes registered has uncircled
  apply passing.induction reached
  intro question reached ih seen few
  cases question with
  | within source name => exact inside source name seen reached few
  | exported source name =>
      have known := has_of_reaches registered reached has
      refine settles_exported registered known fun other leads later kept => ?_
      have fewer := le_trans (unvisited_le kept) few
      cases leads with
      | own read listed => exact inside _ _ later (reached.tail (.own read listed)) fewer
      | passed passes => exact ih _ (reached.tail (.passed passes)) passes later fewer
      | implicit read declarations silent =>
          exact inside _ _ later (reached.tail (.implicit read declarations silent)) fewer

/-- Names in modules settle; by induction on the names that have not been visited. -/
theorem settles_within_of_unvisited (count : Nat) (source : Source) (name : String)
    (seen : List Visit) (reached : Reaches program space start (.within source name))
    (few : unvisited program space start.name seen ≤ count) :
    Settles fun steps => search program steps space (.within source name) seen := by
  induction count generalizing source name seen with
  | zero =>
      have known := has_of_reaches registered reached has
      refine settles_within registered known fun new => ?_
      have less := unvisited_lt (mem_questionsFrom_of_reaches registered has reached) new
      omega
  | succ count ih =>
      have known := has_of_reaches registered reached has
      refine settles_within registered known fun new other leads later kept => ?_
      have less := unvisited_lt (mem_questionsFrom_of_reaches registered has reached) new
      have fewer : unvisited program space start.name later ≤ count :=
        le_trans (unvisited_le kept) (Nat.le_of_lt_succ (lt_of_lt_of_le less few))
      exact settles_exported_of_within registered has uncircled ih (reached.tail leads) later fewer

end Uncircled

/-- A look-up that leads to no circle settles. -/
theorem settles_of_uncircled (registered : program.IsRegistered) {start : Question}
    (has : program.Has start.source)
    (uncircled : ∀ goal, Reaches program space start goal → ¬ Circular program goal)
    (seen : List Visit) : Settles fun steps => search program steps space start seen :=
  settles_exported_of_within registered has uncircled
    (settles_within_of_unvisited registered has uncircled _) .refl seen (Nat.le_refl _)

end TypeGloss.Lookup
