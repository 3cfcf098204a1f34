/-
# TypeGloss.Proofs.Lookup.Search — a look-up finds what can be reached

What a look-up comes to, in any number of steps:

* a declaration that it finds can be reached (`declares_of_search`);
* a fault that it comes to is that of a module that can be reached and cannot be read, or
  the steps are used up (`unread_of_search`);
* if it finds nothing, everything that can be reached has been explored, and nothing of it
  is a declaration (`explored_of_reaches`).

The names that are being looked up in modules are shared between all branches of a
look-up, so a name that is met again is not followed again. That nothing is lost by this
is the content of `explored_of_search`: a run that finds nothing leaves behind it no visited
name with a way out that has not been followed.
-/
import TypeGloss.Proofs.Lookup.Graph

namespace TypeGloss.Lookup

set_option autoImplicit false

variable {program : Program} {space : Space}

/-! ## The first of several questions -/

section FirstFound

variable {ask : Question → List Visit → Result Trail} {questions : List Question}
  {seen after : List Visit}

/-- What several questions come to is what one of them comes to, unless it is nothing. -/
theorem answered_of_firstFound {answer : Result Trail} (run : firstFound ask questions seen = answer)
    (something : ∀ later, answer ≠ .ok (none, later)) :
    ∃ question ∈ questions, ∃ before, ask question before = answer := by
  induction questions generalizing seen with
  | nil => exact absurd run.symm (something seen)
  | cons question rest ih =>
      rw [firstFound_cons] at run
      split at run
      · obtain ⟨other, listed, before, later⟩ := ih run
        exact ⟨other, List.mem_cons_of_mem _ listed, before, later⟩
      · exact ⟨question, List.mem_cons_self, seen, run⟩

/-- Answers that forget no visit. -/
def Grows (ask : Question → List Visit → Result Trail) : Prop :=
  ∀ (question : Question) (seen after : List Visit) (found : Option Found),
    ask question seen = .ok (found, after) → seen ⊆ after

theorem Grows.firstFound (grows : Grows ask) {found : Option Found}
    (run : firstFound ask questions seen = .ok (found, after)) : seen ⊆ after := by
  induction questions generalizing seen with
  | nil =>
      cases run
      exact List.Subset.refl _
  | cons question rest ih =>
      rw [firstFound_cons] at run
      split at run
      · next middle first => exact List.Subset.trans (grows _ _ _ _ first) (ih run)
      · exact grows _ _ _ _ run

/-- If nothing is found, every question was answered with nothing, and what was visited
meanwhile was visited for one of them. -/
theorem nothing_of_firstFound (grows : Grows ask)
    (run : firstFound ask questions seen = .ok (none, after)) :
    (∀ question ∈ questions, ∃ before since,
      ask question before = .ok (none, since) ∧ since ⊆ after) ∧
    ∀ visit ∈ after, visit ∈ seen ∨ ∃ question ∈ questions, ∃ before since,
      ask question before = .ok (none, since) ∧ since ⊆ after ∧ visit ∈ since ∧
        visit ∉ before := by
  induction questions generalizing seen with
  | nil =>
      cases run
      exact ⟨by simp, fun visit member => .inl member⟩
  | cons question rest ih =>
      rw [firstFound_cons] at run
      split at run
      · next middle first =>
          have later := grows.firstFound run
          obtain ⟨answered, visited⟩ := ih run
          constructor
          · intro other listed
            rcases List.mem_cons.1 listed with rfl | listed
            · exact ⟨seen, middle, first, later⟩
            · exact answered other listed
          · intro visit member
            rcases visited visit member with early | ⟨other, listed, run⟩
            · by_cases known : visit ∈ seen
              · exact .inl known
              · exact .inr ⟨question, List.mem_cons_self, seen, middle, first, later, early, known⟩
            · exact .inr ⟨other, List.mem_cons_of_mem _ listed, run⟩
      · next something => exact absurd run (something after)

end FirstFound

/-! ## What a look-up finds -/

theorem search_grows (steps : Nat) : Grows (search program steps space) := by
  induction steps with
  | zero =>
      intro question seen after found run
      simp [search_zero] at run
  | succ steps ih =>
      intro question seen after found run
      rw [search_succ] at run
      have cases := searchStep_cases program space (search program steps space) question seen
      rw [run] at cases
      generalize step : (Except.ok (found, after) : Result Trail) = result at cases
      cases cases with
      | again visited =>
          cases step
          exact List.Subset.refl _
      | unreadable unread => cases step
      | declared declares =>
          cases step
          cases declares
          exact List.subset_cons_self _ _
      | onward read undeclared unvisited =>
          have kept := ih.firstFound step.symm
          cases question with
          | within source name => exact List.Subset.trans (List.subset_cons_self _ _) kept
          | exported source name => exact kept

/-- What a look-up finds is declared where the look-up leads. -/
theorem declares_of_search {steps : Nat} {question : Question} {seen after : List Visit}
    {found : Found} (run : search program steps space question seen = .ok (some found, after)) :
    ∃ goal, Reaches program space question goal ∧ Declares space goal found := by
  induction steps generalizing question seen after with
  | zero => simp [search_zero] at run
  | succ steps ih =>
      rw [search_succ] at run
      have cases := searchStep_cases program space (search program steps space) question seen
      rw [run] at cases
      generalize step : (Except.ok (some found, after) : Result Trail) = result at cases
      cases cases with
      | again visited => cases step
      | unreadable unread => cases step
      | declared declares =>
          cases step
          exact ⟨question, .refl, declares⟩
      | onward read undeclared unvisited =>
          obtain ⟨other, listed, before, run⟩ := answered_of_firstFound step.symm (by simp)
          obtain ⟨goal, reached, declares⟩ := ih run
          exact ⟨goal, .head (mem_next.1 listed) reached, declares⟩

/-- A look-up fails only if it leads to a module that cannot be read, or runs out of
steps. -/
theorem unread_of_search {steps : Nat} {question : Question} {seen : List Visit} {fault : Fault}
    (run : search program steps space question seen = .error fault) :
    fault = .exhausted ∨
      ∃ goal, Reaches program space question goal ∧ goal.source.scope = .error fault := by
  induction steps generalizing question seen with
  | zero =>
      rw [search_zero] at run
      cases run
      exact .inl rfl
  | succ steps ih =>
      rw [search_succ] at run
      have cases := searchStep_cases program space (search program steps space) question seen
      rw [run] at cases
      generalize step : (Except.error fault : Result Trail) = result at cases
      cases cases with
      | again visited => cases step
      | unreadable unread =>
          cases step
          exact .inr ⟨question, .refl, unread⟩
      | declared declares => cases step
      | onward read undeclared unvisited =>
          obtain ⟨other, listed, before, run⟩ := answered_of_firstFound step.symm (by simp)
          rcases ih run with exhausted | ⟨goal, reached, unread⟩
          · exact .inl exhausted
          · exact .inr ⟨goal, .head (mem_next.1 listed) reached, unread⟩

/-! ## Sources under their paths -/

/-- The source that an import means is a source of the program. -/
theorem has_of_module? (registered : program.IsRegistered) {importer specifier : String}
    {target : Source} (present : module? program importer specifier = some target) :
    program.Has target := by
  obtain ⟨path, -, found⟩ := List.exists_of_findSome?_eq_some present
  rw [Program.Has, registered.path found]
  exact found

/-- A step leads from a file of the program to a file of the program. -/
theorem has_of_leads (registered : program.IsRegistered) {question other : Question}
    (leads : Leads program space question other) (has : program.Has question.source) :
    program.Has other.source := by
  cases leads with
  | imported read undeclared listed present => exact has_of_module? registered present
  | own read listed => exact has
  | passed passes =>
      obtain ⟨read, listed, covered, present⟩ := passes
      exact has_of_module? registered present
  | implicit read declarations silent => exact has

/-- What can be reached from a file of the program is in the program. -/
theorem has_of_reaches (registered : program.IsRegistered) {question goal : Question}
    (reached : Reaches program space question goal) (has : program.Has question.source) :
    program.Has goal.source := by
  induction reached with
  | refl => exact has
  | tail _ leads ih => exact has_of_leads registered leads ih

/-! ## A look-up that finds nothing -/

/-- A run that finds nothing has met a name again, or has looked in vain wherever its
question leads. -/
inductive Vain (program : Program) (space : Space) (steps : Nat) :
    Question → List Visit → List Visit → Prop where
  | again {source : Source} {name : String} {seen : List Visit}
      (visited : (source.path, name, space) ∈ seen) :
      Vain program space steps (.within source name) seen seen
  | onward {question : Question} {seen after : List Visit} (fewer : Nat) (less : fewer < steps)
      (undeclared : ∀ found, ¬ Declares space question found)
      (marked : question.mark space seen ⊆ after)
      (answered : ∀ other, Leads program space question other → ∃ before since,
        search program fewer space other before = .ok (none, since) ∧ since ⊆ after)
      (visited : ∀ visit ∈ after, visit ∈ question.mark space seen ∨
        ∃ other, Leads program space question other ∧ ∃ before since,
          search program fewer space other before = .ok (none, since) ∧ since ⊆ after ∧
            visit ∈ since ∧ visit ∉ before) :
      Vain program space steps question seen after

/-- A search that finds nothing has explored all that it came to. -/
theorem vain_of_search {steps : Nat} {question : Question} {seen after : List Visit}
    (run : search program steps space question seen = .ok (none, after)) :
    Vain program space steps question seen after := by
  cases steps with
  | zero => simp [search_zero] at run
  | succ fewer =>
      rw [search_succ] at run
      have cases := searchStep_cases program space (search program fewer space) question seen
      rw [run] at cases
      generalize step : (Except.ok (none, after) : Result Trail) = result at cases
      cases cases with
      | again visited =>
          cases step
          exact .again visited
      | unreadable unread => cases step
      | declared declares => cases step
      | onward read undeclared unvisited =>
          have grows : Grows (search program fewer space) := search_grows fewer
          obtain ⟨answered, visited⟩ := nothing_of_firstFound grows step.symm
          refine .onward fewer (Nat.lt_succ_self fewer) undeclared (grows.firstFound step.symm)
            (fun other leads => answered other (mem_next.2 leads)) fun visit member => ?_
          rcases visited visit member with early | ⟨other, listed, late⟩
          · exact .inl early
          · exact .inr ⟨other, mem_next.1 listed, late⟩

/-- A question has been followed: a name in a module has been visited, and a look-up of a
name in exports has come to nothing. -/
def Explored (program : Program) (space : Space) (seen : List Visit) : Question → Prop
  | .within source name => (source.path, name, space) ∈ seen
  | .exported source name => ∃ steps before after,
      search program steps space (.exported source name) before = .ok (none, after) ∧ after ⊆ seen

/-- A visited name is not declared, and everything that it leads to has been followed. -/
structure Spent (program : Program) (space : Space) (seen : List Visit) (source : Source)
    (name : String) : Prop where
  undeclared : ∀ found, ¬ Declares space (.within source name) found
  followed : ∀ other, Leads program space (.within source name) other →
    Explored program space seen other

/-- A question stays explored as more is visited. -/
theorem Explored.mono {seen later : List Visit} (kept : seen ⊆ later) {question : Question}
    (explored : Explored program space seen question) :
    Explored program space later question := by
  cases question with
  | within source name => exact kept explored
  | exported source name =>
      obtain ⟨steps, before, after, run, subset⟩ := explored
      exact ⟨steps, before, after, run, List.Subset.trans subset kept⟩

/-- A name that is spent in a file stays so as more is visited. -/
theorem Spent.mono {seen later : List Visit} (kept : seen ⊆ later) {source : Source}
    {name : String} (spent : Spent program space seen source name) :
    Spent program space later source name :=
  ⟨spent.undeclared, fun other leads => (spent.followed other leads).mono kept⟩

/-- A run that finds nothing has followed its question. -/
theorem explored_of_search {steps : Nat} {question : Question} {seen after : List Visit}
    (run : search program steps space question seen = .ok (none, after)) :
    Explored program space after question := by
  cases question with
  | exported source name => exact ⟨steps, seen, after, run, List.Subset.refl _⟩
  | within source name =>
      cases vain_of_search run with
      | again visited => exact visited
      | onward fewer less undeclared marked answered visited => exact marked List.mem_cons_self

/-- A run that finds nothing leaves nothing unfollowed of what it has visited. -/
theorem spent_of_search (registered : program.IsRegistered) {steps : Nat} {question : Question}
    {seen after : List Visit} (has : program.Has question.source)
    (run : search program steps space question seen = .ok (none, after)) {source : Source}
    {name : String} (known : program.Has source) (member : (source.path, name, space) ∈ after)
    (new : (source.path, name, space) ∉ seen) : Spent program space after source name := by
  induction steps using Nat.strongRecOn generalizing question seen after with
  | ind steps ih =>
      cases vain_of_search run with
      | again visited => exact absurd member new
      | onward fewer less undeclared marked answered visited =>
          rcases visited _ member with early | ⟨other, leads, before, since, run, kept, late, unseen⟩
          · -- The visit is that of the question itself.
            cases question with
            | exported _ _ => exact absurd early new
            | within asked askedName =>
                obtain same | early := List.mem_cons.1 early
                · have samePath : source.path = asked.path := congrArg Prod.fst same
                  obtain rfl : name = askedName := congrArg (fun visit => visit.2.1) same
                  obtain rfl : source = asked := by
                    rw [Program.Has, samePath] at known
                    exact Option.some.inj (known.symm.trans has)
                  refine ⟨undeclared, fun other leads => ?_⟩
                  obtain ⟨before, since, run, kept⟩ := answered other leads
                  exact (explored_of_search run).mono kept
                · exact absurd early new
          · exact (ih fewer less (has_of_leads registered leads has) run late unseen).mono kept

/-- After a look-up that began with nothing visited and found nothing, everything that can
be reached has been followed. -/
theorem explored_of_reaches (registered : program.IsRegistered) {steps : Nat}
    {question goal : Question} {after : List Visit} (has : program.Has question.source)
    (run : search program steps space question [] = .ok (none, after))
    (reached : Reaches program space question goal) : Explored program space after goal := by
  induction reached with
  | refl => exact explored_of_search run
  | @tail middle goal before leads ih =>
      have known := has_of_reaches registered before has
      cases middle with
      | within source name =>
          exact (spent_of_search registered has run known ih (by simp)).followed goal leads
      | exported source name =>
          obtain ⟨steps, early, late, run, kept⟩ := ih
          cases vain_of_search run with
          | onward fewer less undeclared marked answered visited =>
              obtain ⟨before, since, run, sooner⟩ := answered goal leads
              exact (explored_of_search run).mono (List.Subset.trans sooner kept)

/-- A look-up that began with nothing visited and found nothing leads to no
declaration. -/
theorem undeclared_of_search (registered : program.IsRegistered) {steps : Nat}
    {question goal : Question} {after : List Visit} (has : program.Has question.source)
    (run : search program steps space question [] = .ok (none, after))
    (reached : Reaches program space question goal) (found : Found) :
    ¬ Declares space goal found := by
  intro declares
  have explored := explored_of_reaches registered has run reached
  have known := has_of_reaches registered reached has
  cases declares with
  | @within source name scope bindings read declared =>
      exact (spent_of_search registered has run known explored (by simp)).undeclared _
        (.within read declared)

/-! ## Circles -/

/-- Where nothing is found, nothing was found in the modules that names are passed on from. -/
theorem passed_of_search {steps : Nat} {question other : Question} {seen after : List Visit}
    (passes : Passes program question other)
    (run : search program steps space question seen = .ok (none, after)) :
    ∃ fewer < steps, ∃ before since,
      search program fewer space other before = .ok (none, since) := by
  cases vain_of_search run with
  | again visited => cases passes
  | onward fewer less undeclared marked answered visited =>
      obtain ⟨before, since, run, -⟩ := answered other (.passed passes)
      exact ⟨fewer, less, before, since, run⟩

/-- A search that finds nothing has searched wherever it is passed on to, with fewer steps. -/
theorem passed_of_transGen {question other : Question}
    (passed : Relation.TransGen (Passes program) question other) {steps : Nat}
    {seen after : List Visit}
    (run : search program steps space question seen = .ok (none, after)) :
    ∃ fewer < steps, ∃ before since,
      search program fewer space other before = .ok (none, since) := by
  induction passed with
  | single passes => exact passed_of_search passes run
  | tail _ passes ih =>
      obtain ⟨fewer, less, before, since, run⟩ := ih
      obtain ⟨fewest, least, rest⟩ := passed_of_search passes run
      exact ⟨fewest, Nat.lt_trans least less, rest⟩

/-- A look-up that comes to a name that is passed on in a circle does not come to
nothing: it would have to come to nothing there in fewer and fewer steps. -/
theorem ne_nothing_of_circular {question : Question} (circular : Circular program question)
    (steps : Nat) (seen after : List Visit) :
    search program steps space question seen ≠ .ok (none, after) := by
  induction steps using Nat.strongRecOn generalizing seen after with
  | ind steps ih =>
      intro run
      obtain ⟨fewer, less, before, since, run⟩ := passed_of_transGen circular run
      exact ih fewer less before since run

end TypeGloss.Lookup
