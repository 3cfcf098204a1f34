/-
# TypeGloss.Proofs.Resolution.Yield — what a resolution returns, now and later

A documentation tree is made of answers that the checker gives one after the other, and by
the time the tree is done the checker knows more than it did when it gave the first of them.
Since no answer is taken back, what is said about the tree can be said about the state in
which the checker is in the end, or at any later time.

`Yields law P x`: started from a lawful state, a resolution `x` leaves a lawful state that
extends it, and whatever it returns has the property `P` in every state from then on. Properties
of a composed resolution are put together from those of its parts (`bind`, `mapM`, `foldlM`),
and a question to the checker yields that its answer is found again (`asked`).
-/
import TypeGloss.Proofs.Checker.Request
import TypeGloss.Proofs.Matching
import TypeGloss.Proofs.Resolution.Stability

namespace TypeGloss

set_option autoImplicit false

/-- The answer that a question has in a state. -/
def State.Finds {α : Type} (s : State) (question : CheckM α) (answer : α) : Prop :=
  outcome question s = .ok answer

namespace State.Finds

variable {α : Type} {s later : State} {question : CheckM α} {a b : α}

/-- A question has one answer in a state. -/
theorem unique (found : s.Finds question a) (again : s.Finds question b) : a = b :=
  Except.ok.inj (found.symm.trans again)

/-- An answer is found again after it has been given. -/
theorem keeps (inquiry : Inquiry question) (found : s.Finds question a)
    (extended : (after question s).Extends later) : later.Finds question a :=
  inquiry.steady.again found extended

end State.Finds

/-- What a resolution returns has a property in every state that extends the one it leaves,
which is lawful if the one it started from was, and has a type of its own for every key if that
one had. -/
structure Yields (law : Tree.Law) {α : Type} (P : State → α → Prop) (x : ResolveM α) : Prop where
  lawful : ∀ resolution : Resolution, resolution.checker.Lawful law →
    (after x resolution).checker.Lawful law
  keyed : ∀ resolution : Resolution, resolution.checker.Lawful law → resolution.checker.Keyed →
    (after x resolution).checker.Keyed
  extended : ∀ resolution : Resolution, resolution.checker.Lawful law →
    resolution.checker.Extends (after x resolution).checker
  holds : ∀ (resolution : Resolution) {later : State} {a : α},
    resolution.checker.Lawful law → outcome x resolution = .ok a →
      (after x resolution).checker.Extends later → P later a

namespace Yields

variable {law : Tree.Law} {α β : Type} {P P' : State → α → Prop} {Q : State → β → Prop}

theorem weaken {x : ResolveM α} (yields : Yields law P x) (implies : ∀ s a, P s a → P' s a) :
    Yields law P' x where
  lawful := yields.lawful
  keyed := yields.keyed
  extended := yields.extended
  holds resolution _ _ start returned extended :=
    implies _ _ (yields.holds resolution start returned extended)

theorem and {x : ResolveM α} (yields : Yields law P x) (others : Yields law P' x) :
    Yields law (fun s a => P s a ∧ P' s a) x where
  lawful := yields.lawful
  keyed := yields.keyed
  extended := yields.extended
  holds resolution _ _ start returned extended :=
    ⟨yields.holds resolution start returned extended,
      others.holds resolution start returned extended⟩

theorem pure {a : α} (holds : ∀ s, P s a) : Yields law P (pure a) where
  lawful _ start := start
  keyed _ _ keyed := keyed
  extended _ _ := .refl _
  holds _ _ _ _ returned _ := by
    cases returned
    exact holds _

theorem throw (fault : Fault) : Yields law P (throw fault) where
  lawful _ start := start
  keyed _ _ keyed := keyed
  extended _ _ := .refl _
  holds _ _ _ _ returned _ := by cases returned

/-- The answer to a question is found again, and is as sound as the question. -/
theorem asked {question : CheckM α} {R : α → Prop} (steady : Steady question question)
    (sound : Sound law R question) :
    Yields law (fun s a => s.Finds question a ∧ R a) (liftM question : ResolveM α) where
  lawful _ start := sound.lawful start
  keyed _ start keyed := sound.keyed start keyed
  extended _ _ := steady.first _
  holds _ _ _ start returned extended :=
    ⟨steady.again returned extended, sound.holds start returned⟩

/-- One thing after another. What is known about the first result is known from then on, and
may be used for the second. -/
theorem bind {x : ResolveM α} {f : α → ResolveM β} (first : Yields law P x)
    (rest : ∀ a, (∃ s, P s a) → Yields law (fun s b => P s a → Q s b) (f a)) :
    Yields law Q (x >>= f) where
  lawful resolution start := by
    cases returned : outcome x resolution with
    | error fault =>
        rw [after_bind_error returned]
        exact first.lawful resolution start
    | ok a =>
        rw [after_bind_ok returned]
        have known := first.holds resolution start returned (.refl _)
        exact (rest a ⟨_, known⟩).lawful _ (first.lawful resolution start)
  keyed resolution start keyed := by
    cases returned : outcome x resolution with
    | error fault =>
        rw [after_bind_error returned]
        exact first.keyed resolution start keyed
    | ok a =>
        rw [after_bind_ok returned]
        have known := first.holds resolution start returned (.refl _)
        exact (rest a ⟨_, known⟩).keyed _ (first.lawful resolution start)
          (first.keyed resolution start keyed)
  extended resolution start := by
    cases returned : outcome x resolution with
    | error fault =>
        rw [after_bind_error returned]
        exact first.extended resolution start
    | ok a =>
        rw [after_bind_ok returned]
        have known := first.holds resolution start returned (.refl _)
        exact (first.extended resolution start).trans ((rest a ⟨_, known⟩).extended _ (first.lawful resolution start))
  holds resolution later b start returned extended := by
    obtain ⟨a, before, last⟩ := outcome_bind_eq_ok returned
    have middle := first.lawful resolution start
    have second := rest a ⟨_, first.holds resolution start before (.refl _)⟩
    rw [after_bind_ok before] at extended
    exact second.holds _ middle last extended
      (first.holds resolution start before ((second.extended _ middle).trans extended))

theorem map {x : ResolveM α} {f : α → β} (first : Yields law P x)
    (each : ∀ s a, P s a → Q s (f a)) : Yields law Q (f <$> x) := by
  rw [map_eq_pure_bind]
  exact first.bind fun a _ => pure fun s known => each s a known

/-- A question whose answer matters for nothing but what follows. -/
theorem askThen {question : CheckM α} {R : α → Prop} {f : α → ResolveM β}
    (steady : Steady question question) (sound : Sound law R question)
    (rest : ∀ a, R a → Yields law (fun s b => s.Finds question a → Q s b) (f a)) :
    Yields law Q (liftM question >>= f) :=
  (asked steady sound).bind fun a ⟨_, known⟩ =>
    (rest a known.2).weaken fun _ _ next found => next found.1

theorem doneThen {a : α} {f : α → ResolveM β} (rest : Yields law Q (f a)) :
    Yields law Q (Pure.pure a >>= f) := by
  simpa only [pure_bind] using rest

/-- Every result of a list of resolutions has its property, in the order of the list. -/
theorem mapM {R : State → α → β → Prop} {f : α → ResolveM β} {items : List α}
    (each : ∀ a ∈ items, Yields law (fun s b => R s a b) (f a)) :
    Yields law (fun s bs => List.Forall₂ (R s) items bs) (items.mapM f) := by
  induction items with
  | nil =>
      rw [List.mapM_nil]
      exact pure fun _ => .nil
  | cons item rest ih =>
      rw [List.mapM_cons]
      refine (each item List.mem_cons_self).bind fun b _ => ?_
      refine (ih fun a among => each a (List.mem_cons_of_mem _ among)).bind fun bs _ => ?_
      exact pure fun _ others first => .cons first others

/-- Every result of a list of resolutions has a property. -/
theorem mapM_all {R : State → β → Prop} {f : α → ResolveM β} {items : List α}
    (each : ∀ a ∈ items, Yields law R (f a)) :
    Yields law (fun s bs => ∀ b ∈ bs, R s b) (items.mapM f) := by
  refine (mapM (R := fun s _ b => R s b) each).weaken fun s bs aligned b among => ?_
  obtain ⟨_, -, holds⟩ := exists_of_mem_right aligned among
  exact holds

/-- What is gathered from a list has a property that speaks of the part of the list that has
been gone through. -/
theorem foldlM {R : State → List α → β → Prop} {f : β → α → ResolveM β} {items : List α}
    (each : ∀ before b, ∀ a ∈ items,
      Yields law (fun s next => R s before b → R s (before ++ [a]) next) (f b a))
    (before : List α) (b : β) :
    Yields law (fun s last => R s before b → R s (before ++ items) last)
      (items.foldlM f b) := by
  induction items generalizing before b with
  | nil => exact pure fun _ start => by rwa [List.append_nil]
  | cons item rest ih =>
      rw [List.foldlM_cons]
      refine (each before b item List.mem_cons_self).bind fun next _ => ?_
      have others := ih
        (fun before b a among => each before b a (List.mem_cons_of_mem _ among))
        (before ++ [item]) next
      refine others.weaken fun s last reached step start => ?_
      rw [List.append_cons]
      exact reached (step start)

/-- What is yielded while a type counts as being expanded. -/
theorem expanding {body : Bool → ResolveM α} (each : ∀ entered, Yields law P (body entered))
    (t : TypeId) : Yields law P (ResolveM.expanding t body) where
  lawful resolution start :=
    (each _).lawful { resolution with guard := (resolution.guard.enter t).2 } start
  keyed resolution start keyed :=
    (each _).keyed { resolution with guard := (resolution.guard.enter t).2 } start keyed
  extended resolution start :=
    (each _).extended { resolution with guard := (resolution.guard.enter t).2 } start
  holds resolution _ _ start returned extended :=
    (each _).holds { resolution with guard := (resolution.guard.enter t).2 } start returned
      extended

end Yields

/-- A question to the checker leaves the guard as it is. -/
theorem ResolveM.run_liftM {α : Type} (question : CheckM α) (resolution : Resolution) :
    (liftM question : ResolveM α).run.run resolution =
      (outcome question resolution.checker,
        { resolution with checker := after question resolution.checker }) := rfl

/-- A question to the checker runs within a resolution as it does outside, past the guard. -/
theorem ResolveM.run_liftM_of {α : Type} {question : CheckM α} {s later : State}
    {result : Result α} (run : question.run.run s = (result, later)) (guard : CycleGuard TypeId) :
    (liftM question : ResolveM α).run.run ⟨s, guard⟩ = (result, ⟨later, guard⟩) := by
  rw [run_liftM, outcome, after, run]

/-- A resolution starts with nothing being expanded. -/
theorem Resolution.run_run {α : Type} (body : ResolveM α) (s : State) :
    (Resolution.run body).run.run s =
      ((body.run.run ⟨s, {}⟩).1, (body.run.run ⟨s, {}⟩).2.checker) := rfl

/-- The tree of a type that is neither a leaf nor rejected is what the type is expanded into while
nothing but the type itself is being expanded. At the root it bears what is known about the
declaration. -/
theorem Resolution.run_resolveType_of_expanded {plan : Plan} {fewer : Nat} {t u : TypeId}
    {declaration : Declaration} {category : Category} {context : Context} {node : Node}
    {s simplified sorted met known : State} {guard : CycleGuard TypeId}
    (deep : plan.settings.maxDepth.toNat = fewer + 1)
    (simple : (Checker.simplified t).run.run s = (.ok (some u), simplified))
    (sort : (Checker.category u).run.run simplified = (.ok category, sorted))
    (meets : (Context.ofType u (some declaration)).run.run sorted = (.ok context, met))
    (inner : isLeaf category = false) (admitted : isRejected plan context.metadata = false)
    (expanded : (Builder.expanded plan (resolve plan fewer) u category context).run.run
      ⟨met, ⟨[u]⟩⟩ = (.ok node, ⟨known, guard⟩)) :
    (resolveType plan t (some declaration)).run.run s =
      (.ok (some (node.mapHeader (rootHeader declaration))), known) := by
  have bracketed : (ResolveM.expanding u fun entered =>
        if entered then Builder.expanded plan (resolve plan fewer) u category context
        else return context.reference).run.run ⟨met, {}⟩ =
      (.ok node, ⟨known, guard.close u true⟩) := by
    rw [run_expanding u _ _ (CycleGuard.enter_of_not_mem (by simp)), outcome, after, if_pos rfl,
      expanded]
  have resolved : (resolve plan (fewer + 1) t (some declaration)).run.run ⟨s, {}⟩ =
      (.ok (some node), ⟨known, guard.close u true⟩) := by
    rw [resolve, visit, run_bind_ok (ResolveM.run_liftM_of simple _)]
    dsimp only
    rw [run_bind_ok (ResolveM.run_liftM_of sort _), run_bind_ok (ResolveM.run_liftM_of meets _),
      inner, admitted, if_neg (by simp), if_neg (by simp), map_eq_pure_bind,
      run_bind_ok bracketed]
    rfl
  have ran : (Resolution.run (resolve plan plan.settings.maxDepth.toNat t (some declaration))).run.run
      s = (.ok (some node), known) := by
    rw [deep, run_run, resolved]
  exact run_bind_ok ran

/-- A question of several parts is asked part by part. -/
theorem ResolveM.liftM_bind {α β : Type} (x : CheckM α) (f : α → CheckM β) :
    (liftM (x >>= f) : ResolveM β) = liftM x >>= fun a => liftM (f a) := by
  refine ExceptT.ext (funext fun resolution => ?_)
  refine Eq.trans ?_ (run_bind (liftM x : ResolveM α) (fun a => liftM (f a)) resolution).symm
  have first : outcome (liftM x : ResolveM α) resolution = outcome x resolution.checker := rfl
  refine (run_liftM (x >>= f) resolution).trans ?_
  rw [first]
  cases returned : outcome x resolution.checker with
  | error fault =>
      rw [outcome_bind_error returned, after_bind_error returned]
      rfl
  | ok a =>
      rw [outcome_bind_ok returned, after_bind_ok returned]
      rfl

/-! ## Questions of all kinds -/

section Free

theorem Declaration.obeys_free (declaration : Declaration) : declaration.Obeys .free :=
  fun node _ => node.obeys_free

theorem Source.obeys_free (source : Source) : source.Obeys .free :=
  fun _ _ _ _ _ _ binding _ => binding.node.obeys_free

theorem Symbol.obeys_free (symbol : Symbol) : symbol.Obeys .free where
  declaration declaration _ := declaration.obeys_free
  member member _ := ⟨member.place.source.obeys_free, fun node _ => node.obeys_free⟩

/-- What is written without a name obeys no law that there is. -/
theorem TypeRecord.Lawful.of_written {r : TypeRecord} (shape : r.shape = .written)
    (unnamed : r.IsUnnamed) (local_ : r.libraryFile = none) (cache : r.cache.Lawful .free) :
    r.Lawful .free where
  facts := {
    node := fun node _ => node.obeys_free
    place := fun place _ => place.source.obeys_free
    bindings := fun binding _ => binding.node.obeys_free
    symbol := fun symbol _ => symbol.obeys_free
    shape := by rw [shape]; trivial
    utility := fun same => by rw [shape] at same; cases same
    computed := fun _ _ => unnamed
    object := fun _ _ _ => unnamed
    library := fun file found => by rw [local_] at found; cases found }
  cache := cache

end Free

/-- No inquiry breaks the law that everything obeys. -/
theorem Inquiry.request {α : Type} {question : CheckM α} (inquiry : Inquiry question) :
    Request .free question := by
  have ofFacts {β : Type} (t : TypeId) (f : TypeFacts → CheckM β)
      (rest : ∀ r s, after (f r) s = s) : Request .free (Check.facts t >>= f) :=
    .andThen (.reading (Check.after_facts t)) fun r => .reading (rest r)
  have ofPart {β : Type} (categories : List Category) (t : TypeId) (part : Part)
      (f : Option part.Content → β) :
      Request .free (do return f (← Checker.partOf? categories t part)) :=
    .andThen (.part categories t part) fun _ => .reading fun _ => rfl
  induction inquiry with
  | own handle => exact .reading (Checker.own_timeless handle).unchanged
  | source path => exact .reading (Checker.source_timeless path).unchanged
  | category t => exact ofFacts t _ fun _ _ => rfl
  | text t => exact .text t
  | simplified t => exact .simplified t
  | symbol t => exact ofFacts t _ fun _ _ => rfl
  | name t => exact ofFacts t _ fun _ _ => rfl
  | arguments t => exact ofFacts t _ fun _ _ => rfl
  | literalValue t => exact ofFacts t _ fun _ _ => rfl
  | primitive t => exact ofFacts t _ fun _ _ => rfl
  | unionMembers t => exact ofPart _ t .members _
  | intersectionMembers t => exact ofPart _ t .members _
  | element t => exact .part _ t .element
  | tupleItems t => exact ofPart _ t .elements _
  | enumMembers t => exact ofPart _ t .enumMembers _
  | classMembers t => exact ofPart _ t .classMembers _
  | properties t => exact .properties t
  | indexes t => exact .indexes t
  | calls t => exact ofPart _ t .calls _
  | constructs t => exact ofPart _ t .constructs _
  | isAnonymousObject t => exact ofFacts t _ fun _ _ => rfl
  | typeOfSymbol symbol => exact .typeOfSymbol symbol.obeys_free
  | typeOfDeclaration declaration => exact .typeOfDeclaration declaration.obeys_free
  | declarationByName path name =>
      exact .reading (Checker.declarationByName_timeless path name).unchanged
  | isExported declaration => exact .reading (Checker.isExported_timeless declaration).unchanged
  | typeLocation t =>
      refine ofFacts t _ fun r _ => ?_
      split <;> rfl
  | libraryLocation t => exact ofFacts t _ fun _ _ => rfl
  | constantAt declaration name =>
      exact .reading (Checker.constantAt?_timeless declaration name).unchanged
  | defaultOf declaration initializer patterns =>
      exact .reading (Checker.defaultOf_timeless declaration initializer patterns).unchanged
  | done a => exact .reading fun _ => rfl
  | failed fault => exact .reading fun _ => rfl
  | andThen first rest ih ihs => exact .andThen ih ihs

end TypeGloss
