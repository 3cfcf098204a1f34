/-
# TypeGloss.Proofs.Checker.Exclusion — members that are dropped, and `never` in their place

To drop the members of a union that are assignable to some type, there is a utility type, and
there is the conditional type `T extends U ? never : T`; to keep them, likewise. The utility type
makes the union of the members that it keeps. The conditional type is distributed over the
members and makes the union of its branches, and a union is made of what it is made of: `never`
is a member like others.

`exclusion_and_choice` compares the two for unions of literals. Both rules are followed step by
step, from any state in which their types are flat (`Computed.ensures_utility`,
`Conditional.ensures_conditional`), and what a rule comes to is what the computed type is
simplified to (`State.ensures_simplified`). The members that are kept are the same in the same
order. Beside them, the conditional type has `never` as soon as a member is dropped.
-/
import TypeGloss.Proofs.Checker.FlatUnions

namespace TypeGloss

set_option autoImplicit false

open Answer (answer)

/-! ## Literals among others -/

namespace State

variable {s later : State} {t u m : TypeId} {members literals : List TypeId}

/-- The literals that are among others, or those that are not, each once. -/
def filtered (s : State) (extract : Bool) (members literals : List TypeId) : List TypeId :=
  (members.filter fun m => s.hasLiteral literals m == extract).eraseDups

/-- What passes a test of literals stays what passes it. -/
theorem Retains.filtered (retained : s.Retains later) (each : ∀ m ∈ members, s.IsLiteral m)
    (each' : ∀ w ∈ literals, s.IsLiteral w) (extract : Bool) :
    later.filtered extract members literals = s.filtered extract members literals := by
  rw [State.filtered, State.filtered]
  congr 1
  refine List.filter_congr fun m among => ?_
  rw [retained.hasLiteral (each m among) each']

/-- A type is the union of those literals of one type that are among those of another, or of
those that are not. -/
def IsFiltered (s : State) (extract : Bool) (t u x : TypeId) : Prop :=
  ∃ members literals, s.Literals t members ∧ s.Literals u literals ∧
    s.Unites x (s.filtered extract members literals)

theorem comes_literalCategory {inv : State → Prop} (is : ∀ s, inv s → s.IsLiteral m) :
    Comes inv (fun _ => Check.category m) .literal := by
  refine Ensures.ofRun fun s here => ⟨.literal, s, fun _ => ?_, rfl, here⟩
  obtain ⟨r, known, isLiteral⟩ := is s here
  exact Check.has_category (isLiteral.1 ▸ State.tells_category known)

/-- The literals that are among others, or those that are not, and another type in place of the
rest, each once. -/
def replaced (s : State) (extract : Bool) (other : TypeId) (members literals : List TypeId) :
    List TypeId :=
  (members.map fun m => if s.hasLiteral literals m == extract then m else other).eraseDups

/-- Members that are literals are replaced alike in every later state. -/
theorem Retains.replaced (retained : s.Retains later) (each : ∀ m ∈ members, s.IsLiteral m)
    (each' : ∀ w ∈ literals, s.IsLiteral w) (extract : Bool) (other : TypeId) :
    later.replaced extract other members literals = s.replaced extract other members literals := by
  rw [State.replaced, State.replaced]
  congr 1
  refine List.map_congr_left fun m among => ?_
  rw [retained.hasLiteral (each m among) each']

/-- Some of the literals are not kept. -/
def Drops (s : State) (extract : Bool) (members literals : List TypeId) : Prop :=
  ∃ m ∈ members, (s.hasLiteral literals m == extract) = false

/-- Members that are literals are dropped alike in every later state. -/
theorem Retains.drops (retained : s.Retains later) (each : ∀ m ∈ members, s.IsLiteral m)
    (each' : ∀ w ∈ literals, s.IsLiteral w) {extract : Bool} :
    later.Drops extract members literals ↔ s.Drops extract members literals := by
  refine exists_congr fun m => and_congr_right fun among => ?_
  rw [retained.hasLiteral (each m among) each']

/-- A type is the union of those literals of one type that are among those of another, or of
those that are not, with `never` in place of the others. -/
def IsReplaced (s : State) (extract : Bool) (t u y : TypeId) : Prop :=
  ∃ members literals never, s.Literals t members ∧ s.Literals u literals ∧
    (s.Drops extract members literals → s.IsNever never) ∧
    s.Unites y (s.replaced extract never members literals)

/-- How a literal fared in the comparison with the literals of a type. -/
def Compared (s : State) (u m : TypeId) (verdict : Bool) : Prop :=
  s.IsLiteral m ∧ ∃ literals, s.Literals u literals ∧ verdict = s.hasLiteral literals m

theorem Compared.extends {verdict : Bool} (extended : s.Extends later)
    (compared : s.Compared u m verdict) : later.Compared u m verdict := by
  obtain ⟨is, literals, found, same⟩ := compared
  have retained := Retains.ofExtends extended
  refine ⟨retained.isLiteral is, literals, retained.literals found, ?_⟩
  rw [same, retained.hasLiteral is fun w among => found.isLiteral among]

theorem Compared.eq {verdict : Bool} (found : s.Literals u literals)
    (compared : s.Compared u m verdict) : verdict = s.hasLiteral literals m := by
  obtain ⟨-, others, found', same⟩ := compared
  rw [same, found.unique found']

/-- The members of a flat type are compared with a flat type, one by one. -/
theorem ensures_allCompared (t u : TypeId) (members : List TypeId) :
    Ensures (fun s => s.Ready t u ∧ s.Literals t members)
      (fun ask => members.mapM fun m => do return (m, ← ask.assignable m u))
      fun pairs left => (left.Ready t u ∧ left.Literals t members) ∧
        List.Forall₂ (fun m pair => pair.1 = m ∧ left.Compared u m pair.2) members pairs := by
  refine Ensures.mapM (fun m among => ?_) (fun limit m => ?_) ?_
  · have compared := (ensures_compared t u m).frame
      (fun limit => ((Answer.reliable_answer limit).assignable m u).first)
      fun _ _ extended (found : State.Literals _ t members) =>
        (Retains.ofExtends extended).literals found
    refine (compared.consequence (fun s here => ⟨⟨here.1, here.2.isLiteral among⟩, here.2⟩)
      fun _ _ => id).bind fun verdict => .pure ?_
    rintro left ⟨⟨⟨ready, is⟩, others⟩, found⟩
    exact ⟨⟨ready, found⟩, rfl, is, others⟩
  · exact ((Answer.reliable_answer limit).assignable m u).first.bind fun _ => .pure _
  · exact fun m pair s later extended ⟨same, compared⟩ => ⟨same, compared.extends extended⟩

/-- All members were compared with the same literals. -/
theorem literals_of_compared {pairs : List (TypeId × Bool)} (inhabited : members ≠ [])
    (compared : List.Forall₂ (fun m pair => pair.1 = m ∧ s.Compared u m pair.2) members pairs) :
    ∃ literals, s.Literals u literals ∧
      pairs = members.map fun m => (m, s.hasLiteral literals m) := by
  have some : ∃ literals, s.Literals u literals := by
    cases compared with
    | nil => exact absurd rfl inhabited
    | cons first _ =>
        obtain ⟨-, -, literals, found, -⟩ := first
        exact ⟨literals, found⟩
  obtain ⟨literals, found⟩ := some
  refine ⟨literals, found, ?_⟩
  clear inhabited
  induction compared with
  | nil => rfl
  | @cons m pair _ _ first _ ih =>
      have same : pair = (m, s.hasLiteral literals m) := Prod.ext first.1 (first.2.eq found)
      rw [List.map_cons, same, ih]

end State

/-! ## The filtering utility types -/

/-- The utility type that keeps the members that are assignable, or the one that drops them. -/
def filterName (extract : Bool) : String :=
  if extract then "Extract" else "Exclude"

/-- A filtering utility type is the union of the literals that its name says. -/
theorem Computed.ensures_utility (extract : Bool) (t u e : TypeId) :
    Ensures (fun s => s.Ready t u) (fun ask => utility ask e (filterName extract) [t, u])
      fun found left => ∃ x, found = some x ∧ left.IsFiltered extract t u x := by
  have filters : Library.filteringUtilities.contains (filterName extract) = true := by
    cases extract <;> decide
  have compares : filterName extract ≠ "NonNullable" := by cases extract <;> decide
  have kept : (filterName extract == "Extract") = extract := by cases extract <;> decide
  simp only [utility, Check.needFirst, pure_bind, filters, if_true]
  refine (State.comes_simplified fun s ready => ready.first).then_ ?_
  simp only [filterMembers, compares, if_false, kept]
  refine (State.ensures_alternatives t u).bind fun members => ?_
  refine (State.comes_simplified fun s ready => ready.1.second).then_ ?_
  refine (State.ensures_allCompared t u members).bind fun pairs => ?_
  refine .ofEach fun s here => ?_
  obtain ⟨⟨ready, found⟩, compared⟩ := here
  obtain ⟨literals, found', rfl⟩ := State.literals_of_compared found.ne_nil compared
  have same : ((members.map fun m => (m, s.hasLiteral literals m)).filter
      fun pair => pair.2 == extract).map Prod.fst =
        members.filter fun m => s.hasLiteral literals m == extract := by
    simp [List.filter_map, Function.comp_def]
  simp only [same, map_eq_pure_bind]
  refine (s.ensures_unionOfTypes ready.keeps fun m among => ?_).bind fun x => .pure ?_
  · obtain ⟨r, known, isLiteral⟩ := found.isLiteral (List.mem_of_mem_filter among)
    exact ⟨r, known, by simp [isLiteral.1]⟩
  · rintro left ⟨⟨added, -⟩, unites⟩
    have retained := State.Retains.ofExtends added.toExtends
    refine ⟨x, rfl, members, literals, retained.literals found, retained.literals found', ?_⟩
    rwa [retained.filtered (fun _ => found.isLiteral) fun _ => found'.isLiteral]

/-! ## Conditional types that filter -/

/-- A node that is a name of a type and nothing else. -/
structure IsTypeName (name : String) (node : Cursor) : Prop where
  kind : node.kind = "type_identifier"
  text : node.text = name
  bare : node.focus.children = []

/-- At a place where a name stands for a type, the name is that type. -/
theorem IsTypeName.comes {name : String} {node : Cursor} (isName : IsTypeName name node)
    {place : Place} {t : TypeId} (complete : place.blanks = [])
    (stands : Entries.find? name place.env = some t) (inv : State → Prop) :
    Comes inv (fun ask => ask.typeAt node place) t := by
  have form : Form.ofNode node = .simple name [] := by
    simp [Form.ofNode, isName.kind, isName.text, Grammar.annotations]
  refine Ensures.asked ?_
  simp only [Answer.step, Form.read_ofNode, form, Form.read,
    Reference.simple_of_bound (Reference.known_of_complete complete _ _) List.isEmpty_nil stands]
  exact Comes.pure t

/-- A node that is the name of the type without values. -/
structure IsNeverName (node : Cursor) : Prop where
  kind : node.kind = "predefined_type"
  text : node.text = "never"

/-- The name `never` is read as the one type of that primitive. -/
theorem IsUpheld.neverName {inv : State → Prop} (upheld : IsUpheld inv) {node : Cursor}
    (isNever : IsNeverName node) (place : Place) :
    Ensures inv (fun ask => ask.typeAt node place) fun t left =>
      inv left ∧ left.interned[Key.primitive .never]? = some t := by
  have form : Form.ofNode node = .keyword := by
    simp [Form.ofNode, isNever.kind, Grammar.annotations]
  have keyword : TypeSyntax.keyword "never" = Check.primitive .never := rfl
  refine Ensures.asked ?_
  simp only [Answer.step, Form.read_ofNode, form, Form.read, isNever.text, keyword]
  exact upheld.never

/-- A place that is made anew binds what it was given and leaves no blanks. -/
theorem IsUpheld.newPlace {inv : State → Prop} (upheld : IsUpheld inv) (source : Source)
    (env : Env) : Ensures inv (fun _ => Check.newPlace source env) fun place left =>
      inv left ∧ place.env = env ∧ place.blanks = [] := by
  refine Ensures.ofRun fun s here => ⟨_, _, fun _ => rfl, ?_, rfl, rfl⟩
  have added : s.Adds { s with frames := s.frames.push env } := ⟨.frames s _, id⟩
  exact upheld.adds here added ((upheld.keeps here).ofRetains (.ofExtends added.toExtends) rfl)

/-- Where nothing was inferred, a branch is read with what is bound there. -/
theorem IsUpheld.branchPlace {inv : State → Prop} (upheld : IsUpheld inv) (source : Source)
    (bound : Env) : Ensures inv (fun _ => Conditional.branchPlace source bound []) fun place left =>
      inv left ∧ place.env = bound ∧ place.blanks = [] :=
  (upheld.newPlace source bound).bind fun _ => .pure fun _ ⟨here, env, _⟩ => ⟨here, env, rfl⟩

/-- What stands in place of a literal: it is kept, or there is `never`. -/
def State.Replaces (s : State) (extract : Bool) (u m b : TypeId) : Prop :=
  ∃ verdict, s.Compared u m verdict ∧
    if verdict == extract then b = m else s.interned[Key.primitive .never]? = some b

theorem State.Replaces.extends {s later : State} {extract : Bool} {u m b : TypeId}
    (extended : s.Extends later) (replaces : s.Replaces extract u m b) :
    later.Replaces extract u m b := by
  obtain ⟨verdict, compared, what⟩ := replaces
  refine ⟨verdict, compared.extends extended, ?_⟩
  split at what
  · next kept => rwa [if_pos kept]
  · next dropped =>
      rw [if_neg dropped]
      exact extended.interned what

/-- All literals were compared with the same ones, and all that are not kept were replaced by the
same type. -/
theorem State.literals_of_replaces {s : State} {extract : Bool} {u : TypeId}
    {members results : List TypeId} (inhabited : members ≠ [])
    (replaces : List.Forall₂ (s.Replaces extract u) members results) :
    ∃ literals never, s.Literals u literals ∧
      (s.Drops extract members literals → s.interned[Key.primitive .never]? = some never) ∧
      results = members.map fun m =>
        if s.hasLiteral literals m == extract then m else never := by
  have some : ∃ literals, s.Literals u literals := by
    cases replaces with
    | nil => exact absurd rfl inhabited
    | cons first _ =>
        obtain ⟨-, ⟨-, literals, found, -⟩, -⟩ := first
        exact ⟨literals, found⟩
  obtain ⟨literals, found⟩ := some
  refine ⟨literals, (s.interned[Key.primitive .never]?).getD 0, found, ?_⟩
  clear inhabited
  induction replaces with
  | nil => simp [State.Drops]
  | @cons m b members results first _ ih =>
      obtain ⟨verdict, compared, what⟩ := first
      obtain ⟨earlier, same⟩ := ih
      rw [compared.eq found] at what
      split at what
      · next kept =>
          refine ⟨?_, by rw [List.map_cons, if_pos kept, what, ← same]⟩
          rintro ⟨other, among, dropped⟩
          rcases List.mem_cons.1 among with rfl | among
          · cases kept.symm.trans dropped
          · exact earlier ⟨other, among, dropped⟩
      · next dropped =>
          have made : b = (s.interned[Key.primitive .never]?).getD 0 := by rw [what]; rfl
          exact ⟨fun _ => made ▸ what, by rw [List.map_cons, if_neg dropped, ← same, ← made]⟩

namespace Conditional

/-- A conditional type that is written to keep the members of one parameter that are assignable
to another, and to come to `never` for the others; or the other way round. -/
structure IsFilter (extract : Bool) (parameter pattern : String) (choice : Choice) : Prop where
  checks : IsTypeName parameter choice.checked
  against : IsTypeName pattern choice.pattern
  keeps : IsTypeName parameter (if extract then choice.whenTrue else choice.whenFalse)
  drops : IsNeverName (if extract then choice.whenFalse else choice.whenTrue)

variable {extract : Bool} {parameter pattern : String} {choice : Choice}
  (isFilter : IsFilter extract parameter pattern choice) {place : Place} {t u m : TypeId}
  (complete : place.blanks = [])

include isFilter complete

/-- A member is fitted against the name of a union by comparing it with the union. -/
theorem ensures_fits (stands : Entries.find? pattern place.env = some u) :
    Ensures (fun s => s.Ready t u ∧ s.IsLiteral m)
      (fun ask => ask.fits (some m) choice.pattern place [])
      fun result left => left.Ready t u ∧ result.2 = [] ∧ left.Compared u m result.1 := by
  have closed : hasVariables choice.pattern = false := by
    obtain ⟨kind, -, bare⟩ := isFilter.against
    unfold Cursor.kind Tree.kind at kind
    rw [hasVariables]
    cases tree : choice.pattern.focus with
    | node mark children =>
        rw [tree] at kind bare
        simp only [Tree.mark, Tree.children] at kind bare
        simp [Tree.containsKind, bare, Tree.anyContainsKind, kind]
  refine Ensures.asked ?_
  simp only [Answer.step, fits, closed, Bool.not_false, if_true]
  refine (isFilter.against.comes complete stands _).then_ ?_
  refine (State.comes_simplified fun s ready => ready.1.second).then_ ?_
  refine (Comes.pure m).then_ ((State.ensures_compared t u m).bind fun verdict => .pure ?_)
  rintro left ⟨⟨ready, is⟩, others⟩
  exact ⟨ready, rfl, is, others⟩

/-- The branch for a literal is the literal itself or `never`. -/
theorem ensures_branch (stands : Entries.find? pattern place.env = some u) :
    Ensures (fun s => s.Ready t u ∧ s.IsLiteral m)
      (fun ask => branch ask place choice parameter m)
      fun b left => left.Ready t u ∧ left.Replaces extract u m b := by
  refine (ensures_fits isFilter complete stands).bind fun result => ?_
  obtain ⟨verdict, inferred⟩ := result
  refine .ofEach fun s here => ?_
  obtain ⟨ready, nothing, compared⟩ := here
  cases nothing
  -- From here on nothing happens but that types are made.
  have upheld := s.isUpheld_adds
  have start (later : State) (same : later = s) : s.Adds later ∧ later.KeepsKeys :=
    same ▸ ⟨.refl later, same ▸ ready.keeps⟩
  have finish (left : State) (here : s.Adds left ∧ left.KeepsKeys) :
      left.Ready t u ∧ left.Compared u m verdict :=
    ⟨⟨here.2, ready.first.adds here.1, ready.second.adds here.1⟩,
      compared.extends here.1.toExtends⟩
  refine ((upheld.branchPlace _ _).consequence start fun _ _ => id).bind fun inside => ?_
  refine .ofEach fun later there => ?_
  obtain ⟨here, env, complete⟩ := there
  by_cases kept : (verdict == extract) = true
  · have same : (if verdict = true then choice.whenTrue else choice.whenFalse) =
        if extract then choice.whenTrue else choice.whenFalse := by
      rw [beq_iff_eq.1 kept]
    have bound : Entries.find? parameter inside.env = some m := by
      rw [env]
      exact Entries.find?_put_self ..
    simp only [same]
    refine (isFilter.keeps.comes complete bound _).consequence (fun _ => id) ?_
    rintro _ left ⟨rfl, rfl⟩
    obtain ⟨ready, compared⟩ := finish left here
    exact ⟨ready, verdict, compared, by rw [if_pos kept]⟩
  · have same : (if verdict = true then choice.whenTrue else choice.whenFalse) =
        if extract then choice.whenFalse else choice.whenTrue := by
      cases verdict <;> cases extract <;> simp_all
    simp only [same]
    refine (upheld.neverName isFilter.drops inside).consequence (fun _ same => same ▸ here) ?_
    rintro b left ⟨there, made⟩
    obtain ⟨ready, compared⟩ := finish left there
    exact ⟨ready, verdict, compared, by rwa [if_neg kept]⟩

/-- The branches for the members of a flat type. -/
theorem ensures_branches (stands : Entries.find? pattern place.env = some u)
    {members candidates : List TypeId} (among : ∀ c ∈ candidates, c ∈ members) :
    Ensures (fun s => s.Ready t u ∧ s.Literals t members)
      (fun ask => branches? ask place choice (some parameter) candidates)
      fun found left => ∃ results, found = some results ∧
        (left.Ready t u ∧ left.Literals t members) ∧
          List.Forall₂ (left.Replaces extract u) candidates results := by
  have stays (s later : State) (extended : s.Extends later) (found : s.Literals t members) :
      later.Literals t members := (State.Retains.ofExtends extended).literals found
  induction candidates with
  | nil => exact .pure fun _ here => ⟨[], rfl, here, .nil⟩
  | cons c rest ih =>
      obtain ⟨listed, others⟩ := List.forall_mem_cons.1 among
      simp only [branches?_cons]
      refine (State.comes_literalCategory fun s here => here.2.isLiteral listed).then_ ?_
      simp only [reduceCtorEq, if_false]
      have first := (ensures_branch (t := t) isFilter complete stands).frame
        (fun limit =>
          (branch_steady (Answer.reliable_answer limit) place choice parameter c).first) stays
      refine (first.consequence (fun s here => ⟨⟨here.1, here.2.isLiteral listed⟩, here.2⟩)
        fun _ _ => id).bind fun b => ?_
      have second := (ih others).frame
        (fun limit => branches?_conservative (Answer.reliable_answer limit) place choice _ rest)
        fun _ _ extended (replaces : State.Replaces _ extract u c b) => replaces.extends extended
      refine (second.consequence (fun s here => ⟨⟨here.1.1, here.2⟩, here.1.2⟩)
        fun _ _ => id).bind fun found => .pure ?_
      rintro left ⟨⟨results, rfl, here, each⟩, replaces⟩
      exact ⟨b :: results, rfl, here, .cons replaces each⟩

/-- A conditional type that filters is the union of the literals it keeps and of `never` in place
of the others. -/
theorem ensures_conditional {node : Cursor} (parts : choice? node = some choice)
    (stands : Entries.find? parameter place.env = some t)
    (stands' : Entries.find? pattern place.env = some u) (c : TypeId) :
    Ensures (fun s => s.Ready t u ∧ ∃ r, s.records[t]? = some r ∧ r.category = .union)
      (fun ask => conditional ask c node place)
      fun found left => ∃ y, found = some y ∧ left.IsReplaced extract t u y := by
  have distributed : distributed? choice place.env .union = some parameter := by
    obtain ⟨kind, text, -⟩ := isFilter.checks
    have bare : choice.checked.unwrapParens = choice.checked := by
      rw [Cursor.unwrapParens, if_neg (by simp [kind])]
    simp [distributed?, bare, kind, text, Entries.has, stands]
  refine .ofEach fun s here => ?_
  obtain ⟨ready, r, known, isUnion⟩ := here
  have onward (later : State) (same : later = s) : s.Extends later := same ▸ .refl s
  simp only [conditional, parts]
  refine (isFilter.checks.comes complete stands _).then_ ?_
  refine (State.comes_simplified fun later same => same ▸ ready.first).then_ ?_
  refine (Comes.category onward known).then_ ?_
  simp only [isUnion, distributed, Option.isSome_some, if_true]
  refine (State.ensures_members ready.keeps ready.first ⟨r, known, isUnion⟩).bind fun members => ?_
  simp only [united, map_eq_pure_bind, bind_assoc]
  have branched := ensures_branches (t := t) isFilter complete stands' fun c (among : c ∈ members) => among
  refine (branched.consequence ?_ fun _ _ => id).bind fun found => ?_
  · rintro later ⟨keeps, found, -, flat⟩
    exact ⟨⟨keeps, flat t ready.first, flat u ready.second⟩, found⟩
  refine .ofEach fun later here => ?_
  obtain ⟨results, same, ⟨ready', listed⟩, replaces⟩ := here
  obtain ⟨literals, never, listed', made, rfl⟩ :=
    State.literals_of_replaces listed.ne_nil replaces
  subst same
  refine (later.ensures_unionOfTypes ready'.keeps fun b among => ?_).bind fun y => .pure ?_
  · obtain ⟨m, there, rfl⟩ := List.mem_map.1 among
    split
    · obtain ⟨r, known, isLiteral⟩ := listed.isLiteral there
      exact ⟨r, known, by simp [isLiteral.1]⟩
    · next dropped =>
        obtain ⟨r, known, category, -⟩ := ready'.keeps (made ⟨m, there, by simpa using dropped⟩)
        exact ⟨r, known, by simp [category]⟩
  · rintro left ⟨⟨added, keeps⟩, unites⟩
    have retained := State.Retains.ofExtends added.toExtends
    refine ⟨y, rfl, members, literals, never, retained.literals listed, retained.literals listed',
      ?_, ?_⟩
    · intro drops
      rw [retained.drops (fun _ => listed.isLiteral) fun _ => listed'.isLiteral] at drops
      exact retained.isNever (ready'.keeps (made drops))
    · rwa [retained.replaced (fun _ => listed.isLiteral) fun _ => listed'.isLiteral]

end Conditional

/-! ## Filtered types that are simplified -/

/-- A computed type that has not been simplified, and is not being simplified. -/
structure State.Pending (s : State) (e : TypeId) (r : TypeRecord) : Prop where
  known : s.records[e]? = some r
  computed : r.category = .computed
  unknown : r.cache.simplified = none
  idle : .simplified ∉ r.loading

namespace State

variable {s : State} {t u e : TypeId} {r : TypeRecord}

theorem Ready.mark (ready : s.Ready t u) (pending : s.Pending e r) :
    (s.mark e .simplified).Ready t u := by
  have retained : s.Retains (s.mark e .simplified) :=
    .update s e (fun _ => rfl) fun _ _ _ there => there
  have flat {t : TypeId} (flat : s.Flat t) : (s.mark e .simplified).Flat t := by
    have different : e ≠ t := by
      rintro rfl
      rcases flat.cases with ⟨r', known, is, -⟩ | ⟨r', known, is, -⟩ <;>
        cases pending.known.symm.trans known <;> cases is.symm.trans pending.computed
    cases flat with
    | found literals => exact .found (retained.literals literals)
    | written known isUnion unnamed shape at_ in_ unknown idle inhabited each =>
        refine .written ?_ isUnion unnamed shape at_ in_ unknown idle inhabited each
        rw [State.mark, State.Extends.records_update, if_neg different, known]
  exact ⟨ready.keeps.mark e .simplified, flat ready.first, flat ready.second⟩

/-- A union of types that need no computation needs none. -/
theorem Unites.plain {x : TypeId} {types : List TypeId} (unites : s.Unites x types)
    (each : ∀ m ∈ types, ∃ r, s.records[m]? = some r ∧ r.category ≠ .computed) :
    ∃ r, s.records[x]? = some r ∧ r.category ≠ .computed := by
  match types with
  | [] =>
      obtain ⟨r, known, category, -⟩ := unites
      exact ⟨r, known, by simp [category]⟩
  | [m] =>
      obtain rfl : x = m := unites
      exact each x List.mem_cons_self
  | first :: second :: rest =>
      obtain ⟨r, known, isUnion, -⟩ := unites
      exact ⟨r, known, by simp [isUnion]⟩

/-- What one step of computation comes to is what the type is simplified to, if nothing is to
be computed in it. The step is taken while the type is marked, and then kept. -/
theorem Pending.ensures_simplified (pending : s.Pending e r)
    {rule : Ask → CheckM (Option TypeId)}
    (found : ∀ ask, Answer.loader? ask e r .simplified = some (rule ask))
    {holds : TypeId → State → Prop}
    (plain : ∀ {x : TypeId} {left : State}, holds x left →
      ∃ r, left.records[x]? = some r ∧ r.category ≠ .computed)
    (ensures : Ensures (· = s.mark e .simplified) rule fun found inside =>
      ∃ x, found = some x ∧ holds x ((inside.unmark e .simplified).keepPart e .simplified found)) :
    Ensures (· = s) (fun ask => ask.simplified e)
      fun found left => ∃ x, found = some x ∧ holds x left := by
  have onward (later : State) (same : later = s) : s.Extends later := same ▸ .refl s
  have content : r.cache.get? .simplified = none := pending.unknown
  have loaded := (Ensures.load pending.known content pending.idle found ensures).growing
    fun limit => ((Answer.reliable_answer limit).load? e .simplified).first
  refine Ensures.asked ?_
  simp only [Answer.step, Structure.simplified, Structure.maxSteps]
  unfold Structure.simplifiedIn
  refine (Comes.category onward pending.known).then_ ?_
  simp only [pending.computed, ne_eq, not_true_eq_false, if_false]
  refine loaded.bind fun result => ?_
  refine .ofEach fun left here => ?_
  obtain ⟨⟨_, inside, same, ⟨x, came, here⟩, after⟩, extended⟩ := here
  subst same came
  rw [← after] at here
  obtain ⟨r', known', other⟩ := plain here
  have different : x ≠ e := by
    rintro rfl
    obtain ⟨r'', known'', grows⟩ := extended.records pending.known
    cases known'.symm.trans known''
    exact other ((congrArg TypeFacts.category grows.facts).trans pending.computed)
  simp only [Option.join_some, different, if_false]
  unfold Structure.simplifiedIn
  refine (Comes.category (fun later same => same ▸ .refl left) known').then_ ?_
  simp only [other, ne_eq, not_false_eq_true, if_true]
  exact .pure fun later same => ⟨x, rfl, same ▸ here⟩

/-- What holds after one step of computation and is kept when nothing is forgotten. -/
theorem ensures_simplified (pending : s.Pending e r) {rule : Ask → CheckM (Option TypeId)}
    (found : ∀ ask, Answer.loader? ask e r .simplified = some (rule ask))
    {holds : State → TypeId → Prop}
    (retains : ∀ {s later : State} {x : TypeId}, s.Retains later → holds s x → holds later x)
    (plain : ∀ {s : State} {x : TypeId}, holds s x →
      ∃ r, s.records[x]? = some r ∧ r.category ≠ .computed)
    (ensures : Ensures (· = s.mark e .simplified) rule
      fun found left => ∃ x, found = some x ∧ holds left x) :
    Ensures (· = s) (fun ask => ask.simplified e)
      fun found left => ∃ x, found = some x ∧ holds left x := by
  refine pending.ensures_simplified found (fun here => plain here)
    (ensures.consequence (fun _ => id) fun found inside here => ?_)
  obtain ⟨x, came, there⟩ := here
  exact ⟨x, came,
    retains ((Retains.unmark inside e .simplified).trans (.keepSimplified _ e _)) there⟩

/-- What is filtered stays so as long as the state retains its literals. -/
theorem IsFiltered.retains {later : State} {extract : Bool} {x : TypeId}
    (retained : s.Retains later) (filtered : s.IsFiltered extract t u x) :
    later.IsFiltered extract t u x := by
  obtain ⟨members, literals, found, found', unites⟩ := filtered
  refine ⟨members, literals, retained.literals found, retained.literals found', ?_⟩
  rw [retained.filtered (fun _ => found.isLiteral) fun _ => found'.isLiteral]
  exact retained.unites unites

theorem IsFiltered.plain {extract : Bool} {x : TypeId} (filtered : s.IsFiltered extract t u x) :
    ∃ r, s.records[x]? = some r ∧ r.category ≠ .computed := by
  obtain ⟨members, literals, found, -, unites⟩ := filtered
  refine unites.plain fun m among => ?_
  obtain ⟨r, known, is⟩ :=
    found.isLiteral (List.mem_of_mem_filter (List.mem_eraseDups.1 among))
  exact ⟨r, known, by simp [is.1]⟩

/-- What is replaced stays so as long as the state retains its literals. -/
theorem IsReplaced.retains {later : State} {extract : Bool} {y : TypeId}
    (retained : s.Retains later) (replaced : s.IsReplaced extract t u y) :
    later.IsReplaced extract t u y := by
  obtain ⟨members, literals, never, found, found', isNever, unites⟩ := replaced
  refine ⟨members, literals, never, retained.literals found, retained.literals found', ?_, ?_⟩
  · intro drops
    rw [retained.drops (fun _ => found.isLiteral) fun _ => found'.isLiteral] at drops
    exact retained.isNever (isNever drops)
  · rw [retained.replaced (fun _ => found.isLiteral) fun _ => found'.isLiteral]
    exact retained.unites unites

theorem IsReplaced.plain {extract : Bool} {y : TypeId} (replaced : s.IsReplaced extract t u y) :
    ∃ r, s.records[y]? = some r ∧ r.category ≠ .computed := by
  obtain ⟨members, literals, never, found, -, isNever, unites⟩ := replaced
  refine unites.plain fun b among => ?_
  obtain ⟨m, there, rfl⟩ := List.mem_map.1 (List.mem_eraseDups.1 among)
  split
  · obtain ⟨r, known, is⟩ := found.isLiteral there
    exact ⟨r, known, by simp [is.1]⟩
  · next dropped =>
      obtain ⟨r, known, category, -⟩ := isNever ⟨m, there, by simpa using dropped⟩
      exact ⟨r, known, by simp [category]⟩

/-- A filtering utility type that has not been simplified, applied to two types. -/
def AppliesUtility (s : State) (extract : Bool) (e t u : TypeId) : Prop :=
  ∃ r, s.Pending e r ∧ r.shape = .utility (filterName extract) ∧ r.args = [t, u]

/-- A conditional type that filters, as it is written, and has not been simplified. It is read
where its parameters stand for two types. -/
def AppliesChoice (s : State) (extract : Bool) (c t u : TypeId) : Prop :=
  ∃ r node place choice parameter pattern, s.Pending c r ∧ r.shape = .written ∧
    r.node = some node ∧ r.place = some place ∧ node.kind = "conditional_type" ∧
    Conditional.choice? node = some choice ∧
    Conditional.IsFilter extract parameter pattern choice ∧
    Entries.find? parameter (s.frames.getD place.frame []) = some t ∧
    Entries.find? pattern (s.frames.getD place.frame []) = some u

/-- A filtering utility type is simplified to the union of the literals it keeps. -/
theorem ensures_filtered (extract : Bool) (t u e : TypeId) :
    Ensures (fun s => s.Ready t u ∧ s.AppliesUtility extract e t u) (fun ask => ask.simplified e)
      fun found left => ∃ x, found = some x ∧ left.IsFiltered extract t u x := by
  refine .ofEach fun s here => ?_
  obtain ⟨ready, r, pending, shape, args⟩ := here
  refine ensures_simplified pending (fun ask => ?_) (fun retained => .retains retained)
    IsFiltered.plain ((Computed.ensures_utility extract t u e).consequence
      (fun _ same => same ▸ ready.mark pending) fun _ _ => id)
  simp [Answer.loader?, shape, args]

/-- A conditional type that filters is simplified to the union of the literals it keeps and of
`never`. -/
theorem ensures_replaced (extract : Bool) (t u e : TypeId) :
    Ensures (fun s => (s.Ready t u ∧ ∃ r, s.records[t]? = some r ∧ r.category = .union) ∧
        s.AppliesChoice extract e t u) (fun ask => ask.simplified e)
      fun found left => ∃ y, found = some y ∧ left.IsReplaced extract t u y := by
  refine .ofEach fun s here => ?_
  obtain ⟨⟨ready, union⟩, r, node, place, choice, parameter, pattern, pending, shape, at_, in_,
    kind, parts, isFilter, stands, stands'⟩ := here
  have loader (ask : Ask) : Answer.loader? ask e r .simplified =
      some (Check.upToDate place >>= Conditional.conditional ask e node) := by
    simp [Answer.loader?, shape, Answer.written?, pending.computed, Answer.syntaxOf, at_, in_,
      Check.need, kind]
  have marked : (s.mark e .simplified).Ready t u ∧
      ∃ r, (s.mark e .simplified).records[t]? = some r ∧ r.category = .union := by
    have retained : s.Retains (s.mark e .simplified) :=
      .update s e (fun _ => rfl) fun _ _ _ there => there
    exact ⟨ready.mark pending, retained.record (P := (·.category = .union)) union⟩
  refine ensures_simplified pending loader (fun retained => .retains retained) IsReplaced.plain ?_
  have read : Comes (· = s.mark e .simplified) (fun _ => Check.upToDate place)
      (s.current place) := by
    refine Ensures.ofRun ?_
    rintro _ rfl
    exact ⟨_, _, fun _ => rfl, rfl, rfl⟩
  refine read.then_ ((Conditional.ensures_conditional isFilter rfl parts ?_ ?_ e).consequence
    (fun _ same => same ▸ marked) fun _ _ => id)
  · exact stands
  · exact stands'

/-- If nothing is dropped, nothing is put in the place of another. -/
theorem replaced_of_not_drops {extract : Bool} {members literals : List TypeId}
    (keeps : ¬s.Drops extract members literals) (other : TypeId) :
    s.replaced extract other members literals = s.filtered extract members literals := by
  have kept (m : TypeId) (among : m ∈ members) : (s.hasLiteral literals m == extract) = true := by
    by_contra dropped
    exact keeps ⟨m, among, by simpa using dropped⟩
  rw [replaced, filtered, List.filter_eq_self.2 kept]
  congr 1
  refine (List.map_congr_left fun m among => ?_).trans (List.map_id members)
  rw [if_pos (kept m among)]
  rfl

/-- The literals that are kept, and `never` beside them if others are not. -/
theorem filter_replaced {extract : Bool} {members literals : List TypeId} {never : TypeId}
    (found : s.Literals t members) (isNever : s.IsNever never)
    (drops : s.Drops extract members literals) :
    never ∈ s.replaced extract never members literals ∧
      (s.replaced extract never members literals).filter (· != never) =
        s.filtered extract members literals := by
  have new : never ∉ members := by
    intro among
    obtain ⟨r, known, category, -⟩ := isNever
    obtain ⟨r', known', is⟩ := found.isLiteral among
    cases known.symm.trans known'
    cases category.symm.trans is.1
  exact ⟨(mem_eraseDups_map_iff new).2 drops, filter_eraseDups_map new⟩

/-- If nothing is kept, only `never` is left. -/
theorem replaced_of_filtered_nil {extract : Bool} {members literals : List TypeId}
    (inhabited : members ≠ []) (nothing : s.filtered extract members literals = [])
    (other : TypeId) : s.replaced extract other members literals = [other] := by
  refine eraseDups_of_all_eq (by simpa using inhabited) fun b among => ?_
  obtain ⟨m, there, rfl⟩ := List.mem_map.1 among
  rw [if_neg]
  intro kept
  have listed : m ∈ s.filtered extract members literals :=
    List.mem_eraseDups.2 (List.mem_filter.2 ⟨there, kept⟩)
  rw [nothing] at listed
  cases listed

end State

/-- Let one type be a union of literals and another a literal or a union of literals, whether or
not they have been looked at. The filtering utility type of the two and the conditional type that
is written to the same effect are both simplified. The first comes to the literals that it keeps,
each once, in their order. The second comes to the same literals in the same order, but `never`
stands among them as soon as one is dropped; so the two agree if nothing is dropped, and if
nothing is kept, when both are `never`. -/
theorem exclusion_and_choice {s : State} {extract : Bool} {t u e c : TypeId}
    (ready : s.Ready t u) (union : ∃ r, s.records[t]? = some r ∧ r.category = .union)
    (utility : s.AppliesUtility extract e t u) (choice : s.AppliesChoice extract c t u) :
    (Ensures (· = s) (fun ask => ask.simplified e) fun found left => s.Extends left ∧
      ∃ x members literals, found = some x ∧
        left.Literals t members ∧ left.Literals u literals ∧
        left.Unites x (left.filtered extract members literals)) ∧
    Ensures (· = s) (fun ask => ask.simplified c) fun found left => s.Extends left ∧
      ∃ y members literals never, found = some y ∧
        left.Literals t members ∧ left.Literals u literals ∧
        left.Unites y (left.replaced extract never members literals) ∧
        (¬left.Drops extract members literals →
          left.replaced extract never members literals =
            left.filtered extract members literals) ∧
        (left.Drops extract members literals →
          left.IsNever never ∧ never ∈ left.replaced extract never members literals ∧
            (left.replaced extract never members literals).filter (· != never) =
              left.filtered extract members literals) ∧
        (left.filtered extract members literals = [] → left.Unites y []) := by
  have onward (e : TypeId) : ∀ limit, Conservative ((answer limit).simplified e) :=
    fun limit => ((Answer.reliable_answer limit).simplified e).first
  have stays (a b : State) (further : a.Extends b) (extended : s.Extends a) : s.Extends b :=
    extended.trans further
  constructor
  · refine ((State.ensures_filtered extract t u e).frame (onward e) stays).consequence
      (by rintro _ rfl; exact ⟨⟨ready, utility⟩, .refl _⟩) ?_
    rintro found left ⟨⟨x, rfl, members, literals, rest⟩, extended⟩
    exact ⟨extended, x, members, literals, rfl, rest⟩
  · refine ((State.ensures_replaced extract t u c).frame (onward c) stays).consequence
      (by rintro _ rfl; exact ⟨⟨⟨ready, union⟩, choice⟩, .refl _⟩) ?_
    rintro found left ⟨⟨y, rfl, members, literals, never, listed, listed', isNever, unites⟩,
      extended⟩
    refine ⟨extended, y, members, literals, never, rfl, listed, listed', unites,
      fun keeps => State.replaced_of_not_drops keeps never,
      fun drops => ⟨isNever drops, State.filter_replaced listed (isNever drops) drops⟩,
      fun nothing => ?_⟩
    rw [State.replaced_of_filtered_nil listed.ne_nil nothing] at unites
    obtain rfl : y = never := unites
    refine isNever ?_
    by_contra keeps
    have same := State.replaced_of_not_drops keeps y
    rw [State.replaced_of_filtered_nil listed.ne_nil nothing, nothing] at same
    cases same

/-! ### Three texts without the first

`Exclude<'a' | 'b' | 'c', 'a'>`, and `T extends U ? never : T` where `T` stands for the union and
`U` for the text. -/

namespace WithoutFirst

def token (kind text : String) (field : Option String) : Tree :=
  .node { (default : Mark) with kind, text, named := field.isSome, field } []

def choice : Cursor :=
  .ofTree (.node { (default : Mark) with kind := "conditional_type" }
    [token "type_identifier" "T" (some "left"), token "extends" "extends" none,
      token "type_identifier" "U" (some "right"), token "?" "?" none,
      token "predefined_type" "never" (some "consequence"), token ":" ":" none,
      token "type_identifier" "T" (some "alternative")])

def literal (text : String) : TypeRecord :=
  { category := .literal, primitive := some .string, value := .text text }

/-- The texts, their union, and the two computed types. -/
def state : State :=
  { records := #[literal "a", literal "b", literal "c",
      { category := .union, cache := { members := some [0, 1, 2] } },
      { category := .computed, shape := .utility "Exclude", args := [3, 0] },
      { category := .computed, shape := .written, node := some choice,
        place := some { source := default, env := [], frame := 1 } }]
    frames := #[[], [("T", 3), ("U", 0)]] }

theorem isLiteral {m : TypeId} (among : m ∈ [0, 1, 2]) : state.IsLiteral m := by
  simp only [List.mem_cons, List.not_mem_nil, or_false] at among
  rcases among with rfl | rfl | rfl <;>
    exact ⟨_, rfl, rfl, .string, rfl, by decide, by decide, by decide⟩

theorem union_literals : state.Literals 3 [0, 1, 2] :=
  .union rfl rfl rfl rfl (List.cons_ne_nil _ _) fun _ => isLiteral

theorem first_literals : state.Literals 0 [0] := .single (isLiteral (by simp))

theorem ready : state.Ready 3 0 where
  keeps key t made := by simp [state] at made
  first := .found union_literals
  second := .found first_literals

theorem appliesUtility : state.AppliesUtility false 4 3 0 :=
  ⟨_, ⟨rfl, rfl, rfl, List.not_mem_nil⟩, rfl, rfl⟩

theorem appliesChoice : state.AppliesChoice false 5 3 0 := by
  have written : state.Pending 5 _ := ⟨rfl, rfl, rfl, List.not_mem_nil⟩
  refine ⟨_, choice, { source := default, env := [], frame := 1 }, _, "T", "U", written, rfl, rfl,
    rfl, rfl, rfl, ?_, rfl, rfl⟩
  exact ⟨⟨rfl, rfl, rfl⟩, ⟨rfl, rfl, rfl⟩, ⟨rfl, rfl, rfl⟩, ⟨rfl, rfl⟩⟩

end WithoutFirst

open WithoutFirst in
/-- The utility type is the union of the other two texts; the conditional type has `never`
besides. -/
theorem exclusion_and_choice_withoutFirst :
    (∃ depth x left, left.Unites x [1, 2] ∧ ∀ limit, depth ≤ limit →
      ((answer limit).simplified 4).run.run state = (.ok (some x), left)) ∧
    ∃ depth y never others left, left.Unites y others ∧ left.IsNever never ∧ never ∈ others ∧
      others.filter (· != never) = [1, 2] ∧ ∀ limit, depth ≤ limit →
        ((answer limit).simplified 5).run.run state = (.ok (some y), left) := by
  have filtered : state.filtered false [0, 1, 2] [0] = [1, 2] := by decide
  have drops : state.Drops false [0, 1, 2] [0] := ⟨0, by simp, by decide⟩
  obtain ⟨utility, written⟩ :=
    exclusion_and_choice ready ⟨_, rfl, rfl⟩ appliesUtility appliesChoice
  constructor
  · obtain ⟨depth, found, left, there, run⟩ := utility.exists_run rfl
    obtain ⟨extended, x, members, literals, rfl, listed, listed', unites⟩ := there
    have retained := State.Retains.ofExtends extended
    obtain rfl := listed.unique (retained.literals union_literals)
    obtain rfl := listed'.unique (retained.literals first_literals)
    rw [retained.filtered (fun _ => isLiteral) fun _ => first_literals.isLiteral, filtered]
      at unites
    exact ⟨depth, x, left, unites, run⟩
  · obtain ⟨depth, found, left, there, run⟩ := written.exists_run rfl
    obtain ⟨extended, y, members, literals, never, rfl, listed, listed', unites, -, dropping, -⟩ :=
      there
    have retained := State.Retains.ofExtends extended
    obtain rfl := listed.unique (retained.literals union_literals)
    obtain rfl := listed'.unique (retained.literals first_literals)
    obtain ⟨isNever, among, others⟩ := dropping
      ((retained.drops (fun _ => isLiteral) fun _ => first_literals.isLiteral).2 drops)
    rw [retained.filtered (fun _ => isLiteral) fun _ => first_literals.isLiteral, filtered]
      at others
    exact ⟨depth, y, never, _, left, unites, isNever, among, others, run⟩

end TypeGloss
