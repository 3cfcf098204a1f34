/-
# TypeGloss.Proofs.Checker.Unions — what is done with the members of a union

A union may have a member that names another union, and its *leaves* are the types that are
no unions, found through any number of names. Three things are done with the members of a
union, one by one: a filtering utility type keeps those that pass its test, a distributive
conditional type takes the branch of each, and where names are wanted each must be a literal.
None of the three looks through a name: a member that is a union itself is taken as a whole.

So the leaves of the result are what the members contribute, and if a union is written in
place of its name, they change by as much as its members contribute other leaves than it
contributed as a whole. `union_inlined` says this of all three:

* a filtering utility type keeps the same leaves, but for those of the members that do not
  fare in the test as the union they were taken from;
* a conditional type comes to the same leaves if the branches of those members have the
  leaves that the branch of the union had, and the other branches stay as they are;
* with the name in it, the union has no keys at all, so that nothing is picked, omitted or
  mapped by it; with the members in its place, its keys are their texts.

What a checker has told once it tells again (`State.Tells`), so all of this can be said about
one state, in which both results are remembered.
-/
import Mathlib.Data.List.Forall2
import Mathlib.Tactic.Tauto
import TypeGloss.Proofs.Checker.Memory

namespace TypeGloss

set_option autoImplicit false

open Answer (answer)

variable {α β : Type}

/-! ## What a state tells -/

namespace State

variable {s later : State}

/-- From a state on, a computation comes to this result, whatever else is asked before. -/
def Tells (s : State) (x : CheckM α) (a : α) : Prop :=
  ∀ ⦃later : State⦄, s.Extends later → outcome x later = .ok a

/-- Before a state, a computation has come to this result. -/
def Recalls (s : State) (x : CheckM α) (a : α) : Prop :=
  ∃ before : State, outcome x before = .ok a ∧ (after x before).Extends s

namespace Tells

variable {x : CheckM α} {a b : α}

theorem now (told : s.Tells x a) : outcome x s = .ok a := told (.refl s)

theorem unique (told : s.Tells x a) (again : s.Tells x b) : a = b :=
  Except.ok.inj (told.now.symm.trans again.now)

theorem pure (a : α) : s.Tells (Pure.pure a) a := fun _ _ => rfl

theorem bind {f : α → CheckM β} {b : β} (first : s.Tells x a) (conservative : Conservative x)
    (rest : s.Tells (f a) b) : s.Tells (x >>= f) b := by
  intro later extended
  rw [outcome_bind_ok (first extended)]
  exact rest (extended.trans (conservative later))

end Tells

/-- What is remembered of a steady computation is told again. -/
theorem Recalls.tells {x y : CheckM α} {a : α} (recalled : s.Recalls x a) (steady : Steady x y) :
    s.Tells y a := by
  obtain ⟨before, returned, extended⟩ := recalled
  exact fun _ further => steady.again returned (extended.trans further)

/-- A computation that is remembered began with one that is remembered, and went on with
another. -/
theorem Recalls.bind {x : CheckM α} {f : α → CheckM β} {b : β} (recalled : s.Recalls (x >>= f) b)
    (rest : ∀ a, Conservative (f a)) : ∃ a, s.Recalls x a ∧ s.Recalls (f a) b := by
  obtain ⟨before, returned, extended⟩ := recalled
  obtain ⟨a, first, second⟩ := outcome_bind_eq_ok returned
  rw [after_bind_ok first] at extended
  exact ⟨a, ⟨before, first, (rest a _).trans extended⟩, ⟨_, second, extended⟩⟩

theorem Recalls.pure {a b : α} (recalled : s.Recalls (Pure.pure a) b) : a = b := by
  obtain ⟨before, returned, -⟩ := recalled
  exact Except.ok.inj returned

theorem Recalls.map {x : CheckM α} {f : α → β} {b : β} (recalled : s.Recalls (f <$> x) b) :
    ∃ a, s.Recalls x a ∧ f a = b := by
  rw [map_eq_pure_bind] at recalled
  obtain ⟨a, first, last⟩ := recalled.bind fun a => .pure _
  exact ⟨a, first, last.pure⟩

theorem tells_facts {t : TypeId} {r : TypeRecord} (known : s.records[t]? = some r) :
    s.Tells (Check.facts t) r.toTypeFacts := by
  intro later extended
  obtain ⟨r', known', grows⟩ := extended.records known
  exact Check.outcome_facts_eq_ok.2 ⟨r', known', grows.facts⟩

theorem tells_category {t : TypeId} {r : TypeRecord} (known : s.records[t]? = some r) :
    s.Tells (Check.category t) r.category :=
  (tells_facts known).bind (Check.facts_steady t).first (.pure _)

end State

/-! ## Leaves -/

section Leaves

variable (ask : Ask)

/-- A type that is no union is a leaf of itself, unless there is no value of it; a union has
the leaves of its members. -/
inductive State.Leaf (s : State) : TypeId → TypeId → Prop where
  | self {t : TypeId} {r : TypeRecord} (known : s.records[t]? = some r)
      (plain : r.category ≠ .union) (some : r.primitive ≠ some .never) : Leaf s t t
  | member {t m l : TypeId} {r : TypeRecord} {members : List TypeId}
      (known : s.records[t]? = some r) (isUnion : r.category = .union)
      (told : s.Tells (ask.members t) members) (among : m ∈ members) (inside : Leaf s m l) :
      Leaf s t l

variable {ask} {s : State}

/-- The alternatives of a type are the members of a union, or the type itself. -/
theorem alternatives_cases {t : TypeId} {members : List TypeId}
    (told : s.Tells (ask.alternatives t) members) :
    ∃ r, s.records[t]? = some r ∧
      (r.category = .union ∧ s.Tells (ask.members t) members ∨
        r.category ≠ .union ∧ members = [t]) := by
  obtain ⟨category, first, -⟩ := outcome_bind_eq_ok told.now
  obtain ⟨facts, known, -⟩ := outcome_bind_eq_ok first
  obtain ⟨r, known, -⟩ := Check.outcome_facts_eq_ok.1 known
  have step (later : State) (extended : s.Extends later) : outcome (ask.alternatives t) later =
      outcome (if r.category = .union then ask.members t else pure [t]) later := by
    have category := State.tells_category known extended
    have same : after (Check.category t) later = later := by
      rw [Check.category, after_bind_ok (State.tells_facts known extended), Check.after_facts]
      rfl
    rw [Ask.alternatives, outcome_bind_ok category, same]
  refine ⟨r, known, ?_⟩
  by_cases isUnion : r.category = .union
  · refine .inl ⟨isUnion, fun later extended => ?_⟩
    have same := step later extended
    rw [if_pos isUnion] at same
    rw [← same]
    exact told extended
  · have same := step s (.refl s)
    rw [if_neg isUnion, told.now] at same
    exact .inr ⟨isUnion, Except.ok.inj same⟩

/-- The leaves of a type are those of its alternatives. -/
theorem leaf_iff_of_alternatives {t l : TypeId} {members : List TypeId}
    (told : s.Tells (ask.alternatives t) members) :
    s.Leaf ask t l ↔ ∃ m ∈ members, s.Leaf ask m l := by
  obtain ⟨r, known, ⟨isUnion, members'⟩ | ⟨plain, rfl⟩⟩ := alternatives_cases told
  · constructor
    · intro leaf
      cases leaf with
      | self known' plain =>
          cases known.symm.trans known'
          exact absurd isUnion plain
      | member _ _ told' among inside =>
          cases members'.unique told'
          exact ⟨_, among, inside⟩
    · rintro ⟨m, among, inside⟩
      exact .member known isUnion members' among inside
  · simp

theorem mem_foldl_insert {m : TypeId} (more found : List TypeId) :
    m ∈ more.foldl (fun known m => if known.contains m then known else known ++ [m]) found ↔
      m ∈ found ∨ m ∈ more := by
  induction more generalizing found with
  | nil => simp
  | cons first rest ih =>
      rw [List.foldl_cons, ih]
      split
      · next there =>
          have listed : first ∈ found := List.contains_iff_mem.1 there
          constructor
          · rintro (earlier | later)
            · exact .inl earlier
            · exact .inr (List.mem_cons_of_mem _ later)
          · rintro (earlier | later)
            · exact .inl earlier
            · rcases List.mem_cons.1 later with rfl | later
              · exact .inl listed
              · exact .inr later
      · simp [or_assoc]

/-- A type that is the union of several has the leaves of all of them. -/
theorem leaf_unionMembers (reliable : Reliable ask) {types found members : List TypeId}
    (recalled : s.Recalls (ask.unionMembers pure found types) members) (l : TypeId) :
    (∃ m ∈ members, s.Leaf ask m l) ↔
      (∃ m ∈ found, s.Leaf ask m l) ∨ ∃ t ∈ types, s.Leaf ask t l := by
  induction types generalizing found with
  | nil =>
      obtain rfl := recalled.pure
      simp
  | cons t rest ih =>
      rw [Ask.unionMembers, pure_bind] at recalled
      obtain ⟨more, alternatives, later⟩ := recalled.bind fun more =>
        (reliable.unionMembers (fun t => .pure t) _ rest).first
      have told := alternatives.tells (reliable.alternatives t)
      rw [ih later]
      simp only [mem_foldl_insert, List.mem_cons, or_and_right, exists_or, exists_eq_left,
        leaf_iff_of_alternatives told, or_assoc]

/-! ### Unions that are made -/

/-- Under the keys of unions, and of the type without values, a state has what was made for
them. -/
structure State.KeepsUnions (s : State) : Prop where
  union : ∀ {members : List TypeId} {t : TypeId}, s.interned[Key.union members]? = some t →
    ∃ r, s.records[t]? = some r ∧ r.category = .union ∧ r.cache.members = some members
  never : ∀ {t : TypeId}, s.interned[Key.primitive .never]? = some t →
    ∃ r, s.records[t]? = some r ∧ r.category = .primitive ∧ r.primitive = some .never

end Leaves

theorem interned_of_recalls {s : State} {key : Key} {fresh : TypeRecord} {t : TypeId}
    (recalled : s.Recalls (Check.intern key fresh) t) : s.interned[key]? = some t := by
  obtain ⟨before, returned, extended⟩ := recalled
  refine extended.interned ?_
  cases known : before.interned[key]? with
  | some u =>
      rw [outcome, Check.run_intern_of_some known] at returned
      cases returned
      rw [after, Check.run_intern_of_some known, known]
  | none =>
      rw [outcome, Check.run_intern_of_none known] at returned
      cases returned
      rw [after, Check.run_intern_of_none known]
      exact Std.HashMap.getElem?_insert_self

section Made

variable {ask : Ask} {limit : Nat} (tied : ask = answer (limit + 1)) {s : State}

include tied

theorem reliable_of_tied : Reliable ask := tied ▸ Answer.reliable_answer _

/-- The members that a union was made of are told from then on. -/
theorem tells_members {t : TypeId} {r : TypeRecord} {members : List TypeId}
    (known : s.records[t]? = some r) (kept : r.cache.members = some members) :
    s.Tells (ask.members t) members := by
  subst tied
  intro later extended
  obtain ⟨r', known', grows⟩ := extended.records known
  have content : r.cache.get? .members = some members := kept
  have load : outcome ((answer (limit + 1)).load? t .members) later = .ok (some members) :=
    congrArg Prod.fst (Answer.run_load_of_some known' (grows.kept content))
  rw [Ask.members, outcome_bind_ok load]
  rfl

/-- The union of types has their leaves. -/
theorem leaf_unionOfTypes (keeps : s.KeepsUnions) {types : List TypeId} {result : TypeId}
    (recalled : s.Recalls (ask.unionOfTypes types) result) (l : TypeId) :
    s.Leaf ask result l ↔ ∃ t ∈ types, s.Leaf ask t l := by
  have reliable := reliable_of_tied tied
  obtain ⟨members, made, named⟩ := recalled.bind fun members => by
    split
    · exact (Check.primitive_steady .never).first
    · exact .pure _
    · exact Check.intern_conservative _ rfl
  have leaves := leaf_unionMembers reliable made l
  simp only [List.not_mem_nil, false_and, exists_false, false_or] at leaves
  rw [← leaves]
  split at named
  · obtain ⟨r, known, category, never⟩ := keeps.never (interned_of_recalls named)
    simp only [List.not_mem_nil, false_and, exists_false, iff_false]
    intro leaf
    cases leaf with
    | self known' _ some =>
        cases known.symm.trans known'
        exact some never
    | member known' isUnion =>
        cases known.symm.trans known'
        simp [category] at isUnion
  · obtain rfl := named.pure
    simp
  · obtain ⟨r, known, isUnion, kept⟩ := keeps.union (interned_of_recalls named)
    have told : s.Tells (ask.alternatives result) _ :=
      (State.tells_category known).bind (Check.category_steady result).first (by
        rw [if_pos isUnion]
        exact tells_members tied known kept)
    exact leaf_iff_of_alternatives told

end Made

/-! ## Members that are kept -/

section Tests

variable {s : State}

/-- The items that pass a test, if what is remembered of the test says how an item fares. -/
theorem mem_of_recalls_filterM {f : α → CheckM Bool} (each : ∀ a, Conservative (f a))
    {P : α → Bool → Prop} (fares : ∀ {a b}, s.Recalls (f a) b → P a b)
    (unique : ∀ {a b b'}, P a b → P a b' → b = b') {items kept : List α}
    (recalled : s.Recalls (items.filterM f) kept) (a : α) : a ∈ kept ↔ a ∈ items ∧ P a true := by
  have conservative : ∀ items found, Conservative (List.filterAuxM f items found) := by
    intro items
    induction items with
    | nil => exact Conservative.pure
    | cons item rest ih => exact fun found => (each item).bind fun _ => ih _
  have loop : ∀ items found kept, s.Recalls (List.filterAuxM f items found) kept →
      (a ∈ kept ↔ a ∈ found ∨ a ∈ items ∧ P a true) := by
    intro items
    induction items with
    | nil =>
        intro found kept recalled
        obtain rfl := recalled.pure
        simp
    | cons item rest ih =>
        intro found kept recalled
        obtain ⟨holds, first, later⟩ := recalled.bind fun _ => conservative rest _
        have fares := fares first
        rw [ih _ _ later]
        by_cases same : a = item
        · subst same
          cases holds with
          | true => simp [fares]
          | false =>
              have refused : ¬ P a true := fun passed => by cases unique fares passed
              simp [refused]
        · cases holds <;> simp [same]
  obtain ⟨found, walked, reversed⟩ := recalled.bind fun found => .pure _
  obtain rfl := reversed.pure
  rw [List.mem_reverse, loop items [] found walked]
  simp

/-- What is remembered of each item by itself, in order. -/
theorem forall₂_of_recalls_mapM {f : α → CheckM β} (each : ∀ a, Conservative (f a))
    {items : List α} {results : List β} (recalled : s.Recalls (items.mapM f) results) :
    List.Forall₂ (fun a b => s.Recalls (f a) b) items results := by
  induction items generalizing results with
  | nil =>
      rw [List.mapM_nil] at recalled
      cases recalled.pure
      exact .nil
  | cons item rest ih =>
      rw [List.mapM_cons] at recalled
      obtain ⟨first, here, later⟩ := recalled.bind fun _ =>
        (Conservative.mapM each rest).bind fun _ => .pure _
      obtain ⟨others, there, listed⟩ := later.bind fun _ => .pure _
      cases listed.pure
      exact .cons here (ih there)

/-- The items that pass a test whose outcome was noted with each of them. -/
theorem mem_of_forall₂ {P : α → Bool → Prop} (unique : ∀ {a b b'}, P a b → P a b' → b = b')
    (test : Bool → Bool) {items : List α} {noted : List (α × Bool)}
    (each : List.Forall₂ (fun a pair => pair.1 = a ∧ P a (test pair.2)) items noted) (a : α) :
    a ∈ (noted.filter fun pair => test pair.2).map Prod.fst ↔ a ∈ items ∧ P a true := by
  induction each with
  | nil => simp
  | @cons item pair items noted first _ ih =>
      obtain ⟨rfl, fares⟩ := first
      cases holds : test pair.2 with
      | true =>
          rw [holds] at fares
          simp only [List.filter_cons, holds, if_true, List.map_cons, List.mem_cons, ih]
          by_cases same : a = pair.1
          · simp [same, fares]
          · simp [same]
      | false =>
          rw [holds] at fares
          simp only [List.filter_cons, holds, Bool.false_eq_true, if_false, List.mem_cons, ih]
          by_cases same : a = pair.1
          · have refused : ¬ P pair.1 true := fun passed => by cases unique fares passed
            simp [same, refused]
          · simp [same]

end Tests

/-- How a member fares in the test of a filtering utility type with these further
arguments. -/
inductive State.Passes (ask : Ask) (s : State) (name : String) : List TypeId → TypeId → Bool → Prop
  where
  | nullish {rest : List TypeId} {m : TypeId} {absent : Bool} (named : name = "NonNullable")
      (told : s.Tells (Inference.isNullish m) absent) : Passes ask s name rest m (!absent)
  | compared {second other m : TypeId} {more : List TypeId} {verdict : Bool}
      (named : name ≠ "NonNullable") (simple : s.Tells (ask.simplified second) (some other))
      (told : s.Tells (ask.assignable m other) verdict) :
      Passes ask s name (second :: more) m (verdict == (name == "Extract"))

/-- A filtering utility type has what it needs for its test. -/
def State.CanTest (ask : Ask) (s : State) (name : String) (rest : List TypeId) : Prop :=
  name = "NonNullable" ∨
    ∃ second more other, rest = second :: more ∧ s.Tells (ask.simplified second) (some other)

/-- A member fares in one way. -/
theorem State.Passes.unique {ask : Ask} {s : State} {name : String} {rest : List TypeId}
    {m : TypeId} {b b' : Bool} (first : s.Passes ask name rest m b)
    (second : s.Passes ask name rest m b') : b = b' := by
  cases first with
  | nullish named told =>
      cases second with
      | nullish _ told' => rw [told.unique told']
      | compared other => exact absurd named other
  | compared named simple told =>
      cases second with
      | nullish other => exact absurd other named
      | compared _ simple' told' =>
          cases simple.unique simple'
          rw [told.unique told']

namespace Computed

variable {ask : Ask} (reliable : Reliable ask) {s : State}

include reliable

/-- A filtering utility type is the union of the members that pass. -/
theorem kept_of_recalls {name : String} {first target result : TypeId} {rest members : List TypeId}
    (canTest : s.CanTest ask name rest) (told : s.Tells (ask.alternatives target) members)
    (recalled : s.Recalls (filterMembers ask name (first :: rest) target) (some result)) :
    ∃ kept, s.Recalls (ask.unionOfTypes kept) result ∧
      ∀ m, m ∈ kept ↔ m ∈ members ∧ s.Passes ask name rest m true := by
  have unite (kept : List TypeId) : Conservative (some <$> ask.unionOfTypes kept) :=
    (reliable.unionOfTypes kept).first.map some
  have compare (other m : TypeId) :
      Conservative (do return (m, ← ask.assignable m other) : CheckM (TypeId × Bool)) :=
    (reliable.assignable m other).first.bind fun _ => .pure _
  obtain ⟨listed, alternatives, later⟩ := recalled.bind fun members => by
    split
    · exact (Inference.dropNullish_steady members).first.bind unite
    · split
      · refine (reliable.simplified _).first.bind fun other => ?_
        split
        · exact .pure _
        · exact (Conservative.mapM (compare _) members).bind fun matched => unite _
      · exact .pure _
  obtain rfl := (alternatives.tells (reliable.alternatives target)).unique told
  split at later
  · next named =>
      obtain ⟨kept, dropped, united⟩ := later.bind unite
      obtain ⟨union, made, same⟩ := united.map
      cases same
      refine ⟨kept, made, fun m => ?_⟩
      refine mem_of_recalls_filterM (P := s.Passes ask name rest) (fun m => ?_) (fun recalled => ?_)
        (fun first second => State.Passes.unique first second) dropped m
      · exact (Inference.isNullish_steady m).first.bind fun _ => .pure _
      · obtain ⟨absent, asked, same⟩ := recalled.bind fun _ => .pure _
        cases same.pure
        exact .nullish named (asked.tells (Inference.isNullish_steady _))
  · next named =>
      obtain impossible | ⟨second, more, other, rfl, simple⟩ := canTest
      · exact absurd impossible named
      · obtain ⟨found, asked, later⟩ := later.bind fun other => by
          split
          · exact .pure _
          · exact (Conservative.mapM (compare _) _).bind fun matched => unite _
        obtain rfl := (asked.tells (reliable.simplified second)).unique simple
        obtain ⟨matched, compared, united⟩ := later.bind fun matched => unite _
        obtain ⟨union, made, same⟩ := united.map
        cases same
        refine ⟨_, made, mem_of_forall₂ (P := s.Passes ask name (second :: more))
          (fun first second => first.unique second) (· == (name == "Extract")) ?_⟩
        refine (forall₂_of_recalls_mapM (compare other) compared).imp fun m pair recalled => ?_
        obtain ⟨verdict, asked, same⟩ := recalled.bind fun _ => .pure _
        cases same.pure
        exact ⟨rfl, .compared named simple (asked.tells (reliable.assignable m other))⟩

/-- A filtering utility type has the leaves of the members that pass. -/
theorem utility_kept {name : String} {u t target result : TypeId} {rest members : List TypeId}
    (filters : Library.filteringUtilities.contains name = true)
    (canTest : s.CanTest ask name rest) (simple : s.Tells (ask.simplified t) (some target))
    (told : s.Tells (ask.alternatives target) members)
    (recalled : s.Recalls (utility ask u name (t :: rest)) (some result)) :
    ∃ kept, s.Recalls (ask.unionOfTypes kept) result ∧
      ∀ m, m ∈ kept ↔ m ∈ members ∧ s.Passes ask name rest m true := by
  rw [utility, Check.needFirst, pure_bind, if_pos filters] at recalled
  obtain ⟨found, asked, later⟩ := recalled.bind fun found => by
    split
    · exact .pure none
    · exact filterMembers_conservative reliable name (t :: rest) _
  obtain rfl := (asked.tells (reliable.simplified t)).unique simple
  exact kept_of_recalls reliable canTest told later

end Computed

/-! ## Branches of members -/

namespace Conditional

variable {ask : Ask} {s : State}

/-- The type of the branch for one candidate, for which a parameter stands there. -/
def branch (ask : Ask) (place : Place) (choice : Choice) (parameter : String)
    (candidate : TypeId) : CheckM TypeId := do
  let (matched, inferred) ← ask.fits (some candidate) choice.pattern place []
  ask.typeAt (if matched then choice.whenTrue else choice.whenFalse)
    (← branchPlace place.source (Entries.put parameter candidate place.env) inferred)

/-- The branch of the first candidate comes before the others. -/
theorem branches?_cons (place : Place) (choice : Choice) (parameter : String)
    (candidate : TypeId) (rest : List TypeId) :
    branches? ask place choice (some parameter) (candidate :: rest) = (do
      if (← Check.category candidate) = .named then return none
      else
        let t ← branch ask place choice parameter candidate
        return (← branches? ask place choice (some parameter) rest).map (t :: ·)) := by
  rw [branches?]
  simp only [branch, bind_assoc]

variable (reliable : Reliable ask)

include reliable

theorem branch_steady (place : Place) (choice : Choice) (parameter : String) (candidate : TypeId) :
    Steady (branch ask place choice parameter candidate)
      (branch ask place choice parameter candidate) := by
  refine (reliable.fits (some candidate) choice.pattern place place.frame []).bind fun result => ?_
  exact branchPlace_bind (fun inside frame => reliable.typeAt _ inside frame) _ _ _

/-- If no candidate is only a name, each has a branch of its own. -/
theorem branches_of_recalls {place : Place} {choice : Choice} {parameter : String}
    {candidates : List TypeId} {found : Option (List TypeId)}
    (known : ∀ c ∈ candidates, ∃ r, s.records[c]? = some r ∧ r.category ≠ .named)
    (recalled : s.Recalls (branches? ask place choice (some parameter) candidates) found) :
    ∃ results, found = some results ∧
      List.Forall₂ (fun c r => s.Tells (branch ask place choice parameter c) r)
        candidates results := by
  induction candidates generalizing found with
  | nil => exact ⟨[], recalled.pure.symm, .nil⟩
  | cons c rest ih =>
      obtain ⟨⟨r, record, notNamed⟩, others⟩ := List.forall_mem_cons.1 known
      have remaining := branches?_conservative reliable place choice (some parameter) rest
      have taken := (branch_steady reliable place choice parameter c).first
      rw [branches?_cons] at recalled
      obtain ⟨category, asked, later⟩ := recalled.bind fun category => by
        split
        · exact .pure none
        · exact taken.bind fun t => remaining.bind fun _ => .pure _
      obtain rfl := (asked.tells (Check.category_steady c)).unique (State.tells_category record)
      rw [if_neg notNamed] at later
      obtain ⟨t, first, later⟩ := later.bind fun t => remaining.bind fun _ => .pure _
      obtain ⟨more, second, last⟩ := later.bind fun _ => .pure _
      obtain ⟨results, rfl, each⟩ := ih others second
      have told := first.tells (branch_steady reliable place choice parameter c)
      exact ⟨t :: results, last.pure.symm, .cons told each⟩

/-- A distributive conditional type is the union of the branches of the members. -/
theorem conditional_branches {node : Cursor} {place : Place} {choice : Choice}
    {parameter : String} {u t target result : TypeId} {r : TypeRecord} {members : List TypeId}
    (parts : choice? node = some choice)
    (distributed : distributed? choice place.env .union = some parameter)
    (written : s.Tells (ask.typeAt choice.checked place) t)
    (simple : s.Tells (ask.simplified t) (some target)) (record : s.records[target]? = some r)
    (isUnion : r.category = .union) (told : s.Tells (ask.members target) members)
    (known : ∀ m ∈ members, ∃ r, s.records[m]? = some r ∧ r.category ≠ .named)
    (recalled : s.Recalls (conditional ask u node place) (some result)) :
    ∃ results, s.Recalls (ask.unionOfTypes results) result ∧
      List.Forall₂ (fun m b => s.Tells (branch ask place choice parameter m) b)
        members results := by
  have unite (p : Option String) (candidates : List TypeId) :
      Conservative (some <$> united ask u place choice p candidates) :=
    (united_conservative reliable u place choice p candidates).map some
  have choose (checked : TypeId) : Conservative (do
      let parameter := distributed? choice place.env (← Check.category checked)
      if parameter.isSome then
        some <$> united ask u place choice parameter (← ask.members checked)
      else some <$> united ask u place choice parameter [checked]) := by
    refine (Check.category_steady checked).first.bind fun category => ?_
    dsimp only
    split
    · exact (reliable.members checked).first.bind fun candidates => unite _ candidates
    · exact unite _ _
  rw [conditional, parts] at recalled
  obtain ⟨checked, read, later⟩ := recalled.bind fun t => by
    refine (reliable.simplified t).first.bind fun found => ?_
    cases found with
    | none => exact .pure none
    | some checked => exact choose checked
  obtain rfl := (read.tells (reliable.steady _)).unique written
  obtain ⟨found, asked, later⟩ := later.bind fun found => by
    cases found with
    | none => exact .pure none
    | some checked => exact choose checked
  obtain rfl := (asked.tells (reliable.simplified _)).unique simple
  obtain ⟨category, asked, later⟩ := later.bind fun category => by
    dsimp only
    split
    · exact (reliable.members _).first.bind fun candidates => unite _ candidates
    · exact unite _ _
  obtain rfl := (asked.tells (Check.category_steady _)).unique (State.tells_category record)
  simp only [isUnion, distributed, Option.isSome_some, if_true] at later
  obtain ⟨candidates, listed, later⟩ := later.bind (unite _)
  obtain rfl := (listed.tells (reliable.members _)).unique told
  obtain ⟨union, made, same⟩ := later.map
  cases same
  obtain ⟨found, branched, made⟩ := made.bind fun found => by
    split
    · exact (Structure.stuck_steady reliable u).first
    · exact (reliable.unionOfTypes _).first
  obtain ⟨results, rfl, each⟩ := branches_of_recalls reliable known branched
  exact ⟨results, made, each⟩

end Conditional

/-! ## Members as keys -/

/-- A union among several types leaves them without keys. -/
theorem keysOf?_of_union {s : State} {types : List TypeId} {m : TypeId} {r : TypeRecord}
    (among : m ∈ types) (record : s.records[m]? = some r) (isUnion : r.category = .union)
    (plain : r.primitive = none) {keys : Option (List String)}
    (recalled : s.Recalls (Structure.keysOf? types) keys) : keys = none := by
  induction types generalizing keys with
  | nil => simp at among
  | cons first rest ih =>
      have remaining := Structure.keysOf?_conservative rest
      obtain ⟨facts, read, later⟩ := recalled.bind fun facts => by
        split
        · exact remaining.bind fun _ => .pure _
        · split
          · exact remaining
          · exact .pure none
      rcases List.mem_cons.1 among with rfl | among
      · obtain rfl := (read.tells (Check.facts_steady m)).unique (State.tells_facts record)
        simp only [isUnion, plain, reduceCtorEq, decide_false, Bool.false_and, Bool.false_eq_true,
          if_false] at later
        exact later.pure.symm
      · split at later
        · obtain ⟨others, asked, last⟩ := later.bind fun _ => .pure _
          obtain rfl := ih among asked
          exact last.pure.symm
        · split at later
          · exact ih among later
          · exact later.pure.symm

/-- The keys of types are the texts of the literals among them. -/
theorem mem_keysOf?_iff {s : State} {types : List TypeId} {keys : List String}
    (recalled : s.Recalls (Structure.keysOf? types) (some keys)) (k : String) :
    k ∈ keys ↔ ∃ m ∈ types, ∃ r, s.records[m]? = some r ∧ r.category = .literal ∧
      r.primitive ≠ some .never ∧ r.value.keyText = k := by
  induction types generalizing keys with
  | nil =>
      cases recalled.pure
      simp
  | cons first rest ih =>
      have remaining := Structure.keysOf?_conservative rest
      obtain ⟨facts, read, later⟩ := recalled.bind fun facts => by
        split
        · exact remaining.bind fun _ => .pure _
        · split
          · exact remaining
          · exact .pure none
      obtain ⟨r, record, rfl⟩ := Check.outcome_facts_eq_ok.1
        (read.tells (Check.facts_steady first)).now
      have here : (∃ r, s.records[first]? = some r ∧ r.category = .literal ∧
          r.primitive ≠ some .never ∧ r.value.keyText = k) ↔
          r.category = .literal ∧ r.primitive ≠ some .never ∧ r.value.keyText = k := by
        simp [record]
      simp only [List.mem_cons, or_and_right, exists_or, exists_eq_left, here]
      split at later
      · next literal =>
        obtain ⟨others, asked, last⟩ := later.bind fun _ => .pure _
        obtain ⟨more, rfl, rfl⟩ := Option.map_eq_some_iff.1 last.pure
        simp only [Bool.and_eq_true, decide_eq_true_eq, Bool.or_eq_true, beq_iff_eq] at literal
        have some : r.primitive ≠ some .never := by
          rcases literal.2 with same | same <;> simp [same]
        simp only [List.mem_cons, ih asked, literal.1, some, ne_eq, not_false_eq_true, true_and,
          eq_comm]
      · split at later
        · next never =>
          have never : r.primitive = Option.some .never := by simpa using never
          simp only [ih later, never, ne_eq, not_true_eq_false, false_and, and_false, false_or]
        · cases later.pure

/-- A type that has no keys picks and omits nothing. -/
theorem Computed.utility_of_keyless {ask : Ask} (reliable : Reliable ask) {s : State}
    {t p u : TypeId} {name : String} {rest : List TypeId}
    (keyless : ∀ keys, s.Recalls (Structure.literalKeys? ask t) keys → keys = none)
    (chooses : name = "Pick" ∨ name = "Omit") {found : Option TypeId}
    (recalled : s.Recalls (utility ask u name (p :: t :: rest)) found) : found = none := by
  have other : Library.filteringUtilities.contains name = false := by
    rcases chooses with rfl | rfl <;> decide
  have chosen (properties : List Symbol) :
      changedProperties? ask name (p :: t :: rest) properties =
        (Structure.literalKeys? ask t >>= fun keys => pure (keys.map fun keys =>
          properties.filter fun p => keys.contains (p.name.getD "") == (name == "Pick"))) := by
    rcases chooses with rfl | rfl
    · exact bind_congr fun keys => by cases keys <;> rfl
    · exact bind_congr fun keys => by cases keys <;> rfl
  unfold utility at recalled
  simp only [Check.needFirst, pure_bind, other, Bool.false_eq_true, if_false, chosen] at recalled
  obtain ⟨properties, -, later⟩ := recalled.bind fun properties => by
    split
    · exact .pure none
    · exact .pure none
    · refine ((Structure.literalKeys?_conservative reliable t).bind fun _ => .pure _).bind ?_
      intro result
      split
      · exact .pure none
      · refine (reliable.text u).first.bind fun text => ?_
        exact (Check.syntheticObject_steady u _ text).first.map some
  split at later
  · exact later.pure.symm
  · exact later.pure.symm
  · obtain ⟨result, changed, later⟩ := later.bind fun result => by
      split
      · exact .pure none
      · refine (reliable.text u).first.bind fun text => ?_
        exact (Check.syntheticObject_steady u _ text).first.map some
    obtain ⟨keys, asked, changed⟩ := changed.bind fun keys => .pure _
    obtain rfl := keyless keys asked
    cases changed.pure
    exact later.pure.symm

/-- Over a type that has no keys nothing is mapped. -/
theorem Computed.mapped_of_keyless {ask : Ask} (reliable : Reliable ask) {s : State}
    {t u : TypeId} {node : Cursor} {place : Place} {clause : MappedClause}
    (keyless : ∀ keys, s.Recalls (Structure.literalKeys? ask t) keys → keys = none)
    (parts : mappedClause? node = some clause)
    (overKeys : clause.constraint.unwrapParens.kind ≠ "index_type_query")
    (written : s.Tells (ask.typeAt clause.constraint.unwrapParens place) t)
    {found : Option TypeId} (recalled : s.Recalls (mapped ask u node place) found) :
    found = none := by
  have all := fun pair : String × Option Symbol =>
    mappedProperty?_conservative reliable place clause pair.1 pair.2
  unfold mapped at recalled
  simp only [parts] at recalled
  obtain ⟨keys, asked, later⟩ := recalled.bind fun keys => by
    split
    · exact .pure none
    · refine (Conservative.mapM all _).bind fun found => ?_
      refine (reliable.text u).first.bind fun text => ?_
      exact (Check.syntheticObject_steady u _ text).first.map some
  simp only [mappedKeys?, beq_iff_eq, overKeys, if_false] at asked
  obtain ⟨read, typed, asked⟩ := asked.bind fun read =>
    (Structure.literalKeys?_conservative reliable read).bind fun _ => .pure _
  obtain rfl := (typed.tells (reliable.steady _)).unique written
  obtain ⟨texts, asked, paired⟩ := asked.bind fun _ => .pure _
  obtain rfl := keyless texts asked
  cases paired.pure
  exact later.pure.symm

/-! ## Unions written in place of their names -/

/-- A type is a union of these members, once all computation in it is done. -/
def State.IsUnionOf (ask : Ask) (s : State) (t : TypeId) (members : List TypeId) : Prop :=
  ∃ target r, s.Tells (ask.simplified t) (some target) ∧ s.records[target]? = some r ∧
    r.category = .union ∧ s.Tells (ask.members target) members

/-- A union has its members for alternatives. -/
theorem tells_alternatives {ask : Ask} {s : State} {t : TypeId} {r : TypeRecord}
    {members : List TypeId} (record : s.records[t]? = some r) (isUnion : r.category = .union)
    (told : s.Tells (ask.members t) members) : s.Tells (ask.alternatives t) members :=
  (State.tells_category record).bind (Check.category_steady t).first (by rwa [if_pos isUnion])

/-- What the members of a list contribute changes, if one of them gives way to others that
have together what it had, by what these do not contribute as it did. -/
theorem contributed_inlined {before inner behind : List α} {m : α} {passes has : α → Prop}
    {result result' : Prop} (nested : has m ↔ ∃ i ∈ inner, has i)
    (outer : result ↔ ∃ c ∈ before ++ m :: behind, passes c ∧ has c)
    (inlined : result' ↔ ∃ c ∈ before ++ inner ++ behind, passes c ∧ has c) :
    (passes m → (result ↔ result' ∨ ∃ i ∈ inner, ¬ passes i ∧ has i)) ∧
      (¬ passes m → (result' ↔ result ∨ ∃ i ∈ inner, passes i ∧ has i)) := by
  simp only [List.mem_append, List.mem_cons, or_and_right, exists_or, exists_eq_left] at outer inlined
  have split : (∃ i ∈ inner, has i) ↔
      (∃ i ∈ inner, passes i ∧ has i) ∨ ∃ i ∈ inner, ¬ passes i ∧ has i := by
    constructor
    · rintro ⟨i, among, there⟩
      by_cases passed : passes i
      · exact .inl ⟨i, among, passed, there⟩
      · exact .inr ⟨i, among, passed, there⟩
    · rintro (⟨i, among, -, there⟩ | ⟨i, among, -, there⟩) <;> exact ⟨i, among, there⟩
  rw [outer, inlined, nested, split]
  clear outer inlined nested split
  -- What the other members contribute is the same on both sides.
  generalize (∃ c ∈ before, passes c ∧ has c) = front
  generalize (∃ c ∈ behind, passes c ∧ has c) = back
  generalize (∃ i ∈ inner, passes i ∧ has i) = passing
  generalize (∃ i ∈ inner, ¬ passes i ∧ has i) = failing
  constructor
  · intro passed
    simp only [passed, true_and]
    tauto
  · intro failed
    simp only [failed, false_and, false_or]
    tauto

/-- The keys of a union are those of its members. -/
theorem recalls_keysOf? {ask : Ask} (reliable : Reliable ask) {s : State} {t : TypeId}
    {members : List TypeId} (union : s.IsUnionOf ask t members) {keys : Option (List String)}
    (recalled : s.Recalls (Structure.literalKeys? ask t) keys) :
    s.Recalls (Structure.keysOf? members) keys := by
  obtain ⟨target, r, simple, record, isUnion, listed⟩ := union
  obtain ⟨found, asked, later⟩ := recalled.bind fun found => by
    split
    · exact .pure none
    · exact (reliable.alternatives _).first.bind Structure.keysOf?_conservative
  obtain rfl := (asked.tells (reliable.simplified t)).unique simple
  obtain ⟨members, asked, later⟩ := later.bind Structure.keysOf?_conservative
  obtain rfl := (asked.tells (reliable.alternatives target)).unique
    (tells_alternatives record isUnion listed)
  exact later

/-- A member of a union has this leaf in the branch that a conditional type takes for it. -/
def State.BranchLeaf (ask : Ask) (s : State) (place : Place) (choice : Conditional.Choice)
    (parameter : String) (m l : TypeId) : Prop :=
  ∃ b, s.Tells (Conditional.branch ask place choice parameter m) b ∧ s.Leaf ask b l

section Inlined

variable {ask : Ask} {limit : Nat} (tied : ask = answer (limit + 1)) {s : State}
  (keeps : s.KeepsUnions)

include tied keeps

/-- The leaves of a filtering utility type are those of the members that pass. -/
theorem leaf_utility {name : String} {u t result : TypeId} {rest members : List TypeId}
    (filters : Library.filteringUtilities.contains name = true)
    (canTest : s.CanTest ask name rest)
    (union : s.IsUnionOf ask t members)
    (recalled : s.Recalls (Computed.utility ask u name (t :: rest)) (some result))
    (l : TypeId) :
    s.Leaf ask result l ↔
      ∃ m ∈ members, s.Passes ask name rest m true ∧
        s.Leaf ask m l := by
  obtain ⟨target, r, simple, record, isUnion, told⟩ := union
  have alternatives := tells_alternatives record isUnion told
  obtain ⟨kept, made, passing⟩ := Computed.utility_kept (reliable_of_tied tied) filters canTest
    simple alternatives recalled
  rw [leaf_unionOfTypes tied keeps made]
  simp only [passing, and_assoc]

/-- The leaves of a distributive conditional type are those of the branches of the members. -/
theorem leaf_conditional {node : Cursor} {place : Place} {choice : Conditional.Choice}
    {parameter : String} {u t result : TypeId} {members : List TypeId}
    (parts : Conditional.choice? node = some choice)
    (distributed : Conditional.distributed? choice place.env .union = some parameter)
    (written : s.Tells (ask.typeAt choice.checked place) t)
    (union : s.IsUnionOf ask t members)
    (known : ∀ m ∈ members, ∃ r, s.records[m]? = some r ∧ r.category ≠ .named)
    (recalled : s.Recalls (Conditional.conditional ask u node place) (some result))
    (l : TypeId) :
    s.Leaf ask result l ↔
      ∃ m ∈ members, ∃ b,
        s.Tells (Conditional.branch ask place choice parameter m) b ∧
          s.Leaf ask b l := by
  obtain ⟨target, r, simple, record, isUnion, told⟩ := union
  obtain ⟨results, made, each⟩ := Conditional.conditional_branches (reliable_of_tied tied) parts
    distributed written simple record isUnion told known recalled
  rw [leaf_unionOfTypes tied keeps made]
  clear made told known
  induction each with
  | nil => simp
  | @cons m b members results first _ ih =>
      have only : (∃ other, s.Tells (Conditional.branch ask place choice parameter
          m) other ∧ s.Leaf ask other l) ↔ s.Leaf ask b l := by
        constructor
        · rintro ⟨other, told, leaf⟩
          obtain rfl := told.unique first
          exact leaf
        · exact fun leaf => ⟨b, first, leaf⟩
      simp only [List.mem_cons, or_and_right, exists_or, exists_eq_left, ih, only]

/-- Let a union have a member that is a union itself, and another one the members of that one
in its place. A filtering utility type comes to the same leaves for both, but for the leaves
of those members that do not fare in its test as the union they were taken from does. A
distributive conditional type comes to the leaves of one branch for each member, and thus of
one for that union: it comes to the same leaves for both if the branches of the inner members
have together those that the branch of their union has, and the other branches are the same.
And with it among its members, the union has no keys, so that nothing is picked, omitted or
mapped by it, while with the inner members in its place its keys are the texts of all. -/
theorem union_inlined {t t' m : TypeId} {r : TypeRecord} {before inner behind : List TypeId}
    (outer : s.IsUnionOf ask t (before ++ m :: behind))
    (inlined : s.IsUnionOf ask t' (before ++ inner ++ behind))
    (record : s.records[m]? = some r) (isUnion : r.category = .union) (plain : r.primitive = none)
    (told : s.Tells (ask.members m) inner) :
    (∀ {name : String} {rest : List TypeId} {u u' result result' : TypeId},
      Library.filteringUtilities.contains name = true →
      s.CanTest ask name rest →
      s.Recalls (Computed.utility ask u name (t :: rest)) (some result) →
      s.Recalls (Computed.utility ask u' name (t' :: rest)) (some result') →
      (s.Passes ask name rest m true → ∀ l,
        (s.Leaf ask result l ↔ s.Leaf ask result' l ∨
          ∃ i ∈ inner, ¬ s.Passes ask name rest i true ∧
            s.Leaf ask i l)) ∧
      (¬ s.Passes ask name rest m true → ∀ l,
        (s.Leaf ask result' l ↔ s.Leaf ask result l ∨
          ∃ i ∈ inner, s.Passes ask name rest i true ∧
            s.Leaf ask i l))) ∧
    (∀ {node : Cursor} {place : Place} {choice : Conditional.Choice} {parameter : String}
      {u result : TypeId}, Conditional.choice? node = some choice →
      Conditional.distributed? choice place.env .union = some parameter →
      s.Tells (ask.typeAt choice.checked place) t →
      (∀ c ∈ before ++ m :: behind, ∃ r, s.records[c]? = some r ∧ r.category ≠ .named) →
      s.Recalls (Conditional.conditional ask u node place) (some result) → ∀ l,
      (s.Leaf ask result l ↔ ∃ c ∈ before ++ m :: behind, ∃ b,
        s.Tells (Conditional.branch ask place choice parameter c) b ∧
          s.Leaf ask b l)) ∧
    (∀ keys, s.Recalls (Structure.literalKeys? ask t) keys → keys = none) ∧
    (∀ {node node' : Cursor} {place place' : Place} {choice choice' : Conditional.Choice}
      {parameter parameter' : String} {u u' result result' : TypeId},
      Conditional.choice? node = some choice → Conditional.choice? node' = some choice' →
      Conditional.distributed? choice place.env .union = some parameter →
      Conditional.distributed? choice' place'.env .union = some parameter' →
      s.Tells (ask.typeAt choice.checked place) t →
      s.Tells (ask.typeAt choice'.checked place') t' →
      (∀ c ∈ m :: before ++ inner ++ behind, ∃ r, s.records[c]? = some r ∧ r.category ≠ .named) →
      s.Recalls (Conditional.conditional ask u node place) (some result) →
      s.Recalls (Conditional.conditional ask u' node' place') (some result') → ∀ l,
      (∀ c ∈ before ++ behind, s.BranchLeaf ask place choice parameter c l ↔
        s.BranchLeaf ask place' choice' parameter' c l) →
      (s.BranchLeaf ask place choice parameter m l ↔
        ∃ i ∈ inner, s.BranchLeaf ask place' choice' parameter' i l) →
      (s.Leaf ask result l ↔ s.Leaf ask result' l)) ∧
    (∀ {name : String} {u p : TypeId} {rest : List TypeId} {found : Option TypeId},
      name = "Pick" ∨ name = "Omit" →
      s.Recalls (Computed.utility ask u name (p :: t :: rest)) found → found = none) ∧
    (∀ {node : Cursor} {place : Place} {clause : Computed.MappedClause} {u : TypeId}
      {found : Option TypeId}, Computed.mappedClause? node = some clause →
      clause.constraint.unwrapParens.kind ≠ "index_type_query" →
      s.Tells (ask.typeAt clause.constraint.unwrapParens place) t →
      s.Recalls (Computed.mapped ask u node place) found → found = none) ∧
    (∀ keys, s.Recalls (Structure.literalKeys? ask t') (some keys) → ∀ k, k ∈ keys ↔
      ∃ c ∈ before ++ inner ++ behind, ∃ r, s.records[c]? = some r ∧ r.category = .literal ∧
        r.primitive ≠ some .never ∧ r.value.keyText = k) := by
  have reliable := reliable_of_tied tied
  have keyless : ∀ keys, s.Recalls (Structure.literalKeys? ask t) keys → keys = none :=
    fun keys recalled =>
      keysOf?_of_union (by simp) record isUnion plain (recalls_keysOf? reliable outer recalled)
  refine ⟨?_, ?_, keyless, ?_, ?_, ?_, ?_⟩
  · intro name rest u u' result result' filters canTest recalled recalled'
    have leaf := leaf_utility tied keeps filters canTest outer recalled
    have leaf' := leaf_utility tied keeps filters canTest inlined recalled'
    have nested (l : TypeId) : s.Leaf ask m l ↔ ∃ i ∈ inner, s.Leaf ask i l :=
      leaf_iff_of_alternatives (tells_alternatives record isUnion told)
    have both (l : TypeId) := contributed_inlined (nested l) (leaf l) (leaf' l)
    exact ⟨fun passes l => (both l).1 passes, fun fails l => (both l).2 fails⟩
  · intro node place choice parameter u result parts distributed written known recalled
    exact leaf_conditional tied keeps parts distributed written outer known recalled
  · intro node node' place place' choice choice' parameter parameter' u u' result result' parts
      parts' distributed distributed' written written' known recalled recalled' l others here
    have leaf : s.Leaf ask result l ↔
        ∃ c ∈ before ++ m :: behind, s.BranchLeaf ask place choice parameter c l :=
      leaf_conditional tied keeps parts distributed written outer
        (fun c among => known c (by grind)) recalled l
    have leaf' : s.Leaf ask result' l ↔
        ∃ c ∈ before ++ inner ++ behind, s.BranchLeaf ask place' choice' parameter' c l :=
      leaf_conditional tied keeps parts' distributed' written' inlined
        (fun c among => known c (by grind)) recalled' l
    rw [leaf, leaf']
    simp only [List.mem_append, List.mem_cons, or_and_right, exists_or, exists_eq_left, here]
    have front : (∃ c ∈ before, s.BranchLeaf ask place choice parameter c l) ↔
        ∃ c ∈ before, s.BranchLeaf ask place' choice' parameter' c l :=
      exists_congr fun c => and_congr_right fun among => others c (by simp [among])
    have back : (∃ c ∈ behind, s.BranchLeaf ask place choice parameter c l) ↔
        ∃ c ∈ behind, s.BranchLeaf ask place' choice' parameter' c l :=
      exists_congr fun c => and_congr_right fun among => others c (by simp [among])
    rw [front, back, or_assoc]
  · exact fun chooses recalled =>
      Computed.utility_of_keyless reliable keyless chooses recalled
  · exact fun parts overKeys written recalled =>
      Computed.mapped_of_keyless reliable keyless parts overKeys written recalled
  · exact fun keys recalled =>
      mem_keysOf?_iff (recalls_keysOf? reliable inlined recalled)

end Inlined

/-! ### Two texts and a flag

`Exclude<Two | true, 'a'>`, where `Two` is `'a' | 'b'`, and the same with `'a' | 'b'` in
its place. -/

namespace TwoTexts

/-- A literal type. -/
def literal (p : Primitive) (value : Value) : TypeRecord :=
  { category := .literal, label := some "", primitive := some p, value }

/-- A union of known types. -/
def union (members : List TypeId) : TypeRecord :=
  { category := .union, shape := .union, cache := { members := some members } }

/-- The union of two texts, the texts, a flag, the union with the name in it, the union with
the two texts in its place, and the union without the first text. -/
def state : State :=
  { records := #[union [1, 2], literal .string (.text "a"), literal .string (.text "b"),
      literal .boolean (.flag true), union [0, 3], union [1, 2, 3], union [2, 3]]
    interned := (({} : Std.HashMap Key TypeId).insert (.union [1, 2, 3]) 5).insert
      (.union [2, 3]) 6 }

theorem interned_cases {key : Key} {t : TypeId} (made : state.interned[key]? = some t) :
    (key = .union [1, 2, 3] ∧ t = 5) ∨ (key = .union [2, 3] ∧ t = 6) := by
  simp only [state, Std.HashMap.getElem?_insert, beq_iff_eq, Std.HashMap.getElem?_empty] at made
  split at made
  · next same => exact .inr ⟨same.symm, (Option.some.inj made).symm⟩
  · split at made
    · next same => exact .inl ⟨same.symm, (Option.some.inj made).symm⟩
    · cases made

theorem keepsUnions : state.KeepsUnions where
  union made := by
    obtain ⟨same, rfl⟩ | ⟨same, rfl⟩ := interned_cases made
    · cases same
      exact ⟨_, rfl, rfl, rfl⟩
    · cases same
      exact ⟨_, rfl, rfl, rfl⟩
  never made := by
    obtain ⟨same, -⟩ | ⟨same, -⟩ := interned_cases made <;> cases same

theorem recalls {α : Type} {x : CheckM α} {a : α} (run : x.run.run state = (.ok a, state)) :
    state.Recalls x a := by
  have left : after x state = state := congrArg Prod.snd run
  refine ⟨state, congrArg Prod.fst run, ?_⟩
  rw [left]
  exact .refl state

theorem reliable : Reliable (answer 4) := Answer.reliable_answer 4

theorem isUnionOf {t : TypeId} {members : List TypeId}
    (known : state.records[t]? = some (union members))
    (run : (answer 4 (.simplified t)).run.run state = (.ok (some t), state)) :
    state.IsUnionOf (answer 4) t members :=
  ⟨t, _, (recalls run).tells (reliable.simplified t), known, rfl, tells_members rfl known rfl⟩

theorem canTest : state.CanTest (answer 4) "Exclude" [1] := by
  have simple : state.Recalls ((answer 4).simplified 1) (some 1) := recalls rfl
  exact .inr ⟨1, [], 1, rfl, simple.tells (reliable.simplified 1)⟩

theorem two_passes : state.Passes (answer 4) "Exclude" [1] 0 true := by
  have simple : state.Recalls ((answer 4).simplified 1) (some 1) := recalls rfl
  have refused : state.Recalls ((answer 4).assignable 0 1) false := recalls rfl
  exact .compared (by decide) (simple.tells (reliable.simplified 1))
    (refused.tells (reliable.assignable 0 1))

/-- Of these members, those that are no `'a'` are left. -/
theorem exclude_run {t result : TypeId} {members : List TypeId} {found : List (TypeId × Bool)}
    {a b : TypeId} {rest : List TypeId}
    (simple : (answer 4 (.simplified t)).run.run state = (.ok (some t), state))
    (listed : ((answer 4).alternatives t).run.run state = (.ok members, state))
    (compared : (members.mapM fun member => do
      return (member, ← (answer 4).assignable member 1) :
        CheckM (List (TypeId × Bool))).run.run state = (.ok found, state))
    (united : ((answer 4).unionMembers pure [] ((found.filter fun pair =>
      pair.2 == ("Exclude" == "Extract")).map Prod.fst)).run.run state = (.ok (a :: b :: rest), state))
    (made : state.interned[Key.union (a :: b :: rest)]? = some result) :
    state.Recalls (Computed.utility (answer 4) 0 "Exclude" [t, 1]) (some result) := by
  have filters : Library.filteringUtilities.contains "Exclude" = true := by decide
  have other : (answer 4 (.simplified 1)).run.run state = (.ok (some 1), state) := rfl
  refine recalls ?_
  rw [Computed.utility, Check.needFirst, pure_bind, if_pos filters, Ask.simplified,
    run_bind_ok simple]
  dsimp only
  rw [Computed.filterMembers, run_bind_ok listed, if_neg (by decide)]
  dsimp only
  rw [Ask.simplified, run_bind_ok other]
  dsimp only
  rw [run_bind_ok compared, map_eq_pure_bind, Ask.unionOfTypes, Ask.unionOf, bind_assoc,
    run_bind_ok united]
  dsimp only
  rw [run_bind_ok (Check.run_intern_of_some made _)]
  rfl

end TwoTexts

open TwoTexts in
/-- The union of the two texts is kept as a whole, and so the first text, which is dropped
where the two stand in its place. -/
theorem union_inlined_twoTexts :
    state.Recalls (Computed.utility (answer 4) 0 "Exclude" [4, 1]) (some 5) ∧
      state.Recalls (Computed.utility (answer 4) 0 "Exclude" [5, 1]) (some 6) ∧
      (∀ l, state.Leaf (answer 4) 5 l ↔ state.Leaf (answer 4) 6 l ∨
        ∃ i ∈ [1, 2], ¬ state.Passes (answer 4) "Exclude" [1] i true ∧
          state.Leaf (answer 4) i l) ∧
      ∀ keys, state.Recalls (Structure.literalKeys? (answer 4) 4) keys → keys = none := by
  have outer : state.IsUnionOf (answer 4) 4 ([] ++ 0 :: [3]) := isUnionOf rfl rfl
  have inlined : state.IsUnionOf (answer 4) 5 ([] ++ [1, 2] ++ [3]) := isUnionOf rfl rfl
  have named : state.Recalls (Computed.utility (answer 4) 0 "Exclude" [4, 1]) (some 5) :=
    exclude_run rfl rfl rfl rfl (by simp [state, Std.HashMap.getElem_insert])
  have written : state.Recalls (Computed.utility (answer 4) 0 "Exclude" [5, 1]) (some 6) :=
    exclude_run rfl rfl rfl rfl (by simp [state])
  have members : state.Tells ((answer 4).members 0) [1, 2] := tells_members rfl rfl rfl
  obtain ⟨filtered, -, keyless, -⟩ :=
    union_inlined rfl keepsUnions outer inlined rfl rfl rfl members
  exact ⟨named, written, (filtered (by decide) canTest named written).1 two_passes, keyless⟩

end TypeGloss
