/-
# TypeGloss.Proofs.Checker.Assigning — when the comparison of two types comes to an end

Whether one type is assignable to another is found by comparing the types they are made of,
and nothing notes which comparisons are being made. So a comparison of two types that lead
back to themselves waits for itself.

What a comparison reads of the two types turns it into a `Goal`: further comparisons, made
one after the other until one of them has the verdict that settles the matter. A comparison
*waits* for the first of them, and for each later one if those before did not settle it.

`assignable_ends_iff` says of all comparisons whose types have been looked into before: a
comparison comes to a verdict, the same with every limit on the nesting that is great enough,
if no chain of comparisons each of which waits for the next goes on without end; and if one
does, no limit is great enough. Two different types of the form `{ next: … }`, each with
itself as the type of `next`, are such a chain.
-/
import Mathlib.Data.Set.Insert
import TypeGloss.Proofs.Checker.Memory

namespace TypeGloss

set_option autoImplicit false

open Answer (answer)

/-! ## Questions that teach the checker nothing -/

/-- A question whose answer the state holds: with a limit that is great enough it is answered
so, with any smaller one it is answered so or exceeds the limit, and the state stays as it
is. -/
structure State.Knows (s : State) (q : Query) (a : q.Answer) : Prop where
  enough : ∃ depth, ∀ limit, depth ≤ limit → (answer limit q).run.run s = (.ok a, s)
  short : ∀ limit, (answer limit q).run.run s = (.ok a, s) ∨
    (answer limit q).run.run s = (.error .exhausted, s)

namespace State.Knows

variable {s : State} {t : TypeId} {r : TypeRecord}

theorem unique {q : Query} {a b : q.Answer} (first : s.Knows q a) (second : s.Knows q b) :
    a = b := by
  obtain ⟨depth, enough⟩ := first.enough
  obtain ⟨depth', enough'⟩ := second.enough
  have same := (enough _ (Nat.le_max_left depth depth')).symm.trans
    (enough' _ (Nat.le_max_right depth depth'))
  exact Except.ok.inj (congrArg Prod.fst same)

/-- A question that is answered as soon as so many questions may be nested. -/
theorem of_steps {q : Query} {a : q.Answer} (steps : Nat)
    (below : ∀ limit, limit < steps → (answer limit q).run.run s = (.error .exhausted, s))
    (above : ∀ more, (answer (steps + more) q).run.run s = (.ok a, s)) : s.Knows q a where
  enough := by
    refine ⟨steps, fun limit deep => ?_⟩
    obtain ⟨more, rfl⟩ := Nat.exists_eq_add_of_le deep
    exact above more
  short limit := by
    rcases Nat.lt_or_ge limit steps with shallow | deep
    · exact .inr (below limit shallow)
    · obtain ⟨more, rfl⟩ := Nat.exists_eq_add_of_le deep
      exact .inl (above more)

theorem load {part : Part} {content : part.Content} (known : s.records[t]? = some r)
    (kept : r.cache.get? part = some content) : s.Knows (.load t part) (some content) := by
  refine of_steps 1 (fun limit shallow => ?_) fun more => ?_
  · obtain rfl : limit = 0 := by omega
    rfl
  · rw [Nat.add_comm]
    exact Answer.run_load_of_some known kept

theorem ofSymbol {symbol : Symbol} {member : Member} (isMember : symbol.member = some member)
    (known : s.slots[member.slot]? = some (some t)) : s.Knows (.ofSymbol symbol) t := by
  refine of_steps 1 (fun limit shallow => ?_) fun more => ?_
  · obtain rfl : limit = 0 := by omega
    rfl
  · rw [Nat.add_comm]
    exact Inference.run_symbolType_of_some isMember known

/-- The properties of an object that have been found before. -/
theorem properties {symbols : List Symbol} (known : s.records[t]? = some r)
    (object : r.category = .object) (kept : r.cache.properties = some symbols) :
    s.Knows (.properties t) symbols := by
  have category : (Check.category t).run.run s = (.ok .object, s) := by
    have read : outcome (Check.record t) s = .ok r := Check.outcome_record_eq_ok.2 known
    rw [Check.category, Check.facts, bind_assoc, run_bind, read, Check.after_record]
    exact congrArg (fun category => (Except.ok category, s)) object
  have simple (limit : Nat) :
      (answer (limit + 1) (.simplified t)).run.run s = (.ok (some t), s) := by
    change (Structure.simplifiedIn (answer limit) 16 t).run.run s = _
    rw [Structure.simplifiedIn, run_bind, outcome, after, category]
    rfl
  refine of_steps 2 (fun limit shallow => ?_) fun more => ?_
  · obtain rfl | rfl : limit = 0 ∨ limit = 1 := by omega
    · rfl
    · rfl
  · rw [Nat.add_comm]
    change (Structure.properties (answer (more + 1)) t).run.run s = _
    rw [Structure.properties, run_bind, Ask.simplified, outcome, after, simple]
    simp only
    rw [run_bind, outcome, after, category]
    simp only
    have found : r.cache.get? .properties = some symbols := kept
    rw [run_bind, Ask.load?, outcome, after, answer, Answer.step,
      Answer.run_load_of_some known found]
    rfl

end State.Knows

/-! ## Comparisons -/

namespace Assignability

/-- What a comparison comes down to: further comparisons, made one after the other until one
of them has the verdict `stop`, which is then the verdict; else the verdict is `last`. -/
structure Goal where
  pairs : List (TypeId × TypeId)
  stop : Bool
  last : Bool

/-- Make the comparisons of a goal. -/
def pursue (compare : TypeId → TypeId → CheckM Bool) (stop last : Bool) :
    List (TypeId × TypeId) → CheckM Bool
  | [] => return last
  | (source, target) :: rest => do
      if (← compare source target) = stop then return stop else pursue compare stop last rest

/-- To compare with each target until one accepts is to pursue the pairs up to a first success. -/
theorem anyM_eq_pursue (compare : TypeId → TypeId → CheckM Bool) (source : TypeId)
    (targets : List TypeId) :
    targets.anyM (compare source) =
      pursue compare true false (targets.map fun target => (source, target)) := by
  induction targets with
  | nil => rfl
  | cons target rest ih =>
      rw [List.anyM, ih, List.map_cons, pursue]
      congr 1
      funext verdict
      cases verdict <;> rfl

/-- Comparing pairs until one is refused is pursuing them as a conjunction. -/
theorem allM_eq_pursue {α : Type} (compare : TypeId → TypeId → CheckM Bool)
    (pair : α → TypeId × TypeId) (items : List α) :
    (items.allM fun item => compare (pair item).1 (pair item).2) =
      pursue compare false true (items.map pair) := by
  induction items with
  | nil => rfl
  | cons item rest ih =>
      rw [List.allM, ih, List.map_cons, pursue]
      congr 1
      funext verdict
      cases verdict <;> rfl

/-- How two types are compared, by what is known of them at once. -/
inductive Form where
  | known (verdict : Bool)
  /-- One type with each member of a union. -/
  | intoUnion
  /-- Each member of a union with one type. -/
  | outOfUnion
  | elements
  /-- The items of a tuple with the elements of an array. -/
  | items
  | members

/-- The form of a comparison of two types that are no unions. -/
def categoryForm (given want : TypeFacts) : Form :=
  match want.category with
  | .primitive => .known (toPrimitive given want)
  | .literal => .known (toLiteral given want)
  | .array =>
      if given.category = .array then .elements
      else if given.category = .tuple then .items
      else .known false
  | .function => .known (given.category = .function)
  | .generic => .known (given.name == want.name && given.args.length == want.args.length)
  | category =>
      if category.isObjectShaped && given.category.isObjectShaped then .members
      else .known false

/-- The form of a comparison. -/
def form (source target : TypeId) (given want : TypeFacts) : Form :=
  if source = target then .known true
  else if want.primitive == some .any || want.primitive == some .unknown then .known true
  else if given.primitive == some .never then .known true
  else if want.category = .union then .intoUnion
  else if given.category = .union then .outOfUnion
  else categoryForm given want

section Reading

variable (reads : (q : Query) → q.Answer → Prop)

/-- The comparisons of an object with the required properties of another, up to one that it
does not have: then the verdict after all of them is no. -/
inductive Required (available : Entries Symbol) :
    List Symbol → List (TypeId × TypeId) → Bool → Prop where
  | nil : Required available [] [] true
  | optional {property : Symbol} {rest : List Symbol} {pairs : List (TypeId × TypeId)}
      {last : Bool} (isOptional : property.isOptional = true)
      (others : Required available rest pairs last) :
      Required available (property :: rest) pairs last
  | missing {property : Symbol} {rest : List Symbol} (isRequired : property.isOptional = false)
      (absent : Entries.find? (property.name.getD "") available = none) :
      Required available (property :: rest) [] false
  | present {property found : Symbol} {source target : TypeId} {rest : List Symbol}
      {pairs : List (TypeId × TypeId)} {last : Bool} (isRequired : property.isOptional = false)
      (there : Entries.find? (property.name.getD "") available = some found)
      (given : reads (.ofSymbol found) source) (want : reads (.ofSymbol property) target)
      (others : Required available rest pairs last) :
      Required available (property :: rest) ((source, target) :: pairs) last

/-- What a comparison of some form comes down to, by what is read of the two types. -/
def ComesTo (source target : TypeId) : Form → Goal → Prop
  | .known verdict, goal => goal = ⟨[], true, verdict⟩
  | .intoUnion, goal => ∃ members : Option (List TypeId), reads (.load target .members) members ∧
      goal = ⟨(members.getD []).map fun member => (source, member), true, false⟩
  | .outOfUnion, goal => ∃ members : Option (List TypeId), reads (.load source .members) members ∧
      goal = ⟨(members.getD []).map fun member => (member, target), false, true⟩
  | .elements, goal => ∃ given want : TypeId, reads (.load source .element) (some given) ∧
      reads (.load target .element) (some want) ∧ goal = ⟨[(given, want)], false, true⟩
  | .items, goal => ∃ (items : Option (List TupleItem)) (want : TypeId),
      reads (.load source .elements) items ∧ reads (.load target .element) (some want) ∧
        goal = ⟨(items.getD []).map fun item => (item.type, want), false, true⟩
  | .members, goal => ∃ given want : List Symbol, reads (.properties source) given ∧
      reads (.properties target) want ∧ goal.stop = false ∧
        Required reads (Structure.byName given) want goal.pairs goal.last

end Reading

/-! ### One step -/

/-- A run comes to another one or, unless the limit is great enough, exceeds the limit. -/
def Leads {α : Type} (deep : Prop) (s : State) (x y : CheckM α) : Prop :=
  x.run.run s = y.run.run s ∨ ¬deep ∧ x.run.run s = (.error .exhausted, s)

section Steps

variable {α β : Type} {deep : Prop} {s : State}

theorem Leads.refl (x : CheckM α) : Leads deep s x x := .inl rfl

/-- What a first step comes to without doing anything can be bound to what the rest leads to. -/
theorem Leads.bind {x : CheckM α} {a : α} {f : α → CheckM β} {y : CheckM β}
    (first : Leads deep s x (pure a)) (rest : Leads deep s (f a) y) :
    Leads deep s (x >>= f) y := by
  rcases first with read | ⟨shallow, exceeded⟩
  · rw [Leads, run_bind, outcome, after, read]
    exact rest
  · refine .inr ⟨shallow, ?_⟩
    rw [run_bind, outcome, after, exceeded]

theorem leads_facts {t : TypeId} {r : TypeRecord} (known : s.records[t]? = some r) :
    Leads deep s (Check.facts t) (pure r.toTypeFacts) := by
  refine .inl ?_
  rw [Check.facts, run_bind, Check.outcome_record_eq_ok.2 known, Check.after_record]

variable {ask : Ask} {reads : (q : Query) → q.Answer → Prop}
  (readable : ∀ q a, reads q a → Leads deep s (ask q) (pure a))

include readable

/-- The required properties are compared as the goal says. A comparison must leave the state
as it is, so that what is read behind it is read in the same state. -/
theorem leads_required {available : Entries Symbol} {symbols : List Symbol}
    {pairs : List (TypeId × TypeId)} {last : Bool}
    (required : Required reads available symbols pairs last)
    (silent : ∀ pair ∈ pairs, after (ask.assignable pair.1 pair.2) s = s) :
    Leads deep s
      (symbols.allM fun property => do
        if property.isOptional then return true
        else
          match Entries.find? (property.name.getD "") available with
          | none => return false
          | some found =>
              let given ← ask.ofSymbol found
              ask.assignable given (← ask.ofSymbol property))
      (pursue ask.assignable false last pairs) := by
  induction required with
  | nil => exact .refl _
  | optional isOptional _ ih =>
      rw [List.allM, if_pos isOptional, pure_bind]
      exact ih silent
  | missing isRequired absent =>
      rw [List.allM, isRequired]
      simp only [absent, Bool.false_eq_true, if_false, pure_bind]
      exact .refl _
  | @present property found source target rest pairs last isRequired there given want _ ih =>
      rw [List.allM, isRequired]
      simp only [there, Bool.false_eq_true, if_false, bind_assoc]
      refine (readable _ _ given).bind ((readable _ _ want).bind ?_)
      have others := ih fun pair among => silent pair (List.mem_cons_of_mem _ among)
      have same : after (ask.assignable source target) s = s :=
        silent (source, target) List.mem_cons_self
      rw [Leads, run_bind, pursue, run_bind, same]
      cases verdict : outcome (ask.assignable source target) s with
      | error fault => exact .inl rfl
      | ok holds =>
          cases holds with
          | true => exact others
          | false => exact .inl rfl

/-- An array is compared as the form says that the two elements, or the slots, come to. -/
theorem leads_toArray {source target : TypeId} {category : Category} {goal : Goal}
    (comes : ComesTo reads source target
      (if category = .array then .elements else if category = .tuple then .items
        else .known false) goal) :
    Leads deep s (toArray ask category source target)
      (pursue ask.assignable goal.stop goal.last goal.pairs) := by
  unfold toArray
  split at comes
  · next array =>
      obtain ⟨given, want, read, read', rfl⟩ := comes
      rw [if_pos array]
      refine (readable _ _ read).bind ?_
      refine (readable _ _ read').bind ?_
      rw [Check.need, pure_bind, Check.need, pure_bind, pursue]
      -- The verdict of the one comparison is the verdict.
      have passed : (fun verdict => if verdict = false then pure false
          else pursue ask.assignable false true []) = (pure : Bool → CheckM Bool) := by
        funext verdict
        cases verdict <;> rfl
      rw [passed, bind_pure]
      exact .refl _
  next other =>
  rw [if_neg other]
  split at comes
  · next tuple =>
      obtain ⟨items, want, read, read', rfl⟩ := comes
      rw [if_pos tuple, Ask.elements]
      refine (readable _ _ read').bind ?_
      rw [bind_assoc]
      refine (readable _ _ read).bind ?_
      simp only [Check.need, pure_bind]
      rw [allM_eq_pursue ask.assignable fun item : TupleItem => (item.type, want)]
      exact .refl _
  · next neither =>
      cases comes
      rw [if_neg neither]
      exact .refl _

/-- Objects are compared member by member, as long as the comparisons do nothing to the state. -/
theorem leads_toObject {source target : TypeId} {goal : Goal}
    (comes : ComesTo reads source target .members goal)
    (silent : ∀ pair ∈ goal.pairs, after (ask.assignable pair.1 pair.2) s = s) :
    Leads deep s (toObject ask source target)
      (pursue ask.assignable goal.stop goal.last goal.pairs) := by
  obtain ⟨given, want, read, read', stop, required⟩ := comes
  refine (readable _ _ read).bind ((readable _ _ read').bind ?_)
  rw [stop]
  exact leads_required readable required silent

theorem leads_byCategory {source target : TypeId} {given want : TypeFacts} {goal : Goal}
    (comes : ComesTo reads source target (categoryForm given want) goal)
    (silent : ∀ pair ∈ goal.pairs, after (ask.assignable pair.1 pair.2) s = s) :
    Leads deep s (byCategory ask source target given want)
      (pursue ask.assignable goal.stop goal.last goal.pairs) := by
  have shaped (category : Category) (comes : ComesTo reads source target
      (if category.isObjectShaped && given.category.isObjectShaped then .members
        else .known false) goal) :
      Leads deep s
        (if category.isObjectShaped && given.category.isObjectShaped then
          toObject ask source target else return false)
        (pursue ask.assignable goal.stop goal.last goal.pairs) := by
    split
    · next both =>
        rw [if_pos both] at comes
        exact leads_toObject readable comes silent
    · next other =>
        rw [if_neg other] at comes
        cases comes
        exact .refl _
  unfold categoryForm at comes
  unfold byCategory
  cases category : want.category with
  | array =>
      simp only [category] at comes ⊢
      exact leads_toArray readable comes
  | primitive | literal | function | generic =>
      simp only [category] at comes ⊢
      cases comes
      exact .refl _
  | object | union | intersection | tuple | classType | enum | named | computed =>
      simp only [category] at comes ⊢
      exact shaped _ comes

/-- Two types are compared as the goal says. -/
theorem leads_assignable {source target : TypeId} {r r' : TypeRecord} {goal : Goal}
    (known : s.records[source]? = some r) (known' : s.records[target]? = some r')
    (comes : ComesTo reads source target (form source target r.toTypeFacts r'.toTypeFacts) goal)
    (silent : ∀ pair ∈ goal.pairs, after (ask.assignable pair.1 pair.2) s = s) :
    Leads deep s (assignable ask source target)
      (pursue ask.assignable goal.stop goal.last goal.pairs) := by
  refine (leads_facts known).bind ((leads_facts known').bind ?_)
  unfold form at comes
  split at comes
  · next same =>
      cases comes
      rw [if_pos same]
      exact .refl _
  next different =>
  rw [if_neg different]
  split at comes
  · next anything =>
      cases comes
      rw [if_pos anything]
      exact .refl _
  next something =>
  rw [if_neg something]
  split at comes
  · next never =>
      cases comes
      rw [if_pos never]
      exact .refl _
  next inhabited =>
  rw [if_neg inhabited]
  split at comes
  · next union =>
      obtain ⟨members, read, rfl⟩ := comes
      rw [if_pos union, Ask.members, bind_assoc]
      refine (readable _ _ read).bind ?_
      rw [pure_bind, anyM_eq_pursue]
      exact .refl _
  next single =>
  rw [if_neg single]
  split at comes
  · next union =>
      obtain ⟨members, read, rfl⟩ := comes
      rw [if_pos union, Ask.members, bind_assoc]
      refine (readable _ _ read).bind ?_
      rw [pure_bind, allM_eq_pursue ask.assignable fun member => (member, target)]
      exact .refl _
  next single' =>
  rw [if_neg single']
  exact leads_byCategory readable comes silent

end Steps

/-! ## Verdicts -/

/-- What the comparison of two types comes down to, by what the state knows of them. -/
def Reduces (s : State) (source target : TypeId) (goal : Goal) : Prop :=
  ∃ r r' : TypeRecord, s.records[source]? = some r ∧ s.records[target]? = some r' ∧
    ComesTo s.Knows source target (form source target r.toTypeFacts r'.toTypeFacts) goal

/-- The verdict of a comparison, by finitely many others. -/
inductive Decides (s : State) : TypeId → TypeId → Bool → Prop where
  /-- A comparison settles the matter, and those before it did not. -/
  | stopped {source target given want : TypeId} (before : List (TypeId × TypeId))
      {rest : List (TypeId × TypeId)} {stop last : Bool}
      (reduces : Reduces s source target ⟨before ++ (given, want) :: rest, stop, last⟩)
      (passed : ∀ pair ∈ before, Decides s pair.1 pair.2 (!stop))
      (settled : Decides s given want stop) : Decides s source target stop
  /-- No comparison settles the matter. -/
  | passed {source target : TypeId} (goal : Goal) (reduces : Reduces s source target goal)
      (passed : ∀ pair ∈ goal.pairs, Decides s pair.1 pair.2 (!goal.stop)) :
      Decides s source target goal.last

/-- A comparison cannot come to a verdict before another one has. -/
def Waits (s : State) (pair next : TypeId × TypeId) : Prop :=
  ∃ before rest stop last, Reduces s pair.1 pair.2 ⟨before ++ next :: rest, stop, last⟩ ∧
    ∀ earlier ∈ before, Decides s earlier.1 earlier.2 (!stop)

/-- Comparisons of types that the state knows all about, together with the comparisons that
they come down to. -/
def Surveys (s : State) (pairs : Set (TypeId × TypeId)) : Prop :=
  ∀ pair ∈ pairs, ∃ goal, Reduces s pair.1 pair.2 goal ∧ ∀ next ∈ goal.pairs, next ∈ pairs

/-! ### A comparison comes down to one goal -/

/-- Which pairs an object is compared by is settled by what is known of the two objects. -/
theorem Required.unique {s : State} {available : Entries Symbol} {symbols : List Symbol}
    {pairs pairs' : List (TypeId × TypeId)} {last last' : Bool}
    (required : Required s.Knows available symbols pairs last)
    (required' : Required s.Knows available symbols pairs' last') :
    pairs = pairs' ∧ last = last' := by
  induction required generalizing pairs' with
  | nil =>
      cases required'
      exact ⟨rfl, rfl⟩
  | optional isOptional _ ih =>
      cases required' with
      | optional _ others => exact ih others
      | missing isRequired => simp [isOptional] at isRequired
      | present isRequired => simp [isOptional] at isRequired
  | missing isRequired absent =>
      cases required' with
      | optional isOptional => simp [isRequired] at isOptional
      | missing => exact ⟨rfl, rfl⟩
      | present _ there => simp [absent] at there
  | present isRequired there given want _ ih =>
      cases required' with
      | optional isOptional => simp [isRequired] at isOptional
      | missing _ absent => simp [there] at absent
      | present _ there' have' want' others =>
          obtain rfl := Option.some.inj (there.symm.trans there')
          obtain ⟨rfl, rfl⟩ := ih others
          exact ⟨by rw [given.unique have', want.unique want'], rfl⟩

/-- A comparison comes to one goal at most. -/
theorem ComesTo.unique {s : State} {source target : TypeId} {form : Form} {goal goal' : Goal}
    (comes : ComesTo s.Knows source target form goal)
    (comes' : ComesTo s.Knows source target form goal') : goal = goal' := by
  cases form with
  | known verdict => exact comes.trans comes'.symm
  | intoUnion =>
      obtain ⟨members, read, rfl⟩ := comes
      obtain ⟨members', read', rfl⟩ := comes'
      rw [read.unique read']
  | outOfUnion =>
      obtain ⟨members, read, rfl⟩ := comes
      obtain ⟨members', read', rfl⟩ := comes'
      rw [read.unique read']
  | elements =>
      obtain ⟨given, want, read, readWant, rfl⟩ := comes
      obtain ⟨have', want', read', readWant', rfl⟩ := comes'
      obtain rfl := Option.some.inj (read.unique read')
      obtain rfl := Option.some.inj (readWant.unique readWant')
      rfl
  | items =>
      obtain ⟨items, want, read, readWant, rfl⟩ := comes
      obtain ⟨items', want', read', readWant', rfl⟩ := comes'
      obtain rfl := Option.some.inj (readWant.unique readWant')
      rw [read.unique read']
  | members =>
      obtain ⟨given, want, read, readWant, stop, required⟩ := comes
      obtain ⟨have', want', read', readWant', stop', required'⟩ := comes'
      obtain rfl := read.unique read'
      obtain rfl := readWant.unique readWant'
      obtain ⟨pairs, last⟩ := required.unique required'
      cases goal
      cases goal'
      simp_all

/-- A comparison comes to one goal only. -/
theorem Reduces.unique {s : State} {source target : TypeId} {goal goal' : Goal}
    (reduces : Reduces s source target goal) (reduces' : Reduces s source target goal') :
    goal = goal' := by
  obtain ⟨r, r', known, known', comes⟩ := reduces
  obtain ⟨q, q', again, again', comes'⟩ := reduces'
  obtain rfl := Option.some.inj (known.symm.trans again)
  obtain rfl := Option.some.inj (known'.symm.trans again')
  exact comes.unique comes'

/-! ### Verdicts and runs -/

/-- What is read for a goal is read with every limit from some depth on. -/
theorem Required.deep {s : State} {available : Entries Symbol} {symbols : List Symbol}
    {pairs : List (TypeId × TypeId)} {last : Bool}
    (required : Required s.Knows available symbols pairs last) :
    ∃ depth, ∀ limit, depth ≤ limit →
      Required (fun q a => (answer limit q).run.run s = (.ok a, s)) available symbols pairs last := by
  induction required with
  | nil => exact ⟨0, fun _ _ => .nil⟩
  | optional isOptional _ ih =>
      obtain ⟨depth, deep⟩ := ih
      exact ⟨depth, fun limit above => .optional isOptional (deep limit above)⟩
  | missing isRequired absent => exact ⟨0, fun _ _ => .missing isRequired absent⟩
  | present isRequired there given want _ ih =>
      obtain ⟨depth, deep⟩ := ih
      obtain ⟨first, read⟩ := given.enough
      obtain ⟨second, read'⟩ := want.enough
      refine ⟨max depth (max first second), fun limit above => ?_⟩
      exact .present isRequired there (read limit (by omega)) (read' limit (by omega))
        (deep limit (by omega))

/-- What is known in a state is told at every great enough limit. -/
theorem ComesTo.deep {s : State} {source target : TypeId} {form : Form} {goal : Goal}
    (comes : ComesTo s.Knows source target form goal) :
    ∃ depth, ∀ limit, depth ≤ limit →
      ComesTo (fun q a => (answer limit q).run.run s = (.ok a, s)) source target form goal := by
  cases form with
  | known verdict => exact ⟨0, fun _ _ => comes⟩
  | intoUnion =>
      obtain ⟨members, read, same⟩ := comes
      obtain ⟨depth, deep⟩ := read.enough
      exact ⟨depth, fun limit above => ⟨members, deep limit above, same⟩⟩
  | outOfUnion =>
      obtain ⟨members, read, same⟩ := comes
      obtain ⟨depth, deep⟩ := read.enough
      exact ⟨depth, fun limit above => ⟨members, deep limit above, same⟩⟩
  | elements =>
      obtain ⟨given, want, read, read', same⟩ := comes
      obtain ⟨depth, deep⟩ := read.enough
      obtain ⟨depth', deep'⟩ := read'.enough
      exact ⟨max depth depth', fun limit above =>
        ⟨given, want, deep limit (by omega), deep' limit (by omega), same⟩⟩
  | items =>
      obtain ⟨items, want, read, read', same⟩ := comes
      obtain ⟨depth, deep⟩ := read.enough
      obtain ⟨depth', deep'⟩ := read'.enough
      exact ⟨max depth depth', fun limit above =>
        ⟨items, want, deep limit (by omega), deep' limit (by omega), same⟩⟩
  | members =>
      obtain ⟨given, want, read, read', stop, required⟩ := comes
      obtain ⟨depth, deep⟩ := read.enough
      obtain ⟨depth', deep'⟩ := read'.enough
      obtain ⟨depth'', deep''⟩ := required.deep
      exact ⟨max depth (max depth' depth''), fun limit above =>
        ⟨given, want, deep limit (by omega), deep' limit (by omega), stop,
          deep'' limit (by omega)⟩⟩

variable {s : State} {pairs : Set (TypeId × TypeId)}

/-- If each comparison of a list comes to a verdict by finitely many others or exceeds the
limit, so does the goal that they are made for. -/
theorem run_pursue (compare : TypeId → TypeId → CheckM Bool) {source target : TypeId}
    {stop last : Bool} (before rest : List (TypeId × TypeId))
    (reduces : Reduces s source target ⟨before ++ rest, stop, last⟩)
    (passed : ∀ pair ∈ before, Decides s pair.1 pair.2 (!stop))
    (each : ∀ pair ∈ rest,
      (∃ verdict, Decides s pair.1 pair.2 verdict ∧
        (compare pair.1 pair.2).run.run s = (.ok verdict, s)) ∨
      (compare pair.1 pair.2).run.run s = (.error .exhausted, s)) :
    (∃ verdict, Decides s source target verdict ∧
      (pursue compare stop last rest).run.run s = (.ok verdict, s)) ∨
    (pursue compare stop last rest).run.run s = (.error .exhausted, s) := by
  induction rest generalizing before with
  | nil =>
      rw [List.append_nil] at reduces
      exact .inl ⟨last, .passed _ reduces passed, rfl⟩
  | cons pair rest ih =>
      rw [pursue, run_bind, outcome, after]
      rcases each pair List.mem_cons_self with ⟨verdict, decides, run⟩ | exceeded
      · rw [run]
        by_cases settled : verdict = stop
        · subst settled
          refine .inl ⟨verdict, .stopped before reduces passed decides, ?_⟩
          simp only [if_true]
          rfl
        · simp only [if_neg settled]
          have other : verdict = !stop := by
            cases verdict <;> cases stop <;> simp_all
          subst other
          refine ih (before ++ [pair]) (by simpa using reduces) ?_ fun next later =>
            each next (List.mem_cons_of_mem _ later)
          intro earlier among
          rcases List.mem_append.1 among with earlier | last
          · exact passed _ earlier
          · obtain rfl := List.mem_singleton.1 last
            exact decides
      · exact .inr (by rw [exceeded])

/-- With any limit, a comparison comes to a verdict by finitely many others or exceeds the
limit, and it leaves the state as it is. -/
theorem run_assignable (surveyed : Surveys s pairs) (limit : Nat) {pair : TypeId × TypeId}
    (among : pair ∈ pairs) :
    (∃ verdict, Decides s pair.1 pair.2 verdict ∧
      (answer limit (.assignable pair.1 pair.2)).run.run s = (.ok verdict, s)) ∨
    (answer limit (.assignable pair.1 pair.2)).run.run s = (.error .exhausted, s) := by
  induction limit generalizing pair with
  | zero => exact .inr rfl
  | succ limit ih =>
      obtain ⟨goal, reduces, inside⟩ := surveyed pair among
      obtain ⟨r, r', known, known', comes⟩ := reduces
      have readable : ∀ (q : Query) (a : q.Answer), s.Knows q a →
          Leads False s (answer limit q) (pure a) := fun q a knows =>
        (knows.short limit).imp_right fun exceeded => ⟨not_false, exceeded⟩
      have silent : ∀ next ∈ goal.pairs,
          after ((answer limit).assignable next.1 next.2) s = s := by
        intro next later
        rcases ih (inside next later) with ⟨verdict, -, run⟩ | exceeded
        · exact congrArg Prod.snd run
        · exact congrArg Prod.snd exceeded
      rcases leads_assignable readable known known' comes silent with same | ⟨-, exceeded⟩
      · have verdict := run_pursue (answer limit).assignable [] goal.pairs
          ⟨r, r', known, known', comes⟩ (by simp) fun next later => ih (inside next later)
        rw [answer, Answer.step, same]
        exact verdict
      · exact .inr exceeded

/-- A comparison among the surveyed pairs leaves the state as it is. -/
theorem after_assignable (surveyed : Surveys s pairs) (limit : Nat) {pair : TypeId × TypeId}
    (among : pair ∈ pairs) : after ((answer limit).assignable pair.1 pair.2) s = s := by
  rcases run_assignable surveyed limit among with ⟨verdict, -, run⟩ | exceeded
  · exact congrArg Prod.snd run
  · exact congrArg Prod.snd exceeded

/-- Comparisons that do not settle a matter are passed. -/
theorem run_pursue_append (compare : TypeId → TypeId → CheckM Bool) (stop last : Bool)
    {before : List (TypeId × TypeId)} (rest : List (TypeId × TypeId))
    (passed : ∀ pair ∈ before, (compare pair.1 pair.2).run.run s = (.ok (!stop), s)) :
    (pursue compare stop last (before ++ rest)).run.run s =
      (pursue compare stop last rest).run.run s := by
  induction before with
  | nil => rfl
  | cons pair before ih =>
      have other : (!stop) ≠ stop := by cases stop <;> simp
      rw [List.cons_append, pursue, run_bind, outcome, after, passed pair List.mem_cons_self]
      simp only [if_neg other]
      exact ih fun earlier among => passed earlier (List.mem_cons_of_mem _ among)

/-- What holds from some depth on of each of finitely many things holds of all of them from
some depth on. -/
theorem exists_common_depth {α : Type} {P : Nat → α → Prop} (items : List α)
    (each : ∀ item ∈ items, ∃ depth, ∀ limit, depth ≤ limit → P limit item) :
    ∃ depth, ∀ limit, depth ≤ limit → ∀ item ∈ items, P limit item := by
  induction items with
  | nil => exact ⟨0, by simp⟩
  | cons first rest ih =>
      obtain ⟨depth, holds⟩ := each first List.mem_cons_self
      obtain ⟨depth', others⟩ := ih fun item among => each item (List.mem_cons_of_mem _ among)
      refine ⟨max depth depth', fun limit above item among => ?_⟩
      rcases List.mem_cons.1 among with rfl | later
      · exact holds limit (by omega)
      · exact others limit (by omega) item later

/-- A verdict by finitely many comparisons is come to with every limit that is great
enough. -/
theorem run_of_decides (surveyed : Surveys s pairs) {source target : TypeId} {verdict : Bool}
    (decides : Decides s source target verdict) (among : (source, target) ∈ pairs) :
    ∃ depth, ∀ limit, depth ≤ limit →
      (answer limit (.assignable source target)).run.run s = (.ok verdict, s) := by
  -- From some depth on, the comparison is its goal pursued one level deeper.
  have pursued {source target : TypeId} {goal : Goal} (among : (source, target) ∈ pairs)
      (reduces : Reduces s source target goal) :
      (∀ next ∈ goal.pairs, next ∈ pairs) ∧ ∃ depth, ∀ limit, depth ≤ limit →
        (answer (limit + 1) (.assignable source target)).run.run s =
          (pursue (answer limit).assignable goal.stop goal.last goal.pairs).run.run s := by
    obtain ⟨other, reduces', inside⟩ := surveyed _ among
    obtain rfl := reduces.unique reduces'
    obtain ⟨r, r', known, known', comes⟩ := reduces
    obtain ⟨depth, deep⟩ := comes.deep
    refine ⟨inside, depth, fun limit above => ?_⟩
    have leads : Leads True s (assignable (answer limit) source target)
        (pursue (answer limit).assignable goal.stop goal.last goal.pairs) :=
      leads_assignable (fun q a read => .inl read) known known' (deep limit above)
        fun next later => after_assignable surveyed limit (inside next later)
    exact leads.resolve_right fun shallow => shallow.1 trivial
  induction decides with
  | @stopped source target given want before rest stop last reduces passed settled ih ih' =>
      obtain ⟨inside, depth, goal⟩ := pursued among reduces
      obtain ⟨first, passes⟩ := exists_common_depth before fun pair earlier =>
        ih pair earlier (inside pair (List.mem_append_left _ earlier))
      obtain ⟨second, settles⟩ := ih' (inside _ (by simp))
      refine ⟨max depth (max first second) + 1, fun limit above => ?_⟩
      obtain ⟨limit, rfl⟩ : ∃ lower, limit = lower + 1 := ⟨limit - 1, by omega⟩
      rw [goal limit (by omega)]
      have skipped := run_pursue_append (answer limit).assignable stop last
        ((given, want) :: rest) (passes limit (by omega))
      rw [skipped, pursue, run_bind, outcome, after, Ask.assignable, settles limit (by omega)]
      simp only [if_true]
      rfl
  | @passed source target goal reduces passed ih =>
      obtain ⟨inside, depth, pursues⟩ := pursued among reduces
      obtain ⟨first, passes⟩ := exists_common_depth goal.pairs fun pair earlier =>
        ih pair earlier (inside pair earlier)
      refine ⟨max depth first + 1, fun limit above => ?_⟩
      obtain ⟨limit, rfl⟩ : ∃ lower, limit = lower + 1 := ⟨limit - 1, by omega⟩
      rw [pursues limit (by omega), ← List.append_nil goal.pairs]
      exact run_pursue_append (answer limit).assignable _ _ [] (passes limit (by omega))

/-- A pair that is surveyed has one verdict at most. -/
theorem Decides.unique (surveyed : Surveys s pairs) {source target : TypeId}
    {verdict verdict' : Bool} (among : (source, target) ∈ pairs)
    (decides : Decides s source target verdict) (decides' : Decides s source target verdict') :
    verdict = verdict' := by
  obtain ⟨depth, run⟩ := run_of_decides surveyed decides among
  obtain ⟨depth', run'⟩ := run_of_decides surveyed decides' among
  have same := (run _ (Nat.le_max_left depth depth')).symm.trans
    (run' _ (Nat.le_max_right depth depth'))
  exact Except.ok.inj (congrArg Prod.fst same)

/-! ## Chains of comparisons -/

/-- A comparison has a verdict if no chain of comparisons, each of which waits for the next,
goes on without end. -/
theorem decides_of_acc (surveyed : Surveys s pairs) {pair : TypeId × TypeId}
    (ends : Acc (fun next pair => Waits s pair next) pair) (among : pair ∈ pairs) :
    ∃ verdict, Decides s pair.1 pair.2 verdict := by
  induction ends with
  | intro pair _ ih =>
      obtain ⟨⟨all, stop, last⟩, reduces, inside⟩ := surveyed pair among
      -- The comparisons are made in turn, up to one that settles the matter.
      suffices turn : ∀ rest before : List (TypeId × TypeId), all = before ++ rest →
          (∀ earlier ∈ before, Decides s earlier.1 earlier.2 (!stop)) →
            ∃ verdict, Decides s pair.1 pair.2 verdict from turn all [] rfl (by simp)
      intro rest
      induction rest with
      | nil =>
          intro before same passed
          rw [List.append_nil] at same
          subst same
          exact ⟨last, .passed _ reduces passed⟩
      | cons next rest turn =>
          intro before same passed
          subst same
          obtain ⟨verdict, decides⟩ := ih next ⟨before, rest, stop, last, reduces, passed⟩
            (inside next (by simp))
          by_cases settled : verdict = stop
          · subst settled
            exact ⟨verdict, .stopped before reduces passed decides⟩
          · have other : verdict = !stop := by
              cases verdict <;> cases stop <;> simp_all
            subst other
            refine turn (before ++ [next]) (by simp) fun earlier member => ?_
            rcases List.mem_append.1 member with earlier | last
            · exact passed _ earlier
            · obtain rfl := List.mem_singleton.1 last
              exact decides

/-- A comparison that has a verdict waits for no chain without end. -/
theorem acc_of_decides (surveyed : Surveys s pairs) {source target : TypeId} {verdict : Bool}
    (decides : Decides s source target verdict) (among : (source, target) ∈ pairs) :
    Acc (fun next pair => Waits s pair next) (source, target) := by
  induction decides with
  | @stopped source target given want before rest stop last reduces passed settled ih ih' =>
      obtain ⟨other, reduces', inside⟩ := surveyed _ among
      obtain rfl := reduces.unique reduces'
      refine .intro _ fun next waits => ?_
      obtain ⟨before', rest', stop', last', reduces'', passed'⟩ := waits
      have same := reduces.unique reduces''
      simp only [Goal.mk.injEq] at same
      obtain ⟨same, rfl, rfl⟩ := same
      rcases List.append_eq_append_iff.1 same with ⟨gap, rfl, tail⟩ | ⟨gap, rfl, tail⟩
      · cases gap with
        | nil =>
            simp only [List.nil_append, List.cons.injEq] at tail
            obtain ⟨rfl, -⟩ := tail
            exact ih' (inside _ (by simp))
        | cons first gap =>
            -- The comparison that settles the matter would have been passed.
            simp only [List.cons_append, List.cons.injEq] at tail
            obtain ⟨rfl, -⟩ := tail
            have both := Decides.unique surveyed (inside (given, want) (by simp)) settled
              (passed' (given, want) (by simp))
            cases stop <;> simp at both
      · cases gap with
        | nil =>
            simp only [List.nil_append, List.cons.injEq] at tail
            obtain ⟨rfl, -⟩ := tail
            exact ih' (inside _ (by simp))
        | cons first gap =>
            simp only [List.cons_append, List.cons.injEq] at tail
            obtain ⟨rfl, -⟩ := tail
            exact ih next (by simp) (inside _ (by simp))
  | @passed source target goal reduces passed ih =>
      obtain ⟨other, reduces', inside⟩ := surveyed _ among
      obtain rfl := reduces.unique reduces'
      refine .intro _ fun next waits => ?_
      obtain ⟨before, rest, stop, last, reduces'', -⟩ := waits
      obtain rfl := reduces.unique reduces''
      exact ih next (by simp) (inside next (by simp))

/-- A comparison of types that the state knows all about comes to a verdict, the same with
every limit on the nesting that is great enough and without a change of the state, if no
chain of comparisons each of which waits for the next goes on without end. If one does, the
comparison exceeds every limit. -/
theorem assignable_ends_iff {s : State} {pairs : Set (TypeId × TypeId)}
    (surveyed : Surveys s pairs) {source target : TypeId} (among : (source, target) ∈ pairs) :
    (Acc (fun next pair => Waits s pair next) (source, target) →
      ∃ verdict, Decides s source target verdict ∧ ∃ depth, ∀ limit, depth ≤ limit →
        (answer limit (.assignable source target)).run.run s = (.ok verdict, s)) ∧
    (¬Acc (fun next pair => Waits s pair next) (source, target) → ∀ limit,
      (answer limit (.assignable source target)).run.run s = (.error .exhausted, s)) := by
  constructor
  · intro ends
    obtain ⟨verdict, decides⟩ := decides_of_acc surveyed ends among
    exact ⟨verdict, decides, run_of_decides surveyed decides among⟩
  · intro endless limit
    rcases run_assignable surveyed limit among with ⟨verdict, decides, -⟩ | exceeded
    · exact absurd (acc_of_decides surveyed decides among) endless
    · exact exceeded

/-! ### Twins -/

theorem not_acc_of_waits_self {pair : TypeId × TypeId} (circle : Waits s pair pair) :
    ¬Acc (fun next pair => Waits s pair next) pair := by
  intro ends
  induction ends with
  | intro pair _ ih => exact ih pair circle circle

/-- Two objects whose property `next` has the object's own type, text, and an object whose
property `next` is text. -/
def twins : State :=
  { records := #[withNext 0, withNext 1,
      { category := .primitive, label := some "string", primitive := some .string }, withNext 2]
    slots := #[some 0, some 1, some 2] }
where
  next (slot : Nat) : Symbol :=
    { name := some "next", kind := some .property, member := some ⟨slot, default, []⟩ }
  withNext (slot : Nat) : TypeRecord :=
    { category := .object, cache := { properties := some [next slot] } }

/-- A comparison of two of the objects comes down to that of the types of `next`. -/
theorem twins_reduces {source target slot slot' given want : Nat} (different : source ≠ target)
    (known : twins.records[source]? = some (twins.withNext slot))
    (known' : twins.records[target]? = some (twins.withNext slot'))
    (kept : twins.slots[slot]? = some (some given))
    (kept' : twins.slots[slot']? = some (some want)) :
    Reduces twins source target ⟨[(given, want)], false, true⟩ := by
  refine ⟨_, _, known, known', ?_⟩
  have members : form source target (twins.withNext slot).toTypeFacts
      (twins.withNext slot').toTypeFacts = .members := by
    rw [form, if_neg different]
    rfl
  rw [members]
  refine ⟨[twins.next slot], [twins.next slot'], .properties known rfl rfl,
    .properties known' rfl rfl, rfl, ?_⟩
  exact .present rfl rfl (.ofSymbol rfl kept) (.ofSymbol rfl kept') .nil

theorem twins_surveyed : Surveys twins {(0, 1), (3, 1), (2, 1)} := by
  rintro pair (rfl | rfl | rfl)
  · exact ⟨_, twins_reduces (by decide) rfl rfl rfl rfl, by simp⟩
  · exact ⟨_, twins_reduces (by decide) rfl rfl rfl rfl, by simp⟩
  · exact ⟨_, ⟨_, _, rfl, rfl, rfl⟩, by simp⟩

/-- The comparison of the twins exceeds every limit; that of the object whose `next` is text
with one of them comes to a verdict. -/
theorem assignable_ends_iff_twins :
    Surveys twins {(0, 1), (3, 1), (2, 1)} ∧
      (∀ limit, (answer limit (.assignable 0 1)).run.run twins = (.error .exhausted, twins)) ∧
      ∃ verdict, Decides twins 3 1 verdict ∧ ∃ depth, ∀ limit, depth ≤ limit →
        (answer limit (.assignable 3 1)).run.run twins = (.ok verdict, twins) := by
  have circle : Waits twins (0, 1) (0, 1) :=
    ⟨[], [], false, true, twins_reduces (by decide) rfl rfl rfl rfl, by simp⟩
  have refused : Decides twins 2 1 false :=
    .passed ⟨[], true, false⟩ ⟨_, _, rfl, rfl, rfl⟩ (by simp)
  have ends : Acc (fun next pair => Waits twins pair next) (3, 1) :=
    acc_of_decides twins_surveyed
      (.stopped [] (twins_reduces (by decide) rfl rfl rfl rfl) (by simp) refused)
      (by simp)
  exact ⟨twins_surveyed,
    (assignable_ends_iff twins_surveyed (by simp)).2 (not_acc_of_waits_self circle),
    (assignable_ends_iff twins_surveyed (by simp)).1 ends⟩

end Assignability

end TypeGloss
