/-
# TypeGloss.Proofs.Checker.Inheritance — members come from the nearest class that declares them

A class has what it declares itself, and then what its base class has and it does not declare.
So the members of a class at the bottom of a lineage, a chain of classes each of which extends the
next, are known from what the classes declare (`Level`): each key that is declared anywhere stands
once, for what the nearest class declares under it, and the keys of the class itself come first
(`Level.order`).

The members of a class are found when they are first asked for. Its base is looked for while the
class is marked, and the base may have to be applied to types that have to be read. What a lineage
needs is that each base that comes is a class whose members are neither found nor being found, or
have been found as they should (`State.Lineage`). Classes without type parameters are such a lineage
however they are written, as long as none is its own base (`State.Chain.lineage`).

When the members of the class at the bottom have been found, those of all classes of the lineage
have been (`State.Lists`).
-/
import TypeGloss.Proofs.Checker.ClassBodies
import TypeGloss.Proofs.Checker.Findings

namespace TypeGloss

set_option autoImplicit false

open Answer (answer)
open Members (Draft MemberKey)

/-! ## Levels -/

/-- A class of a lineage: its syntax, where it is read, and what its body declares. -/
structure Level where
  node : Cursor
  place : Place
  declared : List Draft

namespace Level

/-- The keys that a class declares, in its order. -/
def keys (level : Level) : List MemberKey :=
  level.declared.map Draft.key

/-- A member is what a class declares under its key: what is declared there first, with the syntax
of all declarations of the key. -/
def Has (level : Level) (m : Symbol) : Prop :=
  ∃ first slot, level.declared.find? (·.key == Members.key m) = some first ∧
    m = { first.symbol with
      member := some ⟨slot, level.place,
        (level.declared.filter (·.key == Members.key m)).flatMap Draft.nodes⟩ }

/-- The members that a class has by itself: each key where it is declared first. -/
structure Owns (level : Level) (own : List Symbol) : Prop where
  keys : own.map Members.key = level.keys.eraseDups
  each : ∀ m ∈ own, level.Has m

/-- The keys of a class at the bottom of a lineage: its own, each where it is declared first, and
then those of its base that it does not declare, in their order. -/
def order : List Level → List MemberKey
  | [] => []
  | level :: rest => level.keys.eraseDups ++ (order rest).filter fun k => !level.keys.contains k

theorem mem_order {levels : List Level} {k : MemberKey} :
    k ∈ order levels ↔ ∃ level ∈ levels, k ∈ level.keys := by
  induction levels with
  | nil => simp [order]
  | cons level rest ih =>
      by_cases here : k ∈ level.keys
      · simp [order, here]
      · simp [order, here, ih]

theorem nodup_order (levels : List Level) : (order levels).Nodup := by
  induction levels with
  | nil => exact .nil
  | cons level rest ih =>
      refine List.nodup_append.2 ⟨nodup_eraseDups _, ih.filter _, fun k own k' inherited => ?_⟩
      rintro rfl
      have declared := List.mem_eraseDups.1 own
      simp [declared] at inherited

/-- A class whose body declares no key twice as a property owns what is made of its drafts. -/
theorem owns_realized {level : Level} {own : List Symbol}
    (once : ((level.declared.filter Draft.isProperty).map Draft.key).Nodup)
    (made : List.Forall₂ (fun draft symbol => ∃ slot,
      symbol = { draft.symbol with member := some ⟨slot, level.place, draft.nodes⟩ })
      (level.declared.foldl Members.join []) own) : level.Owns own := by
  have gathers := Members.gathers once
  generalize level.declared.foldl Members.join [] = drafts at made gathers
  have sameKey {draft : Draft} {slot : Nat} : Members.key { draft.symbol with
      member := some ⟨slot, level.place, draft.nodes⟩ } = draft.key := rfl
  constructor
  · rw [keys, ← gathers.keys]
    clear gathers
    induction made with
    | nil => rfl
    | cons one _ ih =>
        obtain ⟨slot, rfl⟩ := one
        rw [List.map_cons, List.map_cons, ih]
        rfl
  · intro m among
    obtain ⟨draft, there, slot, rfl⟩ := exists_of_mem_right made among
    obtain ⟨first, found, same⟩ := gathers.first draft there
    refine ⟨first, slot, found, ?_⟩
    rw [sameKey, ← gathers.syntax_ draft there, same]

theorem Owns.contains {level : Level} {own : List Symbol} (owns : level.Owns own) (k : MemberKey) :
    (own.map Members.key).contains k = level.keys.contains k := by
  rw [owns.keys]
  simp

end Level

/-! ## Members that have been found -/

/-- A type is the class with some syntax. -/
def State.IsClass (s : State) (t : TypeId) (level : Level) : Prop :=
  ∃ r, s.records[t]? = some r ∧ r.node = some level.node

/-- The members of a class have been found, and so have those of the classes above it: what a class
owns, and then what its base has and it does not declare, in the order of the base. -/
inductive State.Lists (s : State) : List Level → TypeId → List Symbol → Prop where
  | root {level : Level} {t : TypeId} {own : List Symbol} (isClass : s.IsClass t level)
      (remembers : s.Remembers (fun ask => ask.load? t .classMembers) (some own))
      (owns : level.Owns own) : Lists s [level] t own
  | derived {level : Level} {rest : List Level} {t b : TypeId} {own base : List Symbol}
      (isClass : s.IsClass t level)
      (remembers : s.Remembers (fun ask => ask.load? t .classMembers)
        (some (Members.inheritMembers own base)))
      (owns : level.Owns own) (upper : Lists s rest b base) :
      Lists s (level :: rest) t (Members.inheritMembers own base)

namespace State

variable {s later : State} {level : Level} {levels rest : List Level} {t : TypeId}
  {members : List Symbol}

theorem IsClass.keeps (isClass : s.IsClass t level) (kept : s.Preserves later) :
    later.IsClass t level := by
  obtain ⟨r, known, node⟩ := isClass
  obtain ⟨r', known', keeps⟩ := kept.records known
  exact ⟨r', known', (congrArg TypeFacts.node keeps.facts).trans node⟩

namespace Lists

theorem keeps (lists : s.Lists levels t members) (kept : s.Preserves later) :
    later.Lists levels t members := by
  induction lists with
  | root isClass remembers owns =>
      exact .root (isClass.keeps kept) (remembers.keeps kept) owns
  | derived isClass remembers owns _ ih =>
      exact .derived (isClass.keeps kept) (remembers.keeps kept) owns ih

theorem remembers (lists : s.Lists levels t members) :
    s.Remembers (fun ask => ask.load? t .classMembers) (some members) := by
  cases lists with
  | root _ remembers _ => exact remembers
  | derived _ remembers _ _ => exact remembers

theorem order (lists : s.Lists levels t members) :
    members.map Members.key = Level.order levels := by
  induction lists with
  | root _ _ owns => simp [Level.order, owns.keys]
  | derived _ _ owns _ ih =>
      simp only [Members.inheritMembers, owns.contains]
      rw [List.map_append, owns.keys, Level.order, ← ih, List.filter_map]
      rfl

/-- Each member is that of the nearest class that declares its key. -/
theorem nearest (lists : s.Lists levels t members) :
    ∀ m ∈ members, ∃ level,
      levels.find? (fun level => level.keys.contains (Members.key m)) = some level ∧
        level.Has m := by
  have own {level : Level} {rest : List Level} {own : List Symbol} (owns : level.Owns own)
      {m : Symbol} (among : m ∈ own) : ∃ nearest, (level :: rest).find?
        (fun level => level.keys.contains (Members.key m)) = some nearest ∧ nearest.Has m := by
    have declared : level.keys.contains (Members.key m) = true := by
      rw [← owns.contains]
      exact List.contains_iff_mem.2 (List.mem_map_of_mem among)
    exact ⟨level, List.find?_cons_of_pos declared, owns.each m among⟩
  induction lists with
  | root _ _ owns => exact fun m among => own owns among
  | derived _ _ owns _ ih =>
      intro m among
      rcases List.mem_append.1 among with here | inherited
      · exact own owns here
      · obtain ⟨there, new⟩ := List.mem_filter.1 inherited
        obtain ⟨nearest, found, has⟩ := ih m there
        rw [owns.contains] at new
        refine ⟨nearest, ?_, has⟩
        rwa [List.find?_cons_of_neg (by simpa using new)]

end Lists

end State

/-! ## Lineages -/

namespace Members

/-- Members of a class with those of its base, if it has one. -/
def withBase (ask : Ask) (own : List Symbol) : Option TypeId → CheckM (List Symbol)
  | none => return own
  | some base => return inheritMembers own ((← ask.load? base .classMembers).getD [])

/-- The members of a class: what it declares itself, then what its base has. -/
theorem ofClass_eq (ask : Ask) (place : Place) (node : Cursor) :
    ofClass ask place node =
      (classBody node).foldlM (addClassPart place.source.path) [] >>= fun drafts =>
        realize place drafts >>= fun own =>
          baseClass? ask place node >>= withBase ask own := by
  refine bind_congr fun drafts => bind_congr fun own => bind_congr fun base => ?_
  cases base <;> rfl

end Members

/-- A class whose members are neither found nor being found, and what it declares. -/
structure State.Unopened (s : State) (t : TypeId) (level : Level) (r : TypeRecord) : Prop where
  known : s.records[t]? = some r
  isClass : r.category = .classType ∧ r.shape = .declared ∨ r.shape = .classExpression
  node : r.node = some level.node
  place : ∃ p, r.place = some p ∧ level.place = s.current p
  unknown : r.cache.classMembers = none
  idle : .classMembers ∉ r.loading
  declares : Members.Declares level.place.source.path level.node level.declared
  once : ((level.declared.filter Draft.isProperty).map Draft.key).Nodup

/-- The state in which the base of a class is looked for: the members of the class are being found,
and those that it declares have slots. -/
def State.opened (s : State) (t : TypeId) (level : Level) : State :=
  { s.mark t .classMembers with
    slots := s.slots ++ Array.replicate level.keys.eraseDups.length none }

/-- Classes each of which extends the next, as they are met from a state on when the members of the
first one are asked for: they have been found as they should, or they are neither found nor being
found, and the base that comes is the next class, if there is one. -/
def State.Lineage : State → List Level → TypeId → Prop
  | _, [], _ => False
  | s, level :: rest, t =>
      (∃ members, s.Lists (level :: rest) t members) ∨
      (∃ r, s.Unopened t level r) ∧
        Ensures (· = s.opened t level)
          (fun ask => Members.baseClass? ask level.place level.node)
          fun base left => base = none ∧ rest = [] ∨ ∃ b, base = some b ∧ left.Lineage rest b

namespace State

variable {s : State} {level : Level} {levels rest : List Level} {t : TypeId} {r : TypeRecord}

/-- How the members of a class are found. -/
def Unopened.rule (r : TypeRecord) (ask : Ask) : CheckM (List Symbol) :=
  Answer.syntaxOf r.toTypeFacts >>= fun found => Members.ofClass ask found.2 found.1

theorem Unopened.found (opens : s.Unopened t level r) (ask : Ask) :
    Answer.loader? ask t r .classMembers = some (Unopened.rule r ask) := by
  rcases opens.isClass with ⟨category, shape⟩ | shape
  · simp only [Answer.loader?, shape, Answer.declared?, category, ne_eq, not_true_eq_false,
      if_false]
    rfl
  · simp only [Answer.loader?, shape]
    rfl

/-- What a class declares itself is there before its base is looked for. -/
theorem Unopened.ensures_own (opens : s.Unopened t level r) {post : List Symbol → State → Prop}
    (rest : ∀ own, level.Owns own → Ensures (· = s.opened t level)
      (fun ask => Members.baseClass? ask level.place level.node >>= Members.withBase ask own)
      post) :
    Ensures (· = s.mark t .classMembers) (Unopened.rule r) post := by
  obtain ⟨p, place, upToDate⟩ := opens.place
  obtain ⟨own, made, each⟩ := Members.run_realize level.place
    (level.declared.foldl Members.join []) (s.mark t .classMembers)
  have count : (level.declared.foldl Members.join []).length = level.keys.eraseDups.length := by
    rw [Level.keys, ← (Members.gathers opens.once).keys, List.length_map]
  have read : (Answer.syntaxOf r.toTypeFacts).run.run (s.mark t .classMembers) =
      (.ok (level.node, level.place), s.mark t .classMembers) := by
    rw [Answer.syntaxOf, opens.node, place, upToDate]
    rfl
  rw [count] at made
  refine .bind_run read ?_
  simp only [Members.ofClass_eq]
  refine .bind_run (opens.declares.run _) ?_
  exact .bind_run made (rest own (Level.owns_realized opens.once each))

/-- When the members of a class have been found while it was marked, they are there, and what was
found meanwhile is there still. -/
theorem Unopened.ensures_load (opens : s.Unopened t level r) {inner : List Symbol → State → Prop}
    (ensures : Ensures (· = s.mark t .classMembers) (Unopened.rule r) inner) :
    Ensures (· = s) (fun ask => ask.load? t .classMembers) fun found left =>
      ∃ members inside, found = some members ∧ inner members inside ∧ inside.Preserves left ∧
        left.IsClass t level ∧
        left.Remembers (fun ask => ask.load? t .classMembers) (some members) := by
  have unknown : r.cache.get? .classMembers = none := opens.unknown
  refine (ensures_found opens.known unknown opens.idle opens.found ensures).consequence
    (fun _ => id) ?_
  rintro _ left ⟨members, inside, rfl, here, -, kept, r', known, facts, found⟩
  have node : r'.node = some level.node := (congrArg TypeFacts.node facts).trans opens.node
  exact ⟨members, inside, rfl, here, kept, ⟨r', known, node⟩, .load known found⟩

/-- The members of the first class of a lineage are found, and so are those of the others. -/
theorem Lineage.ensures (lineage : s.Lineage levels t) :
    Ensures (· = s) (fun ask => ask.load? t .classMembers) fun found left =>
      ∃ members, found = some members ∧ left.Lists levels t members := by
  induction levels generalizing s t with
  | nil => exact lineage.elim
  | cons level rest ih =>
      rcases lineage with ⟨members, lists⟩ | ⟨⟨r, opens⟩, above⟩
      · refine lists.remembers.now.consequence (fun _ => id) ?_
        rintro _ left ⟨rfl, rfl⟩
        exact ⟨members, rfl, lists⟩
      · -- While the class is marked, its base comes, and the members of the base are found.
        have ensures : Ensures (· = s.mark t .classMembers) (Unopened.rule r) fun members inside =>
            ∃ own, level.Owns own ∧ (rest = [] ∧ members = own ∨
              ∃ b base, inside.Lists rest b base ∧ members = Members.inheritMembers own base) := by
          refine opens.ensures_own fun own owns => ?_
          refine above.bind fun base => .ofEach fun inside here => ?_
          rcases here with ⟨rfl, alone⟩ | ⟨b, rfl, lineage⟩
          · exact .pure fun _ _ => ⟨own, owns, .inl ⟨alone, rfl⟩⟩
          · refine (ih lineage).bind fun found => .pure ?_
            rintro left ⟨base, rfl, lists⟩
            exact ⟨own, owns, .inr ⟨b, base, lists, rfl⟩⟩
        refine (opens.ensures_load ensures).consequence (fun _ => id) ?_
        rintro _ left ⟨members, inside, rfl, ⟨own, owns, upper⟩, kept, isClass, remembers⟩
        refine ⟨members, rfl, ?_⟩
        rcases upper with ⟨rfl, rfl⟩ | ⟨b, base, lists, rfl⟩
        · exact .root isClass remembers owns
        · exact .derived isClass remembers owns (lists.keeps kept)

end State

/-! ## Classes without type parameters -/

/-- What makes the type of a class that has no type parameters: where the class begins. -/
def Level.typeKey (level : Level) : Key :=
  .declared level.place.source.path level.node.mark.start []

/-- A look-up that finds something leaves the state as it is. -/
theorem Lookup.run_lookup {s : State} {source : Source} {name : String} {space : Space}
    {found : Option Found} (finds : find? s.toProgram source name space = .ok found) :
    (lookup source name space).run.run s = (.ok found, s) := by
  have read : Check.program.run.run s = (.ok s.toProgram, s) := rfl
  rw [lookup, run_bind_ok read, finds]
  rfl

namespace Members

/-- A class names the class of a module at hand that it extends, with type arguments. -/
inductive Extends (program : Program) (source : Source) (node : Cursor) :
    Source → Module.Binding → List Cursor → Prop where
  | named {clause name : Cursor} {base : Source} {binding : Module.Binding}
      {others : List Module.Binding} {arguments : List Cursor}
      (heritage : (node.first? ["class_heritage"]).bind (Cursor.first? ["extends_clause"]) =
        some clause)
      (value : (clause.field? "value").or clause.lastPart? = some name)
      (isName : name.kind = "identifier")
      (found : Lookup.find? program source name.text .values =
        .ok (some ⟨base, binding :: others⟩))
      (isClass : binding.kind = .classType)
      (applied : ((clause.field? "type_arguments").map Cursor.parts).getD [] = arguments) :
      Extends program source node base binding arguments

/-- The type of the class that is extended. -/
def baseType (ask : Ask) (place : Place) (base : Source) (binding : Module.Binding)
    (arguments : List Cursor) : CheckM TypeId := do
  let args ← arguments.mapM fun arg => ask.typeAt arg place
  ask.declared base [binding] args

/-- The base of a class is the class that it names, applied to the arguments that are written. -/
theorem ensures_baseClass? {s : State} {place : Place} {node : Cursor} {base : Source}
    {binding : Module.Binding} {arguments : List Cursor} {post : TypeId → State → Prop}
    (extends_ : Extends s.toProgram place.source node base binding arguments)
    (ensures : Ensures (· = s) (fun ask => baseType ask place base binding arguments) post) :
    Ensures (· = s) (fun ask => baseClass? ask place node) fun found left =>
      ∃ b, found = some b ∧ post b left := by
  have named : Ensures (· = s) (fun ask => some <$> baseType ask place base binding arguments)
      fun found left => ∃ b, found = some b ∧ post b left := by
    simp only [map_eq_pure_bind]
    exact ensures.bind fun b => .pure fun left here => ⟨b, rfl, here⟩
  refine named.congr fun s' same limit => ?_
  subst same
  cases extends_ with
  | named heritage value isName found isClass applied =>
      simp only [baseClass?, baseType, heritage, value, isName, bne_self_eq_false,
        Bool.false_eq_true, if_false, map_bind, applied]
      rw [run_bind, run_bind]
      have reliable := Answer.reliable_answer limit
      have kept := (Reference.typesAt_steady reliable arguments place 0).first s'
      cases outcome (arguments.mapM fun node => (answer limit).typeAt node place) s' with
      | error fault => rfl
      | ok args =>
          rw [← kept.program] at found
          refine (run_bind_ok (Lookup.run_lookup found)).trans ?_
          simp only [isClass, if_true]

end Members

/-- A class without type parameters, as it stands in a source. -/
structure State.PlainClass (s : State) (level : Level) (source : Source)
    (binding : Module.Binding) : Prop where
  isClass : binding.kind = .classType
  plain : Reference.typeParameters binding.node = []
  sound : binding.node.focus.findError = none
  node : level.node = binding.node
  place : level.place = { Place.top source with env := s.frames.getD 0 [] }
  declares : Members.Declares source.path binding.node level.declared
  once : ((level.declared.filter Draft.isProperty).map Draft.key).Nodup

/-- The members of a class have been found as they should, or they are neither found nor being
found. -/
def State.Intact (s : State) (level : Level) (rest : List Level) (t : TypeId) : Prop :=
  (∃ r, s.Unopened t level r) ∨ ∃ members, s.Lists (level :: rest) t members

/-- Classes without type parameters, each of which extends the next by name. Those that have
been met are intact. -/
inductive State.Chain (s : State) : List Level → Source → Module.Binding → Prop where
  | root {level : Level} {source : Source} {binding : Module.Binding}
      (stands : s.PlainClass level source binding)
      (alone : (binding.node.first? ["class_heritage"]).bind (Cursor.first? ["extends_clause"]) =
        none)
      (intact : ∀ {t}, s.interned[level.typeKey]? = some t → s.Intact level [] t) :
      Chain s [level] source binding
  | derived {level : Level} {rest : List Level} {source base : Source}
      {binding other : Module.Binding} (stands : s.PlainClass level source binding)
      (extends_ : Members.Extends s.toProgram source binding.node base other [])
      (intact : ∀ {t}, s.interned[level.typeKey]? = some t → s.Intact level rest t)
      (upper : Chain s rest base other) :
      Chain s (level :: rest) source binding

/-- The record of a class without type parameters, as it is made. -/
def Reference.classRecord (source : Source) (binding : Module.Binding) : TypeRecord :=
  { category := .classType, name := some binding.name, node := some binding.node,
    place := some (.top source), bindings := [binding],
    symbol := some
      { name := some binding.name, declaration := some (.ofBinding source.path binding) },
    shape := .declared }

namespace State

variable {s later : State} {level other : Level} {levels rest : List Level} {t u : TypeId}
  {r r' : TypeRecord} {source : Source} {binding : Module.Binding}

theorem PlainClass.typeKey (stands : s.PlainClass level source binding) :
    level.typeKey = .declared source.path binding.node.mark.start [] := by
  rw [Level.typeKey, stands.node, stands.place]
  rfl

/-- The type of a class without type parameters is found by its key. -/
theorem PlainClass.declared_eq (stands : s.PlainClass level source binding) (ask : Ask) :
    Reference.declared ask source [binding] [] =
      Check.intern level.typeKey (Reference.classRecord source binding) := by
  have sound : Check.checkSyntax binding.node source = pure () := by
    rw [Check.checkSyntax, stands.sound]
  have only : ([binding].filter fun other => other.kind = .classType) = [binding] :=
    List.filter_eq_self.2 fun other among => by simp [List.mem_singleton.1 among, stands.isClass]
  simp only [Reference.declared, Check.needFirst, pure_bind, sound, stands.isClass,
    reduceCtorEq, if_false, Reference.declaredCategory?, stands.plain, Reference.instantiate,
    List.isEmpty_nil, if_true, Reference.argumentsAt, List.filterMap_nil, stands.typeKey, only]
  rfl

/-- A class that has just been made. -/
theorem PlainClass.opens (stands : s.PlainClass level source binding)
    (known : s.records[t]? = some (Reference.classRecord source binding)) :
    s.Unopened t level (Reference.classRecord source binding) where
  known := known
  isClass := .inl ⟨rfl, rfl⟩
  node := congrArg some stands.node.symm
  place := ⟨_, rfl, stands.place⟩
  unknown := rfl
  idle := List.not_mem_nil
  declares := by
    rw [stands.node, stands.place]
    exact stands.declares
  once := stands.once

theorem PlainClass.moves (stands : s.PlainClass level source binding)
    (frames : later.frames = s.frames) : later.PlainClass level source binding :=
  { stands with place := by rw [frames, stands.place] }

theorem Unopened.moves (opens : s.Unopened t level r) (known : later.records[t]? = s.records[t]?)
    (frames : later.frames = s.frames) : later.Unopened t level r :=
  { opens with
    known := known.trans opens.known
    place := by simpa only [State.current, frames] using opens.place }

/-- A type is the class of one key at most. -/
theorem Unopened.typeKey_unique (opens : s.Unopened t level r) (again : s.Unopened t other r') :
    level.typeKey = other.typeKey := by
  cases opens.known.symm.trans again.known
  obtain ⟨p, place, here⟩ := opens.place
  obtain ⟨q, place', there⟩ := again.place
  cases place.symm.trans place'
  have nodes := Option.some.inj (opens.node.symm.trans again.node)
  rw [Level.typeKey, Level.typeKey, here, there, nodes]

/-- A class that is left alone stays intact. -/
theorem Intact.moves (intact : s.Intact level rest t) (kept : s.Preserves later)
    (frames : later.frames = s.frames)
    (same : ∀ {r}, s.Unopened t level r → later.records[t]? = s.records[t]?) :
    later.Intact level rest t := by
  rcases intact with ⟨r, opens⟩ | ⟨members, lists⟩
  · exact .inl ⟨r, opens.moves (same opens) frames⟩
  · exact .inr ⟨members, lists.keeps kept⟩

/-- Classes stay intact while nothing is done about their keys and their types. -/
theorem Chain.moves (chain : s.Chain levels source binding) (kept : s.Preserves later)
    (program : later.toProgram = s.toProgram) (frames : later.frames = s.frames)
    (keys : ∀ level ∈ levels, later.interned[level.typeKey]? = s.interned[level.typeKey]?)
    (types : ∀ level ∈ levels, ∀ {t r}, s.Unopened t level r → later.records[t]? = s.records[t]?) :
    later.Chain levels source binding := by
  induction chain with
  | @root level source binding stands alone intact =>
      refine .root (stands.moves frames) alone fun {t} made => ?_
      rw [keys level List.mem_cons_self] at made
      exact (intact made).moves kept frames (types level List.mem_cons_self)
  | @derived level rest source base binding other stands extends_ intact _ ih =>
      have above := ih (fun level among => keys level (List.mem_cons_of_mem _ among))
        fun level among => types level (List.mem_cons_of_mem _ among)
      refine .derived (stands.moves frames) (program ▸ extends_) (fun {t} made => ?_) above
      rw [keys level List.mem_cons_self] at made
      exact (intact made).moves kept frames (types level List.mem_cons_self)

/-- While the members of a class are being found, the classes above it are as they were. -/
theorem Chain.opened (chain : s.Chain levels source binding) (opens : s.Unopened t level r)
    (apart : level.typeKey ∉ levels.map Level.typeKey) :
    (s.opened t level).Chain levels source binding := by
  have slots : (s.mark t .classMembers).Preserves (s.opened t level) := by
    refine ⟨fun known => ⟨_, known, .refl _⟩, fun {slot u} known => ?_⟩
    obtain ⟨bound, -⟩ := Array.getElem?_eq_some_iff.1 known
    exact (Array.getElem?_append_left bound).trans known
  refine chain.moves ((Leaves.mark s t _).toPreserves.trans slots) rfl rfl (fun _ _ => rfl)
    fun other among {u r'} again => ?_
  have different : t ≠ u := by
    rintro rfl
    exact apart (opens.typeKey_unique again ▸ List.mem_map_of_mem among)
  exact (Extends.records_update s t u _).trans (if_neg different)

/-- The state in which the type of a class has been made. -/
def met (s : State) (level : Level) (source : Source) (binding : Module.Binding) : State :=
  { s with
    interned := s.interned.insert level.typeKey s.records.size
    records := s.records.push (Reference.classRecord source binding) }

theorem Chain.stands (chain : s.Chain (level :: rest) source binding) :
    s.PlainClass level source binding := by
  cases chain with
  | root stands => exact stands
  | derived stands => exact stands

theorem Chain.intact (chain : s.Chain (level :: rest) source binding)
    (made : s.interned[level.typeKey]? = some t) : s.Intact level rest t := by
  cases chain with
  | root _ _ intact => exact intact made
  | derived _ _ intact _ => exact intact made

/-- When the first class of a chain has been made, it is intact, and the others are as they were. -/
theorem Chain.met (chain : s.Chain (level :: rest) source binding)
    (distinct : ((level :: rest).map Level.typeKey).Nodup)
    (new : s.interned[level.typeKey]? = none) :
    (s.met level source binding).Intact level rest s.records.size ∧
      (s.met level source binding).Chain (level :: rest) source binding := by
  have frames : (s.met level source binding).frames = s.frames := rfl
  have stands := chain.stands.moves frames
  have opens := stands.opens (t := s.records.size) Array.getElem?_push_size
  have intact {t : TypeId} (made : (s.met level source binding).interned[level.typeKey]? = some t) :
      (s.met level source binding).Intact level rest t := by
    obtain rfl : s.records.size = t := by
      simpa [State.met, Std.HashMap.getElem?_insert] using made
    exact .inl ⟨_, opens⟩
  refine ⟨.inl ⟨_, opens⟩, ?_⟩
  cases chain with
  | root _ alone => exact .root stands alone intact
  | derived _ extends_ _ upper =>
      refine .derived stands extends_ intact (upper.moves (.ofExtends (.push new rfl)) rfl rfl ?_ ?_)
      · intro other among
        have different : level.typeKey ≠ other.typeKey := fun same =>
          (List.nodup_cons.1 distinct).1 (same ▸ List.mem_map_of_mem among)
        simp [State.met, Std.HashMap.getElem?_insert, different]
      · intro other _ t r opens
        obtain ⟨bound, -⟩ := Array.getElem?_eq_some_iff.1 opens.known
        exact (Array.getElem?_push.trans (if_neg (Nat.ne_of_lt bound)))

/-- The first class of a chain is met: it is as it was if it has been made, or else it is made. -/
theorem Chain.ensures_declared (chain : s.Chain (level :: rest) source binding)
    (distinct : ((level :: rest).map Level.typeKey).Nodup) :
    Ensures (· = s) (fun ask => ask.declared source [binding] []) fun t left =>
      left.Intact level rest t ∧ left.Chain (level :: rest) source binding := by
  refine Ensures.asked (Ensures.ofRun fun s' same => ?_)
  subst same
  simp only [Answer.step, chain.stands.declared_eq]
  cases made : s'.interned[level.typeKey]? with
  | some t =>
      exact ⟨t, s', fun _ => Check.run_intern_of_some made _, chain.intact made, chain⟩
  | none => exact ⟨_, _, fun _ => Check.run_intern_of_none made _, chain.met distinct made⟩

/-- A chain of classes of which none is its own base is a lineage. -/
theorem Chain.lineage (chain : s.Chain (level :: rest) source binding)
    (distinct : ((level :: rest).map Level.typeKey).Nodup) (intact : s.Intact level rest t) :
    s.Lineage (level :: rest) t := by
  induction rest generalizing s level source binding t with
  | nil =>
      rcases intact with ⟨r, opens⟩ | found
      · refine .inr ⟨⟨r, opens⟩, ?_⟩
        cases chain with
        | root stands alone =>
            have none (ask : Ask) : Members.baseClass? ask level.place level.node =
                (pure none : CheckM (Option TypeId)) := by
              simp only [Members.baseClass?, stands.node, alone]
            exact (Ensures.pure fun _ _ => .inl ⟨rfl, rfl⟩).congr fun _ _ _ => by rw [none]
        | derived _ _ _ upper => cases upper
      · exact .inl found
  | cons next rest ih =>
      rcases intact with ⟨r, opens⟩ | found
      · refine .inr ⟨⟨r, opens⟩, ?_⟩
        obtain ⟨apart, distinct⟩ := List.nodup_cons.1 distinct
        cases chain with
        | @derived _ _ _ base _ other stands extends_ _ upper =>
            have met : Ensures (· = s.opened t level)
                (fun ask => Members.baseType ask level.place base other [])
                fun b left => left.Lineage (next :: rest) b := by
              simp only [Members.baseType, List.mapM_nil, pure_bind]
              refine ((upper.opened opens apart).ensures_declared distinct).consequence
                (fun _ => id) ?_
              rintro b left ⟨intact, chain⟩
              exact ih chain distinct intact
            have named : Members.Extends (s.opened t level).toProgram level.place.source level.node
                base other [] := by
              rw [stands.node, stands.place]
              exact extends_
            refine (Members.ensures_baseClass? named met).consequence (fun _ => id) ?_
            rintro _ left ⟨b, rfl, lineage⟩
            exact .inr ⟨b, rfl, lineage⟩
      · exact .inl found

end State

/-- Let there be a class and its lineage, the classes above it. No body declares a key twice as a
field or as a parameter of the constructor, and the members of each class, when it is met, are
neither found nor being found, or have been found as they should. Then the members of the class are
found: every key that is declared anywhere in the lineage stands once, for what the nearest class
declares under it; the keys of the class itself come first, each where its body declares it first,
and then those of its base that it does not declare, in their order there (`Level.order`,
`State.Lists`). Classes without type parameters, each of which extends the next by name, are such a
lineage whatever they declare, as long as none of them is its own base. -/
theorem inherited_members {s : State} :
    (∀ {levels : List Level} {t : TypeId}, s.Lineage levels t →
      Ensures (· = s) (fun ask => ask.load? t .classMembers) fun found left =>
        ∃ members, found = some members ∧ left.Lists levels t members ∧
          members.map Members.key = Level.order levels ∧ (members.map Members.key).Nodup ∧
          (∀ k, k ∈ members.map Members.key ↔ ∃ level ∈ levels, k ∈ level.keys) ∧
          ∀ m ∈ members, ∃ level,
            levels.find? (fun level => level.keys.contains (Members.key m)) = some level ∧
              level.Has m) ∧
    ∀ {level : Level} {rest : List Level} {t : TypeId} {source : Source}
        {binding : Module.Binding}, s.Chain (level :: rest) source binding →
      ((level :: rest).map Level.typeKey).Nodup → s.Intact level rest t →
        s.Lineage (level :: rest) t := by
  refine ⟨fun lineage => ?_, fun chain distinct intact => chain.lineage distinct intact⟩
  refine lineage.ensures.consequence (fun _ => id) ?_
  rintro _ left ⟨members, rfl, lists⟩
  refine ⟨members, rfl, lists, lists.order, ?_, fun k => ?_, lists.nearest⟩
  · rw [lists.order]
    exact Level.nodup_order _
  · rw [lists.order]
    exact Level.mem_order

/-! ### Three classes

A class `C` that overrides a method of `A` and inherits a parameter property from `B`, which stands
in front of a field of `A`:

`class A { m(); m() {} n = 1 } class B extends A { constructor(private n) {} static m() {} }
class C extends B { m() {} }` -/

namespace ThreeClasses

def token (text : String) (start : Nat) : Tree :=
  .node ⟨text, text, start, start + text.length, ⟨0, start⟩, ⟨0, start + text.length⟩, false, false,
    none⟩ []

def piece (kind text : String) (start : Nat) (field : Option String) (children : List Tree) : Tree :=
  .node ⟨kind, text, start, start + text.length, ⟨0, start⟩, ⟨0, start + text.length⟩, true, false,
    field⟩ children

def method (kind text name : String) (start nameStart : Nat) (modifiers : List Tree) : Tree :=
  piece kind text start none
    (modifiers ++ [piece "property_identifier" name nameStart (some "name") []])

def a : Tree :=
  piece "class_declaration" "class A { m(); m() {} n = 1 }" 0 none
    [piece "type_identifier" "A" 6 (some "name") [],
      piece "class_body" "{ m(); m() {} n = 1 }" 8 (some "body")
        [method "method_signature" "m()" "m" 10 10 [],
          method "method_definition" "m() {}" "m" 15 15 [],
          piece "public_field_definition" "n = 1" 22 none
            [piece "property_identifier" "n" 22 (some "name") [],
              piece "number" "1" 26 (some "value") []]]]

/-- The heritage of a class. -/
def heritage (name : String) (start : Nat) : Tree :=
  piece "class_heritage" ("extends " ++ name) start none
    [piece "extends_clause" ("extends " ++ name) start none
      [token "extends" start, piece "identifier" name (start + 8) (some "value") []]]

def parameter : Tree :=
  piece "required_parameter" "private n" 62 none
    [piece "accessibility_modifier" "private" 62 none [],
      piece "identifier" "n" 70 (some "pattern") []]

def b : Tree :=
  piece "class_declaration" "class B extends A { constructor(private n) {} static m() {} }" 30 none
    [piece "type_identifier" "B" 36 (some "name") [], heritage "A" 38,
      piece "class_body" "{ constructor(private n) {} static m() {} }" 48 (some "body")
        [piece "method_definition" "constructor(private n) {}" 50 none
            [piece "property_identifier" "constructor" 50 (some "name") [],
              piece "formal_parameters" "(private n)" 61 (some "parameters") [parameter]],
          method "method_definition" "static m() {}" "m" 76 83 [token "static" 76]]]

def c : Tree :=
  piece "class_declaration" "class C extends B { m() {} }" 92 none
    [piece "type_identifier" "C" 98 (some "name") [], heritage "B" 100,
      piece "class_body" "{ m() {} }" 110 (some "body")
        [method "method_definition" "m() {}" "m" 112 112 []]]

def root : Tree :=
  piece "program" (a.text ++ " " ++ b.text ++ " " ++ c.text) 0 none [a, b, c]

def source : Source := ⟨"a.ts", root, Module.Scope.ofTree root⟩

/-- The child of a node at an index. -/
def down (node : Cursor) (index : Nat) : Cursor :=
  ⟨node.focus.children.getD index default, ⟨node.focus, index⟩ :: node.above⟩

/-- The class at an index. -/
def node (index : Nat) : Cursor := down (.ofTree root) index

/-- A part of the body of a class, where the body is the child at an index. -/
def part (index body place : Nat) : Cursor := down (down (node index) body) place

def binding (name : String) (index : Nat) : Module.Binding := ⟨name, .classType, node index, false⟩

def bindings : Entries (List Module.Binding) :=
  [("A", [binding "A" 0]), ("B", [binding "B" 1]), ("C", [binding "C" 2])]

theorem read_source : source.scope = .ok { types := bindings, values := bindings } := by
  with_unfolding_all rfl

def first : Level :=
  ⟨node 0, .top source, [Members.method "m" "a.ts" (part 0 1 0),
    Members.method "m" "a.ts" (part 0 1 1), Members.field "n" "a.ts" (part 0 1 2)]⟩

def second : Level :=
  ⟨node 1, .top source, [⟨
    { name := some "n",
      declaration := Members.declarationAt .property "n" "a.ts" (down (down (part 1 2 0) 1) 0),
      visibility := some .toOwner, kind := some .property }, [down (down (part 1 2 0) 1) 0]⟩,
    Members.method "m" "a.ts" (part 1 2 1)]⟩

def third : Level :=
  ⟨node 2, .top source, [Members.method "m" "a.ts" (part 2 2 0)]⟩

/-- The type of `C` has been made. -/
def state : State :=
  { sources := [("a.ts", source)]
    interned := ({} : Std.HashMap Key TypeId).insert third.typeKey 0
    records := #[Reference.classRecord source (binding "C" 2)] }

theorem stands_first : state.PlainClass first source (binding "A" 0) where
  isClass := rfl
  plain := by with_unfolding_all rfl
  sound := by with_unfolding_all rfl
  node := rfl
  place := rfl
  declares := ⟨[[_], [_], [_]], rfl, fun _ => by with_unfolding_all rfl⟩
  once := by decide +kernel

theorem stands_second : state.PlainClass second source (binding "B" 1) where
  isClass := rfl
  plain := by with_unfolding_all rfl
  sound := by with_unfolding_all rfl
  node := rfl
  place := rfl
  declares := ⟨[[_], [_]], rfl, fun _ => by with_unfolding_all rfl⟩
  once := by decide +kernel

theorem stands_third : state.PlainClass third source (binding "C" 2) where
  isClass := rfl
  plain := by with_unfolding_all rfl
  sound := by with_unfolding_all rfl
  node := rfl
  place := rfl
  declares := ⟨[[_]], rfl, fun _ => by with_unfolding_all rfl⟩
  once := by decide +kernel

theorem extends_ {index : Nat} {name clause : Cursor} {base : Module.Binding}
    (heritage : ((node index).first? ["class_heritage"]).bind (Cursor.first? ["extends_clause"]) =
      some clause)
    (value : (clause.field? "value").or clause.lastPart? = some name)
    (isName : name.kind = "identifier") (isClass : base.kind = .classType)
    (listed : Entries.find? name.text bindings = some [base])
    (plain : clause.field? "type_arguments" = none) :
    Members.Extends state.toProgram source (node index) source base [] := by
  have found : Lookup.search state.toProgram Lookup.maxSteps .values (.within source name.text) [] =
      .ok (some ⟨source, [base]⟩, [("a.ts", name.text, .values)]) :=
    Lookup.search_of_declared read_source listed
  have finds : Lookup.find? state.toProgram source name.text .values =
      .ok (some ⟨source, [base]⟩) := congrArg (Except.map Prod.fst) found
  exact .named heritage value isName finds isClass (by rw [plain]; rfl)

theorem intact : state.Intact third [second, first] 0 := .inl ⟨_, stands_third.opens rfl⟩

theorem chain : state.Chain [third, second, first] source (binding "C" 2) := by
  have unmet (level : Level) (other : third.typeKey ≠ level.typeKey) :
      state.interned[level.typeKey]? = none := by
    simp [state, other]
  have above : state.Chain [first] source (binding "A" 0) := by
    refine .root stands_first (by with_unfolding_all rfl) fun {t} made => ?_
    cases (unmet first (by decide +kernel)).symm.trans made
  have between : state.Chain [second, first] source (binding "B" 1) := by
    refine .derived stands_second (extends_ rfl rfl rfl rfl rfl rfl) (fun {t} made => ?_) above
    cases (unmet second (by decide +kernel)).symm.trans made
  refine .derived stands_third (extends_ rfl rfl rfl rfl rfl rfl) (fun {t} made => ?_) between
  have same : 0 = t := by simpa [state] using made
  exact same ▸ intact

end ThreeClasses

open ThreeClasses in
/-- `C` has its own method, the parameter property of `B` and the static method of `B`. -/
theorem inherited_members_threeClasses :
    ∃ depth members left, members.map Members.key =
        [(some "m", false, some .method), (some "n", false, some .property),
          (some "m", true, some .method)] ∧
      (∀ m ∈ members, ∃ level,
        [third, second, first].find? (fun level => level.keys.contains (Members.key m)) =
          some level ∧ level.Has m) ∧
      ∀ limit, depth ≤ limit →
        ((answer limit).load? 0 .classMembers).run.run state = (.ok (some members), left) := by
  obtain ⟨finds, chains⟩ := inherited_members
  have lineage := chains chain (by decide +kernel) intact
  obtain ⟨depth, _, left, ⟨members, rfl, -, keys, -, -, nearest⟩, run⟩ :=
    (finds lineage).exists_run rfl
  refine ⟨depth, members, left, keys.trans ?_, nearest, run⟩
  decide +kernel

end TypeGloss
