/-
# TypeGloss.Proofs.Resolution.Pushing — object defaults among documented properties

The entries of an object default are pushed down to the properties below a node, by name. What they
meet there is the layout of the type. An object has a node for each of its apparent properties, and
so has an intersection for those of its flattened constituents: these take the entries that are
theirs, unless they have defaults of their own, and an entry that is an object is pushed further
down in the same way (`Made.Filled`).

But the other constituents of an intersection are nodes of their own, and their properties are one
level deeper. Defaults do not follow there. Such a node takes the entry under its own name, which is
that of a type, if there is one; its properties stay without (`parameter_defaults`).
-/
import TypeGloss.Proofs.Checker.Constituents
import TypeGloss.Proofs.Resolution.Callables

namespace TypeGloss

set_option autoImplicit false

/-! ## Nodes -/

namespace Node

/-- Are defaults attached to the properties of a node? -/
def hasFields : Node → Bool
  | object _ _ _ => true
  | intersection _ _ => true
  | _ => false

/-- The properties that defaults are attached to. -/
def fields : Node → List Node
  | object _ properties _ => properties
  | intersection _ properties => properties
  | _ => []

/-- A node with other properties to attach defaults to. -/
def withFields (fields : List Node) : Node → Node
  | object header _ indexes => object header fields indexes
  | intersection header _ => intersection header fields
  | node => node

variable {node : Node} {entries : Entries Value}

theorem pushDefaults_eq (entries : Entries Value) (node : Node) :
    node.pushDefaults entries = node.withFields (node.fields.map (takeDefault entries)) := by
  cases node with
  | object header properties indexes =>
      exact congrArg (object header · indexes) (pushAllDefaults_eq_map entries properties)
  | intersection header properties =>
      exact congrArg (intersection header) (pushAllDefaults_eq_map entries properties)
  | _ => rfl

@[simp] theorem hasFields_mapHeader (f : Header → Header) (node : Node) :
    (node.mapHeader f).hasFields = node.hasFields := by
  cases node <;> rfl

@[simp] theorem fields_mapHeader (f : Header → Header) (node : Node) :
    (node.mapHeader f).fields = node.fields := by
  cases node <;> rfl

@[simp] theorem header_withFields (fields : List Node) (node : Node) :
    (node.withFields fields).header = node.header := by
  cases node <;> rfl

@[simp] theorem hasFields_withFields (fields : List Node) (node : Node) :
    (node.withFields fields).hasFields = node.hasFields := by
  cases node <;> rfl

theorem fields_withFields (has : node.hasFields = true) (fields : List Node) :
    (node.withFields fields).fields = fields := by
  cases node <;> first | rfl | cases has

theorem takeDefault_of_none (none : taken? entries node = none) :
    node.takeDefault entries = node := by
  rw [takeDefault, none]

/-- An object that is given as a default is pushed down into the fields. -/
theorem takeDefault_of_object {more : Entries Value}
    (found : taken? entries node = some (.object more)) :
    node.takeDefault entries = (node.pushDefaults more).withDefault (.object more) := by
  rw [takeDefault, found]

theorem takeDefault_of_value {v : Value} (found : taken? entries node = some v)
    (plain : ∀ more, v ≠ .object more) : node.takeDefault entries = node.withDefault v := by
  rw [takeDefault, found]
  cases v with
  | object more => exact absurd rfl (plain more)
  | _ => rfl

end Node

/-! ## Rules -/

namespace Made

section Rules

variable (plan : Plan) (s : State) (below : Below)
  (inside : Entries Value → TypeId → List Node → Prop) (entries : Entries Value)

/-- What becomes of a node for a type among other properties, if these entries are pushed down to
them; `inside` says what becomes of the properties below the node. -/
inductive Takes (t : TypeId) (node : Node) : Node → Prop where
  | own (has : node.hasDefault = true) : Takes t node node
  | missing (bare : node.hasDefault = false)
      (absent : ∀ name, node.header.name = some name → Entries.find? name entries = none) :
      Takes t node node
  | value {name : String} {v : Value} (bare : node.hasDefault = false)
      (named : node.header.name = some name) (found : Entries.find? name entries = some v)
      (plain : (∀ more, v ≠ .object more) ∨ node.hasFields = false) :
      Takes t node (node.withDefault v)
  | object {name : String} {more : Entries Value} {fields : List Node}
      (bare : node.hasDefault = false) (named : node.header.name = some name)
      (found : Entries.find? name entries = some (.object more)) (has : node.hasFields = true)
      (pushed : inside more t fields) :
      Takes t node ((node.withFields fields).withDefault (.object more))

/-- What becomes of a property. -/
inductive Receives (p : Symbol) : Option Node → Prop where
  | gone (made : Property plan s below p none) : Receives p none
  | documented {t : TypeId} {node found : Node} (typed : s.Finds (Checker.typeOfSymbol p) t)
      (made : Property plan s below p (some node)) (takes : Takes inside entries t node found) :
      Receives p (some found)

/-- What a constituent contributes to an intersection. -/
inductive Contributes (c : TypeId) : List Node → Prop where
  | flattened {symbols : List Symbol} {results : List (Option Node)}
      (flat : s.Finds (Builder.isFlattened plan c) true)
      (listed : s.Finds (Checker.properties c) symbols)
      (each : List.Forall₂ (Receives plan s below inside entries) symbols results) :
      Contributes c (results.filterMap id)
  | gone (whole : s.Finds (Builder.isFlattened plan c) false) (nothing : below c none none) :
      Contributes c []
  | nested {node found : Node} (whole : s.Finds (Builder.isFlattened plan c) false)
      (made : below c none (some node)) (takes : Takes inside entries c node found) :
      Contributes c [found]

/-- What becomes of the properties of a node, by the layout of its type. -/
inductive Spread (t : TypeId) : List Node → Prop where
  | object {u : TypeId} {symbols : List Symbol} {results : List (Option Node)}
      (simple : s.Finds (Checker.simplified t) (some u))
      (sort : s.Finds (Checker.category u) .object)
      (listed : s.Finds (Checker.properties u) symbols)
      (each : List.Forall₂ (Receives plan s below inside entries) symbols results) :
      Spread t (results.filterMap id)
  | intersection {u : TypeId} {constituents : List TypeId} {chunks : List (List Node)}
      (simple : s.Finds (Checker.simplified t) (some u))
      (sort : s.Finds (Checker.category u) .intersection)
      (joined : s.Finds (Checker.intersectionMembers u) constituents)
      (each : List.Forall₂ (Contributes plan s below inside entries) constituents chunks) :
      Spread t chunks.flatten

end Rules

/-- The properties of the node of a type, in which so many may still be nested, with the entries of
a default pushed down to them. -/
def Filled (plan : Plan) (s : State) (cuts : Prop) : Nat → Entries Value → TypeId → List Node → Prop
  | 0 => fun _ _ _ => False
  | fewer + 1 => Spread plan s (Resolved plan s cuts fewer) (Filled plan s cuts fewer)

variable {plan : Plan} {s : State} {cuts : Prop} {levels : Nat} {below : Below}
  {inside : Entries Value → TypeId → List Node → Prop} {entries : Entries Value} {t : TypeId}
  {enclosing : Option Declaration} {p : Symbol} {node found : Node} {result : Option Node}

/-! ## One node -/

/-- A node takes the default at its name, unless it has one of its own. -/
theorem Takes.header (takes : Takes inside entries t node found) :
    found.header = { node.header with
      default := node.header.default.or
        (node.header.name.bind fun name => Entries.find? name entries) } := by
  have bareOf (bare : node.hasDefault = false) : node.header.default = none :=
    Option.not_isSome_iff_eq_none.1 (by rw [← Node.hasDefault, bare]; exact Bool.false_ne_true)
  cases takes with
  | own has =>
      obtain ⟨v, own⟩ := Option.isSome_iff_exists.1 has
      rw [own, Option.some_or, ← own]
  | missing bare absent =>
      have nothing : (node.header.name.bind fun name => Entries.find? name entries) = none :=
        Option.bind_eq_none_iff.2 absent
      rw [bareOf bare, nothing, Option.none_or, ← bareOf bare]
  | value bare named found =>
      rw [bareOf bare, named, Option.none_or, Option.bind_some, found]
      exact Node.header_mapHeader _ node
  | object bare named found =>
      rw [bareOf bare, named, Option.none_or, Option.bind_some, found]
      exact (Node.header_mapHeader _ _).trans (by rw [Node.header_withFields])

/-- A node is as it would be without the defaults unless it has the name of one of them. -/
theorem Takes.eq_of_absent (takes : Takes inside entries t node found)
    (absent : ∀ name, node.header.name = some name → Entries.find? name entries = none) :
    found = node := by
  cases takes with
  | own => rfl
  | missing => rfl
  | value _ named found => cases (absent _ named).symm.trans found
  | object _ named found => cases (absent _ named).symm.trans found

/-- A default that is an object is pushed further down. -/
theorem Takes.pushed (takes : Takes inside entries t node found) {name : String}
    {more : Entries Value} (bare : node.hasDefault = false) (named : node.header.name = some name)
    (given : Entries.find? name entries = some (.object more)) (has : node.hasFields = true) :
    inside more t found.fields := by
  cases takes with
  | own own => cases own.symm.trans bare
  | missing _ absent => cases (absent _ named).symm.trans given
  | value _ named' given' plain =>
      cases named.symm.trans named'
      cases given.symm.trans given'
      rcases plain with plain | plain
      · exact absurd rfl (plain more)
      · cases has.symm.trans plain
  | object _ named' given' _ pushed =>
      cases named.symm.trans named'
      cases given.symm.trans given'
      rwa [Node.withDefault, Node.fields_mapHeader, Node.fields_withFields has]

/-- A node takes what is pushed, if what is inside takes its share. -/
theorem takes_takeDefault
    (pushed : node.hasDefault = false → node.hasFields = true →
      ∀ more, inside more t (node.fields.map (Node.takeDefault more))) :
    Takes inside entries t node (node.takeDefault entries) := by
  cases has : node.hasDefault with
  | true =>
      rw [Node.takeDefault_of_none (by simp [Node.taken?, has])]
      exact .own has
  | false =>
      have taken : Node.taken? entries node =
          node.header.name.bind fun name => Entries.find? name entries := by
        simp [Node.taken?, has]
      cases here : node.header.name.bind fun name => Entries.find? name entries with
      | none =>
          rw [Node.takeDefault_of_none (taken.trans here)]
          exact .missing has (Option.bind_eq_none_iff.1 here)
      | some v =>
          obtain ⟨name, named, found⟩ := Option.bind_eq_some_iff.1 here
          by_cases object : ∃ more, v = .object more
          · obtain ⟨more, rfl⟩ := object
            rw [Node.takeDefault_of_object (taken.trans here), Node.pushDefaults_eq]
            cases fields : node.hasFields with
            | true => exact .object has named found fields (pushed has fields more)
            | false =>
                have unlisted :
                    node.withFields (node.fields.map (Node.takeDefault more)) = node := by
                  cases node <;> first | rfl | cases fields
                rw [unlisted]
                exact .value has named found (.inr fields)
          · have plain : ∀ more, v ≠ .object more := fun more same => object ⟨more, same⟩
            rw [Node.takeDefault_of_value (taken.trans here) plain]
            exact .value has named found (.inl plain)

/-! ## Types -/

/-- What a type is resolved to has no default. -/
theorem Resolved.default_eq_none (resolved : Resolved plan s cuts levels t enclosing (some node)) :
    node.header.default = none := by
  have expanded {below : Below} {u : TypeId} {context : Context} {category : Category} {node : Node}
      (made : Expanded plan s below u context category node) : node.header.default = none := by
    have called {node : Node} (made : Callable plan s below u context node) :
        node.header.default = none := by
      cases made <;> rfl
    cases category with
    | object =>
        cases made with
        | object _ _ made => cases made; rfl
        | callable _ _ _ made => exact called made
    | function => exact called made
    | _ => cases made <;> rfl
  cases levels with
  | zero =>
      cases resolved with
      | leaf _ _ _ _ made => cases made <;> rfl
      | rejected => rfl
      | expanded _ _ _ _ _ made => obtain ⟨-, rfl⟩ := made; rfl
  | succ fewer =>
      cases resolved with
      | leaf _ _ _ _ made => cases made <;> rfl
      | rejected => rfl
      | expanded _ _ _ _ _ made =>
          cases made with
          | cut => rfl
          | expanded made => exact expanded made

section Layouts

variable (each : ∀ t enclosing node, below t enclosing (some node) → node.hasFields = true →
    ∀ more, inside more t (node.fields.map (Node.takeDefault more)))

include each

theorem Property.receives (made : Property plan s below p result) :
    Receives plan s below inside entries p (result.map (Node.takeDefault entries)) := by
  have again := made
  cases made with
  | rejected _ typed => exact .documented typed again (takes_takeDefault fun _ has => nomatch has)
  | gone => exact .gone again
  | @shown _ t node value _ typed _ made _ =>
      refine .documented typed again (takes_takeDefault fun free has more => ?_)
      cases value with
      | some v =>
          rw [Node.hasDefault, Node.attach, Option.elim_some, Node.header_assignDefault] at free
          cases free
      | none =>
          rw [Node.attach, Option.elim_none, Node.hasFields_mapHeader] at has
          rw [Node.attach, Option.elim_none, Node.fields_mapHeader]
          exact each _ _ _ made has more

/-- Properties receive what the defaults have under their names. -/
theorem Properties.receives {symbols : List Symbol} {nodes : List Node}
    (made : Properties plan s below symbols nodes) :
    ∃ results, List.Forall₂ (Receives plan s below inside entries) symbols results ∧
      nodes.map (Node.takeDefault entries) = results.filterMap id := by
  obtain ⟨made⟩ := made
  rename_i results
  refine ⟨results.map (Option.map (Node.takeDefault entries)), ?_, ?_⟩
  · rw [List.forall₂_map_right_iff]
    exact made.imp fun p result made => made.receives each
  · rw [List.map_filterMap, List.filterMap_map]
    rfl

/-- A constituent contributes its properties, each with its default. -/
theorem Constituent.contributes {nodes : List Node} (made : Constituent plan s below t nodes) :
    Contributes plan s below inside entries t (nodes.map (Node.takeDefault entries)) := by
  cases made with
  | flattened flat _ _ _ _ listed _ shown =>
      obtain ⟨results, received, same⟩ := shown.receives each
      rw [same]
      exact .flattened flat listed received
  | @nested result whole made =>
      cases result with
      | none => exact .gone whole made
      | some node => exact .nested whole made (takes_takeDefault fun _ has => each _ _ _ made has)

/-- The properties of a node are laid out by its type. -/
theorem Expanded.spread {u : TypeId} {context : Context} {category : Category}
    (simple : s.Finds (Checker.simplified t) (some u))
    (sort : s.Finds (Checker.category u) category)
    (made : Expanded plan s below u context category node) (has : node.hasFields = true) :
    Spread plan s below inside entries t (node.fields.map (Node.takeDefault entries)) := by
  have called (made : Callable plan s below u context node) : node.hasFields = false := by
    cases made <;> rfl
  cases category with
  | object =>
      cases made with
      | callable _ _ _ made => cases has.symm.trans (called made)
      | object _ _ made =>
          obtain ⟨_, _, listed, shown⟩ := made
          obtain ⟨results, received, same⟩ := shown.receives each
          rw [Node.fields, same]
          exact .object simple sort listed received
  | intersection =>
      obtain ⟨joined, made⟩ := made
      rw [Node.fields, List.map_flatten]
      refine .intersection simple sort joined ?_
      rw [List.forall₂_map_right_iff]
      exact made.imp fun c nodes made => made.contributes each
  | function => cases has.symm.trans (called made)
  | _ => cases made <;> cases has

end Layouts

/-- What a type is resolved to is filled with the entries that are pushed down. -/
theorem Resolved.filled (resolved : Resolved plan s cuts levels t enclosing (some node))
    (has : node.hasFields = true) (entries : Entries Value) :
    Filled plan s cuts levels entries t (node.fields.map (Node.takeDefault entries)) := by
  induction levels generalizing t enclosing node entries with
  | zero =>
      cases resolved with
      | leaf _ _ _ _ made => cases made <;> cases has
      | rejected => cases has
      | expanded _ _ _ _ _ made => obtain ⟨-, rfl⟩ := made; cases has
  | succ fewer ih =>
      cases resolved with
      | leaf _ _ _ _ made => cases made <;> cases has
      | rejected => cases has
      | expanded simple sort _ _ _ made =>
          cases made with
          | cut => cases has
          | expanded made =>
              exact made.spread (fun _ _ _ below => ih below) simple sort has

/-! ## Apparent properties -/

section Landings

variable (plan : Plan) (s : State) (cuts : Prop) (levels : Nat) (entries : Entries Value)
  (u : TypeId) (nodes : List Node) (p : Symbol) (v : Value)

/-- Where the default `v` comes to that is pushed down for an apparent property of a type, among the
nodes below that of the type. -/
inductive Lands : Prop where
  | vanished (gone : Vanishes s p)
  /-- The property is a reference without a name. -/
  | nameless {metadata : Metadata} (known : s.Finds (Metadata.ofSymbol p none) metadata)
      (rejects : plan.accepts metadata = false) (hidden : p.ownName? = none)
  /-- The property has the default, unless it has one of its own, and so has what is below it. -/
  | carried {node found : Node} (made : Property plan s (Resolved plan s cuts levels) p (some node))
      (among : found ∈ nodes)
      (given : found.header = { node.header with default := node.header.default.or (some v) })
      (pushed : ∀ more, v = .object more → node.hasDefault = false → node.hasFields = true →
        ∃ t, s.Finds (Checker.typeOfSymbol p) t ∧ Filled plan s cuts levels more t found.fields)
  /-- The property is one of a constituent with a node of its own, which is as it would be without
  the defaults unless it has the name of one of them. -/
  | deeper {constituents : List TypeId} {c : TypeId} {own : List Symbol} {node found : Node}
      (joined : s.Finds (Checker.intersectionMembers u) constituents) (part : c ∈ constituents)
      (whole : s.Finds (Builder.isFlattened plan c) false)
      (listed : s.Finds (Checker.properties c) own) (has : p ∈ own)
      (made : Resolved plan s cuts levels c none (some node)) (among : found ∈ nodes)
      (same : (∀ name, node.header.name = some name → Entries.find? name entries = none) →
        found = node)

end Landings

theorem Property.eq_none (made : Property plan s (Resolved plan s cuts levels) p none) :
    Vanishes s p := by
  cases made with
  | gone _ typed _ nothing => exact ⟨_, typed, nothing.eq_none_iff.1 rfl⟩

/-- A node documents a property under its name, unless the property is rejected and its name is
none of its own. -/
theorem Property.name_or_nameless (made : Property plan s below p (some node)) :
    node.header.name = p.name ∨ ∃ metadata, s.Finds (Metadata.ofSymbol p none) metadata ∧
      plan.accepts metadata = false ∧ p.ownName? = none := by
  cases made with
  | @rejected metadata _ _ _ known _ rejects =>
      have name : metadata.name = p.ownName? := known.metadata.name
      cases own : p.ownName? with
      | none => exact .inr ⟨metadata, known, rejects, rfl⟩
      | some name' =>
          have kept : p.name = some name' := (Option.filter_eq_some_iff.1 own).1
          exact .inl ((name.trans own).trans kept.symm)
  | @shown metadata _ inner value _ _ _ _ _ =>
      refine .inl ?_
      have here : (inner.mapHeader (Builder.propertyHeader p metadata)).header.name = p.name :=
        congrArg Header.name (Node.header_mapHeader _ inner)
      cases value with
      | none => exact here
      | some value => exact (congrArg Header.name (Node.header_assignDefault value _)).trans here

/-- A default lands at the property of its name. -/
theorem lands_of_receives {symbols : List Symbol} {results : List (Option Node)}
    {nodes : List Node} {u : TypeId} {name : String} {v : Value}
    (each : List.Forall₂
      (Receives plan s (Resolved plan s cuts levels) (Filled plan s cuts levels) entries) symbols
      results)
    (all : ∀ node ∈ results.filterMap id, node ∈ nodes) (among : p ∈ symbols)
    (named : p.name = some name) (given : Entries.find? name entries = some v) :
    Lands plan s cuts levels entries u nodes p v := by
  obtain ⟨result, here, received⟩ := exists_of_mem_left each among
  cases received with
  | gone made => exact .vanished made.eq_none
  | @documented t node found typed made takes =>
      rcases made.name_or_nameless with same | ⟨metadata, known, rejects, hidden⟩
      · refine .carried made (all found (List.mem_filterMap.2 ⟨_, here, rfl⟩)) ?_ ?_
        · rw [takes.header, same, named, Option.bind_some, given]
        · rintro more rfl bare has
          exact ⟨t, typed, takes.pushed bare (same.trans named) given has⟩
      · exact .nameless known rejects hidden

/-- A type of which nothing is left has no properties. -/
theorem properties_eq_nil_of_gone {own : List Symbol} (has : s.Has (Checker.properties t) own)
    (gone : s.Finds (Checker.simplified t) none) : own = [] := by
  obtain ⟨simple, first, rest⟩ :=
    Structure.recalls_properties (Answer.reliable_answer 1199) has.recalls
  have again : s.Has (Checker.simplified t) simple :=
    Structure.has_simplified_of_le first (Nat.le_succ 1199)
  obtain rfl : simple = none := Except.ok.inj ((congrArg Prod.fst again).symm.trans gone)
  exact rest

theorem Spread.exists_simplified {nodes : List Node}
    (spread : Spread plan s below inside entries t nodes) :
    ∃ u, s.Finds (Checker.simplified t) (some u) := by
  cases spread with
  | object simple => exact ⟨_, simple⟩
  | intersection simple => exact ⟨_, simple⟩

/-- Every entry lands that has the name of an apparent property. -/
theorem Filled.lands {nodes : List Node} {u : TypeId} {all : List Symbol} {name : String}
    {v : Value}
    (filled : Filled plan s cuts (levels + 1) entries t nodes)
    (simple : s.Finds (Checker.simplified t) (some u))
    (recalled : s.Recalls (Checker.properties u) all) (among : p ∈ all)
    (named : p.name = some name) (given : Entries.find? name entries = some v) :
    Lands plan s cuts levels entries u nodes p v := by
  cases filled with
  | object simple' _ listed each =>
      cases simple.unique simple'
      cases (recalled.finds (.properties u)).unique listed
      exact lands_of_receives each (fun _ here => here) among named given
  | @intersection _ constituents chunks simple' sort joined each =>
      cases simple.unique simple'
      -- The constituents are listed twice, with their properties and with the nodes that they
      -- contribute. A property is found in the first list, and looked for in the second.
      obtain ⟨told, has, rfl⟩ := Checker.properties_of_intersection sort joined recalled
      obtain ⟨own, among', here⟩ := List.mem_flatten.1
        (List.mem_of_find?_eq_some (find?_of_mem_addNew_nil Symbol.name told.flatten p among))
      have paired : List.Forall₂ (fun own chunk => ∃ c ∈ constituents,
          s.Has (Checker.properties c) own ∧
            Contributes plan s (Resolved plan s cuts levels) (Filled plan s cuts levels) entries c
              chunk) told chunks :=
        forall₂_of_common (forall₂_imp_of_mem has fun c part own _ has => And.intro part has) each
          fun ⟨part, has⟩ made => ⟨_, part, has, made⟩
      obtain ⟨chunk, placed, c, part, has, made⟩ := exists_of_mem_left paired among'
      have listed : s.Finds (Checker.properties c) own := congrArg Prod.fst has
      cases made with
      | flattened _ listed' each =>
          cases listed.unique listed'
          exact lands_of_receives each (fun _ shown => List.mem_flatten_of_mem placed shown) here
            named given
      | gone _ nothing =>
          rw [properties_eq_nil_of_gone has (nothing.eq_none_iff.1 rfl)] at here
          cases here
      | nested whole made takes =>
          exact .deeper joined part whole listed here made
            (List.mem_flatten_of_mem placed List.mem_cons_self) takes.eq_of_absent

/-- The properties of a parameter with an object default are filled with its entries. -/
theorem Parameter.filled (made : Parameter s (Resolved plan s cuts levels) p (some node))
    (given : node.header.default = some (.object entries)) (has : node.hasFields = true) :
    ∃ t, s.Finds (Checker.typeOfSymbol p) t ∧ Filled plan s cuts levels entries t node.fields := by
  cases made with
  | @shown t inner value typed resolved _ =>
      -- The node of the type has no default, so what is given is the initializer of the parameter.
      have unassigned : (inner.mapHeader (Builder.parameterHeader p)).header.default = none := by
        rw [Node.header_mapHeader]
        exact resolved.default_eq_none
      cases value with
      | none => cases unassigned.symm.trans given
      | some value =>
          rw [Node.attach, Option.elim_some] at given has ⊢
          rw [Node.header_assignDefault] at given
          obtain rfl := Option.some.inj given
          rw [Node.assignDefault, Node.pushDefaults_eq, Node.withDefault] at has ⊢
          rw [Node.hasFields_withFields, Node.hasFields_mapHeader, Node.hasFields_mapHeader] at has
          rw [Node.fields_withFields (by simpa using has), Node.fields_mapHeader,
            Node.fields_mapHeader]
          exact ⟨t, typed, resolved.filled has entries⟩

end Made

/-- Let a parameter be resolved, from any lawful state and at any depth, to an object or an
intersection with an object for its default. The entries of the default are pushed down by the
layout of the type, further down where they are objects themselves. Each entry that has the name of
an apparent property of the type is the default of the node that documents the property just below,
unless the property has one of its own; or the property is one of a constituent of an intersection
that is documented by a node of its own, and then this node is what it would be without the
defaults, all of its properties included, unless the name of its type is the name of an entry.
(There is no such node for a property whose type comes to nothing, and none with the name of a
property that is rejected and has a hidden name.) -/
theorem parameter_defaults {plan : Plan} {remaining : Nat} {symbol : Symbol}
    {resolution : Resolution} {later : State} {node : Node} {entries : Entries Value}
    (lawful : resolution.checker.Lawful .free)
    (returned : outcome (Builder.parameter (Resolution.resolve plan remaining) symbol) resolution =
      .ok (some node))
    (extended : (after (Builder.parameter (Resolution.resolve plan remaining) symbol)
      resolution).checker.Extends later)
    (given : node.header.default = some (.object entries)) (has : node.hasFields = true) :
    ∃ fewer t u, remaining = fewer + 1 ∧ later.Finds (Checker.typeOfSymbol symbol) t ∧
      later.Finds (Checker.simplified t) (some u) ∧
      Made.Filled plan later True remaining entries t node.fields ∧
      ∀ all, later.Recalls (Checker.properties u) all → ∀ p ∈ all, ∀ name v,
        p.name = some name → Entries.find? name entries = some v →
          Made.Lands plan later True fewer entries u node.fields p v := by
  have made := (Builder.parameter_made (Resolution.resolve_made plan remaining) symbol).holds
    resolution lawful returned extended
  obtain ⟨t, typed, filled⟩ := made.filled given has
  cases remaining with
  | zero => exact filled.elim
  | succ fewer =>
      obtain ⟨u, simple⟩ := Made.Spread.exists_simplified filled
      refine ⟨fewer, t, u, rfl, typed, simple, filled, ?_⟩
      exact fun all recalled p among name v named found =>
        Made.Filled.lands filled simple recalled among named found

/-! ### A constituent with a name

`p: { a?: number } & Named = { a: 1, b: 2 }`, where `interface Named { b?: number }` -/

namespace NamedConstituent

open LostIndex (path standard keyword object keyword_lawful object_lawful intersection_lawful)

/-- A node of the source, which has one line. -/
def piece (kind text : String) (start stop : Nat) (field : Option String := none)
    (children : List Tree := []) : Tree :=
  .node ⟨kind, text, start, stop, ⟨0, start⟩, ⟨0, stop⟩, true, false, field⟩ children

def first : Tree := piece "property_signature" "a?: number" 5 15

def anonymous : Tree := piece "object_type" "{ a?: number }" 3 17 none [first]

/-- The type of the parameter. -/
def both : Tree :=
  piece "intersection_type" "{ a?: number } & Named" 3 25 none
    [anonymous, piece "type_identifier" "Named" 20 25]

def entry (name number : String) (start : Nat) : Tree :=
  piece "pair" (name ++ ": " ++ number) start (start + 4) none
    [piece "property_identifier" name start (start + 1) (some "key"),
      piece "number" number (start + 3) (start + 4) (some "value")]

def initializer : Tree :=
  piece "object" "{ a: 1, b: 2 }" 28 42 (some "value") [entry "a" "1" 30, entry "b" "2" 36]

def parameter : Tree :=
  piece "required_parameter" "p: { a?: number } & Named = { a: 1, b: 2 }" 0 42 none
    [piece "identifier" "p" 0 1 (some "pattern"), both, initializer]

def second : Tree := piece "property_signature" "b?: number" 62 72

def interface : Tree :=
  piece "interface_declaration" "interface Named { b?: number }" 44 74 none
    [piece "interface_body" "{ b?: number }" 60 74 (some "body") [second]]

def root : Tree :=
  piece "program" "p: { a?: number } & Named = { a: 1, b: 2 }; interface Named { b?: number }" 0 74
    none [parameter, interface]

def source : Source := ⟨path, root, .ok {}⟩

def property (name : String) (slot : Nat) (node : Tree) : Symbol :=
  { name := some name, declaration := some ⟨.property, some name, path, some (.ofTree node)⟩,
    kind := some .property, isOptional := true,
    member := some ⟨slot, .top source, [.ofTree node]⟩ }

def a : Symbol := property "a" 0 first

def b : Symbol := property "b" 1 second

def symbol : Symbol :=
  { name := some "p", declaration := some ⟨.parameter, some "p", path, some (.ofTree parameter)⟩,
    kind := some .parameter, member := some ⟨2, .top source, [.ofTree parameter]⟩ }

def binding : Module.Binding := ⟨"Named", .interface, .ofTree interface, false⟩

def named : TypeRecord :=
  { category := .object, name := some "Named", node := some (.ofTree interface),
    place := some (.top source), bindings := [binding],
    symbol := some { name := some "Named", declaration := some (.ofBinding path binding) },
    shape := .declared, label := some "Named",
    cache := { properties := some [b], indexes := some [], calls := some [] } }

/-- A state in which everything is known about the type, which is the first. -/
def state : State :=
  { sources := [(path, source)]
    records := #[LostIndex.written .intersection none (.ofTree both) { members := some [1, 2] },
      object (.ofTree anonymous) [a] [], named, keyword .number "number"]
    slots := #[some 3, some 3, some 0] }

theorem named_lawful : named.Lawful .free where
  facts := {
    node := fun node _ => node.obeys_free
    place := fun place _ => place.source.obeys_free
    bindings := fun binding _ => binding.node.obeys_free
    symbol := fun symbol _ => symbol.obeys_free
    shape := trivial
    utility := nofun
    computed := nofun
    object := nofun
    library := nofun }
  cache := ((Cache.lawful_empty.set .properties fun p among => by
      obtain rfl := List.mem_singleton.1 among
      exact ⟨b.obeys_free, rfl⟩).set .indexes trivial).set .calls nofun

theorem state_lawful : state.Lawful .free where
  sources {path source} _ := source.obeys_free
  records {t r} known := by
    have among : r ∈ state.records := Array.mem_of_getElem? known
    simp only [state, List.mem_toArray, List.mem_cons, List.not_mem_nil, or_false] at among
    rcases among with rfl | rfl | rfl | rfl
    · exact intersection_lawful _ _
    · exact object_lawful (by simp [a, property]) _ _
    · exact named_lawful
    · exact keyword_lawful _ _

def given : Entries Value := [("a", .integer 1), ("b", .integer 2)]

/-- The parameter is resolved. -/
def resolve : ResolveM (Option Node) :=
  Builder.parameter (Resolution.resolve standard 3) symbol

theorem resolve_made : Yields .free
    (fun s result => Made.Parameter s (Made.Resolved standard s True 3) symbol result) resolve :=
  Builder.parameter_made (Resolution.resolve_made standard 3) symbol

/-- The state in which the parameter has been resolved. -/
def resolved : State := (after resolve ⟨state, {}⟩).checker

def isGiven : Option Value → Bool
  | some (.object [(x, .integer m), (y, .integer n)]) => x == "a" && m == 1 && y == "b" && n == 2
  | _ => false

theorem eq_of_isGiven {value : Option Value} (passes : isGiven value = true) :
    value = some (.object given) := by
  unfold isGiven at passes
  split at passes
  · simp only [Bool.and_eq_true, beq_iff_eq] at passes
    obtain ⟨⟨⟨rfl, rfl⟩, rfl⟩, rfl⟩ := passes
    rfl
  · cases passes

/-- The properties below the node, those below them, and which of them have defaults. -/
def outline (node : Node) : List (Option String × Bool × List (Option String × Bool)) :=
  node.fields.map fun child => (child.header.name, child.hasDefault,
    child.fields.map fun inner => (inner.header.name, inner.hasDefault))

/-- What can be told before is remembered afterwards. -/
theorem recalls {α : Type} {question : CheckM α} {answer : α}
    (has : state.Has question answer) : resolved.Recalls question answer :=
  resolve_made.recalls state_lawful has

theorem has_properties : state.Has (Checker.properties 0) [a, b] := by
  have ofAnonymous : state.Has ((Answer.answer 1199).properties 1) [a] :=
    Structure.has_properties_of_object rfl 1196 rfl rfl
  have ofNamed : state.Has ((Answer.answer 1199).properties 2) [b] :=
    Structure.has_properties_of_object rfl 1196 rfl rfl
  exact Structure.has_properties_of_intersection rfl 1197 rfl rfl
    (.cons ofAnonymous (.cons ofNamed .nil))

theorem exists_node : ∃ node, outcome resolve ⟨state, {}⟩ = .ok (some node) ∧
    node.header.default = some (.object given) ∧
    outline node = [(some "a", true, []), (some "Named", false, [(some "b", false)])] ∧
    node.hasFields = true := by
  obtain ⟨node, returned, passes⟩ : ∃ node, outcome resolve ⟨state, {}⟩ = .ok (some node) ∧
      (isGiven node.header.default && (outline node ==
        [(some "a", true, []), (some "Named", false, [(some "b", false)])] && node.hasFields)) =
      true := LostIndex.exists_tree (by decide +kernel)
  simp only [Bool.and_eq_true, beq_iff_eq] at passes
  exact ⟨node, returned, eq_of_isGiven passes.1, passes.2⟩

end NamedConstituent

open NamedConstituent in
/-- The default of `a` is documented, and that of `b` is not: it is a property of the interface,
which has a node of its own. -/
theorem parameter_defaults_named :
    ∃ node, outcome resolve ⟨state, {}⟩ = .ok (some node) ∧
      node.header.default = some (.object given) ∧
      outline node = [(some "a", true, []), (some "Named", false, [(some "b", false)])] ∧
      Made.Lands LostIndex.standard resolved True 2 given 0 node.fields b (.integer 2) := by
  obtain ⟨node, returned, isDefault, outlined, has⟩ := exists_node
  refine ⟨node, returned, isDefault, outlined, ?_⟩
  obtain ⟨fewer, t, u, same, typed, simple, -, lands⟩ :=
    parameter_defaults state_lawful returned (.refl _) isDefault has
  obtain rfl : 2 = fewer := Nat.succ.inj same
  have typed' : resolved.Finds (Checker.typeOfSymbol symbol) 0 :=
    (recalls (by with_unfolding_all rfl)).finds (.typeOfSymbol symbol)
  cases typed'.unique typed
  have simple' : resolved.Finds (Checker.simplified 0) (some 0) :=
    (recalls (by with_unfolding_all rfl)).finds (.simplified 0)
  cases simple'.unique simple
  exact lands _ (recalls has_properties) b (by simp) "b" _ rfl rfl

end TypeGloss
