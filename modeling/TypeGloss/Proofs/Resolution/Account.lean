/-
# TypeGloss.Proofs.Resolution.Account — what the nodes of a tree stand for

A node of a documentation tree stands for a type that the checker knows, met in a certain
*way*: below another type, as a property, as a parameter, or as what a declaration declares.
The way and the type decide where the node is, and whether the filter lets the type be
expanded. If it is, the properties of the node are those of the type: one node for each, in
their order, a reference if the filter rejects the property, and none if nothing is left of
the property's type.

`Node.Stands` says this of one node, given the state of the checker, and `Node.IsAccounted` of
every node of a tree. Here are the terms in which it is said, and what makes no difference to
it: headers that say the same about the type and its place, and defaults.
-/
import TypeGloss.Proofs.Documentation.Everywhere
import TypeGloss.Proofs.Resolution.Yield

namespace TypeGloss

set_option autoImplicit false

variable {law : Tree.Law} {plan : Plan} {s : State}

/-! ## Places -/

/-- A header that gives a location. -/
structure Header.IsAt (header : Header) (location : Location) : Prop where
  path : header.filePath = some location.path
  position : header.position = some location.position

/-- Where a symbol is declared. -/
def Symbol.location? (symbol : Symbol) : Option Location :=
  symbol.declaration.map Checker.declarationLocation

/-- Where a type is written. -/
def TypeFacts.written? (r : TypeFacts) : Option Location :=
  r.node.bind fun node => r.place.map fun place =>
    ⟨place.source.path, Checker.positionOf node.mark⟩

/-- The start of the library file that a type comes from. -/
def TypeFacts.inLibrary (r : TypeFacts) : Location :=
  ⟨r.libraryFile.getD Library.defaultFile, Checker.unknownPosition⟩

/-- Where a type is that is met below a declaration: where its symbol is declared, where it
is written, where the enclosing declaration is, or else in the library. -/
def TypeFacts.locationBelow (r : TypeFacts) (enclosing : Option Declaration) : Location :=
  (((r.symbol.bind Symbol.location?).or r.written?).or
    (enclosing.map Checker.declarationLocation)).getD r.inLibrary

/-- How a type is met. -/
inductive Way where
  /-- Below another type, or as the whole of a tree. -/
  | below (enclosing : Option Declaration)
  | property (symbol : Symbol)
  | parameter (symbol : Symbol)
  /-- As what a declaration declares, at the root of a tree. -/
  | root (declaration : Declaration)

namespace Way

/-- The declaration that leads to a type, if there is one. -/
def declaration : Way → Option Declaration
  | below enclosing => enclosing
  | property symbol => symbol.declaration
  | parameter symbol => symbol.declaration
  | root declaration => some declaration

/-- Where that declaration is, if the node of the type is there and not at the type. -/
def location? : Way → Option Location
  | below _ => none
  | property symbol => symbol.location?
  | parameter symbol => symbol.location?
  | root declaration => some (Checker.declarationLocation declaration)

/-- Where a type is that is met in this way. -/
def location (way : Way) (r : TypeFacts) : Location :=
  way.location?.getD (r.locationBelow way.declaration)

/-- A way along declared, lawful symbols; properties on it are accepted by the filter. -/
def IsOpen (law : Tree.Law) (plan : Plan) (s : State) : Way → Prop
  | below enclosing => ∀ declaration ∈ enclosing, declaration.Obeys law
  | property symbol => symbol.IsDeclared law ∧
      ∃ metadata, s.Finds (Metadata.ofSymbol symbol none) metadata ∧ plan.accepts metadata = true
  | parameter symbol => symbol.IsDeclared law
  | root declaration => declaration.Obeys law

end Way

/-! ## Types -/

/-- The filter lets a type be expanded: it has no symbol, or its symbol has no name of its own,
or the filter accepts the symbol. -/
def Plan.Admits (plan : Plan) (s : State) (way : Way) (r : TypeFacts) : Prop :=
  ∀ symbol ∈ r.symbol, ∃ metadata,
    s.Finds (Metadata.ofSymbol symbol way.declaration) metadata ∧
      (metadata.name = none ∨ plan.accepts metadata = true)

/-- A header that says which type it stands for and where the type is. -/
structure Header.Bears (header : Header) (s : State) (way : Way) (u : TypeId) (r : TypeFacts) :
    Prop where
  known : s.Finds (Check.facts u) r
  type : s.Finds (Checker.text u) header.type
  located : header.IsAt (way.location r)

/-- What a type comes to: nothing if nothing is left of it, and otherwise a node for what is
left. -/
def Becomes (s : State) (way : Way) (t : TypeId) : Option Node → Prop
  | none => s.Finds (Checker.simplified t) none
  | some node => ∃ u r, s.Finds (Checker.simplified t) (some u) ∧ node.header.Bears s way u r

/-- What a property comes to: a reference if the filter rejects it, and otherwise what its
type comes to. -/
inductive Shows (plan : Plan) (s : State) (symbol : Symbol) : Option Node → Prop where
  | rejected {metadata : Metadata} {t : TypeId} {header : Header}
      (known : s.Finds (Metadata.ofSymbol symbol none) metadata)
      (rejects : plan.accepts metadata = false)
      (typed : s.Finds (Checker.typeOfSymbol symbol) t)
      (type : s.Finds (Checker.text t) header.type) (name : header.name = symbol.ownName?)
      (located : ∀ location ∈ symbol.location?, header.IsAt location) :
      Shows plan s symbol (some (.reference header))
  | accepted {metadata : Metadata} {t : TypeId} {result : Option Node}
      (known : s.Finds (Metadata.ofSymbol symbol none) metadata)
      (accepts : plan.accepts metadata = true)
      (typed : s.Finds (Checker.typeOfSymbol symbol) t)
      (becomes : Becomes s (.property symbol) t result)
      (name : ∀ node ∈ result, node.header.name = symbol.name) :
      Shows plan s symbol result

/-- Nodes that show properties, one after the other. -/
def ShowsAll (plan : Plan) (s : State) (symbols : List Symbol) (nodes : List Node) : Prop :=
  ∃ results, List.Forall₂ (Shows plan s) symbols results ∧ nodes = results.filterMap id

/-! ## Nodes -/

def Method.header : Method → MemberHeader
  | .mk header _ => header

def Accessor.header : Accessor → MemberHeader
  | .mk header _ _ _ => header

/-- The header of a method or an accessor, which says what is known about its symbol. -/
structure MemberHeader.IsOf (header : MemberHeader) (symbol : Symbol) : Prop where
  name : header.name = symbol.name.getD ""
  path : header.filePath = symbol.location?.map Location.path
  position : header.position = symbol.location?.map Location.position

/-- What a constituent contributes to an intersection: the nodes of its properties if it is an
object without a name, and otherwise what it comes to itself. -/
inductive Contributes (plan : Plan) (s : State) (t : TypeId) : List Node → Prop where
  | flattened {u : TypeId} {r : TypeFacts} {symbols : List Symbol} {nodes : List Node}
      (flat : s.Finds (Builder.isFlattened plan t) true)
      (simple : s.Finds (Checker.simplified t) (some u)) (known : s.Finds (Check.facts u) r)
      (unnamed : r.IsUnnamed) (listed : s.Finds (Checker.properties t) symbols)
      (shows : ShowsAll plan s symbols nodes) : Contributes plan s t nodes
  | nested {result : Option Node} (whole : s.Finds (Builder.isFlattened plan t) false)
      (becomes : Becomes s (.below none) t result) : Contributes plan s t result.toList

/-- The members of a class of the given kinds that are documented. -/
def Plan.shown (plan : Plan) (kinds : List MemberKind) (symbols : List Symbol) : List Symbol :=
  symbols.filter fun symbol => Builder.isShown plan symbol && symbol.kind.any kinds.contains

/-- The properties that a node lists, and the methods and accessors, are those of its type. -/
def Node.Lists (plan : Plan) (s : State) (u : TypeId) : Node → Prop
  | .object _ properties _ =>
      ∃ symbols, s.Finds (Checker.properties u) symbols ∧ ShowsAll plan s symbols properties
  | .intersection _ properties =>
      ∃ members chunks, s.Finds (Checker.intersectionMembers u) members ∧
        List.Forall₂ (Contributes plan s) members chunks ∧ properties = chunks.flatten
  | .classType _ properties methods accessors _ =>
      ∃ symbols, s.Finds (Checker.classMembers u) symbols ∧
        ShowsAll plan s (plan.shown [.property] symbols) properties ∧
        List.Forall₂ (fun symbol method => method.header.IsOf symbol)
          (plan.shown [.method] symbols) methods ∧
        List.Forall₂ (fun symbol accessor => accessor.header.IsOf symbol)
          (plan.shown [.getter, .setter] symbols) (accessors.getD [])
  | _ => True

/-- A node that stands for a type met in some way. If it is more than a leaf, the filter lets
the type be expanded. -/
structure Node.Meets (law : Tree.Law) (plan : Plan) (s : State) (way : Way) (u : TypeId)
    (r : TypeFacts) (node : Node) : Prop where
  leads : way.IsOpen law plan s
  bears : node.header.Bears s way u r
  expanded : node.isExpanded = true → plan.Admits s way r ∧ node.Lists plan s u

/-- What a node of a tree stands for: a type, a property that the filter rejects, or a type
below another of which nothing is left, in the place of the other. -/
inductive Node.Stands (law : Tree.Law) (plan : Plan) (s : State) : Node → Prop where
  | met {way : Way} {u : TypeId} {r : TypeFacts} {node : Node}
      (meets : node.Meets law plan s way u r) : Stands law plan s node
  | rejected {symbol : Symbol} {header : Header} (declared : symbol.IsDeclared law)
      (located : ∀ location ∈ symbol.location?, header.IsAt location) :
      Stands law plan s (.reference header)
  | remnant {enclosing : Option Declaration} {u : TypeId} {r : TypeFacts} {header : Header}
      (leads : (Way.below enclosing).IsOpen law plan s) (known : s.Finds (Check.facts u) r)
      (located : header.IsAt (r.locationBelow enclosing)) : Stands law plan s (.reference header)

/-- Every node of a tree stands for something. -/
def Node.IsAccounted (law : Tree.Law) (plan : Plan) (s : State) : Node → Prop :=
  Node.Everywhere (Node.Stands law plan s)

/-- The tree of a type that is met in some way. -/
def Node.Documents (law : Tree.Law) (plan : Plan) (s : State) (way : Way) (t : TypeId)
    (node : Node) : Prop :=
  ∃ u r, s.Finds (Checker.simplified t) (some u) ∧ node.Meets law plan s way u r ∧
    ∀ child ∈ node.children, child.IsAccounted law plan s

/-! ## Answers -/

/-- What is known about a symbol comes from its declaration, or else from the enclosing one. -/
structure Metadata.IsOf (metadata : Metadata) (symbol : Symbol) (enclosing : Option Declaration) :
    Prop where
  name : metadata.name = symbol.ownName?
  path : metadata.filePath =
    ((symbol.declaration.or enclosing).map Checker.declarationLocation).map Location.path
  position : metadata.position =
    ((symbol.declaration.or enclosing).map Checker.declarationLocation).map Location.position
  inPackage : metadata.isInNodeModules =
    (symbol.declaration.or enclosing).elim false fun declaration =>
      Path.isInNodeModules declaration.path

theorem Metadata.ofSymbol_timeless (symbol : Symbol) (enclosing : Option Declaration) :
    Timeless (Metadata.ofSymbol symbol enclosing) := by
  unfold Metadata.ofSymbol
  dsimp only
  split
  · split
    · exact (Timeless.pure _).bind fun _ => .pure _
    · exact (Checker.isExported_timeless _).bind fun _ => .pure _
  · exact (Timeless.pure _).bind fun _ => .pure _

namespace State.Finds

/-- The metadata of a symbol are those of its declaration. -/
theorem metadata {symbol : Symbol} {enclosing : Option Declaration} {metadata : Metadata}
    (found : s.Finds (Metadata.ofSymbol symbol enclosing) metadata) :
    metadata.IsOf symbol enclosing := by
  unfold State.Finds Metadata.ofSymbol at found
  dsimp only at found
  split at found
  · next declaration present =>
      split at found <;>
        (obtain ⟨isExported, -, returned⟩ := outcome_bind_eq_ok found
         cases returned
         exact ⟨rfl, rfl, rfl, by simp [present, Checker.declarationLocation]⟩)
  · next absent =>
      cases found
      exact ⟨rfl, rfl, rfl, by simp [absent]⟩

/-- An answer that is read off the facts of a type. -/
theorem ofFacts {α : Type} {t : TypeId} {f : TypeFacts → α} {a : α}
    (found : s.Finds (do return f (← Check.facts t)) a) :
    ∃ r, s.Finds (Check.facts t) r ∧ f r = a := by
  obtain ⟨r, known, returned⟩ := outcome_bind_eq_ok found
  exact ⟨r, known, Except.ok.inj returned⟩

end State.Finds

theorem Checker.run_typeLocation? {t : TypeId} {r : TypeFacts}
    (known : s.Finds (Check.facts t) r) :
    (typeLocation? t).run.run s = (.ok r.written?, s) := by
  rw [typeLocation?, run_bind, known, Check.after_facts, TypeFacts.written?]
  dsimp only
  cases r.node with
  | none => rfl
  | some node => cases r.place <;> rfl

/-- A type is where its facts say it is. -/
theorem Context.outcome_locate {t : TypeId} {r : TypeFacts} (known : s.Finds (Check.facts t) r)
    (enclosing : Option Declaration) :
    outcome (locate t r.symbol enclosing) s = .ok (r.locationBelow enclosing) := by
  have declared : r.symbol.bind Symbol.location? =
      (r.symbol.bind Symbol.declaration).map Checker.declarationLocation := by
    cases r.symbol <;> rfl
  rw [locate, TypeFacts.locationBelow, declared]
  cases r.symbol.bind Symbol.declaration with
  | some declaration => rfl
  | none =>
      dsimp only
      rw [outcome, run_bind, outcome, after, Checker.run_typeLocation? known]
      cases r.written? with
      | some location => rfl
      | none =>
          cases enclosing with
          | some declaration => rfl
          | none => exact outcome_bind_ok known

/-- What is met along a declared symbol is where the symbol is declared. -/
theorem State.Finds.locate_symbol {t : TypeId} {symbol : Symbol}
    {enclosing : Option Declaration} {location place : Location}
    (found : s.Finds (Context.locate t (some symbol) enclosing) location)
    (declared : symbol.location? = some place) : location = place := by
  obtain ⟨declaration, present, rfl⟩ := Option.map_eq_some_iff.1 declared
  simp only [Finds, Context.locate, Option.bind_some, present] at found
  cases found
  rfl

/-! ## Headers -/

/-- Headers that say the same about the type and its place. -/
structure Header.Agrees (header other : Header) : Prop where
  type : other.type = header.type
  path : other.filePath = header.filePath
  position : other.position = header.position

namespace Header

theorem IsAt.agrees {header other : Header} {location : Location}
    (located : header.IsAt location) (agrees : header.Agrees other) : other.IsAt location :=
  ⟨agrees.path.trans located.path, agrees.position.trans located.position⟩

/-- A header bears the same type after a change that only concerns defaults. -/
theorem Bears.agrees {header other : Header} {way : Way} {u : TypeId} {r : TypeFacts}
    (bears : header.Bears s way u r) (agrees : header.Agrees other) : other.Bears s way u r where
  known := bears.known
  type := by
    rw [agrees.type]
    exact bears.type
  located := bears.located.agrees agrees

end Header

namespace Node

theorem lists_mapHeader {u : TypeId} {node : Node} (f : Header → Header) :
    (node.mapHeader f).Lists plan s u ↔ node.Lists plan s u := by
  cases node <;> exact Iff.rfl

/-- A node with another header, which says where the type is if it is met in another way. -/
theorem Meets.mapHeader {way other : Way} {u : TypeId} {r : TypeFacts} {node : Node}
    (meets : node.Meets law plan s way u r) {f : Header → Header}
    (leads : other.IsOpen law plan s) (sameDeclaration : other.declaration = way.declaration)
    (sameType : (f node.header).type = node.header.type)
    (located : (f node.header).IsAt (other.location r)) :
    (node.mapHeader f).Meets law plan s other u r where
  leads := leads
  bears := by
    rw [header_mapHeader]
    refine ⟨meets.bears.known, ?_, located⟩
    rw [sameType]
    exact meets.bears.type
  expanded more := by
    rw [isExpanded_mapHeader] at more
    obtain ⟨admits, lists⟩ := meets.expanded more
    refine ⟨?_, (lists_mapHeader f).2 lists⟩
    unfold Plan.Admits
    rw [sameDeclaration]
    exact admits

/-- A change of a header that agrees with it changes nothing of what the node is for. -/
theorem Meets.agrees {way : Way} {u : TypeId} {r : TypeFacts} {node : Node}
    (meets : node.Meets law plan s way u r) {f : Header → Header}
    (agrees : node.header.Agrees (f node.header)) :
    (node.mapHeader f).Meets law plan s way u r :=
  meets.mapHeader meets.leads rfl agrees.type (meets.bears.located.agrees agrees)

/-- A node stands for what it did after a change of its header that only concerns defaults. -/
theorem Stands.agrees {node : Node} (stands : node.Stands law plan s) {f : Header → Header}
    (agrees : node.header.Agrees (f node.header)) : (node.mapHeader f).Stands law plan s := by
  cases stands with
  | met meets => exact .met (meets.agrees agrees)
  | rejected declared located =>
      exact .rejected declared fun location found => (located location found).agrees agrees
  | remnant leads known located => exact .remnant leads known (located.agrees agrees)

/-- A node is accounted for after a change of its header that only concerns defaults. -/
theorem IsAccounted.agrees {node : Node} (accounted : node.IsAccounted law plan s)
    {f : Header → Header} (agrees : node.header.Agrees (f node.header)) :
    (node.mapHeader f).IsAccounted law plan s :=
  accounted.mapHeader ((everywhere_iff.1 accounted).1.agrees agrees)

theorem isAccounted_reference {header : Header}
    (stands : (Node.reference header).Stands law plan s) :
    (Node.reference header).IsAccounted law plan s :=
  everywhere_of_leaf rfl stands

theorem Documents.isAccounted {way : Way} {t : TypeId} {node : Node}
    (documents : node.Documents law plan s way t) : node.IsAccounted law plan s := by
  obtain ⟨u, r, -, meets, below⟩ := documents
  exact everywhere_iff.2 ⟨.met meets, below⟩

theorem Documents.becomes {way : Way} {t : TypeId} {node : Node}
    (documents : node.Documents law plan s way t) : Becomes s way t (some node) := by
  obtain ⟨u, r, simple, meets, -⟩ := documents
  exact ⟨u, r, simple, meets.bears⟩

/-- The tree of a type that is met in another way, where the node of the type is elsewhere. -/
theorem Documents.mapHeader {way other : Way} {t : TypeId} {node : Node}
    (documents : node.Documents law plan s way t) {f : Header → Header}
    (leads : other.IsOpen law plan s) (sameDeclaration : other.declaration = way.declaration)
    (sameType : (f node.header).type = node.header.type)
    (located : ∀ r, (f node.header).IsAt (other.location r)) :
    (node.mapHeader f).Documents law plan s other t := by
  obtain ⟨u, r, simple, meets, below⟩ := documents
  refine ⟨u, r, simple, meets.mapHeader leads sameDeclaration sameType (located r), ?_⟩
  rw [children_mapHeader]
  exact below

/-! ## Defaults -/

/-- The node of a property, but for its default. -/
theorem agrees_takeDefault (defaults : Entries Value) (node : Node) :
    node.header.Agrees (node.takeDefault defaults).header := by
  unfold takeDefault
  split
  · rw [withDefault, header_mapHeader, header_pushDefaults]
    exact ⟨rfl, rfl, rfl⟩
  · rw [withDefault, header_mapHeader]
    exact ⟨rfl, rfl, rfl⟩
  · exact ⟨rfl, rfl, rfl⟩

theorem name_takeDefault (defaults : Entries Value) (node : Node) :
    (node.takeDefault defaults).header.name = node.header.name := by
  unfold takeDefault
  split
  · rw [withDefault, header_mapHeader, header_pushDefaults]
  · rw [withDefault, header_mapHeader]
  · rfl

/-- A reference stays one, whatever default it takes. -/
theorem takeDefault_reference (defaults : Entries Value) (header : Header) :
    ∃ value, takeDefault defaults (.reference header) =
      .reference { header with default := value } := by
  unfold takeDefault
  split
  · exact ⟨_, rfl⟩
  · exact ⟨_, rfl⟩
  · exact ⟨header.default, rfl⟩

end Node

/-- A default that is taken does not change what a type has become. -/
theorem Becomes.takeDefault {way : Way} {t : TypeId} {result : Option Node}
    (becomes : Becomes s way t result) (defaults : Entries Value) :
    Becomes s way t (result.map (Node.takeDefault defaults)) := by
  cases result with
  | none => exact becomes
  | some node =>
      obtain ⟨u, r, simple, bears⟩ := becomes
      exact ⟨u, r, simple, bears.agrees (node.agrees_takeDefault defaults)⟩

/-- A default that is taken does not change what a symbol shows. -/
theorem Shows.takeDefault {symbol : Symbol} {result : Option Node}
    (shows : Shows plan s symbol result) (defaults : Entries Value) :
    Shows plan s symbol (result.map (Node.takeDefault defaults)) := by
  cases shows with
  | @rejected _ _ header known rejects typed type name located =>
      obtain ⟨value, same⟩ := Node.takeDefault_reference defaults header
      rw [Option.map_some, same]
      exact .rejected known rejects typed type name fun location found =>
        (located location found).agrees ⟨rfl, rfl, rfl⟩
  | accepted known accepts typed becomes name =>
      refine .accepted known accepts typed (becomes.takeDefault defaults) fun node found => ?_
      obtain ⟨before, among, rfl⟩ := Option.map_eq_some_iff.1 found
      rw [Node.name_takeDefault]
      exact name before among

/-- Defaults that are pushed down leave the properties those of the symbols. -/
theorem ShowsAll.pushAllDefaults {symbols : List Symbol} {nodes : List Node}
    (shows : ShowsAll plan s symbols nodes) (defaults : Entries Value) :
    ShowsAll plan s symbols (Node.pushAllDefaults defaults nodes) := by
  obtain ⟨results, each, rfl⟩ := shows
  refine ⟨results.map (Option.map (Node.takeDefault defaults)), ?_, ?_⟩
  · rw [List.forall₂_map_right_iff]
    exact each.imp fun symbol result shows => shows.takeDefault defaults
  · rw [Node.pushAllDefaults_eq_map, List.map_filterMap, List.filterMap_map]
    rfl

/-- Defaults that are pushed do not change what a type contributes. -/
theorem Contributes.pushAllDefaults {t : TypeId} {nodes : List Node}
    (contributes : Contributes plan s t nodes) (defaults : Entries Value) :
    Contributes plan s t (Node.pushAllDefaults defaults nodes) := by
  cases contributes with
  | flattened flat simple known unnamed listed shows =>
      exact .flattened flat simple known unnamed listed (shows.pushAllDefaults defaults)
  | @nested result whole becomes =>
      have nested := Contributes.nested whole (becomes.takeDefault defaults)
      rwa [Node.pushAllDefaults_eq_map, ← Option.toList_map]

namespace Node

theorem Lists.pushDefaults {u : TypeId} {node : Node} (lists : node.Lists plan s u)
    (defaults : Entries Value) : (node.pushDefaults defaults).Lists plan s u := by
  cases node with
  | object header properties indexes =>
      obtain ⟨symbols, found, shows⟩ := lists
      exact ⟨symbols, found, shows.pushAllDefaults defaults⟩
  | intersection header properties =>
      obtain ⟨members, chunks, found, each, rfl⟩ := lists
      refine ⟨members, chunks.map (pushAllDefaults defaults), found, ?_, ?_⟩
      · rw [List.forall₂_map_right_iff]
        exact each.imp fun member nodes contributes => contributes.pushAllDefaults defaults
      · have mapped : pushAllDefaults defaults = List.map (takeDefault defaults) :=
          funext (pushAllDefaults_eq_map defaults)
        rw [mapped, List.map_flatten]
  | _ => exact lists

theorem Meets.ignoresDefaults (way : Way) (u : TypeId) (r : TypeFacts) :
    IgnoresDefaults (Meets law plan s way u r) where
  withDefault _ meets := meets.agrees ⟨rfl, rfl, rfl⟩
  pushDefaults {node} defaults meets := by
    refine ⟨meets.leads, ?_, fun more => ?_⟩
    · rw [header_pushDefaults]
      exact meets.bears
    · have before : node.isExpanded = true := by
        cases node with
        | reference header => exact more
        | primitive header value => exact more
        | _ => rfl
      exact ⟨(meets.expanded before).1, (meets.expanded before).2.pushDefaults defaults⟩

theorem Stands.ignoresDefaults : IgnoresDefaults (Stands law plan s) where
  withDefault _ stands := stands.agrees ⟨rfl, rfl, rfl⟩
  pushDefaults defaults stands := by
    cases stands with
    | met meets => exact .met ((Meets.ignoresDefaults _ _ _).pushDefaults defaults meets)
    | rejected declared located => exact .rejected declared located
    | remnant leads known located => exact .remnant leads known located

/-- A default that is assigned does not change what a node documents. -/
theorem Documents.assignDefault {way : Way} {t : TypeId} {node : Node}
    (documents : node.Documents law plan s way t) (value : Value) :
    (node.assignDefault value).Documents law plan s way t := by
  obtain ⟨u, r, simple, meets, below⟩ := documents
  exact ⟨u, r, simple, (Meets.ignoresDefaults _ _ _).assignDefault value meets,
    Stands.ignoresDefaults.below_assignDefault value node below⟩

end Node

end TypeGloss
