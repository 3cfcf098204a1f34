/-
# TypeGloss.Proofs.Resolution.Privacy — where private members are shown

A class can be told to leave out the members that are for itself alone: those that are declared
private and those whose names start with a number sign. The setting concerns the node of a class
and nothing else. A type whose properties are those of a class, such as a partial or a mapped
one or an interface that extends the class, is an object, and an object lists all properties
that the checker finds.

`resolveDeclaration_private` says where private members are to be found in a tree if the setting
is off: in no list of a class, but in the list of every object that has them, and nowhere else.
-/
import TypeGloss.Proofs.Resolution.Making

namespace TypeGloss

set_option autoImplicit false

/-! ## Lists of properties -/

/-- Is a node marked private, or does its name start with a number sign? -/
def Header.IsPrivate (header : Header) : Prop :=
  header.visibility = some .toOwner ∨ ∃ name ∈ header.name, Text.startsWith "#" name = true

/-- Is a method or an accessor marked private, or does its name start with a number sign? -/
def MemberHeader.IsPrivate (header : MemberHeader) : Prop :=
  header.visibility = some .toOwner ∨ Text.startsWith "#" header.name = true

section Lists

variable {plan : Plan} {s : State}

/-- What a list of properties says of one of them: its name if the filter rejects it, and
otherwise its name and its visibility, unless nothing is left of its type. -/
inductive Entry (plan : Plan) (s : State) (symbol : Symbol) : Option Node → Prop where
  | rejected {metadata : Metadata} {header : Header}
      (known : s.Finds (Metadata.ofSymbol symbol none) metadata)
      (rejects : plan.accepts metadata = false) (named : header.name = symbol.ownName?)
      (unmarked : header.visibility = none) : Entry plan s symbol (some (.reference header))
  | gone {metadata : Metadata} {t : TypeId}
      (known : s.Finds (Metadata.ofSymbol symbol none) metadata)
      (accepts : plan.accepts metadata = true) (typed : s.Finds (Checker.typeOfSymbol symbol) t)
      (nothing : s.Finds (Checker.simplified t) none) : Entry plan s symbol none
  | shown {metadata : Metadata} {node : Node}
      (known : s.Finds (Metadata.ofSymbol symbol none) metadata)
      (accepts : plan.accepts metadata = true) (named : node.header.name = symbol.name)
      (marked : node.header.visibility = symbol.visibility) : Entry plan s symbol (some node)

/-- The entries for properties, one after the other. -/
def AreEntries (plan : Plan) (s : State) (symbols : List Symbol) (nodes : List Node) : Prop :=
  ∃ results, List.Forall₂ (Entry plan s) symbols results ∧ nodes = results.filterMap id

/-- What the list of an intersection has for a constituent: the entries for its properties if it
is laid out flat, and otherwise at most one node, which is no property. -/
inductive Share (plan : Plan) (s : State) (t : TypeId) : List Node → Prop where
  | flat {symbols : List Symbol} {nodes : List Node}
      (flattened : s.Finds (Builder.isFlattened plan t) true)
      (listed : s.Finds (Checker.properties t) symbols)
      (entries : AreEntries plan s symbols nodes) : Share plan s t nodes
  | whole {result : Option Node} (nested : s.Finds (Builder.isFlattened plan t) false)
      (unmarked : ∀ node ∈ result, node.header.visibility = none) :
      Share plan s t result.toList

/-- The name and the visibility of a method or an accessor are those of its symbol. -/
structure MemberHeader.Marks (header : MemberHeader) (symbol : Symbol) : Prop where
  name : header.name = symbol.name.getD ""
  visibility : header.visibility = symbol.visibility

namespace Node

/-- What a node lists is what the checker tells of its type: all properties of an object, and
of a class the members that are documented. -/
def Discloses (plan : Plan) (s : State) : Node → Prop
  | object header properties _ =>
      ∃ u symbols, s.Finds (Checker.text u) header.type ∧
        s.Finds (Checker.properties u) symbols ∧ AreEntries plan s symbols properties
  | intersection header properties =>
      ∃ u members chunks, s.Finds (Checker.text u) header.type ∧
        s.Finds (Checker.intersectionMembers u) members ∧
        List.Forall₂ (Share plan s) members chunks ∧ properties = chunks.flatten
  | classType header properties methods accessors _ =>
      ∃ u symbols, s.Finds (Checker.text u) header.type ∧
        s.Finds (Checker.classMembers u) symbols ∧
        AreEntries plan s (plan.shown [.property] symbols) properties ∧
        List.Forall₂ (fun symbol method => method.header.Marks symbol)
          (plan.shown [.method] symbols) methods ∧
        List.Forall₂ (fun symbol accessor => accessor.header.Marks symbol)
          (plan.shown [.getter, .setter] symbols) (accessors.getD [])
  | _ => True

/-- A node that lists what the checker tells, and below which nothing else is marked. -/
structure IsCandid (plan : Plan) (s : State) (node : Node) : Prop where
  discloses : node.Discloses plan s
  unmarked : ∀ child ∈ node.unlisted, child.header.visibility = none

/-- A node without a mark, all of whose tree is candid. -/
structure IsClear (plan : Plan) (s : State) (node : Node) : Prop where
  unmarked : node.header.visibility = none
  candid : node.Everywhere (IsCandid plan s)

/-! ### Headers and defaults -/

/-- A header of the same type leaves a node candid. -/
theorem IsCandid.mapHeader {node : Node} (candid : node.IsCandid plan s) {f : Header → Header}
    (sameType : (f node.header).type = node.header.type) :
    (node.mapHeader f).IsCandid plan s := by
  obtain ⟨discloses, unmarked⟩ := candid
  cases node with
  | object | intersection | classType =>
      refine ⟨?_, unmarked⟩
      simp only [header] at sameType
      simpa only [Node.mapHeader, Discloses, sameType] using discloses
  | _ => exact ⟨trivial, unmarked⟩

theorem takeDefault_header (defaults : Entries Value) (node : Node) :
    ∃ value, (node.takeDefault defaults).header = { node.header with default := value } := by
  unfold takeDefault
  split
  · exact ⟨_, by rw [withDefault, header_mapHeader, header_pushDefaults]⟩
  · exact ⟨_, by rw [withDefault, header_mapHeader]⟩
  · exact ⟨_, rfl⟩

end Node

/-- A default that is taken does not change whom an entry is for. -/
theorem Entry.takeDefault {symbol : Symbol} {result : Option Node}
    (entry : Entry plan s symbol result) (defaults : Entries Value) :
    Entry plan s symbol (result.map (Node.takeDefault defaults)) := by
  cases entry with
  | @rejected _ header known rejects named unmarked =>
      obtain ⟨value, same⟩ := Node.takeDefault_reference defaults header
      rw [Option.map_some, same]
      exact .rejected known rejects named unmarked
  | gone known accepts typed nothing => exact .gone known accepts typed nothing
  | @shown _ node known accepts named marked =>
      obtain ⟨value, same⟩ := node.takeDefault_header defaults
      exact .shown known accepts (by rw [same]; exact named) (by rw [same]; exact marked)

/-- Defaults that are taken leave the entries those of the symbols. -/
theorem AreEntries.takeDefaults {symbols : List Symbol} {nodes : List Node}
    (entries : AreEntries plan s symbols nodes) (defaults : Entries Value) :
    AreEntries plan s symbols (nodes.map (Node.takeDefault defaults)) := by
  obtain ⟨results, each, rfl⟩ := entries
  refine ⟨results.map (Option.map (Node.takeDefault defaults)), ?_, ?_⟩
  · rw [List.forall₂_map_right_iff]
    exact each.imp fun _ _ entry => entry.takeDefault defaults
  · rw [List.map_filterMap, List.filterMap_map]
    rfl

/-- Defaults that are taken do not change what is a type's share. -/
theorem Share.takeDefaults {t : TypeId} {nodes : List Node} (share : Share plan s t nodes)
    (defaults : Entries Value) :
    Share plan s t (nodes.map (Node.takeDefault defaults)) := by
  cases share with
  | flat flattened listed entries => exact .flat flattened listed (entries.takeDefaults defaults)
  | @whole result nested unmarked =>
      rw [← Option.toList_map]
      refine .whole nested fun node found => ?_
      obtain ⟨before, among, rfl⟩ := Option.map_eq_some_iff.1 found
      obtain ⟨value, same⟩ := before.takeDefault_header defaults
      rw [same]
      exact unmarked before among

namespace Node

theorem IsCandid.ignoresDefaults : IgnoresDefaults (IsCandid plan s) where
  withDefault _ candid := candid.mapHeader rfl
  pushDefaults {node} defaults candid := by
    obtain ⟨discloses, unmarked⟩ := candid
    cases node with
    | object header properties indexes =>
        obtain ⟨u, symbols, type, found, entries⟩ := discloses
        refine ⟨⟨u, symbols, type, found, ?_⟩, unmarked⟩
        rw [pushAllDefaults_eq_map]
        exact entries.takeDefaults defaults
    | intersection header properties =>
        obtain ⟨u, members, chunks, type, found, each, rfl⟩ := discloses
        refine ⟨⟨u, members, chunks.map (List.map (takeDefault defaults)), type, found, ?_, ?_⟩,
          unmarked⟩
        · rw [List.forall₂_map_right_iff]
          exact each.imp fun _ _ share => share.takeDefaults defaults
        · rw [pushAllDefaults_eq_map, List.map_flatten]
    | _ => exact ⟨discloses, unmarked⟩

/-- An attached default is of no concern to what ignores defaults. -/
theorem Everywhere.attach {P : Node → Prop} (ignores : IgnoresDefaults P) {node : Node}
    (everywhere : node.Everywhere P) (value : Option Value) : (node.attach value).Everywhere P := by
  cases value with
  | none => exact everywhere
  | some value =>
      obtain ⟨here, below⟩ := everywhere_iff.1 everywhere
      exact everywhere_iff.2
        ⟨ignores.assignDefault value here, ignores.below_assignDefault value node below⟩

theorem header_attach (value : Option Value) (node : Node) :
    ∃ default, (node.attach value).header = { node.header with default := default } := by
  cases value with
  | none => exact ⟨_, rfl⟩
  | some value => exact ⟨_, node.header_assignDefault value⟩

namespace IsClear

variable {node : Node} (clears : node.IsClear plan s)

include clears

/-- A change of a header that keeps type and visibility leaves the node clear. -/
theorem mapHeader {f : Header → Header} (sameType : (f node.header).type = node.header.type)
    (sameVisibility : (f node.header).visibility = node.header.visibility) :
    (node.mapHeader f).IsClear plan s where
  unmarked := by
    rw [header_mapHeader, sameVisibility]
    exact clears.unmarked
  candid := clears.candid.mapHeader ((everywhere_iff.1 clears.candid).1.mapHeader sameType)

theorem attach (value : Option Value) : (node.attach value).IsClear plan s where
  unmarked := by
    obtain ⟨default, same⟩ := header_attach value node
    rw [same]
    exact clears.unmarked
  candid := clears.candid.attach IsCandid.ignoresDefaults value

end IsClear

/-- A reference that is not marked is clear. -/
theorem isClear_reference {header : Header} (unmarked : header.visibility = none) :
    (Node.reference header).IsClear plan s :=
  ⟨unmarked, everywhere_of_leaf rfl ⟨trivial, by simp [unlisted, children]⟩⟩

end Node

/-- Nodes that are there are clear if every result is. -/
theorem isClear_filterMap {α : Type} {Q : α → Option Node → Prop} {items : List α}
    {results : List (Option Node)} (each : List.Forall₂ Q items results)
    (made : ∀ {item result}, Q item result → ∀ node ∈ result, node.IsClear plan s) :
    ∀ node ∈ results.filterMap id, node.IsClear plan s := by
  intro node among
  obtain ⟨result, member, found⟩ := List.mem_filterMap.1 among
  obtain ⟨item, -, holds⟩ := exists_of_mem_right each member
  exact made holds node found

/-- The nodes of all parts are clear if those of each part are. -/
theorem isClear_flatMap {α β : Type} {Q : α → β → Prop} {items : List α} {parts : List β}
    {nodes : β → List Node} (each : List.Forall₂ Q items parts)
    (made : ∀ {item part}, Q item part → ∀ node ∈ nodes part, node.IsClear plan s) :
    ∀ node ∈ parts.flatMap nodes, node.IsClear plan s := by
  intro node among
  obtain ⟨part, member, inside⟩ := List.mem_flatMap.1 among
  obtain ⟨item, -, holds⟩ := exists_of_mem_right each member
  exact made holds node inside

/-! ## Builders -/

namespace Made

/-- Types below that are resolved to clear nodes, and to nothing only if nothing is left of
them. -/
structure Clears (plan : Plan) (s : State) (below : Below) : Prop where
  gone : ∀ {t : TypeId} {enclosing : Option Declaration}, below t enclosing none →
    s.Finds (Checker.simplified t) none
  node : ∀ {t : TypeId} {enclosing : Option Declaration} {result : Option Node},
    below t enclosing result → ∀ node ∈ result, node.IsClear plan s

section Parts

variable {below : Below} (clears : Clears plan s below)

include clears

/-- A property is an entry of its symbol, and all in it is candid. -/
theorem Property.entry {symbol : Symbol} {result : Option Node}
    (made : Property plan s below symbol result) :
    Entry plan s symbol result ∧ ∀ node ∈ result, node.Everywhere (Node.IsCandid plan s) := by
  cases made with
  | rejected known typed rejects written located =>
      refine ⟨.rejected known rejects known.metadata.name rfl, ?_⟩
      rintro _ ⟨⟩
      exact (Node.isClear_reference rfl).candid
  | gone known typed accepts nothing =>
      exact ⟨.gone known accepts typed (clears.gone nothing), by simp⟩
  | @shown metadata t node value known typed accepts inside given =>
      have plain := clears.node inside node rfl
      obtain ⟨default, same⟩ :=
        (node.mapHeader (Builder.propertyHeader symbol metadata)).header_attach value
      rw [Node.header_mapHeader] at same
      refine ⟨.shown known accepts ?_ ?_, ?_⟩
      · rw [same]
        rfl
      · rw [same]
        simp [Builder.propertyHeader, plain.unmarked]
      · rintro _ ⟨⟩
        have here := (Node.everywhere_iff.1 plain.candid).1
        exact (plain.candid.mapHeader (here.mapHeader rfl)).attach Node.IsCandid.ignoresDefaults _

/-- The properties of a type are entries of its symbols, with candid nodes inside. -/
theorem Properties.entries {symbols : List Symbol}
    {nodes : List Node} (made : Properties plan s below symbols nodes) :
    AreEntries plan s symbols nodes ∧ ∀ node ∈ nodes, node.Everywhere (Node.IsCandid plan s) := by
  obtain ⟨each⟩ := made
  refine ⟨⟨_, each.imp fun _ _ made => (made.entry clears).1, rfl⟩, fun node among => ?_⟩
  obtain ⟨result, member, found⟩ := List.mem_filterMap.1 among
  obtain ⟨symbol, -, made⟩ := exists_of_mem_right each member
  exact (made.entry clears).2 node found

/-! ### Parts without properties -/

theorem Parameter.isClear {symbol : Symbol} {result : Option Node}
    (made : Parameter s below symbol result) : ∀ node ∈ result, node.IsClear plan s := by
  cases made with
  | gone => simp
  | shown typed inside given =>
      rintro _ ⟨⟩
      exact ((clears.node inside _ rfl).mapHeader rfl rfl).attach _

theorem Signature.isClear {call : CallSignature} {signature : TypeGloss.Signature}
    (made : Signature s below call signature) : ∀ node ∈ signature.nodes, node.IsClear plan s := by
  obtain ⟨each, -⟩ := made
  exact isClear_filterMap each fun made => made.isClear clears

theorem ComponentSignature.isClear {call : CallSignature}
    {signature : TypeGloss.ComponentSignature} (made : ComponentSignature s below call signature) :
    ∀ node ∈ signature.nodes, node.IsClear plan s := by
  cases made with
  | props takes made returns =>
      exact fun node among => made.isClear clears node (Option.mem_toList.1 among)
  | bare => simp [TypeGloss.ComponentSignature.nodes]

theorem Kept.isClear {context : Context} {t : TypeId} {node : Node}
    (made : Kept s below context t node) : node.IsClear plan s := by
  cases made with
  | gone => exact Node.isClear_reference rfl
  | shown inside => exact clears.node inside node rfl

theorem Index.isClear {context : Context} {entry : IndexEntry} {index : IndexSignature}
    (made : Index s below context entry index) : ∀ node ∈ index.nodes, node.IsClear plan s := by
  obtain ⟨keyed, valued⟩ := made
  simp only [IndexSignature.nodes, List.mem_cons, List.not_mem_nil, or_false]
  rintro node (rfl | rfl)
  · exact (keyed.isClear clears).mapHeader rfl rfl
  · exact valued.isClear clears

theorem Item.isClear {item : TupleItem} {result : Option Node} (made : Item below item result) :
    ∀ node ∈ result, node.IsClear plan s := by
  obtain ⟨inside⟩ := made
  intro node found
  obtain ⟨before, among, rfl⟩ := Option.map_eq_some_iff.1 found
  exact (clears.node inside before among).mapHeader rfl rfl

/-- A method marks its symbol, and all nodes of it are clear. -/
theorem Method.isClear {symbol : Symbol} {method : TypeGloss.Method}
    (made : Method s below symbol method) :
    method.header.Marks symbol ∧ ∀ node ∈ method.nodes, node.IsClear plan s := by
  obtain ⟨-, -, -, each, -⟩ := made
  exact ⟨⟨rfl, rfl⟩, isClear_flatMap each fun made => made.isClear clears⟩

theorem Accessor.isClear {symbol : Symbol} {accessor : TypeGloss.Accessor}
    (made : Accessor s below symbol accessor) :
    accessor.header.Marks symbol ∧ ∀ node ∈ accessor.nodes, node.IsClear plan s := by
  cases made with
  | getter => exact ⟨⟨rfl, rfl⟩, by simp [TypeGloss.Accessor.nodes]⟩
  | setter typed called known sets given =>
      refine ⟨⟨rfl, rfl⟩, fun node among => ?_⟩
      have found := Option.mem_toList.1 among
      cases given with
      | absent => cases found
      | present takes made => exact made.isClear clears node found

/-! ### Nodes -/

omit clears in
/-- A node is clear that is not marked, discloses its properties, and below which all is candid and
nothing but the properties marked. -/
theorem isClear_of {node : Node} (unmarked : node.header.visibility = none)
    (discloses : node.Discloses plan s)
    (listed : ∀ child ∈ node.listed, child.Everywhere (Node.IsCandid plan s))
    (unlisted : ∀ child ∈ node.unlisted, child.IsClear plan s) : node.IsClear plan s := by
  refine ⟨unmarked, Node.everywhere_iff.2
    ⟨⟨discloses, fun child among => (unlisted child among).unmarked⟩, fun child among => ?_⟩⟩
  rcases Node.mem_children_iff.1 among with property | other
  · exact listed child property
  · exact (unlisted child other).candid

theorem Callable.isClear {t : TypeId} {context : Context} {node : Node}
    (made : Callable plan s below t context node) : node.IsClear plan s := by
  cases made with
  | component called categorized fits each =>
      exact isClear_of rfl trivial nofun (isClear_flatMap each fun made => made.isClear clears)
  | function called categorized misfits each =>
      exact isClear_of rfl trivial nofun (isClear_flatMap each fun made => made.isClear clears)

/-- An object type lists entries of its properties, and all below it is clear. -/
theorem Object.isClear {t : TypeId} {context : Context} {node : Node}
    (texted : s.Finds (Checker.text t) context.text) (made : Object plan s below t context node) :
    node.IsClear plan s := by
  obtain ⟨indexed, each, listed, shown⟩ := made
  obtain ⟨entries, candid⟩ := shown.entries clears
  refine isClear_of rfl ⟨t, _, texted, listed, entries⟩ candid ?_
  simp only [Node.unlisted, Builder.getD_nonempty]
  exact isClear_flatMap each fun made => made.isClear clears

/-- A constituent shares its properties with the intersection, or stands by itself. -/
theorem Constituent.share {t : TypeId} {nodes : List Node}
    (made : Constituent plan s below t nodes) :
    Share plan s t nodes ∧ ∀ node ∈ nodes, node.Everywhere (Node.IsCandid plan s) := by
  cases made with
  | flattened flat simple known isObject unnamed listed apparent shown =>
      obtain ⟨entries, candid⟩ := shown.entries clears
      exact ⟨.flat flat listed entries, candid⟩
  | nested whole inside =>
      have each := clears.node inside
      exact ⟨.whole whole fun node found => (each node found).unmarked,
        fun node among => (each node (Option.mem_toList.1 among)).candid⟩

theorem Intersection.isClear {t : TypeId} {context : Context} {node : Node}
    (texted : s.Finds (Checker.text t) context.text)
    (made : Intersection plan s below t context node) : node.IsClear plan s := by
  obtain ⟨joined, each⟩ := made
  have shares := each.imp fun _ _ made => (made.share clears).1
  refine isClear_of rfl ⟨t, _, _, texted, joined, shares, rfl⟩ (fun child among => ?_) nofun
  obtain ⟨chunk, member, inside⟩ := List.mem_flatten.1 among
  obtain ⟨member, -, made⟩ := exists_of_mem_right each member
  exact (made.share clears).2 child inside

/-- A class lists entries of its members, and all below it is clear. -/
theorem Class.isClear {t : TypeId} {context : Context} {node : Node}
    (texted : s.Finds (Checker.text t) context.text) (made : Class plan s below t context node) :
    node.IsClear plan s := by
  obtain ⟨listed, members, constructed, each⟩ := made
  obtain ⟨entries, candid⟩ := members.properties.entries clears
  have methods := members.methods.imp fun _ _ made => (made.isClear clears).1
  have accessors := members.accessors.imp fun _ _ made => (made.isClear clears).1
  refine isClear_of rfl ⟨t, _, texted, listed, entries, methods, ?_⟩ candid ?_
  · rw [Builder.getD_nonempty]
    exact accessors
  · simp only [Node.unlisted, Builder.getD_nonempty, List.mem_append]
    rintro child ((inMethod | inAccessor) | inConstructor)
    · exact isClear_flatMap members.methods (fun made => (made.isClear clears).2) child inMethod
    · exact isClear_flatMap members.accessors (fun made => (made.isClear clears).2) child inAccessor
    · exact isClear_flatMap each (fun made => made.isClear clears) child inConstructor

theorem Expanded.isClear {t : TypeId} {context : Context} {category : Category} {node : Node}
    (texted : s.Finds (Checker.text t) context.text)
    (made : Expanded plan s below t context category node) : node.IsClear plan s := by
  cases category with
  | object =>
      cases made with
      | object listed uncalled made => exact made.isClear clears texted
      | callable listed called some made => exact made.isClear clears
  | union =>
      obtain ⟨joined, each⟩ := made
      exact isClear_of rfl trivial nofun (isClear_filterMap each clears.node)
  | intersection => exact Intersection.isClear clears texted made
  | array =>
      cases made with
      | element known kept =>
          refine isClear_of rfl trivial nofun fun child among => ?_
          obtain rfl := List.mem_singleton.1 among
          exact kept.isClear clears
      | unknown absent =>
          refine isClear_of rfl trivial nofun fun child among => ?_
          obtain rfl := List.mem_singleton.1 among
          exact Node.isClear_reference rfl
  | tuple =>
      obtain ⟨joined, each⟩ := made
      exact isClear_of rfl trivial nofun (isClear_filterMap each fun made => made.isClear clears)
  | function => exact Callable.isClear clears made
  | classType => exact Class.isClear clears texted made
  | enum =>
      obtain ⟨listed⟩ := made
      exact isClear_of rfl trivial nofun nofun
  | generic =>
      obtain ⟨applied, each, named⟩ := made
      refine isClear_of rfl trivial nofun fun child among => ?_
      obtain ⟨arg, -, kept⟩ := exists_of_mem_right each among
      exact kept.isClear clears
  | primitive | literal | named | computed =>
      cases made
      exact Node.isClear_reference rfl

end Parts

/-! ### Resolutions -/

/-- What is visited is clear if what is descended into is. -/
theorem Visited.clears {descends : TypeId → Category → Context → Node → Prop}
    (each : ∀ {u category context node}, s.Finds (Checker.text u) context.text →
      descends u category context node → node.IsClear plan s) :
    Clears plan s (Visited plan s descends) where
  gone made := by
    cases made with
    | gone simple => exact simple
  node made := by
    cases made with
    | gone => simp
    | leaf simple sort met leaf made =>
        rintro _ ⟨⟩
        cases made with
        | keyword | literal => exact isClear_of rfl trivial nofun nofun
    | rejected =>
        rintro _ ⟨⟩
        exact Node.isClear_reference rfl
    | expanded simple sort met inner passes made =>
        rintro _ ⟨⟩
        exact each met.contextText made

theorem Resolved.clears (plan : Plan) (s : State) (cuts : Prop) (remaining : Nat) :
    Clears plan s (Resolved plan s cuts remaining) := by
  induction remaining with
  | zero =>
      refine Visited.clears fun _ made => ?_
      obtain ⟨-, rfl⟩ := made
      exact Node.isClear_reference rfl
  | succ fewer ih =>
      refine Visited.clears fun texted made => ?_
      cases made with
      | cut => exact Node.isClear_reference rfl
      | expanded made => exact Expanded.isClear ih texted made

end Made

/-! ## Trees -/

/-- A hidden member is private or has a name with a hash in front. -/
theorem isShown_iff {symbol : Symbol} (hides : plan.settings.includePrivateMembers = false) :
    Builder.isShown plan symbol = true ↔ symbol.visibility ≠ some .toOwner ∧
      Text.startsWith "#" (symbol.name.getD "") = false := by
  simp [Builder.isShown, hides]

/-- What is shown is visible under the plan. -/
theorem isShown_of_mem_shown {kinds : List MemberKind} {symbols : List Symbol} {symbol : Symbol}
    (among : symbol ∈ plan.shown kinds symbols) : Builder.isShown plan symbol = true := by
  simp only [Plan.shown, List.mem_filter, Bool.and_eq_true] at among
  exact among.2.1

/-- The entry for a member that a class shows is not private. -/
theorem Entry.not_isPrivate (hides : plan.settings.includePrivateMembers = false)
    {symbol : Symbol} (visible : Builder.isShown plan symbol = true) {node : Node}
    (entry : Entry plan s symbol (some node)) : ¬ node.header.IsPrivate := by
  obtain ⟨unowned, plain⟩ := (isShown_iff hides).1 visible
  have unhashed (name : String) (given : symbol.name = some name) :
      Text.startsWith "#" name ≠ true := by simpa [given] using plain
  cases entry with
  | rejected known rejects named unmarked =>
      rintro (owned | ⟨name, isName, hash⟩)
      · simp [Node.header, unmarked] at owned
      · obtain ⟨given, -⟩ : symbol.name = some name ∧ _ := by
          simpa [Node.header, named, Symbol.ownName?, Option.filter_eq_some_iff] using isName
        exact unhashed name given hash
  | shown known accepts named marked =>
      rintro (owned | ⟨name, isName, hash⟩)
      · exact unowned (marked.symm.trans owned)
      · exact unhashed name (named.symm.trans isName) hash

/-- A member that is shown is not private. -/
theorem MemberHeader.Marks.not_isPrivate (hides : plan.settings.includePrivateMembers = false)
    {symbol : Symbol} (visible : Builder.isShown plan symbol = true) {header : MemberHeader}
    (marks : header.Marks symbol) : ¬ header.IsPrivate := by
  obtain ⟨unowned, plain⟩ := (isShown_iff hides).1 visible
  rintro (owned | hash)
  · exact unowned (marks.visibility.symm.trans owned)
  · rw [marks.name, plain] at hash
    cases hash

/-- The entries of a list, each for one of the properties. -/
theorem AreEntries.exists_of_mem {symbols : List Symbol} {nodes : List Node}
    (entries : AreEntries plan s symbols nodes) {node : Node} (among : node ∈ nodes) :
    ∃ symbol ∈ symbols, Entry plan s symbol (some node) := by
  obtain ⟨results, each, rfl⟩ := entries
  obtain ⟨result, member, found⟩ := List.mem_filterMap.1 among
  obtain rfl : result = some node := found
  exact exists_of_mem_right each member

/-- An entry that is marked has the name and the mark of its property. -/
theorem Entry.marks {symbol : Symbol} {node : Node} (entry : Entry plan s symbol (some node))
    (marked : node.header.visibility ≠ none) :
    node.header.name = symbol.name ∧ node.header.visibility = symbol.visibility := by
  cases entry with
  | rejected known rejects named unmarked => exact absurd unmarked marked
  | shown known accepts named same => exact ⟨named, same⟩

/-- A node is among the properties of an object, or of an intersection in which an object is laid
out flat, and the object has the symbol as a property. -/
inductive Node.Exposes (plan : Plan) (s : State) (symbol : Symbol) : Node → Node → Prop where
  | object {header : Header} {properties : List Node} {indexes : Option (List IndexSignature)}
      {u : TypeId} {symbols : List Symbol} {child : Node}
      (type : s.Finds (Checker.text u) header.type)
      (found : s.Finds (Checker.properties u) symbols) (among : symbol ∈ symbols)
      (inside : child ∈ properties) :
      Exposes plan s symbol (.object header properties indexes) child
  | constituent {header : Header} {properties : List Node} {u t : TypeId} {members : List TypeId}
      {symbols : List Symbol} {child : Node} (type : s.Finds (Checker.text u) header.type)
      (joined : s.Finds (Checker.intersectionMembers u) members) (member : t ∈ members)
      (flattened : s.Finds (Builder.isFlattened plan t) true)
      (found : s.Finds (Checker.properties t) symbols) (among : symbol ∈ symbols)
      (inside : child ∈ properties) :
      Exposes plan s symbol (.intersection header properties) child

/-- A class that leaves private members out has none in its lists. -/
theorem Node.IsCandid.classType (hides : plan.settings.includePrivateMembers = false)
    {header : Header} {properties : List Node} {methods : List Method}
    {accessors : Option (List Accessor)} {constructors : Option (List Signature)}
    (candid : (Node.classType header properties methods accessors constructors).IsCandid plan s) :
    (∀ node ∈ properties, ¬ node.header.IsPrivate) ∧
      (∀ method ∈ methods, ¬ method.header.IsPrivate) ∧
        ∀ accessor ∈ accessors.getD [], ¬ accessor.header.IsPrivate := by
  obtain ⟨u, symbols, -, -, inProperties, inMethods, inAccessors⟩ := candid.discloses
  refine ⟨fun node among => ?_, fun method among => ?_, fun accessor among => ?_⟩
  · obtain ⟨symbol, member, entry⟩ := inProperties.exists_of_mem among
    exact entry.not_isPrivate hides (isShown_of_mem_shown member)
  · obtain ⟨symbol, member, marks⟩ := exists_of_mem_right inMethods among
    exact marks.not_isPrivate hides (isShown_of_mem_shown member)
  · obtain ⟨symbol, member, marks⟩ := exists_of_mem_right inAccessors among
    exact marks.not_isPrivate hides (isShown_of_mem_shown member)

/-- A private node just below another is exposed by it, if classes leave private members out. -/
theorem Node.IsCandid.exposes (hides : plan.settings.includePrivateMembers = false)
    {parent child : Node} (candid : parent.IsCandid plan s) (below : child ∈ parent.children)
    (owned : child.header.visibility = some .toOwner) :
    ∃ symbol, parent.Exposes plan s symbol child ∧ child.header.name = symbol.name ∧
      symbol.visibility = some .toOwner := by
  have marked : child.header.visibility ≠ none := by simp [owned]
  rcases Node.mem_children_iff.1 below with inside | other
  swap
  · exact absurd (candid.unmarked child other) marked
  cases parent with
  | object header properties indexes =>
      obtain ⟨u, symbols, type, found, entries⟩ := candid.discloses
      obtain ⟨symbol, among, entry⟩ := entries.exists_of_mem inside
      obtain ⟨named, same⟩ := entry.marks marked
      exact ⟨symbol, .object type found among inside, named, same.symm.trans owned⟩
  | intersection header properties =>
      obtain ⟨u, members, chunks, type, joined, shares, rfl⟩ := candid.discloses
      obtain ⟨chunk, isChunk, inChunk⟩ := List.mem_flatten.1 inside
      obtain ⟨t, member, share⟩ := exists_of_mem_right shares isChunk
      cases share with
      | flat flattened found entries =>
          obtain ⟨symbol, among, entry⟩ := entries.exists_of_mem inChunk
          obtain ⟨named, same⟩ := entry.marks marked
          exact ⟨symbol, .constituent type joined member flattened found among inside, named,
            same.symm.trans owned⟩
      | whole nested unmarked =>
          exact absurd (unmarked child (Option.mem_toList.1 inChunk)) marked
  | classType header properties methods accessors constructors =>
      exact absurd (.inl owned) ((candid.classType hides).1 child inside)
  | _ => cases inside

/-- A resolved tree is clear for the state that the resolution leaves. -/
theorem Resolution.resolveType_isClear {t : TypeId} {declaration : Option Declaration}
    (lawful : s.Lawful .free) {tree : Node}
    (returned : outcome (Resolution.resolveType plan t declaration) s = .ok (some tree)) :
    tree.IsClear plan (after (Resolution.resolveType plan t declaration) s) := by
  obtain ⟨node, made, rfl⟩ := Resolution.resolveType_made lawful returned (.refl _)
  have clear := (Made.Resolved.clears plan _ True _).node made node rfl
  cases declaration with
  | none => exact clear
  | some known => exact clear.mapHeader rfl rfl

end Lists

/-! ### A class with a field for itself alone

The class `class C { #x = 1 }`, of which private members are left out. -/

namespace HashedField

def path : String := "a.ts"

/-- A node of the source, which has one line. -/
def piece (kind text : String) (start stop : Nat) (field : Option String)
    (children : List Tree) : Tree :=
  .node ⟨kind, text, start, stop, ⟨0, start⟩, ⟨0, stop⟩, true, false, field⟩ children

def field : Tree :=
  piece "public_field_definition" "#x = 1" 10 16 none
    [piece "private_property_identifier" "#x" 10 12 (some "name") [],
      piece "number" "1" 15 16 (some "value") []]

def body : Tree := piece "class_body" "{ #x = 1 }" 8 18 (some "body") [field]

def statement : Tree :=
  piece "class_declaration" "class C { #x = 1 }" 0 18 none
    [piece "type_identifier" "C" 6 7 (some "name") [], body]

/-- The source `class C { #x = 1 }`. -/
def source : Tree := piece "program" "class C { #x = 1 }" 0 18 none [statement]

/-- Private members are left out. -/
def plan : Plan := ⟨{ includePrivateMembers := false }, Filter.project.accepts⟩

def registered : State := State.through {} [.added path source]

/-- Where the class is declared. -/
def node : Cursor := ⟨statement, [⟨source, 0⟩]⟩

def declaration : Declaration := ⟨.classType, some "C", path, some node⟩

def place : Place := .top ⟨path, source, Module.Scope.ofTree source⟩

def binding : Module.Binding := ⟨"C", .classType, node, false⟩

def made : TypeRecord :=
  { category := .classType, name := some "C", node := some node, place := some place,
    bindings := [binding], symbol := some { name := some "C", declaration := some declaration },
    shape := .declared }

/-- The state in which the type of the class has been made. -/
def learned : State :=
  { registered with
    interned := registered.interned.insert (.declared path 0 []) 0
    records := #[made] }

theorem run_declarationByName :
    (Checker.declarationByName path "C").run.run registered = (.ok declaration, registered) := by
  with_unfolding_all rfl

theorem run_typeOfDeclaration :
    (Checker.typeOfDeclaration declaration).run.run registered = (.ok 0, learned) := by
  have read : (Checker.typeOfDeclaration declaration).run.run registered =
      (Check.intern (.declared path 0 []) made).run.run registered := by
    with_unfolding_all rfl
  rw [read, Check.run_intern_of_none Std.HashMap.getElem?_empty]
  rfl

/-! ### Its tree -/

/-- Where the field is declared. -/
def fieldNode : Cursor := ⟨field, [⟨body, 0⟩, ⟨statement, 1⟩, ⟨source, 0⟩]⟩

/-- The symbol of the field. -/
def symbol : Symbol :=
  { name := some "#x",
    declaration := some ⟨.property, some "#x", path, some fieldNode⟩,
    visibility := some .toOwner, kind := some .property,
    member := some ⟨0, place, [fieldNode]⟩ }

/-- The type of the class, as far as it has been looked into. -/
def opened (text : Option String) (classMembers : Option (List Symbol))
    (constructs : Option (List CallSignature)) : TypeRecord :=
  { made with label := text, cache := { text, classMembers, constructs } }

def known : State :=
  { learned with records := #[opened (some "C") (some [symbol]) (some [])], slots := #[none] }

/-- What is known about the type from where it is met. -/
def context : Context :=
  ⟨"C", ⟨path, ⟨⟨1, 1⟩, ⟨1, 19⟩⟩⟩,
    some { name := some "C", filePath := some path, position := some ⟨⟨1, 1⟩, ⟨1, 19⟩⟩ },
    some declaration⟩

/-- The tree of the class. -/
def tree : Node := .classType (context.header .classType) [] [] none none

theorem run_context :
    (Context.ofType 0 (some declaration)).run.run learned =
      (.ok context, { learned with records := #[opened (some "C") none none] }) := by
  with_unfolding_all rfl

theorem run_members :
    (Checker.classMembers 0).run.run { learned with records := #[opened (some "C") none none] } =
      (.ok [symbol], { learned with records := #[opened (some "C") (some [symbol]) none],
                                    slots := #[none] }) := by
  with_unfolding_all rfl

theorem run_constructs :
    (Checker.constructs 0).run.run
        { learned with records := #[opened (some "C") (some [symbol]) none], slots := #[none] } =
      (.ok [], known) := by
  with_unfolding_all rfl

theorem run_classType (below : Builder.Below) (guard : CycleGuard TypeId) :
    (Builder.classType plan below 0 context).run.run
        ⟨{ learned with records := #[opened (some "C") none none] }, guard⟩ =
      (.ok tree, ⟨known, guard⟩) := by
  rw [Builder.classType, run_bind_ok (ResolveM.run_liftM_of run_members guard)]
  have hidden : Builder.isShown plan symbol = false := by decide +kernel
  simp only [List.foldlM_cons, List.foldlM_nil, Builder.addMember, hidden, Bool.not_false,
    if_true, pure_bind]
  rw [run_bind_ok (ResolveM.run_liftM_of run_constructs guard)]
  rfl

theorem run_resolveType :
    (Resolution.resolveType plan 0 (some declaration)).run.run learned =
      (.ok (some tree), known) := by
  have simple : (Checker.simplified 0).run.run learned = (.ok (some 0), learned) := by
    with_unfolding_all rfl
  have category : (Checker.category 0).run.run learned = (.ok .classType, learned) := by
    with_unfolding_all rfl
  have admitted : Resolution.isRejected plan context.metadata = false := by decide +kernel
  exact Resolution.run_resolveType_of_expanded rfl simple category run_context rfl admitted
    (run_classType _ _)

theorem outcome_resolveDeclaration :
    outcome (Resolution.resolveDeclaration plan path "C") registered = .ok (some tree) := by
  rw [outcome, Resolution.resolveDeclaration, run_bind_ok run_declarationByName,
    run_bind_ok run_typeOfDeclaration, run_resolveType]

end HashedField

namespace Resolution

/-- If private members are to be left out, no class of a tree lists one, as a property, a method
or an accessor; and a private node is the property of an object, which the checker tells to be
private. Objects list what the checker tells, whatever the setting. -/
theorem resolveDeclaration_private (identity : Nat) (settings : SourceSettings)
    (history : List Event) (plan : Plan) (hides : plan.settings.includePrivateMembers = false)
    (path name : String) (tree : Node)
    (returned : outcome (resolveDeclaration plan path name)
      (State.through { identity, settings } history) = .ok (some tree)) :
    let s := after (resolveDeclaration plan path name)
      (State.through { identity, settings } history)
    (∀ above header properties methods accessors constructors,
      tree.Occurs above (.classType header properties methods accessors constructors) →
        (∀ node ∈ properties, ¬ node.header.IsPrivate) ∧
          (∀ method ∈ methods, ¬ method.header.IsPrivate) ∧
            ∀ accessor ∈ accessors.getD [], ¬ accessor.header.IsPrivate) ∧
    (∀ above node, tree.Occurs above node → node.header.visibility = some .toOwner →
      ∃ higher parent symbol, tree.Occurs higher parent ∧ parent.Exposes plan s symbol node ∧
        node.header.name = symbol.name ∧ symbol.visibility = some .toOwner) ∧
    ∀ above node, tree.Occurs above node → node.Discloses plan s := by
  intro s
  obtain ⟨declaration, t, middle, lawful, resolved, same⟩ :=
    resolveDeclaration_eq_resolveType (.reachable identity settings history) returned
  have clear : tree.IsClear plan s := by
    rw [show s = _ from same]
    exact resolveType_isClear lawful resolved
  refine ⟨fun above header properties methods accessors constructors occurs => ?_,
    fun above node occurs owned => ?_, fun above node occurs => ?_⟩
  · exact (clear.candid above _ occurs).classType hides
  · rcases occurs.eq_or_below with rfl | ⟨higher, parent, there, below⟩
    · simp [clear.unmarked] at owned
    · obtain ⟨symbol, exposes, named, mark⟩ :=
        (clear.candid higher parent there).exposes hides below owned
      exact ⟨higher, parent, symbol, there, exposes, named, mark⟩
  · exact (clear.candid above node occurs).discloses

open HashedField in
/-- The class has a private field, of which its tree says nothing. -/
theorem resolveDeclaration_private_hashedField :
    outcome (resolveDeclaration HashedField.plan HashedField.path "C") registered =
        .ok (some HashedField.tree) ∧
      known.Finds (Checker.classMembers 0) [symbol] ∧ symbol.visibility = some .toOwner ∧
      HashedField.tree.children = [] ∧ HashedField.tree.Discloses HashedField.plan known := by
  have later : after (resolveDeclaration HashedField.plan HashedField.path "C") registered =
      known := by
    rw [after, resolveDeclaration, run_bind_ok run_declarationByName,
      run_bind_ok run_typeOfDeclaration, run_resolveType]
  have discloses := (resolveDeclaration_private 0 {} [.added HashedField.path source]
    HashedField.plan rfl HashedField.path "C" HashedField.tree outcome_resolveDeclaration).2.2
    0 HashedField.tree (.root _)
  have members : known.Finds (Checker.classMembers 0) [symbol] := by with_unfolding_all rfl
  refine ⟨outcome_resolveDeclaration, members, rfl, rfl, ?_⟩
  rw [← later]
  exact discloses

end Resolution

end TypeGloss
