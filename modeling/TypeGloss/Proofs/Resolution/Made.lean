/-
# TypeGloss.Proofs.Resolution.Made — what trees are made of

A documentation tree is made of answers of the checker, and no answer is taken back. So what a
resolution returns can be told from the state in which the checker is in the end, or at any
later time, without running anything: the answers are there, and they determine the tree.

`Made` says what the node of each kind of type is, given the answers in a state and what the
types below are resolved to; there is one relation for each builder, with one case for each way
through it. `Made.Resolved` puts them together: it is what a type may be resolved to. Only
where a tree is cut off, at types that are nested too deeply or being expanded already, the
answers do not tell; whether there may be such places is part of the relation. Without them it
leaves nothing open.

Whatever a resolution returns is made in this way, cut-offs included
(`Resolution.resolve_made`, `Resolution.resolveType_made`). What is to be shown about trees can
be shown by induction on the relation, in which no state changes.
-/
import TypeGloss.Proofs.Resolution.Accounting

namespace TypeGloss

set_option autoImplicit false

/-- A node with a default, if there is one. -/
def Node.attach (value : Option Value) (node : Node) : Node :=
  value.elim node fun found => node.assignDefault found

/-- The text of a context is that of the type that was met in it. -/
theorem State.Finds.contextText {s : State} {t : TypeId} {enclosing : Option Declaration}
    {context : Context} (met : s.Finds (Context.ofType t enclosing) context) :
    s.Finds (Checker.text t) context.text := by
  obtain ⟨text, written, rest⟩ := outcome_bind_eq_ok met
  obtain ⟨symbol, -, rest⟩ := outcome_bind_eq_ok rest
  obtain ⟨metadata, -, rest⟩ := outcome_bind_eq_ok rest
  obtain ⟨location, -, made⟩ := outcome_bind_eq_ok rest
  cases made
  exact written

namespace Made

/-- What types below the current one are resolved to. -/
abbrev Below := TypeId → Option Declaration → Option Node → Prop

variable (plan : Plan) (s : State) (below : Below)

/-! ## Properties and parameters -/

/-- The default of a declaration that may have an initializer, and patterns. -/
inductive IsDefault : Option Declaration → List Cursor → Option Value → Prop where
  | undeclared {patterns : List Cursor} : IsDefault none patterns none
  | bare {declaration : Declaration} (plain : Checker.initializer? declaration = none) :
      IsDefault (some declaration) [] none
  | evaluated {declaration : Declaration} {patterns : List Cursor} {value : Option Value}
      (declares : Checker.initializer? declaration ≠ none ∨ patterns ≠ [])
      (given : s.Finds
        (Checker.defaultOf declaration (Checker.initializer? declaration) patterns) value) :
      IsDefault (some declaration) patterns value

/-- What a property is made into. -/
inductive Property (symbol : Symbol) : Option Node → Prop where
  | rejected {metadata : Metadata} {t : TypeId} {text : String} {location : Location}
      (known : s.Finds (Metadata.ofSymbol symbol none) metadata)
      (typed : s.Finds (Checker.typeOfSymbol symbol) t) (rejects : plan.accepts metadata = false)
      (written : s.Finds (Checker.text t) text)
      (located : s.Finds (Context.locate t (some symbol) symbol.declaration) location) :
      Property symbol (some (Context.reference ⟨text, location, some metadata, none⟩))
  | gone {metadata : Metadata} {t : TypeId}
      (known : s.Finds (Metadata.ofSymbol symbol none) metadata)
      (typed : s.Finds (Checker.typeOfSymbol symbol) t) (accepts : plan.accepts metadata = true)
      (nothing : below t symbol.declaration none) : Property symbol none
  | shown {metadata : Metadata} {t : TypeId} {node : Node} {value : Option Value}
      (known : s.Finds (Metadata.ofSymbol symbol none) metadata)
      (typed : s.Finds (Checker.typeOfSymbol symbol) t) (accepts : plan.accepts metadata = true)
      (inside : below t symbol.declaration (some node))
      (given : IsDefault s symbol.declaration [] value) :
      Property symbol
        (some ((node.mapHeader (Builder.propertyHeader symbol metadata)).attach value))

/-- What a parameter is made into. -/
inductive Parameter (symbol : Symbol) : Option Node → Prop where
  | gone {t : TypeId} (typed : s.Finds (Checker.typeOfSymbol symbol) t)
      (nothing : below t symbol.declaration none) : Parameter symbol none
  | shown {t : TypeId} {node : Node} {value : Option Value}
      (typed : s.Finds (Checker.typeOfSymbol symbol) t)
      (inside : below t symbol.declaration (some node))
      (given : IsDefault s symbol.declaration
        ((symbol.declaration.map Checker.patterns).getD []) value) :
      Parameter symbol (some ((node.mapHeader (Builder.parameterHeader symbol)).attach value))

/-- The nodes of properties, without those that come to nothing. -/
inductive Properties (symbols : List Symbol) : List Node → Prop where
  | mk {results : List (Option Node)}
      (each : List.Forall₂ (Property plan s below) symbols results) :
      Properties symbols (results.filterMap id)

/-! ## Signatures -/

/-- The signature of a function. -/
inductive Signature (call : CallSignature) : TypeGloss.Signature → Prop where
  | mk {results : List (Option Node)} {returnType : String}
      (each : List.Forall₂ (Parameter s below) call.parameters results)
      (returns : s.Finds (Checker.text call.returnType) returnType) :
      Signature call
        (.mk .functionSignature call.text (results.filterMap id) returnType call.modifier)

/-- The signature of a component. -/
inductive ComponentSignature (call : CallSignature) : TypeGloss.ComponentSignature → Prop where
  | props {first : Symbol} {rest : List Symbol} {result : Option Node} {returnType : String}
      (takes : call.parameters = first :: rest) (made : Parameter s below first result)
      (returns : s.Finds (Checker.text call.returnType) returnType) :
      ComponentSignature call (.mk .componentSignature call.text result returnType call.modifier)
  | bare {returnType : String} (takes : call.parameters = [])
      (returns : s.Finds (Checker.text call.returnType) returnType) :
      ComponentSignature call (.mk .componentSignature call.text none returnType call.modifier)

/-- The parameters of the first of several signatures. -/
def firstParameters (calls : List CallSignature) : List Symbol :=
  (calls.head?.map CallSignature.parameters).getD []

/-- Is a type with such a first parameter a component, where it is met? -/
def isComponent (context : Context) (categories : List Category) : Bool :=
  ComponentPolicy.isComponent ⟨plan.settings.componentRequiresCapital⟩
    ((context.metadata.bind Metadata.name).or (context.enclosing.bind Declaration.name)) categories

/-- What a type that can be called is made into. -/
inductive Callable (t : TypeId) (context : Context) : Node → Prop where
  | component {calls : List CallSignature} {categories : List Category}
      {signatures : List TypeGloss.ComponentSignature} (called : s.Finds (Checker.calls t) calls)
      (categorized : List.Forall₂
        (fun symbol category => s.Finds (Builder.parameterCategory symbol) category)
        (firstParameters calls) categories)
      (fits : isComponent plan context categories = true)
      (each : List.Forall₂ (ComponentSignature s below) calls signatures) :
      Callable t context (.component (context.header .component) signatures)
  | function {calls : List CallSignature} {categories : List Category}
      {signatures : List TypeGloss.Signature} (called : s.Finds (Checker.calls t) calls)
      (categorized : List.Forall₂
        (fun symbol category => s.Finds (Builder.parameterCategory symbol) category)
        (firstParameters calls) categories)
      (misfits : isComponent plan context categories = false)
      (each : List.Forall₂ (Signature s below) calls signatures) :
      Callable t context (.function (context.header .function) signatures)

/-! ## Objects -/

/-- A type below that is kept as a reference if it comes to nothing. -/
inductive Kept (context : Context) (t : TypeId) : Node → Prop where
  | gone {text : String} (nothing : below t none none) (written : s.Finds (Checker.text t) text) :
      Kept context t (context.referenceTo text)
  | shown {node : Node} (inside : below t none (some node)) : Kept context t node

/-- What an index signature is made into. -/
inductive Index (context : Context) (entry : IndexEntry) : IndexSignature → Prop where
  | mk {key value : Node} (keyed : Kept s below context entry.keyType key)
      (valued : Kept s below context entry.valueType value) :
      Index context entry (.mk .indexSignature entry.text
        (key.mapHeader fun header => { header with name := some entry.keyName }) value
        (if entry.isReadonly then some true else none))

/-- What an object is made into that is not just called. -/
inductive Object (t : TypeId) (context : Context) : Node → Prop where
  | mk {entries : List IndexEntry} {indexes : List IndexSignature} {symbols : List Symbol}
      {nodes : List Node} (indexed : s.Finds (Checker.indexes t) entries)
      (each : List.Forall₂ (Index s below context) entries indexes)
      (listed : s.Finds (Checker.properties t) symbols)
      (shown : Properties plan s below symbols nodes) :
      Object t context (.object (context.header .object) nodes (Builder.nonempty indexes))

/-- What an object is made into. -/
inductive ObjectOrCallable (t : TypeId) (context : Context) : Node → Prop where
  | object {symbols : List Symbol} {node : Node} (listed : s.Finds (Checker.properties t) symbols)
      (uncalled : symbols = [] → s.Finds (Checker.calls t) [])
      (made : Object plan s below t context node) : ObjectOrCallable t context node
  | callable {calls : List CallSignature} {node : Node}
      (listed : s.Finds (Checker.properties t) []) (called : s.Finds (Checker.calls t) calls)
      (some : calls ≠ []) (made : Callable plan s below t context node) :
      ObjectOrCallable t context node

/-! ## Unions, intersections, arrays, tuples -/

/-- What a union is made into. -/
inductive Union (t : TypeId) (context : Context) : Node → Prop where
  | mk {members : List TypeId} {results : List (Option Node)}
      (joined : s.Finds (Checker.unionMembers t) members)
      (each : List.Forall₂ (fun member result => below member none result) members results) :
      Union t context (.union (context.header .union) (results.filterMap id))

/-- What a constituent of an intersection contributes to it. One that is flattened comes to an
object without a name, and has the properties of this object. -/
inductive Constituent (t : TypeId) : List Node → Prop where
  | flattened {u : TypeId} {r : TypeFacts} {symbols : List Symbol} {nodes : List Node}
      (flat : s.Finds (Builder.isFlattened plan t) true)
      (simple : s.Finds (Checker.simplified t) (some u)) (known : s.Finds (Check.facts u) r)
      (isObject : r.category = .object) (unnamed : r.IsUnnamed)
      (listed : s.Finds (Checker.properties t) symbols)
      (apparent : s.Finds (Checker.properties u) symbols)
      (shown : Properties plan s below symbols nodes) : Constituent t nodes
  | nested {result : Option Node} (whole : s.Finds (Builder.isFlattened plan t) false)
      (inside : below t none result) : Constituent t result.toList

/-- What an intersection is made into. -/
inductive Intersection (t : TypeId) (context : Context) : Node → Prop where
  | mk {members : List TypeId} {chunks : List (List Node)}
      (joined : s.Finds (Checker.intersectionMembers t) members)
      (each : List.Forall₂ (Constituent plan s below) members chunks) :
      Intersection t context (.intersection (context.header .intersection) chunks.flatten)

/-- What an array is made into. -/
inductive Array (t : TypeId) (context : Context) : Node → Prop where
  | element {element : TypeId} {node : Node} (known : s.Finds (Checker.element? t) (some element))
      (kept : Kept s below context element node) :
      Array t context (.array (context.header .array) node)
  | unknown (absent : s.Finds (Checker.element? t) none) :
      Array t context (.array (context.header .array) (context.referenceTo "unknown"))

/-- What an element of a tuple is made into. -/
inductive Item (item : TupleItem) : Option Node → Prop where
  | mk {result : Option Node} (inside : below item.type none result) :
      Item item (result.map (Node.mapHeader (Builder.tupleHeader item)))

/-- What a tuple is made into. -/
inductive Tuple (t : TypeId) (context : Context) : Node → Prop where
  | mk {items : List TupleItem} {results : List (Option Node)}
      (joined : s.Finds (Checker.tupleItems t) items)
      (each : List.Forall₂ (Item below) items results) :
      Tuple t context (.tuple (context.header .tuple) (results.filterMap id))

/-- What a library type with arguments is made into. -/
inductive Generic (t : TypeId) (context : Context) : Node → Prop where
  | mk {args : List TypeId} {nodes : List Node} {name : Option String}
      (applied : s.Finds (Checker.arguments t) args)
      (each : List.Forall₂ (Kept s below context) args nodes)
      (named : s.Finds (Checker.name? t) name) :
      Generic t context (.generic (context.header .generic) (name.getD context.text) nodes)

/-- What an enum is made into. -/
inductive Enum (t : TypeId) (context : Context) : Node → Prop where
  | mk {members : List (String × Value)} (listed : s.Finds (Checker.enumMembers t) members) :
      Enum t context (.enum (context.header .enum) (Entries.ofList members))

/-! ## Classes -/

/-- What a method is made into. -/
inductive Method (symbol : Symbol) : TypeGloss.Method → Prop where
  | mk {t : TypeId} {text : String} {calls : List CallSignature}
      {signatures : List TypeGloss.Signature} {metadata : Metadata}
      (typed : s.Finds (Checker.typeOfSymbol symbol) t) (written : s.Finds (Checker.text t) text)
      (called : s.Finds (Checker.calls t) calls)
      (each : List.Forall₂ (Signature s below) calls signatures)
      (known : s.Finds (Metadata.ofSymbol symbol none) metadata) :
      Method symbol (.mk (Builder.memberHeader .classMethod symbol metadata text) signatures)

/-- The parameter of a setter. -/
inductive Given (calls : List CallSignature) : Option Node → Prop where
  | absent (takes : (calls.head?.bind fun call => call.parameters.head?) = none) :
      Given calls none
  | present {first : Symbol} {result : Option Node}
      (takes : (calls.head?.bind fun call => call.parameters.head?) = some first)
      (made : Parameter s below first result) : Given calls result

/-- What a getter or a setter is made into. -/
inductive Accessor (symbol : Symbol) : TypeGloss.Accessor → Prop where
  | getter {t : TypeId} {calls : List CallSignature} {metadata : Metadata} {type : String}
      (typed : s.Finds (Checker.typeOfSymbol symbol) t) (called : s.Finds (Checker.calls t) calls)
      (known : s.Finds (Metadata.ofSymbol symbol none) metadata)
      (gets : symbol.kind = some .getter) (got : s.Finds (Builder.getterType calls) type) :
      Accessor symbol
        (.mk (Builder.memberHeader .classAccessor symbol metadata type) "get" (some type) none)
  | setter {t : TypeId} {calls : List CallSignature} {metadata : Metadata} {result : Option Node}
      (typed : s.Finds (Checker.typeOfSymbol symbol) t) (called : s.Finds (Checker.calls t) calls)
      (known : s.Finds (Metadata.ofSymbol symbol none) metadata)
      (sets : symbol.kind ≠ some .getter) (given : Given s below calls result) :
      Accessor symbol
        (.mk (Builder.memberHeader .classAccessor symbol metadata
          ((result.map fun node => node.header.type).getD "any")) "set" none result)

/-- The parts of a class, each made of the members of its kind that are documented. -/
structure Members (symbols : List Symbol) (parts : Builder.ClassParts) : Prop where
  properties : Properties plan s below (plan.shown [.property] symbols) parts.properties
  methods : List.Forall₂ (Method s below) (plan.shown [.method] symbols) parts.methods
  accessors : List.Forall₂ (Accessor s below) (plan.shown [.getter, .setter] symbols)
    parts.accessors

/-- What a class is made into. -/
inductive Class (t : TypeId) (context : Context) : Node → Prop where
  | mk {symbols : List Symbol} {parts : Builder.ClassParts} {constructs : List CallSignature}
      {constructors : List TypeGloss.Signature}
      (listed : s.Finds (Checker.classMembers t) symbols)
      (members : Members plan s below symbols parts)
      (constructed : s.Finds (Checker.constructs t) constructs)
      (each : List.Forall₂ (Signature s below) constructs constructors) :
      Class t context (.classType (context.header .classType) parts.properties parts.methods
        (Builder.nonempty parts.accessors) (Builder.nonempty constructors))

/-! ## All types -/

/-- What a type is made into that is expanded. -/
def Expanded (t : TypeId) (context : Context) : Category → Node → Prop
  | .object => ObjectOrCallable plan s below t context
  | .union => Union s below t context
  | .intersection => Intersection plan s below t context
  | .array => Array s below t context
  | .tuple => Tuple s below t context
  | .function => Callable plan s below t context
  | .classType => Class plan s below t context
  | .enum => Enum s t context
  | .generic => Generic s below t context
  | _ => fun node => node = context.reference

/-- What a leaf is made into: a keyword, or a literal with its value. -/
inductive Leaf (t : TypeId) (category : Category) (context : Context) : Node → Prop where
  | keyword {keyword : Primitive} (known : s.Finds (Checker.primitive t) keyword)
      (isKeyword : category ≠ .literal) :
      Leaf t category context
        (.primitive { context.header keyword.kind with name := none } .null)
  | literal {keyword : Primitive} {value : Value} (known : s.Finds (Checker.primitive t) keyword)
      (isLiteral : category = .literal) (valued : s.Finds (Checker.literalValue t) value) :
      Leaf t category context
        (.primitive { context.header keyword.kind with name := none } value)

/-- What a type is resolved to, if `descends` says what is made of a type that is neither a leaf
nor rejected. -/
inductive Visited (descends : TypeId → Category → Context → Node → Prop) (t : TypeId)
    (enclosing : Option Declaration) : Option Node → Prop where
  | gone (simple : s.Finds (Checker.simplified t) none) : Visited descends t enclosing none
  | leaf {u : TypeId} {category : Category} {context : Context} {node : Node}
      (simple : s.Finds (Checker.simplified t) (some u))
      (sort : s.Finds (Checker.category u) category)
      (met : s.Finds (Context.ofType u enclosing) context)
      (isLeaf : Resolution.isLeaf category = true) (made : Leaf s u category context node) :
      Visited descends t enclosing (some node)
  | rejected {u : TypeId} {category : Category} {context : Context}
      (simple : s.Finds (Checker.simplified t) (some u))
      (sort : s.Finds (Checker.category u) category)
      (met : s.Finds (Context.ofType u enclosing) context)
      (inner : Resolution.isLeaf category = false)
      (rejects : Resolution.isRejected plan context.metadata = true) :
      Visited descends t enclosing (some context.reference)
  | expanded {u : TypeId} {category : Category} {context : Context} {node : Node}
      (simple : s.Finds (Checker.simplified t) (some u))
      (sort : s.Finds (Checker.category u) category)
      (met : s.Finds (Context.ofType u enclosing) context)
      (inner : Resolution.isLeaf category = false)
      (passes : Resolution.isRejected plan context.metadata = false)
      (made : descends u category context node) : Visited descends t enclosing (some node)

/-- What is made of a type that is neither a leaf nor rejected: it may be cut off, if that is
allowed, or it is expanded. -/
inductive Descended (cuts : Prop) (t : TypeId) (category : Category) (context : Context) :
    Node → Prop where
  | cut (allowed : cuts) : Descended cuts t category context context.reference
  | expanded {node : Node} (made : Expanded plan s below t context category node) :
      Descended cuts t category context node

/-- What a type may be resolved to with so many types nested in each other, with or without
places at which the tree is cut off. -/
def Resolved (cuts : Prop) : Nat → Below
  | 0 => Visited plan s fun _ _ context node => cuts ∧ node = context.reference
  | fewer + 1 => Visited plan s (Descended plan s (Resolved cuts fewer) cuts)

end Made

end TypeGloss
