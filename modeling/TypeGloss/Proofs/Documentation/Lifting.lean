/-
# TypeGloss.Proofs.Documentation.Lifting — nodes of one class with related children

A relation between nodes is *lifted* to nodes of one class whose children it relates one by
one, and whose parts have everything else in common. What their headers and their own values
have to do with each other is left open (`Node.Lifted`).

Two relations between trees that differ only in what they ask of headers, values and children
are then two uses of one definition, and each is proved by induction on the children
(`Node.childrenInduction`) with one step per class.

* `Node.Lifted.children`: the children of the two nodes are related in order.
* `Node.Lifted.eq`: nodes with equal headers, values and children are equal.
-/
import TypeGloss.Proofs.Documentation.Everywhere
import TypeGloss.Proofs.Matching

namespace TypeGloss

set_option autoImplicit false

/-! ## Induction on children -/

/-- A list that is there is not larger than the option with it. -/
theorem sizeOf_getD_le {α : Type} [SizeOf α] (items : Option (List α)) :
    sizeOf (items.getD []) ≤ sizeOf items := by
  cases items <;> simp

theorem IndexSignature.sizeOf_lt_of_mem_nodes {signature : IndexSignature} {node : Node}
    (member : node ∈ signature.nodes) : sizeOf node < sizeOf signature := by
  obtain ⟨kind, type, parameter, value, isReadonly⟩ := signature
  simp only [IndexSignature.nodes, List.mem_cons, List.not_mem_nil, or_false] at member
  simp only [IndexSignature.mk.sizeOf_spec]
  rcases member with rfl | rfl <;> omega

theorem Signature.sizeOf_lt_of_mem_nodes {signature : Signature} {node : Node}
    (member : node ∈ signature.nodes) : sizeOf node < sizeOf signature := by
  obtain ⟨kind, type, parameters, returnType, modifier⟩ := signature
  have below : sizeOf node < sizeOf parameters := List.sizeOf_lt_of_mem member
  simp only [Signature.mk.sizeOf_spec]
  omega

theorem ComponentSignature.sizeOf_lt_of_mem_nodes {signature : ComponentSignature} {node : Node}
    (member : node ∈ signature.nodes) : sizeOf node < sizeOf signature := by
  obtain ⟨kind, type, parameter, returnType, modifier⟩ := signature
  obtain rfl := Option.mem_toList.1 member
  simp only [ComponentSignature.mk.sizeOf_spec, Option.some.sizeOf_spec]
  omega

/-- What is smaller than one of the items is smaller than the list. -/
theorem sizeOf_lt_of_mem_flatMap {α : Type} [SizeOf α] {nodes : α → List Node} {items : List α}
    {node : Node} (each : ∀ {item}, node ∈ nodes item → sizeOf node < sizeOf item)
    (member : node ∈ items.flatMap nodes) : sizeOf node < sizeOf items := by
  obtain ⟨item, among, inside⟩ := List.mem_flatMap.1 member
  exact (each inside).trans (List.sizeOf_lt_of_mem among)

theorem Method.sizeOf_lt_of_mem_nodes {method : Method} {node : Node}
    (member : node ∈ method.nodes) : sizeOf node < sizeOf method := by
  obtain ⟨header, signatures⟩ := method
  have below := sizeOf_lt_of_mem_flatMap Signature.sizeOf_lt_of_mem_nodes member
  simp only [Method.mk.sizeOf_spec]
  omega

theorem Accessor.sizeOf_lt_of_mem_nodes {accessor : Accessor} {node : Node}
    (member : node ∈ accessor.nodes) : sizeOf node < sizeOf accessor := by
  obtain ⟨header, accessor, returnType, parameter⟩ := accessor
  obtain rfl := Option.mem_toList.1 member
  simp only [Accessor.mk.sizeOf_spec, Option.some.sizeOf_spec]
  omega

namespace Node

theorem sizeOf_lt_of_mem_children {node child : Node} (member : child ∈ node.children) :
    sizeOf child < sizeOf node := by
  cases node with
  | primitive | enum | reference => simp [children] at member
  | object header properties indexes =>
      simp only [object.sizeOf_spec]
      rcases List.mem_append.1 member with property | inIndex
      · have below := List.sizeOf_lt_of_mem property
        omega
      · have below := sizeOf_lt_of_mem_flatMap IndexSignature.sizeOf_lt_of_mem_nodes inIndex
        have := sizeOf_getD_le indexes
        omega
  | array header element =>
      obtain rfl := List.mem_singleton.1 member
      simp only [array.sizeOf_spec]
      omega
  | tuple header nodes | union header nodes | intersection header nodes
  | generic header typeName nodes =>
      have below : sizeOf child < sizeOf nodes := List.sizeOf_lt_of_mem member
      simp only [tuple.sizeOf_spec, union.sizeOf_spec, intersection.sizeOf_spec,
        generic.sizeOf_spec]
      omega
  | function header signatures =>
      have below := sizeOf_lt_of_mem_flatMap Signature.sizeOf_lt_of_mem_nodes member
      simp only [function.sizeOf_spec]
      omega
  | component header signatures =>
      have below := sizeOf_lt_of_mem_flatMap ComponentSignature.sizeOf_lt_of_mem_nodes member
      simp only [component.sizeOf_spec]
      omega
  | classType header properties methods accessors constructors =>
      simp only [children, List.mem_append] at member
      simp only [classType.sizeOf_spec]
      rcases member with ((property | inMethod) | inAccessor) | inConstructor
      · have below := List.sizeOf_lt_of_mem property
        omega
      · have below := sizeOf_lt_of_mem_flatMap Method.sizeOf_lt_of_mem_nodes inMethod
        omega
      · have below := sizeOf_lt_of_mem_flatMap Accessor.sizeOf_lt_of_mem_nodes inAccessor
        have := sizeOf_getD_le accessors
        omega
      · have below := sizeOf_lt_of_mem_flatMap Signature.sizeOf_lt_of_mem_nodes inConstructor
        have := sizeOf_getD_le constructors
        omega

/-- What holds of a node as soon as it holds of its children holds of every node. -/
theorem childrenInduction {P : Node → Prop}
    (step : ∀ node, (∀ child ∈ node.children, P child) → P node) (node : Node) : P node :=
  step node fun child member =>
    have := sizeOf_lt_of_mem_children member
    childrenInduction step child
termination_by sizeOf node

end Node

/-! ## Parts -/

section Parts

variable (S : Node → Node → Prop)

/-- Index signatures alike up to their key and their value, which are related. -/
inductive IndexSignature.Lifted : IndexSignature → IndexSignature → Prop where
  | mk {kind : Kind} {type : String} {parameter parameter' value value' : Node}
      {isReadonly : Option Bool} (parameters : S parameter parameter') (values : S value value') :
      Lifted (.mk kind type parameter value isReadonly)
        (.mk kind type parameter' value' isReadonly)

/-- Signatures alike up to their parameters, which are related. -/
inductive Signature.Lifted : Signature → Signature → Prop where
  | mk {kind : Kind} {type : String} {parameters parameters' : List Node} {returnType : String}
      {modifier : Option Modifier} (related : List.Forall₂ S parameters parameters') :
      Lifted (.mk kind type parameters returnType modifier)
        (.mk kind type parameters' returnType modifier)

/-- Signatures of components alike up to their parameter, which is related. -/
inductive ComponentSignature.Lifted : ComponentSignature → ComponentSignature → Prop where
  | mk {kind : Kind} {type : String} {parameter parameter' : Option Node} {returnType : String}
      {modifier : Option Modifier} (related : Option.Rel S parameter parameter') :
      Lifted (.mk kind type parameter returnType modifier)
        (.mk kind type parameter' returnType modifier)

/-- Methods alike up to the parameters of their signatures, which are related. -/
inductive Method.Lifted : Method → Method → Prop where
  | mk {header : MemberHeader} {signatures signatures' : List Signature}
      (related : List.Forall₂ (Signature.Lifted S) signatures signatures') :
      Lifted (.mk header signatures) (.mk header signatures')

/-- Accessors alike up to their parameter, which is related. -/
inductive Accessor.Lifted : Accessor → Accessor → Prop where
  | mk {header : MemberHeader} {accessor : String} {returnType : Option String}
      {parameter parameter' : Option Node} (related : Option.Rel S parameter parameter') :
      Lifted (.mk header accessor returnType parameter)
        (.mk header accessor returnType parameter')

end Parts

/-! ## Nodes -/

/-- Nodes of one class whose headers are related by `H`, whose own values by `V` and whose
children by `S`. -/
inductive Node.Lifted (H : Header → Header → Prop) (V : Value → Value → Prop)
    (S : Node → Node → Prop) : Node → Node → Prop where
  | primitive {header header' : Header} {value value' : Value} (headers : H header header')
      (values : V value value') : Lifted H V S (.primitive header value) (.primitive header' value')
  | object {header header' : Header} {properties properties' : List Node}
      {indexes indexes' : Option (List IndexSignature)} (headers : H header header')
      (related : List.Forall₂ S properties properties')
      (relatedIndexes : Option.Rel (List.Forall₂ (IndexSignature.Lifted S)) indexes indexes') :
      Lifted H V S (.object header properties indexes) (.object header' properties' indexes')
  | array {header header' : Header} {element element' : Node} (headers : H header header')
      (related : S element element') :
      Lifted H V S (.array header element) (.array header' element')
  | tuple {header header' : Header} {elements elements' : List Node} (headers : H header header')
      (related : List.Forall₂ S elements elements') :
      Lifted H V S (.tuple header elements) (.tuple header' elements')
  | union {header header' : Header} {members members' : List Node} (headers : H header header')
      (related : List.Forall₂ S members members') :
      Lifted H V S (.union header members) (.union header' members')
  | intersection {header header' : Header} {properties properties' : List Node}
      (headers : H header header') (related : List.Forall₂ S properties properties') :
      Lifted H V S (.intersection header properties) (.intersection header' properties')
  | function {header header' : Header} {signatures signatures' : List Signature}
      (headers : H header header')
      (related : List.Forall₂ (Signature.Lifted S) signatures signatures') :
      Lifted H V S (.function header signatures) (.function header' signatures')
  | component {header header' : Header} {signatures signatures' : List ComponentSignature}
      (headers : H header header')
      (related : List.Forall₂ (ComponentSignature.Lifted S) signatures signatures') :
      Lifted H V S (.component header signatures) (.component header' signatures')
  | classType {header header' : Header} {properties properties' : List Node}
      {methods methods' : List Method} {accessors accessors' : Option (List Accessor)}
      {constructors constructors' : Option (List Signature)} (headers : H header header')
      (related : List.Forall₂ S properties properties')
      (relatedMethods : List.Forall₂ (Method.Lifted S) methods methods')
      (relatedAccessors : Option.Rel (List.Forall₂ (Accessor.Lifted S)) accessors accessors')
      (relatedConstructors :
        Option.Rel (List.Forall₂ (Signature.Lifted S)) constructors constructors') :
      Lifted H V S (.classType header properties methods accessors constructors)
        (.classType header' properties' methods' accessors' constructors')
  | enum {header header' : Header} {members members' : List (String × Value)}
      (headers : H header header') (values : V (.object members) (.object members')) :
      Lifted H V S (.enum header members) (.enum header' members')
  | generic {header header' : Header} {typeName : String} {arguments arguments' : List Node}
      (headers : H header header') (related : List.Forall₂ S arguments arguments') :
      Lifted H V S (.generic header typeName arguments) (.generic header' typeName arguments')
  | reference {header header' : Header} (headers : H header header') :
      Lifted H V S (.reference header) (.reference header')

/-! ## Children of related nodes -/

section Children

variable {S : Node → Node → Prop}

theorem IndexSignature.Lifted.nodes {first second : IndexSignature}
    (lifted : first.Lifted S second) : List.Forall₂ S first.nodes second.nodes := by
  obtain ⟨parameters, values⟩ := lifted
  exact .cons parameters (.cons values .nil)

theorem Signature.Lifted.nodes {first second : Signature} (lifted : first.Lifted S second) :
    List.Forall₂ S first.nodes second.nodes := by
  obtain ⟨related⟩ := lifted
  exact related

theorem ComponentSignature.Lifted.nodes {first second : ComponentSignature}
    (lifted : first.Lifted S second) : List.Forall₂ S first.nodes second.nodes := by
  obtain ⟨related⟩ := lifted
  exact forall₂_toList related

theorem Method.Lifted.nodes {first second : Method} (lifted : first.Lifted S second) :
    List.Forall₂ S first.nodes second.nodes := by
  obtain ⟨related⟩ := lifted
  exact List.rel_flatMap related fun _ _ => Signature.Lifted.nodes

theorem Accessor.Lifted.nodes {first second : Accessor} (lifted : first.Lifted S second) :
    List.Forall₂ S first.nodes second.nodes := by
  obtain ⟨related⟩ := lifted
  exact forall₂_toList related

namespace Node.Lifted

variable {H : Header → Header → Prop} {V : Value → Value → Prop} {first second : Node}

theorem headers (lifted : first.Lifted H V S second) : H first.header second.header := by
  cases lifted <;> assumption

theorem children (lifted : first.Lifted H V S second) :
    List.Forall₂ S first.children second.children := by
  cases lifted with
  | primitive | enum | reference => exact .nil
  | object headers related relatedIndexes =>
      exact List.rel_append related
        (List.rel_flatMap (forall₂_getD relatedIndexes) fun _ _ => IndexSignature.Lifted.nodes)
  | array headers related => exact .cons related .nil
  | tuple headers related | union headers related | intersection headers related
  | generic headers related => exact related
  | function headers related => exact List.rel_flatMap related fun _ _ => Signature.Lifted.nodes
  | component headers related =>
      exact List.rel_flatMap related fun _ _ => ComponentSignature.Lifted.nodes
  | classType headers related relatedMethods relatedAccessors relatedConstructors =>
      have methods := List.rel_flatMap relatedMethods fun _ _ => Method.Lifted.nodes
      have accessors := List.rel_flatMap (forall₂_getD relatedAccessors) fun _ _ =>
        Accessor.Lifted.nodes
      have constructors := List.rel_flatMap (forall₂_getD relatedConstructors) fun _ _ =>
        Signature.Lifted.nodes
      exact List.rel_append (List.rel_append (List.rel_append related methods) accessors)
        constructors

/-- Other headers change nothing else. -/
theorem mapHeader (lifted : first.Lifted H V S second) {f g : Header → Header}
    (same : H (f first.header) (g second.header)) :
    (first.mapHeader f).Lifted H V S (second.mapHeader g) := by
  cases lifted with
  | primitive headers values => exact .primitive same values
  | object headers related relatedIndexes => exact .object same related relatedIndexes
  | array headers related => exact .array same related
  | tuple headers related => exact .tuple same related
  | union headers related => exact .union same related
  | intersection headers related => exact .intersection same related
  | function headers related => exact .function same related
  | component headers related => exact .component same related
  | classType headers related relatedMethods relatedAccessors relatedConstructors =>
      exact .classType same related relatedMethods relatedAccessors relatedConstructors
  | enum headers values => exact .enum same values
  | generic headers related => exact .generic same related
  | reference headers => exact .reference same

end Node.Lifted

end Children

/-! ## Equal nodes -/

section Equality

variable {S : Node → Node → Prop}

theorem eq_of_forall₂ {α : Type} {R : α → α → Prop} {as bs : List α}
    (aligned : List.Forall₂ R as bs) (each : ∀ a ∈ as, ∀ b, R a b → a = b) : as = bs :=
  List.forall₂_eq_eq_eq ▸ forall₂_imp_of_mem aligned fun a among b _ => each a among b

theorem eq_of_rel {α : Type} {R : α → α → Prop} {a b : Option α} (related : Option.Rel R a b)
    (each : ∀ x ∈ a.toList, ∀ y, R x y → x = y) : a = b := by
  cases related with
  | some related => exact congrArg some (each _ (by simp) _ related)
  | none => rfl

/-- The lists of two options are equal if their items are. -/
theorem eq_of_rel_forall₂ {α : Type} {R : α → α → Prop} {as bs : Option (List α)}
    (related : Option.Rel (List.Forall₂ R) as bs) (each : ∀ a ∈ as.getD [], ∀ b, R a b → a = b) :
    as = bs := by
  cases related with
  | some related => exact congrArg some (eq_of_forall₂ related each)
  | none => rfl

theorem IndexSignature.Lifted.eq {first second : IndexSignature}
    (same : ∀ node ∈ first.nodes, ∀ other, S node other → node = other)
    (lifted : first.Lifted S second) : first = second := by
  obtain ⟨parameters, values⟩ := lifted
  rw [same _ (by simp [IndexSignature.nodes]) _ parameters,
    same _ (by simp [IndexSignature.nodes]) _ values]

theorem Signature.Lifted.eq {first second : Signature}
    (same : ∀ node ∈ first.nodes, ∀ other, S node other → node = other)
    (lifted : first.Lifted S second) : first = second := by
  obtain ⟨related⟩ := lifted
  rw [eq_of_forall₂ related same]

theorem ComponentSignature.Lifted.eq {first second : ComponentSignature}
    (same : ∀ node ∈ first.nodes, ∀ other, S node other → node = other)
    (lifted : first.Lifted S second) : first = second := by
  obtain ⟨related⟩ := lifted
  rw [eq_of_rel related same]

theorem Method.Lifted.eq {first second : Method}
    (same : ∀ node ∈ first.nodes, ∀ other, S node other → node = other)
    (lifted : first.Lifted S second) : first = second := by
  obtain ⟨related⟩ := lifted
  rw [eq_of_forall₂ related fun signature among _ => Signature.Lifted.eq fun node inside =>
    same node (List.mem_flatMap.2 ⟨signature, among, inside⟩)]

theorem Accessor.Lifted.eq {first second : Accessor}
    (same : ∀ node ∈ first.nodes, ∀ other, S node other → node = other)
    (lifted : first.Lifted S second) : first = second := by
  obtain ⟨related⟩ := lifted
  rw [eq_of_rel related same]

/-- Nodes of one class are equal if everything of theirs is. -/
theorem Node.Lifted.eq {H : Header → Header → Prop} {V : Value → Value → Prop}
    {first second : Node} (sameHeaders : ∀ {header other}, H header other → header = other)
    (sameValues : ∀ {value other}, V value other → value = other)
    (same : ∀ child ∈ first.children, ∀ other, S child other → child = other)
    (lifted : first.Lifted H V S second) : first = second := by
  cases lifted with
  | primitive headers values => rw [sameHeaders headers, sameValues values]
  | object headers related relatedIndexes =>
      rw [sameHeaders headers, eq_of_forall₂ related fun property among =>
          same property (List.mem_append_left _ among),
        eq_of_rel_forall₂ relatedIndexes fun signature among _ =>
          IndexSignature.Lifted.eq fun node inside =>
            same node (List.mem_append_right _ (List.mem_flatMap.2 ⟨signature, among, inside⟩))]
  | array headers related => rw [sameHeaders headers, same _ (List.mem_singleton_self _) _ related]
  | tuple headers related | union headers related | intersection headers related
  | generic headers related => rw [sameHeaders headers, eq_of_forall₂ related same]
  | function headers related =>
      rw [sameHeaders headers, eq_of_forall₂ related fun signature among _ =>
        Signature.Lifted.eq fun node inside =>
          same node (List.mem_flatMap.2 ⟨signature, among, inside⟩)]
  | component headers related =>
      rw [sameHeaders headers, eq_of_forall₂ related fun signature among _ =>
        ComponentSignature.Lifted.eq fun node inside =>
          same node (List.mem_flatMap.2 ⟨signature, among, inside⟩)]
  | classType headers related relatedMethods relatedAccessors relatedConstructors =>
      simp only [Node.children, List.mem_append, List.mem_flatMap] at same
      rw [sameHeaders headers,
        eq_of_forall₂ related fun property among => same property (.inl (.inl (.inl among))),
        eq_of_forall₂ relatedMethods fun method among _ => Method.Lifted.eq fun node inside =>
          same node (.inl (.inl (.inr ⟨method, among, inside⟩))),
        eq_of_rel_forall₂ relatedAccessors fun accessor among _ =>
          Accessor.Lifted.eq fun node inside => same node (.inl (.inr ⟨accessor, among, inside⟩)),
        eq_of_rel_forall₂ relatedConstructors fun signature among _ =>
          Signature.Lifted.eq fun node inside => same node (.inr ⟨signature, among, inside⟩)]
  | enum headers values => rw [sameHeaders headers, Value.object.inj (sameValues values)]
  | reference headers => rw [sameHeaders headers]

end Equality

end TypeGloss
