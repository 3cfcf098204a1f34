/-
# TypeGloss.Proofs.Documentation.Injective — a document determines its node

Fields without a value are left out of a document, at every level. Still no two nodes have
one document: what is left out is told apart from an empty list, from false and from a null
default, and a node whose kind is the one of its class is not mistaken for a node of another
class (`Document.ofNode_injective`). The result does not depend on what is meant by equal data.

The document of a node is a table of two groups of fields, those of its header and its own, in
which no name occurs twice (`Document.ofNode_eq`, `Document.nodup_keys`). So equal documents
have the same fields in each group, and each field determines what it was made of.
-/
import TypeGloss.Documentation.Schema
import TypeGloss.Proofs.Documentation.PlainData

namespace TypeGloss

set_option autoImplicit false

/-! ## Nodes with equal fields -/

/-- Headers that are equal up to their defaults, which are related. -/
structure Header.Same (R : Value → Value → Prop) (first second : Header) : Prop where
  default : Option.Rel R first.default second.default
  others : { first with default := none } = { second with default := none }

/-- Nodes of one class with the same fields at every level: their defaults, literals and enum
members are related. -/
inductive Node.Same (R : Value → Value → Prop) : Node → Node → Prop where
  | mk {first second : Node} (lifted : first.Lifted (Header.Same R) R (Node.Same R) second) :
      Same R first second

theorem Header.Same.eq {first second : Header} (same : first.Same Eq second) : first = second := by
  have defaults : first.default = second.default := eq_of_rel same.default fun _ _ _ => id
  calc first = { { first with default := none } with default := first.default } := rfl
    _ = { { second with default := none } with default := second.default } := by
        rw [same.others, defaults]
    _ = second := rfl

theorem Node.Same.eq (first : Node) : ∀ {second : Node}, first.Same Eq second → first = second := by
  induction first using Node.childrenInduction with
  | step node ih =>
      rintro second ⟨lifted⟩
      exact lifted.eq Header.Same.eq id fun child member _ => ih child member

/-- The class of nodes that a kind belongs to. -/
def Kind.nodeClass? : Kind → Option PieceClass
  | string | number | boolean | bigInt | symbol | null | undefined | void | any | unknown | never
  | objectKeyword => some .primitive
  | object => some .object
  | array => some .array
  | tuple => some .tuple
  | union => some .union
  | intersection => some .intersection
  | function => some .function
  | component => some .component
  | classType => some .classType
  | enum => some .enum
  | generic => some .generic
  | reference => some .reference
  | functionSignature | componentSignature | classMethod | classAccessor | indexSignature => none

namespace Node

/-- The class of a node. -/
def pieceClass : Node → PieceClass
  | primitive _ _ => .primitive
  | object _ _ _ => .object
  | array _ _ => .array
  | tuple _ _ => .tuple
  | union _ _ => .union
  | intersection _ _ => .intersection
  | function _ _ => .function
  | component _ _ => .component
  | classType _ _ _ _ _ => .classType
  | enum _ _ => .enum
  | generic _ _ _ => .generic
  | reference _ => .reference

/-- The value that a node is about: a literal's, or the table of an enum. -/
def ownValue? : Node → Option Value
  | primitive _ value => some value
  | enum _ members => some (.object members)
  | _ => none

/-- A node has the kind of its class, and its values are finite. -/
structure IsProper (node : Node) : Prop where
  kind : node.header.kind.nodeClass? = some node.pieceClass
  default : ∀ v ∈ node.header.default, v.isFinite = true
  value : ∀ v ∈ node.ownValue?, v.isFinite = true

end Node

namespace Document

/-! ## The fields of a node -/

theorem ofNodes_eq_map (nodes : List Node) : ofNodes nodes = nodes.map ofNode := by
  induction nodes with
  | nil => rfl
  | cons node rest ih => rw [ofNodes, ih, List.map_cons]

theorem ofIndexSignatures_eq_map (signatures : List IndexSignature) :
    ofIndexSignatures signatures = signatures.map ofIndexSignature := by
  induction signatures with
  | nil => rfl
  | cons signature rest ih => rw [ofIndexSignatures, ih, List.map_cons]

theorem ofSignatures_eq_map (signatures : List Signature) :
    ofSignatures signatures = signatures.map ofSignature := by
  induction signatures with
  | nil => rfl
  | cons signature rest ih => rw [ofSignatures, ih, List.map_cons]

theorem ofComponentSignatures_eq_map (signatures : List ComponentSignature) :
    ofComponentSignatures signatures = signatures.map ofComponentSignature := by
  induction signatures with
  | nil => rfl
  | cons signature rest ih => rw [ofComponentSignatures, ih, List.map_cons]

theorem ofMethods_eq_map (methods : List Method) : ofMethods methods = methods.map ofMethod := by
  induction methods with
  | nil => rfl
  | cons method rest ih => rw [ofMethods, ih, List.map_cons]

theorem ofAccessors_eq_map (accessors : List Accessor) :
    ofAccessors accessors = accessors.map ofAccessor := by
  induction accessors with
  | nil => rfl
  | cons accessor rest ih => rw [ofAccessors, ih, List.map_cons]

/-- The names of a header's fields. -/
def headerKeys : List String :=
  ["kind", "type"] ++ ["name"] ++ ["filePath"] ++ ["position"] ++ ["description"] ++ ["tags"] ++
    ["isOptional"] ++ ["isReadonly"] ++ ["isRest"] ++ ["defaultValue"] ++ ["scope"] ++
    ["visibility"]

/-- The names of the last fields of a method or an accessor. -/
def tailKeys : List String :=
  ["scope"] ++ ["visibility"] ++ ["filePath"] ++ ["position"] ++ ["description"] ++ ["tags"]

/-- The fields of a node that follow those of its header. -/
def ownFields : Node → Entries Document
  | .primitive _ content => unlessNull "value" content.finite
  | .object _ properties indexes =>
      [("properties", .list (properties.map ofNode))] ++
        field? "indexSignatures" (fun indexes => .list (indexes.map ofIndexSignature)) indexes
  | .array _ element => [("element", ofNode element)]
  | .tuple _ elements => [("elements", .list (elements.map ofNode))]
  | .union _ members => [("members", .list (members.map ofNode))]
  | .intersection _ properties => [("properties", .list (properties.map ofNode))]
  | .function _ signatures => [("signatures", .list (signatures.map ofSignature))]
  | .component _ signatures => [("signatures", .list (signatures.map ofComponentSignature))]
  | .classType _ properties methods accessors constructors =>
      [("properties", .list (properties.map ofNode)), ("methods", .list (methods.map ofMethod))] ++
        field? "accessors" (fun accessors => .list (accessors.map ofAccessor)) accessors ++
        field? "constructors" (fun signatures => .list (signatures.map ofSignature)) constructors
  | .enum _ members => [("members", .value (Value.object members).finite)]
  | .generic _ typeName arguments =>
      [("typeName", text typeName), ("arguments", .list (arguments.map ofNode))]
  | .reference _ => []

/-- The names of the fields that a class adds to a header. -/
def ownKeys : PieceClass → List String
  | .primitive => ["value"]
  | .object => ["properties"] ++ ["indexSignatures"]
  | .array => ["element"]
  | .tuple => ["elements"]
  | .union | .enum => ["members"]
  | .intersection => ["properties"]
  | .function | .component => ["signatures"]
  | .classType => ["properties", "methods"] ++ ["accessors"] ++ ["constructors"]
  | .generic => ["typeName", "arguments"]
  | _ => []

/-- A document has the fields of the header first, then those of the class. -/
theorem ofNode_eq (node : Node) :
    ofNode node = record (ofHeader node.header ++ ownFields node) := by
  cases node with
  | object header properties indexes =>
      cases indexes <;>
        simp [ofNode, ownFields, Node.header, field?, ofNodes_eq_map, ofIndexSignatures_eq_map]
  | classType header properties methods accessors constructors =>
      cases accessors <;> cases constructors <;>
        simp [ofNode, ownFields, Node.header, field?, ofNodes_eq_map, ofMethods_eq_map,
          ofAccessors_eq_map, ofSignatures_eq_map]
  | _ =>
      simp [ofNode, ownFields, Node.header, ofNodes_eq_map, ofSignatures_eq_map,
        ofComponentSignatures_eq_map]

theorem ofComponentSignature_eq (kind : Kind) (type : String) (parameter : Option Node)
    (returnType : String) (modifier : Option Modifier) :
    ofComponentSignature (.mk kind type parameter returnType modifier) =
      record ([("kind", ofKind kind), ("type", text type)] ++ field? "parameter" ofNode parameter ++
        [("returnType", text returnType)] ++ field? "modifier" ofModifier modifier) := by
  cases parameter <;> rfl

theorem ofAccessor_eq (header : MemberHeader) (accessor : String) (returnType : Option String)
    (parameter : Option Node) :
    ofAccessor (.mk header accessor returnType parameter) =
      record ([("kind", ofKind header.kind), ("name", text header.name),
        ("accessor", text accessor), ("type", text header.type)] ++
        field? "returnType" text returnType ++ field? "parameter" ofNode parameter ++
        ofMemberTail header) := by
  cases parameter <;> rfl

theorem names_ofHeader (header : Header) :
    (Entries.names (ofHeader header)).Sublist headerKeys := by
  simp only [ofHeader, headerKeys, Entries.names_append]
  repeat' apply List.Sublist.append
  all_goals first | exact names_field? _ | exact names_scopeField _ | exact .refl _

theorem names_ofMemberTail (header : MemberHeader) :
    (Entries.names (ofMemberTail header)).Sublist tailKeys := by
  simp only [ofMemberTail, tailKeys, Entries.names_append]
  repeat' apply List.Sublist.append
  all_goals first | exact names_field? _ | exact names_scopeField _

theorem names_ownFields (node : Node) :
    (Entries.names (ownFields node)).Sublist (ownKeys node.pieceClass) := by
  cases node with
  | primitive header content => exact names_unlessNull _
  | object header properties indexes =>
      rw [ownFields, Entries.names_append]
      exact (List.Sublist.refl _).append (names_field? _)
  | classType header properties methods accessors constructors =>
      simp only [ownFields, Entries.names_append]
      exact ((List.Sublist.refl _).append (names_field? _)).append (names_field? _)
  | _ => exact .refl _

theorem nodup_keys (cls : PieceClass) : (headerKeys ++ ownKeys cls).Nodup := by
  cases cls <;> decide

/-! ## What equal documents are made of -/

section Pieces

variable {R : Value → Value → Prop}

/-- The scope of a member can be told from the field for it. -/
theorem same_scope {isStatic other : Bool}
    (same : Option.Rel (Same R) (if isStatic then some (text "static") else none)
      (if other then some (text "static") else none)) : isStatic = other := by
  cases isStatic <;> cases other <;> first | rfl | cases same

variable (equality : Value.IsEquality R)

include equality

theorem same_lineColumn {p q : LineColumn} (same : Same R (ofLineColumn p) (ofLineColumn q)) :
    p = q := by
  obtain ⟨line, column⟩ := p
  obtain ⟨line', column'⟩ := q
  have entry := rel_of_same_keys equality same ["line", "column"] (by decide) (.refl _)
    (.refl _)
  have lines := entry "line"
  have columns := entry "column"
  simp [Entries.find?] at lines columns
  rw [Int.ofNat.inj (equality.integer lines), Int.ofNat.inj (equality.integer columns)]

theorem same_position {p q : Position} (same : Same R (ofPosition p) (ofPosition q)) : p = q := by
  obtain ⟨start, stop⟩ := p
  obtain ⟨start', stop'⟩ := q
  have entry := rel_of_same_keys equality same ["start", "end"] (by decide) (.refl _)
    (.refl _)
  have starts := entry "start"
  have stops := entry "end"
  simp [Entries.find?] at starts stops
  rw [same_lineColumn equality starts, same_lineColumn equality stops]

theorem same_tag {tag other : Tag} (same : Same R (ofTag tag) (ofTag other)) : tag = other := by
  obtain ⟨name, comment⟩ := tag
  obtain ⟨name', comment'⟩ := other
  have entry := rel_of_same_keys equality same ["tagName", "text"] (by decide)
    ((names_field? _).cons_cons _) ((names_field? _).cons_cons _)
  have names := entry "tagName"
  have texts := entry "text"
  simp [Entries.find?] at names texts
  rw [same_text equality names, eq_of_same_field texts (same_text equality)]

theorem same_tags {tags others : List Tag} (same : Same R (ofTags tags) (ofTags others)) :
    tags = others :=
  eq_of_forall₂ (forall₂_of_same equality same fun _ _ _ _ => same_tag equality) fun _ _ _ => id

/-- Equal fields make equal headers, up to what is equal about defaults. -/
theorem same_header {first second : Header} (finite : ∀ v ∈ first.default, v.isFinite = true)
    (finite' : ∀ v ∈ second.default, v.isFinite = true)
    (entry : ∀ name, Option.Rel (Same R) (Entries.find? name (ofHeader first))
      (Entries.find? name (ofHeader second))) : first.Same R second := by
  have kinds := entry "kind"
  have types := entry "type"
  have names := entry "name"
  have paths := entry "filePath"
  have positions := entry "position"
  have descriptions := entry "description"
  have tags := entry "tags"
  have optional := entry "isOptional"
  have readonly := entry "isReadonly"
  have rest := entry "isRest"
  have defaults := entry "defaultValue"
  have scopes := entry "scope"
  have visibilities := entry "visibility"
  simp [ofHeader, Entries.find?] at kinds types names paths positions descriptions tags
  simp [ofHeader, Entries.find?] at optional readonly rest defaults scopes visibilities
  constructor
  · refine rel_of_same_field defaults fun a among b among' same => ?_
    rw [Value.finite_of_isFinite (finite a (Option.mem_toList.1 among)),
      Value.finite_of_isFinite (finite' b (Option.mem_toList.1 among'))] at same
    exact same
  · obtain ⟨⟩ := first
    obtain ⟨⟩ := second
    simp only [Header.mk.injEq]
    exact ⟨same_kind equality kinds, same_text equality types,
      eq_of_same_field names (same_text equality), eq_of_same_field paths (same_text equality),
      eq_of_same_field positions (same_position equality),
      eq_of_same_field descriptions (same_text equality),
      eq_of_same_field tags (same_tags equality), eq_of_same_field optional (same_flag equality),
      eq_of_same_field readonly (same_flag equality), eq_of_same_field rest (same_flag equality),
      trivial, same_scope scopes, eq_of_same_field visibilities (same_visibility equality)⟩

/-- Equal fields make equal headers of members. -/
theorem same_memberHeader {first second : MemberHeader} (kinds : first.kind = second.kind)
    (names : first.name = second.name) (types : first.type = second.type)
    (entry : ∀ name, Option.Rel (Same R) (Entries.find? name (ofMemberTail first))
      (Entries.find? name (ofMemberTail second))) : first = second := by
  have scopes := entry "scope"
  have visibilities := entry "visibility"
  have paths := entry "filePath"
  have positions := entry "position"
  have descriptions := entry "description"
  have tags := entry "tags"
  simp [ofMemberTail] at scopes visibilities paths positions descriptions tags
  obtain ⟨⟩ := first
  obtain ⟨⟩ := second
  simp only [MemberHeader.mk.injEq]
  exact ⟨kinds, names, types, same_scope scopes,
    eq_of_same_field visibilities (same_visibility equality),
    eq_of_same_field paths (same_text equality),
    eq_of_same_field positions (same_position equality),
    eq_of_same_field descriptions (same_text equality), eq_of_same_field tags (same_tags equality)⟩

variable {S : Node → Node → Prop}

/-- Equal documents of index signatures lift equality to the nodes inside. -/
theorem lifted_indexSignature {first second : IndexSignature}
    (reads : ∀ node ∈ first.nodes, ∀ other ∈ second.nodes,
      Same R (ofNode node) (ofNode other) → S node other)
    (same : Same R (ofIndexSignature first) (ofIndexSignature second)) : first.Lifted S second := by
  obtain ⟨kind, type, parameter, value, isReadonly⟩ := first
  obtain ⟨kind', type', parameter', value', isReadonly'⟩ := second
  have entry := rel_of_same_keys equality same
    (["kind", "type", "parameter", "value"] ++ ["isReadonly"]) (by decide)
    (Entries.names_append_sublist (.refl _) (names_field? _))
    (Entries.names_append_sublist (.refl _) (names_field? _))
  have kinds := entry "kind"
  have types := entry "type"
  have parameters := entry "parameter"
  have values := entry "value"
  have readonly := entry "isReadonly"
  simp [Entries.find?] at kinds types parameters values readonly
  obtain rfl := same_kind equality kinds
  obtain rfl := same_text equality types
  obtain rfl := eq_of_same_field readonly (same_flag equality)
  exact .mk (reads _ (by simp [IndexSignature.nodes]) _ (by simp [IndexSignature.nodes]) parameters)
    (reads _ (by simp [IndexSignature.nodes]) _ (by simp [IndexSignature.nodes]) values)

/-- A signature can be read back if the nodes in it can. -/
theorem lifted_signature {first second : Signature}
    (reads : ∀ node ∈ first.nodes, ∀ other ∈ second.nodes,
      Same R (ofNode node) (ofNode other) → S node other)
    (same : Same R (ofSignature first) (ofSignature second)) : first.Lifted S second := by
  obtain ⟨kind, type, parameters, returnType, modifier⟩ := first
  obtain ⟨kind', type', parameters', returnType', modifier'⟩ := second
  have entry := rel_of_same_keys equality same
    (["kind", "type", "parameters", "returnType"] ++ ["modifier"]) (by decide)
    (Entries.names_append_sublist (.refl _) (names_field? _))
    (Entries.names_append_sublist (.refl _) (names_field? _))
  have kinds := entry "kind"
  have types := entry "type"
  have nodes := entry "parameters"
  have returnTypes := entry "returnType"
  have modifiers := entry "modifier"
  simp [Entries.find?, ofNodes_eq_map] at kinds types nodes returnTypes modifiers
  obtain rfl := same_kind equality kinds
  obtain rfl := same_text equality types
  obtain rfl := same_text equality returnTypes
  obtain rfl := eq_of_same_field modifiers (same_modifier equality)
  exact .mk (forall₂_of_same equality nodes reads)

/-- Equal documents of component signatures lift equality to the nodes inside. -/
theorem lifted_componentSignature {first second : ComponentSignature}
    (reads : ∀ node ∈ first.nodes, ∀ other ∈ second.nodes,
      Same R (ofNode node) (ofNode other) → S node other)
    (same : Same R (ofComponentSignature first) (ofComponentSignature second)) :
    first.Lifted S second := by
  obtain ⟨kind, type, parameter, returnType, modifier⟩ := first
  obtain ⟨kind', type', parameter', returnType', modifier'⟩ := second
  rw [ofComponentSignature_eq, ofComponentSignature_eq] at same
  have within {front last : Entries Document} (parameter : Option Node)
      (modifier : Option Modifier) :
      (Entries.names (front ++ field? "parameter" ofNode parameter ++ last ++
        field? "modifier" ofModifier modifier)).Sublist
        (Entries.names front ++ ["parameter"] ++ Entries.names last ++ ["modifier"]) :=
    Entries.names_append_sublist (Entries.names_append_sublist
      (Entries.names_append_sublist (.refl _) (names_field? _)) (.refl _)) (names_field? _)
  have entry := rel_of_same_keys equality same
    (["kind", "type"] ++ ["parameter"] ++ ["returnType"] ++ ["modifier"]) (by decide)
    (within _ _) (within _ _)
  have kinds := entry "kind"
  have types := entry "type"
  have nodes := entry "parameter"
  have returnTypes := entry "returnType"
  have modifiers := entry "modifier"
  simp [Entries.find?] at kinds types nodes returnTypes modifiers
  obtain rfl := same_kind equality kinds
  obtain rfl := same_text equality types
  obtain rfl := same_text equality returnTypes
  obtain rfl := eq_of_same_field modifiers (same_modifier equality)
  exact .mk (rel_of_same_field nodes reads)

/-- Equal documents of methods lift equality to the nodes inside. -/
theorem lifted_method {first second : Method}
    (reads : ∀ node ∈ first.nodes, ∀ other ∈ second.nodes,
      Same R (ofNode node) (ofNode other) → S node other)
    (same : Same R (ofMethod first) (ofMethod second)) : first.Lifted S second := by
  obtain ⟨header, signatures⟩ := first
  obtain ⟨header', signatures'⟩ := second
  have entry := rel_groups_of_same equality same ["kind", "name", "type", "signatures"]
    (by decide) (by decide) (.refl _) (.refl _) (names_ofMemberTail _) (names_ofMemberTail _)
  have kinds := (entry "kind").1
  have names := (entry "name").1
  have types := (entry "type").1
  have nodes := (entry "signatures").1
  simp [Entries.find?, ofSignatures_eq_map] at kinds names types nodes
  obtain rfl := same_memberHeader equality (same_kind equality kinds) (same_text equality names)
    (same_text equality types) fun name => (entry name).2
  refine .mk (forall₂_of_same equality nodes fun signature among signature' among' => ?_)
  exact lifted_signature equality fun node inside other inside' =>
    reads node (List.mem_flatMap.2 ⟨signature, among, inside⟩) other
      (List.mem_flatMap.2 ⟨signature', among', inside'⟩)

/-- Equal documents of accessors lift equality to the nodes inside. -/
theorem lifted_accessor {first second : Accessor}
    (reads : ∀ node ∈ first.nodes, ∀ other ∈ second.nodes,
      Same R (ofNode node) (ofNode other) → S node other)
    (same : Same R (ofAccessor first) (ofAccessor second)) : first.Lifted S second := by
  obtain ⟨header, accessor, returnType, parameter⟩ := first
  obtain ⟨header', accessor', returnType', parameter'⟩ := second
  rw [ofAccessor_eq, ofAccessor_eq] at same
  have within {front : Entries Document} (returnType : Option String) (parameter : Option Node) :
      (Entries.names (front ++ field? "returnType" text returnType ++
        field? "parameter" ofNode parameter)).Sublist
        (Entries.names front ++ ["returnType"] ++ ["parameter"]) :=
    Entries.names_append_sublist (Entries.names_append_sublist (.refl _) (names_field? _))
      (names_field? _)
  have entry := rel_groups_of_same equality same
    (["kind", "name", "accessor", "type"] ++ ["returnType"] ++ ["parameter"])
    (by decide) (by decide) (within _ _) (within _ _) (names_ofMemberTail _) (names_ofMemberTail _)
  have kinds := (entry "kind").1
  have names := (entry "name").1
  have accessors := (entry "accessor").1
  have types := (entry "type").1
  have returnTypes := (entry "returnType").1
  have nodes := (entry "parameter").1
  simp [Entries.find?] at kinds names accessors types returnTypes nodes
  obtain rfl := same_memberHeader equality (same_kind equality kinds) (same_text equality names)
    (same_text equality types) fun name => (entry name).2
  obtain rfl := same_text equality accessors
  obtain rfl := eq_of_same_field returnTypes (same_text equality)
  exact .mk (rel_of_same_field nodes reads)

/-- Objects with equal fields have the same properties and index signatures. -/
theorem lifted_object {header header' : Header} {properties properties' : List Node}
    {indexes indexes' : Option (List IndexSignature)} (headers : header.Same R header')
    (reads : ∀ child ∈ (Node.object header properties indexes).children,
      ∀ other ∈ (Node.object header' properties' indexes').children,
        Same R (ofNode child) (ofNode other) → S child other)
    (entry : ∀ name, Option.Rel (Same R)
      (Entries.find? name (ownFields (.object header properties indexes)))
      (Entries.find? name (ownFields (.object header' properties' indexes')))) :
    (Node.object header properties indexes).Lifted (Header.Same R) R S
      (.object header' properties' indexes') := by
  have lists := entry "properties"
  have indexLists := entry "indexSignatures"
  simp [ownFields, Entries.find?] at lists indexLists
  simp only [Node.children, List.mem_append, List.mem_flatMap] at reads
  refine .object headers ?_ (rel_lists_of_same_field equality indexLists ?_)
  · exact forall₂_of_same equality lists fun child among other among' =>
      reads child (.inl among) other (.inl among')
  · intro signature among signature' among'
    exact lifted_indexSignature equality fun node inside other inside' =>
      reads node (.inr ⟨signature, among, inside⟩) other (.inr ⟨signature', among', inside'⟩)

/-- Classes with equal fields have the same members of every kind. -/
theorem lifted_classType {header header' : Header} {properties properties' : List Node}
    {methods methods' : List Method} {accessors accessors' : Option (List Accessor)}
    {constructors constructors' : Option (List Signature)} (headers : header.Same R header')
    (reads : ∀ child ∈ (Node.classType header properties methods accessors constructors).children,
      ∀ other ∈ (Node.classType header' properties' methods' accessors' constructors').children,
        Same R (ofNode child) (ofNode other) → S child other)
    (entry : ∀ name, Option.Rel (Same R)
      (Entries.find? name
        (ownFields (.classType header properties methods accessors constructors)))
      (Entries.find? name
        (ownFields (.classType header' properties' methods' accessors' constructors')))) :
    (Node.classType header properties methods accessors constructors).Lifted (Header.Same R) R S
      (.classType header' properties' methods' accessors' constructors') := by
  have lists := entry "properties"
  have methodLists := entry "methods"
  have accessorLists := entry "accessors"
  have constructorLists := entry "constructors"
  simp [ownFields, Entries.find?] at lists methodLists accessorLists constructorLists
  simp only [Node.children, List.mem_append, List.mem_flatMap] at reads
  refine .classType headers ?_ (forall₂_of_same equality methodLists ?_)
    (rel_lists_of_same_field equality accessorLists ?_)
    (rel_lists_of_same_field equality constructorLists ?_)
  · exact forall₂_of_same equality lists fun child among other among' =>
      reads child (.inl (.inl (.inl among))) other (.inl (.inl (.inl among')))
  · intro method among method' among'
    exact lifted_method equality fun node inside other inside' =>
      reads node (.inl (.inl (.inr ⟨method, among, inside⟩))) other
        (.inl (.inl (.inr ⟨method', among', inside'⟩)))
  · intro accessor among accessor' among'
    exact lifted_accessor equality fun node inside other inside' =>
      reads node (.inl (.inr ⟨accessor, among, inside⟩)) other
        (.inl (.inr ⟨accessor', among', inside'⟩))
  · intro signature among signature' among'
    exact lifted_signature equality fun node inside other inside' =>
      reads node (.inr ⟨signature, among, inside⟩) other (.inr ⟨signature', among', inside'⟩)

/-- Nodes with equal documents are of one class, with the same header and the same fields,
given what equal documents say about their children. -/
theorem lifted_node {first second : Node} (proper : first.IsProper) (proper' : second.IsProper)
    (reads : ∀ child ∈ first.children, ∀ other ∈ second.children,
      Same R (ofNode child) (ofNode other) → S child other)
    (same : Same R (ofNode first) (ofNode second)) : first.Lifted (Header.Same R) R S second := by
  rw [ofNode_eq, ofNode_eq] at same
  have entry := rel_groups_of_same equality same headerKeys (nodup_keys _) (nodup_keys _)
    (names_ofHeader _) (names_ofHeader _) (names_ownFields _) (names_ownFields _)
  have headers := same_header equality proper.default proper'.default fun name => (entry name).1
  have sameClass : first.pieceClass = second.pieceClass := by
    have kinds : first.header.kind = second.header.kind := (Header.mk.inj headers.others).1
    exact Option.some.inj (proper.kind.symm.trans (kinds ▸ proper'.kind))
  replace entry := fun name => (entry name).2
  cases first with
  | primitive header content =>
      cases second with
      | primitive header' content' =>
          have values := same_of_unlessNull equality.null (entry "value")
          rw [Value.finite_of_isFinite (proper.value content rfl),
            Value.finite_of_isFinite (proper'.value content' rfl)] at values
          exact .primitive headers values
      | _ => cases sameClass
  | object header properties indexes =>
      cases second with
      | object header' properties' indexes' => exact lifted_object equality headers reads entry
      | _ => cases sameClass
  | array header element =>
      cases second with
      | array header' element' =>
          have elements := entry "element"
          simp [ownFields, Entries.find?] at elements
          exact .array headers
            (reads _ (List.mem_singleton_self _) _ (List.mem_singleton_self _) elements)
      | _ => cases sameClass
  | tuple header elements =>
      cases second with
      | tuple header' elements' =>
          have lists := entry "elements"
          simp [ownFields, Entries.find?] at lists
          exact .tuple headers (forall₂_of_same equality lists reads)
      | _ => cases sameClass
  | union header members =>
      cases second with
      | union header' members' =>
          have lists := entry "members"
          simp [ownFields, Entries.find?] at lists
          exact .union headers (forall₂_of_same equality lists reads)
      | _ => cases sameClass
  | intersection header properties =>
      cases second with
      | intersection header' properties' =>
          have lists := entry "properties"
          simp [ownFields, Entries.find?] at lists
          exact .intersection headers (forall₂_of_same equality lists reads)
      | _ => cases sameClass
  | function header signatures =>
      cases second with
      | function header' signatures' =>
          have lists := entry "signatures"
          simp [ownFields, Entries.find?] at lists
          simp only [Node.children, List.mem_flatMap] at reads
          refine .function headers (forall₂_of_same equality lists ?_)
          intro signature among signature' among'
          exact lifted_signature equality fun node inside other inside' =>
            reads node ⟨signature, among, inside⟩ other ⟨signature', among', inside'⟩
      | _ => cases sameClass
  | component header signatures =>
      cases second with
      | component header' signatures' =>
          have lists := entry "signatures"
          simp [ownFields, Entries.find?] at lists
          simp only [Node.children, List.mem_flatMap] at reads
          refine .component headers (forall₂_of_same equality lists ?_)
          intro signature among signature' among'
          exact lifted_componentSignature equality fun node inside other inside' =>
            reads node ⟨signature, among, inside⟩ other ⟨signature', among', inside'⟩
      | _ => cases sameClass
  | classType header properties methods accessors constructors =>
      cases second with
      | classType header' properties' methods' accessors' constructors' =>
          exact lifted_classType equality headers reads entry
      | _ => cases sameClass
  | enum header members =>
      cases second with
      | enum header' members' =>
          have values := entry "members"
          simp [ownFields, Entries.find?] at values
          rw [Value.finite_of_isFinite (proper.value _ rfl),
            Value.finite_of_isFinite (proper'.value _ rfl)] at values
          exact .enum headers values
      | _ => cases sameClass
  | generic header typeName arguments =>
      cases second with
      | generic header' typeName' arguments' =>
          have names := entry "typeName"
          have lists := entry "arguments"
          simp [ownFields, Entries.find?] at names lists
          obtain rfl := same_text equality names
          exact .generic headers (forall₂_of_same equality lists reads)
      | _ => cases sameClass
  | reference header =>
      cases second with
      | reference header' => exact .reference headers
      | _ => cases sameClass

/-- Whatever is meant by equal data, nodes with equal documents have the same fields. -/
theorem same_node {first : Node} : ∀ {second : Node}, first.Everywhere Node.IsProper →
    second.Everywhere Node.IsProper → Same R (ofNode first) (ofNode second) →
    first.Same R second := by
  induction first using Node.childrenInduction with
  | step first ih =>
      intro second proper proper' same
      rw [Node.everywhere_iff] at proper proper'
      exact .mk (lifted_node equality proper.1 proper'.1 (fun child among other among' =>
        ih child among (proper.2 child among) (proper'.2 other among')) same)

end Pieces

/-! ## Documents determine nodes -/

/-- The field of a record. -/
def at? (name : String) : Document → Option Document
  | record fields => Entries.find? name fields
  | _ => none

/-- A default is written if it was assigned, as it is. -/
theorem at?_defaultValue {node : Node} (proper : node.IsProper) :
    (ofNode node).at? "defaultValue" = node.header.default.map value := by
  have apart : "defaultValue" ∉ ownKeys node.pieceClass := fun own =>
    (List.nodup_append.1 (nodup_keys node.pieceClass)).2.2 _ (by decide) _ own rfl
  rw [ofNode_eq, at?, Entries.find?_append,
    Entries.find?_eq_none_of_sublist (names_ownFields node) apart]
  cases assigned : node.header.default with
  | none => simp [ofHeader, Entries.find?, assigned]
  | some v =>
      simp [ofHeader, Entries.find?, assigned, Value.finite_of_isFinite (proper.default v assigned)]

/-- The table of an enum is written as it is. -/
theorem at?_members {header : Header} {members : List (String × Value)}
    (proper : (Node.enum header members).IsProper) :
    (ofNode (.enum header members)).at? "members" = some (value (.object members)) := by
  have absent := Entries.find?_eq_none_of_sublist (names_ofHeader header)
    (show "members" ∉ headerKeys by decide)
  rw [ofNode_eq, at?, Entries.find?_append, Node.header, absent, ownFields,
    Value.finite_of_isFinite (proper.value _ rfl)]
  rfl

/-- Nodes whose documents are the same data are the same node: of one class, with the same
fields and the same defaults assigned at every level. If the data only agree, so do the
defaults, literals and enum members, and everything else is the same. In a document the key
`defaultValue` is there exactly where a default was assigned, with the default as it is, and an
enum's members are there as they are: null is no exception, neither as a default nor inside of
one. -/
theorem ofNode_injective {first second : Node} (proper : first.Everywhere Node.IsProper)
    (proper' : second.Everywhere Node.IsProper) :
    ((ofNode first).plain = (ofNode second).plain → first = second) ∧
      ((ofNode first).plain.agree (ofNode second).plain = true →
        first.Same Value.Agrees second) ∧
      ∀ above node, first.Occurs above node →
        (ofNode node).at? "defaultValue" = node.header.default.map value ∧
        ((ofNode node).at? "defaultValue").isSome = node.hasDefault ∧
        ∀ header members, node = .enum header members →
          (ofNode node).at? "members" = some (value (.object members)) := by
  refine ⟨fun same => ?_, fun agree => ?_, fun above node occurs => ?_⟩
  · exact (same_node Value.isEquality_eq proper proper' same).eq
  · have agrees : Value.Agrees (ofNode first).plain (ofNode second).plain := by
      rw [Value.Agrees, agree, Bool.or_true]
    exact same_node Value.isEquality_agrees proper proper' agrees
  · have here := proper above node occurs
    have written := at?_defaultValue here
    refine ⟨written, ?_, ?_⟩
    · rw [written, Option.isSome_map, Node.hasDefault]
    · rintro header members rfl
      exact at?_members here

namespace NullDefault

/-- A property that may have a default. -/
def property (default : Option Value) : Node :=
  .primitive { kind := .string, type := "string", name := some "x", default } .null

/-- An object with the property. -/
def tree (default : Option Value) : Node :=
  .object { kind := .object, type := "O" } [property default] none

theorem proper (default : Option Value) (finite : ∀ v ∈ default, v.isFinite = true) :
    (tree default).Everywhere Node.IsProper := by
  have inner : (property default).Everywhere Node.IsProper :=
    Node.everywhere_of_leaf rfl ⟨rfl, finite, by simp [property, Node.ownValue?, Value.isFinite]⟩
  refine Node.everywhere_iff.2
    ⟨⟨rfl, by simp [tree, Node.header], by simp [tree, Node.ownValue?]⟩, ?_⟩
  simpa [tree, Node.children] using inner

end NullDefault

/-- A default that is null, or has null inside, is told apart from none. -/
theorem ofNode_injective_nullDefault :
    (ofNode (NullDefault.tree (some .null))).plain ≠ (ofNode (NullDefault.tree none)).plain ∧
      (ofNode (NullDefault.property (some (.list [.null])))).at? "defaultValue" =
        some (value (.list [.null])) := by
  have null := NullDefault.proper (some .null) (by simp [Value.isFinite])
  have absent := NullDefault.proper none (by simp)
  have nested := NullDefault.proper (some (.list [.null]))
    (by simp [Value.isFinite, Value.areFinite])
  constructor
  · intro same
    have := (ofNode_injective null absent).1 same
    simp [NullDefault.tree, NullDefault.property] at this
  · exact ((ofNode_injective nested absent).2.2 1 _
      (.inside (by simp [NullDefault.tree, Node.children]) (.root _))).1

end Document

end TypeGloss
