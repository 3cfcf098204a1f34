/-
# TypeGloss.Proofs.Documentation.Layout — trees that differ in their layout

The constituents of an intersection can be documented in two ways: each as a node of its own, or
so that an object without a name gives its place to its properties. `Node.Laid nested flat` says
that two trees document the same and that the second may be laid out flat in this sense, at any
intersection in it. Defaults are left out of account, because a default that is an object is
pushed down to the properties that it finds (`Node.Laid.pushDefaults`).

What is documented in the flat tree is documented in the nested one
(`Node.Laid.exists_of_occurs`). Conversely, what an object without a name has besides its
properties is no part of a flat layout: its index signatures and its signatures. Everything else
is documented in the flat tree (`Node.Laid.sheds_or_exists`).
-/
import TypeGloss.Proofs.Documentation.Lifting

namespace TypeGloss

set_option autoImplicit false

/-! ## Layouts -/

/-- Headers that say the same, except for the default. -/
def Header.SameButDefault (first second : Header) : Prop :=
  { first with default := none } = { second with default := none }

namespace Header.SameButDefault

variable {first second third : Header}

theorem symm (same : first.SameButDefault second) : second.SameButDefault first :=
  Eq.symm same

theorem trans (same : first.SameButDefault second) (same' : second.SameButDefault third) :
    first.SameButDefault third :=
  Eq.trans same same'

end Header.SameButDefault

namespace Node

/-- What has become of a constituent of an intersection: a node, or, if it is made of an object
that has no name, the nodes of its properties. Of what can only be called these are none. -/
inductive Spreads (S : Node → Node → Prop) : Node → List Node → Prop where
  | nested {part node : Node} (related : S part node) : Spreads S part [node]
  | object {header : Header} {properties nodes : List Node}
      {indexes : Option (List IndexSignature)} (unnamed : header.name = none)
      (related : List.Forall₂ S properties nodes) :
      Spreads S (.object header properties indexes) nodes
  | function {header : Header} {signatures : List Signature} (unnamed : header.name = none) :
      Spreads S (.function header signatures) []
  | component {header : Header} {signatures : List ComponentSignature}
      (unnamed : header.name = none) : Spreads S (.component header signatures) []

/-- What is made of an object that has no name: an object, or a function or a component if all
one can do with it is to call it. -/
def IsAnonymous : Node → Prop
  | object header _ _ => header.name = none
  | function header _ => header.name = none
  | component header _ => header.name = none
  | _ => False

theorem IsAnonymous.unnamed {node : Node} (anonymous : node.IsAnonymous) :
    node.header.name = none := by
  cases node <;> first | exact anonymous | exact anonymous.elim

/-- A constituent is a node of its own, or its properties take its place. -/
theorem spreads_iff {S : Node → Node → Prop} {part : Node} {nodes : List Node} :
    part.Spreads S nodes ↔
      (∃ node, nodes = [node] ∧ S part node) ∨
        (part.IsAnonymous ∧ List.Forall₂ S part.listed nodes) := by
  constructor
  · intro spreads
    cases spreads with
    | nested related => exact .inl ⟨_, rfl, related⟩
    | object unnamed related => exact .inr ⟨unnamed, related⟩
    | function unnamed | component unnamed => exact .inr ⟨unnamed, .nil⟩
  · rintro (⟨node, rfl, related⟩ | ⟨anonymous, related⟩)
    · exact .nested related
    · cases part with
      | object header properties indexes => exact .object anonymous related
      | function header signatures =>
          cases related
          exact .function anonymous
      | component header signatures =>
          cases related
          exact .component anonymous
      | _ => exact anonymous.elim

/-- Two trees that document the same, apart from defaults, and of which the second may be laid
out flat. -/
inductive Laid : Node → Node → Prop where
  | alike {first second : Node} (lifted : first.Lifted Header.SameButDefault Eq Laid second) :
      Laid first second
  | spread {header header' : Header} {parts : List Node} {chunks : List (List Node)}
      (headers : header.SameButDefault header')
      (spreads : List.Forall₂ (Spreads Laid) parts chunks) :
      Laid (.intersection header parts) (.intersection header' chunks.flatten)

namespace Laid

variable {first second : Node}

theorem headers (laid : first.Laid second) : first.header.SameButDefault second.header := by
  cases laid with
  | alike lifted => exact lifted.headers
  | spread headers spreads => exact headers

/-- Headers may be changed on both sides as long as they agree but for the default. -/
theorem mapHeader (laid : first.Laid second) {f g : Header → Header}
    (same : (f first.header).SameButDefault (g second.header)) :
    (first.mapHeader f).Laid (second.mapHeader g) := by
  cases laid with
  | alike lifted => exact .alike (lifted.mapHeader same)
  | spread headers spreads => exact .spread same spreads

end Laid

/-! ## Defaults -/

theorem mapHeader_id (node : Node) : node.mapHeader id = node := by
  cases node <;> rfl

/-- Pushing defaults down commutes with a change of the header. -/
theorem pushDefaults_mapHeader (defaults : Entries Value) (f : Header → Header) (node : Node) :
    (node.mapHeader f).pushDefaults defaults = (node.pushDefaults defaults).mapHeader f := by
  cases node <;> rfl

theorem takeDefault_nil (node : Node) : node.takeDefault [] = node := by
  have untaken : taken? [] node = none := by
    unfold taken?
    split
    · rfl
    · cases node.header.name <;> rfl
  rw [takeDefault, untaken]

theorem pushDefaults_nil (node : Node) : node.pushDefaults [] = node := by
  have untouched (properties : List Node) : pushAllDefaults [] properties = properties := by
    rw [pushAllDefaults_eq_map]
    exact List.map_id'' takeDefault_nil properties
  cases node with
  | object header properties indexes => rw [pushDefaults, untouched]
  | intersection header properties => rw [pushDefaults, untouched]
  | _ => rfl

/-- A node without a name takes no default. -/
theorem takeDefault_of_unnamed {node : Node} (unnamed : node.header.name = none)
    (defaults : Entries Value) : node.takeDefault defaults = node := by
  have untaken : taken? defaults node = none := by
    simp [taken?, unnamed]
  rw [takeDefault, untaken]

/-- A node with other defaults: pushed down to its properties, and noted in its header. -/
def IsDefaulted (node found : Node) : Prop :=
  ∃ (entries : Entries Value) (f : Header → Header),
    (∀ header : Header, (f header).SameButDefault header) ∧
      found = (node.pushDefaults entries).mapHeader f

/-- A node whose header gets a default. -/
theorem isDefaulted_withDefault (entries : Entries Value) (value : Value) (node : Node) :
    node.IsDefaulted ((node.pushDefaults entries).withDefault value) :=
  ⟨entries, fun header => { header with default := some value }, fun _ => rfl, rfl⟩

theorem isDefaulted_takeDefault (defaults : Entries Value) (node : Node) :
    node.IsDefaulted (node.takeDefault defaults) := by
  unfold takeDefault
  split
  · exact isDefaulted_withDefault _ _ node
  · simpa only [pushDefaults_nil] using isDefaulted_withDefault [] _ node
  · refine ⟨[], id, fun _ => rfl, ?_⟩
    rw [pushDefaults_nil, mapHeader_id]

theorem isDefaulted_assignDefault (value : Value) (node : Node) :
    node.IsDefaulted (node.assignDefault value) := by
  unfold assignDefault
  split
  · rw [withDefault, pushDefaults_mapHeader]
    exact isDefaulted_withDefault _ _ node
  · simpa only [pushDefaults_nil] using isDefaulted_withDefault [] value node

namespace Laid

variable {first second first' second' : Node}

/-- If nothing that is pushed down makes a difference, then no default does. -/
theorem defaulted_of
    (pushed : ∀ entries entries', (first.pushDefaults entries).Laid (second.pushDefaults entries'))
    (defaulted : first.IsDefaulted first') (defaulted' : second.IsDefaulted second') :
    first'.Laid second' := by
  obtain ⟨entries, f, same, rfl⟩ := defaulted
  obtain ⟨entries', g, same', rfl⟩ := defaulted'
  have laid := pushed entries entries'
  exact laid.mapHeader ((same _).trans (laid.headers.trans (same' _).symm))

/-- Defaults that are pushed down make no difference to the layout, neither in one tree nor in
the other. -/
theorem pushDefaults {first second : Node} (laid : first.Laid second)
    (defaults defaults' : Entries Value) :
    (first.pushDefaults defaults).Laid (second.pushDefaults defaults') := by
  -- What is said of the properties serves where the node is laid out as its properties: there
  -- the defaults reach the properties in the second tree only.
  suffices both : ∀ node : Node,
      (∀ second, node.Laid second → ∀ defaults defaults',
        (node.pushDefaults defaults).Laid (second.pushDefaults defaults')) ∧
      ∀ nodes, List.Forall₂ Laid node.listed nodes → ∀ defaults defaults',
        List.Forall₂ Laid (node.listed.map (takeDefault defaults))
          (nodes.map (takeDefault defaults')) from (both first).1 second laid defaults defaults'
  intro node
  induction node using childrenInduction with
  | step node ih =>
    have takes (child : Node) (below : child ∈ node.children) (other : Node)
        (laid : child.Laid other) (defaults defaults' : Entries Value) :
        (child.takeDefault defaults).Laid (other.takeDefault defaults') :=
      defaulted_of ((ih child below).1 other laid) (isDefaulted_takeDefault _ _)
        (isDefaulted_takeDefault _ _)
    have listed (nodes : List Node) (related : List.Forall₂ Laid node.listed nodes)
        (defaults defaults' : Entries Value) :
        List.Forall₂ Laid (node.listed.map (takeDefault defaults))
          (nodes.map (takeDefault defaults')) := by
      rw [List.forall₂_map_left_iff, List.forall₂_map_right_iff]
      exact forall₂_imp_of_mem related fun child among other _ laid =>
        takes child (mem_children_iff.2 (.inl among)) other laid defaults defaults'
    refine ⟨?_, listed⟩
    intro second laid defaults defaults'
    cases laid with
    | alike lifted =>
        cases lifted with
        | object headers related relatedIndexes =>
            simp only [Node.pushDefaults, pushAllDefaults_eq_map]
            exact .alike (.object headers (listed _ related defaults defaults') relatedIndexes)
        | intersection headers related =>
            simp only [Node.pushDefaults, pushAllDefaults_eq_map]
            exact .alike (.intersection headers (listed _ related defaults defaults'))
        | primitive headers values => exact .alike (.primitive headers values)
        | array headers related => exact .alike (.array headers related)
        | tuple headers related => exact .alike (.tuple headers related)
        | union headers related => exact .alike (.union headers related)
        | function headers related => exact .alike (.function headers related)
        | component headers related => exact .alike (.component headers related)
        | classType headers related relatedMethods relatedAccessors relatedConstructors =>
            exact .alike
              (.classType headers related relatedMethods relatedAccessors relatedConstructors)
        | enum headers values => exact .alike (.enum headers values)
        | generic headers related => exact .alike (.generic headers related)
        | reference headers => exact .alike (.reference headers)
    | @spread header header' parts chunks headers spreads =>
        simp only [Node.pushDefaults, pushAllDefaults_eq_map, List.map_flatten]
        refine .spread headers ?_
        rw [List.forall₂_map_left_iff, List.forall₂_map_right_iff]
        refine forall₂_imp_of_mem spreads fun part among chunk _ spread => ?_
        rw [spreads_iff] at spread ⊢
        rcases spread with ⟨other, rfl, related⟩ | ⟨anonymous, related⟩
        · exact .inl ⟨_, rfl, takes part among other related defaults defaults'⟩
        · rw [takeDefault_of_unnamed anonymous.unnamed]
          have taken := (ih part among).2 chunk related [] defaults'
          rw [List.map_id'' takeDefault_nil] at taken
          exact .inr ⟨anonymous, taken⟩

/-- Defaults make no difference to the layout, neither in one tree nor in the other. -/
theorem defaulted (laid : first.Laid second) (defaulted : first.IsDefaulted first')
    (defaulted' : second.IsDefaulted second') : first'.Laid second' :=
  defaulted_of laid.pushDefaults defaulted defaulted'

end Laid

/-! ## What occurs in both -/

/-- What a tree may lose if it is laid out flat: a constituent of an intersection that has no
name, and what stands below it other than in its properties. -/
inductive Sheds (tree : Node) : Node → Prop where
  | constituent {above : Nat} {header : Header} {parts : List Node} {part : Node}
      (occurs : tree.Occurs above (.intersection header parts)) (among : part ∈ parts)
      (anonymous : part.IsAnonymous) : Sheds tree part
  | inside {above depth : Nat} {header : Header} {parts : List Node} {part child found : Node}
      (occurs : tree.Occurs above (.intersection header parts)) (among : part ∈ parts)
      (anonymous : part.IsAnonymous) (unlisted : child ∈ part.unlisted)
      (below : child.Occurs depth found) : Sheds tree found

theorem Sheds.of_child {node child found : Node} (member : child ∈ node.children)
    (sheds : child.Sheds found) : node.Sheds found := by
  cases sheds with
  | constituent occurs among anonymous =>
      exact .constituent (.inside member occurs) among anonymous
  | inside occurs among anonymous unlisted below =>
      exact .inside (.inside member occurs) among anonymous unlisted below

namespace Laid

variable {first second : Node}

/-- Below two trees, what is documented in the second is documented in the first. -/
theorem exists_of_mem_children (laid : first.Laid second) {node : Node}
    (member : node ∈ second.children) : ∃ above part, first.Occurs above part ∧ part.Laid node := by
  cases laid with
  | alike lifted =>
      obtain ⟨child, among, related⟩ := exists_of_mem_right lifted.children member
      exact ⟨1, child, .inside among (.root child), related⟩
  | @spread header header' parts chunks headers spreads =>
      obtain ⟨chunk, isChunk, inChunk⟩ := List.mem_flatten.1 member
      obtain ⟨part, among, spread⟩ := exists_of_mem_right spreads isChunk
      rcases spreads_iff.1 spread with ⟨other, rfl, related⟩ | ⟨anonymous, related⟩
      · obtain rfl := List.mem_singleton.1 inChunk
        exact ⟨1, part, .inside among (.root part), related⟩
      · obtain ⟨child, listed, related⟩ := exists_of_mem_right related inChunk
        have below : child ∈ part.children := mem_children_iff.2 (.inl listed)
        exact ⟨2, child, .inside among (.inside below (.root child)), related⟩

/-- What is documented in the flat tree is documented in the nested one. -/
theorem exists_of_occurs {above : Nat} {node : Node} (occurs : second.Occurs above node)
    (laid : first.Laid second) : ∃ above part, first.Occurs above part ∧ part.Laid node := by
  induction occurs generalizing first with
  | root => exact ⟨0, first, .root first, laid⟩
  | inside member deeper ih =>
      obtain ⟨above, part, there, related⟩ := laid.exists_of_mem_children member
      obtain ⟨depth, found, below, related⟩ := ih related
      exact ⟨above + depth, found, there.trans below, related⟩

/-- What is documented in the nested tree is documented in the flat one, unless it is shed. -/
theorem sheds_or_exists {above : Nat} {part : Node} (occurs : first.Occurs above part)
    (laid : first.Laid second) :
    first.Sheds part ∨ ∃ above node, second.Occurs above node ∧ part.Laid node := by
  -- Where a constituent is laid out as its properties, the way down the second tree is shorter.
  induction above using Nat.strong_induction_on generalizing first second with
  | _ above ih =>
    have goOn {child node : Node} {depth : Nat} (deeper : child.Occurs depth part)
        (fewer : depth < above) (member : child ∈ first.children) (below : node ∈ second.children)
        (related : child.Laid node) :
        first.Sheds part ∨ ∃ above node, second.Occurs above node ∧ part.Laid node := by
      rcases ih depth fewer deeper related with sheds | ⟨higher, found, there, same⟩
      · exact .inl (sheds.of_child member)
      · exact .inr ⟨higher + 1, found, .inside below there, same⟩
    cases occurs with
    | root => exact .inr ⟨0, second, .root second, laid⟩
    | @inside _ child _ depth member deeper =>
        cases laid with
        | alike lifted =>
            obtain ⟨node, below, related⟩ := exists_of_mem_left lifted.children member
            exact goOn deeper (Nat.lt_succ_self depth) member below related
        | @spread header header' parts chunks headers spreads =>
            obtain ⟨chunk, isChunk, spread⟩ := exists_of_mem_left spreads member
            have below {node : Node} (inChunk : node ∈ chunk) :
                node ∈ (Node.intersection header' chunks.flatten).children :=
              List.mem_flatten.2 ⟨chunk, isChunk, inChunk⟩
            have here := Occurs.root (.intersection header parts)
            rcases spreads_iff.1 spread with ⟨node, rfl, related⟩ | ⟨anonymous, related⟩
            · exact goOn deeper (Nat.lt_succ_self depth) member
                (below (List.mem_singleton_self node)) related
            · cases deeper with
              | root => exact .inl (.constituent here member anonymous)
              | @inside _ grandchild _ depth further deeper =>
                  rcases mem_children_iff.1 further with listed | unlisted
                  · obtain ⟨node, inChunk, related⟩ := exists_of_mem_left related listed
                    rcases ih depth (by omega) deeper related with
                      sheds | ⟨higher, found, there, same⟩
                    · exact .inl ((sheds.of_child further).of_child member)
                    · exact .inr ⟨higher + 1, found, .inside (below inChunk) there, same⟩
                  · exact .inl (.inside here member anonymous unlisted deeper)

end Laid

/-! ## Index signatures -/

/-- The index signatures of a node. -/
def indexes : Node → List IndexSignature
  | object _ _ indexes => indexes.getD []
  | _ => []

/-- An index signature is documented in a tree. -/
def HasIndex (tree : Node) (signature : IndexSignature) : Prop :=
  ∃ above node, tree.Occurs above node ∧ signature ∈ node.indexes

namespace Laid

variable {first second : Node}

theorem indexes (laid : first.Laid second) :
    List.Forall₂ (IndexSignature.Lifted Laid) first.indexes second.indexes := by
  cases laid with
  | alike lifted =>
      cases lifted with
      | object headers related relatedIndexes => exact forall₂_getD relatedIndexes
      | _ => exact .nil
  | spread headers spreads => exact .nil

/-- The index signatures of the flat tree are documented in the nested one. -/
theorem exists_of_hasIndex (laid : first.Laid second) {signature : IndexSignature}
    (has : second.HasIndex signature) :
    ∃ other, first.HasIndex other ∧ other.Lifted Laid signature := by
  obtain ⟨above, node, occurs, among⟩ := has
  obtain ⟨higher, part, there, related⟩ := laid.exists_of_occurs occurs
  obtain ⟨other, inPart, same⟩ := exists_of_mem_right related.indexes among
  exact ⟨other, ⟨higher, part, there, inPart⟩, same⟩

/-- The index signatures of the nested tree are documented in the flat one, unless they belong to
what is shed. -/
theorem sheds_or_exists_index (laid : first.Laid second) {signature : IndexSignature}
    (has : first.HasIndex signature) :
    (∃ part, first.Sheds part ∧ signature ∈ part.indexes) ∨
      ∃ other, second.HasIndex other ∧ signature.Lifted Laid other := by
  obtain ⟨above, part, occurs, among⟩ := has
  rcases laid.sheds_or_exists occurs with sheds | ⟨higher, node, there, related⟩
  · exact .inl ⟨part, sheds, among⟩
  · obtain ⟨other, inNode, same⟩ := exists_of_mem_left related.indexes among
    exact .inr ⟨other, ⟨higher, node, there, inNode⟩, same⟩

end Laid

end Node

end TypeGloss
