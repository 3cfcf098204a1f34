/-
# TypeGloss.Proofs.Documentation.Everywhere — what holds of every node of a tree

`Node.Everywhere P tree` says that every node that occurs in a tree has the property `P`.
Defaults are attached to a tree when it is made already, and an object default is pushed down
to the properties. A property of nodes that *ignores defaults* holds everywhere in the tree
with the defaults if it does so in the tree without them (`Everywhere.pushDefaults`).
-/
import TypeGloss.Proofs.Documentation.Nesting

namespace TypeGloss.Node

set_option autoImplicit false

variable {P : Node → Prop}

/-- Every node of a tree has a property. -/
def Everywhere (P : Node → Prop) (tree : Node) : Prop :=
  ∀ above found, Occurs tree above found → P found

theorem everywhere_iff {node : Node} :
    Everywhere P node ↔ P node ∧ ∀ child ∈ node.children, Everywhere P child := by
  constructor
  · intro everywhere
    exact ⟨everywhere 0 node (.root node), fun child member above found occurs =>
      everywhere (above + 1) found (.inside member occurs)⟩
  · rintro ⟨here, below⟩ above found occurs
    cases occurs with
    | root => exact here
    | inside member deeper => exact below _ member _ found deeper

/-- A leaf has nothing below it. -/
theorem everywhere_of_leaf {node : Node} (leaf : node.children = []) (here : P node) :
    Everywhere P node :=
  everywhere_iff.2 ⟨here, by simp [leaf]⟩

/-- Another header changes nothing below a node. -/
theorem Everywhere.mapHeader {node : Node} (everywhere : Everywhere P node) {f : Header → Header}
    (here : P (node.mapHeader f)) : Everywhere P (node.mapHeader f) := by
  rw [everywhere_iff, children_mapHeader]
  exact ⟨here, (everywhere_iff.1 everywhere).2⟩

/-! ## Defaults -/

/-- A property with the entry of a table of defaults that it takes, if it takes one. -/
def takeDefault (defaults : Entries Value) (property : Node) : Node :=
  match taken? defaults property with
  | some (.object entries) => withDefault (.object entries) (pushDefaults entries property)
  | some value => withDefault value property
  | none => property

theorem pushAllDefaults_eq_map (defaults : Entries Value) (properties : List Node) :
    pushAllDefaults defaults properties = properties.map (takeDefault defaults) := by
  induction properties with
  | nil => rfl
  | cons property rest ih =>
      rw [pushAllDefaults, ih, List.map_cons]
      rfl

@[simp] theorem header_pushDefaults (defaults : Entries Value) (node : Node) :
    (node.pushDefaults defaults).header = node.header := by
  cases node <;> rfl

theorem header_assignDefault (value : Value) (node : Node) :
    (node.assignDefault value).header = { node.header with default := some value } := by
  unfold assignDefault
  split
  · rw [header_pushDefaults, withDefault, header_mapHeader]
  · rw [withDefault, header_mapHeader]

/-- A property of nodes for which it makes no difference which defaults were assigned. -/
structure IgnoresDefaults (P : Node → Prop) : Prop where
  withDefault : ∀ {node : Node} (value : Value), P node → P (node.withDefault value)
  pushDefaults : ∀ {node : Node} (defaults : Entries Value), P node → P (node.pushDefaults defaults)

namespace IgnoresDefaults

variable (ignores : IgnoresDefaults P)

include ignores

theorem takeDefault {node : Node} (defaults : Entries Value) (holds : P node) :
    P (node.takeDefault defaults) := by
  unfold Node.takeDefault
  split
  · exact ignores.withDefault _ (ignores.pushDefaults _ holds)
  · exact ignores.withDefault _ holds
  · exact holds

theorem assignDefault {node : Node} (value : Value) (holds : P node) :
    P (node.assignDefault value) := by
  unfold Node.assignDefault
  split
  · exact ignores.pushDefaults _ (ignores.withDefault _ holds)
  · exact ignores.withDefault _ holds

theorem everywhere_withDefault {node : Node} (value : Value) (everywhere : Everywhere P node) :
    Everywhere P (node.withDefault value) :=
  everywhere.mapHeader (ignores.withDefault value (everywhere_iff.1 everywhere).1)

/-- Below a node, pushing defaults down makes no difference. -/
theorem below_pushDefaults (defaults : Entries Value) (node : Node)
    (below : ∀ child ∈ node.children, Everywhere P child) :
    ∀ child ∈ (node.pushDefaults defaults).children, Everywhere P child := by
  revert below
  -- By induction on the recursion that goes down the properties: the second motive speaks of
  -- lists of properties, which may be nodes with properties themselves.
  refine Node.pushDefaults.induct_unfolding
    (fun _ node pushed => (∀ child ∈ node.children, Everywhere P child) →
      ∀ child ∈ pushed.children, Everywhere P child)
    (fun _ nodes pushed => (∀ node ∈ nodes, Everywhere P node) →
      ∀ node ∈ pushed, Everywhere P node)
    ?object ?intersection ?other ?nil ?cons defaults node
  case object =>
    intro defaults header properties indexes ih below child member
    rcases List.mem_append.1 member with property | inIndex
    · exact ih (fun node among => below node (List.mem_append_left _ among)) child property
    · exact below child (List.mem_append_right _ inIndex)
  case intersection => exact fun _ _ _ ih => ih
  case other => exact fun _ _ _ _ below => below
  case nil => exact fun _ everywhere => everywhere
  case cons =>
    intro defaults property rest documented ih ihs everywhere
    have first := everywhere property List.mem_cons_self
    have pushed (entries : Entries Value) : Everywhere P (property.pushDefaults entries) :=
      everywhere_iff.2 ⟨ignores.pushDefaults entries (everywhere_iff.1 first).1,
        ih entries (everywhere_iff.1 first).2⟩
    refine List.forall_mem_cons.2
      ⟨?_, ihs fun node among => everywhere node (List.mem_cons_of_mem _ among)⟩
    unfold documented
    split
    · exact ignores.everywhere_withDefault _ (pushed _)
    · exact ignores.everywhere_withDefault _ first
    · exact first

/-- Below a node, a default of the node makes no difference. -/
theorem below_assignDefault (value : Value) (node : Node)
    (below : ∀ child ∈ node.children, Everywhere P child) :
    ∀ child ∈ (node.assignDefault value).children, Everywhere P child := by
  have noted : ∀ child ∈ (node.withDefault value).children, Everywhere P child := by
    simpa only [Node.withDefault, children_mapHeader] using below
  unfold Node.assignDefault
  split
  · exact ignores.below_pushDefaults _ _ noted
  · exact noted

end IgnoresDefaults

end TypeGloss.Node
