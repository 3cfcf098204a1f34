/-
# TypeGloss.Proofs.Documentation.Nesting — how deep nodes are nested

The children of a node are the nodes of the types just below it. Signatures, index
signatures, methods and accessors are no nodes, so they are looked through: a parameter
of a method is a child of the class.

`Node.Occurs tree above node` says that a node occurs in a tree with so many nodes above
it. A node is *expanded* unless it is a leaf of every tree, which only primitives and
references are; `Node.Shallow bound tree` says that every expanded node of a tree has
fewer than `bound` nodes above it.

* `Node.shallow_zero_iff` and `Node.shallow_succ_iff`: the bound counts down along
  children.
* `Node.Shallow.length_le`: a way from the root down has at most one node more than the
  bound, whichever way it takes.
* `Node.shallow_mapHeader` and `Node.Shallow.assignDefault`: what is noted at a node
  leaves its nesting as it is.
-/
import Mathlib.Data.List.Chain
import TypeGloss.Resolution.Defaults

namespace TypeGloss

set_option autoImplicit false

/-! ## Children -/

/-- The nodes of an index signature: its key and its value. -/
def IndexSignature.nodes : IndexSignature → List Node
  | .mk _ _ parameter value _ => [parameter, value]

/-- The nodes of a signature: its parameters. -/
def Signature.nodes : Signature → List Node
  | .mk _ _ parameters _ _ => parameters

/-- The node of a component's signature: its parameter, if it has one. -/
def ComponentSignature.nodes : ComponentSignature → List Node
  | .mk _ _ parameter _ _ => parameter.toList

/-- The nodes of a method: the parameters of all its signatures. -/
def Method.nodes : Method → List Node
  | .mk _ signatures => signatures.flatMap Signature.nodes

/-- The node of an accessor: what a setter takes. -/
def Accessor.nodes : Accessor → List Node
  | .mk _ _ _ parameter => parameter.toList

namespace Node

/-- The nodes just below a node. -/
def children : Node → List Node
  | primitive _ _ => []
  | object _ properties indexes =>
      properties ++ (indexes.getD []).flatMap IndexSignature.nodes
  | array _ element => [element]
  | tuple _ elements => elements
  | union _ members => members
  | intersection _ properties => properties
  | function _ signatures => signatures.flatMap Signature.nodes
  | component _ signatures => signatures.flatMap ComponentSignature.nodes
  | classType _ properties methods accessors constructors =>
      properties ++ methods.flatMap Method.nodes ++
        (accessors.getD []).flatMap Accessor.nodes ++
        (constructors.getD []).flatMap Signature.nodes
  | enum _ _ => []
  | generic _ _ arguments => arguments
  | reference _ => []

/-- Is a node more than a leaf of every tree? -/
def isExpanded : Node → Bool
  | primitive _ _ => false
  | reference _ => false
  | _ => true

theorem isExpanded_of_mem_children {node child : Node} (below : child ∈ node.children) :
    node.isExpanded = true := by
  cases node with
  | primitive header value => simp [children] at below
  | reference header => simp [children] at below
  | _ => rfl

/-- The nodes of the properties of a node. -/
def listed : Node → List Node
  | object _ properties _ => properties
  | intersection _ properties => properties
  | classType _ properties _ _ _ => properties
  | _ => []

/-- The nodes just below a node that are none of its properties. -/
def unlisted : Node → List Node
  | object _ _ indexes => (indexes.getD []).flatMap IndexSignature.nodes
  | intersection _ _ => []
  | classType _ _ methods accessors constructors =>
      methods.flatMap Method.nodes ++ (accessors.getD []).flatMap Accessor.nodes ++
        (constructors.getD []).flatMap Signature.nodes
  | node => node.children

theorem mem_children_iff {node child : Node} :
    child ∈ node.children ↔ child ∈ node.listed ∨ child ∈ node.unlisted := by
  cases node <;> simp [children, listed, unlisted]

theorem header_mapHeader (f : Header → Header) (node : Node) :
    (node.mapHeader f).header = f node.header := by
  cases node <;> rfl

@[simp] theorem children_mapHeader (f : Header → Header) (node : Node) :
    (node.mapHeader f).children = node.children := by
  cases node <;> rfl

@[simp] theorem isExpanded_mapHeader (f : Header → Header) (node : Node) :
    (node.mapHeader f).isExpanded = node.isExpanded := by
  cases node <;> rfl

/-! ## Occurrences -/

/-- A node occurs in a tree with so many nodes above it. -/
inductive Occurs : Node → Nat → Node → Prop where
  | root (node : Node) : Occurs node 0 node
  | inside {node child found : Node} {above : Nat} (member : child ∈ node.children)
      (deeper : Occurs child above found) : Occurs node (above + 1) found

/-- What occurs in a part occurs in the whole, as much deeper as the part is. -/
theorem Occurs.trans {tree node found : Node} {above depth : Nat} (upper : tree.Occurs above node)
    (lower : node.Occurs depth found) : tree.Occurs (above + depth) found := by
  induction upper with
  | root => simpa using lower
  | inside member _ ih =>
      rw [Nat.add_right_comm]
      exact .inside member (ih lower)

/-- What occurs in a tree is its root or stands just below a node that occurs in it. -/
theorem Occurs.eq_or_below {tree found : Node} {above : Nat}
    (occurs : tree.Occurs above found) :
    found = tree ∨ ∃ higher parent, tree.Occurs higher parent ∧ found ∈ parent.children := by
  induction occurs with
  | root => exact .inl rfl
  | @inside node child found above member deeper ih =>
      rcases ih with rfl | ⟨higher, parent, occurs, below⟩
      · exact .inr ⟨0, node, .root node, member⟩
      · exact .inr ⟨higher + 1, parent, .inside member occurs, below⟩

/-- Every expanded node of a tree has fewer nodes above it than the bound. -/
def Shallow (bound : Nat) (tree : Node) : Prop :=
  ∀ above found, Occurs tree above found → found.isExpanded = true → above < bound

theorem shallow_zero_iff (node : Node) : Shallow 0 node ↔ node.isExpanded = false := by
  constructor
  · intro shallow
    by_contra expanded
    exact absurd (shallow 0 node (.root node) (by simpa using expanded)) (Nat.lt_irrefl 0)
  · intro leaf above found occurs expanded
    cases occurs with
    | root => simp [leaf] at expanded
    | inside member => simp [isExpanded_of_mem_children member] at leaf

theorem shallow_succ_iff (bound : Nat) (node : Node) :
    Shallow (bound + 1) node ↔ ∀ child ∈ node.children, Shallow bound child := by
  constructor
  · intro shallow child member above found occurs expanded
    exact Nat.lt_of_succ_lt_succ (shallow (above + 1) found (.inside member occurs) expanded)
  · intro shallow above found occurs expanded
    cases occurs with
    | root => exact Nat.succ_pos bound
    | inside member deeper =>
        exact Nat.succ_lt_succ (shallow _ member _ found deeper expanded)

/-- A leaf is shallow for every bound. -/
theorem shallow_of_leaf {node : Node} (leaf : node.isExpanded = false) (bound : Nat) :
    Shallow bound node := by
  intro above found occurs expanded
  exact absurd ((shallow_zero_iff node).2 leaf above found occurs expanded) (Nat.not_lt_zero _)

/-- A way down a tree has at most one node more than the bound: every node of the way
but the last is expanded. -/
theorem Shallow.length_le {bound : Nat} {tree : Node} (shallow : Shallow bound tree)
    (rest : List Node)
    (way : (tree :: rest).IsChain fun parent child => child ∈ parent.children) :
    (tree :: rest).length ≤ bound + 1 := by
  induction rest generalizing bound tree with
  | nil => simp
  | cons child rest ih =>
      obtain ⟨member, further⟩ := List.isChain_cons_cons.1 way
      cases bound with
      | zero =>
          have leaf := (shallow_zero_iff tree).1 shallow
          simp [isExpanded_of_mem_children member] at leaf
      | succ fewer =>
          have inner := ih ((shallow_succ_iff fewer tree).1 shallow child member) further
          simpa using inner

/-! ## What is noted at nodes -/

theorem shallow_mapHeader {bound : Nat} {node : Node} (f : Header → Header) :
    Shallow bound (node.mapHeader f) ↔ Shallow bound node := by
  cases bound with
  | zero => simp [shallow_zero_iff]
  | succ fewer => simp [shallow_succ_iff]

theorem Shallow.withDefault {bound : Nat} {node : Node} (shallow : Shallow bound node)
    (value : Value) : Shallow bound (node.withDefault value) :=
  (shallow_mapHeader _).2 shallow

-- The two recursions go down the properties of a node together, so the bound that a
-- property meets is the one below that of the node.
mutual

/-- Defaults that are pushed down nest nothing deeper. -/
theorem Shallow.pushDefaults : ∀ (node : Node) {bound : Nat} (defaults : Entries Value),
    Shallow bound node → Shallow bound (node.pushDefaults defaults)
  | .object header properties indexes, bound, defaults, shallow => by
      cases bound with
      | zero => exact absurd ((shallow_zero_iff _).1 shallow) (by simp [isExpanded])
      | succ fewer =>
          rw [shallow_succ_iff] at shallow
          simp only [children, List.mem_append] at shallow
          have pushed := Shallow.pushAllDefaults properties defaults
            fun property member => shallow property (.inl member)
          rw [Node.pushDefaults, shallow_succ_iff]
          intro child member
          rcases List.mem_append.1 member with property | inIndex
          · exact pushed child property
          · exact shallow child (.inr inIndex)
  | .intersection header properties, bound, defaults, shallow => by
      cases bound with
      | zero => exact absurd ((shallow_zero_iff _).1 shallow) (by simp [isExpanded])
      | succ fewer =>
          rw [shallow_succ_iff] at shallow
          rw [Node.pushDefaults, shallow_succ_iff]
          exact Shallow.pushAllDefaults properties defaults shallow
  | .primitive header value, _, _, shallow => by simpa only [Node.pushDefaults] using shallow
  | .array header element, _, _, shallow => by simpa only [Node.pushDefaults] using shallow
  | .tuple header elements, _, _, shallow => by simpa only [Node.pushDefaults] using shallow
  | .union header members, _, _, shallow => by simpa only [Node.pushDefaults] using shallow
  | .function header signatures, _, _, shallow => by
      simpa only [Node.pushDefaults] using shallow
  | .component header signatures, _, _, shallow => by
      simpa only [Node.pushDefaults] using shallow
  | .classType header properties methods accessors constructors, _, _, shallow => by
      simpa only [Node.pushDefaults] using shallow
  | .enum header members, _, _, shallow => by simpa only [Node.pushDefaults] using shallow
  | .generic header typeName arguments, _, _, shallow => by
      simpa only [Node.pushDefaults] using shallow
  | .reference header, _, _, shallow => by simpa only [Node.pushDefaults] using shallow

/-- Pushing defaults into a list of nodes makes none of them deeper. -/
theorem Shallow.pushAllDefaults : ∀ (nodes : List Node) {bound : Nat}
    (defaults : Entries Value), (∀ node ∈ nodes, Shallow bound node) →
    ∀ node ∈ Node.pushAllDefaults defaults nodes, Shallow bound node
  | [], _, _, _ => by simp [Node.pushAllDefaults]
  | property :: rest, bound, defaults, shallow => by
      have first := shallow property List.mem_cons_self
      intro node member
      rw [Node.pushAllDefaults] at member
      rcases List.mem_cons.1 member with rfl | later
      · split
        · exact (Shallow.pushDefaults property _ first).withDefault _
        · exact first.withDefault _
        · exact first
      · exact Shallow.pushAllDefaults rest defaults
          (fun other among => shallow other (List.mem_cons_of_mem _ among)) node later

end

theorem Shallow.assignDefault {bound : Nat} {node : Node} (shallow : Shallow bound node)
    (value : Value) : Shallow bound (node.assignDefault value) := by
  unfold Node.assignDefault
  split
  · exact Shallow.pushDefaults _ _ (shallow.withDefault _)
  · exact shallow.withDefault _

end Node

end TypeGloss
