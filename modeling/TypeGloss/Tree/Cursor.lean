/-
# TypeGloss.Tree.Cursor — a place in a tree

Names are looked up outward from where they are used, and comments are found
before what they describe, so a place must know what is around it. A `Cursor` is
a tree together with the way up: for every node above, that node and the index of
the child through which the way goes. A cursor is self-contained, so a place stays
good when the source it came from is replaced.
-/
import TypeGloss.Tree.Basic

namespace TypeGloss

set_option autoImplicit false

/-- One step of the way up: a node and the index of the child below. -/
structure Step where
  parent : Tree
  index : Nat
  deriving Inhabited

/-- A tree and its way up, the nearest step first. -/
structure Cursor where
  focus : Tree
  above : List Step
  deriving Inhabited

namespace Cursor

def ofTree (t : Tree) : Cursor := ⟨t, []⟩

def kind (c : Cursor) : String := c.focus.kind

def text (c : Cursor) : String := c.focus.text

/-- What is recorded at the node. -/
def mark (c : Cursor) : Mark := c.focus.mark

/-! ## Downward -/

/-- The cursors of trees that are children of `parent` from an index on. -/
def childrenFrom (parent : Tree) (above : List Step) : Nat → List Tree → List Cursor
  | _, [] => []
  | index, t :: rest => ⟨t, ⟨parent, index⟩ :: above⟩ :: childrenFrom parent above (index + 1) rest

/-- All children, in order. -/
def children (c : Cursor) : List Cursor :=
  childrenFrom c.focus c.above 0 c.focus.children

/-- Named children, in order. -/
def named (c : Cursor) : List Cursor :=
  c.children.filter (·.mark.named)

/-- Named children that are no comments, in order. -/
def parts (c : Cursor) : List Cursor :=
  c.named.filter (·.kind != "comment")

def lastPart? (c : Cursor) : Option Cursor :=
  c.parts.getLast?

def field? (name : String) (c : Cursor) : Option Cursor :=
  c.children.find? (·.mark.field == some name)

/-- The first named child of one of the kinds. -/
def first? (kinds : List String) (c : Cursor) : Option Cursor :=
  c.named.find? fun child => kinds.contains child.kind

/-- The child that plays a field, or else the first named child of one of the
kinds. -/
def fieldOr? (name : String) (kinds : List String) (c : Cursor) : Option Cursor :=
  (c.field? name).or (c.first? kinds)

/-- Named children of one of the kinds, in order. -/
def ofKinds (kinds : List String) (c : Cursor) : List Cursor :=
  c.named.filter fun child => kinds.contains child.kind

/-- Is there a child, named or not, of one of the kinds? -/
def hasToken (kinds : List String) (c : Cursor) : Bool :=
  c.focus.hasToken kinds

/-! ## The way down is finite -/

theorem focus_mem_of_mem_childrenFrom {parent : Tree} {above : List Step} {c : Cursor}
    {index : Nat} {trees : List Tree} (member : c ∈ childrenFrom parent above index trees) :
    c.focus ∈ trees := by
  induction trees generalizing index with
  | nil => simp [childrenFrom] at member
  | cons t rest ih =>
      simp only [childrenFrom, List.mem_cons] at member
      rcases member with rfl | later
      · exact List.mem_cons_self
      · exact List.mem_cons_of_mem _ (ih later)

/-- A child is smaller than its parent, so recursion along children ends. -/
theorem sizeOf_lt_of_mem_children {c d : Cursor} (member : d ∈ c.children) :
    sizeOf d.focus < sizeOf c.focus :=
  Tree.sizeOf_lt_of_mem_children (focus_mem_of_mem_childrenFrom member)

theorem sizeOf_lt_of_mem_named {c d : Cursor} (member : d ∈ c.named) :
    sizeOf d.focus < sizeOf c.focus :=
  sizeOf_lt_of_mem_children ((List.mem_filter.1 member).1)

/-- The size of several nodes together, for arguments that a stack of them runs empty. -/
noncomputable def totalSize : List Cursor → Nat
  | [] => 0
  | c :: rest => sizeOf c.focus + totalSize rest

theorem totalSize_append (nodes others : List Cursor) :
    totalSize (nodes ++ others) = totalSize nodes + totalSize others := by
  induction nodes with
  | nil => exact (Nat.zero_add _).symm
  | cons c rest ih => rw [List.cons_append, totalSize, totalSize, ih, Nat.add_assoc]

theorem totalSize_reverse (nodes : List Cursor) : totalSize nodes.reverse = totalSize nodes := by
  induction nodes with
  | nil => rfl
  | cons c rest ih =>
      rw [List.reverse_cons, totalSize_append, ih, totalSize, totalSize, totalSize, Nat.add_zero,
        Nat.add_comm]

/-- The named children of a node are together smaller than the node, so they may take its place on a
stack. -/
theorem totalSize_named_lt (c : Cursor) : totalSize c.named < sizeOf c.focus := by
  have bound (index : Nat) (trees : List Tree) :
      totalSize ((childrenFrom c.focus c.above index trees).filter (·.mark.named)) ≤
        sizeOf trees := by
    induction trees generalizing index with
    | nil => exact Nat.zero_le _
    | cons t rest ih =>
        have later := ih (index + 1)
        rw [childrenFrom, List.filter_cons, List.cons.sizeOf_spec]
        split
        · rw [totalSize]
          dsimp only
          omega
        · omega
  refine Nat.lt_of_le_of_lt (bound 0 c.focus.children) ?_
  cases c.focus with
  | node mark children =>
      rw [Tree.children, Tree.node.sizeOf_spec]
      omega

theorem sizeOf_lt_of_mem_parts {c d : Cursor} (member : d ∈ c.parts) :
    sizeOf d.focus < sizeOf c.focus :=
  sizeOf_lt_of_mem_named ((List.mem_filter.1 member).1)

theorem sizeOf_lt_of_field? {c d : Cursor} {name : String} (found : c.field? name = some d) :
    sizeOf d.focus < sizeOf c.focus :=
  sizeOf_lt_of_mem_children (List.mem_of_find?_eq_some found)

/-! ## Upward and sideward -/

def parent? (c : Cursor) : Option Cursor :=
  match c.above with
  | [] => none
  | step :: rest => some ⟨step.parent, rest⟩

def along : List Step → List Cursor
  | [] => []
  | step :: rest => ⟨step.parent, rest⟩ :: along rest

/-- The nodes above, the nearest first. -/
def ancestors (c : Cursor) : List Cursor :=
  along c.above

def unwrapParens (c : Cursor) : Cursor :=
  if c.kind == "parenthesized_type" then
    match _inside : c.parts with
    | [] => c
    | inner :: _ => unwrapParens inner
  else c
termination_by sizeOf c.focus
decreasing_by
  exact sizeOf_lt_of_mem_parts (by rw [_inside]; exact List.mem_cons_self)

theorem sizeOf_unwrapParens_le (c : Cursor) : sizeOf c.unwrapParens.focus ≤ sizeOf c.focus := by
  fun_induction unwrapParens c with
  | case1 => exact Nat.le_refl _
  | case2 c _ inner rest inside ih =>
      have part := sizeOf_lt_of_mem_parts
        (show inner ∈ c.parts by rw [inside]; exact List.mem_cons_self)
      omega
  | case3 => exact Nat.le_refl _

/-- The siblings before the node, the nearest first. -/
def before (c : Cursor) : List Tree :=
  match c.above with
  | [] => []
  | step :: _ => (step.parent.children.take step.index).reverse

end Cursor

def textOf (c : Option Cursor) : String :=
  (c.map Cursor.text).getD ""

end TypeGloss
