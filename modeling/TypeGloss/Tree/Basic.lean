/-
# TypeGloss.Tree — concrete syntax trees

A tree is what a parser of the language hands over: every node has a kind, the
text it spans, its place in bytes and in lines and columns, and all its children
in order, comments and punctuation included. A node is *named* unless it is plain
punctuation, it may play a *field* of its parent, and it is *missing* when error
recovery inserted it.

`Outline` is the bare form in which a parser reports a tree: kinds and byte
offsets without text. `Tree.ofOutline` completes it from the source text, so a
node's text is always the slice between its offsets, its row the number of line
feeds before it, and its column the number of bytes since the last of them.

`findError` is the first node, in the order of the text, that stands for a syntax
error.
-/
import TypeGloss.Fault

namespace TypeGloss

set_option autoImplicit false

/-- A row and a column in bytes, both from zero. -/
structure Point where
  row : Nat
  column : Nat
  deriving Repr, DecidableEq, Inhabited

/-- What is recorded at a node. -/
structure Mark where
  kind : String
  text : String
  start : Nat
  stop : Nat
  first : Point
  last : Point
  named : Bool
  missing : Bool
  field : Option String
  deriving Repr, DecidableEq, Inhabited

/-- A concrete syntax tree. -/
inductive Tree where
  | node (mark : Mark) (children : List Tree)
  deriving Repr, Inhabited

/-- A tree as a parser reports it: kinds and byte offsets, without text. -/
inductive Outline where
  | node (kind : String) (start stop : Nat) (named missing : Bool) (field : Option String)
      (children : List Outline)
  deriving Inhabited

/-! ## From outline to tree -/

/-- The point of every byte offset of a text, the end included. -/
def pointsFrom (here : Point) : List UInt8 → List Point
  | [] => [here]
  | byte :: rest =>
      here :: pointsFrom (if byte = 10 then ⟨here.row + 1, 0⟩ else ⟨here.row, here.column + 1⟩) rest

/-- A text with what is needed to cut slices out of it. -/
structure Canvas where
  bytes : ByteArray
  points : Array Point

namespace Canvas

def ofText (text : String) : Canvas :=
  let bytes := text.toUTF8
  ⟨bytes, (pointsFrom ⟨0, 0⟩ bytes.toList).toArray⟩

def slice (canvas : Canvas) (start stop : Nat) : String :=
  (String.fromUTF8? (canvas.bytes.extract start stop)).getD ""

def point (canvas : Canvas) (offset : Nat) : Point :=
  canvas.points.getD offset (canvas.points.getD (canvas.points.size - 1) ⟨0, 0⟩)

end Canvas

mutual

def Outline.onCanvas (canvas : Canvas) : Outline → Tree
  | .node kind start stop named missing field children =>
      .node
        { kind, text := canvas.slice start stop, start, stop, first := canvas.point start,
          last := canvas.point stop, named, missing, field }
        (Outline.allOnCanvas canvas children)

def Outline.allOnCanvas (canvas : Canvas) : List Outline → List Tree
  | [] => []
  | outline :: rest => outline.onCanvas canvas :: Outline.allOnCanvas canvas rest

end

namespace Tree

def ofOutline (text : String) (outline : Outline) : Tree :=
  outline.onCanvas (Canvas.ofText text)

/-! ## Parts of a node -/

/-- What is recorded at the root of a tree. -/
def mark : Tree → Mark
  | node mark _ => mark

/-- All children, in order. -/
def children : Tree → List Tree
  | node _ children => children

def kind (t : Tree) : String := t.mark.kind

def text (t : Tree) : String := t.mark.text

/-- Named children, in order. -/
def named (t : Tree) : List Tree :=
  t.children.filter (·.mark.named)

/-- Named children that are no comments, in order. -/
def parts (t : Tree) : List Tree :=
  t.named.filter (·.kind != "comment")

def field? (name : String) (t : Tree) : Option Tree :=
  t.children.find? (·.mark.field == some name)

/-- Is there a child, named or not, of one of the kinds? -/
def hasToken (kinds : List String) (t : Tree) : Bool :=
  t.children.any fun child => kinds.contains child.kind

def isError (t : Tree) : Bool :=
  t.kind == "ERROR" || t.mark.missing

/-- A child is smaller than its parent, so recursion along children ends. -/
theorem sizeOf_lt_of_mem_children {t u : Tree} (member : u ∈ t.children) :
    sizeOf u < sizeOf t := by
  cases t with
  | node mark children =>
      have smaller := List.sizeOf_lt_of_mem (show u ∈ children from member)
      simp only [node.sizeOf_spec]
      omega

theorem mem_children_of_mem_named {t u : Tree} (member : u ∈ t.named) : u ∈ t.children :=
  (List.mem_filter.1 member).1

theorem mem_children_of_field? {t u : Tree} {name : String} (found : t.field? name = some u) :
    u ∈ t.children :=
  List.mem_of_find?_eq_some found

/-! ## Syntax errors -/

mutual

def hasError : Tree → Bool
  | node mark children => (mark.kind == "ERROR" || mark.missing) || anyError children

def anyError : List Tree → Bool
  | [] => false
  | t :: rest => hasError t || anyError rest

end

mutual

/-- The first syntax error of a tree in the order of the text, if it holds one. -/
def findError : Tree → Option Tree
  | node mark children =>
      if (node mark children).hasError then
        if (node mark children).isError then some (node mark children)
        else some ((firstError children).getD (node mark children))
      else none

/-- The first syntax error of several trees in the order of the text. -/
def firstError : List Tree → Option Tree
  | [] => none
  | t :: rest =>
      match findError t with
      | some found => some found
      | none => firstError rest

end

/-! ## Search -/

mutual

/-- A tree and everything below it, a parent before its children. -/
def preorder : Tree → List Tree
  | node mark children => node mark children :: preorderAll children

/-- `preorder` of several trees, one after the other. -/
def preorderAll : List Tree → List Tree
  | [] => []
  | t :: rest => preorder t ++ preorderAll rest

end

mutual

/-- Is there a node of the kind among a tree and what its named children hold? -/
def containsKind (kind : String) : Tree → Bool
  | node mark children => mark.kind == kind || anyContainsKind kind children

/-- Is there a node of the kind among the named trees and what they hold? -/
def anyContainsKind (kind : String) : List Tree → Bool
  | [] => false
  | t :: rest => (t.mark.named && containsKind kind t) || anyContainsKind kind rest

end

end Tree

end TypeGloss
