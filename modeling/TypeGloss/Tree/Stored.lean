/-
# TypeGloss.Tree.Stored — trees as a parser stores them

A parser stores a tree as nested lists: the kind of a node, its first and its last
byte offset, a number whose lowest bit says that the node is named and whose next bit
says that it is missing, the field it plays or null, and the list of its children. The
field and the children may be left out.
-/
import TypeGloss.Json
import TypeGloss.Tree.Basic

namespace TypeGloss.Outline

set_option autoImplicit false

def offset? : Value → Option Nat
  | .integer n => if n < 0 then none else some n.toNat
  | _ => none

def field? : Value → Option (Option String)
  | .null => some none
  | .text name => some (some name)
  | _ => none

def ofParts? (kind : String) (start stop flags field : Value) (children : List Outline) :
    Option Outline := do
  let flags ← offset? flags
  return .node kind (← offset? start) (← offset? stop) (flags % 2 == 1) (flags / 2 % 2 == 1)
    (← field? field) children

mutual

def ofValue? : Value → Option Outline
  | .list [.text kind, start, stop, flags] => ofParts? kind start stop flags .null []
  | .list [.text kind, start, stop, flags, field] => ofParts? kind start stop flags field []
  | .list [.text kind, start, stop, flags, field, .list children] => do
      ofParts? kind start stop flags field (← ofValues? children)
  | _ => none

def ofValues? : List Value → Option (List Outline)
  | [] => some []
  | value :: rest => do return (← ofValue? value) :: (← ofValues? rest)

end

def ofText? (text : String) : Option Outline :=
  (Json.parse? text).bind ofValue?

end TypeGloss.Outline
