/-
# TypeGloss.Category — the categories of types

Every type has one category, which says how it is documented and which questions
about its structure make sense.
-/
import TypeGloss.Fault

namespace TypeGloss

set_option autoImplicit false

/-- Categories of types. -/
inductive Category where
  | primitive
  | literal
  | object
  | union
  | intersection
  | tuple
  | array
  | function
  | classType
  | enum
  | generic
  /-- A type that is only a name: a free type parameter, a library type or a name
  that cannot be found. -/
  | named
  /-- A mapped, conditional, indexed or utility type that awaits simplification. -/
  | computed
  deriving Repr, DecidableEq, Inhabited

namespace Category

def text : Category → String
  | primitive => "primitive"
  | literal => "literal"
  | object => "object"
  | union => "union"
  | intersection => "intersection"
  | tuple => "tuple"
  | array => "array"
  | function => "function"
  | classType => "class"
  | enum => "enum"
  | generic => "generic"
  | named => "opaque"
  | computed => "computed"

def all : List Category :=
  [primitive, literal, object, union, intersection, tuple, array, function, classType, enum,
    generic, named, computed]

def ofText (word : String) : Result Category :=
  match all.find? (·.text == word) with
  | some category => .ok category
  | none => .error (.unknownCategory word)

def isObjectShaped : Category → Bool
  | object => true
  | intersection => true
  | classType => true
  | _ => false

end Category

end TypeGloss
