/-
# TypeGloss.Component — which functions are components

A component is a function of one object. `ComponentPolicy.isComponent` decides from
the name and the categories of the parameters of the first signature: with more
than one parameter it is none, with one parameter that parameter must be
object-shaped, and without a parameter the name must start with a capital letter.
A policy may ask for a capital letter in every case.
-/
import TypeGloss.Category
import TypeGloss.Text.Letter

namespace TypeGloss

set_option autoImplicit false

/-- How components are told from other functions. -/
structure ComponentPolicy where
  requiresCapital : Bool := false
  deriving Repr, DecidableEq

/-- Does a name start with a capital letter? -/
def isCapitalized : Option String → Bool
  | some name => name.toList.head?.elim false Text.isCapital
  | none => false

/-- Is a function of that name and those parameters a component? -/
def ComponentPolicy.isComponent (policy : ComponentPolicy) (name : Option String)
    (parameters : List Category) : Bool :=
  if policy.requiresCapital && !isCapitalized name then false
  else
    match parameters with
    | [] => isCapitalized name
    | [category] => category.isObjectShaped
    | _ => false

end TypeGloss
