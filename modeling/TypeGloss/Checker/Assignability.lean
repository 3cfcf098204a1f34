/-
# TypeGloss.Checker.Assignability — when one type is as good as another

`assignable` compares two types by their structure: a member of a union is assignable
to the union, a literal to its primitive type, an array to an array of a type that
its elements are assignable to, an object to an object whose required properties it
has. Functions are not looked into, and library types are compared by name.
-/
import TypeGloss.Checker.Structure

namespace TypeGloss.Assignability

set_option autoImplicit false

/-- Categories of values that are objects at run time. -/
def isObjectValue (category : Category) : Bool :=
  category.isObjectShaped || [Category.array, .tuple, .function].contains category

def toPrimitive (source target : TypeFacts) : Bool :=
  if source.category = .literal then source.primitive == target.primitive
  else if target.primitive == some .object then isObjectValue source.category
  else source.primitive == target.primitive

def toLiteral (source target : TypeFacts) : Bool :=
  source.category = .literal && source.primitive == target.primitive &&
    source.value.agree target.value

def toArray (ask : Ask) (category : Category) (source target : TypeId) : CheckM Bool := do
  if category = .array then
    let have_ ← ask.element? source
    let want ← ask.element? target
    ask.assignable (← Check.need have_) (← Check.need want)
  else if category = .tuple then
    let element ← ask.element? target
    (← ask.elements source).allM fun item => do
      ask.assignable item.type (← Check.need element)
  else return false

/-- An object against an object: every required property is there and assignable. -/
def toObject (ask : Ask) (source target : TypeId) : CheckM Bool := do
  let available := Structure.byName (← ask.properties source)
  (← ask.properties target).allM fun property => do
    if property.isOptional then return true
    else
      match Entries.find? (property.name.getD "") available with
      | none => return false
      | some found =>
          let have_ ← ask.ofSymbol found
          ask.assignable have_ (← ask.ofSymbol property)

/-- Two types that are no unions, against each other by their categories. -/
def byCategory (ask : Ask) (source target : TypeId) (have_ want : TypeFacts) : CheckM Bool :=
  match want.category with
  | .primitive => return toPrimitive have_ want
  | .literal => return toLiteral have_ want
  | .array => toArray ask have_.category source target
  | .function => return have_.category = .function
  | .generic => return have_.name == want.name && have_.args.length == want.args.length
  | category =>
      if category.isObjectShaped && have_.category.isObjectShaped then
        toObject ask source target
      else return false

/-- Is a value of the first type a value of the second? -/
def assignable (ask : Ask) (source target : TypeId) : CheckM Bool := do
  let have_ ← Check.facts source
  let want ← Check.facts target
  if source = target then return true
  else if want.primitive == some .any || want.primitive == some .unknown then return true
  else if have_.primitive == some .never then return true
  else if want.category = .union then (← ask.members target).anyM (ask.assignable source)
  else if have_.category = .union then
    (← ask.members source).allM fun member => ask.assignable member target
  else byCategory ask source target have_ want

end TypeGloss.Assignability
