/-
# TypeGloss.Checker.Enum — enums and their members

A member with an initializer has the value that the initializer evaluates to, with
the earlier members as constants. A member without one has zero if it is the first,
and one more than the member before it if that one is an integer. Everything else
has no value, which is null.

A member is a literal type of its own, written with the name of the enum.
-/
import TypeGloss.Checker.Lookup
import TypeGloss.Evaluation.Expression

namespace TypeGloss.Enum

set_option autoImplicit false

def body (node : Cursor) : List Cursor :=
  ((node.fieldOr? "body" ["enum_body"]).map Cursor.parts).getD []

def nameNode? (member : Cursor) : Option Cursor :=
  if member.kind == "enum_assignment" then
    member.fieldOr? "name" ["property_identifier", "string"]
  else some member

def memberName (member : Cursor) : CheckM String := do
  Check.ofResult (Literal.memberName (← Check.need (nameNode? member)).focus)

/-- The value of a member without an initializer. -/
def following : List (String × Value) → Value
  | [] => .integer 0
  | members =>
      match members.getLast? with
      | some (_, .integer n) => .integer (n + 1)
      | _ => .null

/-- The value of a member with an initializer, after other members. -/
def initialized (source : Source) (member : Cursor) (earlier : List (String × Value)) :
    CheckM Value := do
  let program ← Check.program
  let context : Expression.Context :=
    { lookup := some (Lookup.initializersAt program source member),
      constants := Entries.ofList (Value.constants earlier) }
  let value ← Check.ofResult
    (Expression.value? context ((member.field? "value").map Cursor.focus))
  return value.getD .null

/-- The members of an enum after one more part of its body. -/
def addMember (source : Source) (members : List (String × Value)) (member : Cursor) :
    CheckM (List (String × Value)) := do
  if member.kind == "enum_assignment" then
    let name ← memberName member
    return members ++ [(name, ← initialized source member members)]
  else if ["property_identifier", "string", "number"].contains member.kind then
    return members ++ [(← memberName member, following members)]
  else return members

/-- The members of an enum and their values, in order. -/
def members (source : Source) (node : Cursor) : CheckM (List (String × Value)) :=
  (body node).foldlM (addMember source) []

/-- The first node of a body that has the given name. -/
def namedNode? (name : String) : List Cursor → CheckM (Option Cursor)
  | [] => return none
  | member :: rest => do
      if (← memberName member) == name then return some member else namedNode? name rest

/-- The type of a member, if the enum has a member of that name. -/
def memberType? (ask : Ask) (enum : TypeId) (name : String) : CheckM (Option TypeId) := do
  let listed := (← ask.load? enum .enumMembers).getD []
  match Entries.find? name (Entries.ofList listed) with
  | none => return none
  | some value =>
      let owner ← Check.facts enum
      let place ← Check.need owner.place
      let node ← namedNode? name ((owner.node.map body).getD [])
      let primitive := match value with
        | .text _ => Primitive.string
        | _ => Primitive.number
      some <$> Check.intern (.enumMember enum name)
        { category := .literal, label := some (owner.name.getD "" ++ "." ++ name),
          name := some name, node, place := some (.top place.source), primitive := some primitive,
          value,
          symbol := some
            { name := some name,
              declaration := some ⟨.enumMember, some name, place.source.path, node⟩ } }

end TypeGloss.Enum
