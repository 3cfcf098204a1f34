/-
# TypeGloss.Checker.Structure — what a type appears to have

Before a type is looked into, all computation in it is done. A computed type that
does not come to an end within `maxSteps` steps, or comes back to itself, is left as
a name with the text of the type; one of which nothing is left has no properties.

An object has its own properties, a class those members of its instances that can be
read, and an intersection those of all its constituents, of two of one name the
first.
-/
import TypeGloss.Checker.TypeSyntax

namespace TypeGloss.Structure

set_option autoImplicit false

/-- The number of steps in which a type is simplified. -/
def maxSteps : Nat := 16

/-- A computed type that cannot be simplified, as a name. -/
def stuck (ask : Ask) (t : TypeId) : CheckM TypeId := do
  Check.stuckType t (← ask.text t)

/-- A type after at most the given number of steps of computation. -/
def simplifiedIn (ask : Ask) : Nat → TypeId → CheckM (Option TypeId)
  | 0, t => do
      if (← Check.category t) = .computed then some <$> stuck ask t else return some t
  | steps + 1, t => do
      if (← Check.category t) ≠ .computed then return some t
      else
        match (← ask.load? t .simplified).join with
        | none => return none
        | some next =>
            if next = t then some <$> stuck ask t else simplifiedIn ask steps next

/-- A type with all computation done; nothing if nothing is left of it. -/
def simplified (ask : Ask) (t : TypeId) : CheckM (Option TypeId) :=
  simplifiedIn ask maxSteps t

/-- Is a class member a property of the instances that can be read? -/
def isReadable (symbol : Symbol) : Bool :=
  !symbol.isStatic && [some .property, some .getter, some .method].contains symbol.kind

def properties (ask : Ask) (t : TypeId) : CheckM (List Symbol) := do
  match ← ask.simplified t with
  | none => return []
  | some t =>
      match ← Check.category t with
      | .object => return (← ask.load? t .properties).getD []
      | .classType => return ((← ask.load? t .classMembers).getD []).filter isReadable
      | .intersection =>
          (← ask.members t).foldlM
            (fun found constituent => do
              return Members.inherit found (← ask.properties constituent)) []
      | _ => return []

def indexes (ask : Ask) (t : TypeId) : CheckM (List IndexEntry) := do
  match ← ask.simplified t with
  | none => return []
  | some t =>
      match ← Check.category t with
      | .object => return (← ask.load? t .indexes).getD []
      | .intersection =>
          let (entries, _) ← (← ask.members t).foldlM
            (fun found constituent => do
              Members.inheritIndexes ask found (← ask.indexes constituent)) ([], [])
          return entries
      | _ => return []

/-- The properties of a type that has any shape of an object. -/
def objectProperties? (ask : Ask) (t : TypeId) : CheckM (Option (List Symbol)) := do
  match ← ask.simplified t with
  | none => return none
  | some t =>
      if (← Check.category t).isObjectShaped then some <$> ask.properties t else return none

/-- Properties by name; of two of one name the later. -/
def byName (properties : List Symbol) : Entries Symbol :=
  Entries.ofList (properties.map fun property => (property.name.getD "", property))

/-! ## Keys -/

/-- The keys that literal types stand for; nothing if one of them is no literal. -/
def keysOf? : List TypeId → CheckM (Option (List String))
  | [] => return some []
  | t :: rest => do
      let r ← Check.facts t
      if r.category = .literal && (r.primitive == some .string || r.primitive == some .number)
      then return (← keysOf? rest).map (r.value.keyText :: ·)
      else if r.primitive == some .never then keysOf? rest
      else return none

/-- The keys that a literal type or a union of literal types stands for. -/
def literalKeys? (ask : Ask) (t : TypeId) : CheckM (Option (List String)) := do
  match ← ask.simplified t with
  | none => return none
  | some t => keysOf? (← ask.alternatives t)

end TypeGloss.Structure
