/-
# TypeGloss.Checker.Computed — utility types, mapped types, keys and access

One step of the computation of a type:

* a utility type drops members of a union, or copies the properties of an object
  with changed modifiers, or keeps some of them by name;
* a mapped type makes one property for every key, with the key's parameter standing
  for the key;
* a key query is the union of the names of the properties;
* an indexed access is the type of an element or of the properties named by the keys.

A step that cannot be taken leaves nothing, or the text of the type as a name.
-/
import TypeGloss.Checker.Assignability

namespace TypeGloss.Computed

set_option autoImplicit false

/-! ## Utility types -/

/-- The members of a union that a utility type keeps. -/
def filterMembers (ask : Ask) (name : String) (args : List TypeId) (target : TypeId) :
    CheckM (Option TypeId) := do
  let members ← ask.alternatives target
  if name = "NonNullable" then
    some <$> ask.unionOfTypes (← Inference.dropNullish members)
  else
    match args with
    | _ :: second :: _ =>
        match ← ask.simplified second with
        | none => return some target
        | some other =>
            let matched ← members.mapM fun member => do
              return (member, ← ask.assignable member other)
            let kept := matched.filter fun pair => pair.2 == (name == "Extract")
            some <$> ask.unionOfTypes (kept.map Prod.fst)
    | _ => return some target

/-- A copy of a property with other modifiers, whose type is known. -/
def copy (ask : Ask) (isOptional isReadonly : Bool) (symbol : Symbol) : CheckM Symbol := do
  match symbol.member with
  | none => return { symbol with isOptional, isReadonly }
  | some member =>
      let t ← ask.ofSymbol symbol
      let fresh ← Check.newMember member.place member.nodes (some t)
      return { symbol with isOptional, isReadonly, member := some fresh }

def changedProperties? (ask : Ask) (name : String) (args : List TypeId)
    (properties : List Symbol) : CheckM (Option (List Symbol)) := do
  match name with
  | "Partial" => some <$> properties.mapM fun p => copy ask true p.isReadonly p
  | "Required" => some <$> properties.mapM fun p => copy ask false p.isReadonly p
  | "Readonly" => some <$> properties.mapM fun p => copy ask p.isOptional true p
  | _ =>
      match args with
      | _ :: second :: _ =>
          match ← Structure.literalKeys? ask second with
          | none => return none
          | some keys =>
              return some (properties.filter fun p =>
                keys.contains (p.name.getD "") == (name == "Pick"))
      | _ => return none

def utility (ask : Ask) (t : TypeId) (name : String) (args : List TypeId) :
    CheckM (Option TypeId) := do
  let first ← Check.needFirst args
  if Library.filteringUtilities.contains name then
    match ← ask.simplified first with
    | none => return none
    | some target => filterMembers ask name args target
  else
    match ← Structure.objectProperties? ask first with
    | none => return none
    | some [] => return none
    | some properties =>
        match ← changedProperties? ask name args properties with
        | none => return none
        | some result => some <$> Check.syntheticObject t result (← ask.text t)

/-! ## Mapped types -/

/-- The parts of a mapped type. -/
structure MappedClause where
  signature : Cursor
  parameter : String
  constraint : Cursor
  remap : Option Cursor
  value : Cursor
  /-- What the type says about optional properties, if anything. -/
  isOptional : Option Bool
  /-- What the type says about readonly properties, if anything. -/
  isReadonly : Option Bool

/-- What the annotation of a mapped type says about optional properties. -/
def optionalModifier? (kind : String) : Option Bool :=
  if ["opting_type_annotation", "adding_type_annotation"].contains kind then some true
  else if kind == "omitting_type_annotation" then some false
  else none

/-- What the tokens of a mapped type say about readonly properties. -/
def readonlyModifier? (before : String) : List Cursor → Option Bool
  | [] => none
  | token :: rest =>
      if token.kind == "readonly" then some (before != "-")
      else readonlyModifier? token.kind rest

/-- The parts of a mapped type, if none is missing. -/
def mappedClause? (node : Cursor) : Option MappedClause := do
  let signature ← TypeSyntax.mappedSignature? node
  let clause ← signature.first? ["mapped_type_clause"]
  let annotation ← signature.first? Grammar.annotations
  let value ← annotation.lastPart?
  let constraint ← (clause.field? "type").or clause.parts[1]?
  return {
    signature, parameter := textOf (clause.fieldOr? "name" ["type_identifier"]), constraint,
    remap := clause.field? "alias", value, isOptional := optionalModifier? annotation.kind,
    isReadonly := readonlyModifier? "" signature.children }

/-- The keys of a mapped type, with the properties they come from where the keys are
those of an object. -/
def mappedKeys? (ask : Ask) (place : Place) (constraint : Cursor) :
    CheckM (Option (List (String × Option Symbol))) := do
  let inner := constraint.unwrapParens
  if inner.kind == "index_type_query" then
    let target ← ask.typeAt (← Check.need inner.lastPart?) place
    match ← Structure.objectProperties? ask target with
    | none => return none
    | some properties =>
        return some ((Structure.byName properties).map fun (name, p) => (name, some p))
  else
    let keys ← Structure.literalKeys? ask (← ask.typeAt inner place)
    return keys.map fun found => found.map fun key => (key, none)

/-- The name that a mapped type gives to the property of a key. -/
def mappedName? (ask : Ask) (place : Place) (remap : Option Cursor) (key : String) :
    CheckM (Option String) := do
  match remap with
  | none => return some key
  | some node =>
      let keys ← Structure.literalKeys? ask (← ask.typeAt node place)
      return (keys.getD []).head?

def mappedProperty? (ask : Ask) (place : Place) (clause : MappedClause) (key : String)
    (base : Option Symbol) : CheckM (Option Symbol) := do
  let literal ← Check.literal (.text key) .string
  let inside ← Check.newPlace place.source (Entries.put clause.parameter literal place.env)
  match ← mappedName? ask inside clause.remap key with
  | none => return none
  | some name =>
      let declaration := match base with
        | some property => property.declaration
        | none => some ⟨.property, some name, place.source.path, some clause.signature⟩
      let type ← ask.typeAt clause.value inside
      let nodes := ((declaration.bind Declaration.node).map ([·])).getD []
      return some
        { name := some name, declaration,
          isOptional := clause.isOptional.getD (base.elim false Symbol.isOptional),
          isReadonly := clause.isReadonly.getD (base.elim false Symbol.isReadonly),
          kind := some .property, member := some (← Check.newMember inside nodes (some type)) }

def mapped (ask : Ask) (t : TypeId) (node : Cursor) (place : Place) :
    CheckM (Option TypeId) := do
  match mappedClause? node with
  | none => return none
  | some clause =>
      match ← mappedKeys? ask place clause.constraint with
      | none => return none
      | some keys =>
          let found ← keys.mapM fun (key, base) => mappedProperty? ask place clause key base
          some <$> Check.syntheticObject t (found.filterMap id) (← ask.text t)

/-! ## Keys and access -/

def keys (ask : Ask) (t : TypeId) (node : Cursor) (place : Place) : CheckM (Option TypeId) := do
  let target ← ask.typeAt (← Check.need node.lastPart?) place
  match ← Structure.objectProperties? ask target with
  | none => some <$> Structure.stuck ask t
  | some properties =>
      some <$> ask.unionOf (fun p => Check.literal (.text (p.name.getD "")) .string) properties

/-- The position that a literal type stands for; a truth value counts as zero or
one. -/
def position? (index : TypeFacts) : Option Int :=
  match index.category, index.value with
  | .literal, .integer n => some n
  | .literal, .flag b => some (if b then 1 else 0)
  | _, _ => none

/-- The element type that an index picks out of a tuple, if it picks any. -/
def tupleAccess? (ask : Ask) (target : TypeId) (index : TypeFacts) :
    CheckM (Option TypeId) := do
  let elements ← ask.elements target
  match position? index with
  | some n =>
      if n < 0 then return none else return elements[n.toNat]?.map TupleItem.type
  | none =>
      if index.primitive == some .number then
        some <$> ask.unionOfTypes (elements.map TupleItem.type)
      else return none

def propertyTypes (ask : Ask) (target : TypeId) (keys : List String) : CheckM (List TypeId) := do
  let properties := Structure.byName (← ask.properties target)
  (keys.filterMap fun key => Entries.find? key properties).mapM ask.ofSymbol

/-- An access by the keys that the index stands for. -/
def keyAccess (ask : Ask) (t target index : TypeId) : CheckM TypeId := do
  let keys := (← Structure.literalKeys? ask index).getD []
  if !keys.isEmpty && (← Check.category target).isObjectShaped then
    match ← propertyTypes ask target keys with
    | [] => Structure.stuck ask t
    | found => ask.unionOfTypes found
  else Structure.stuck ask t

def access (ask : Ask) (t : TypeId) (node : Cursor) (place : Place) : CheckM (Option TypeId) := do
  match node.parts with
  | targetNode :: indexNode :: _ =>
      let target ← ask.simplified (← ask.typeAt targetNode place)
      let index ← ask.simplified (← ask.typeAt indexNode place)
      match target, index with
      | some target, some index =>
          let category ← Check.category target
          let indexFacts ← Check.facts index
          if category = .array && indexFacts.primitive == some .number then ask.element? target
          else if category = .tuple then
            match ← tupleAccess? ask target indexFacts with
            | some found => return some found
            | none => some <$> keyAccess ask t target index
          else some <$> keyAccess ask t target index
      | _, _ => return none
  | _ => return none

end TypeGloss.Computed
