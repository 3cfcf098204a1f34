/-
# TypeGloss.Checker.Store — interned types and the checker's state

Types are interned: the same declaration with the same arguments, or the same
syntax read at the same place, has one identity. A `Key` says what makes two types
the same; `intern` returns the type of a key and makes it only if there is none.

A type is a record. What can be said at once are its *facts*, which never change; what
takes work is a *part* that is loaded when it is first asked for and then kept. The
`shape` of a type says how its parts are found. While a part is being loaded it is
marked, so that a type that needs itself ends.

The state has the *program*, which is what the answers are about and which no question
changes. Besides it keeps the types of member slots, the frames that say what type
parameters stand for, of which the first is empty and stays so, and two guards that end
circular definitions: the aliases being expanded and the variables whose types are being
inferred.

A computation of the checker (`CheckM`) may fail, and what it learned up to the
failure is kept.
-/
import TypeGloss.Checker.Symbol
import TypeGloss.Library
import TypeGloss.Settings
import Std.Data.HashMap

namespace TypeGloss

set_option autoImplicit false

/-! ## What makes two types the same -/

/-- The value of a literal type as part of a key. -/
inductive LiteralKey where
  | text (s : String)
  | integer (n : Int)
  | number (spelling : String)
  | flag (b : Bool)
  | other
  deriving Repr, DecidableEq, Hashable

def LiteralKey.ofValue : Value → LiteralKey
  | .text s => .text s
  | .integer n => .integer n
  | .number x => .number (Number.Layout.plain.render x)
  | .flag b => .flag b
  | _ => .other

/-- What the type parameters in view stand for, in the order of their names. -/
abbrev EnvKey := List (String × TypeId)

def Env.key (env : Env) : EnvKey :=
  env.mergeSort fun a b => a.1 ≤ b.1

/-- How one node of syntax can be read in different ways. -/
inductive Reading where
  | plain
  | object (frozen : Bool)
  | tuple
  deriving Repr, DecidableEq, Hashable

/-- What makes two types the same. -/
inductive Key where
  | primitive (p : Primitive)
  | literal (p : Primitive) (value : LiteralKey)
  | array (element : TypeId) (readonly : Bool)
  | generic (name file : String) (args : List TypeId)
  | named (text : String) (file : Option String)
  /-- A computed type that cannot be simplified, as a name. -/
  | stuck (computed : TypeId)
  | typeParameter (path : String) (start : Nat)
  | union (members : List TypeId)
  | node (path : String) (start stop : Nat) (kind : String) (env : EnvKey)
      (via : Option AliasKey) (reading : Reading)
  | utility (name : String) (args : List TypeId) (via : Option AliasKey)
  | declared (path : String) (start : Nat) (args : List TypeId)
  | enumMember (enum : TypeId) (name : String)
  | function (path : String) (start : Nat) (env : EnvKey)
  | simplified (computed : TypeId)
  deriving Repr, DecidableEq, Hashable

def Key.ofNode (node : Cursor) (place : Place) (via : Option AliasRef) (reading : Reading) :
    Key :=
  .node place.source.path node.mark.start node.mark.stop node.kind (Env.key place.env)
    (via.map AliasRef.key) reading

/-! ## Parts -/

/-- What is loaded when it is first asked for. -/
inductive Part where
  | text
  | members
  | element
  | elements
  | properties
  | indexes
  | calls
  | constructs
  | classMembers
  | enumMembers
  | simplified
  deriving Repr, DecidableEq

abbrev Part.Content : Part → Type
  | text => String
  | members => List TypeId
  | element => TypeId
  | elements => List TupleItem
  | properties => List Symbol
  | indexes => List IndexEntry
  | calls => List CallSignature
  | constructs => List CallSignature
  | classMembers => List Symbol
  | enumMembers => List (String × Value)
  | simplified => Option TypeId

/-- The parts that have been loaded. -/
structure Cache where
  text : Option String := none
  members : Option (List TypeId) := none
  element : Option TypeId := none
  elements : Option (List TupleItem) := none
  properties : Option (List Symbol) := none
  indexes : Option (List IndexEntry) := none
  calls : Option (List CallSignature) := none
  constructs : Option (List CallSignature) := none
  classMembers : Option (List Symbol) := none
  enumMembers : Option (List (String × Value)) := none
  simplified : Option (Option TypeId) := none
  deriving Inhabited

/-- A part, if it has been loaded. -/
def Cache.get? (cache : Cache) : (part : Part) → Option part.Content
  | .text => cache.text
  | .members => cache.members
  | .element => cache.element
  | .elements => cache.elements
  | .properties => cache.properties
  | .indexes => cache.indexes
  | .calls => cache.calls
  | .constructs => cache.constructs
  | .classMembers => cache.classMembers
  | .enumMembers => cache.enumMembers
  | .simplified => cache.simplified

def Cache.set (cache : Cache) : (part : Part) → part.Content → Cache
  | .text, content => { cache with text := some content }
  | .members, content => { cache with members := some content }
  | .element, content => { cache with element := some content }
  | .elements, content => { cache with elements := some content }
  | .properties, content => { cache with properties := some content }
  | .indexes, content => { cache with indexes := some content }
  | .calls, content => { cache with calls := some content }
  | .constructs, content => { cache with constructs := some content }
  | .classMembers, content => { cache with classMembers := some content }
  | .enumMembers, content => { cache with enumMembers := some content }
  | .simplified, content => { cache with simplified := some content }

/-! ## Records -/

/-- How the parts of a type are found. -/
inductive Shape where
  /-- Nothing is left to find. -/
  | plain
  /-- An array of a known element type. -/
  | array
  /-- A library type with arguments. -/
  | generic
  /-- A union of known types. -/
  | union
  /-- Type syntax; the category says which. -/
  | written
  /-- An array type reached through an alias. -/
  | writtenArray
  /-- A utility type applied to the type's arguments. -/
  | utility (name : String)
  /-- An interface, a class or an enum. -/
  | declared
  /-- A function with one signature per node. -/
  | function (nodes : List Cursor)
  /-- A class expression. -/
  | classExpression
  /-- An object literal. -/
  | objectLiteral (frozen : Bool)
  /-- A constant array literal. -/
  | frozenTuple
  deriving Inhabited

/-- What is known about a type from the moment it is made. -/
structure TypeFacts where
  category : Category
  name : Option String := none
  node : Option Cursor := none
  place : Option Place := none
  via : Option AliasRef := none
  bindings : List Module.Binding := []
  args : List TypeId := []
  primitive : Option Primitive := none
  value : Value := .null
  libraryFile : Option String := none
  symbol : Option Symbol := none
  shape : Shape := .plain
  deriving Inhabited

/-- A type. -/
structure TypeRecord extends TypeFacts where
  /-- The text of the type, once it is known. -/
  label : Option String := none
  cache : Cache := {}
  /-- The parts that are being loaded. -/
  loading : List Part := []
  deriving Inhabited

/-! ## State -/

/-- What a checker is asked about. -/
structure Program where
  /-- Tells this checker from others. -/
  identity : Nat := 0
  settings : SourceSettings := {}
  /-- The registered sources, in the order in which their paths were registered. -/
  sources : Entries Source := []
  deriving Inhabited

/-- The state of a checker. -/
structure State extends Program where
  interned : Std.HashMap Key TypeId := {}
  records : Array TypeRecord := #[]
  /-- The types of member slots. -/
  slots : Array (Option TypeId) := #[]
  /-- What the type parameters in view stand for, by frame. -/
  frames : Array Env := #[[]]
  /-- Uses of aliases that are being expanded. -/
  expanding : List AliasKey := []
  /-- Variables whose types are being inferred. -/
  inferring : List (String × Nat) := []
  deriving Inhabited

/-- A state where the program is meant that it is about. -/
instance : Coe State Program := ⟨State.toProgram⟩

namespace State

def update (t : TypeId) (f : TypeRecord → TypeRecord) (state : State) : State :=
  { state with records := state.records.modify t f }

/-- Note that a part of a type is being loaded. -/
def mark (t : TypeId) (part : Part) : State → State :=
  update t fun r => { r with loading := part :: r.loading }

/-- Note that a part of a type is no longer being loaded. -/
def unmark (t : TypeId) (part : Part) : State → State :=
  update t fun r => { r with loading := r.loading.erase part }

def keepPart (t : TypeId) (part : Part) (content : part.Content) : State → State :=
  update t fun r => { r with cache := r.cache.set part content }

def keepLabel (t : TypeId) (text : String) : State → State :=
  update t fun r => { r with label := some text }

/-- A place that was kept, with all that has come into view there by now. Only complete places
are kept. -/
def current (state : State) (place : Place) : Place :=
  { place with env := state.frames.getD place.frame [], blanks := [] }

end State

/-- A computation of the checker. The state survives a failure. -/
abbrev CheckM := ExceptT Fault (StateM State)

namespace Check

/-- The outcome of a computation outside the checker. -/
def ofResult {α : Type} : Result α → CheckM α
  | .ok a => pure a
  | .error fault => throw fault

/-- A part of the syntax that a rule needs. -/
def need {α : Type} : Option α → CheckM α
  | some a => pure a
  | none => throw .missingPart

/-- The first entry of a sequence that a rule needs. -/
def needFirst {α : Type} : List α → CheckM α
  | a :: _ => pure a
  | [] => throw .emptySequence

/-- The last entry of a sequence that a rule needs. -/
def needLast {α : Type} (items : List α) : CheckM α :=
  match items.getLast? with
  | some a => pure a
  | none => throw .emptySequence

/-- A computation between two changes of the state, of which the second takes
place whether or not the computation fails. -/
def bracket {α : Type} (enter leave : State → State) (body : CheckM α) : CheckM α :=
  ExceptT.mk fun state =>
    let (outcome, after) := body.run.run (enter state)
    (outcome, leave after)

def program : CheckM Program := do
  return (← get).toProgram

def scopeOf (source : Source) : CheckM Module.Scope := ofResult source.scope

/-! ## Types -/

/-- The record of a type, which must be one of this checker's. -/
def record (t : TypeId) : CheckM TypeRecord := do
  match (← get).records[t]? with
  | some r => return r
  | none => throw .foreignHandle

/-- What is known about a type from the moment it was made. -/
def facts (t : TypeId) : CheckM TypeFacts := do
  return (← record t).toTypeFacts

def category (t : TypeId) : CheckM Category := do
  return (← facts t).category

/-- The type of a key, made if there is none. -/
def intern (key : Key) (fresh : TypeRecord) : CheckM TypeId := do
  let state ← get
  match state.interned[key]? with
  | some t => return t
  | none =>
      let t := state.records.size
      set { state with
        interned := state.interned.insert key t, records := state.records.push fresh }
      return t

def newPlace (source : Source) (env : Env) : CheckM Place := do
  let state ← get
  set { state with frames := state.frames.push env }
  return { source, env, frame := state.frames.size }

/-- A place at which one more type parameter has come into view. -/
def bindAt (place : Place) (name : String) (t : TypeId) : CheckM Place := do
  modify fun state =>
    { state with frames := state.frames.modify place.frame (Entries.put name t) }
  return { place with env := Entries.put name t place.env }

/-- Refuse a place where a name in view stands for nothing: no type is known by it. -/
def complete (place : Place) : CheckM Unit :=
  if place.blanks.isEmpty then pure () else throw .missingPart

def upToDate (place : Place) : CheckM Place := return (← get).current place

/-! ## Guards -/

/-- A list of the state in which a computation notes what it is about, so that it is not
begun again inside itself. -/
structure Guard (κ : Type) where
  held : State → List κ
  hold : List κ → State → State

/-- The uses of aliases that are being expanded. -/
def Guard.aliases : Guard AliasKey :=
  ⟨State.expanding, fun keys state => { state with expanding := keys }⟩

/-- The variables whose types are being inferred. -/
def Guard.values : Guard (String × Nat) :=
  ⟨State.inferring, fun keys state => { state with inferring := keys }⟩

/-- A computation about something, or another one if the computation is being done
already. -/
def guarded {κ α : Type} [BEq κ] (guard : Guard κ) (key : κ) (circular body : CheckM α) :
    CheckM α := do
  if (guard.held (← get)).contains key then circular
  else
    bracket
      (fun state => guard.hold (key :: guard.held state) state)
      (fun state => guard.hold ((guard.held state).erase key) state)
      body

/-! ## Members -/

/-- A new slot for the type of a member, which may be known already. -/
def newSlot (type : Option TypeId) : CheckM Nat := do
  let state ← get
  set { state with slots := state.slots.push type }
  return state.slots.size

/-- The type in the slot of a member, which must be one of this checker's; nothing if it
is not known yet. -/
def slotType (slot : Nat) : CheckM (Option TypeId) := do
  match (← get).slots[slot]? with
  | some type => return type
  | none => throw .foreignHandle

def setSlot (slot : Nat) (t : TypeId) : CheckM Unit :=
  modify fun state => { state with slots := state.slots.setIfInBounds slot (some t) }

def newMember (place : Place) (nodes : List Cursor) (type : Option TypeId) : CheckM Member := do
  return ⟨← newSlot type, place, nodes⟩

/-! ## Simple types -/

def primitive (p : Primitive) : CheckM TypeId :=
  intern (.primitive p)
    { category := .primitive, label := some p.text, name := some p.text, primitive := some p }

/-- The type of anything. -/
def any : CheckM TypeId := primitive .any

def literalText (p : Primitive) : Value → Result String
  | .text s => .ok (Text.quote s)
  | .flag b => .ok (if b then "true" else "false")
  | .integer n => do
      let digits ← Value.integerSpelling n
      return if p = .bigint then digits ++ "n" else digits
  | v => .ok v.keyText

def literal (value : Value) (p : Primitive) : CheckM TypeId := do
  let label ← ofResult (literalText p value)
  intern (.literal p (.ofValue value))
    { category := .literal, label := some label, primitive := some p, value }

/-- A literal type without a symbol becomes its primitive type. -/
def widen (t : TypeId) : CheckM TypeId := do
  let r ← facts t
  match r.category, r.symbol, r.primitive with
  | .literal, none, some p => primitive p
  | _, _, _ => return t

/-- A type as it is, or widened. -/
def keepLiteral (t : TypeId) (keep : Bool) : CheckM TypeId :=
  if keep then pure t else widen t

def arrayOf (element : TypeId) (readonly : Bool) : CheckM TypeId :=
  intern (.array element readonly)
    { category := .array, shape := .array, cache := { element := some element } }

def genericOf (name file : String) (args : List TypeId) : CheckM TypeId :=
  intern (.generic name file args)
    { category := .generic, name := some name, args, libraryFile := some file,
      symbol := some (.ofLibrary name file), shape := .generic }

/-- A type that is only a name, with the file it comes from if that is known. -/
def namedType (text : String) (file : Option String) : CheckM TypeId :=
  intern (.named text file)
    { category := .named, label := some text, name := some text, libraryFile := file,
      symbol := file.map (Symbol.ofLibrary text) }

/-- A computed type that cannot be simplified, as a name. -/
def stuckType (computed : TypeId) (text : String) : CheckM TypeId :=
  intern (.stuck computed) { category := .named, label := some text, name := some text }

/-- A type parameter that nothing is known about. -/
def typeParameter (name : String) (node : Cursor) (source : Source) : CheckM TypeId :=
  intern (.typeParameter source.path node.mark.start)
    { category := .named, label := some name, name := some name, node := some node,
      place := some (.top source),
      symbol := some
        { name := some name,
          declaration := some ⟨.typeParameter, some name, source.path, some node⟩ } }

/-- An object with given properties in place of a computed type. -/
def syntheticObject (computed : TypeId) (properties : List Symbol) (text : String) :
    CheckM TypeId := do
  let r ← facts computed
  intern (.simplified computed)
    { category := .object, label := some text, name := r.name, node := r.node, place := r.place,
      via := r.via, symbol := r.symbol, cache := { properties := some properties } }

/-- Refuse a declaration whose syntax has an error. -/
def checkSyntax (node : Cursor) (source : Source) : CheckM Unit :=
  match node.focus.findError with
  | none => pure ()
  | some error =>
      throw (.malformed source.path (error.mark.first.row + 1) (error.mark.first.column + 1)
        (String.ofList (error.text.toList.take 80)))

end Check

end TypeGloss
