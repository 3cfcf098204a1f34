/-
# TypeGloss.Resolution.Builder — one node

How the node of an expanded type is built, given how the types below it are resolved
(`Below`). A type below may come to nothing; then a member, an element of a tuple or a
parameter is left out, while an element of an array, an argument or the key or value
of an index signature is kept as a reference.
-/
import TypeGloss.Component
import TypeGloss.Resolution.Context
import TypeGloss.Resolution.Defaults

namespace TypeGloss.Builder

set_option autoImplicit false

/-- How types below the current one are resolved: a type, and the declaration that
leads to it. -/
abbrev Below := TypeId → Option Declaration → ResolveM (Option Node)

/-! ## Properties and parameters -/

/-- A node with a default from an initializer or from patterns, if there is any. -/
def attachDefault (declaration : Option Declaration) (patterns : List Cursor) (node : Node) :
    ResolveM Node := do
  match declaration with
  | none => return node
  | some declaration =>
      let initializer := Checker.initializer? declaration
      if initializer.isNone && patterns.isEmpty then return node
      else
        match ← Checker.defaultOf declaration initializer patterns with
        | some value => return node.assignDefault value
        | none => return node

/-- The header of a property's node, which says what is known about the property. -/
def propertyHeader (symbol : Symbol) (metadata : Metadata) (header : Header) : Header :=
  { header with
    name := symbol.name, isOptional := some symbol.isOptional,
    isReadonly := some symbol.isReadonly, filePath := metadata.filePath.or header.filePath,
    position := metadata.position.or header.position,
    description := metadata.description.or header.description,
    tags := (Context.noted metadata.tags).or header.tags,
    isStatic := symbol.isStatic || header.isStatic,
    visibility := symbol.visibility.or header.visibility }

def property (plan : Plan) (below : Below) (symbol : Symbol) : ResolveM (Option Node) := do
  let metadata ← Metadata.ofSymbol symbol none
  let t ← Checker.typeOfSymbol symbol
  if !plan.accepts metadata then
    let text ← Checker.text t
    let location ← Context.locate t (some symbol) symbol.declaration
    return some (Context.reference ⟨text, location, some metadata, none⟩)
  else
    match ← below t symbol.declaration with
    | none => return none
    | some node =>
        some <$> attachDefault symbol.declaration []
          (node.mapHeader (propertyHeader symbol metadata))

/-- Properties, without those that come to nothing. -/
def properties (plan : Plan) (below : Below) (symbols : List Symbol) : ResolveM (List Node) := do
  return (← symbols.mapM (property plan below)).filterMap id

def parameterHeader (symbol : Symbol) (header : Header) : Header :=
  let location := symbol.declaration.map Checker.declarationLocation
  { header with
    name := symbol.name, isOptional := some symbol.isOptional,
    isRest := if symbol.isRest then some true else header.isRest,
    filePath := (location.map Location.path).or header.filePath,
    position := (location.map Location.position).or header.position }

def parameter (below : Below) (symbol : Symbol) : ResolveM (Option Node) := do
  let t ← Checker.typeOfSymbol symbol
  match ← below t symbol.declaration with
  | none => return none
  | some node =>
      some <$> attachDefault symbol.declaration
        ((symbol.declaration.map Checker.patterns).getD [])
        (node.mapHeader (parameterHeader symbol))

/-! ## Signatures -/

def signature (below : Below) (call : CallSignature) : ResolveM Signature := do
  let parameters ← call.parameters.mapM (parameter below)
  let returnType ← Checker.text call.returnType
  return .mk .functionSignature call.text (parameters.filterMap id) returnType call.modifier

def componentSignature (below : Below) (call : CallSignature) : ResolveM ComponentSignature := do
  let props ← match call.parameters with
    | first :: _ => parameter below first
    | [] => pure none
  let returnType ← Checker.text call.returnType
  return .mk .componentSignature call.text props returnType call.modifier

/-- The category of a parameter's type, with all computation done if it comes to
something. -/
def parameterCategory (symbol : Symbol) : CheckM Category := do
  let t ← Checker.typeOfSymbol symbol
  match ← Checker.simplified t with
  | some simple => Checker.category simple
  | none => Checker.category t

/-- A type that can be called: a component or a function. -/
def callable (plan : Plan) (below : Below) (t : TypeId) (context : Context) : ResolveM Node := do
  let calls ← Checker.calls t
  let categories ← match calls with
    | first :: _ => first.parameters.mapM fun symbol => parameterCategory symbol
    | [] => pure []
  let name := (context.metadata.bind Metadata.name).or (context.enclosing.bind Declaration.name)
  let policy : ComponentPolicy := ⟨plan.settings.componentRequiresCapital⟩
  if policy.isComponent name categories then
    return .component (context.header .component) (← calls.mapM (componentSignature below))
  else return .function (context.header .function) (← calls.mapM (signature below))

/-! ## Objects -/

/-- A type below that is kept as a reference if it comes to nothing. -/
def kept (below : Below) (context : Context) (t : TypeId) : ResolveM Node := do
  match ← below t none with
  | some node => return node
  | none => return context.referenceTo (← Checker.text t)

def index (below : Below) (context : Context) (entry : IndexEntry) : ResolveM IndexSignature := do
  let key ← kept below context entry.keyType
  let value ← kept below context entry.valueType
  return .mk .indexSignature entry.text
    (key.mapHeader fun header => { header with name := some entry.keyName }) value
    (if entry.isReadonly then some true else none)

/-- A list, unless it is empty. -/
def nonempty {α : Type} (items : List α) : Option (List α) :=
  if items.isEmpty then none else some items

def object (plan : Plan) (below : Below) (t : TypeId) (context : Context) : ResolveM Node := do
  let entries ← Checker.indexes t
  let indexes ← entries.mapM (index below context)
  let symbols ← Checker.properties t
  return .object (context.header .object) (← properties plan below symbols) (nonempty indexes)

/-- An object or, if all one can do with it is to call it, a function. -/
def objectOrCallable (plan : Plan) (below : Below) (t : TypeId) (context : Context) :
    ResolveM Node := do
  let symbols ← Checker.properties t
  let calls ← if symbols.isEmpty then Checker.calls t else pure []
  if calls.isEmpty then object plan below t context else callable plan below t context

/-! ## Unions, intersections, arrays, tuples -/

def union (below : Below) (t : TypeId) (context : Context) : ResolveM Node := do
  let members ← Checker.unionMembers t
  let nodes ← members.mapM fun member => below member none
  return .union (context.header .union) (nodes.filterMap id)

/-- Is a constituent of an intersection laid out as its properties? -/
def isFlattened (plan : Plan) (t : TypeId) : CheckM Bool := do
  if plan.settings.intersectionPolicy ≠ .flattenAnonymous then return false
  else
    match ← Checker.simplified t with
    | some simple => Checker.isAnonymousObject simple
    | none => return false

/-- What a constituent contributes to an intersection. -/
def constituent (plan : Plan) (below : Below) (t : TypeId) : ResolveM (List Node) := do
  if ← isFlattened plan t then
    let symbols ← Checker.properties t
    properties plan below symbols
  else return (← below t none).toList

def intersection (plan : Plan) (below : Below) (t : TypeId) (context : Context) :
    ResolveM Node := do
  let members ← Checker.intersectionMembers t
  let nodes ← members.mapM (constituent plan below)
  return .intersection (context.header .intersection) nodes.flatten

def array (below : Below) (t : TypeId) (context : Context) : ResolveM Node := do
  let element ← match ← Checker.element? t with
    | some element => kept below context element
    | none => pure (context.referenceTo "unknown")
  return .array (context.header .array) element

def tupleHeader (item : TupleItem) (header : Header) : Header :=
  { header with
    name := item.name.or header.name,
    isOptional := if item.isOptional then some true else header.isOptional,
    isRest := if item.isRest then some true else header.isRest }

def tuple (below : Below) (t : TypeId) (context : Context) : ResolveM Node := do
  let items ← Checker.tupleItems t
  let nodes ← items.mapM fun item => do
    return (← below item.type none).map (Node.mapHeader (tupleHeader item))
  return .tuple (context.header .tuple) (nodes.filterMap id)

def generic (below : Below) (t : TypeId) (context : Context) : ResolveM Node := do
  let args ← Checker.arguments t
  let nodes ← args.mapM (kept below context)
  let name ← Checker.name? t
  return .generic (context.header .generic) (name.getD context.text) nodes

/-- An enum; of two members of one name the later value counts. -/
def enum (t : TypeId) (context : Context) : ResolveM Node := do
  let members ← Checker.enumMembers t
  return .enum (context.header .enum) (Entries.ofList members)

/-! ## Classes -/

def memberHeader (kind : Kind) (symbol : Symbol) (metadata : Metadata) (type : String) :
    MemberHeader :=
  { kind, name := symbol.name.getD "", type, isStatic := symbol.isStatic,
    visibility := symbol.visibility, filePath := metadata.filePath,
    position := metadata.position, description := metadata.description,
    tags := Context.noted metadata.tags }

def method (below : Below) (symbol : Symbol) : ResolveM Method := do
  let t ← Checker.typeOfSymbol symbol
  let text ← Checker.text t
  let calls ← Checker.calls t
  let signatures ← calls.mapM (signature below)
  let metadata ← Metadata.ofSymbol symbol none
  return .mk (memberHeader .classMethod symbol metadata text) signatures

def getterType (calls : List CallSignature) : CheckM String :=
  match calls with
  | call :: _ => Checker.text call.returnType
  | [] => return "any"

/-- A getter or a setter. -/
def accessor (below : Below) (symbol : Symbol) : ResolveM Accessor := do
  let t ← Checker.typeOfSymbol symbol
  let calls ← Checker.calls t
  let metadata ← Metadata.ofSymbol symbol none
  if symbol.kind = some .getter then
    let type ← getterType calls
    return .mk (memberHeader .classAccessor symbol metadata type) "get" (some type) none
  else
    let node ← match calls.head?.bind fun call => call.parameters.head? with
      | some first => parameter below first
      | none => pure none
    let type := (node.map fun n => n.header.type).getD "any"
    return .mk (memberHeader .classAccessor symbol metadata type) "set" none node

/-- Is a member of a class documented? -/
def isShown (plan : Plan) (symbol : Symbol) : Bool :=
  plan.settings.includePrivateMembers ||
    !(symbol.visibility == some .toOwner || Text.startsWith "#" (symbol.name.getD ""))

/-- The members of a class, by what they are. -/
structure ClassParts where
  properties : List Node := []
  methods : List Method := []
  accessors : List Accessor := []

def addMember (plan : Plan) (below : Below) (parts : ClassParts) (symbol : Symbol) :
    ResolveM ClassParts := do
  if !isShown plan symbol then return parts
  else
    match symbol.kind with
    | some .property =>
        let node ← property plan below symbol
        return { parts with properties := parts.properties ++ node.toList }
    | some .method => return { parts with methods := parts.methods ++ [← method below symbol] }
    | some .getter =>
        return { parts with accessors := parts.accessors ++ [← accessor below symbol] }
    | some .setter =>
        return { parts with accessors := parts.accessors ++ [← accessor below symbol] }
    | _ => return parts

def classType (plan : Plan) (below : Below) (t : TypeId) (context : Context) : ResolveM Node := do
  let symbols ← Checker.classMembers t
  let parts ← symbols.foldlM (addMember plan below) {}
  let constructs ← Checker.constructs t
  let constructors ← constructs.mapM (signature below)
  return .classType (context.header .classType) parts.properties parts.methods
    (nonempty parts.accessors) (nonempty constructors)

/-! ## All types -/

def primitive (t : TypeId) (category : Category) (context : Context) : ResolveM Node := do
  let keyword ← Checker.primitive t
  let value ← if category = .literal then Checker.literalValue t else pure .null
  return .primitive { context.header keyword.kind with name := none } value

def expanded (plan : Plan) (below : Below) (t : TypeId) (category : Category)
    (context : Context) : ResolveM Node :=
  match category with
  | .object => objectOrCallable plan below t context
  | .union => union below t context
  | .intersection => intersection plan below t context
  | .array => array below t context
  | .tuple => tuple below t context
  | .function => callable plan below t context
  | .classType => classType plan below t context
  | .enum => enum t context
  | .generic => generic below t context
  | _ => return context.reference

end TypeGloss.Builder
