/-
# TypeGloss.Checker.Reference — types by name

A name that is a type parameter in view stands for what that parameter stands for.
Any other name is looked up in the module; what is declared under it is applied to
the arguments that are written with it. A name that nothing declares may be one of
the library's, or comes from a file that is not at hand.

A type alias is read through: its type is the type of its right side, in which the
alias's parameters stand for the arguments. An alias that is being read through
already, with the same arguments, is left as a name, so a circular alias ends.
-/
import TypeGloss.Checker.Enum

namespace TypeGloss.Reference

set_option autoImplicit false

/-! ## Type parameters -/

/-- A type parameter: its name, its default and its syntax. -/
structure TypeParameter where
  name : String
  fallback : Option Cursor
  node : Cursor

def fallback? (parameter : Cursor) : Option Cursor :=
  (parameter.fieldOr? "value" ["default_type"]).bind fun value =>
    if value.kind == "default_type" then value.lastPart? else some value

def typeParameters (node : Cursor) : List TypeParameter :=
  match node.fieldOr? "type_parameters" ["type_parameters"] with
  | none => []
  | some holder =>
      (holder.ofKinds ["type_parameter"]).map fun parameter =>
        ⟨textOf (parameter.fieldOr? "name" ["type_identifier"]), fallback? parameter, parameter⟩

/-- What a type parameter stands for that has no argument: its default, or itself. -/
def unapplied (ask : Ask) (place : Place) (parameter : TypeParameter) : CheckM TypeId :=
  match parameter.fallback with
  | some node => ask.typeAt node place
  | none => Check.typeParameter parameter.name parameter.node place.source

/-- A place after type parameters have come into view there, one after the other. They
stand for the arguments, in order; behind these for their defaults, which are read where
the parameters before are in view; else for themselves. -/
def bindAll (ask : Ask) (place : Place) : List TypeParameter → List TypeId → CheckM Place
  | [], _ => return place
  | parameter :: rest, arg :: args => do
      bindAll ask (← Check.bindAt place parameter.name arg) rest args
  | parameter :: rest, [] => do
      let t ← unapplied ask place parameter
      bindAll ask (← Check.bindAt place parameter.name t) rest []

/-- A place inside a declaration, where its type parameters are in view. -/
def instantiate (ask : Ask) (source : Source) (parameters : List TypeParameter)
    (args : List TypeId) : CheckM Place := do
  if parameters.isEmpty then return .top source
  else
    bindAll ask (← Check.newPlace source []) parameters args

/-- A place inside a signature, where its own type parameters are in view. -/
def withTypeParameters (ask : Ask) (node : Cursor) (place : Place) : CheckM Place := do
  match typeParameters node with
  | [] => return place
  | parameters =>
      bindAll ask (← Check.newPlace place.source place.env) parameters []

/-- What the given parameters stand for at a place, in their order. -/
def argumentsAt (place : Place) (parameters : List TypeParameter) : List TypeId :=
  parameters.filterMap fun parameter => Entries.find? parameter.name place.env

/-! ## Declarations -/

def throughAlias (ask : Ask) (source : Source) (binding : Module.Binding) (args : List TypeId) :
    CheckM TypeId := do
  let parameters := typeParameters binding.node
  let place ← instantiate ask source parameters args
  let ref : AliasRef := ⟨binding, source.path, argumentsAt place parameters⟩
  match binding.node.field? "value" with
  | none => Check.namedType binding.name none
  | some value =>
      Check.guarded .aliases ref.key (Check.namedType binding.name none)
        (ask.typeThrough (some ref) value place)

/-- The category of a declared type, if the declaration makes a type of its own. -/
def declaredCategory? : DeclarationKind → Option Category
  | .interface => some .object
  | .classType => some .classType
  | .enum => some .enum
  | _ => none

/-- The type of declarations of one name, applied to arguments. The first one says
what kind of type it is, and all others of that kind are merged with it. -/
def declared (ask : Ask) (source : Source) (bindings : List Module.Binding)
    (args : List TypeId) : CheckM TypeId := do
  let binding ← Check.needFirst bindings
  Check.checkSyntax binding.node source
  if binding.kind = .typeAlias then throughAlias ask source binding args
  else
    match declaredCategory? binding.kind with
    | none => Check.namedType binding.name none
    | some category =>
        let parameters := typeParameters binding.node
        let place ← instantiate ask source parameters args
        let typeArgs := argumentsAt place parameters
        Check.intern (.declared source.path binding.node.mark.start typeArgs)
          { category, name := some binding.name, node := some binding.node,
            place := some place,
            bindings := bindings.filter (·.kind = binding.kind), args := typeArgs,
            symbol := some
              { name := some binding.name,
                declaration := some (.ofBinding source.path binding) },
            shape := .declared }

/-! ## Library types -/

def libraryType (name file : String) (args : List TypeId) : CheckM TypeId :=
  if args.isEmpty then Check.namedType name (some file) else Check.genericOf name file args

def utility (ask : Ask) (name : String) (args : List TypeId) (node : Cursor) (place : Place)
    (via : Option AliasRef) : CheckM TypeId := do
  let label ← ask.aliasText? via
  Check.intern (.utility name args (via.map AliasRef.key))
    { category := .computed, label,
      name := some ((via.map fun a => a.binding.name).getD name), node := some node,
      place := some place, via, args, symbol := some (.ofType via node place.source.path),
      shape := .utility name }

/-- Is a name one of the utility types? -/
def isUtility (name : String) : Bool :=
  Library.mappedUtilities.contains name || Library.filteringUtilities.contains name

/-- The type of a name that no module at hand declares. -/
def undeclared (ask : Ask) (name : String) (args : List TypeId) (node : Cursor) (place : Place)
    (via : Option AliasRef) : CheckM TypeId := do
  match Library.arrayTypes.contains name, args with
  | true, [element] => Check.arrayOf element (name == "ReadonlyArray")
  | _, _ =>
      if isUtility name && !args.isEmpty then utility ask name args node place via
      else
        match Entries.find? name Library.genericTypes with
        | some file => libraryType name file args
        | none =>
            match Entries.find? name Library.plainTypes with
            | some file => Check.namedType name (some file)
            | none =>
                let file ← Lookup.externalFile? place.source name
                if args.isEmpty then Check.namedType name file
                else Check.genericOf name (file.getD Library.defaultFile) args

/-! ## References -/

def simple (ask : Ask) (name : String) (argNodes : List Cursor) (node : Cursor) (place : Place)
    (via : Option AliasRef) : CheckM TypeId := do
  if argNodes.isEmpty && place.blanks.contains name then throw .missingPart
  else
    match argNodes.isEmpty, Entries.find? name place.env with
    | true, some t => return t
    | _, _ =>
        let args ← argNodes.mapM fun arg => ask.typeAt arg place
        match ← Lookup.lookup place.source name .types with
        | some found => ask.declared found.source found.bindings args
        | none => undeclared ask name args node place via

/-- A member of a module that is imported as a whole or by default. -/
def moduleMember? (ask : Ask) (source : Source) (head member : String) (args : List TypeId) :
    CheckM (Option TypeId) := do
  let scope ← Check.scopeOf source
  match Entries.find? head scope.imports with
  | none => return none
  | some imported =>
      if imported.imported = none || imported.imported = some "default" then
        match Lookup.module? (← Check.program) source.path imported.specifier with
        | none => return none
        | some target =>
            match ← Lookup.lookupExport target member .types with
            | some found => some <$> ask.declared found.source found.bindings args
            | none => return none
      else return none

def enumMember? (ask : Ask) (source : Source) (head member : String) :
    CheckM (Option TypeId) := do
  match ← Lookup.lookup source head .values with
  | some ⟨declaring, binding :: _⟩ =>
      if binding.kind = .enum then
        Enum.memberType? ask (← ask.declared declaring [binding] []) member
      else return none
  | _ => return none

def qualified (ask : Ask) (nameNode : Cursor) (argNodes : List Cursor) (node : Cursor)
    (place : Place) (via : Option AliasRef) : CheckM TypeId := do
  let text := nameNode.text
  let args ← argNodes.mapM fun arg => ask.typeAt arg place
  match Text.pieces '.' text with
  | [head, member] =>
      match ← moduleMember? ask place.source head member args with
      | some t => return t
      | none =>
          match ← enumMember? ask place.source head member with
          | some t => return t
          | none => undeclared ask text args node place via
  | _ => undeclared ask text args node place via

end TypeGloss.Reference
