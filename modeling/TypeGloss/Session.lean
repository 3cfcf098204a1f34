/-
# TypeGloss.Session — looking at types step by step

A session has numbered checkers and named registers. A step asks one checker one
question; what it finds, a declaration or a type, can be kept in a register and looked
at again later, also by another checker: a declaration goes with any checker, a type
only with the one that made it.

From a type, selectors lead on to other types. A register is written once the type it
is to hold has been found, even if the type cannot be described afterwards. A step that
fails leaves the session as it is up to the failure, and the next step goes on from
there.
-/
import TypeGloss.Session.Description

namespace TypeGloss

set_option autoImplicit false

/-! ## Steps -/

/-- A way from a type to another. Positions count from zero. -/
inductive Selector where
  | simplified
  | element
  | argument (index : Int)
  | union (index : Int)
  | intersection (index : Int)
  | tuple (index : Int)
  | indexKey (index : Int)
  | indexValue (index : Int)
  | property (name : String)
  | classMember (index : Int)
  | parameter (signature index : Int)
  | result (signature : Int)
  | constructorParameter (signature index : Int)
  deriving Repr, DecidableEq

/-- Where a type comes from. -/
inductive TypeOrigin where
  /-- What is declared under a name that is visible in a file. -/
  | visible (path name : String)
  /-- A declaration in a register. -/
  | declared (register : String)

/-- How a documentation tree is asked for: a filter, and settings if they are not the
session's. -/
structure TreeRequest where
  filter : Option Filter
  settings : Option (Result TreeSettings)

/-- What a step does. -/
inductive Action where
  | add (path : String) (root : Tree)
  | sources
  | source (path : String)
  | declaration (path name : String) (save : Option String)
  | libraryDeclaration (declaration : Declaration) (save : Option String)
  | typeOf (origin : TypeOrigin) (selectors : List Selector) (save : Option String)
  | follow (register : String) (selectors : List Selector) (save : Option String)
  | describe (register : String)
  | classify (register : String)
  | same (first second : String)
  | metadata (register : String)
  | symbolDeclaration (register : String) (save : Option String)
  | symbolType (register : String)
  | exported (register : String)
  | comment (register : String)
  | initializer (register : String)
  | constant (register name : String)
  | resolve (path name : String) (request : TreeRequest)
  | resolveType (register : String) (declaration : Option String) (request : TreeRequest)
  | resolveProperties (register : String) (declaration : Option String) (request : TreeRequest)

/-- One step: the number of the checker, and what is done with it. -/
structure SessionStep where
  checker : Nat := 0
  action : Action

/-- What a step answers. -/
inductive SessionAnswer where
  | added (path : String) (isInNodeModules : Bool)
  | paths (paths : List String)
  | declared (declaration : DeclarationView) (isExported : Bool) (comment : Option String)
  | nothing
  | description (description : Option Description)
  | category (category : Category)
  | flag (b : Bool)
  | metadata (metadata : Option Metadata)
  | declaration (declaration : DeclarationView)
  | text (text : Option String)
  | initializer (text : Option String) (patterns : List String) (value : Option Value)
  | tree (node : Option Node)
  | trees (nodes : List Node)

/-! ## The session -/

/-- What a register holds. A type may have come to nothing. -/
inductive Register where
  | declaration (declaration : Declaration)
  | type (handle : Option Checker.Handle) (symbol : Option Symbol)

/-- A session. -/
structure Session where
  settings : TreeSettings := {}
  checkers : List (Nat × State) := []
  registers : Entries Register := []
  written : List Checker.Handle := []

/-- A computation of a session. The session survives a failure. -/
abbrev SessionM := ExceptT Fault (StateM Session)

namespace Session

/-- The checker of a number; one that was not used before is empty. -/
def checkerOf (session : Session) (n : Nat) : State :=
  (session.checkers.lookup n).getD { identity := n }

/-- A session in which the checker of a number has the given state. -/
def putChecker (n : Nat) (state : State) (session : Session) : Session :=
  { session with checkers := (n, state) :: session.checkers.filter (·.1 ≠ n) }

/-- Let one checker answer, and write down the types it names. -/
def atDesk {α : Type} (n : Nat) (question : DeskM α) : SessionM α :=
  ExceptT.mk fun session =>
    let (outcome, desk) := question.run.run ⟨session.checkerOf n, session.written⟩
    (outcome, { session.putChecker n desk.checker with written := desk.written })

def ask {α : Type} (n : Nat) (question : CheckM α) : SessionM α :=
  atDesk n (DeskM.ofCheck question)

/-- Write a register, if one is named. -/
def save (name : Option String) (register : Register) : SessionM Unit :=
  match name with
  | none => pure ()
  | some name =>
      modify fun session =>
        { session with registers := Entries.put name register session.registers }

def declarationIn (name : String) : SessionM Declaration := do
  match Entries.find? name (← get).registers with
  | some (.declaration declaration) => return declaration
  | _ => throw .noSuchPart

/-- The type in a register, and the symbol that led to it. -/
def typeIn (name : String) : SessionM (Option Checker.Handle × Option Symbol) := do
  match Entries.find? name (← get).registers with
  | some (.type handle symbol) => return (handle, symbol)
  | _ => throw .noSuchPart

/-! ## From type to type -/

/-- An entry of a list that must be there. -/
def pick {α : Type} (items : List α) (index : Int) : CheckM α :=
  match index.toNat?.bind (items[·]?) with
  | some item => pure item
  | none => throw .noSuchPart

/-- A handle that must be there and belong to the checker. -/
def ownType (handle : Option Checker.Handle) : CheckM TypeId :=
  match handle with
  | some handle => Checker.own handle
  | none => throw .foreignHandle

/-- A type that was reached, and the symbol that led to it. -/
abbrev Reached := Option TypeId × Option Symbol

/-- A symbol and its type. -/
def reachSymbol (symbol : Symbol) : CheckM Reached := do
  return (some (← Checker.typeOfSymbol symbol), some symbol)

def reachType (t : TypeId) : Reached := (some t, none)

/-- One step along a selector. -/
def select (t : TypeId) : Selector → CheckM Reached
  | .simplified => do return (← Checker.simplified t, none)
  | .element => do return (← Checker.element? t, none)
  | .argument index => do return reachType (← pick (← Checker.arguments t) index)
  | .union index => do return reachType (← pick (← Checker.unionMembers t) index)
  | .intersection index => do return reachType (← pick (← Checker.intersectionMembers t) index)
  | .tuple index => do return reachType (← pick (← Checker.tupleItems t) index).type
  | .indexKey index => do return reachType (← pick (← Checker.indexes t) index).keyType
  | .indexValue index => do return reachType (← pick (← Checker.indexes t) index).valueType
  | .property name => do
      match (← Checker.properties t).find? (·.name == some name) with
      | some symbol => reachSymbol symbol
      | none => throw .noSuchPart
  | .classMember index => do reachSymbol (← pick (← Checker.classMembers t) index)
  | .parameter signature index => do
      reachSymbol (← pick (← pick (← Checker.calls t) signature).parameters index)
  | .result signature => do
      return reachType (← pick (← Checker.calls t) signature).returnType
  | .constructorParameter signature index => do
      reachSymbol (← pick (← pick (← Checker.constructs t) signature).parameters index)

/-- Follow selectors one after the other, up to a type that came to nothing. -/
def followAll : Reached → List Selector → CheckM Reached
  | reached, [] => return reached
  | (none, symbol), _ => return (none, symbol)
  | (some t, _), selector :: rest => do followAll (← select t selector) rest

/-- The type of a register after following selectors. A selector does not look into a
type of another checker, nor into one that came to nothing before. -/
def followFrom (handle : Option Checker.Handle) (symbol : Option Symbol) :
    List Selector → CheckM (Option Checker.Handle × Option Symbol)
  | [] => return (handle, symbol)
  | selectors => do
      let (t, symbol) ← followAll (some (← ownType handle), symbol) selectors
      let identity := (← Check.program).identity
      return (t.map fun t => ⟨identity, t⟩, symbol)

/-! ## Answers -/

/-- Everything about the type of a handle, if there is one. -/
def describeHandle (n : Nat) (handle : Option Checker.Handle) : SessionM SessionAnswer := do
  match handle with
  | none => return .description none
  | some handle =>
      let t ← ask n (Checker.own handle)
      return .description (some (← atDesk n (Describe.all t)))

/-- The symbol of a register: the one that led to the type, or else the type's own. -/
def symbolOf (n : Nat) (name : String) : SessionM (Option Symbol) := do
  let (handle, symbol) ← typeIn name
  match symbol with
  | some symbol => return some symbol
  | none => ask n do Checker.symbol? (← ownType handle)

def planFor (request : TreeRequest) : SessionM Plan := do
  let settings ← match request.settings with
    | some (.ok settings) => pure settings
    | some (.error fault) => throw fault
    | none => pure (← get).settings
  return Resolution.planOf settings request.filter

/-- The declaration of a step's origin. -/
def originDeclaration (n : Nat) : TypeOrigin → SessionM Declaration
  | .visible path name => ask n (Checker.declarationByName path name)
  | .declared register => declarationIn register

def keepAndDescribe (n : Nat) (handle : Option Checker.Handle) (symbol : Option Symbol)
    (selectors : List Selector) (name : Option String) : SessionM SessionAnswer := do
  let (handle, symbol) ← ask n (followFrom handle symbol selectors)
  save name (.type handle symbol)
  describeHandle n handle

def act (n : Nat) : Action → SessionM SessionAnswer
  | .add path root => do
      let (source, state) := Checker.addSource path root ((← get).checkerOf n)
      modify (putChecker n state)
      return .added source.path (Path.isInNodeModules source.path)
  | .sources => do return .paths (Checker.sources ((← get).checkerOf n))
  | .source path => do return .text (some (← ask n (Checker.source path)).path)
  | .declaration path name register => do
      let declaration ← ask n (Checker.declarationByName path name)
      save register (.declaration declaration)
      let isExported ← ask n (Checker.isExported declaration)
      return .declared (.of declaration) isExported (Checker.comment? declaration)
  | .libraryDeclaration declaration register => do
      save register (.declaration declaration)
      return .nothing
  | .typeOf origin selectors register => do
      let declaration ← originDeclaration n origin
      let t ← ask n (Checker.typeOfDeclaration declaration)
      keepAndDescribe n (some ⟨n, t⟩) none selectors register
  | .follow register selectors name => do
      let (handle, symbol) ← typeIn register
      keepAndDescribe n handle symbol selectors name
  | .describe register => do describeHandle n (← typeIn register).1
  | .classify register => do
      let (handle, _) ← typeIn register
      return .category (← ask n do Checker.category (← ownType handle))
  | .same first second => do
      let (a, _) ← typeIn first
      let (b, _) ← typeIn second
      return .flag (← ask n do return decide ((← ownType a) = (← ownType b)))
  | .metadata register => do
      match ← symbolOf n register with
      | none => return .metadata none
      | some symbol => return .metadata (some (← ask n (Metadata.ofSymbol symbol none)))
  | .symbolDeclaration register name => do
      match (← symbolOf n register).bind Symbol.declaration with
      | some declaration =>
          save name (.declaration declaration)
          return .declaration (.of declaration)
      | none => return .nothing
  | .symbolType register => do
      let (handle, _) ← typeIn register
      match ← ask n do Checker.symbol? (← ownType handle) with
      | none => return .nothing
      | some symbol =>
          let t ← ask n (Checker.typeOfSymbol symbol)
          describeHandle n (some ⟨n, t⟩)
  | .exported register => do
      return .flag (← ask n (Checker.isExported (← declarationIn register)))
  | .comment register => do return .text (Checker.comment? (← declarationIn register))
  | .initializer register => do
      let declaration ← declarationIn register
      let initializer := Checker.initializer? declaration
      let patterns := Checker.patterns declaration
      let value ← ask n (Checker.defaultOf declaration initializer patterns)
      return .initializer (initializer.map Cursor.text) (patterns.map Cursor.text) value
  | .constant register name => do
      let found ← ask n (Checker.constantAt? (← declarationIn register) name)
      return .text (found.map Cursor.text)
  | .resolve path name request => do
      let plan ← planFor request
      return .tree (← ask n (Resolution.resolveDeclaration plan path name))
  | .resolveType register declared request => do
      let (handle, _) ← typeIn register
      let declaration ← declared.mapM declarationIn
      let plan ← planFor request
      return .tree (← ask n do Resolution.resolveType plan (← ownType handle) declaration)
  | .resolveProperties register declared request => do
      let (handle, _) ← typeIn register
      let declaration ← declared.mapM declarationIn
      let plan ← planFor request
      return .trees (← ask n do
        Resolution.resolveProperties plan (← ownType handle) declaration)

/-- The answers of steps one after the other. -/
def run (session : Session) : List SessionStep → List (Result SessionAnswer)
  | [] => []
  | step :: rest =>
      let (answer, after) := (act step.checker step.action).run.run session
      answer :: run after rest

end Session

end TypeGloss
