/-
# TypeGloss.Checker — questions about sources and their types

The questions that a reader of types may ask. Types are given by their identity in
the checker's state; a question that does not apply to a type of some category has an
empty answer.

* `addSource` registers a version of a file. Types made before stay as they are, but
  none of them is found again: the same declaration asked again is a new type.
* `declarationByName` and `typeOfDeclaration` lead from names to types.
* The rest looks into types, symbols and declarations.
-/
import TypeGloss.Checker.Answer
import TypeGloss.Evaluation.Pattern

namespace TypeGloss.Checker

set_option autoImplicit false

/-- A type together with the identity of the checker that made it. -/
structure Handle where
  owner : Nat
  type : TypeId
  deriving Repr, DecidableEq, Inhabited

/-- The type of a handle, which must be one of this checker's. -/
def own (handle : Handle) : CheckM TypeId := do
  if handle.owner = (← Check.program).identity then return handle.type else throw .foreignHandle

/-! ## Sources -/

/-- Register a source, in the place of an earlier version if there is one. -/
def addSource (path : String) (root : Tree) (state : State) : Source × State :=
  let path := Path.normalize path
  let source : Source := ⟨path, root, Module.Scope.ofTree root⟩
  (source, { state with sources := Entries.put path source state.sources, interned := {} })

/-- The paths of all sources, in the order in which they were first registered. -/
def sources (state : State) : List String :=
  Entries.names state.sources

def source (path : String) : CheckM Source := do
  match Entries.find? (Path.normalize path) (← Check.program).sources with
  | some source => return source
  | none => throw (.unknownSource path)

/-! ## Types -/

def category (t : TypeId) : CheckM Category :=
  Check.category t

def text (t : TypeId) : CheckM String :=
  Answer.ask.text t

/-- A type with all computation done. -/
def simplified (t : TypeId) : CheckM (Option TypeId) :=
  Answer.ask.simplified t

def symbol? (t : TypeId) : CheckM (Option Symbol) := do
  return (← Check.facts t).symbol

def name? (t : TypeId) : CheckM (Option String) := do
  return (← Check.facts t).name

def arguments (t : TypeId) : CheckM (List TypeId) := do
  return (← Check.facts t).args

def literalValue (t : TypeId) : CheckM Value := do
  return (← Check.facts t).value

def primitive (t : TypeId) : CheckM Primitive := do
  return (← Check.facts t).primitive.getD .unknown

def partOf? (categories : List Category) (t : TypeId) (part : Part) :
    CheckM (Option part.Content) := do
  if categories.contains (← category t) then Answer.ask.load? t part else return none

def unionMembers (t : TypeId) : CheckM (List TypeId) := do
  return (← partOf? [.union] t .members).getD []

def intersectionMembers (t : TypeId) : CheckM (List TypeId) := do
  return (← partOf? [.intersection] t .members).getD []

def element? (t : TypeId) : CheckM (Option TypeId) :=
  partOf? [.array] t .element

def tupleItems (t : TypeId) : CheckM (List TupleItem) := do
  return (← partOf? [.tuple] t .elements).getD []

def enumMembers (t : TypeId) : CheckM (List (String × Value)) := do
  return (← partOf? [.enum] t .enumMembers).getD []

def classMembers (t : TypeId) : CheckM (List Symbol) := do
  return (← partOf? [.classType] t .classMembers).getD []

def properties (t : TypeId) : CheckM (List Symbol) :=
  Answer.ask.properties t

def indexes (t : TypeId) : CheckM (List IndexEntry) :=
  Answer.ask.indexes t

def calls (t : TypeId) : CheckM (List CallSignature) := do
  return (← partOf? [.function, .object] t .calls).getD []

def constructs (t : TypeId) : CheckM (List CallSignature) := do
  return (← partOf? [.classType] t .constructs).getD []

/-- Is a type an object that was written where it is used? -/
def isAnonymousObject (t : TypeId) : CheckM Bool := do
  let r ← Check.facts t
  return r.category = .object && r.via.isNone && r.bindings.isEmpty &&
    r.node.elim false fun node => ["object_type", "object"].contains node.kind

/-! ## Declarations -/

def typeOfSymbol (symbol : Symbol) : CheckM TypeId :=
  Answer.ask.ofSymbol symbol

def typeOfDeclaration (declaration : Declaration) : CheckM TypeId :=
  Answer.ask.ofDeclaration declaration

/-- What a module declares, imports or passes on under a name. -/
def visible? (source : Source) (name : String) (space : Lookup.Space) :
    CheckM (Option Lookup.Found) := do
  match ← Lookup.lookup source name space with
  | some found => return some found
  | none => Lookup.lookupExport source name space

/-- What a name means in a module, a type before a value. -/
def meaning? (source : Source) (name : String) : CheckM (Option Lookup.Found) := do
  match ← visible? source name .types with
  | some found => return some found
  | none => visible? source name .values

/-- The declaration of a name that is visible in a file. -/
def declarationByName (path name : String) : CheckM Declaration := do
  match Entries.find? (Path.normalize path) (← Check.program).sources with
  | none => throw (.undeclared path name)
  | some source =>
      match ← meaning? source name with
      | some ⟨source, binding :: _⟩ => return .ofBinding source.path binding
      | _ => throw (.undeclared path name)

def moduleKinds : List DeclarationKind :=
  [.typeAlias, .interface, .classType, .enum, .function, .variableDecl]

def isExported (declaration : Declaration) : CheckM Bool := do
  match moduleKinds.contains declaration.kind, declaration.node,
      Entries.find? declaration.path (← Check.program).sources with
  | true, some node, some source =>
      let scope ← Check.scopeOf source
      let marked := (Inference.bindingOf? declaration node scope).elim false (·.exported)
      return marked || declaration.name.elim false (Entries.entries scope.exports).contains
  | _, _, _ => return false

/-! ## Locations -/

/-- The stretch of text that a node spans, from one. -/
def positionOf (mark : Mark) : Position :=
  ⟨⟨mark.first.row + 1, mark.first.column + 1⟩, ⟨mark.last.row + 1, mark.last.column + 1⟩⟩

/-- The start of a file that is not at hand. -/
def unknownPosition : Position := ⟨⟨1, 1⟩, ⟨1, 1⟩⟩

def declarationLocation (declaration : Declaration) : Location :=
  ⟨declaration.path, (declaration.node.map fun node => positionOf node.mark).getD unknownPosition⟩

def typeLocation? (t : TypeId) : CheckM (Option Location) := do
  let r ← Check.facts t
  match r.node, r.place with
  | some node, some place => return some ⟨place.source.path, positionOf node.mark⟩
  | _, _ => return none

/-- The library file of a type. -/
def libraryLocation (t : TypeId) : CheckM Location := do
  return ⟨(← Check.facts t).libraryFile.getD Library.defaultFile, unknownPosition⟩

/-! ## Comments -/

/-- A place, or the outermost export around it. -/
def outermostExport (focus : Tree) : List Step → Cursor
  | [] => ⟨focus, []⟩
  | step :: rest =>
      if ["export_statement", "ambient_declaration"].contains step.parent.kind then
        outermostExport step.parent rest
      else ⟨focus, step :: rest⟩

/-- The statement that a declaration is documented by. -/
def documentedStatement (node : Cursor) : Cursor :=
  let start := if node.kind == "variable_declarator" then node.parent?.getD node else node
  outermostExport start.focus start.above

/-- The nearest documentation comment before a node; only comments may stand
between. -/
def leadingComment? (node : Cursor) : Option String :=
  ((node.before.takeWhile (·.kind == "comment")).find? fun t =>
    Text.startsWith "/**" t.text).map Tree.text

def comment? (declaration : Declaration) : Option String :=
  declaration.node.bind fun node => leadingComment? (documentedStatement node)

/-! ## Initializers -/

/-- Nodes that may have an initializer. -/
def initialized : List String :=
  ["variable_declarator", "pair"] ++ Grammar.parameters ++ Grammar.fields

def initializer? (declaration : Declaration) : Option Cursor :=
  declaration.node.bind fun node =>
    if initialized.contains node.kind then node.field? "value" else none

/-- The patterns in a function body that take a parameter apart. -/
def bodyPatterns (body : Cursor) (name : String) : List Cursor :=
  let declarators := (body.ofKinds Grammar.variableStatements).flatMap
    (Cursor.ofKinds ["variable_declarator"])
  declarators.filterMap fun declarator =>
    match declarator.field? "name", declarator.field? "value" with
    | some target, some value =>
        if target.kind == "object_pattern" && value.kind == "identifier" && value.text == name
        then some target else none
    | _, _ => none

/-- The object patterns that take a parameter apart: its own, or those of variables
at the top of the function body that are initialized with it. -/
def patterns (declaration : Declaration) : List Cursor :=
  match declaration.node.filter fun node => Grammar.parameters.contains node.kind with
  | none => []
  | some node =>
      match node.field? "pattern" with
      | none => []
      | some pattern =>
          if pattern.kind == "object_pattern" then [pattern]
          else if pattern.kind == "identifier" then
            let body := (node.parent?.bind Cursor.parent?).bind (Cursor.field? "body")
            match body.filter (·.kind == "statement_block") with
            | some body => bodyPatterns body pattern.text
            | none => []
          else []

/-- The initializer of a constant that is in view at a declaration of a program. -/
def constantIn? (program : Program) (declaration : Declaration) (name : String) :
    Result (Option Cursor) :=
  match declaration.node, Entries.find? declaration.path program.sources with
  | some node, some source => Lookup.constantInView? program source node name
  | _, _ => .ok none

/-- The initializer of a constant that is in view at a declaration. -/
def constantAt? (declaration : Declaration) (name : String) : CheckM (Option Cursor) := do
  Check.ofResult (constantIn? (← Check.program) declaration name)

/-- How the initializer of a declaration is evaluated: constants in view have their
values. -/
def evaluationAt (declaration : Declaration) : CheckM Expression.Context := do
  let program ← Check.program
  return {
    lookup := some fun name =>
      (constantIn? program declaration name).map (Option.map Cursor.focus) }

/-- The default that a declaration has from its initializer and from patterns. -/
def defaultOf (declaration : Declaration) (initializer : Option Cursor)
    (patterns : List Cursor) : CheckM (Option Value) := do
  Check.ofResult (declarationDefault (← evaluationAt declaration)
    (initializer.map Cursor.focus) (patterns.map Cursor.focus))

end TypeGloss.Checker
