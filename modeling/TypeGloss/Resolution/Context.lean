/-
# TypeGloss.Resolution.Context — the place where a type is met

A resolution walks through types with the state of the checker and a guard that holds
the types being expanded (`ResolveM`). Both survive a failure, so a guard is as it was
before an expansion whether the expansion ended or failed.

A `Context` is what is known about a type from where it was met: its text, where it
is, and what is known about its symbol. Every node takes its header from it.
-/
import TypeGloss.CycleGuard
import TypeGloss.Resolution.Metadata

namespace TypeGloss

set_option autoImplicit false

/-- The state of one resolution. -/
structure Resolution where
  checker : State
  guard : CycleGuard TypeId := {}

/-- A computation of one resolution. The state survives a failure. -/
abbrev ResolveM := ExceptT Fault (StateM Resolution)

def ResolveM.ofCheck {α : Type} (question : CheckM α) : ResolveM α :=
  ExceptT.mk fun resolution =>
    let (outcome, checker) := question.run.run resolution.checker
    (outcome, { resolution with checker })

instance : MonadLift CheckM ResolveM where
  monadLift := ResolveM.ofCheck

/-- What is done while a type counts as being expanded. The computation is told
whether the type was not being expanded before. -/
def ResolveM.expanding {α : Type} (t : TypeId) (body : Bool → ResolveM α) : ResolveM α :=
  ExceptT.mk fun resolution =>
    let (entered, guard) := resolution.guard.enter t
    let (outcome, after) := (body entered).run.run { resolution with guard }
    (outcome, { after with guard := after.guard.close t entered })

/-- How a documentation tree is made: the settings, and which symbols are expanded. -/
structure Plan where
  settings : TreeSettings
  accepts : Metadata → Bool

/-- What is known about a type from where it was met. -/
structure Context where
  text : String
  location : Location
  metadata : Option Metadata
  enclosing : Option Declaration := none

namespace Context

/-- Where a type is: where its symbol is declared, where it is written, where the
enclosing declaration is, or else in the library. -/
def locate (t : TypeId) (symbol : Option Symbol) (enclosing : Option Declaration) :
    CheckM Location := do
  match symbol.bind Symbol.declaration with
  | some declaration => return Checker.declarationLocation declaration
  | none =>
      match ← Checker.typeLocation? t, enclosing with
      | some location, _ => return location
      | none, some declaration => return Checker.declarationLocation declaration
      | none, none => Checker.libraryLocation t

def ofType (t : TypeId) (enclosing : Option Declaration) : CheckM Context := do
  let text ← Checker.text t
  let symbol ← Checker.symbol? t
  let metadata ← symbol.mapM fun symbol => Metadata.ofSymbol symbol enclosing
  return ⟨text, ← locate t symbol enclosing, metadata, enclosing⟩

/-- Tags that are worth noting. -/
def noted (tags : List Tag) : Option (List Tag) :=
  if tags.isEmpty then none else some tags

/-- The header of a node for a type met in this context. -/
def header (context : Context) (kind : Kind) : Header :=
  { kind, type := context.text, name := context.metadata.bind Metadata.name,
    filePath := some context.location.path, position := some context.location.position,
    description := context.metadata.bind Metadata.description,
    tags := context.metadata.bind fun metadata => noted metadata.tags }

/-- A type that is not expanded. -/
def reference (context : Context) : Node :=
  .reference (context.header .reference)

/-- A type of which nothing but the text is left, met in this context. -/
def referenceTo (context : Context) (text : String) : Node :=
  .reference
    { kind := .reference, type := text, filePath := some context.location.path,
      position := some context.location.position }

end Context

end TypeGloss
