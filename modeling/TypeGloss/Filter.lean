/-
# TypeGloss.Filter — which types are expanded

Before a named type or a property is expanded, a filter is asked with what is
known about its symbol. What the filter rejects is documented as a reference.
-/
import TypeGloss.Documentation.Node

namespace TypeGloss

set_option autoImplicit false

/-- What is known about a symbol. -/
structure Metadata where
  name : Option String := none
  filePath : Option String := none
  position : Option Position := none
  isOptional : Bool := false
  isReadonly : Bool := false
  /-- Declared below a package directory. -/
  isInNodeModules : Bool := false
  isExported : Bool := false
  /-- Declared in a package or in a library file. -/
  isExternal : Bool := false
  isPrivate : Bool := false
  description : Option String := none
  tags : List Tag := []
  deriving Repr, DecidableEq, Inhabited

/-- The filters that can be named. -/
inductive Filter where
  /-- Expand what the project declares, not what packages declare. -/
  | project
  /-- Expand everything. -/
  | everything
  /-- Expand what is neither external nor exported. -/
  | localOnly
  /-- Expand the given names, and leave the rest to another filter. `none` among them
  is what has no name. -/
  | allowing (names : List (Option String)) (base : Filter)
  deriving Repr, Inhabited

/-- Does the filter let the symbol be expanded? -/
def Filter.accepts : Filter → Metadata → Bool
  | project, metadata => !metadata.isInNodeModules
  | everything, _ => true
  | localOnly, metadata => !metadata.isExternal && !metadata.isExported
  | allowing names base, metadata =>
      names.contains metadata.name || base.accepts metadata

end TypeGloss
