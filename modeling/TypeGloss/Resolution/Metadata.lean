/-
# TypeGloss.Resolution.Metadata — what is known about a symbol

What a filter is asked with, and what a documentation node says about its subject
besides its type: the name, where the symbol is declared, its comment, and whether it
comes from a package or the library. A name that starts with two underscores is no
name.
-/
import TypeGloss.Checker
import TypeGloss.Filter

namespace TypeGloss

set_option autoImplicit false

/-- The name of a symbol, unless it has none of its own. -/
def Symbol.ownName? (symbol : Symbol) : Option String :=
  symbol.name.filter fun name => !Text.startsWith "__" name

/-- Is a symbol private, by its visibility or by its name? -/
def Symbol.isPrivate (symbol : Symbol) : Bool :=
  symbol.visibility == some .toOwner ||
    symbol.ownName?.elim false fun name =>
      Text.startsWith "_" name || Text.startsWith "#" name

def Declaration.comment (declaration : Declaration) : Comment :=
  Comment.parse? (Checker.comment? declaration)

/-- What is known about a symbol. A symbol without a declaration is where the
enclosing declaration is. -/
def Metadata.ofSymbol (symbol : Symbol) (enclosing : Option Declaration) : CheckM Metadata := do
  let declaration := symbol.declaration.or enclosing
  let location := declaration.map Checker.declarationLocation
  let comment := (declaration.map Declaration.comment).getD (Comment.parse? none)
  let isInNodeModules := location.elim false fun l => Path.isInNodeModules l.path
  let isLibrary := declaration.elim false (·.kind = .library)
  let isExported ← match declaration with
    | some declaration => if isLibrary then pure false else Checker.isExported declaration
    | none => pure false
  return {
    name := symbol.ownName?, filePath := location.map Location.path,
    position := location.map Location.position, isOptional := symbol.isOptional,
    isReadonly := symbol.isReadonly, isInNodeModules, isExported,
    isExternal := isInNodeModules || isLibrary, isPrivate := symbol.isPrivate,
    description := comment.description, tags := comment.tags }

end TypeGloss
