/-
# TypeGloss.Filter.Fields — what a filter is asked with, from named fields

What is known about a symbol can be given by named fields, which are checked like
those of a documentation piece. The position and the tags are checked too, but no
filter looks at them.
-/
import TypeGloss.Documentation.Piece
import TypeGloss.Filter

namespace TypeGloss

set_option autoImplicit false

namespace Content

/-- The plain value of a field of a piece, null if there is none. -/
def valueOf (name : String) : Content → Value
  | piece _ _ fields =>
      match Entries.find? name fields with
      | some (plain v) => v
      | _ => .null
  | _ => .null

def textOf? (name : String) (content : Content) : Option String :=
  Lenient.text? (content.valueOf name)

/-- The truth value of a field of a piece, false if there is none. -/
def flagOf (name : String) (content : Content) : Bool :=
  (Lenient.flag? (content.valueOf name)).getD false

end Content

/-- What is known about a symbol, without its position and tags. -/
def Metadata.ofFields (entries : Entries Content) : Result Metadata := do
  let content ← Content.build .metadata entries
  return {
    name := content.textOf? "name"
    filePath := content.textOf? "file_path"
    isOptional := content.flagOf "is_optional"
    isReadonly := content.flagOf "is_readonly"
    isInNodeModules := content.flagOf "is_in_node_modules"
    isExported := content.flagOf "is_exported"
    isExternal := content.flagOf "is_external"
    isPrivate := content.flagOf "is_private"
    description := content.textOf? "description" }

/-- The answers of a filter about symbols that are given by named fields. -/
def Filter.answers (filter : Filter) (symbols : List (Entries Content)) : Result (List Bool) :=
  symbols.mapM fun entries => do return filter.accepts (← Metadata.ofFields entries)

end TypeGloss
