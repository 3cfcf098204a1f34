/-
# TypeGloss.Resolution.Defaults — defaults of nested properties

The default of a parameter may be an object whose entries are the defaults of the
parameter's properties. `Node.pushDefaults` attaches every entry to the property of
that name, unless the property has a default of its own, and goes on with entries
that are objects themselves. Only objects and intersections have properties to attach
defaults to. Nothing but defaults is changed.
-/
import TypeGloss.Documentation.Node

namespace TypeGloss.Node

set_option autoImplicit false

def withDefault (value : Value) (node : Node) : Node :=
  node.mapHeader fun header => { header with default := some value }

/-- The entry of a table of defaults that a property without a default takes. -/
def taken? (defaults : Entries Value) (property : Node) : Option Value :=
  if property.hasDefault then none
  else property.header.name.bind fun name => Entries.find? name defaults

mutual

/-- Attach the entries of an object default to the properties of a node. -/
def pushDefaults (defaults : Entries Value) : Node → Node
  | .object header properties indexes =>
      .object header (pushAllDefaults defaults properties) indexes
  | .intersection header properties =>
      .intersection header (pushAllDefaults defaults properties)
  | node => node

/-- Attach the entries of an object default to properties. -/
def pushAllDefaults (defaults : Entries Value) : List Node → List Node
  | [] => []
  | property :: rest =>
      let documented :=
        match taken? defaults property with
        | some (.object entries) =>
            withDefault (.object entries) (pushDefaults entries property)
        | some value => withDefault value property
        | none => property
      documented :: pushAllDefaults defaults rest

end

/-- A node with a default, of which the entries are its properties' defaults. -/
def assignDefault (value : Value) (node : Node) : Node :=
  match value with
  | .object entries => pushDefaults entries (withDefault value node)
  | _ => withDefault value node

end TypeGloss.Node
