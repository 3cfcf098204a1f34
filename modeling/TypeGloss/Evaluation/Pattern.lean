/-
# TypeGloss.Evaluation.Pattern — defaults of destructured names

A parameter may take an object apart and give defaults to its properties.
`Pattern.defaults` is the object of those defaults, by property name; a nested
pattern contributes a nested object, and where a nested pattern has a default of
its own, that default's entries win over those inside the pattern.

`declarationDefault` is the default of a declaration: its initializer's value
merged with what its patterns declare, the initializer's entries winning.
-/
import TypeGloss.Evaluation.Expression

namespace TypeGloss

set_option autoImplicit false

/-- A default and the defaults inside the pattern it is taken apart by: entries of
the default win, and without a default the pattern's stand alone. -/
def mergeDefaults (inside : Entries Value) : Option Value → Option Value
  | some (.object entries) => some (.object (Entries.putAll inside entries))
  | some value => some value
  | none => if inside.isEmpty then none else some (.object inside)

/-- Write a default, if there is one. -/
def putDefault (key : String) (value : Option Value) (defaults : Entries Value) :
    Entries Value :=
  match value with
  | some value => Entries.put key value defaults
  | none => defaults

/-- The defaults declared in an object pattern, by property name. -/
def patternDefaults (context : Expression.Context) (pattern : Tree) : Result (Entries Value) :=
  if pattern.kind != "object_pattern" then .ok []
  else
    pattern.named.attach.foldlM
      (fun defaults ⟨child, _isChild⟩ =>
        if child.kind == "object_assignment_pattern" then
          match child.field? "left" with
          | some left =>
              if left.kind == "shorthand_property_identifier_pattern" then do
                return putDefault left.text (← Expression.value? context (child.field? "right"))
                  defaults
              else return defaults
          | none => return defaults
        else if child.kind == "pair_pattern" then do
          let key ← match child.field? "key" with
            | some key => Literal.propertyKey? key
            | none => pure none
          match key, _target : child.field? "value" with
          | some key, some target =>
              if target.kind == "assignment_pattern" then
                let value ← Expression.value? context (target.field? "right")
                let inside ← match _left : target.field? "left" with
                  | some left => patternDefaults context left
                  | none => pure []
                return putDefault key (mergeDefaults inside value) defaults
              else if target.kind == "object_pattern" then
                let inside ← patternDefaults context target
                return putDefault key (mergeDefaults inside none) defaults
              else return defaults
          | _, _ => return defaults
        else return defaults)
      []
termination_by sizeOf pattern
decreasing_by
  · have inChild := Tree.sizeOf_lt_of_mem_children (Tree.mem_children_of_mem_named _isChild)
    have inTarget := Tree.sizeOf_lt_of_mem_children (Tree.mem_children_of_field? _target)
    have inLeft := Tree.sizeOf_lt_of_mem_children (Tree.mem_children_of_field? _left)
    omega
  · have inChild := Tree.sizeOf_lt_of_mem_children (Tree.mem_children_of_mem_named _isChild)
    have inTarget := Tree.sizeOf_lt_of_mem_children (Tree.mem_children_of_field? _target)
    omega

def declarationDefault (context : Expression.Context) (initializer : Option Tree)
    (patterns : List Tree) : Result (Option Value) := do
  let value ← Expression.value? context initializer
  let inside ← patterns.foldlM
    (fun defaults pattern => do
      return Entries.putAll defaults (← patternDefaults context pattern))
    []
  return mergeDefaults inside value

end TypeGloss
