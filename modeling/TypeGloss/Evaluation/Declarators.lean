/-
# TypeGloss.Evaluation.Declarators — the variables of a text

Every variable that a text declares, wherever it stands, can be looked up by name;
of two declarations of one name the first in the order of the text counts.
`valueOf?` evaluates the initializer of one of them with the others in view, and
`firstPattern?` finds the first object pattern with the initializer it takes apart.
-/
import TypeGloss.Evaluation.Pattern

namespace TypeGloss.Declarators

set_option autoImplicit false

/-- The variables of a text: name and initializer. -/
def ofTree (root : Tree) : Entries (Option Tree) :=
  (root.preorder.filter (·.kind == "variable_declarator")).foldl
    (fun table t => Entries.putNew ((t.field? "name").elim "" Tree.text) (t.field? "value") table) []

def initializer? (table : Entries (Option Tree)) (name : String) : Option Tree :=
  (Entries.find? name table).join

/-- The value of a variable's initializer, where names may be looked up in the text
or not and may have given values. -/
def valueOf? (root : Tree) (name : String) (searched : Bool) (constants : Entries Value) :
    Result (Option Value) :=
  let table := ofTree root
  let lookup := if searched then some fun n => .ok (initializer? table n) else none
  Expression.value? { lookup, constants := Value.constants constants } (initializer? table name)

mutual

/-- The first object pattern in the order of the text, with the node above it. -/
def firstPatternBelow (above : Option Tree) : Tree → Option (Option Tree × Tree)
  | .node mark children =>
      if mark.kind == "object_pattern" then some (above, .node mark children)
      else firstPatternAmong (.node mark children) children

/-- `firstPatternBelow` among the children of a node. -/
def firstPatternAmong (parent : Tree) : List Tree → Option (Option Tree × Tree)
  | [] => none
  | t :: rest =>
      match firstPatternBelow (some parent) t with
      | some found => some found
      | none => firstPatternAmong parent rest

end

/-- The defaults of the first object pattern of a text, and the default it makes
together with the initializer beside it. -/
def firstPattern (root : Tree) : Result (Entries Value × Option Value) := do
  match firstPatternBelow none root with
  | some (above, pattern) =>
      let defaults ← patternDefaults {} pattern
      let merged ← declarationDefault {} (above.bind (Tree.field? "value")) [pattern]
      return (defaults, merged)
  | none => return ([], none)

end TypeGloss.Declarators
