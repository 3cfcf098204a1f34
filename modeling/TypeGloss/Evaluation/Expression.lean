/-
# TypeGloss.Evaluation.Expression — constant expressions

`evaluate` computes the value of an initializer without running it. Literals,
arrays, objects, templates, parentheses and type assertions around an expression,
`Object.freeze`, the operators, the members of an evaluated object and names of
constants are evaluated; anything else is unresolved, and so is an array or an
object with an unresolved part.

A name means the entry of `Context.constants` if there is one, else the
expression that `Context.lookup` finds. A name that is being evaluated already is
unresolved, so a constant defined by itself ends. The nesting of expressions,
names included, is limited to `maxDepth`; deeper ones are unresolved. That limit
is the recursion's measure.
-/
import TypeGloss.Evaluation.Operators
import TypeGloss.Tree.Literal

namespace TypeGloss.Expression

set_option autoImplicit false

open Evaluation

/-- What names mean: constants by name, and a look-up for the initializers of the
others, if there is any. -/
structure Context where
  lookup : Option (String → Result (Option Tree)) := none
  constants : Entries Value := []

/-- The greatest depth of nesting that is evaluated. -/
def maxDepth : Nat := 32

/-- How expressions below the current one are evaluated, given the names that are
being evaluated. -/
abbrev Below := List String → Tree → Evaluation Value

def absentOr (below : Tree → Evaluation Value) : Option Tree → Evaluation Value
  | some t => below t
  | none => unresolved

def name (context : Context) (resolving : List String) (below : Below) (name : String) :
    Evaluation Value := do
  if name = "undefined" then unresolved
  else if name = "NaN" then return .nan
  else if name = "Infinity" then return .number (1.0 / 0.0)
  else
    match Entries.find? name context.constants with
    | some value => return value
    | none =>
        match context.lookup with
        | none => unresolved
        | some find =>
            if resolving.contains name then unresolved
            else
              let found ← ofResult (find name)
              absentOr (below (name :: resolving)) found

/-! ## Templates, objects, arrays -/

def templatePart (below : Tree → Evaluation Value) (part : Tree) : Evaluation String := do
  if part.kind == "template_substitution" then
    let value ← absentOr below part.named.head?
    match ← ofResult value.spelling with
    | some text => return text
    | none => unresolved
  else ofResult (Literal.fragmentValue part)

def template (below : Tree → Evaluation Value) (t : Tree) : Evaluation Value := do
  match t.named with
  | [] => return .text (Text.onChars (fun cs => (cs.drop 1).dropLast) t.text)
  | parts => return .text (String.join (← parts.mapM (templatePart below)))

def entryKey (below : Tree → Evaluation Value) (key : Option Tree) : Evaluation String := do
  match key with
  | none => unresolved
  | some key =>
      if key.kind == "computed_property_name" then
        let value ← absentOr below key.named.head?
        ofOption (← ofResult value.spelling)
      else ofOption (← ofResult (Literal.propertyKey? key))

def objectPart (ofName : String → Evaluation Value) (below : Tree → Evaluation Value)
    (entries : Entries Value) (part : Tree) : Evaluation (Entries Value) := do
  if part.kind == "comment" then return entries
  else if part.kind == "pair" then
    let key ← entryKey below (part.field? "key")
    let value ← absentOr below (part.field? "value")
    return Entries.put key value entries
  else if part.kind == "shorthand_property_identifier" then
    return Entries.put part.text (← ofName part.text) entries
  else if part.kind == "spread_element" then
    match ← absentOr below part.named.head? with
    | .object more => return Entries.putAll entries more
    | _ => unresolved
  else unresolved

/-- The items that one part of an array literal stands for. -/
def arrayPart (below : Tree → Evaluation Value) (part : Tree) : Evaluation (List Value) := do
  if part.kind == "comment" then return []
  else if part.kind == "spread_element" then
    match ← absentOr below part.named.head? with
    | .text s => return s.toList.map fun c => .text (String.singleton c)
    | .list items => return items
    | _ => unresolved
  else return [← below part]

/-! ## Operators, conditions, members, calls -/

def binary (below : Tree → Evaluation Value) (t : Tree) : Evaluation Value := do
  let operator := (t.field? "operator").elim "" Tree.text
  let left ← absentOr below (t.field? "left")
  match Operators.shortCircuit? operator left with
  | some (some value) => return value
  | some none => absentOr below (t.field? "right")
  | none => Operators.binary operator left (← absentOr below (t.field? "right"))

/-- A condition with two branches, of which one is evaluated. -/
def ternary (below : Tree → Evaluation Value) (t : Tree) : Evaluation Value := do
  let condition ← absentOr below (t.field? "condition")
  absentOr below (t.field? (if condition.truthy then "consequence" else "alternative"))

/-- A member of an evaluated object, or the length of a list or text. -/
def member (below : Tree → Evaluation Value) (t : Tree) : Evaluation Value := do
  let target ← absentOr below (t.field? "object")
  let property := (t.field? "property").elim "" Tree.text
  match target with
  | .object entries => ofOption (Entries.find? property entries)
  | .list items => if property = "length" then return .integer items.length else unresolved
  | .text s => if property = "length" then return .integer s.length else unresolved
  | _ => unresolved

/-- A call: only freezing an object changes nothing about its value. -/
def call (below : Tree → Evaluation Value) (t : Tree) : Evaluation Value :=
  match t.field? "function", t.field? "arguments" with
  | some function, some arguments =>
      match function.text == "Object.freeze", arguments.parts with
      | true, [argument] => below argument
      | _, _ => unresolved
  | _, _ => unresolved

/-- Kinds of expressions that stand for the expression inside them. -/
def wrappers : List String :=
  ["parenthesized_expression", "as_expression", "satisfies_expression", "non_null_expression"]

/-- One expression, given how the expressions below it are evaluated. -/
def evaluateNode (context : Context) (resolving : List String) (below : Below) (t : Tree) :
    Evaluation Value :=
  let inner := below resolving
  let kind := t.kind
  if kind == "string" then do return .text (← ofResult (Literal.stringValue t))
  else if kind == "number" then ofResult (Literal.numberValue t.text)
  else if kind == "true" then pure (.flag true)
  else if kind == "false" then pure (.flag false)
  else if kind == "null" then pure .null
  else if wrappers.contains kind then absentOr inner t.named.head?
  else if kind == "identifier" then name context resolving below t.text
  else if kind == "template_string" then template inner t
  else if kind == "object" then do
    return .object (← t.named.foldlM (objectPart (name context resolving below) inner) [])
  else if kind == "array" then do
    return .list (← t.named.mapM (arrayPart inner)).flatten
  else if kind == "unary_expression" then do
    let value ← absentOr inner (t.field? "argument")
    Operators.unary ((t.field? "operator").elim "" Tree.text) value
  else if kind == "binary_expression" then binary inner t
  else if kind == "ternary_expression" then ternary inner t
  else if kind == "call_expression" then call inner t
  else if kind == "member_expression" then member inner t
  else unresolved

/-- The value of an expression in which expressions may be nested less than the
given depth. -/
def evaluate (context : Context) : Nat → List String → Tree → Evaluation Value
  | 0, _, _ => unresolved
  | depth + 1, resolving, t => evaluateNode context resolving (evaluate context depth) t

/-- The value of an initializer; `none` if there is none or it is unresolved. -/
def value? (context : Context) : Option Tree → Result (Option Value)
  | none => .ok none
  | some t => (evaluate context (maxDepth + 1) [] t).run

end TypeGloss.Expression
