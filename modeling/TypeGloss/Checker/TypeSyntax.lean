/-
# TypeGloss.Checker.TypeSyntax — types as they are written

The type at a node of type syntax. Structured types are known by where they are
written and by what the type parameters in view stand for, and their parts are
found later; a type that is reached through an alias bears the alias's name.

Computed types, which are mapped types, key queries, indexed accesses and
conditional types, are only noted here and simplified when they are needed.
-/
import TypeGloss.Checker.Inference

namespace TypeGloss.TypeSyntax

set_option autoImplicit false

/-! ## Structured types -/

/-- A type whose parts are found in its syntax. -/
def structured (ask : Ask) (category : Category) (symbol : Option Symbol) (node : Cursor)
    (place : Place) (via : Option AliasRef) : CheckM TypeId := do
  Check.complete place
  let label ← ask.aliasText? via
  let named := via.map fun _ => Symbol.ofType via node place.source.path
  Check.intern (.ofNode node place via .plain)
    { category, label, name := via.map fun a => a.binding.name, node := some node,
      place := some place, via, symbol := symbol.or named, shape := .written }

/-- The operands of a union or an intersection. Operands of the same kind, with or
without parentheses around them, contribute their own. -/
def operands (kind : String) (node : Cursor) : List Cursor :=
  node.parts.attach.flatMap fun ⟨child, _isPart⟩ =>
    let inner := child.unwrapParens
    if inner.kind == kind then operands kind inner else [child]
termination_by sizeOf node.focus
decreasing_by
  have bound := Cursor.sizeOf_unwrapParens_le child
  have part := Cursor.sizeOf_lt_of_mem_parts _isPart
  omega

/-- The member of an object type that makes it a mapped type. -/
def mappedSignature? (node : Cursor) : Option Cursor :=
  (node.ofKinds ["index_signature"]).find? fun member =>
    (member.first? ["mapped_type_clause"]).isSome

/-- An object type, or a mapped type. -/
def object (ask : Ask) (node : Cursor) (place : Place) (via : Option AliasRef) :
    CheckM TypeId :=
  if (mappedSignature? node).isSome then structured ask .computed none node place via
  else
    structured ask .object (some (.ofType via node place.source.path)) node place via

/-- An array type. Without an alias it is the array of its element type. -/
def array (ask : Ask) (node : Cursor) (place : Place) (via : Option AliasRef) :
    CheckM TypeId := do
  let element ← Check.needFirst node.parts
  match via with
  | none => Check.arrayOf (← ask.typeAt element place) false
  | some ref =>
      Check.complete place
      let label ← ask.aliasText ref
      Check.intern (.ofNode node place via .plain)
        { category := .array, label := some label, name := some ref.binding.name,
          node := some node, place := some place, via,
          symbol := some (.ofType via node place.source.path), shape := .writtenArray }

def tupleItem (ask : Ask) (place : Place) (node : Cursor) : CheckM TupleItem := do
  let kind := node.kind
  if Grammar.tupleMembers.contains kind then
    let nameNode := (node.field? "name").or
      ((node.field? "pattern").or (node.first? ["identifier", "rest_pattern"]))
    let isRest := nameNode.elim false (·.kind == "rest_pattern")
    let name := textOf (if isRest then nameNode.bind Cursor.lastPart? else nameNode)
    let type ← match node.fieldOr? "type" Grammar.annotations with
      | some annotation => ask.typeAt annotation place
      | none => Check.any
    return {
      type, name := if name.isEmpty then none else some name,
      isOptional := ["optional_tuple_parameter", "optional_parameter"].contains kind, isRest }
  else if kind == "optional_type" then
    return { type := ← ask.typeAt (← Check.need node.lastPart?) place, isOptional := true }
  else if kind == "rest_type" then
    return { type := ← ask.typeAt (← Check.need node.lastPart?) place, isRest := true }
  else return { type := ← ask.typeAt node place }

/-! ## Literals -/

def literal (node : Cursor) : CheckM TypeId := do
  match node.parts with
  | [] => Check.any
  | child :: _ =>
      match child.kind with
      | "string" => Check.literal (.text (← Check.ofResult (Literal.stringValue child.focus))) .string
      | "number" => Inference.numberType child.text false
      | "true" => Check.literal (.flag true) .boolean
      | "false" => Check.literal (.flag false) .boolean
      | "null" => Check.primitive .null
      | "undefined" => Check.primitive .undefined
      | "unary_expression" =>
          match (child.field? "argument").filter (·.kind == "number") with
          | some argument =>
              Inference.numberType argument.text (textOf (child.field? "operator") == "-")
          | none => Check.namedType node.text none
      | _ => Check.namedType node.text none

/-- A template as a type: known text, or some text that is written as the template. -/
def template (ask : Ask) (node : Cursor) (place : Place) : CheckM TypeId := do
  if (node.ofKinds ["template_type"]).isEmpty then
    Check.literal (.text (Text.onChars (fun cs => (cs.drop 1).dropLast) node.text)) .string
  else
    Check.complete place
    let label ← Render.render ask node place
    Check.intern (.ofNode node place none .plain)
      { category := .primitive, label := some label, name := some "string", node := some node,
        place := some (.top place.source), primitive := some .string }

def keyword (text : String) : CheckM TypeId :=
  match Primitive.ofText? text with
  | some p => Check.primitive p
  | none => Check.namedType text none

/-! ## All types -/

/-- A name with arguments. -/
def generic (ask : Ask) (node : Cursor) (place : Place) (via : Option AliasRef) :
    CheckM TypeId :=
  let nameNode := node.fieldOr? "name" ["type_identifier", "nested_type_identifier"]
  let argNodes :=
    ((node.fieldOr? "type_arguments" ["type_arguments"]).map Cursor.parts).getD []
  match nameNode.filter (·.kind == "nested_type_identifier") with
  | some name => Reference.qualified ask name argNodes node place via
  | none => Reference.simple ask (textOf nameNode) argNodes node place via

/-- The type at a node of type syntax, reached through an alias or not. -/
def ofNode (ask : Ask) (node : Cursor) (place : Place) (via : Option AliasRef) :
    CheckM TypeId := do
  let kind := node.kind
  if Grammar.annotations.contains kind ||
      ["parenthesized_type", "readonly_type"].contains kind then
    match node.lastPart? with
    | some inner => ask.typeThrough via inner place
    | none => Check.any
  else if ["type_predicate_annotation", "type_predicate"].contains kind then
    Check.primitive .boolean
  else if ["asserts_annotation", "asserts"].contains kind then Check.primitive .void
  else
    match kind with
    | "predefined_type" => keyword node.text
    | "literal_type" => literal node
    | "template_literal_type" => template ask node place
    | "this_type" => Check.namedType "this" none
    | "existential_type" => Check.any
    | "type_identifier" => Reference.simple ask node.text [] node place via
    | "nested_type_identifier" => Reference.qualified ask node [] node place via
    | "generic_type" => generic ask node place via
    | "object_type" => object ask node place via
    | "array_type" => array ask node place via
    | "tuple_type" => structured ask .tuple none node place via
    | "union_type" => structured ask .union none node place via
    | "intersection_type" => structured ask .intersection none node place via
    | "function_type" =>
        structured ask .function (some (.ofType via node place.source.path)) node place via
    | "type_query" =>
        match node.lastPart? with
        | some target => Inference.valuePath ask target place
        | none => Check.any
    | "index_type_query" => structured ask .computed none node place via
    | "lookup_type" => structured ask .computed none node place via
    | "conditional_type" => structured ask .computed none node place via
    | "infer_type" => Check.namedType node.text none
    | _ => Check.namedType (← Render.render ask node place) none

end TypeGloss.TypeSyntax
