/-
# TypeGloss.Checker.Signature — parameters and return types

A function type has one signature for every node it is declared by; where some of
the nodes have no body, those are the overloads and the others do not count.

A signature without a return type has one inferred from its body: the union of
what its own return statements return, wrapped in the library type that an
asynchronous or generating function returns. Return statements of functions and
classes inside the body are not its own. They are found with a stack of nodes that
are still to be looked at, the next one on top.
-/
import TypeGloss.Checker.Reference
import TypeGloss.Checker.Render

namespace TypeGloss.Signature

set_option autoImplicit false

/-! ## Functions -/

def overloads (nodes : List Cursor) : List Cursor :=
  let declared := nodes.filter fun node => (node.field? "body").isNone
  if declared.isEmpty then nodes else declared

def functionOf (nodes : List Cursor) (place : Place) (symbol : Symbol) : CheckM TypeId := do
  let first ← Check.needFirst nodes
  Check.complete place
  Check.intern (.function place.source.path first.mark.start (Env.key place.env))
    { category := .function, name := symbol.name, node := some first, place := some place,
      symbol := some symbol, shape := .function (overloads nodes) }

def functionOfBindings (source : Source) (bindings : List Module.Binding) : CheckM TypeId := do
  let binding ← Check.needFirst bindings
  functionOf ((bindings.filter (·.kind = .function)).map Module.Binding.node) (.top source)
    { name := some binding.name, declaration := some (.ofBinding source.path binding) }

def functionAt (kind : DeclarationKind) (name : Option String) (node : Cursor) (place : Place) :
    CheckM TypeId :=
  functionOf [node] place
    { name, declaration := some ⟨kind, name, place.source.path, some node⟩ }

/-! ## Parameters -/

/-- The name of a parameter with the given pattern; a destructured one has none. -/
def patternName? (pattern : Cursor) : Option String :=
  if pattern.kind == "identifier" then some pattern.text
  else if pattern.kind == "rest_pattern" then
    (pattern.lastPart?.filter (·.kind == "identifier")).map Cursor.text
  else none

/-- The symbol of a parameter; the receiver is no parameter. -/
def parameter? (node : Cursor) (place : Place) : CheckM (Option Symbol) := do
  match node.field? "pattern" with
  | none => return none
  | some pattern =>
      if pattern.kind == "this" then return none
      else
        let isRest := pattern.kind == "rest_pattern"
        let name := patternName? pattern
        return some
          { name, declaration := some ⟨.parameter, name, place.source.path, some node⟩,
            isOptional := node.kind == "optional_parameter" || (node.field? "value").isSome ||
              isRest,
            isReadonly := node.hasToken ["readonly"], isRest, kind := some .parameter,
            member := some (← Check.newMember place [node] none) }

def parameters (node : Cursor) (place : Place) : CheckM (List Symbol) := do
  match node.field? "parameters" with
  | some holder =>
      let found ← (holder.ofKinds Grammar.parameters).mapM fun param => parameter? param place
      return found.filterMap id
  | none =>
      match node.field? "parameter" with
      | none => return []
      | some single =>
          let name := some single.text
          return [
            { name, declaration := some ⟨.parameter, name, place.source.path, some single⟩,
              kind := some .parameter,
              member := some (← Check.newMember place [single] (some (← Check.any))) }]

/-! ## What stands in a body -/

/-- The wanted nodes that a stack of nodes leads to. The last node is taken off the stack, and if it
is entered, its named children are put on in its place, the last of them first. -/
def gather (wanted entered : Cursor → Bool) (stack : Array Cursor) : List Cursor :=
  match _top : stack.back? with
  | none => []
  | some node =>
      (if wanted node then [node] else []) ++
        gather wanted entered (stack.pop ++ if entered node then node.named.reverse else [])
termination_by Cursor.totalSize stack.toList
decreasing_by
  have smaller : Cursor.totalSize (if entered node then node.named.reverse else []) <
      sizeOf node.focus := by
    split
    · rw [Cursor.totalSize_reverse]
      exact node.totalSize_named_lt
    · exact Nat.lt_of_le_of_lt (Nat.zero_le _) node.totalSize_named_lt
  obtain ⟨rest, rfl⟩ := Array.back?_eq_some_iff.1 _top
  rw [Array.pop_push, Array.toList_appendList, Array.toList_push, Cursor.totalSize_append,
    Cursor.totalSize_append]
  exact Nat.add_lt_add_left smaller _

theorem gather_empty (wanted entered : Cursor → Bool) : gather wanted entered #[] = [] := by
  rw [gather]
  rfl

/-- One round: the node on top of the stack is listed if it is wanted, and its children take its
place if it is entered. -/
theorem gather_push (wanted entered : Cursor → Bool) (stack : Array Cursor) (node : Cursor) :
    gather wanted entered (stack.push node) =
      (if wanted node then [node] else []) ++
        gather wanted entered (stack ++ if entered node then node.named.reverse else []) := by
  rw [gather]
  split
  · next none => simp at none
  · next top some =>
      obtain rfl : node = top := by simpa using some
      rw [Array.pop_push]

def isReturn (node : Cursor) : Bool := node.kind == "return_statement"

/-- Are the returns and yields inside the node its own? -/
def opensScope (node : Cursor) : Bool := Grammar.scopeBoundaries.contains node.kind

/-- Are the return statements inside the node those of the body around it? -/
def sharesReturns (node : Cursor) : Bool := !isReturn node && !opensScope node

/-- The return statements of a body that are its own, in order. -/
def ownReturns (body : Cursor) : List Cursor :=
  gather isReturn sharesReturns body.named.reverse.toArray

/-- The yield expressions of a body that are its own, in order, those inside others
behind them. -/
def ownYields (body : Cursor) : List Cursor :=
  gather (·.kind == "yield_expression") (fun node => !opensScope node) body.named.reverse.toArray

/-! ## Return types -/

/-- What each own return statement of a body returns, if anything. -/
def returned (body : Cursor) : List (Option Cursor) :=
  (ownReturns body).map fun statement => statement.parts.head?

/-- The type of an expression, widened. -/
def widenedExpression (ask : Ask) (place : Place) (node : Cursor) : CheckM TypeId := do
  Check.widen (← ask.ofExpression node place false false)

def returnedType (ask : Ask) (place : Place) : Option Cursor → CheckM TypeId
  | none => Check.primitive .undefined
  | some node => widenedExpression ask place node

def yieldedType (ask : Ask) (place : Place) (node : Cursor) : CheckM TypeId :=
  if node.hasToken ["*"] then Check.any
  else
    match node.parts with
    | value :: _ => widenedExpression ask place value
    | [] => Check.primitive .undefined

def bodyType (ask : Ask) (place : Place) (body : Cursor) : CheckM TypeId :=
  if body.kind != "statement_block" then widenedExpression ask place body
  else
    let values := returned body
    if values.any Option.isSome then ask.unionOf (returnedType ask place) values
    else Check.primitive .void

def inferredReturn (ask : Ask) (place : Place) (body : Cursor) (modifier : Option Modifier) :
    CheckM TypeId := do
  let result ← bodyType ask place body
  let generating (name : String) : CheckM TypeId := do
    let yielded ← ask.unionOf (yieldedType ask place) (ownYields body)
    let sent ← Check.primitive .unknown
    Check.genericOf name (Library.genericFile name) [yielded, result, sent]
  match modifier with
  | none => return result
  | some .async => Check.genericOf "Promise" (Library.genericFile "Promise") [result]
  | some .generator => generating "Generator"
  | some .asyncGenerator => generating "AsyncGenerator"

/-! ## Signatures -/

/-- How a function runs. -/
def modifier? (node : Cursor) : Option Modifier :=
  let generates := node.hasToken ["*"] ||
    ["generator_function", "generator_function_declaration"].contains node.kind
  match node.hasToken ["async"], generates with
  | true, false => some .async
  | false, true => some .generator
  | true, true => some .asyncGenerator
  | false, false => none

/-- The return type that a signature declares or that its body has. -/
def returnType (ask : Ask) (node : Cursor) (place : Place) : CheckM TypeId :=
  match node.field? "return_type", node.field? "body" with
  | some annotation, _ => ask.typeAt annotation place
  | none, some body => inferredReturn ask place body (modifier? node)
  | none, none => Check.any

/-- The signature at a node. What it constructs is given for a constructor. -/
def ofNode (ask : Ask) (place : Place) (constructed : Option TypeId) (node : Cursor) :
    CheckM CallSignature := do
  let inside ← Reference.withTypeParameters ask node place
  let listed ← parameters node inside
  let result ← match constructed with
    | some t => pure t
    | none => returnType ask node inside
  let text ← Render.arrow ask listed result
  return {
    parameters := listed, returnType := result, text,
    declaration := some ⟨.function, none, place.source.path, some node⟩,
    modifier := modifier? node }

end TypeGloss.Signature
