/-
# TypeGloss.Checker.Answer — the questions answered

Here the rules are tied together. `loader?` says how each part of each shape of type
is found; `load` finds a part once and keeps it, and has nothing to say about a part
that is being found already. `step` answers every query by its rule, given answers to
the queries that the rule asks, and `answer` does so for a limited number of nested
queries.

A part that could not be found because of a fault is not kept, so the same fault
arises again when it is asked for again.
-/
import TypeGloss.Checker.Conditional

namespace TypeGloss.Answer

set_option autoImplicit false

/-! ## Parts -/

/-- How a part of a type is found. -/
abbrev Loader (part : Part) := Option (CheckM part.Content)

/-- The syntax of a type, and where it is read by now. -/
def syntaxOf (r : TypeFacts) : CheckM (Cursor × Place) := do
  let node ← Check.need r.node
  let place ← Check.need r.place
  return (node, ← Check.upToDate place)

/-- The parts of a type that is known by its syntax. -/
def written? (ask : Ask) (t : TypeId) (r : TypeFacts) : (part : Part) → Loader part
  | .text => some do
      let (node, place) ← syntaxOf r
      Render.render ask node place
  | .elements =>
      if r.category ≠ .tuple then none
      else some do
        let (node, place) ← syntaxOf r
        node.parts.mapM (TypeSyntax.tupleItem ask place)
  | .members =>
      if r.category ≠ .union && r.category ≠ .intersection then none
      else some do
        let (node, place) ← syntaxOf r
        (TypeSyntax.operands node.kind node).mapM fun operand => ask.typeAt operand place
  | .properties =>
      if r.category ≠ .object then none
      else some do
        let (node, place) ← syntaxOf r
        Members.ofBody place node
  | .indexes =>
      if r.category ≠ .object then none
      else some do
        let (node, place) ← syntaxOf r
        Members.indexesOfBody ask place node
  | .calls =>
      if r.category = .function then some do
        let (node, place) ← syntaxOf r
        return [← Signature.ofNode ask place none node]
      else if r.category = .object then some do
        let (node, place) ← syntaxOf r
        Members.callsOfBody ask place node
      else none
  | .simplified =>
      if r.category ≠ .computed then none
      else some do
        let (node, place) ← syntaxOf r
        match node.kind with
        | "object_type" => Computed.mapped ask t node place
        | "index_type_query" => Computed.keys ask t node place
        | "lookup_type" => Computed.access ask t node place
        | _ => Conditional.conditional ask t node place
  | _ => none

def declared? (ask : Ask) (t : TypeId) (r : TypeFacts) : (part : Part) → Loader part
  | .text => some (ask.applied (r.name.getD "") r.args)
  | .properties =>
      if r.category ≠ .object then none
      else some do
        let (_, place) ← syntaxOf r
        Members.ofInterface ask place r.bindings
  | .indexes =>
      if r.category ≠ .object then none
      else some do
        let (_, place) ← syntaxOf r
        Members.indexesOfInterface ask place r.bindings
  | .calls =>
      if r.category ≠ .object then none
      else some do
        let (_, place) ← syntaxOf r
        Members.callsOfInterface ask place r.bindings
  | .classMembers =>
      if r.category ≠ .classType then none
      else some do
        let (node, place) ← syntaxOf r
        Members.ofClass ask place node
  | .constructs =>
      if r.category ≠ .classType then none
      else some do
        let (node, place) ← syntaxOf r
        Members.constructsOf ask place node t
  | .enumMembers =>
      if r.category ≠ .enum then none
      else some do
        let (node, place) ← syntaxOf r
        Enum.members place.source node
  | _ => none

/-- The text of a list of types with a separator between two. -/
def joined (ask : Ask) (separator : String) (types : List TypeId) : CheckM String := do
  return Text.joinWith separator (← types.mapM ask.text)

/-- How a part of a type is found; nothing if the type has no such part. -/
def loader? (ask : Ask) (t : TypeId) (r : TypeRecord) (part : Part) : Loader part :=
  match r.shape, part with
  | .array, .text => some do
      return "Array<" ++ (← ask.text (← Check.need r.cache.element)) ++ ">"
  | .generic, .text => some (ask.applied (r.name.getD "") r.args)
  | .union, .text => some (joined ask " | " (r.cache.members.getD []))
  | .written, part => written? ask t r.toTypeFacts part
  | .writtenArray, .element => some do
      let (node, place) ← syntaxOf r.toTypeFacts
      ask.typeAt (← Check.needFirst node.parts) place
  | .utility name, .text => some (ask.applied name r.args)
  | .utility name, .simplified => some (Computed.utility ask t name r.args)
  | .declared, part => declared? ask t r.toTypeFacts part
  | .function _, .text => some (Render.function ask t)
  | .function nodes, .calls => some do
      let (_, place) ← syntaxOf r.toTypeFacts
      nodes.mapM (Signature.ofNode ask place none)
  | .classExpression, .classMembers => some do
      let (node, place) ← syntaxOf r.toTypeFacts
      Members.ofClass ask place node
  | .classExpression, .constructs => some do
      let (node, place) ← syntaxOf r.toTypeFacts
      Members.constructsOf ask place node t
  | .objectLiteral _, .text => some (Render.objectLiteral ask t)
  | .objectLiteral frozen, .properties => some do
      let (node, place) ← syntaxOf r.toTypeFacts
      Inference.objectMembers ask node place frozen
  | .frozenTuple, .text => some do
      let items := (r.cache.elements.getD []).map TupleItem.type
      return "readonly [" ++ (← joined ask ", " items) ++ "]"
  | _, _ => none

/-- A part of a type, found once and kept. -/
def load (ask : Ask) (t : TypeId) (part : Part) : CheckM (Option part.Content) := do
  let r ← Check.record t
  match r.cache.get? part with
  | some content => return some content
  | none =>
      match loader? ask t r part with
      | none => return none
      | some find =>
          if r.loading.contains part then return none
          else
            let content ← Check.bracket (.mark t part) (.unmark t part) find
            modify (.keepPart t part content)
            return some content

/-- The text of a type; empty while it is being found. -/
def text (ask : Ask) (t : TypeId) : CheckM String := do
  match (← Check.record t).label with
  | some label => return label
  | none =>
      match ← load ask t .text with
      | none => return ""
      | some found =>
          modify (.keepLabel t found)
          return found

/-! ## Queries -/

def step (ask : Ask) : (query : Query) → CheckM query.Answer
  | .typeAt node place via => TypeSyntax.ofNode ask node place via
  | .declared source bindings args => Reference.declared ask source bindings args
  | .ofDeclaration declaration => Inference.declarationType ask declaration
  | .ofSymbol symbol => Inference.symbolType ask symbol
  | .ofExpression node place literal frozen =>
      Inference.expression ask node place literal frozen
  | .text t => text ask t
  | .load t part => load ask t part
  | .simplified t => Structure.simplified ask t
  | .properties t => Structure.properties ask t
  | .indexes t => Structure.indexes ask t
  | .assignable source target => Assignability.assignable ask source target
  | .fits candidate pattern place inferred =>
      Conditional.fits ask candidate pattern place inferred

/-- The answer to a query in which fewer than the given number of queries are nested. -/
def answer : Nat → Ask
  | 0 => fun _ => throw .exhausted
  | depth + 1 => step (answer depth)

/-- The greatest number of nested queries. -/
def maxDepth : Nat := 1200

def ask : Ask := answer maxDepth

end TypeGloss.Answer
