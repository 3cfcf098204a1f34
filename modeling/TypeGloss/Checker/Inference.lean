/-
# TypeGloss.Checker.Inference — types of declarations and expressions

The type of a variable, a parameter or a property is the one that is written with
it; without one it is the type of its initializer, and without that it is any. A
variable whose type is being found already is any, so a circular initializer ends.

The type of an expression follows its form. A literal has its own literal type only
where that is asked for, as for constants, and otherwise the primitive type that
the literal belongs to; in a frozen expression that holds of everything inside it,
objects are readonly and arrays are tuples.
-/
import TypeGloss.Checker.Member

namespace TypeGloss.Inference

set_option autoImplicit false

/-! ## Declarations -/

/-- The type of a declared value: the one written, or that of its initializer. -/
def declaredValue (ask : Ask) (node : Cursor) (place : Place) (literal : Bool) :
    CheckM TypeId :=
  match node.fieldOr? "type" Grammar.annotations, node.field? "value" with
  | some annotation, _ => ask.typeAt annotation place
  | none, some value => ask.ofExpression value place literal false
  | none, none => Check.any

/-- The type of a parameter. A rest parameter without a type is an array. -/
def parameter (ask : Ask) (node : Cursor) (place : Place) : CheckM TypeId := do
  if node.kind == "identifier" then Check.any
  else
    let declared ← declaredValue ask node place false
    let isRest := (node.field? "pattern").elim false (·.kind == "rest_pattern")
    if isRest && (node.fieldOr? "type" Grammar.annotations).isNone then
      Check.arrayOf (← Check.any) false
    else return declared

def variableType (ask : Ask) (declarator : Cursor) (place : Place) : CheckM TypeId :=
  let visit := (place.source.path, declarator.mark.start)
  let isConstant := declarator.parent?.elim false (Cursor.hasToken ["const"])
  Check.guarded .values visit Check.any (declaredValue ask declarator place.orTop isConstant)

def binding (ask : Ask) (found : Lookup.Found) : CheckM TypeId := do
  let first ← Check.needFirst found.bindings
  match first.kind with
  | .function => Signature.functionOfBindings found.source found.bindings
  | .classType => ask.declared found.source [first] []
  | .enum => ask.declared found.source [first] []
  | _ =>
      if first.node.kind == "variable_declarator" then
        variableType ask first.node (.top found.source)
      else ask.ofExpression first.node (.top found.source) false false

/-- The type of a value declared around the place where it is used. -/
def localValue (ask : Ask) (name : String) (declaration : Cursor) (place : Place) :
    CheckM TypeId :=
  let kind := declaration.kind
  if kind == "variable_declarator" then variableType ask declaration place
  else if Grammar.parameters.contains kind || kind == "identifier" then
    parameter ask declaration place
  else if Grammar.functionDeclarations.contains kind then
    Signature.functionAt .function (some name) declaration place
  else Check.any

/-! ## Names and members -/

def identifier (ask : Ask) (name : String) (at_ : Cursor) (place : Place) (literal : Bool) :
    CheckM TypeId := do
  if name = "undefined" then Check.primitive .undefined
  else if name = "NaN" || name = "Infinity" then Check.primitive .number
  else
    match Lookup.localDeclaration? at_ name with
    | some declaration =>
        Check.keepLiteral (← localValue ask name declaration place) literal
    | none =>
        match ← Lookup.lookup place.source name .values with
        | some found => Check.keepLiteral (← binding ask found) literal
        | none =>
            match ← Lookup.externalFile? place.source name with
            | some file => Check.namedType name (some file)
            | none => Check.any

def member (ask : Ask) (owner : TypeId) (name : String) : CheckM TypeId := do
  match ← ask.simplified owner with
  | none => Check.any
  | some t =>
      let category ← Check.category t
      if category = .enum then
        match ← Enum.memberType? ask t name with
        | some found => return found
        | none => Check.any
      else if (category = .array || category = .tuple) && name = "length" then
        Check.primitive .number
      else
        match (← ask.properties t).find? (·.name == some name) with
        | some property => ask.ofSymbol property
        | none => Check.any

/-- The type of a name with members behind dots. -/
def valuePath (ask : Ask) (node : Cursor) (place : Place) : CheckM TypeId := do
  match Text.pieces '.' node.text with
  | [] => Check.any
  | head :: rest =>
      let start ← identifier ask head node place true
      rest.foldlM (member ask) start

/-! ## Literals and operators -/

/-- The literal type of a number as it is written, or of its negative. -/
def numberType (text : String) (negative : Bool) : CheckM TypeId := do
  let (value, isBig) ← Check.ofResult (Literal.numberLiteral text)
  let signed := match negative, value with
    | true, .integer n => .integer (-n)
    | true, .number x => .number (-x)
    | _, v => v
  Check.literal signed (if isBig then .bigint else .number)

def unary (node : Cursor) (keep : Bool) : CheckM TypeId := do
  let operator := textOf (node.field? "operator")
  if ["!", "delete"].contains operator then Check.primitive .boolean
  else if operator = "typeof" then Check.primitive .string
  else if operator = "void" then Check.primitive .undefined
  else
    match (node.field? "argument").filter (·.kind == "number") with
    | some argument =>
        if ["-", "+"].contains operator then
          Check.keepLiteral (← numberType argument.text (operator = "-")) keep
        else Check.primitive .number
    | none => Check.primitive .number

/-- Operators that answer with a truth value. -/
def comparisons : List String :=
  ["<", ">", "<=", ">=", "==", "!=", "===", "!==", "instanceof", "in"]

/-- Operators on numbers. -/
def arithmetic : List String :=
  ["-", "*", "/", "%", "**", "<<", ">>", ">>>", "&", "|", "^"]

/-- Is a type one of those that stand for the absence of a value? -/
def isNullish (t : TypeId) : CheckM Bool := do
  return (← Check.facts t).primitive.elim false Primitive.isNullish

/-- The types among several that do not stand for the absence of a value. -/
def dropNullish (types : List TypeId) : CheckM (List TypeId) :=
  types.filterM fun t => do return !(← isNullish t)

/-- The type of an operator applied to two widened types. -/
def operatorType (ask : Ask) (operator : String) (left right : TypeId) : CheckM TypeId := do
  let leftPrimitive := (← Check.facts left).primitive
  let rightPrimitive := (← Check.facts right).primitive
  let both (p : Primitive) : Bool := leftPrimitive == some p && rightPrimitive == some p
  if comparisons.contains operator then Check.primitive .boolean
  else if operator = "+" then
    if leftPrimitive == some .string || rightPrimitive == some .string then
      Check.primitive .string
    else if both .bigint || both .number then return left
    else Check.any
  else if arithmetic.contains operator then
    if both .bigint then return left else Check.primitive .number
  else if operator = "&&" then return right
  else if operator = "||" || operator = "??" then
    let kept ← dropNullish (← ask.alternatives left)
    ask.unionOfTypes (kept ++ [right])
  else Check.any

def binary (ask : Ask) (node : Cursor) (place : Place) : CheckM TypeId := do
  let left ← Signature.widenedExpression ask place (← Check.need (node.field? "left"))
  let right ← Signature.widenedExpression ask place (← Check.need (node.field? "right"))
  operatorType ask (textOf (node.field? "operator")) left right

/-! ## Calls -/

def callable (ask : Ask) (t : TypeId) : CheckM (List CallSignature) := do
  match ← Check.category t with
  | .function => ask.calls t
  | .object => ask.calls t
  | _ => return []

/-- The type of a call: what the first signature returns. Freezing an object returns
it frozen. -/
def call (ask : Ask) (node : Cursor) (place : Place) : CheckM TypeId := do
  let function := node.field? "function"
  let args := ((node.field? "arguments").map Cursor.parts).getD []
  match textOf function == "Object.freeze", args with
  | true, argument :: _ => ask.ofExpression argument place true true
  | _, _ =>
      let callee ← ask.ofExpression (← Check.need function) place false false
      match ← callable ask callee with
      | signature :: _ => return signature.returnType
      | [] => Check.any

/-- The type of a library value that is constructed by name. -/
def constructedLibrary (name : String) (args : List TypeId) (place : Place) :
    CheckM TypeId := do
  if Library.arrayTypes.contains name then
    match args with
    | element :: _ => Check.arrayOf element false
    | [] => Check.arrayOf (← Check.any) false
  else
    match Entries.find? name Library.genericTypes with
    | some file => Reference.libraryType name file args
    | none =>
        match Entries.find? name Library.plainTypes with
        | some file => Check.namedType name (some file)
        | none =>
            match ← Lookup.externalFile? place.source name with
            | some file => Check.namedType name (some file)
            | none => Check.any

def construction (ask : Ask) (node : Cursor) (place : Place) : CheckM TypeId := do
  let argNodes := ((node.field? "type_arguments").map Cursor.parts).getD []
  let args ← argNodes.mapM fun arg => ask.typeAt arg place
  match (node.field? "constructor").filter (·.kind == "identifier") with
  | none => Check.any
  | some constructor =>
      let name := constructor.text
      match ← Lookup.lookup place.source name .values with
      | some ⟨source, first :: _⟩ =>
          if first.kind = .classType then ask.declared source [first] args
          else constructedLibrary name args place
      | _ => constructedLibrary name args place

/-! ## Objects and arrays -/

def object (node : Cursor) (place : Place) (frozen : Bool) : CheckM TypeId := do
  Check.complete place
  Check.intern (.ofNode node place none (.object frozen))
    { category := .object, node := some node, place := some place,
      symbol := some
        { name := some "__object",
          declaration := some ⟨.typeLiteral, none, place.source.path, some node⟩ },
      shape := .objectLiteral frozen }

def putProperty (place : Place) (frozen : Bool) (name : String) (node : Cursor) (type : TypeId)
    (members : Entries Symbol) : CheckM (Entries Symbol) := do
  let member ← Check.newMember place [node] (some type)
  return Entries.put name
    { name := some name,
      declaration := some ⟨.property, some name, place.source.path, some node⟩,
      isReadonly := frozen, kind := some .property, member := some member } members

/-- The properties of an object literal after one more part. -/
def addPart (ask : Ask) (place : Place) (frozen : Bool) (members : Entries Symbol)
    (part : Cursor) : CheckM (Entries Symbol) := do
  match part.kind with
  | "pair" =>
      let name ← Members.nameOf? (part.field? "key")
      let value ← Check.need (part.field? "value")
      let type ← ask.ofExpression value place frozen frozen
      match name with
      | some name => putProperty place frozen name part type members
      | none => return members
  | "shorthand_property_identifier" =>
      let type ← identifier ask part.text part place frozen
      putProperty place frozen part.text part type members
  | "method_definition" =>
      let name ← Members.nameOf? (part.field? "name")
      let type ← Signature.functionAt .method name part place
      match name with
      | some name => putProperty place frozen name part type members
      | none => return members
  | "spread_element" =>
      match part.parts with
      | [] => return members
      | inner :: _ =>
          let spread ← ask.ofExpression inner place false false
          let properties ← ask.properties spread
          return properties.foldl
            (fun found property => Entries.put (property.name.getD "") property found) members
  | _ => return members

/-- The properties of an object literal; a later one of the same name replaces an
earlier one where it stands. -/
def objectMembers (ask : Ask) (node : Cursor) (place : Place) (frozen : Bool) :
    CheckM (List Symbol) := do
  return (← node.named.foldlM (addPart ask place frozen) []).entries

def tuple (ask : Ask) (node : Cursor) (place : Place) : CheckM TypeId := do
  let elements := node.parts.filter (·.kind != "spread_element")
  let items ← elements.mapM fun element => do
    return { type := ← ask.ofExpression element place true true : TupleItem }
  Check.complete place
  Check.intern (.ofNode node place none .tuple)
    { category := .tuple, node := some node, place := some place, shape := .frozenTuple,
      cache := { elements := some items } }

/-- The type of what one part of an array literal contributes. -/
def arrayPart (ask : Ask) (place : Place) (part : Cursor) : CheckM TypeId := do
  if part.kind != "spread_element" then Signature.widenedExpression ask place part
  else
    match part.parts with
    | [] => Check.any
    | inner :: _ =>
        let spread ← ask.ofExpression inner place false false
        if (← Check.category spread) = .array then
          match ← ask.element? spread with
          | some element => return element
          | none => Check.any
        else Check.any

def array (ask : Ask) (node : Cursor) (place : Place) (frozen : Bool) : CheckM TypeId := do
  if frozen then tuple ask node place
  else
    let types ← node.parts.mapM (arrayPart ask place)
    let element ← if types.isEmpty then Check.any else ask.unionOfTypes types
    Check.arrayOf element false

/-! ## Expressions -/

def functionExpression (node : Cursor) (place : Place) : CheckM TypeId := do
  Check.complete place
  Check.intern (.ofNode node place none .plain)
    { category := .function, node := some node, place := some place,
      symbol := some
        { name := some "__function",
          declaration := some ⟨.function, none, place.source.path, some node⟩ },
      shape := .function [node] }

def classExpression (node : Cursor) (place : Place) : CheckM TypeId := do
  let name := textOf (node.field? "name")
  Check.complete place
  Check.intern (.ofNode node place none .plain)
    { category := .classType,
      label := some (if name.isEmpty then "(Anonymous class)" else name),
      name := if name.isEmpty then none else some name, node := some node,
      place := some place, shape := .classExpression }

/-- The type of a template: text, and known text if nothing is substituted. -/
def template (node : Cursor) (keep : Bool) : CheckM TypeId := do
  if !(node.ofKinds ["template_substitution"]).isEmpty then Check.primitive .string
  else
    let value ← Check.ofResult (Expression.value? {} (some node.focus))
    Check.keepLiteral (← Check.literal (value.getD .null) .string) keep

/-- The type that a type assertion gives. Asserting a constant freezes. -/
def assertion (ask : Ask) (node : Cursor) (place : Place) : CheckM TypeId := do
  let parts := node.parts
  let last ← Check.needLast parts
  if node.hasToken ["const"] || last.text == "const" then
    ask.ofExpression (← Check.needFirst parts) place true true
  else ask.typeAt last place

/-- The type of what a promise stands for, or the type itself. -/
def awaited (t : TypeId) : CheckM TypeId := do
  let r ← Check.facts t
  match r.category, r.name, r.args with
  | .generic, some "Promise", result :: _ => return result
  | .generic, some "PromiseLike", result :: _ => return result
  | _, _, _ => return t

def expression (ask : Ask) (node : Cursor) (place : Place) (literal frozen : Bool) :
    CheckM TypeId := do
  let keep := literal || frozen
  let kind := node.kind
  if Grammar.functionExpressions.contains kind then functionExpression node place
  else if Grammar.markup.contains kind then Check.namedType "JSX.Element" none
  else
    match kind with
    | "parenthesized_expression" =>
        match node.parts with
        | inner :: _ => ask.ofExpression inner place literal frozen
        | [] => Check.any
    | "non_null_expression" =>
        match node.parts with
        | inner :: _ => ask.ofExpression inner place literal frozen
        | [] => Check.any
    | "string" =>
        let value ← Check.ofResult (Literal.stringValue node.focus)
        Check.keepLiteral (← Check.literal (.text value) .string) keep
    | "template_string" => template node keep
    | "number" => Check.keepLiteral (← numberType node.text false) keep
    | "true" => Check.keepLiteral (← Check.literal (.flag true) .boolean) keep
    | "false" => Check.keepLiteral (← Check.literal (.flag false) .boolean) keep
    | "null" => Check.primitive .null
    | "undefined" => Check.primitive .undefined
    | "regex" => Check.namedType "RegExp" (some (Library.plainFile "RegExp"))
    | "unary_expression" => unary node keep
    | "binary_expression" => binary ask node place
    | "ternary_expression" =>
        ask.unionOf
          (fun branch => do
            ask.ofExpression (← Check.need (node.field? branch)) place literal frozen)
          ["consequence", "alternative"]
    | "as_expression" => assertion ask node place
    | "satisfies_expression" =>
        ask.ofExpression (← Check.needFirst node.parts) place literal frozen
    | "await_expression" =>
        awaited (← ask.ofExpression (← Check.needFirst node.parts) place false false)
    | "object" => object node place frozen
    | "array" => array ask node place frozen
    | "class" => classExpression node place
    | "identifier" => identifier ask node.text node place keep
    | "member_expression" =>
        let owner ← ask.ofExpression (← Check.need (node.field? "object")) place true false
        let found ← member ask owner (textOf (node.field? "property"))
        Check.keepLiteral found keep
    | "call_expression" => call ask node place
    | "new_expression" => construction ask node place
    | _ => Check.any

/-! ## Symbols and declarations -/

/-- The type of a member whose syntax is read at a place. -/
def memberAt (ask : Ask) (symbol : Symbol) (place : Place) (nodes : List Cursor) :
    CheckM TypeId :=
  match nodes with
  | [] => Check.any
  | node :: _ =>
      let kind := node.kind
      if Grammar.methods.contains kind then Signature.functionOf nodes place symbol
      else if Grammar.parameters.contains kind || kind == "identifier" then
        parameter ask node place
      else if Grammar.fields.contains kind || kind == "property_signature" then
        declaredValue ask node place symbol.isReadonly
      else if kind == "variable_declarator" then variableType ask node place
      else Check.any

/-- The type of a member, whose syntax is read where it was kept. -/
def memberType (ask : Ask) (symbol : Symbol) (member : Member) : CheckM TypeId := do
  memberAt ask symbol (← Check.upToDate member.place) member.nodes

/-- The type of a symbol, which the slot of a member keeps. -/
def symbolType (ask : Ask) (symbol : Symbol) : CheckM TypeId := do
  match symbol.member with
  | some member =>
      match ← Check.slotType member.slot with
      | some t => return t
      | none =>
          let t ← memberType ask symbol member
          Check.setSlot member.slot t
          return t
  | none =>
      match symbol.declaration with
      | some declaration =>
          if declaration.node.isSome then ask.ofDeclaration declaration else Check.any
      | none => Check.any

/-- The bindings of a name, if there is one, in a table. -/
def bindingsOf (name : Option String) (table : Entries (List Module.Binding)) :
    List Module.Binding :=
  (name.bind fun n => Entries.find? n table).getD []

/-- The binding that a declaration is, among the types and then the values of its
module. -/
def bindingOf? (declaration : Declaration) (node : Cursor) (scope : Module.Scope) :
    Option Module.Binding :=
  let isSame (binding : Module.Binding) : Bool :=
    binding.node.mark.start == node.mark.start && binding.node.kind == node.kind
  ((bindingsOf declaration.name scope.types).find? isSame).or
    ((bindingsOf declaration.name scope.values).find? isSame)

/-- The present version of the source of a declaration. -/
def presentSource (declaration : Declaration) : CheckM Source := do
  match Entries.find? (Path.normalize declaration.path) (← Check.program).sources with
  | some source => return source
  | none => throw (.unknownSource declaration.path)

/-- The syntax of a declaration, which one of the library does not have. -/
def syntaxOf (declaration : Declaration) : CheckM Cursor :=
  match declaration.node with
  | some node => pure node
  | none => throw (.withoutSyntax declaration.name)

/-- The type of a declaration in the present version of its source. -/
def declarationType (ask : Ask) (declaration : Declaration) : CheckM TypeId := do
  let source ← presentSource declaration
  let node ← syntaxOf declaration
  Check.checkSyntax node source
  match declaration.kind with
  | .function =>
      let scope ← Check.scopeOf source
      let bindings := (bindingsOf declaration.name scope.values).filter (·.kind = .function)
      if bindings.isEmpty then
        Signature.functionOf [node] (.top source)
          { name := declaration.name, declaration := some declaration }
      else Signature.functionOfBindings source bindings
  | .variableDecl =>
      if node.kind == "variable_declarator" then variableType ask node (.top source)
      else ask.ofExpression node (.top source) false false
  | .parameter => declaredValue ask node (.top source) false
  | .property => declaredValue ask node (.top source) false
  | kind =>
      if [DeclarationKind.typeAlias, .interface, .classType, .enum].contains kind then
        let scope ← Check.scopeOf source
        let bindings := (bindingsOf declaration.name scope.types).filter (·.kind = kind)
        if bindings.isEmpty then
          let binding ← Check.need (bindingOf? declaration node scope)
          ask.declared source [binding] []
        else ask.declared source bindings []
      else throw (.unsupportedKind kind.text)

end TypeGloss.Inference
