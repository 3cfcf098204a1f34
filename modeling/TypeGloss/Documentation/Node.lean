/-
# TypeGloss.Documentation.Node — the documentation tree

A node documents one type. All nodes share a `Header`: the kind, the text of the
type, and what is known from the place where the type was met — a name, a
location, a description, and the attributes of a property, a parameter or a class
member. What else a node has depends on its class.

Signatures, index signatures, methods and accessors are parts of nodes and no
nodes themselves.

A default is `some` when it was assigned, so that a null default and no default
differ.
-/
import TypeGloss.Comment
import TypeGloss.Value

namespace TypeGloss

set_option autoImplicit false

/-! ## Attributes -/

/-- Kinds of nodes and of their parts. -/
inductive Kind where
  | string
  | number
  | boolean
  | bigInt
  | symbol
  | null
  | undefined
  | void
  | any
  | unknown
  | never
  | objectKeyword
  | object
  | array
  | tuple
  | union
  | intersection
  | function
  | component
  | classType
  | enum
  | generic
  | reference
  | functionSignature
  | componentSignature
  | classMethod
  | classAccessor
  | indexSignature
  deriving Repr, DecidableEq, Inhabited

namespace Kind

def text : Kind → String
  | string => "String"
  | number => "Number"
  | boolean => "Boolean"
  | bigInt => "BigInt"
  | symbol => "Symbol"
  | null => "Null"
  | undefined => "Undefined"
  | void => "Void"
  | any => "Any"
  | unknown => "Unknown"
  | never => "Never"
  | objectKeyword => "ObjectKeyword"
  | object => "Object"
  | array => "Array"
  | tuple => "Tuple"
  | union => "Union"
  | intersection => "Intersection"
  | function => "Function"
  | component => "Component"
  | classType => "Class"
  | enum => "Enum"
  | generic => "Generic"
  | reference => "Reference"
  | functionSignature => "FunctionSignature"
  | componentSignature => "ComponentSignature"
  | classMethod => "ClassMethod"
  | classAccessor => "ClassAccessor"
  | indexSignature => "IndexSignature"

def all : List Kind :=
  [string, number, boolean, bigInt, symbol, null, undefined, void, any, unknown, never,
    objectKeyword, object, array, tuple, union, intersection, function, component, classType,
    enum, generic, reference, functionSignature, componentSignature, classMethod, classAccessor,
    indexSignature]

def ofText? (word : String) : Option Kind :=
  all.find? (·.text == word)

end Kind

/-- Who may use a class member. -/
inductive Visibility where
  | toAll
  | toOwner
  | toHeirs
  deriving Repr, DecidableEq, Inhabited

namespace Visibility

def text : Visibility → String
  | toAll => "public"
  | toOwner => "private"
  | toHeirs => "protected"

def ofText? (word : String) : Option Visibility :=
  [toAll, toOwner, toHeirs].find? (·.text == word)

end Visibility

/-- How a function runs: later, step by step, or both. -/
inductive Modifier where
  | async
  | generator
  | asyncGenerator
  deriving Repr, DecidableEq, Inhabited

namespace Modifier

def text : Modifier → String
  | async => "async"
  | generator => "generator"
  | asyncGenerator => "async-generator"

def ofText? (word : String) : Option Modifier :=
  [async, generator, asyncGenerator].find? (·.text == word)

end Modifier

/-! ## Locations -/

/-- A line and a column, both from one. -/
structure LineColumn where
  line : Nat
  column : Nat
  deriving Repr, DecidableEq, Inhabited

/-- A stretch of a text. -/
structure Position where
  start : LineColumn
  stop : LineColumn
  deriving Repr, DecidableEq, Inhabited

/-- A stretch of a file. -/
structure Location where
  path : String
  position : Position
  deriving Repr, DecidableEq, Inhabited

/-! ## Nodes -/

/-- What all nodes share. -/
structure Header where
  kind : Kind
  type : String
  name : Option String := none
  filePath : Option String := none
  position : Option Position := none
  description : Option String := none
  tags : Option (List Tag) := none
  isOptional : Option Bool := none
  isReadonly : Option Bool := none
  isRest : Option Bool := none
  default : Option Value := none
  isStatic : Bool := false
  visibility : Option Visibility := none
  deriving Inhabited, Repr

/-- What methods and accessors share. -/
structure MemberHeader where
  kind : Kind
  name : String
  type : String
  isStatic : Bool := false
  visibility : Option Visibility := none
  filePath : Option String := none
  position : Option Position := none
  description : Option String := none
  tags : Option (List Tag) := none
  deriving Inhabited, Repr

mutual

/-- The documentation of a type. -/
inductive Node where
  /-- A keyword or a literal type; the value is null unless it is a literal. -/
  | primitive (header : Header) (value : Value)
  | object (header : Header) (properties : List Node) (indexes : Option (List IndexSignature))
  | array (header : Header) (element : Node)
  | tuple (header : Header) (elements : List Node)
  | union (header : Header) (members : List Node)
  | intersection (header : Header) (properties : List Node)
  | function (header : Header) (signatures : List Signature)
  | component (header : Header) (signatures : List ComponentSignature)
  | classType (header : Header) (properties : List Node) (methods : List Method)
      (accessors : Option (List Accessor)) (constructors : Option (List Signature))
  | enum (header : Header) (members : List (String × Value))
  | generic (header : Header) (typeName : String) (arguments : List Node)
  | reference (header : Header)

/-- A signature for every key of a type. -/
inductive IndexSignature where
  | mk (kind : Kind) (type : String) (parameter value : Node) (isReadonly : Option Bool)

/-- One way to call a function. -/
inductive Signature where
  | mk (kind : Kind) (type : String) (parameters : List Node) (returnType : String)
      (modifier : Option Modifier)

/-- One way to use a component: a function of one object. -/
inductive ComponentSignature where
  | mk (kind : Kind) (type : String) (parameter : Option Node) (returnType : String)
      (modifier : Option Modifier)

/-- A method of a class. -/
inductive Method where
  | mk (header : MemberHeader) (signatures : List Signature)

/-- A getter or a setter of a class. -/
inductive Accessor where
  | mk (header : MemberHeader) (accessor : String) (returnType : Option String)
      (parameter : Option Node)

end

instance : Inhabited Node := ⟨.reference default⟩

namespace Node

def header : Node → Header
  | primitive header _ => header
  | object header _ _ => header
  | array header _ => header
  | tuple header _ => header
  | union header _ => header
  | intersection header _ => header
  | function header _ => header
  | component header _ => header
  | classType header _ _ _ _ => header
  | enum header _ => header
  | generic header _ _ => header
  | reference header => header

def mapHeader (f : Header → Header) : Node → Node
  | primitive header value => primitive (f header) value
  | object header properties indexes => object (f header) properties indexes
  | array header element => array (f header) element
  | tuple header elements => tuple (f header) elements
  | union header members => union (f header) members
  | intersection header properties => intersection (f header) properties
  | function header signatures => function (f header) signatures
  | component header signatures => component (f header) signatures
  | classType header properties methods accessors constructors =>
      classType (f header) properties methods accessors constructors
  | enum header members => enum (f header) members
  | generic header typeName arguments => generic (f header) typeName arguments
  | reference header => reference (f header)

/-- Was a default assigned? -/
def hasDefault (node : Node) : Bool :=
  node.header.default.isSome

end Node

end TypeGloss
