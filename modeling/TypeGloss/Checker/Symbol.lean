/-
# TypeGloss.Checker.Symbol — declarations, symbols and signatures

The data that types are made of. A type is known by its identity (`TypeId`) in a
store; everything else here is plain data that refers to types by identity and to
syntax by cursor.

* A `Source` is one version of a file with the names of its module. A scope that
  cannot be read is kept as the fault it has, which arises when the scope is used.
* A `Declaration` is where something is declared; a library declaration has no
  syntax.
* A `Symbol` is a named part of a type: a property, a parameter, a class member,
  or the name of the type itself. The type of a member is found when it is first
  asked for and then kept in the member's *slot*, so symbols that are shared
  between types share it.
* A `Place` is where syntax is read: a source, and what the type parameters in view
  stand for. The parameters of a declaration come into view one after the other, and
  what is written in a default sees the later parameters once they are there. So a
  place also has a frame, which grows with them: a place that was kept is brought up to
  date from its frame before its syntax is read again. A variable of a pattern may have
  met an element that was still being found; then it is in view and stands for nothing.
-/
import TypeGloss.Category
import TypeGloss.Module.Scope
import TypeGloss.Primitive

namespace TypeGloss

set_option autoImplicit false

abbrev TypeId := Nat

/-- What the type parameters in view stand for. -/
abbrev Env := Entries TypeId

/-- What the variables of a pattern were found to stand for: nothing where the variable
met an element that was still being found. -/
abbrev Inferred := Entries (Option TypeId)

/-- What is in view when a match has found more, which comes first. -/
def Inferred.above : Inferred → Env → Env
  | [], env => env
  | (name, some t) :: rest, env => above rest (Entries.put name t env)
  | (name, none) :: rest, env => above rest (Entries.erase name env)

/-- The variables that stand for nothing. -/
def Inferred.blanks (inferred : Inferred) : List String :=
  Entries.names (inferred.filter (·.2.isNone))

abbrev FrameId := Nat

/-- One version of a file. -/
structure Source where
  path : String
  root : Tree
  scope : Result Module.Scope
  deriving Inhabited

/-- Where syntax is read. -/
structure Place where
  source : Source
  /-- What the type parameters in view stand for. -/
  env : Env
  frame : FrameId
  /-- The names in view that stand for nothing. -/
  blanks : List String := []
  deriving Inhabited

/-- The top of a source, where no type parameter is in view. -/
def Place.top (source : Source) : Place := { source, env := [], frame := 0 }

/-- The place itself, or the top of its source if nothing is in view there. -/
def Place.orTop (place : Place) : Place :=
  if place.env.isEmpty && place.blanks.isEmpty then .top place.source else place

/-- Where something is declared. -/
structure Declaration where
  kind : DeclarationKind
  name : Option String
  path : String
  node : Option Cursor
  deriving Inhabited

def Declaration.ofBinding (path : String) (binding : Module.Binding) : Declaration :=
  ⟨binding.kind, some binding.name, path, some binding.node⟩

/-- What kind of member a symbol is. -/
inductive MemberKind where
  | property
  | method
  | getter
  | setter
  | parameter
  deriving Repr, DecidableEq, Inhabited

def MemberKind.text : MemberKind → String
  | property => "property"
  | method => "method"
  | getter => "get"
  | setter => "set"
  | parameter => "parameter"

/-- How the type of a member is found: its syntax, where that is read, and the slot
that keeps the type. -/
structure Member where
  slot : Nat
  place : Place
  nodes : List Cursor
  deriving Inhabited

/-- A named part of a type, or the name of a type. -/
structure Symbol where
  /-- A destructured parameter has no name. -/
  name : Option String
  declaration : Option Declaration := none
  isOptional : Bool := false
  isReadonly : Bool := false
  isStatic : Bool := false
  isRest : Bool := false
  visibility : Option Visibility := none
  kind : Option MemberKind := none
  member : Option Member := none
  deriving Inhabited

/-- One way to call or to construct a type. -/
structure CallSignature where
  parameters : List Symbol
  returnType : TypeId
  text : String
  declaration : Option Declaration := none
  modifier : Option Modifier := none
  deriving Inhabited

/-- One element of a tuple. -/
structure TupleItem where
  type : TypeId
  name : Option String := none
  isOptional : Bool := false
  isRest : Bool := false
  deriving Inhabited

/-- One index signature of an object type. -/
structure IndexEntry where
  keyName : String
  keyType : TypeId
  valueType : TypeId
  text : String
  isReadonly : Bool := false
  deriving Inhabited

/-- A type alias with its arguments, through which a type was reached. -/
structure AliasRef where
  binding : Module.Binding
  path : String
  args : List TypeId
  deriving Inhabited

/-- What tells one use of an alias from another. -/
structure AliasKey where
  path : String
  start : Nat
  args : List TypeId
  deriving Repr, DecidableEq, Hashable

def AliasRef.key (via : AliasRef) : AliasKey :=
  ⟨via.path, via.binding.node.mark.start, via.args⟩

/-- The symbol of a type written at a node: its alias, or an anonymous one. -/
def Symbol.ofType (via : Option AliasRef) (node : Cursor) (path : String) : Symbol :=
  match via with
  | some via =>
      { name := some via.binding.name,
        declaration := some (.ofBinding via.path via.binding) }
  | none =>
      { name := some "__type", declaration := some ⟨.typeLiteral, none, path, some node⟩ }

def Symbol.ofLibrary (name file : String) : Symbol :=
  { name := some name, declaration := some ⟨.library, some name, file, none⟩ }

/-! ## Kinds of syntax -/

namespace Grammar

/-- Annotations that hold a type, with the modifiers of mapped types. -/
def annotations : List String :=
  ["type_annotation", "opting_type_annotation", "omitting_type_annotation",
    "adding_type_annotation"]

def parameters : List String := ["required_parameter", "optional_parameter"]

def tupleMembers : List String :=
  ["tuple_parameter", "optional_tuple_parameter"] ++ parameters

def functionExpressions : List String :=
  ["arrow_function", "function_expression", "function", "generator_function"]

def functionDeclarations : List String :=
  ["function_declaration", "generator_function_declaration"]

/-- Nodes whose returns and yields are their own. -/
def scopeBoundaries : List String :=
  functionExpressions ++ functionDeclarations ++
    ["method_definition", "class", "class_declaration", "abstract_class_declaration"]

/-- Nodes whose type is a function. -/
def methods : List String :=
  ["method_signature", "method_definition", "abstract_method_signature", "function_signature",
    "function_declaration", "generator_function_declaration"]

def fields : List String := ["public_field_definition", "field_definition"]

def markup : List String := ["jsx_element", "jsx_self_closing_element", "jsx_fragment"]

def variableStatements : List String := ["lexical_declaration", "variable_declaration"]

end Grammar

end TypeGloss
