/-
# TypeGloss.Session.Description — everything about a type

A session looks at types of several checkers and writes down what it finds. A type is
written as a number, its category and its text; types are numbered in the order in
which they are first written.

A `Description` holds all that the checker can tell about a type. Its parts are found
in the order of its fields, which is the order in which types get their numbers.
-/
import TypeGloss.Resolution

namespace TypeGloss

set_option autoImplicit false

/-! ## What is written -/

/-- A type as it is written. -/
structure ShortType where
  number : Nat
  category : Category
  text : String
  deriving Repr

/-- A declaration as it is written. -/
structure DeclarationView where
  kind : DeclarationKind
  name : Option String
  location : Location
  deriving Repr

/-- A symbol as it is written. -/
structure SymbolView where
  name : Option String
  isOptional : Bool
  isReadonly : Bool
  isStatic : Bool
  isRest : Bool
  visibility : Option Visibility
  kind : Option MemberKind
  declaration : Option DeclarationView
  deriving Repr

/-- A member and its type. -/
structure MemberView where
  symbol : SymbolView
  type : ShortType
  deriving Repr

/-- A signature as it is written. -/
structure SignatureView where
  text : String
  modifier : Option Modifier
  parameters : List MemberView
  returnType : ShortType
  declaration : Option DeclarationView
  deriving Repr

/-- An element of a tuple as it is written. -/
structure TupleView where
  type : ShortType
  name : Option String
  isOptional : Bool
  isRest : Bool
  deriving Repr

/-- An index signature as it is written. -/
structure IndexView where
  keyName : String
  keyType : ShortType
  valueType : ShortType
  text : String
  isReadonly : Bool
  deriving Repr

/-- Everything about a type. -/
structure Description where
  type : ShortType
  name : Option String
  symbol : Option SymbolView
  location : Option Location
  library : Location
  primitive : Primitive
  value : Value
  isAnonymous : Bool
  arguments : List ShortType
  union : List ShortType
  intersection : List ShortType
  element : Option ShortType
  tuple : List TupleView
  enum : List (String × Value)
  properties : List MemberView
  classMembers : List MemberView
  indexes : List IndexView
  calls : List SignatureView
  constructs : List SignatureView
  simplified : Option ShortType
  deriving Repr

def DeclarationView.of (declaration : Declaration) : DeclarationView :=
  ⟨declaration.kind, declaration.name, Checker.declarationLocation declaration⟩

def SymbolView.of (symbol : Symbol) : SymbolView :=
  { name := symbol.name, isOptional := symbol.isOptional, isReadonly := symbol.isReadonly,
    isStatic := symbol.isStatic, isRest := symbol.isRest, visibility := symbol.visibility,
    kind := symbol.kind, declaration := symbol.declaration.map DeclarationView.of }

/-! ## Writing -/

/-- A checker, and the types written so far in the order of their numbers. -/
structure Desk where
  checker : State
  written : List Checker.Handle := []

/-- A computation that writes types. -/
abbrev DeskM := ExceptT Fault (StateM Desk)

def DeskM.ofCheck {α : Type} (question : CheckM α) : DeskM α :=
  ExceptT.mk fun desk =>
    let (outcome, checker) := question.run.run desk.checker
    (outcome, { desk with checker })

instance : MonadLift CheckM DeskM where
  monadLift := DeskM.ofCheck

namespace Describe

/-- The number of a type, which is new if the type was not written before. -/
def number (t : TypeId) : DeskM Nat := do
  let desk ← getThe Desk
  let handle : Checker.Handle := ⟨desk.checker.identity, t⟩
  match desk.written.findIdx? (· = handle) with
  | some index => return index + 1
  | none =>
      set ({ desk with written := desk.written ++ [handle] } : Desk)
      return desk.written.length + 1

def short (t : TypeId) : DeskM ShortType := do
  let n ← number t
  let category ← Checker.category t
  return ⟨n, category, ← Checker.text t⟩

def shorts (types : List TypeId) : DeskM (List ShortType) :=
  types.mapM short

def member (symbol : Symbol) : DeskM MemberView := do
  let t ← Checker.typeOfSymbol symbol
  return ⟨SymbolView.of symbol, ← short t⟩

def signature (call : CallSignature) : DeskM SignatureView := do
  let parameters ← call.parameters.mapM member
  let returnType ← short call.returnType
  return ⟨call.text, call.modifier, parameters, returnType,
    call.declaration.map DeclarationView.of⟩

def tupleItem (item : TupleItem) : DeskM TupleView := do
  return ⟨← short item.type, item.name, item.isOptional, item.isRest⟩

def indexEntry (entry : IndexEntry) : DeskM IndexView := do
  let keyType ← short entry.keyType
  return ⟨entry.keyName, keyType, ← short entry.valueType, entry.text, entry.isReadonly⟩

/-- Write everything about a type. -/
def all (t : TypeId) : DeskM Description := do
  let type ← short t
  let name ← Checker.name? t
  let symbol ← Checker.symbol? t
  let location ← Checker.typeLocation? t
  let library ← Checker.libraryLocation t
  let primitive ← Checker.primitive t
  let value ← Checker.literalValue t
  let isAnonymous ← Checker.isAnonymousObject t
  let arguments ← shorts (← Checker.arguments t)
  let union ← shorts (← Checker.unionMembers t)
  let intersection ← shorts (← Checker.intersectionMembers t)
  let element ← (← Checker.element? t : Option TypeId).mapM short
  let tuple ← (← Checker.tupleItems t : List TupleItem).mapM tupleItem
  let enum ← Checker.enumMembers t
  let properties ← (← Checker.properties t : List Symbol).mapM member
  let classMembers ← (← Checker.classMembers t : List Symbol).mapM member
  let indexes ← (← Checker.indexes t : List IndexEntry).mapM indexEntry
  let calls ← (← Checker.calls t : List CallSignature).mapM signature
  let constructs ← (← Checker.constructs t : List CallSignature).mapM signature
  let simplified ← (← Checker.simplified t : Option TypeId).mapM short
  return {
    type, name, symbol := symbol.map SymbolView.of, location, library, primitive, value,
    isAnonymous, arguments, union, intersection, element, tuple, enum, properties,
    classMembers, indexes, calls, constructs, simplified }

end Describe

end TypeGloss
