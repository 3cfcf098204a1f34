/-
# TypeGloss.Checker.Member — members of objects, interfaces and classes

Every property, method and accessor of a body is a symbol. Method signatures of one
name are one symbol with several nodes, its overloads; in a class, static members
are apart from others and getters and setters apart from methods.

An interface has the members of all its declarations and then what its bases have,
unless it has a member of that name. A class has what its base class has, unless it
declares a member of the same name and kind itself; a constructor's parameters with
a modifier are properties.
-/
import TypeGloss.Checker.Signature

namespace TypeGloss.Members

set_option autoImplicit false

/-! ## Bodies -/

/-- A member as it is declared, before its type has a slot. -/
structure Draft where
  symbol : Symbol
  nodes : List Cursor

/-- What tells the members of a class apart. -/
abbrev MemberKey := Option String × Bool × Option MemberKind

def key (symbol : Symbol) : MemberKey :=
  (symbol.name, symbol.isStatic, symbol.kind)

/-- Drafts with one more node of a method or an accessor: another overload, or a new
member. -/
def addOverload (draft : Draft) : List Draft → List Draft
  | [] => [draft]
  | other :: rest =>
      if key other.symbol = key draft.symbol then
        { other with nodes := other.nodes ++ draft.nodes } :: rest
      else other :: addOverload draft rest

/-- The members of drafts, each with a slot for its type. -/
def realize (place : Place) (drafts : List Draft) : CheckM (List Symbol) :=
  drafts.mapM fun draft => do
    return { draft.symbol with member := some (← Check.newMember place draft.nodes none) }

def nameOf? (node : Option Cursor) : CheckM (Option String) :=
  node.mapM fun name => Check.ofResult (Literal.memberName name.focus)

def declarationAt (kind : DeclarationKind) (name path : String) (node : Cursor) :
    Option Declaration :=
  some ⟨kind, some name, path, some node⟩

/-- The drafts of an object type after one more part of its body. -/
def addObjectPart (path : String) (drafts : List Draft) (part : Cursor) : CheckM (List Draft) := do
  if ["property_signature", "method_signature"].contains part.kind then
    match ← nameOf? (part.field? "name") with
    | none => return drafts
    | some name =>
        let isOptional := part.hasToken ["?"]
        if part.kind == "property_signature" then
          return drafts ++ [⟨
            { name := some name, declaration := declarationAt .property name path part,
              isOptional, isReadonly := part.hasToken ["readonly"],
              kind := some .property }, [part]⟩]
        else
          return addOverload ⟨
            { name := some name, declaration := declarationAt .method name path part,
              isOptional, kind := some .method }, [part]⟩ drafts
  else return drafts

/-- The members of an object type or of one body of an interface. -/
def ofBody (place : Place) (body : Cursor) : CheckM (List Symbol) := do
  realize place (← body.named.foldlM (addObjectPart place.source.path) [])

/-- The index signatures of an object type or of one body of an interface. The clause
of a mapped type is none. -/
def indexesOfBody (ask : Ask) (place : Place) (body : Cursor) : CheckM (List IndexEntry) := do
  let found ← (body.ofKinds ["index_signature"]).mapM fun member => do
    match member.field? "name", member.field? "index_type" with
    | some nameNode, some keyNode =>
        let keyType ← ask.typeAt keyNode place
        let valueType ← match member.fieldOr? "type" Grammar.annotations with
          | some valueNode => ask.typeAt valueNode place
          | none => Check.any
        let text ← Render.render ask member place
        return some
          { keyName := nameNode.text, keyType, valueType, text := Render.dropSeparators text,
            isReadonly := member.hasToken ["readonly"] : IndexEntry }
    | _, _ => return none
  return found.filterMap id

/-- The call signatures of an object type or of one body of an interface. -/
def callsOfBody (ask : Ask) (place : Place) (body : Cursor) : CheckM (List CallSignature) :=
  (body.ofKinds ["call_signature"]).mapM (Signature.ofNode ask place none)

/-! ## Interfaces -/

def bodies (bindings : List Module.Binding) : List Cursor :=
  bindings.filterMap fun binding =>
    binding.node.fieldOr? "body" ["interface_body", "object_type"]

def bases (bindings : List Module.Binding) : List Cursor :=
  bindings.flatMap fun binding =>
    ((binding.node.first? ["extends_type_clause"]).map Cursor.parts).getD []

/-- Properties with those of a base whose names are not there. -/
def inherit (own base : List Symbol) : List Symbol :=
  base.foldl
    (fun found symbol =>
      if found.any (·.name == symbol.name) then found else found ++ [symbol])
    own

def ofInterface (ask : Ask) (place : Place) (bindings : List Module.Binding) :
    CheckM (List Symbol) := do
  let own ← (bodies bindings).mapM (ofBody place)
  (bases bindings).foldlM
    (fun found node => do
      let base ← ask.typeAt node place
      return inherit found (← ask.properties base))
    own.flatten

/-- Index signatures with those of a base for other keys. -/
def inheritIndexes (ask : Ask) : List IndexEntry × List String → List IndexEntry →
    CheckM (List IndexEntry × List String)
  | found, [] => return found
  | (entries, keys), entry :: rest => do
      let text ← ask.text entry.keyType
      if keys.contains text then inheritIndexes ask (entries, keys) rest
      else inheritIndexes ask (entries ++ [entry], keys ++ [text]) rest

def indexesOfInterface (ask : Ask) (place : Place) (bindings : List Module.Binding) :
    CheckM (List IndexEntry) := do
  let own := (← (bodies bindings).mapM (indexesOfBody ask place)).flatten
  let keys ← own.mapM fun entry => ask.text entry.keyType
  let (entries, _) ← (bases bindings).foldlM
    (fun found node => do
      let base ← ask.typeAt node place
      inheritIndexes ask found (← ask.indexes base))
    (own, keys)
  return entries

def callsOfInterface (ask : Ask) (place : Place) (bindings : List Module.Binding) :
    CheckM (List CallSignature) := do
  return (← (bodies bindings).mapM (callsOfBody ask place)).flatten

/-! ## Classes -/

def classBody (node : Cursor) : List Cursor :=
  ((node.fieldOr? "body" ["class_body"]).map Cursor.named).getD []

/-- Who may use a member. -/
def visibility? (node : Cursor) : Option Visibility :=
  match node.first? ["accessibility_modifier"] with
  | some modifier => Visibility.ofText? modifier.text
  | none =>
      if (node.field? "name").elim false (·.kind == "private_property_identifier") then
        some .toOwner
      else none

/-- The property that a constructor's parameter with a modifier is. -/
def parameterProperty? (path : String) (parameter : Cursor) : Option Draft :=
  if (parameter.first? ["accessibility_modifier"]).isNone &&
      !parameter.hasToken ["readonly"] then none
  else
    ((parameter.field? "pattern").filter (·.kind == "identifier")).map fun pattern =>
      let name := pattern.text
      ⟨{ name := some name, declaration := declarationAt .property name path parameter,
          isOptional := parameter.kind == "optional_parameter",
          isReadonly := parameter.hasToken ["readonly"], visibility := visibility? parameter,
          kind := some .property }, [parameter]⟩

/-- The properties that a constructor's parameters are. -/
def parameterProperties (path : String) (constructor : Cursor) : List Draft :=
  match constructor.field? "parameters" with
  | none => []
  | some holder => (holder.ofKinds Grammar.parameters).filterMap (parameterProperty? path)

/-- The field that a part of a class body declares. -/
def field (name path : String) (part : Cursor) : Draft :=
  ⟨{ name := some name, declaration := declarationAt .property name path part,
      isOptional := part.hasToken ["?"], isReadonly := part.hasToken ["readonly"],
      isStatic := part.hasToken ["static"], visibility := visibility? part,
      kind := some .property }, [part]⟩

/-- The method or accessor that a part of a class body declares. -/
def method (name path : String) (part : Cursor) : Draft :=
  let (kind, declared) :=
    if part.hasToken ["get"] then (MemberKind.getter, DeclarationKind.getAccessor)
    else if part.hasToken ["set"] then (.setter, .setAccessor)
    else (.method, .method)
  ⟨{ name := some name, declaration := declarationAt declared name path part,
      isOptional := part.hasToken ["?"], isStatic := part.hasToken ["static"],
      visibility := visibility? part, kind := some kind }, [part]⟩

/-- The drafts of a class after one more part of its body. -/
def addClassPart (path : String) (drafts : List Draft) (part : Cursor) : CheckM (List Draft) := do
  if Grammar.fields.contains part.kind then
    let nameNode := (part.fieldOr? "name" ["property_identifier"]).or (part.field? "property")
    match ← nameOf? nameNode with
    | none => return drafts
    | some name => return drafts ++ [field name path part]
  else if ["method_definition", "method_signature", "abstract_method_signature"].contains
      part.kind then
    match ← nameOf? (part.field? "name") with
    | none => return drafts
    | some name =>
        if name != "constructor" then return addOverload (method name path part) drafts
        else if part.kind == "method_definition" then
          return drafts ++ parameterProperties path part
        else return drafts
  else return drafts

/-- The class that a class extends, if it is a class of a module at hand. -/
def baseClass? (ask : Ask) (place : Place) (node : Cursor) : CheckM (Option TypeId) := do
  let clause := (node.first? ["class_heritage"]).bind (Cursor.first? ["extends_clause"])
  match clause with
  | none => return none
  | some clause =>
      match (clause.field? "value").or clause.lastPart? with
      | none => return none
      | some value =>
          if value.kind != "identifier" then return none
          else
            let argNodes := ((clause.field? "type_arguments").map Cursor.parts).getD []
            let args ← argNodes.mapM fun arg => ask.typeAt arg place
            match ← Lookup.lookup place.source value.text .values with
            | some ⟨source, binding :: _⟩ =>
                if binding.kind = .classType then
                  some <$> ask.declared source [binding] args
                else return none
            | _ => return none

/-- Members with those of a base class that have no counterpart among them. -/
def inheritMembers (own base : List Symbol) : List Symbol :=
  own ++ base.filter fun symbol => !(own.map key).contains (key symbol)

def ofClass (ask : Ask) (place : Place) (node : Cursor) : CheckM (List Symbol) := do
  let drafts ← (classBody node).foldlM (addClassPart place.source.path) []
  let own ← realize place drafts
  match ← baseClass? ask place node with
  | none => return own
  | some base => return inheritMembers own ((← ask.load? base .classMembers).getD [])

def constructors (node : Cursor) : List Cursor :=
  (classBody node).filter fun part =>
    ["method_definition", "method_signature"].contains part.kind &&
      textOf (part.field? "name") == "constructor"

/-- The construct signatures of a class: its own, or those of its base class, which
then construct this class. -/
def constructsOf (ask : Ask) (place : Place) (node : Cursor) (t : TypeId) :
    CheckM (List CallSignature) := do
  match Signature.overloads (constructors node) with
  | [] =>
      match ← baseClass? ask place node with
      | none => return []
      | some base =>
          ((← ask.load? base .constructs).getD []).mapM fun signature => do
            return {
              parameters := signature.parameters, returnType := t,
              text := ← Render.arrow ask signature.parameters t,
              declaration := signature.declaration : CallSignature }
  | nodes => nodes.mapM (Signature.ofNode ask place (some t))

end TypeGloss.Members
