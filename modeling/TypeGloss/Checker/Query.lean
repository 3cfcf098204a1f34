/-
# TypeGloss.Checker.Query — the questions a checker asks itself

Types refer to each other in circles, and so do the rules that find them: the text
of a type needs its properties, whose types need the text of others. Every rule
that needs another rule's answer asks a `Query`; `Ask` answers queries, and no rule
calls itself in any other way. So the rules are plain definitions over an `Ask`,
and the one recursion is where `Ask` is tied to them, which spends one of a limited
number of steps for every query.
-/
import TypeGloss.Checker.Store

namespace TypeGloss

set_option autoImplicit false

/-- The questions of the checker. -/
inductive Query where
  /-- The type written at a node, reached through an alias or not. -/
  | typeAt (node : Cursor) (place : Place) (via : Option AliasRef)
  /-- The type of declarations of one name, applied to arguments. -/
  | declared (source : Source) (bindings : List Module.Binding) (args : List TypeId)
  /-- The type of a declaration. -/
  | ofDeclaration (declaration : Declaration)
  /-- The type of a symbol. -/
  | ofSymbol (symbol : Symbol)
  /-- The type of an expression; with `literal` a literal keeps its type, with
  `frozen` so does everything inside it. -/
  | ofExpression (node : Cursor) (place : Place) (literal frozen : Bool)
  /-- The text of a type. -/
  | text (t : TypeId)
  /-- A part of a type; nothing while it is being loaded or if there is no such part. -/
  | load (t : TypeId) (part : Part)
  /-- A type with all computation done; nothing if nothing is left of it. -/
  | simplified (t : TypeId)
  /-- The properties that a type appears to have. -/
  | properties (t : TypeId)
  /-- The index signatures that a type appears to have. -/
  | indexes (t : TypeId)
  /-- Is a value of the first type a value of the second? -/
  | assignable (source target : TypeId)
  /-- Does a type, or an element that is still being found, match a pattern, and what do
  the pattern's variables stand for? -/
  | fits (candidate : Option TypeId) (pattern : Cursor) (place : Place) (inferred : Inferred)

abbrev Query.Answer : Query → Type
  | typeAt _ _ _ => TypeId
  | declared _ _ _ => TypeId
  | ofDeclaration _ => TypeId
  | ofSymbol _ => TypeId
  | ofExpression _ _ _ _ => TypeId
  | text _ => String
  | load _ part => Option part.Content
  | simplified _ => Option TypeId
  | properties _ => List Symbol
  | indexes _ => List IndexEntry
  | assignable _ _ => Bool
  | fits _ _ _ _ => Bool × Inferred

abbrev Ask := (query : Query) → CheckM query.Answer

namespace Ask

def typeAt (ask : Ask) (node : Cursor) (place : Place) : CheckM TypeId :=
  ask (.typeAt node place none)

/-- The type written at a node, reached through an alias or not. -/
def typeThrough (ask : Ask) (via : Option AliasRef) (node : Cursor) (place : Place) :
    CheckM TypeId :=
  ask (.typeAt node place via)

/-- The type of declarations of one name, applied to arguments. -/
def declared (ask : Ask) (source : Source) (bindings : List Module.Binding)
    (args : List TypeId) : CheckM TypeId :=
  ask (.declared source bindings args)

def ofDeclaration (ask : Ask) (declaration : Declaration) : CheckM TypeId :=
  ask (.ofDeclaration declaration)

def ofSymbol (ask : Ask) (symbol : Symbol) : CheckM TypeId :=
  ask (.ofSymbol symbol)

def ofExpression (ask : Ask) (node : Cursor) (place : Place) (literal frozen : Bool) :
    CheckM TypeId :=
  ask (.ofExpression node place literal frozen)

def text (ask : Ask) (t : TypeId) : CheckM String :=
  ask (.text t)

def load? (ask : Ask) (t : TypeId) (part : Part) : CheckM (Option part.Content) :=
  ask (.load t part)

/-- A part of a type that is a list, empty if there is no such part. -/
def members (ask : Ask) (t : TypeId) : CheckM (List TypeId) := do
  return (← ask.load? t .members).getD []

/-- The element type of an array, if it can be told. -/
def element? (ask : Ask) (t : TypeId) : CheckM (Option TypeId) :=
  ask.load? t .element

def elements (ask : Ask) (t : TypeId) : CheckM (List TupleItem) := do
  return (← ask.load? t .elements).getD []

def calls (ask : Ask) (t : TypeId) : CheckM (List CallSignature) := do
  return (← ask.load? t .calls).getD []

/-- The members of a union, or the type itself. -/
def alternatives (ask : Ask) (t : TypeId) : CheckM (List TypeId) := do
  if (← Check.category t) = .union then ask.members t else return [t]

/-- A type with all computation done. -/
def simplified (ask : Ask) (t : TypeId) : CheckM (Option TypeId) :=
  ask (.simplified t)

def properties (ask : Ask) (t : TypeId) : CheckM (List Symbol) :=
  ask (.properties t)

def indexes (ask : Ask) (t : TypeId) : CheckM (List IndexEntry) :=
  ask (.indexes t)

/-- Is a value of the first type a value of the second? -/
def assignable (ask : Ask) (source target : TypeId) : CheckM Bool :=
  ask (.assignable source target)

/-- Does a type match a pattern, and what do the pattern's variables stand for? -/
def fits (ask : Ask) (candidate : Option TypeId) (pattern : Cursor) (place : Place)
    (inferred : Inferred) : CheckM (Bool × Inferred) :=
  ask (.fits candidate pattern place inferred)

/-- The texts of types, with a comma between two. -/
def commaTexts (ask : Ask) (types : List TypeId) : CheckM String := do
  return Text.joinWith ", " (← types.mapM ask.text)

/-- A name with arguments, if there are any. -/
def applied (ask : Ask) (name : String) (args : List TypeId) : CheckM String := do
  if args.isEmpty then return name
  else return name ++ "<" ++ (← ask.commaTexts args) ++ ">"

def aliasText (ask : Ask) (via : AliasRef) : CheckM String :=
  ask.applied via.binding.name via.args

/-- The text of the alias through which a type was reached, if there is one. -/
def aliasText? (ask : Ask) (via : Option AliasRef) : CheckM (Option String) :=
  via.mapM ask.aliasText

/-- The types of a union built from parts: the members of parts that are unions,
each type once, in order. A part is found before the next one is looked at. -/
def unionMembers {α : Type} (ask : Ask) (typeOf : α → CheckM TypeId) :
    List TypeId → List α → CheckM (List TypeId)
  | found, [] => return found
  | found, part :: rest => do
      let t ← typeOf part
      let more ← ask.alternatives t
      ask.unionMembers typeOf
        (more.foldl (fun known m => if known.contains m then known else known ++ [m]) found) rest

/-- The union of types: never for none, the type itself for one. -/
def unionOf {α : Type} (ask : Ask) (typeOf : α → CheckM TypeId) (parts : List α) :
    CheckM TypeId := do
  match ← ask.unionMembers typeOf [] parts with
  | [] => Check.primitive .never
  | [t] => return t
  | members =>
      Check.intern (.union members)
        { category := .union, shape := .union, cache := { members := some members } }

def unionOfTypes (ask : Ask) (types : List TypeId) : CheckM TypeId :=
  ask.unionOf pure types

end Ask

end TypeGloss
