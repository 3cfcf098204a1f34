/-
# TypeGloss.Documentation.Document — documentation as plain data

A `Document` is a tree of records, lists and values, ready to be written. The
fields of a record stand in the order in which a node declares them, the header
first. A field without a value is left out, with one exception: an assigned
default is kept even if it is null. A list that is there is kept even if it is
empty.

What is not finite has no place in a document: inside a value it becomes null,
and a literal value that is null is left out like any other.

`Document.render` writes a document as JSON, on one line or indented.
-/
import TypeGloss.Documentation.Node

namespace TypeGloss

set_option autoImplicit false

/-- Plain data. -/
inductive Document where
  | value (v : Value)
  | list (items : List Document)
  | record (fields : List (String × Document))
  deriving Inhabited

namespace Document

def text (s : String) : Document := .value (.text s)

def field? {α : Type} (name : String) (encode : α → Document) : Option α → List (String × Document)
  | some x => [(name, encode x)]
  | none => []

def flag (b : Bool) : Document := .value (.flag b)

def ofLineColumn (p : LineColumn) : Document :=
  .record [("line", .value (.integer p.line)), ("column", .value (.integer p.column))]

def ofPosition (p : Position) : Document :=
  .record [("start", ofLineColumn p.start), ("end", ofLineColumn p.stop)]

def ofTag (tag : Tag) : Document :=
  .record (("tagName", text tag.name) :: field? "text" text tag.text)

def ofTags (tags : List Tag) : Document :=
  .list (tags.map ofTag)

def ofKind (kind : Kind) : Document := text kind.text

/-- A value, unless it is null. -/
def unlessNull (name : String) : Value → List (String × Document)
  | .null => []
  | v => [(name, .value v)]

/-- The scope of a member, if it belongs to the class and not to its instances. -/
def scopeField (isStatic : Bool) : List (String × Document) :=
  if isStatic then [("scope", text "static")] else []

def ofHeader (h : Header) : List (String × Document) :=
  [("kind", ofKind h.kind), ("type", text h.type)] ++
    field? "name" text h.name ++
    field? "filePath" text h.filePath ++
    field? "position" ofPosition h.position ++
    field? "description" text h.description ++
    field? "tags" ofTags h.tags ++
    field? "isOptional" flag h.isOptional ++
    field? "isReadonly" flag h.isReadonly ++
    field? "isRest" flag h.isRest ++
    field? "defaultValue" (fun v => .value v.finite) h.default ++
    scopeField h.isStatic ++
    field? "visibility" (fun v => text v.text) h.visibility

/-- The fields of a method or an accessor that follow its own. -/
def ofMemberTail (h : MemberHeader) : List (String × Document) :=
  scopeField h.isStatic ++
    field? "visibility" (fun v => text v.text) h.visibility ++
    field? "filePath" text h.filePath ++
    field? "position" ofPosition h.position ++
    field? "description" text h.description ++
    field? "tags" ofTags h.tags

def ofModifier (m : Modifier) : Document := text m.text

mutual

def ofNode : Node → Document
  | .primitive header content => .record (ofHeader header ++ unlessNull "value" content.finite)
  | .object header properties none =>
      .record (ofHeader header ++ [("properties", .list (ofNodes properties))])
  | .object header properties (some indexes) =>
      .record (ofHeader header ++ [("properties", .list (ofNodes properties)),
        ("indexSignatures", .list (ofIndexSignatures indexes))])
  | .array header element => .record (ofHeader header ++ [("element", ofNode element)])
  | .tuple header elements => .record (ofHeader header ++ [("elements", .list (ofNodes elements))])
  | .union header members => .record (ofHeader header ++ [("members", .list (ofNodes members))])
  | .intersection header properties =>
      .record (ofHeader header ++ [("properties", .list (ofNodes properties))])
  | .function header signatures =>
      .record (ofHeader header ++ [("signatures", .list (ofSignatures signatures))])
  | .component header signatures =>
      .record (ofHeader header ++ [("signatures", .list (ofComponentSignatures signatures))])
  | .classType header properties methods accessors constructors =>
      .record (ofHeader header ++
        [("properties", .list (ofNodes properties)), ("methods", .list (ofMethods methods))] ++
        (match accessors with
          | some accessors => [("accessors", .list (ofAccessors accessors))]
          | none => []) ++
        (match constructors with
          | some constructors => [("constructors", .list (ofSignatures constructors))]
          | none => []))
  | .enum header members =>
      .record (ofHeader header ++ [("members", .value (Value.object members).finite)])
  | .generic header typeName arguments =>
      .record (ofHeader header ++
        [("typeName", text typeName), ("arguments", .list (ofNodes arguments))])
  | .reference header => .record (ofHeader header)

def ofNodes : List Node → List Document
  | [] => []
  | node :: rest => ofNode node :: ofNodes rest

def ofIndexSignature : IndexSignature → Document
  | .mk kind type parameter content isReadonly =>
      .record ([("kind", ofKind kind), ("type", text type), ("parameter", ofNode parameter),
        ("value", ofNode content)] ++ field? "isReadonly" flag isReadonly)

def ofIndexSignatures : List IndexSignature → List Document
  | [] => []
  | signature :: rest => ofIndexSignature signature :: ofIndexSignatures rest

def ofSignature : Signature → Document
  | .mk kind type parameters returnType modifier =>
      .record ([("kind", ofKind kind), ("type", text type),
        ("parameters", .list (ofNodes parameters)), ("returnType", text returnType)] ++
        field? "modifier" ofModifier modifier)

def ofSignatures : List Signature → List Document
  | [] => []
  | signature :: rest => ofSignature signature :: ofSignatures rest

def ofComponentSignature : ComponentSignature → Document
  | .mk kind type parameter returnType modifier =>
      .record ([("kind", ofKind kind), ("type", text type)] ++
        (match parameter with
          | some parameter => [("parameter", ofNode parameter)]
          | none => []) ++
        [("returnType", text returnType)] ++ field? "modifier" ofModifier modifier)

def ofComponentSignatures : List ComponentSignature → List Document
  | [] => []
  | signature :: rest => ofComponentSignature signature :: ofComponentSignatures rest

def ofMethod : Method → Document
  | .mk header signatures =>
      .record ([("kind", ofKind header.kind), ("name", text header.name),
        ("type", text header.type), ("signatures", .list (ofSignatures signatures))] ++
        ofMemberTail header)

def ofMethods : List Method → List Document
  | [] => []
  | method :: rest => ofMethod method :: ofMethods rest

def ofAccessor : Accessor → Document
  | .mk header accessor returnType parameter =>
      .record ([("kind", ofKind header.kind), ("name", text header.name),
        ("accessor", text accessor), ("type", text header.type)] ++
        field? "returnType" text returnType ++
        (match parameter with
          | some parameter => [("parameter", ofNode parameter)]
          | none => []) ++
        ofMemberTail header)

def ofAccessors : List Accessor → List Document
  | [] => []
  | accessor :: rest => ofAccessor accessor :: ofAccessors rest

end

/-! ## JSON -/

/-- How deep a line is indented and by how much per level; `none` for one line. -/
structure Indent where
  width : Option Nat
  level : Nat := 0

def Indent.deeper (i : Indent) : Indent := { i with level := i.level + 1 }

/-- What separates two entries, or an entry from its bracket. -/
def Indent.newline (i : Indent) : String :=
  match i.width with
  | some width => "\n" ++ String.ofList (List.replicate (width * i.level) ' ')
  | none => ""

/-- What stands between a key and its value. -/
def Indent.colon (i : Indent) : String :=
  if i.width.isSome then ": " else ":"

def bracketed (i : Indent) (opening closing : String) (entries : List String) : String :=
  if entries.isEmpty then opening ++ closing
  else
    opening ++ i.deeper.newline ++ Text.joinWith ("," ++ i.deeper.newline) entries ++ i.newline ++
      closing

mutual

def renderValue (i : Indent) : Value → String
  | .null => "null"
  | .flag b => if b then "true" else "false"
  | .integer n => Number.integerText n
  | .number x => if x.isNaN || x.isInf then "null" else Number.Layout.json.render x
  | .notNumber _ => "null"
  | .text s => Text.quote s
  | .list items => bracketed i "[" "]" (renderValues i.deeper items)
  | .object entries => bracketed i "\x7b" "\x7d" (renderEntries i.deeper entries)

def renderValues (i : Indent) : List Value → List String
  | [] => []
  | v :: rest => renderValue i v :: renderValues i rest

def renderEntries (i : Indent) : List (String × Value) → List String
  | [] => []
  | (name, v) :: rest => (Text.quote name ++ i.colon ++ renderValue i v) :: renderEntries i rest

end

mutual

def renderAt (i : Indent) : Document → String
  | .value v => renderValue i v
  | .list items => bracketed i "[" "]" (renderAll i.deeper items)
  | .record fields => bracketed i "\x7b" "\x7d" (renderFields i.deeper fields)

def renderAll (i : Indent) : List Document → List String
  | [] => []
  | d :: rest => renderAt i d :: renderAll i rest

def renderFields (i : Indent) : List (String × Document) → List String
  | [] => []
  | (name, d) :: rest => (Text.quote name ++ i.colon ++ renderAt i d) :: renderFields i rest

end

/-- The bound of indentations. -/
def widthBound : Nat := Nat.pow 2 64

/-- The width of an indentation that is given as a value; null is for one line, and a
truth value counts as zero or one. -/
def widthOf : Value → Result (Option Nat)
  | .null => .ok none
  | .flag b => .ok (some (if b then 1 else 0))
  | .integer n => if n < 0 || n ≥ widthBound then .error .tooLarge else .ok (some n.toNat)
  | _ => .error .notWhole

/-- A document as JSON, indented by a width or on one line. -/
def render (width : Option Nat) (d : Document) : String :=
  renderAt ⟨width, 0⟩ d

end Document

end TypeGloss
