/-
# TypeGloss.Documentation.Schema — the fields of documentation pieces

A piece is a node, a part of one, or something that goes with it: a tag, a location,
what is known about a symbol. Its class says which fields it has, in the order in
which they are written, what each accepts, and what a field is that was not given.

A field has a name, and in a document the same name without underscores, the letter
after each in upper case. Locations and what is known about a symbol keep their
names.
-/
import TypeGloss.Documentation.Node

namespace TypeGloss

set_option autoImplicit false

/-- The classes of pieces. -/
inductive PieceClass where
  /-- A node of which no more is said than what all nodes share. -/
  | bare
  | primitive
  | object
  | array
  | tuple
  | union
  | intersection
  | function
  | component
  | classType
  | enum
  | generic
  | reference
  | indexSignature
  | signature
  | componentSignature
  | method
  | accessor
  | tag
  | lineColumn
  | position
  | location
  | metadata
  deriving Repr, DecidableEq, Inhabited

/-- What a field accepts. -/
inductive FieldShape where
  | anything
  | text
  | flag
  | integer
  /-- One word of a list. -/
  | word (words : List String)
  | piece (cls : PieceClass)
  /-- A node of any class that has more to say than `bare`. -/
  | node
  | list (item : FieldShape)
  /-- Entries by name. -/
  | table
  | orNull (shape : FieldShape)

/-- What a field is when it was not given. -/
inductive Absence where
  /-- It must be given. -/
  | refused
  | null
  | noItems
  | noEntries
  | flag (b : Bool)
  | text (s : String)

/-- A field of a class. -/
structure Field where
  name : String
  documentName : String
  shape : FieldShape
  absence : Absence

namespace Schema

/-! ## Fields -/

/-- A name without underscores, the letter after each in upper case. -/
def camelChars : List Char → List Char
  | '_' :: c :: rest => c.toUpper :: camelChars rest
  | c :: rest => c :: camelChars rest
  | [] => []

/-- A name without underscores, the letter after each in upper case. -/
def camel (name : String) : String :=
  Text.onChars camelChars name

def required (name : String) (shape : FieldShape) : Field :=
  ⟨name, camel name, shape, .refused⟩

/-- A field that may be null, and is when it was not given. -/
def optional (name : String) (shape : FieldShape) : Field :=
  ⟨name, camel name, .orNull shape, .null⟩

/-- A field with a list, which is empty when it was not given. -/
def many (name : String) (item : FieldShape) : Field :=
  ⟨name, camel name, .list item, .noItems⟩

def keepingName (field : Field) : Field :=
  { field with documentName := field.name }

/-- A kind; a class that has one offers its own. -/
def kind (own : Option Kind) : Field :=
  { required "kind" (.word (Kind.all.map Kind.text)) with
    absence := own.elim .refused fun kind => .text kind.text }

/-- The part of a class that a member belongs to: the class itself or its instances. -/
def scope : Field := optional "scope" (.word ["static"])

/-- Who may use a member. -/
def visibility : Field :=
  optional "visibility" (.word ([.toAll, .toOwner, .toHeirs].map Visibility.text))

/-- How a function runs. -/
def modifier : Field :=
  optional "modifier" (.word ([.async, .generator, .asyncGenerator].map Modifier.text))

/-- Where something stands and what its comment says. -/
def origin : List Field :=
  [optional "file_path" .text, optional "position" (.piece .position),
    optional "description" .text, optional "tags" (.list (.piece .tag))]

/-- The field of defaults. -/
def defaultName : String := "default_value"

/-- What all nodes share. -/
def header (own : Option Kind) : List Field :=
  [kind own, required "type" .text, optional "name" .text] ++ origin ++
    [optional "is_optional" .flag, optional "is_readonly" .flag, optional "is_rest" .flag,
      ⟨defaultName, camel defaultName, .anything, .null⟩, scope, visibility]

end Schema

namespace PieceClass

open Schema

/-- The classes of nodes, in the order in which they are tried. -/
def nodes : List PieceClass :=
  [primitive, object, array, tuple, union, intersection, function, component, classType, enum,
    generic, reference]

def hasDefaults (cls : PieceClass) : Bool :=
  cls = bare || nodes.contains cls

/-- Classes whose pieces are documents of their own. In these a field that is null is
left out. -/
def isDocument : PieceClass → Bool
  | lineColumn | position | location | metadata => false
  | _ => true

/-- The fields of a class, in order. -/
def fields : PieceClass → List Field
  | bare => header none
  | primitive => header none ++ [⟨"value", "value", .anything, .null⟩]
  | object => header (some .object) ++
      [many "properties" .node, optional "index_signatures" (.list (.piece indexSignature))]
  | array => header (some .array) ++ [required "element" .node]
  | tuple => header (some .tuple) ++ [many "elements" .node]
  | union => header (some .union) ++ [many "members" .node]
  | intersection => header (some .intersection) ++ [many "properties" .node]
  | function => header (some .function) ++ [many "signatures" (.piece signature)]
  | component => header (some .component) ++ [many "signatures" (.piece componentSignature)]
  | classType => header (some .classType) ++
      [many "properties" .node, many "methods" (.piece method),
        optional "accessors" (.list (.piece accessor)),
        optional "constructors" (.list (.piece signature))]
  | enum => header (some .enum) ++ [⟨"members", "members", .table, .noEntries⟩]
  | generic => header (some .generic) ++ [required "type_name" .text, many "arguments" .node]
  | reference => header (some .reference)
  | indexSignature =>
      [kind (some .indexSignature), required "type" .text, required "parameter" .node,
        required "value" .node, optional "is_readonly" .flag]
  | signature =>
      [kind (some .functionSignature), required "type" .text, many "parameters" .node,
        required "return_type" .text, modifier]
  | componentSignature =>
      [kind (some .componentSignature), required "type" .text, optional "parameter" .node,
        required "return_type" .text, modifier]
  | method =>
      [kind (some .classMethod), required "name" .text, required "type" .text,
        many "signatures" (.piece signature), scope, visibility] ++ origin
  | accessor =>
      [kind (some .classAccessor), required "name" .text, required "accessor" .text,
        required "type" .text, optional "return_type" .text, optional "parameter" .node, scope,
        visibility] ++ origin
  | tag => [required "tag_name" .text, optional "text" .text]
  | lineColumn => [required "line" .integer, required "column" .integer]
  | position => [required "start" (.piece lineColumn), required "end" (.piece lineColumn)]
  | location =>
      [keepingName (required "file_path" .text), required "position" (.piece position)]
  | metadata =>
      [optional "name" .text, keepingName (optional "file_path" .text),
        optional "position" (.piece position)] ++
      (["is_optional", "is_readonly", "is_in_node_modules", "is_exported", "is_external",
        "is_private"].map fun name => ⟨name, name, .flag, .flag false⟩) ++
      [optional "description" .text, many "tags" (.piece tag)]

end PieceClass

end TypeGloss
