/-
# TypeGloss.Documentation.Piece — pieces built from named fields

`Content.build` makes a piece of a class from named fields, which are checked against
the schema: a field that must be there and is not, or that has content of the wrong
shape, leaves no piece. A field may be given under either of its names, of which the
one it has in a document wins, and names that are no fields are ignored.

Where a piece is wanted, its fields may be given instead. Where a node of any class
is wanted, the class is the one to which most of them belong, counted with the
fields of all pieces that are made inside; of several such classes the first.

* `Content.replace` writes over fields of a piece without checking them. Whatever is
  written for the default makes it assigned.
* `Content.agree` compares two pieces field by field.
* `Content.document` is a piece as plain data, in which null fields of documents are
  left out, save an assigned default.
-/
import TypeGloss.Documentation.Document
import TypeGloss.Documentation.Schema
import TypeGloss.Lenient

namespace TypeGloss

set_option autoImplicit false

/-- What a field of a piece may hold. A plain value is null, a truth value, a number or
a text. The fields of a piece are those of its class, by name and in order, and
`isDefaultAssigned` says whether the one of defaults was given. -/
inductive Content where
  | plain (v : Value)
  | list (items : List Content)
  | table (entries : List (String × Content))
  | piece (cls : PieceClass) (isDefaultAssigned : Bool) (fields : List (String × Content))
  deriving Inhabited

namespace Content

/-! ## Building -/

/-- What is there when nothing was given. -/
def ofAbsence? : Absence → Option Content
  | .refused => none
  | .null => some (plain .null)
  | .noItems => some (list [])
  | .noEntries => some (table [])
  | .flag b => some (plain (.flag b))
  | .text s => some (plain (.text s))

/-- Something accepted, with the number of fields that were given to pieces made on
the way. -/
abbrev Accepted := Option (Content × Nat)

/-- A class and named fields, made into a piece. -/
abbrev Maker := PieceClass → Entries Content → Accepted

def asItIs (content : Content) : Accepted := some (content, 0)

/-- A plain value that is read as another. -/
def asPlain (v : Option Value) : Accepted := v.map fun v => (plain v, 0)

/-- The candidate with the greatest count, of several the first. -/
def greatest : List (Content × Nat) → Accepted
  | [] => none
  | first :: rest => some (rest.foldl (fun best next => if best.2 < next.2 then next else best) first)

def accept (make : Maker) : FieldShape → Content → Accepted
  | .anything, content => asItIs content
  | .text, plain v => asPlain ((Lenient.text? v).map .text)
  | .flag, plain v => asPlain ((Lenient.flag? v).map .flag)
  | .integer, plain v => asPlain ((Lenient.integer? v).map .integer)
  | .word words, plain v => asPlain (((Lenient.text? v).filter words.contains).map .text)
  | .piece wanted, piece cls assigned fields =>
      if cls = wanted then asItIs (piece cls assigned fields) else none
  | .piece wanted, table entries => make wanted entries
  | .node, piece cls assigned fields =>
      if PieceClass.nodes.contains cls then asItIs (piece cls assigned fields) else none
  | .node, table entries => greatest (PieceClass.nodes.filterMap fun cls => make cls entries)
  | .list item, list items => do
      let accepted ← items.mapM (accept make item)
      return (list (accepted.map Prod.fst), (accepted.map Prod.snd).sum)
  | .table, table entries => asItIs (table entries)
  | .orNull _, plain .null => asItIs (plain .null)
  | .orNull shape, content => accept make shape content
  | _, _ => none

/-- What was given for a field, under one of its names. -/
def given? (entries : Entries Content) (field : Field) : Option Content :=
  (Entries.find? field.documentName entries).or (Entries.find? field.name entries)

/-- A field as it is accepted, by name. One that was given counts. -/
def acceptField (make : Maker) (entries : Entries Content) (field : Field) :
    Option (String × Content × Nat) :=
  match given? entries field with
  | some content => (accept make field.shape content).map fun (c, n) => (field.name, c, n + 1)
  | none => (ofAbsence? field.absence).map fun c => (field.name, c, 0)

/-- Was the default given? -/
def isDefaultGiven (cls : PieceClass) (entries : Entries Content) : Bool :=
  cls.fields.any fun field => field.name == Schema.defaultName && (given? entries field).isSome

/-- A piece from named fields in which fields are nested less than the given depth. -/
def buildWithin : Nat → Maker
  | 0, _, _ => none
  | depth + 1, cls, entries => do
      let fields ← cls.fields.mapM (acceptField (buildWithin depth) entries)
      return (piece cls (isDefaultGiven cls entries) (fields.map fun (name, c, _) => (name, c)),
        (fields.map fun (_, _, n) => n).sum)

mutual

def depth : Content → Nat
  | plain _ => 0
  | list items => depthOfItems items + 1
  | table entries => depthOfEntries entries + 1
  | piece _ _ fields => depthOfEntries fields + 1

/-- The greatest depth among items. -/
def depthOfItems : List Content → Nat
  | [] => 0
  | item :: rest => max (depth item) (depthOfItems rest)

/-- The greatest depth among entries. -/
def depthOfEntries : List (String × Content) → Nat
  | [] => 0
  | (_, item) :: rest => max (depth item) (depthOfEntries rest)

end

def build (cls : PieceClass) (entries : Entries Content) : Result Content :=
  match buildWithin (depthOfEntries entries + 1) cls entries with
  | some (content, _) => .ok content
  | none => .error .invalidField

/-! ## Replacing -/

/-- A piece with some of its fields replaced, unchecked. -/
def replace (changes : Entries Content) : Content → Content
  | piece cls assigned fields =>
      piece cls (assigned || Entries.has Schema.defaultName changes)
        (fields.map fun (name, old) => (name, (Entries.find? name changes).getD old))
  | content => content

/-! ## Agreement -/

mutual

/-- Do two contents say the same? Entries may stand in any order. -/
def agree : Content → Content → Bool
  | plain a, other => match other with | plain b => a.agree b | _ => false
  | list items, other => match other with | list more => agreeItems items more | _ => false
  | table entries, other =>
      match other with
      | table more => entries.length == more.length && agreeEntries entries more
      | _ => false
  | piece cls _ fields, other =>
      match other with
      | piece cls' _ more => cls == cls' && agreeEntries fields more
      | _ => false

def agreeItems : List Content → List Content → Bool
  | [], [] => true
  | a :: rest, b :: more => agree a b && agreeItems rest more
  | _, _ => false

/-- Every entry says the same as the one of its name in another table. -/
def agreeEntries : List (String × Content) → List (String × Content) → Bool
  | [], _ => true
  | (name, a) :: rest, more =>
      match Entries.find? name more with
      | some b => agree a b && agreeEntries rest more
      | none => false

end

/-! ## Documents -/

/-- The name that a field has in a document of its class. -/
def documentName (cls : PieceClass) (name : String) : String :=
  (cls.fields.find? (·.name == name)).elim name Field.documentName

/-- Is a field left out of its document? -/
def isLeftOut (cls : PieceClass) (isDefaultAssigned : Bool) (name : String) : Document → Bool
  | .value .null => cls.isDocument && !(isDefaultAssigned && name == Schema.defaultName)
  | _ => false

mutual

def document : Content → Document
  | plain v => .value v.finite
  | list items => .list (documentsOf items)
  | table entries => .record (documentsOfEntries entries)
  | piece cls assigned fields => .record (documentsOfFields cls assigned fields)

def documentsOf : List Content → List Document
  | [] => []
  | item :: rest => document item :: documentsOf rest

def documentsOfEntries : List (String × Content) → List (String × Document)
  | [] => []
  | (name, item) :: rest => (name, document item) :: documentsOfEntries rest

def documentsOfFields (cls : PieceClass) (assigned : Bool) :
    List (String × Content) → List (String × Document)
  | [] => []
  | (name, item) :: rest =>
      let written := document item
      if isLeftOut cls assigned name written then documentsOfFields cls assigned rest
      else (documentName cls name, written) :: documentsOfFields cls assigned rest

end

def ownDocument : Content → Result Document
  | piece cls assigned fields =>
      if cls.isDocument then .ok (document (piece cls assigned fields)) else .error .missingPart
  | _ => .error .missingPart

/-- Was a default assigned? Only nodes can have one. -/
def hasDefault? : Content → Option Bool
  | piece cls assigned _ => if cls.hasDefaults then some assigned else none
  | _ => none

end Content

end TypeGloss
