/-
# TypeGloss.Module.Scope — the names of a module

`Scope.ofTree` reads the statements at the top of a module and records

* the types and the values that it declares, each name with all its declarations
  in order, because declarations of one name are merged or overloaded;
* what it imports, by local name;
* which names it exports, and what local name each stands for;
* what it passes on from other modules, by name or as a whole.

A class and an enum are a type and a value at once. A declaration inside an export
or an ambient declaration counts as one at the top. Namespaces are not entered.
-/
import TypeGloss.Entries
import TypeGloss.Tree.Cursor
import TypeGloss.Tree.Literal

namespace TypeGloss

set_option autoImplicit false

/-- What kind of thing a declaration declares. -/
inductive DeclarationKind where
  | typeAlias
  | interface
  | classType
  | enum
  | enumMember
  | function
  | variableDecl
  | parameter
  | property
  | method
  | getAccessor
  | setAccessor
  | constructor
  | typeParameter
  | typeLiteral
  | library
  deriving Repr, DecidableEq, Inhabited

namespace DeclarationKind

def text : DeclarationKind → String
  | typeAlias => "type_alias"
  | interface => "interface"
  | classType => "class"
  | enum => "enum"
  | enumMember => "enum_member"
  | function => "function"
  | variableDecl => "variable"
  | parameter => "parameter"
  | property => "property"
  | method => "method"
  | getAccessor => "get_accessor"
  | setAccessor => "set_accessor"
  | constructor => "constructor"
  | typeParameter => "type_parameter"
  | typeLiteral => "type_literal"
  | library => "library"

def all : List DeclarationKind :=
  [typeAlias, interface, classType, enum, enumMember, function, variableDecl, parameter, property,
    method, getAccessor, setAccessor, constructor, typeParameter, typeLiteral, library]

def ofText? (word : String) : Option DeclarationKind :=
  all.find? (·.text == word)

def ofStatement? (kind : String) : Option DeclarationKind :=
  match kind with
  | "type_alias_declaration" => some typeAlias
  | "interface_declaration" => some interface
  | "class_declaration" => some classType
  | "abstract_class_declaration" => some classType
  | "enum_declaration" => some enum
  | "function_declaration" => some function
  | "generator_function_declaration" => some function
  | "function_signature" => some function
  | _ => none

def bindsType (kind : DeclarationKind) : Bool :=
  [typeAlias, interface, classType, enum].contains kind

def bindsValue (kind : DeclarationKind) : Bool :=
  kind != typeAlias && kind != interface

end DeclarationKind

namespace Module

/-- A declaration at the top of a module. -/
structure Binding where
  name : String
  kind : DeclarationKind
  node : Cursor
  exported : Bool
  deriving Inhabited

/-- A name that a module imports. `imported` is the name in the other module, or
`none` for the module as a whole. -/
structure Import where
  localName : String
  specifier : String
  imported : Option String
  deriving Repr, DecidableEq, Inhabited

/-- What a module passes on from another: the given names, with the name each has
there, or everything. -/
structure Reexport where
  specifier : String
  names : Option (Entries String)
  deriving Repr, Inhabited

/-- The names of a module. -/
structure Scope where
  types : Entries (List Binding) := []
  values : Entries (List Binding) := []
  imports : Entries Import := []
  exports : Entries String := []
  reexports : List Reexport := []
  deriving Inhabited

namespace Scope

def addExport (exported localName : String) (scope : Scope) : Scope :=
  { scope with exports := Entries.put exported localName scope.exports }

/-- Record a declaration, in the table of types, of values or of both. -/
def bind (binding : Binding) (scope : Scope) : Scope :=
  let withType :=
    if binding.kind.bindsType then
      { scope with types := Entries.append binding.name binding scope.types }
    else scope
  if binding.kind.bindsValue then
    { withType with values := Entries.append binding.name binding withType.values }
  else withType

/-- Record a declaration, and that it is exported under its own name. -/
def bindAs (exported : Bool) (kind : DeclarationKind) (name : String) (node : Cursor)
    (scope : Scope) : Scope :=
  let bound := scope.bind ⟨name, kind, node, exported⟩
  if exported then bound.addExport name name else bound

/-! ## Statements -/

/-- A statement that declares something by its own name. -/
def bindDeclaration (exported : Bool) (kind : DeclarationKind) (node : Cursor) (scope : Scope) :
    Scope :=
  match node.field? "name" with
  | some name => scope.bindAs exported kind name.text node
  | none => scope

/-- A statement that declares variables; a destructured one binds no name. -/
def bindVariables (exported : Bool) (node : Cursor) (scope : Scope) : Scope :=
  (node.ofKinds ["variable_declarator"]).foldl
    (fun result declarator =>
      match declarator.field? "name" with
      | some name =>
          if name.kind == "identifier" then
            result.bindAs exported .variableDecl name.text declarator
          else result
      | none => result)
    scope

/-- The names between the braces of an export, with what each stands for. -/
def exportedNames (clause : Cursor) : Entries String :=
  (clause.ofKinds ["export_specifier"]).foldl
    (fun names entry =>
      match entry.field? "name" with
      | some name =>
          Entries.put ((entry.field? "alias").map Cursor.text |>.getD name.text) name.text names
      | none => names)
    []

def exportDefault (value : Cursor) (scope : Scope) : Scope :=
  if value.kind == "identifier" then scope.addExport "default" value.text
  else (scope.bind ⟨"default", .variableDecl, value, true⟩).addExport "default" "default"

/-- An export without a declaration: a default value, names of the module, or
names of another module. -/
def bindExportClause (node : Cursor) (scope : Scope) : Result Scope := do
  let value := node.field? "value"
  match node.hasToken ["default"], value with
  | true, some value => return scope.exportDefault value
  | _, _ =>
      let clause := node.fieldOr? "export_clause" ["export_clause"]
      match node.field? "source" with
      | some source =>
          let specifier ← Literal.stringValue source.focus
          match clause with
          | some clause =>
              return { scope with
                reexports := scope.reexports ++ [⟨specifier, some (exportedNames clause)⟩] }
          | none =>
              if node.named.any (·.kind == "namespace_export") then return scope
              else return { scope with reexports := scope.reexports ++ [⟨specifier, none⟩] }
      | none =>
          match clause with
          | some clause =>
              return { scope with exports := Entries.putAll scope.exports (exportedNames clause) }
          | none => return scope

def importAs (localName specifier : String) (imported : Option String) (scope : Scope) : Scope :=
  { scope with imports := Entries.put localName ⟨localName, specifier, imported⟩ scope.imports }

/-- One part of an import clause: the default, the whole module, or names. -/
def bindImportPart (specifier : String) (part : Cursor) (scope : Scope) : Scope :=
  if part.kind == "identifier" then scope.importAs part.text specifier (some "default")
  else if part.kind == "namespace_import" then
    match part.first? ["identifier"] with
    | some name => scope.importAs name.text specifier none
    | none => scope
  else if part.kind == "named_imports" then
    (part.ofKinds ["import_specifier"]).foldl
      (fun result entry =>
        match entry.field? "name" with
        | some name =>
            result.importAs ((entry.field? "alias").map Cursor.text |>.getD name.text) specifier
              (some name.text)
        | none => result)
      scope
  else scope

def bindImport (node : Cursor) (scope : Scope) : Result Scope :=
  match node.field? "source" with
  | none => return scope
  | some source => do
      let specifier ← Literal.stringValue source.focus
      match node.first? ["import_clause"] with
      | none => return scope
      | some clause =>
          return clause.named.foldl (fun result part => result.bindImportPart specifier part) scope

def bindStatement (exported : Bool) (node : Cursor) (scope : Scope) : Result Scope :=
  match DeclarationKind.ofStatement? node.kind with
  | some kind => return scope.bindDeclaration exported kind node
  | none =>
      if node.kind == "export_statement" then
        match _found : node.field? "declaration" with
        | some declaration => do
            let bound ← bindStatement true declaration scope
            match node.hasToken ["default"], declaration.field? "name" with
            | true, some name => return bound.addExport "default" name.text
            | _, _ => return bound
        | none => scope.bindExportClause node
      else if node.kind == "ambient_declaration" then
        node.named.attach.foldlM
          (fun result child => bindStatement exported child.1 result) scope
      else if ["lexical_declaration", "variable_declaration"].contains node.kind then
        return scope.bindVariables exported node
      else if node.kind == "import_statement" then scope.bindImport node
      else return scope
termination_by sizeOf node.focus
decreasing_by
  · exact Cursor.sizeOf_lt_of_field? _found
  · exact Cursor.sizeOf_lt_of_mem_named child.2

def ofTree (root : Tree) : Result Scope :=
  (Cursor.ofTree root).named.foldlM (fun scope node => scope.bindStatement false node) {}

end Scope

end Module

end TypeGloss
