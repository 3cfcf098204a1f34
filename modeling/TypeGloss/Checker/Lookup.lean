/-
# TypeGloss.Checker.Lookup — what a name means

A name is looked up in three ways.

* In a module (`lookup`): among the module's own declarations, types and values
  apart, and then through the import of that name.
* In the exports of a module (`lookupExport`): a name the module exports, then the
  modules whose names it passes on, in order. A declaration file without any export
  exports everything it declares.
* From a place in the text (`localDeclaration`, `constantInView`): outward through
  the enclosing functions and blocks.

A module may import from itself around a circle; a name that is being looked up in
a module already is not found there again. Passing names on in a circle is not
caught by that, so the number of steps is limited.
-/
import TypeGloss.Checker.Query
import TypeGloss.Module.Candidates

namespace TypeGloss.Lookup

set_option autoImplicit false

/-- Types and values have separate names. -/
inductive Space where
  | types
  | values
  deriving Repr, DecidableEq

/-- Declarations of one name, with the source that has them. -/
structure Found where
  source : Source
  bindings : List Module.Binding
  deriving Inhabited

/-- A name in a module that is being looked up. -/
abbrev Visit := String × String × Space

/-- What was found, and the names looked up on the way. -/
abbrev Trail := Option Found × List Visit

/-- The source that an import means: the first candidate that is registered. -/
def module? (program : Program) (importer specifier : String) : Option Source :=
  (Module.candidates importer specifier program.settings.moduleSuffixes
    program.settings.packageDirs).findSome? fun path => Entries.find? path program.sources

def declarations? (scope : Module.Scope) (name : String) : Space → Option (List Module.Binding)
  | .types => Entries.find? name scope.types
  | .values => Entries.find? name scope.values

/-- The name under which a module that passes names on has the given one. -/
def passedName? (name : String) (reexport : Module.Reexport) : Option String :=
  match reexport.names with
  | none => if name = "default" then none else some name
  | some names => Entries.find? name names

/-- The first module that passes a name on and has it. -/
def firstPassed (program : Program) (source : Source) (name : String)
    (search : Source → String → List Visit → Result Trail) :
    List Module.Reexport → List Visit → Result Trail
  | [], seen => .ok (none, seen)
  | reexport :: rest, seen =>
      match passedName? name reexport, module? program source.path reexport.specifier with
      | some imported, some target => do
          match ← search target imported seen with
          | (some found, after) => return (some found, after)
          | (none, after) => firstPassed program source name search rest after
      | _, _ => firstPassed program source name search rest seen

mutual

def within (program : Program) : Nat → Source → String → Space → List Visit → Result Trail
  | 0, _, _, _, _ => .error .exhausted
  | steps + 1, source, name, space, seen => do
      let visit := (source.path, name, space)
      if seen.contains visit then return (none, seen)
      let seen := visit :: seen
      let scope ← source.scope
      match declarations? scope name space with
      | some bindings => return (some ⟨source, bindings⟩, seen)
      | none =>
          match Entries.find? name scope.imports with
          | some ⟨_, specifier, some imported⟩ =>
              match module? program source.path specifier with
              | some target => exported program steps target imported space seen
              | none => return (none, seen)
          | _ => return (none, seen)

def exported (program : Program) : Nat → Source → String → Space → List Visit → Result Trail
  | 0, _, _, _, _ => .error .exhausted
  | steps + 1, source, name, space, seen => do
      let scope ← source.scope
      let own ← match Entries.find? name scope.exports with
        | some localName => within program steps source localName space seen
        | none => .ok (none, seen)
      match own with
      | (some found, after) => return (some found, after)
      | (none, after) =>
          match ← firstPassed program source name
              (fun target imported visits => exported program steps target imported space visits)
              scope.reexports after with
          | (some found, last) => return (some found, last)
          | (none, last) =>
              if Text.endsWith ".d.ts" source.path && scope.exports.isEmpty &&
                  scope.reexports.isEmpty then
                within program steps source name space last
              else return (none, last)

end

/-- The number of steps one look-up may take. -/
def maxSteps : Nat := 1000

def find? (program : Program) (source : Source) (name : String) (space : Space) :
    Result (Option Found) :=
  (within program maxSteps source name space []).map Prod.fst

def lookup (source : Source) (name : String) (space : Space) : CheckM (Option Found) := do
  Check.ofResult (find? (← Check.program) source name space)

def lookupExport (source : Source) (name : String) (space : Space) : CheckM (Option Found) := do
  Check.ofResult ((exported (← Check.program) maxSteps source name space []).map Prod.fst)

/-- The file that a name is imported from, whether or not it is registered. -/
def externalFile? (source : Source) (name : String) : CheckM (Option String) := do
  let scope ← Check.scopeOf source
  let head := (Text.pieces '.' name).headD ""
  match Entries.find? head scope.imports with
  | none => return none
  | some imported =>
      if Text.startsWith "." imported.specifier then
        return some (Path.normalize (Path.join (Path.dirname source.path) imported.specifier))
      else return some ("node_modules/" ++ imported.specifier ++ "/index.d.ts")

/-! ## From a place in the text -/

def declaratorIn? (statement : Cursor) (name : String) : Option Cursor :=
  (statement.ofKinds ["variable_declarator"]).find? fun declarator =>
    (declarator.field? "name").elim false (·.text == name)

/-- A statement, or the declaration it exports. -/
def exportedStatement? (statement : Cursor) : Option Cursor :=
  if statement.kind == "export_statement" then statement.field? "declaration" else some statement

/-- The variable or function that a statement declares under a name. -/
def declaredIn? (name : String) (statement : Cursor) : Option Cursor := do
  let statement ← exportedStatement? statement
  if Grammar.variableStatements.contains statement.kind then declaratorIn? statement name
  else if Grammar.functionDeclarations.contains statement.kind then
    if textOf (statement.field? "name") == name then some statement else none
  else none

/-- The variable or function that a block declares under a name. -/
def scopeDeclaration? (block : Cursor) (name : String) : Option Cursor :=
  block.named.findSome? (declaredIn? name)

/-- Nodes with parameters of their own. -/
def isFunction (kind : String) : Bool :=
  Grammar.functionExpressions.contains kind || Grammar.functionDeclarations.contains kind ||
    kind == "method_definition"

def parameter? (function : Cursor) (name : String) : Option Cursor :=
  let listed := ((function.field? "parameters").map Cursor.named).getD []
  let found := listed.find? fun param =>
    Grammar.parameters.contains param.kind &&
      (param.field? "pattern").elim false fun pattern =>
        pattern.kind == "identifier" && pattern.text == name
  found.or ((function.field? "parameter").filter (·.text == name))

/-- The nearest declaration of a name among enclosing nodes, up to the module. -/
def localAmong? (name : String) : List Cursor → Option Cursor
  | [] => none
  | ancestor :: rest =>
      let kind := ancestor.kind
      let parameter := if isFunction kind then parameter? ancestor name else none
      match parameter with
      | some found => some found
      | none =>
          if kind == "program" then scopeDeclaration? ancestor name
          else if kind == "statement_block" then
            match scopeDeclaration? ancestor name with
            | some found => some found
            | none => localAmong? name rest
          else localAmong? name rest

/-- The nearest declaration of a name that encloses a node. -/
def localDeclaration? (node : Cursor) (name : String) : Option Cursor :=
  localAmong? name node.ancestors

def isConstant (node : Cursor) : Bool :=
  node.kind == "variable_declarator" && node.parent?.elim false (Cursor.hasToken ["const"])

/-- The nearest constant of a name among enclosing blocks. -/
def constantAmong? (name : String) (ancestors : List Cursor) : Option Cursor :=
  ancestors.findSome? fun ancestor =>
    if ["statement_block", "program"].contains ancestor.kind then
      (scopeDeclaration? ancestor name).filter isConstant
    else none

/-- The initializer of the constant of a name that is in view at a node: in an
enclosing block, in the module, or imported. -/
def constantInView? (program : Program) (source : Source) (node : Cursor) (name : String) :
    Result (Option Cursor) := do
  match constantAmong? name node.ancestors with
  | some declarator => return declarator.field? "value"
  | none =>
      match ← find? program source name .values with
      | some found =>
          match found.bindings with
          | binding :: _ =>
              if isConstant binding.node then return binding.node.field? "value" else return none
          | [] => return none
      | none => return none

/-- How constant expressions look up names at a node. -/
def initializersAt (program : Program) (source : Source) (node : Cursor) (name : String) :
    Result (Option Tree) :=
  (constantInView? program source node name).map (Option.map Cursor.focus)

end TypeGloss.Lookup
