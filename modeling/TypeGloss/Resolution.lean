/-
# TypeGloss.Resolution — documentation trees of types

`resolve` makes the documentation tree of a type. A type is left as a reference if
the filter rejects its symbol, if it is nested too deeply, or if it is being expanded
already; so every tree is finite. Primitive and literal types are leaves and are never
rejected. `visit` is one such step, and `resolve` takes it as often as types may be
nested: no type is expanded below `maxDepth` others.

`resolveDeclaration` is the tree of a declaration, whose root bears its name, its
location and its comment.
-/
import TypeGloss.Resolution.Builder

namespace TypeGloss.Resolution

set_option autoImplicit false

/-- Is a type rejected? A symbol without a name is never asked about. -/
def isRejected (plan : Plan) (metadata : Option Metadata) : Bool :=
  metadata.elim false fun known => known.name.isSome && !plan.accepts known

/-- Is a type a leaf of every tree? -/
def isLeaf (category : Category) : Bool :=
  category = .primitive || category = .literal

/-- The documentation tree of a type that is met below a declaration, given how a type
is documented that is neither a leaf nor rejected; nothing if nothing is left of the
type. -/
def visit (plan : Plan) (descend : TypeId → Category → Context → ResolveM Node) (t : TypeId)
    (enclosing : Option Declaration) : ResolveM (Option Node) := do
  match ← (Checker.simplified t : CheckM _) with
  | none =>
      let _ ← Checker.text t
      return none
  | some t =>
      let category ← Checker.category t
      let context ← Context.ofType t enclosing
      if isLeaf category then some <$> Builder.primitive t category context
      else if isRejected plan context.metadata then return some context.reference
      else some <$> descend t category context

/-- The documentation tree of a type in which so many types may still be nested. -/
def resolve (plan : Plan) : Nat → Builder.Below
  | 0 => visit plan fun _ _ context => return context.reference
  | fewer + 1 => visit plan fun t category context =>
      ResolveM.expanding t fun entered =>
        if entered then Builder.expanded plan (resolve plan fewer) t category context
        else return context.reference

def ownFilter (settings : TreeSettings) : Filter :=
  if settings.expandNodeModules then .everything else .project

/-- The plan of settings with a filter, or with the settings' own. -/
def planOf (settings : TreeSettings) (filter : Option Filter) : Plan :=
  ⟨settings, (filter.getD (ownFilter settings)).accepts⟩

/-- The header of the root of a declaration's tree. -/
def rootHeader (declaration : Declaration) (header : Header) : Header :=
  let location := Checker.declarationLocation declaration
  let comment := declaration.comment
  { header with
    name := declaration.name.or header.name, filePath := some location.path,
    position := some location.position,
    description := comment.description.or header.description,
    tags := (Context.noted comment.tags).or header.tags }

/-- Run a resolution with a guard of its own. -/
def run {α : Type} (body : ResolveM α) : CheckM α :=
  ExceptT.mk fun checker =>
    let (outcome, after) := body.run.run { checker }
    (outcome, after.checker)

/-- The documentation tree of a type. With a declaration given, the root bears what
is known about it. -/
def resolveType (plan : Plan) (t : TypeId) (declaration : Option Declaration) :
    CheckM (Option Node) := do
  let node ← run (resolve plan plan.settings.maxDepth.toNat t declaration)
  match declaration with
  | none => return node
  | some declaration => return node.map (Node.mapHeader (rootHeader declaration))

/-- The properties of a type that is an object at the top. -/
def resolveProperties (plan : Plan) (t : TypeId) (declaration : Option Declaration) :
    CheckM (List Node) := do
  match ← resolveType plan t declaration with
  | some (.object _ properties _) => return properties
  | _ => return []

/-- The documentation tree of the declaration of a name that is visible in a file. -/
def resolveDeclaration (plan : Plan) (path name : String) : CheckM (Option Node) := do
  let declaration ← Checker.declarationByName path name
  let t ← Checker.typeOfDeclaration declaration
  resolveType plan t (some declaration)

end TypeGloss.Resolution
