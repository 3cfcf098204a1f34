/-
# TypeGloss.Proofs.Resolution.Filtering — nothing is expanded that the filter rejects

A filter is asked about the symbols of types and about properties. Types without a name of
their own are expanded without its being asked, and so are the properties of a constituent
that is flattened into an intersection, so it has to be shown that such a constituent never has
a name.

* `resolveType_filtered`: in every tree, whatever the filter is, a node that is more than a leaf
  stands for a type that the filter admits, and its properties are those of the type, one node
  for each: a reference where the filter rejects the property.
* `resolveDeclaration_outsidePackages`: with the filter of a project, which rejects what
  packages declare, no type is expanded that a package declares under a name, and no property
  that a package declares. A node in a package's file that is more than a leaf stands for a type
  without a name, or for what the tree is about as a whole, or for a parameter: parameters are
  what the filter is not asked about.
-/
import TypeGloss.Proofs.Resolution.Accounting

namespace TypeGloss

set_option autoImplicit false

/-! ## Packages -/

/-- Is a symbol declared in a package? -/
def Symbol.isInPackage (symbol : Symbol) : Bool :=
  symbol.declaration.elim false fun declaration => Path.isInNodeModules declaration.path

/-- The metadata of a symbol say whether it is in a package. -/
theorem Metadata.IsOf.isInNodeModules {metadata : Metadata} {symbol : Symbol}
    {enclosing : Option Declaration} (isOf : metadata.IsOf symbol enclosing)
    (packaged : symbol.isInPackage = true) : metadata.isInNodeModules = true := by
  unfold Symbol.isInPackage at packaged
  cases declared : symbol.declaration with
  | none => simp [declared] at packaged
  | some declaration => simpa [isOf.inPackage, declared] using packaged

/-- A symbol that is declared at a place in a package is declared in a package. -/
theorem Symbol.isInPackage_of_location {symbol : Symbol} {location : Location}
    (located : symbol.location? = some location)
    (packaged : Path.isInNodeModules location.path = true) : symbol.isInPackage = true := by
  obtain ⟨declaration, declared, rfl⟩ := Option.map_eq_some_iff.1 located
  simpa [isInPackage, declared, Checker.declarationLocation] using packaged

/-- A node on a way along a declared symbol is where the symbol is declared. -/
theorem Symbol.IsDeclared.location?_eq {law : Tree.Law} {symbol : Symbol}
    (declared : symbol.IsDeclared law) (way : Way) (along : way.location? = symbol.location?)
    (r : TypeFacts) : symbol.location? = some (way.location r) := by
  obtain ⟨declaration, present⟩ := Option.isSome_iff_exists.1 declared.declared
  simp [Way.location, along, Symbol.location?, present]

section Project

variable {layout : TreeSettings} {s : State}

/-- A project's filter admits no type that a package declares under a name. -/
theorem Plan.Admits.unnamed {way : Way} {r : TypeFacts}
    (admits : Plan.Admits ⟨layout, Filter.project.accepts⟩ s way r) {symbol : Symbol}
    (found : symbol ∈ r.symbol) (packaged : symbol.isInPackage = true) :
    symbol.ownName? = none := by
  obtain ⟨metadata, known, nameless | accepts⟩ := admits symbol found
  · rw [← known.metadata.name, nameless]
  · simp [Filter.accepts, known.metadata.isInNodeModules packaged] at accepts

/-- A node in a package's file, for a type met along a way that a project's filter leaves
open. -/
theorem Header.Bears.packaged {law : Tree.Law} {way : Way} {u : TypeId} {r : TypeFacts}
    {header : Header} (bears : header.Bears s way u r)
    (leads : way.IsOpen law ⟨layout, Filter.project.accepts⟩ s)
    (admits : Plan.Admits ⟨layout, Filter.project.accepts⟩ s way r) {file : String}
    (isFile : header.filePath = some file) (packaged : Path.isInNodeModules file = true) :
    (∀ symbol ∈ r.symbol, symbol.ownName? = none ∨ symbol.declaration = none) ∨
      (∃ symbol, way = .parameter symbol ∧ symbol.isInPackage = true) ∨
        ∃ declaration, way = .root declaration ∧
          Path.isInNodeModules declaration.path = true := by
  have here : (way.location r).path = file :=
    Option.some.inj (bears.located.path.symm.trans isFile)
  rw [← here] at packaged
  cases way with
  | below enclosing =>
      refine .inl fun symbol found => ?_
      cases declared : symbol.declaration with
      | none => exact .inr rfl
      | some declaration =>
          have located : symbol.location? = some (r.locationBelow enclosing) := by
            rw [TypeFacts.locationBelow, Option.mem_def.1 found]
            simp [Symbol.location?, declared]
          exact .inl (admits.unnamed found (Symbol.isInPackage_of_location located packaged))
  | property symbol =>
      obtain ⟨declared, metadata, known, accepts⟩ := leads
      have located := declared.location?_eq (.property symbol) rfl r
      have rejected := known.metadata.isInNodeModules
        (Symbol.isInPackage_of_location located packaged)
      simp [Filter.accepts, rejected] at accepts
  | parameter symbol =>
      have located := Symbol.IsDeclared.location?_eq leads (.parameter symbol) rfl r
      exact .inr (.inl ⟨symbol, rfl, Symbol.isInPackage_of_location located packaged⟩)
  | root declaration => exact .inr (.inr ⟨declaration, rfl, packaged⟩)

end Project

/-- What the filter rejects is shown as a reference. -/
theorem Shows.eq_reference_of_rejects {plan : Plan} {s : State} {symbol : Symbol}
    {result : Option Node} {metadata : Metadata} (shows : Shows plan s symbol result)
    (known : s.Finds (Metadata.ofSymbol symbol none) metadata)
    (rejects : plan.accepts metadata = false) : ∃ header, result = some (.reference header) := by
  cases shows with
  | rejected => exact ⟨_, rfl⟩
  | accepted known' accepts typed becomes name =>
      obtain rfl : metadata = _ := Except.ok.inj (known.symm.trans known')
      simp [rejects] at accepts

/-! ## A constant of a package -/

namespace PackagedConstant

def path : String := "node_modules/p/index.ts"

/-- A node of the source, which has one line. -/
def piece (kind text : String) (start stop : Nat) (field : Option String)
    (children : List Tree) : Tree :=
  .node ⟨kind, text, start, stop, ⟨0, start⟩, ⟨0, stop⟩, true, false, field⟩ children

def property : Tree :=
  piece "property_signature" "x: string" 11 20 none
    [piece "property_identifier" "x" 11 12 (some "name") [],
      piece "type_annotation" ": string" 12 20 (some "type")
        [piece "predefined_type" "string" 14 20 none []]]

def object : Tree := piece "object_type" "{ x: string }" 9 22 none [property]

def typing : Tree := piece "type_annotation" ": { x: string }" 7 22 (some "type") [object]

def declarator : Tree :=
  piece "variable_declarator" "c: { x: string }" 6 22 none
    [piece "identifier" "c" 6 7 (some "name") [], typing]

def statement : Tree :=
  piece "lexical_declaration" "const c: { x: string }" 0 22 none [declarator]

/-- The source `const c: { x: string }`. -/
def source : Tree := piece "program" "const c: { x: string }" 0 22 none [statement]

def declaration : Declaration :=
  ⟨.variableDecl, some "c", path, some ⟨declarator, [⟨statement, 0⟩, ⟨source, 0⟩]⟩⟩

def plan : Plan := ⟨{}, Filter.project.accepts⟩

def registered : State := State.through {} [.added path source]

/-! ### The type of the constant -/

/-- Where the type of the constant is written. -/
def node : Cursor := ⟨object, [⟨typing, 0⟩, ⟨declarator, 1⟩, ⟨statement, 0⟩, ⟨source, 0⟩]⟩

def place : Place := .top ⟨path, source, Module.Scope.ofTree source⟩

def made : TypeRecord :=
  { category := .object, node := some node, place := some place,
    symbol := some (.ofType none node path), shape := .written }

/-- The state in which the type of the constant has been made. -/
def learned : State :=
  { registered with
    interned := registered.interned.insert (.ofNode node place none .plain) 0
    records := #[made] }

/-- The source is registered, and the type of the constant is asked for. -/
def history : List Event :=
  [.added path source, .asked _ (.inquiry (.typeOfDeclaration declaration))]

theorem run_declarationByName :
    (Checker.declarationByName path "c").run.run registered = (.ok declaration, registered) := by
  with_unfolding_all rfl

theorem run_typeOfDeclaration :
    (Checker.typeOfDeclaration declaration).run.run registered = (.ok 0, learned) := by
  -- The constant is being inferred while its type is read.
  have read : (Checker.typeOfDeclaration declaration).run.run registered =
      ((Check.intern (.ofNode node place none .plain) made).run.run
        { registered with inferring := [(path, 6)] }).map id
          fun s => { s with inferring := s.inferring.erase (path, 6) } := by
    with_unfolding_all rfl
  rw [read, Check.run_intern_of_none Std.HashMap.getElem?_empty]
  rfl

theorem through_history : State.through {} history = learned := by
  have asked : State.through {} history =
      after (Checker.typeOfDeclaration declaration) registered := rfl
  rw [asked, after, run_typeOfDeclaration]

/-! ### Its tree -/

def text : String := "{ x: string; }"

def labelled : TypeRecord := { made with label := some text, cache := { text := some text } }

/-- The symbol of the property. -/
def symbol : Symbol :=
  { name := some "x",
    declaration := some ⟨.property, some "x", path, some ⟨property, ⟨object, 0⟩ :: node.above⟩⟩,
    kind := some .property,
    member := some ⟨0, place, [⟨property, ⟨object, 0⟩ :: node.above⟩]⟩ }

/-- The type of the constant, once its properties have been found. -/
def opened (indexes : Option (List IndexEntry)) : TypeRecord :=
  { labelled with cache := { text := some text, properties := some [symbol], indexes } }

/-- The state in which the members of the type have been found. -/
def inside : State := { learned with records := #[opened (some [])], slots := #[none] }

/-- The state in which the type of the property has been found, too. -/
def known : State :=
  { inside with
    interned := learned.interned.insert (.primitive .string) 1
    records := #[opened (some []),
      { category := .primitive, label := some "string", name := some "string",
        primitive := some .string }]
    slots := #[some 1] }

theorem run_typeOfSymbol : (Checker.typeOfSymbol symbol).run.run inside = (.ok 1, known) := by
  have unknown : inside.interned[Key.primitive .string]? = none := by
    rw [inside, learned, Std.HashMap.getElem?_insert]
    exact Std.HashMap.getElem?_empty
  have string : (Check.primitive .string).run.run inside =
      (.ok 1, { known with slots := #[none] }) := by
    rw [Check.primitive, Check.run_intern_of_none unknown]
    rfl
  have read : (Checker.typeOfSymbol symbol).run.run inside =
      (do
        let t ← Check.primitive .string
        Check.setSlot 0 t
        return t : CheckM TypeId).run.run inside := by
    with_unfolding_all rfl
  rw [read, run_bind_ok string]
  rfl

/-- The property is rejected. -/
def shown : Node :=
  .reference
    { kind := .reference, type := "string", name := some "x", filePath := some path,
      position := some ⟨⟨1, 12⟩, ⟨1, 21⟩⟩ }

def metadata (name : Option String) (start : Nat) (stop : Nat) : Metadata :=
  { name, filePath := some path, position := some ⟨⟨1, start⟩, ⟨1, stop⟩⟩,
    isInNodeModules := true, isExternal := true }

/-- The property is shown as a reference, with the type of its symbol found on the way. -/
theorem run_property (below : Builder.Below) (guard : CycleGuard TypeId) :
    (Builder.property plan below symbol).run.run ⟨inside, guard⟩ =
      (.ok (some shown), ⟨known, guard⟩) := by
  have described : (Metadata.ofSymbol symbol none).run.run inside =
      (.ok (metadata (some "x") 12 21), inside) := by
    with_unfolding_all rfl
  rw [Builder.property, run_bind_ok (ResolveM.run_liftM_of described guard),
    run_bind_ok (ResolveM.run_liftM_of run_typeOfSymbol guard)]
  with_unfolding_all rfl

/-- What is known about the type from where it is met. -/
def context : Context :=
  ⟨text, ⟨path, ⟨⟨1, 10⟩, ⟨1, 23⟩⟩⟩, some (metadata none 10 23), some declaration⟩

theorem run_object (below : Builder.Below) (guard : CycleGuard TypeId) :
    (Builder.objectOrCallable plan below 0 context).run.run
        ⟨{ learned with records := #[labelled] }, guard⟩ =
      (.ok (.object (context.header .object) [shown] none), ⟨known, guard⟩) := by
  have opens : (Checker.properties 0).run.run { learned with records := #[labelled] } =
      (.ok [symbol], { inside with records := #[opened none] }) := by
    with_unfolding_all rfl
  have indexed : (Checker.indexes 0).run.run { inside with records := #[opened none] } =
      (.ok [], inside) := by
    with_unfolding_all rfl
  have again : (Checker.properties 0).run.run inside = (.ok [symbol], inside) := by
    with_unfolding_all rfl
  have listed : (Builder.properties plan below [symbol]).run.run ⟨inside, guard⟩ =
      (.ok [shown], ⟨known, guard⟩) := by
    rw [Builder.properties, List.mapM_cons, List.mapM_nil, bind_assoc,
      run_bind_ok (run_property below guard)]
    rfl
  rw [Builder.objectOrCallable, run_bind_ok (ResolveM.run_liftM_of opens guard)]
  simp only [List.isEmpty_cons, Bool.false_eq_true, if_false, pure_bind, List.isEmpty_nil,
    if_true]
  rw [Builder.object, run_bind_ok (ResolveM.run_liftM_of indexed guard), List.mapM_nil, pure_bind,
    run_bind_ok (ResolveM.run_liftM_of again guard), run_bind_ok listed]
  rfl

/-- The tree of the constant. -/
def tree : Node :=
  .object
    { kind := .object, type := text, name := some "c", filePath := some path,
      position := some ⟨⟨1, 7⟩, ⟨1, 23⟩⟩ }
    [shown] none

theorem run_resolveType :
    (Resolution.resolveType plan 0 (some declaration)).run.run learned =
      (.ok (some tree), known) := by
  have simple : (Checker.simplified 0).run.run learned = (.ok (some 0), learned) := by
    with_unfolding_all rfl
  have category : (Checker.category 0).run.run learned = (.ok .object, learned) := by
    with_unfolding_all rfl
  have met : (Context.ofType 0 (some declaration)).run.run learned =
      (.ok context, { learned with records := #[labelled] }) := by
    with_unfolding_all rfl
  exact Resolution.run_resolveType_of_expanded rfl simple category met rfl rfl (run_object _ _)

theorem outcome_resolveType :
    outcome (Resolution.resolveType plan 0 (some declaration)) (State.through {} history) =
      .ok (some tree) := by
  rw [through_history, outcome, run_resolveType]

theorem outcome_resolveDeclaration :
    outcome (Resolution.resolveDeclaration plan path "c") registered = .ok (some tree) := by
  rw [outcome, Resolution.resolveDeclaration, run_bind_ok run_declarationByName,
    run_bind_ok run_typeOfDeclaration, run_resolveType]

end PackagedConstant

open PackagedConstant

namespace Resolution

/-- In the tree of a type, every node that is more than a leaf stands for a type that the filter
admits, and lists the properties of that type; a property that the filter rejects is shown as
one reference, and nothing of its type is. -/
theorem resolveType_filtered (identity : Nat) (settings : SourceSettings) (history : List Event)
    (plan : Plan) (t : TypeId) (declaration : Option Declaration) (tree : Node)
    (returned : outcome (resolveType plan t declaration)
      (State.through { identity, settings } history) = .ok (some tree)) :
    let s := after (resolveType plan t declaration) (State.through { identity, settings } history)
    (∀ above node, tree.Occurs above node → node.isExpanded = true →
      ∃ way u r, node.header.Bears s way u r ∧ plan.Admits s way r ∧ node.Lists plan s u) ∧
    ∀ symbol result metadata, Shows plan s symbol result →
      s.Finds (Metadata.ofSymbol symbol none) metadata → plan.accepts metadata = false →
        ∃ header, result = some (.reference header) := by
  intro s
  refine ⟨fun above node occurs expanded => ?_,
    fun _ _ _ shows known rejects => shows.eq_reference_of_rejects known rejects⟩
  have documents := resolveType_documents (.reachable identity settings history)
    (fun known _ => known.obeys_free) returned
  cases documents.isAccounted above node occurs with
  | met meets => exact ⟨_, _, _, meets.bears, meets.expanded expanded⟩
  | rejected => cases expanded
  | remnant => cases expanded

/-- The type of a package's constant has no name and is expanded; its property is rejected. -/
theorem resolveType_filtered_packagedConstant :
    outcome (resolveType plan 0 (some declaration)) (State.through {} history) =
        .ok (some PackagedConstant.tree) ∧
      PackagedConstant.tree.children = [shown] ∧ shown.isExpanded = false ∧
      ∃ way u r, PackagedConstant.tree.header.Bears known way u r ∧ plan.Admits known way r ∧
        PackagedConstant.tree.Lists plan known u := by
  have filtered := (resolveType_filtered 0 {} history plan 0 (some declaration)
    PackagedConstant.tree outcome_resolveType).1 0 PackagedConstant.tree (.root _) rfl
  rw [through_history, after, run_resolveType] at filtered
  exact ⟨outcome_resolveType, rfl, rfl, filtered⟩

end Resolution

end TypeGloss
