/-
# TypeGloss.Proofs.Checker.Reads — what the type at a node is made from

To know the type that is written at a node, some types must be known first: those of the
arguments of a name, of the element of an array, of the defaults of type parameters, and the
right side of an alias. All else is left until it is needed. So one node *reads* another, in
the same source or in the one where a name is declared (`Reads`).

There are four ways from a node to one that it reads (`Passage`). Inward, the types that the
type parameters in view stand for stay the same. Through an alias without parameters nothing
is in view any more. Through an alias whose arguments are all type parameters in view, other
names are in view, but they stand for some of the same types. In all other cases new types
may come into view.

Reading a node *unwinds* if, wherever it leads, new types come into view only finitely often
before the next alias without parameters (`Unwinds`). Nothing here is about a run: what a node
reads is a matter of syntax and of the names that are declared.
-/
import TypeGloss.Checker.Answer
import TypeGloss.Proofs.Lookup.Graph

namespace TypeGloss

set_option autoImplicit false

/-! ## What a node reads -/

/-- The ways in which a node of type syntax is read. -/
inductive Form where
  /-- As the node inside, if there is one. -/
  | wrapper (inner : Option Cursor)
  | primitive (p : Primitive)
  | named (text : String)
  | keyword
  | literal
  | template
  /-- A name without dots, with arguments. -/
  | simple (name : String) (args : List Cursor)
  /-- A name with dots, with arguments. -/
  | dotted (name : Cursor) (args : List Cursor)
  /-- Its parts are found later. It may have a symbol of its own. -/
  | structured (category : Category) (ownSymbol : Bool)
  | array
  /-- The type of a value. -/
  | query (target : Option Cursor)
  | rendered

namespace Form

/-- A name with arguments. -/
def ofGeneric (node : Cursor) : Form :=
  let nameNode := node.fieldOr? "name" ["type_identifier", "nested_type_identifier"]
  let argNodes :=
    ((node.fieldOr? "type_arguments" ["type_arguments"]).map Cursor.parts).getD []
  match nameNode.filter (·.kind == "nested_type_identifier") with
  | some name => dotted name argNodes
  | none => simple (textOf nameNode) argNodes

def ofNode (node : Cursor) : Form :=
  let kind := node.kind
  if Grammar.annotations.contains kind ||
      ["parenthesized_type", "readonly_type"].contains kind then wrapper node.lastPart?
  else if ["type_predicate_annotation", "type_predicate"].contains kind then primitive .boolean
  else if ["asserts_annotation", "asserts"].contains kind then primitive .void
  else
    match kind with
    | "predefined_type" => keyword
    | "literal_type" => literal
    | "template_literal_type" => template
    | "this_type" => named "this"
    | "existential_type" => primitive .any
    | "type_identifier" => simple node.text []
    | "nested_type_identifier" => dotted node []
    | "generic_type" => ofGeneric node
    | "object_type" =>
        if (TypeSyntax.mappedSignature? node).isSome then structured .computed false
        else structured .object true
    | "array_type" => array
    | "tuple_type" => structured .tuple false
    | "union_type" => structured .union false
    | "intersection_type" => structured .intersection false
    | "function_type" => structured .function true
    | "type_query" => query node.lastPart?
    | "index_type_query" => structured .computed false
    | "lookup_type" => structured .computed false
    | "conditional_type" => structured .computed false
    | "infer_type" => named node.text
    | _ => rendered

/-- The type at a node that is read in a way. -/
def read (ask : Ask) (node : Cursor) (place : Place) (via : Option AliasRef) :
    Form → CheckM TypeId
  | wrapper (some inner) => ask.typeThrough via inner place
  | wrapper none => Check.any
  | primitive p => Check.primitive p
  | named text => Check.namedType text none
  | keyword => TypeSyntax.keyword node.text
  | literal => TypeSyntax.literal node
  | template => TypeSyntax.template ask node place
  | simple name args => Reference.simple ask name args node place via
  | dotted name args => Reference.qualified ask name args node place via
  | structured category ownSymbol =>
      TypeSyntax.structured ask category
        (if ownSymbol then some (.ofType via node place.source.path) else none) node place via
  | array => TypeSyntax.array ask node place via
  | query (some target) => Inference.valuePath ask target place
  | query none => Check.any
  | rendered => do Check.namedType (← Render.render ask node place) none

/-- A generic name is read by the form that its name gives it. -/
theorem read_ofGeneric (ask : Ask) (node : Cursor) (place : Place) (via : Option AliasRef) :
    TypeSyntax.generic ask node place via = (ofGeneric node).read ask node place via := by
  unfold TypeSyntax.generic ofGeneric
  dsimp only
  cases (node.fieldOr? "name" ["type_identifier", "nested_type_identifier"]).filter
    (·.kind == "nested_type_identifier") <;> rfl

/-- Every node is read by its form. -/
theorem read_ofNode (ask : Ask) (node : Cursor) (place : Place) (via : Option AliasRef) :
    TypeSyntax.ofNode ask node place via = (ofNode node).read ask node place via := by
  unfold TypeSyntax.ofNode ofNode
  dsimp only
  generalize node.kind = kind
  by_cases wrapped : (Grammar.annotations.contains kind ||
      ["parenthesized_type", "readonly_type"].contains kind) = true
  · rw [if_pos wrapped, if_pos wrapped]
    cases node.lastPart? <;> rfl
  · rw [if_neg wrapped, if_neg wrapped]
    split
    · rfl
    · split
      · rfl
      · split
        case h_8 => exact read_ofGeneric ask node place via
        case h_9 =>
          unfold TypeSyntax.object
          cases (TypeSyntax.mappedSignature? node).isSome <;> rfl
        case h_15 => cases node.lastPart? <;> rfl
        case h_20 => simp only [*, read]
        all_goals rfl

/-- The nodes whose types are found before the type of the node. -/
def operands (node : Cursor) : Form → List Cursor
  | wrapper inner => inner.toList
  | simple _ args => args
  | dotted _ args => args
  | array => node.parts.head?.toList
  | _ => []

end Form

namespace Form

theorem mem_parts_of_lastPart? {node inner : Cursor} (last : node.lastPart? = some inner) :
    inner ∈ node.parts :=
  List.mem_of_getLast? last

/-- The arguments of a name are inside the node. -/
theorem sizeOf_lt_of_mem_arguments {node inner : Cursor}
    (listed : inner ∈ ((node.fieldOr? "type_arguments" ["type_arguments"]).map Cursor.parts).getD []) :
    sizeOf inner.focus < sizeOf node.focus := by
  cases found : node.fieldOr? "type_arguments" ["type_arguments"] with
  | none =>
      rw [found] at listed
      cases listed
  | some holder =>
      rw [found] at listed
      have part := Cursor.sizeOf_lt_of_mem_parts listed
      have inside : sizeOf holder.focus < sizeOf node.focus := by
        rcases Option.or_eq_some_iff.1 found with field | ⟨-, first⟩
        · exact Cursor.sizeOf_lt_of_field? field
        · exact Cursor.sizeOf_lt_of_mem_named (List.mem_of_find?_eq_some first)
      exact Nat.lt_trans part inside

theorem sizeOf_lt_of_mem_operands {node inner : Cursor}
    (isOperand : inner ∈ (ofNode node).operands node) : sizeOf inner.focus < sizeOf node.focus := by
  unfold ofNode at isOperand
  dsimp only at isOperand
  split at isOperand
  · exact Cursor.sizeOf_lt_of_mem_parts (mem_parts_of_lastPart? (Option.mem_toList.1 isOperand))
  · split at isOperand
    · cases isOperand
    · split at isOperand
      · cases isOperand
      · split at isOperand
        case h_8 =>
          unfold ofGeneric at isOperand
          dsimp only at isOperand
          split at isOperand <;> exact sizeOf_lt_of_mem_arguments isOperand
        case h_9 => split at isOperand <;> cases isOperand
        case h_10 =>
          exact Cursor.sizeOf_lt_of_mem_parts (List.mem_of_mem_head? (Option.mem_toList.1 isOperand))
        all_goals cases isOperand

end Form

/-! ## Names -/

namespace Reference

variable {ask : Ask}

/-- A name that nothing declares, unless it is that of an array with its element type. -/
theorem undeclared_of_ne_one {name : String} {args : List TypeId}
    (other : Library.arrayTypes.contains name = true → args.length ≠ 1) (node : Cursor)
    (place : Place) (via : Option AliasRef) :
    undeclared ask name args node place via =
      (if isUtility name && !args.isEmpty then utility ask name args node place via
      else
        match Entries.find? name Library.genericTypes with
        | some file => libraryType name file args
        | none =>
            match Entries.find? name Library.plainTypes with
            | some file => Check.namedType name (some file)
            | none => do
                let file ← Lookup.externalFile? place.source name
                if args.isEmpty then Check.namedType name file
                else Check.genericOf name (file.getD Library.defaultFile) args) := by
  unfold undeclared
  split
  · next isArray => exact absurd rfl (other isArray)
  · rfl

/-- Where no name stands for nothing, this one does not. -/
theorem known_of_complete {place : Place} (complete : place.blanks = []) (plain : Bool)
    (name : String) : ¬(plain && place.blanks.contains name) = true := by
  simp [complete]

/-- A name that stands for nothing has no type. -/
theorem simple_of_blank {name : String} {argNodes : List Cursor} {place : Place}
    (blank : (argNodes.isEmpty && place.blanks.contains name) = true) (node : Cursor)
    (via : Option AliasRef) :
    simple ask name argNodes node place via = throw .missingPart :=
  if_pos blank

/-- A type parameter in view is what it stands for. -/
theorem simple_of_bound {name : String} {argNodes : List Cursor} {place : Place} {t : TypeId}
    (known : ¬(argNodes.isEmpty && place.blanks.contains name) = true)
    (plain : argNodes.isEmpty = true) (bound : Entries.find? name place.env = some t)
    (node : Cursor) (via : Option AliasRef) :
    simple ask name argNodes node place via = pure t := by
  rw [simple, if_neg known, plain, bound]

/-- A name that no type parameter in view has. -/
theorem simple_of_unbound {name : String} {argNodes : List Cursor} {place : Place}
    (known : ¬(argNodes.isEmpty && place.blanks.contains name) = true)
    (unbound : argNodes.isEmpty = true → Entries.find? name place.env = none) (node : Cursor)
    (via : Option AliasRef) :
    simple ask name argNodes node place via = (do
      let args ← argNodes.mapM fun arg => ask.typeAt arg place
      match ← Lookup.lookup place.source name .types with
      | some found => ask.declared found.source found.bindings args
      | none => undeclared ask name args node place via) := by
  rw [simple, if_neg known]
  split
  · next t plain bound => simp [unbound plain] at bound
  · rfl

end Reference

/-- A node of type syntax in a source, where some type parameters are known to be in view. -/
structure Site where
  source : Source
  view : List String
  node : Cursor

/-- Is a node that is read in this way a type parameter in view? -/
def Form.isInView (view : List String) : Form → Bool
  | simple name [] => view.contains name
  | _ => false

/-- What a node that is read in a way names, and the arguments to which it is applied. -/
inductive Names (program : Program) (source : Source) (view : List String) :
    Form → List Cursor → Lookup.Found → Prop where
  | simple {name : String} {args : List Cursor} {found : Lookup.Found} {after : List Lookup.Visit}
      (outside : (Form.simple name args).isInView view = false)
      (finds : Lookup.search program Lookup.maxSteps .types (.within source name) [] =
        .ok (some found, after)) :
      Names program source view (.simple name args) args found
  | member {name : Cursor} {args : List Cursor} {head member : String} {scope : Module.Scope}
      {imported : Module.Import} {target : Source} {found : Lookup.Found}
      {after : List Lookup.Visit} (parts : Text.pieces '.' name.text = [head, member])
      (read : source.scope = .ok scope) (listed : Entries.find? head scope.imports = some imported)
      (present : Lookup.module? program source.path imported.specifier = some target)
      (finds : Lookup.search program Lookup.maxSteps .types (.exported target member) [] =
        .ok (some found, after)) :
      Names program source view (.dotted name args) args found
  | enum {name : Cursor} {args : List Cursor} {head member : String} {declaring : Source}
      {binding : Module.Binding} {rest : List Module.Binding} {after : List Lookup.Visit}
      (parts : Text.pieces '.' name.text = [head, member])
      (finds : Lookup.search program Lookup.maxSteps .values (.within source head) [] =
        .ok (some ⟨declaring, binding :: rest⟩, after))
      (isEnum : binding.kind = .enum) :
      Names program source view (.dotted name args) [] ⟨declaring, [binding]⟩

/-- A name that a source declares is found there. -/
theorem Lookup.search_of_declared {program : Program} {source : Source} {scope : Module.Scope}
    {space : Space} {name : String} {bindings : List Module.Binding}
    (read : source.scope = .ok scope) (declared : declarations? scope name space = some bindings) :
    search program maxSteps space (.within source name) [] =
      .ok (some ⟨source, bindings⟩, [(source.path, name, space)]) := by
  rw [maxSteps, search_succ, searchStep, if_neg (by simp), read]
  simp only [Bind.bind, Except.bind, declared]
  rfl

/-- A name without dots names what its look-up finds. -/
theorem Names.of_simple {program : Program} {source : Source} {view : List String} {name : String}
    {args argNodes : List Cursor} {found : Lookup.Found}
    (names : Names program source view (.simple name args) argNodes found) :
    argNodes = args ∧ (Form.simple name args).isInView view = false ∧
      ∃ visited, Lookup.search program Lookup.maxSteps .types (.within source name) [] =
        .ok (some found, visited) := by
  cases names with
  | simple outside finds => exact ⟨rfl, outside, _, finds⟩

/-! ## Reads -/

/-- The right side of a declaration, if it has one. -/
def Module.Binding.value? (binding : Module.Binding) : Option Cursor :=
  binding.node.field? "value"

/-- The type parameters of a declaration. -/
def Module.Binding.parameters (binding : Module.Binding) : List Reference.TypeParameter :=
  Reference.typeParameters binding.node

/-- The ways from a node to one that it reads. -/
inductive Passage where
  /-- To a part of the node. -/
  | inward
  /-- Through an alias without parameters. -/
  | closed
  /-- Through an alias, where the arguments are type parameters in view. -/
  | handedOn
  /-- Through an alias with other arguments, or to the default of a type parameter. -/
  | renewed
  deriving DecidableEq

/-- The way through an alias with the given parameters and arguments. -/
def Passage.through (view : List String) (parameters : List Reference.TypeParameter)
    (args : List Cursor) : Passage :=
  if parameters.isEmpty then .closed
  else if parameters.length ≤ args.length && args.all fun arg => (Form.ofNode arg).isInView view then
    .handedOn
  else .renewed

namespace Passage

variable {view : List String} {parameters : List Reference.TypeParameter} {args : List Cursor}

theorem through_ne_inward : through view parameters args ≠ .inward := by
  unfold through
  split
  · exact Passage.noConfusion
  · split <;> exact Passage.noConfusion

theorem eq_nil_of_closed (passage : through view parameters args = .closed) : parameters = [] := by
  unfold through at passage
  split at passage
  · next empty => exact List.isEmpty_iff.1 empty
  · split at passage <;> cases passage

/-- Arguments that are handed on are all there and in view. -/
theorem inView_of_handedOn (passage : through view parameters args = .handedOn) :
    parameters.length ≤ args.length ∧ ∀ arg ∈ args, (Form.ofNode arg).isInView view = true := by
  unfold through at passage
  split at passage
  · cases passage
  · split at passage
    · next handedOn => simpa using handedOn
    · cases passage

end Passage

/-- One node reads another. -/
inductive Reads (program : Program) : Site → Passage → Site → Prop where
  | operand {source : Source} {view : List String} {node inner : Cursor}
      (isOperand : inner ∈ (Form.ofNode node).operands node) :
      Reads program ⟨source, view, node⟩ .inward ⟨source, view, inner⟩
  /-- The defaults of the parameters behind the arguments are read. -/
  | fallback {source target : Source} {view : List String} {node inner : Cursor}
      {args : List Cursor} {binding : Module.Binding} {rest : List Module.Binding}
      {parameter : Reference.TypeParameter}
      (names : Names program source view (.ofNode node) args ⟨target, binding :: rest⟩)
      (isParameter : parameter ∈ binding.parameters.drop args.length)
      (isFallback : parameter.fallback = some inner) :
      Reads program ⟨source, view, node⟩ .renewed ⟨target, [], inner⟩
  | value {source target : Source} {view : List String} {node inner : Cursor}
      {args : List Cursor} {binding : Module.Binding} {rest : List Module.Binding}
      (names : Names program source view (.ofNode node) args ⟨target, binding :: rest⟩)
      (isAlias : binding.kind = .typeAlias) (isValue : binding.value? = some inner) :
      Reads program ⟨source, view, node⟩ (.through view binding.parameters args)
        ⟨target, binding.parameters.map (·.name), inner⟩

/-- One node leads to another through reads. -/
def LeadsTo (program : Program) : Site → Site → Prop :=
  Relation.ReflTransGen fun site inner => ∃ passage, Reads program site passage inner

/-- One node leads to another through reads that bring no new types into view. -/
def StaysUntil (program : Program) : Site → Site → Prop :=
  Relation.ReflTransGen fun site inner =>
    Reads program site .inward inner ∨ Reads program site .handedOn inner

/-- From one node on, a node is the first to be read with new types in view. -/
def Renews (program : Program) (origin inner : Site) : Prop :=
  ∃ site, StaysUntil program origin site ∧ Reads program site .renewed inner

/-- Reading a node unwinds if, wherever it leads, new types come into view only finitely often
before the next alias without parameters, and the type of a value is never asked for. -/
structure Unwinds (program : Program) (start : Site) : Prop where
  ends : ∀ site, LeadsTo program start site → Acc (flip (Renews program)) site
  valueless : ∀ site, LeadsTo program start site →
    ∀ target, Form.ofNode site.node ≠ .query target

theorem LeadsTo.of_staysUntil {program : Program} {site inner : Site}
    (stays : StaysUntil program site inner) : LeadsTo program site inner := by
  refine Relation.ReflTransGen.mono (fun _ _ reads => ?_) _ _ stays
  rcases reads with inward | handedOn
  · exact ⟨_, inward⟩
  · exact ⟨_, handedOn⟩

/-- If reading a node unwinds, so does reading all that it leads to. -/
theorem Unwinds.inside {program : Program} {site inner : Site} (unwinds : Unwinds program site)
    (leads : LeadsTo program site inner) : Unwinds program inner where
  ends _ further := unwinds.ends _ (leads.trans further)
  valueless _ further := unwinds.valueless _ (leads.trans further)

/-- Reading a node unwinds if it stays among nodes from which no new types come into view. -/
theorem Unwinds.of_closed {program : Program} {among : Site → Prop} {start : Site}
    (begins : among start)
    (closed : ∀ site passage inner, among site → Reads program site passage inner →
      among inner ∧ passage ≠ .renewed)
    (valueless : ∀ site, among site → ∀ target, Form.ofNode site.node ≠ .query target) :
    Unwinds program start := by
  have stays {site inner : Site} (here : among site) (leads : LeadsTo program site inner) :
      among inner := by
    induction leads with
    | refl => exact here
    | tail _ last ih =>
        obtain ⟨passage, reads⟩ := last
        exact (closed _ passage _ ih reads).1
  refine ⟨fun site leads => ⟨site, ?_⟩, fun site leads => valueless site (stays begins leads)⟩
  rintro inner ⟨mid, before, reads⟩
  have here := stays (stays begins leads) (LeadsTo.of_staysUntil before)
  exact absurd rfl (closed mid _ inner here reads).2

/-! ## Declarations of types -/

/-- The nodes that a declaration of a type reads: the defaults of its parameters, and the right
side if it is an alias. -/
inductive Opens (program : Program) (declaration : Declaration) : Site → Prop where
  | fallback {source : Source} {scope : Module.Scope} {binding : Module.Binding}
      {parameter : Reference.TypeParameter} {inner : Cursor}
      (found : Entries.find? (Path.normalize declaration.path) program.sources = some source)
      (read : source.scope = .ok scope)
      (listed : binding ∈ Inference.bindingsOf declaration.name scope.types ++
        Inference.bindingsOf declaration.name scope.values)
      (isParameter : parameter ∈ binding.parameters)
      (isFallback : parameter.fallback = some inner) : Opens program declaration ⟨source, [], inner⟩
  | value {source : Source} {scope : Module.Scope} {binding : Module.Binding} {inner : Cursor}
      (found : Entries.find? (Path.normalize declaration.path) program.sources = some source)
      (read : source.scope = .ok scope)
      (listed : binding ∈ Inference.bindingsOf declaration.name scope.types ++
        Inference.bindingsOf declaration.name scope.values)
      (isAlias : binding.kind = .typeAlias) (isValue : binding.value? = some inner) :
      Opens program declaration ⟨source, binding.parameters.map (·.name), inner⟩

end TypeGloss
