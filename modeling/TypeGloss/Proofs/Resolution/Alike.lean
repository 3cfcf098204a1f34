/-
# TypeGloss.Proofs.Resolution.Alike — documentation does not show numbers

What a reader of types is told holds types, and these are read over from one checker to
another that is alike. A documentation tree holds none: it is made of texts, names and
locations. So checkers that are alike make the same tree of the same type, whatever number
the type has with them (`resolveType_parallel`), and the same tree of a declaration
(`resolveDeclaration_parallel`).

The guard against cycles holds the numbers of the types that are being expanded. It is read
over as well, and since it asks only whether a type is one of them, both resolutions stop at
the same places.
-/
import TypeGloss.Proofs.Checker.AlikeParts
import TypeGloss.Proofs.Resolution.Cycle

namespace TypeGloss

set_option autoImplicit false

/-! ## Questions -/

namespace Checker

variable {o : Offset}

theorem text_parallel (t : TypeId) : Parallel o.Alike id (text t) (text (o.type t)) :=
  (Answer.uniform_ask o).text t

theorem simplified_parallel (t : TypeId) :
    Parallel o.Alike (Option.map o.type) (simplified t) (simplified (o.type t)) :=
  (Answer.uniform_ask o).simplified t

theorem symbol?_parallel (t : TypeId) :
    Parallel o.Alike (Option.map o.symbol) (symbol? t) (symbol? (o.type t)) :=
  (Check.facts_parallel t).bind fun _ => .done rfl

theorem name?_parallel (t : TypeId) : Parallel o.Alike id (name? t) (name? (o.type t)) :=
  (Check.facts_parallel t).bind fun _ => .done rfl

theorem arguments_parallel (t : TypeId) :
    Parallel o.Alike (List.map o.type) (arguments t) (arguments (o.type t)) :=
  (Check.facts_parallel t).bind fun _ => .done rfl

theorem literalValue_parallel (t : TypeId) :
    Parallel o.Alike id (literalValue t) (literalValue (o.type t)) :=
  (Check.facts_parallel t).bind fun _ => .done rfl

theorem primitive_parallel (t : TypeId) :
    Parallel o.Alike id (primitive t) (primitive (o.type t)) :=
  (Check.facts_parallel t).bind fun _ => .done rfl

theorem partOf?_parallel (categories : List Category) (t : TypeId) (part : Part) :
    Parallel o.Alike (Option.map (o.content part)) (partOf? categories t part)
      (partOf? categories (o.type t) part) := by
  refine (Check.category_parallel t).bind fun category => ?_
  dsimp only [id]
  split
  · exact (Answer.uniform_ask o).load? t part
  · exact .done rfl

theorem unionMembers_parallel (t : TypeId) :
    Parallel o.Alike (List.map o.type) (unionMembers t) (unionMembers (o.type t)) :=
  (partOf?_parallel _ t .members).bind fun found => .done (Offset.getD_map o.type found)

theorem intersectionMembers_parallel (t : TypeId) :
    Parallel o.Alike (List.map o.type) (intersectionMembers t)
      (intersectionMembers (o.type t)) :=
  (partOf?_parallel _ t .members).bind fun found => .done (Offset.getD_map o.type found)

theorem element?_parallel (t : TypeId) :
    Parallel o.Alike (Option.map o.type) (element? t) (element? (o.type t)) :=
  partOf?_parallel _ t .element

theorem tupleItems_parallel (t : TypeId) :
    Parallel o.Alike (List.map o.item) (tupleItems t) (tupleItems (o.type t)) :=
  (partOf?_parallel _ t .elements).bind fun found => .done (Offset.getD_map o.item found)

theorem enumMembers_parallel (t : TypeId) :
    Parallel o.Alike id (enumMembers t) (enumMembers (o.type t)) :=
  (partOf?_parallel _ t .enumMembers).bind fun found => .done (by cases found <;> rfl)

theorem classMembers_parallel (t : TypeId) :
    Parallel o.Alike (List.map o.symbol) (classMembers t) (classMembers (o.type t)) :=
  (partOf?_parallel _ t .classMembers).bind fun found => .done (Offset.getD_map o.symbol found)

theorem properties_parallel (t : TypeId) :
    Parallel o.Alike (List.map o.symbol) (properties t) (properties (o.type t)) :=
  (Answer.uniform_ask o).properties t

theorem indexes_parallel (t : TypeId) :
    Parallel o.Alike (List.map o.index) (indexes t) (indexes (o.type t)) :=
  (Answer.uniform_ask o).indexes t

theorem calls_parallel (t : TypeId) :
    Parallel o.Alike (List.map o.call) (calls t) (calls (o.type t)) :=
  (partOf?_parallel _ t .calls).bind fun found => .done (Offset.getD_map o.call found)

theorem constructs_parallel (t : TypeId) :
    Parallel o.Alike (List.map o.call) (constructs t) (constructs (o.type t)) :=
  (partOf?_parallel _ t .constructs).bind fun found => .done (Offset.getD_map o.call found)

theorem isAnonymousObject_parallel (t : TypeId) :
    Parallel o.Alike id (isAnonymousObject t) (isAnonymousObject (o.type t)) := by
  refine (Check.facts_parallel t).bind fun r => .done ?_
  obtain ⟨category, name, node, place, via, bindings, args, keyword, value, file, symbol, shape⟩ := r
  cases via <;> rfl

theorem typeOfSymbol_parallel (symbol : Symbol) :
    Parallel o.Alike o.type (typeOfSymbol symbol) (typeOfSymbol (o.symbol symbol)) :=
  (Answer.uniform_ask o).ofSymbol symbol

theorem typeOfDeclaration_parallel (declaration : Declaration) :
    Parallel o.Alike o.type (typeOfDeclaration declaration) (typeOfDeclaration declaration) :=
  (Answer.uniform_ask o).ofDeclaration declaration

theorem source_parallel (path : String) : Parallel o.Alike id (source path) (source path) := by
  refine Check.program_bind fun program other agrees => ?_
  rw [agrees.sources]
  split
  · exact .done rfl
  · exact .failed _

theorem visible?_parallel (source : Source) (name : String) (space : Lookup.Space) :
    Parallel o.Alike id (visible? source name space) (visible? source name space) := by
  refine (Lookup.lookup_parallel source name space).bind fun found => ?_
  cases found with
  | some found => exact .done rfl
  | none => exact Lookup.lookupExport_parallel source name space

theorem meaning?_parallel (source : Source) (name : String) :
    Parallel o.Alike id (meaning? source name) (meaning? source name) := by
  refine (visible?_parallel source name .types).bind fun found => ?_
  cases found with
  | some found => exact .done rfl
  | none => exact visible?_parallel source name .values

theorem declarationByName_parallel (path name : String) :
    Parallel o.Alike id (declarationByName path name) (declarationByName path name) := by
  refine Check.program_bind fun program other agrees => ?_
  rw [agrees.sources]
  split
  · exact .failed _
  · refine (meaning?_parallel _ name).bind fun found => ?_
    dsimp only [id]
    split
    · exact .done rfl
    · exact .failed _

theorem isExported_parallel (declaration : Declaration) :
    Parallel o.Alike id (isExported declaration) (isExported declaration) := by
  refine Check.program_bind fun program other agrees => ?_
  rw [agrees.sources]
  split
  · exact (Check.scopeOf_parallel _).bind fun _ => .done rfl
  · exact .done rfl

theorem typeLocation?_parallel (t : TypeId) :
    Parallel o.Alike id (typeLocation? t) (typeLocation? (o.type t)) := by
  refine (Check.facts_parallel t).bind fun r => ?_
  obtain ⟨category, name, node, place, via, bindings, args, keyword, value, file, symbol, shape⟩ := r
  cases node <;> cases place <;> exact .done rfl

theorem libraryLocation_parallel (t : TypeId) :
    Parallel o.Alike id (libraryLocation t) (libraryLocation (o.type t)) :=
  (Check.facts_parallel t).bind fun _ => .done rfl

theorem constantAt?_parallel (declaration : Declaration) (name : String) :
    Parallel o.Alike id (constantAt? declaration name) (constantAt? declaration name) :=
  Check.program_ofResult fun _ _ agrees => constantIn?_of_agrees agrees declaration name

theorem evaluationAt_parallel (declaration : Declaration) :
    Parallel o.Alike id (evaluationAt declaration) (evaluationAt declaration) := by
  refine Check.program_bind fun program other agrees => .done ?_
  simp only [constantIn?_of_agrees agrees, id]

theorem defaultOf_parallel (declaration : Declaration) (initializer : Option Cursor)
    (patterns : List Cursor) :
    Parallel o.Alike id (defaultOf declaration initializer patterns)
      (defaultOf declaration initializer patterns) :=
  (evaluationAt_parallel declaration).bind fun _ => Check.ofResult_parallel _

end Checker

section Readings

variable {o : Offset}

theorem Metadata.ofSymbol_parallel (symbol : Symbol) (enclosing : Option Declaration) :
    Parallel o.Alike id (ofSymbol symbol enclosing) (ofSymbol (o.symbol symbol) enclosing) := by
  unfold ofSymbol
  dsimp only [Offset.symbol_declaration]
  split
  · split
    · exact .done rfl
    · exact (Checker.isExported_parallel _).bind fun _ => .done rfl
  · exact .done rfl

namespace Context

theorem locate_parallel (t : TypeId) (symbol : Option Symbol) (enclosing : Option Declaration) :
    Parallel o.Alike id (locate t symbol enclosing)
      (locate (o.type t) (symbol.map o.symbol) enclosing) := by
  have declared : (symbol.map o.symbol).bind Symbol.declaration = symbol.bind Symbol.declaration := by
    cases symbol <;> rfl
  unfold locate
  rw [declared]
  split
  · exact .done rfl
  · refine (Checker.typeLocation?_parallel t).bind fun location => ?_
    dsimp only [id]
    split
    · exact .done rfl
    · exact .done rfl
    · exact Checker.libraryLocation_parallel t

theorem ofType_parallel (t : TypeId) (enclosing : Option Declaration) :
    Parallel o.Alike id (ofType t enclosing) (ofType (o.type t) enclosing) := by
  refine (Checker.text_parallel t).bind fun text => ?_
  refine (Checker.symbol?_parallel t).bind fun symbol => ?_
  refine (Parallel.option (fun symbol => Metadata.ofSymbol_parallel symbol enclosing) symbol).bind
    fun metadata => ?_
  refine (locate_parallel t symbol enclosing).bind fun location => .done ?_
  simp only [Option.map_id_fun, id]

end Context

end Readings

/-! ## Resolutions that are alike -/

/-- Two resolutions of checkers that are alike, in which the same types are being
expanded. -/
structure Resolution.Alike (o : Offset) (resolution other : Resolution) : Prop where
  checker : o.Alike resolution.checker other.checker
  guard : other.guard.active = resolution.guard.active.map o.type

/-- What is let go from one guard is let go from the other. -/
theorem CycleGuard.active_leave {o : Offset} {guard other : CycleGuard TypeId}
    (same : other.active = guard.active.map o.type) (t : TypeId) :
    (other.leave (o.type t)).active = (guard.leave t).active.map o.type := by
  have others : (fun u => decide (u ≠ o.type t)) ∘ o.type = fun u => decide (u ≠ t) := by
    funext u
    simp
  simp only [leave, same, List.filter_map, others]

namespace Parallel

open Resolution (Alike)

variable {o : Offset} {α β γ δ : Type}

/-- Questions to checkers that are alike have answers that are. -/
theorem asked {f : α → β} {question : CheckM α} {question' : CheckM β}
    (parallel : Parallel o.Alike f question question') :
    Parallel (Alike o) f (liftM question : ResolveM α) (liftM question' : ResolveM β) := by
  intro resolution other alike
  obtain ⟨result, left⟩ := parallel alike.checker
  exact ⟨result, left, alike.guard⟩

/-- A question whose answer is used for what follows. -/
theorem askThen {f : α → β} {g : γ → δ} {question : CheckM α} {question' : CheckM β}
    {k : α → ResolveM γ} {k' : β → ResolveM δ} (parallel : Parallel o.Alike f question question')
    (rest : ∀ a, Parallel (Alike o) g (k a) (k' (f a))) :
    Parallel (Alike o) g (liftM question >>= k) (liftM question' >>= k') :=
  (asked parallel).bind rest

/-- A type is being expanded in both, or in neither. -/
theorem expanding {f : α → β} {body : Bool → ResolveM α} {body' : Bool → ResolveM β}
    (each : ∀ entered, Parallel (Alike o) f (body entered) (body' entered)) (t : TypeId) :
    Parallel (Alike o) f (ResolveM.expanding t body) (ResolveM.expanding (o.type t) body') := by
  intro resolution other alike
  have among : o.type t ∈ other.guard.active ↔ t ∈ resolution.guard.active := by
    rw [alike.guard, List.mem_map_of_injective o.type_injective]
  by_cases present : t ∈ resolution.guard.active
  · have entered := CycleGuard.enter_of_mem present
    have entered' := CycleGuard.enter_of_mem (among.2 present)
    simp only [outcome, after, Resolution.run_expanding t body resolution entered,
      Resolution.run_expanding (o.type t) body' other entered']
    exact each false alike
  · have entered := CycleGuard.enter_of_not_mem present
    have entered' := CycleGuard.enter_of_not_mem (mt among.1 present)
    have inside : Alike o ⟨resolution.checker, ⟨t :: resolution.guard.active⟩⟩
        ⟨other.checker, ⟨o.type t :: other.guard.active⟩⟩ :=
      ⟨alike.checker, by rw [alike.guard, List.map_cons]⟩
    obtain ⟨result, left⟩ := each true inside
    simp only [outcome, after, Resolution.run_expanding t body resolution entered,
      Resolution.run_expanding (o.type t) body' other entered']
    exact ⟨result, left.checker, CycleGuard.active_leave left.guard t⟩

end Parallel

/-! ## Builders -/

namespace Builder

open Parallel (askThen)

variable {o : Offset}

theorem attachDefault_parallel (declaration : Option Declaration) (patterns : List Cursor)
    (node : Node) :
    Parallel (Resolution.Alike o) id (attachDefault declaration patterns node)
      (attachDefault declaration patterns node) := by
  unfold attachDefault
  cases declaration with
  | none => exact .done rfl
  | some declaration =>
      dsimp only
      split
      · exact .done rfl
      · refine askThen (Checker.defaultOf_parallel _ _ _) fun value => ?_
        cases value <;> exact .done rfl

theorem primitive_parallel (t : TypeId) (category : Category) (context : Context) :
    Parallel (Resolution.Alike o) id (primitive t category context)
      (primitive (o.type t) category context) := by
  unfold primitive
  refine askThen (Checker.primitive_parallel t) fun keyword => ?_
  dsimp only
  split
  · exact askThen (Checker.literalValue_parallel t) fun _ => .done rfl
  · exact .done rfl

theorem parameterCategory_parallel (symbol : Symbol) :
    Parallel o.Alike id (parameterCategory symbol) (parameterCategory (o.symbol symbol)) := by
  refine (Checker.typeOfSymbol_parallel symbol).bind fun t => ?_
  refine (Checker.simplified_parallel t).bind fun simple => ?_
  cases simple with
  | none => exact Check.category_parallel t
  | some simple => exact Check.category_parallel simple

theorem isFlattened_parallel (plan : Plan) (t : TypeId) :
    Parallel o.Alike id (isFlattened plan t) (isFlattened plan (o.type t)) := by
  unfold isFlattened
  split
  · exact .done rfl
  · refine (Checker.simplified_parallel t).bind fun simple => ?_
    cases simple with
    | none => exact .done rfl
    | some simple => exact Checker.isAnonymousObject_parallel simple

theorem getterType_parallel (calls : List CallSignature) :
    Parallel o.Alike id (getterType calls) (getterType (calls.map o.call)) := by
  cases calls with
  | nil => exact .done rfl
  | cons call rest => exact Checker.text_parallel call.returnType

/-- The first parameter of the first signature is the same one in both. -/
theorem first_parameter_map (calls : List CallSignature) :
    ((calls.map o.call).head?.bind fun call => call.parameters.head?) =
      (calls.head?.bind fun call => call.parameters.head?).map o.symbol := by
  cases calls with
  | nil => rfl
  | cons call rest => exact List.head?_map

theorem isShown_symbol (plan : Plan) (symbol : Symbol) :
    isShown plan (o.symbol symbol) = isShown plan symbol := rfl

section Below

variable {below : Below}
  (resolved : ∀ t enclosing,
    Parallel (Resolution.Alike o) id (below t enclosing) (below (o.type t) enclosing))

include resolved

theorem property_parallel (plan : Plan) (symbol : Symbol) :
    Parallel (Resolution.Alike o) id (property plan below symbol)
      (property plan below (o.symbol symbol)) := by
  unfold property
  refine askThen (Metadata.ofSymbol_parallel symbol none) fun metadata => ?_
  refine askThen (Checker.typeOfSymbol_parallel symbol) fun t => ?_
  dsimp only [id]
  split
  · refine askThen (Checker.text_parallel t) fun text => ?_
    exact askThen (Context.locate_parallel t (some symbol) _) fun _ => .done rfl
  · refine (resolved t symbol.declaration).bind fun node => ?_
    cases node with
    | none => exact .done rfl
    | some node => exact (attachDefault_parallel symbol.declaration [] _).map fun _ => rfl

theorem properties_parallel (plan : Plan) (symbols : List Symbol) :
    Parallel (Resolution.Alike o) id (properties plan below symbols)
      (properties plan below (symbols.map o.symbol)) := by
  refine Parallel.bind (f := id) ?_ fun nodes => .done rfl
  exact (Parallel.mapM (property_parallel resolved plan) symbols).congr List.map_id

theorem parameter_parallel (symbol : Symbol) :
    Parallel (Resolution.Alike o) id (parameter below symbol)
      (parameter below (o.symbol symbol)) := by
  unfold parameter
  refine askThen (Checker.typeOfSymbol_parallel symbol) fun t => ?_
  refine (resolved t symbol.declaration).bind fun node => ?_
  cases node with
  | none => exact .done rfl
  | some node => exact (attachDefault_parallel symbol.declaration _ _).map fun _ => rfl

theorem signature_parallel (call : CallSignature) :
    Parallel (Resolution.Alike o) id (signature below call) (signature below (o.call call)) := by
  unfold signature
  refine ((Parallel.mapM (parameter_parallel resolved) call.parameters).congr List.map_id).bind
    fun parameters => ?_
  exact askThen (Checker.text_parallel call.returnType) fun _ => .done rfl

theorem signatures_parallel (calls : List CallSignature) :
    Parallel (Resolution.Alike o) id (calls.mapM (signature below))
      ((calls.map o.call).mapM (signature below)) :=
  (Parallel.mapM (signature_parallel resolved) calls).congr List.map_id

theorem componentSignature_parallel (call : CallSignature) :
    Parallel (Resolution.Alike o) id (componentSignature below call)
      (componentSignature below (o.call call)) := by
  have returning (props : Option Node) :
      Parallel (Resolution.Alike o) id
        (do
          let returnType ← (Checker.text call.returnType : CheckM _)
          return .mk .componentSignature call.text props returnType call.modifier :
          ResolveM ComponentSignature)
        (do
          let returnType ← (Checker.text (o.type call.returnType) : CheckM _)
          return .mk .componentSignature call.text props returnType call.modifier :
          ResolveM ComponentSignature) :=
    askThen (Checker.text_parallel call.returnType) fun _ => .done rfl
  unfold componentSignature
  rw [Offset.call_parameters]
  cases call.parameters with
  | nil => exact returning none
  | cons first rest => exact (parameter_parallel resolved first).bind returning

theorem callable_parallel (plan : Plan) (t : TypeId) (context : Context) :
    Parallel (Resolution.Alike o) id (callable plan below t context)
      (callable plan below (o.type t) context) := by
  -- Whatever the categories of the parameters are, the signatures are built in one of
  -- two ways.
  have built (calls : List CallSignature) (isComponent : Bool) :
      Parallel (Resolution.Alike o) id
        (if isComponent = true then do
            return .component (context.header .component)
              (← calls.mapM (componentSignature below))
          else do
            return .function (context.header .function) (← calls.mapM (signature below)) :
          ResolveM Node)
        (if isComponent = true then do
            return .component (context.header .component)
              (← (calls.map o.call).mapM (componentSignature below))
          else do
            return .function (context.header .function)
              (← (calls.map o.call).mapM (signature below)) : ResolveM Node) := by
    split
    · exact ((Parallel.mapM (componentSignature_parallel resolved) calls).congr
        List.map_id).bind fun _ => .done rfl
    · exact (signatures_parallel resolved calls).bind fun _ => .done rfl
  unfold callable
  refine askThen (Checker.calls_parallel t) fun calls => ?_
  cases calls with
  | nil => exact built [] _
  | cons first rest =>
      have asked (symbol : Symbol) := Parallel.asked (parameterCategory_parallel (o := o) symbol)
      refine Parallel.bind (f := id) ?_ fun categories => built (first :: rest) _
      exact (Parallel.mapM (h := o.symbol) asked first.parameters).congr List.map_id

theorem kept_parallel (context : Context) (t : TypeId) :
    Parallel (Resolution.Alike o) id (kept below context t) (kept below context (o.type t)) := by
  refine (resolved t none).bind fun node => ?_
  cases node with
  | none => exact askThen (Checker.text_parallel t) fun _ => .done rfl
  | some node => exact .done rfl

theorem index_parallel (context : Context) (entry : IndexEntry) :
    Parallel (Resolution.Alike o) id (index below context entry)
      (index below context (o.index entry)) :=
  (kept_parallel resolved context entry.keyType).bind fun _ =>
    (kept_parallel resolved context entry.valueType).bind fun _ => .done rfl

theorem object_parallel (plan : Plan) (t : TypeId) (context : Context) :
    Parallel (Resolution.Alike o) id (object plan below t context)
      (object plan below (o.type t) context) := by
  unfold object
  refine askThen (Checker.indexes_parallel t) fun entries => ?_
  refine ((Parallel.mapM (index_parallel resolved context) entries).congr List.map_id).bind
    fun indexes => ?_
  refine askThen (Checker.properties_parallel t) fun symbols => ?_
  exact (properties_parallel resolved plan symbols).bind fun _ => .done rfl

theorem objectOrCallable_parallel (plan : Plan) (t : TypeId) (context : Context) :
    Parallel (Resolution.Alike o) id (objectOrCallable plan below t context)
      (objectOrCallable plan below (o.type t) context) := by
  have either (calls : List CallSignature) :
      Parallel (Resolution.Alike o) id
        (if calls.isEmpty = true then object plan below t context
          else callable plan below t context)
        (if (calls.map o.call).isEmpty = true then object plan below (o.type t) context
          else callable plan below (o.type t) context) := by
    rw [List.isEmpty_map]
    split
    · exact object_parallel resolved plan t context
    · exact callable_parallel resolved plan t context
  unfold objectOrCallable
  refine askThen (Checker.properties_parallel t) fun symbols => ?_
  rw [List.isEmpty_map]
  dsimp only
  split
  · exact askThen (Checker.calls_parallel t) either
  · exact either []

theorem union_parallel (t : TypeId) (context : Context) :
    Parallel (Resolution.Alike o) id (union below t context)
      (union below (o.type t) context) := by
  unfold union
  refine askThen (Checker.unionMembers_parallel t) fun members => ?_
  refine Parallel.bind (f := id) ?_ fun nodes => .done rfl
  exact (Parallel.mapM (fun member => resolved member none) members).congr List.map_id

theorem constituent_parallel (plan : Plan) (t : TypeId) :
    Parallel (Resolution.Alike o) id (constituent plan below t)
      (constituent plan below (o.type t)) := by
  unfold constituent
  refine askThen (isFlattened_parallel plan t) fun flattened => ?_
  dsimp only [id]
  split
  · exact askThen (Checker.properties_parallel t) (properties_parallel resolved plan)
  · exact (resolved t none).bind fun _ => .done rfl

theorem intersection_parallel (plan : Plan) (t : TypeId) (context : Context) :
    Parallel (Resolution.Alike o) id (intersection plan below t context)
      (intersection plan below (o.type t) context) := by
  unfold intersection
  refine askThen (Checker.intersectionMembers_parallel t) fun members => ?_
  refine Parallel.bind (f := id) ?_ fun nodes => .done rfl
  exact (Parallel.mapM (constituent_parallel resolved plan) members).congr List.map_id

theorem array_parallel (t : TypeId) (context : Context) :
    Parallel (Resolution.Alike o) id (array below t context)
      (array below (o.type t) context) := by
  unfold array
  refine askThen (Checker.element?_parallel t) fun element => ?_
  cases element with
  | none => exact .done rfl
  | some element => exact (kept_parallel resolved context element).bind fun _ => .done rfl

theorem tuple_parallel (t : TypeId) (context : Context) :
    Parallel (Resolution.Alike o) id (tuple below t context)
      (tuple below (o.type t) context) := by
  unfold tuple
  refine askThen (Checker.tupleItems_parallel t) fun items => ?_
  refine Parallel.bind (f := id) ?_ fun nodes => .done rfl
  refine (Parallel.mapM (fun item => ?_) items).congr List.map_id
  exact (resolved item.type none).bind fun _ => .done rfl

theorem generic_parallel (t : TypeId) (context : Context) :
    Parallel (Resolution.Alike o) id (generic below t context)
      (generic below (o.type t) context) := by
  unfold generic
  refine askThen (Checker.arguments_parallel t) fun args => ?_
  refine ((Parallel.mapM (kept_parallel resolved context) args).congr List.map_id).bind
    fun nodes => ?_
  exact askThen (Checker.name?_parallel t) fun _ => .done rfl

/-! ## Classes -/

theorem method_parallel (symbol : Symbol) :
    Parallel (Resolution.Alike o) id (method below symbol) (method below (o.symbol symbol)) := by
  unfold method
  refine askThen (Checker.typeOfSymbol_parallel symbol) fun t => ?_
  refine askThen (Checker.text_parallel t) fun text => ?_
  refine askThen (Checker.calls_parallel t) fun calls => ?_
  refine (signatures_parallel resolved calls).bind fun signatures => ?_
  exact askThen (Metadata.ofSymbol_parallel symbol none) fun _ => .done rfl

theorem accessor_parallel (symbol : Symbol) :
    Parallel (Resolution.Alike o) id (accessor below symbol)
      (accessor below (o.symbol symbol)) := by
  unfold accessor
  refine askThen (Checker.typeOfSymbol_parallel symbol) fun t => ?_
  refine askThen (Checker.calls_parallel t) fun calls => ?_
  refine askThen (Metadata.ofSymbol_parallel symbol none) fun metadata => ?_
  rw [Offset.symbol_kind]
  split
  · exact askThen (getterType_parallel calls) fun _ => .done rfl
  · rw [first_parameter_map]
    cases calls.head?.bind fun call => call.parameters.head? with
    | none => exact .done rfl
    | some first => exact (parameter_parallel resolved first).bind fun _ => .done rfl

theorem addMember_parallel (plan : Plan) (parts : ClassParts) (symbol : Symbol) :
    Parallel (Resolution.Alike o) id (addMember plan below parts symbol)
      (addMember plan below parts (o.symbol symbol)) := by
  unfold addMember
  rw [isShown_symbol, Offset.symbol_kind]
  split
  · exact .done rfl
  · split
    · exact (property_parallel resolved plan symbol).bind fun _ => .done rfl
    · exact (method_parallel resolved symbol).bind fun _ => .done rfl
    · exact (accessor_parallel resolved symbol).bind fun _ => .done rfl
    · exact (accessor_parallel resolved symbol).bind fun _ => .done rfl
    · exact .done rfl

theorem classType_parallel (plan : Plan) (t : TypeId) (context : Context) :
    Parallel (Resolution.Alike o) id (classType plan below t context)
      (classType plan below (o.type t) context) := by
  unfold classType
  refine askThen (Checker.classMembers_parallel t) fun symbols => ?_
  refine (Parallel.foldlM (addMember_parallel resolved plan) symbols {}).bind fun parts => ?_
  refine askThen (Checker.constructs_parallel t) fun constructs => ?_
  exact (signatures_parallel resolved constructs).bind fun _ => .done rfl

theorem expanded_parallel (plan : Plan) (t : TypeId) (category : Category)
    (context : Context) :
    Parallel (Resolution.Alike o) id (expanded plan below t category context)
      (expanded plan below (o.type t) category context) := by
  cases category with
  | object => exact objectOrCallable_parallel resolved plan t context
  | union => exact union_parallel resolved t context
  | intersection => exact intersection_parallel resolved plan t context
  | array => exact array_parallel resolved t context
  | tuple => exact tuple_parallel resolved t context
  | function => exact callable_parallel resolved plan t context
  | classType => exact classType_parallel resolved plan t context
  | enum => exact askThen (Checker.enumMembers_parallel t) fun _ => .done rfl
  | generic => exact generic_parallel resolved t context
  | primitive => exact .done rfl
  | literal => exact .done rfl
  | named => exact .done rfl
  | computed => exact .done rfl

end Below

end Builder

/-! ## Documentation trees -/

namespace Resolution

open Parallel (askThen)

variable {o : Offset}

theorem visit_parallel (plan : Plan) {descend : TypeId → Category → Context → ResolveM Node}
    (descended : ∀ t category context,
      Parallel (Alike o) id (descend t category context) (descend (o.type t) category context))
    (t : TypeId) (enclosing : Option Declaration) :
    Parallel (Alike o) id (visit plan descend t enclosing)
      (visit plan descend (o.type t) enclosing) := by
  unfold visit
  refine askThen (Checker.simplified_parallel t) fun simple => ?_
  cases simple with
  | none => exact askThen (Checker.text_parallel t) fun _ => .done rfl
  | some t =>
      refine askThen (Check.category_parallel t) fun category => ?_
      refine askThen (Context.ofType_parallel t enclosing) fun context => ?_
      dsimp only [id]
      split
      · exact (Builder.primitive_parallel t category context).map fun _ => rfl
      · split
        · exact .done rfl
        · exact (descended t category context).map fun _ => rfl

theorem resolve_parallel (plan : Plan) (remaining : Nat) (t : TypeId)
    (enclosing : Option Declaration) :
    Parallel (Alike o) id (resolve plan remaining t enclosing)
      (resolve plan remaining (o.type t) enclosing) := by
  induction remaining generalizing t enclosing with
  | zero => exact visit_parallel plan (fun _ _ _ => .done rfl) t enclosing
  | succ fewer ih =>
      refine visit_parallel plan (fun t category context => ?_) t enclosing
      refine .expanding (fun entered => ?_) t
      split
      · exact Builder.expanded_parallel ih plan t category context
      · exact .done rfl

/-- A resolution begins with nothing being expanded. -/
theorem run_parallel {α β : Type} {f : α → β} {body : ResolveM α} {body' : ResolveM β}
    (parallel : Parallel (Alike o) f body body') : Parallel o.Alike f (run body) (run body') := by
  intro s s' alike
  have start : Alike o { checker := s } { checker := s' } := ⟨alike, rfl⟩
  obtain ⟨result, left⟩ := parallel start
  exact ⟨result, left.checker⟩

theorem resolveType_parallel (plan : Plan) (t : TypeId) (declaration : Option Declaration) :
    Parallel o.Alike id (resolveType plan t declaration)
      (resolveType plan (o.type t) declaration) := by
  refine (run_parallel (resolve_parallel plan _ t declaration)).bind fun node => ?_
  cases declaration <;> exact .done rfl

theorem resolveProperties_parallel (plan : Plan) (t : TypeId)
    (declaration : Option Declaration) :
    Parallel o.Alike id (resolveProperties plan t declaration)
      (resolveProperties plan (o.type t) declaration) := by
  refine (resolveType_parallel plan t declaration).bind fun node => ?_
  dsimp only [id]
  split
  · exact .done rfl
  · exact .done rfl

theorem resolveDeclaration_parallel (plan : Plan) (path name : String) :
    Parallel o.Alike id (resolveDeclaration plan path name)
      (resolveDeclaration plan path name) := by
  refine (Checker.declarationByName_parallel path name).bind fun declaration => ?_
  refine (Checker.typeOfDeclaration_parallel declaration).bind fun t => ?_
  exact resolveType_parallel plan t (some declaration)

end Resolution

end TypeGloss
