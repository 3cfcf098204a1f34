/-
# TypeGloss.Proofs.Resolution.Comparison — builders do not look below

A builder makes the node of a type out of what the types below it are resolved to, and
it has no other means: it asks the checker, it lets types below be resolved, and it puts
the results together. So whatever can be said of two ways to resolve the types below can
be said of the nodes built with them.

A `Comparison` is a relation between two runs of a resolution that is kept by doing one
thing after another and by asking the checker. `expanded_follows` says that every
comparison of two ways to resolve the types below carries over to the nodes that are
built with them, and that these nodes are nested one level deeper. It is proved once for
every builder and used with different comparisons.
-/
import TypeGloss.Proofs.Checker.Inquiry
import TypeGloss.Proofs.Documentation.Nesting
import TypeGloss.Resolution

namespace TypeGloss

set_option autoImplicit false

/-- A relation between two runs of a resolution, of which the second follows the first
and what they return has a property. -/
structure Comparison where
  follows : {α : Type} → (α → Prop) → ResolveM α → ResolveM α → Prop
  done {α : Type} {P : α → Prop} {a : α} (holds : P a) : follows P (pure a) (pure a)
  andThen {α β : Type} {P : α → Prop} {Q : β → Prop} {x y : ResolveM α}
    {f g : α → ResolveM β} (first : follows P x y) (rest : ∀ a, P a → follows Q (f a) (g a)) :
    follows Q (x >>= f) (y >>= g)
  asked {α : Type} {question : CheckM α} (inquiry : Inquiry question) :
    follows (fun _ => True) (liftM question) (liftM question)

namespace Comparison

variable (c : Comparison)

/-- An inquiry whose answer is used for what follows. -/
theorem askThen {α β : Type} {Q : β → Prop} {question : CheckM α} {f g : α → ResolveM β}
    (inquiry : Inquiry question) (rest : ∀ a, c.follows Q (f a) (g a)) :
    c.follows Q (liftM question >>= f) (liftM question >>= g) :=
  c.andThen (c.asked inquiry) fun a _ => rest a

/-- A value that is known already and used for what follows. -/
theorem doneThen {α β : Type} {Q : β → Prop} {a : α} {f g : α → ResolveM β}
    (rest : c.follows Q (f a) (g a)) : c.follows Q (pure a >>= f) (pure a >>= g) := by
  simpa only [pure_bind] using rest

/-- What follows a step can be changed by a function that keeps the promise. -/
theorem map {α β : Type} {P : α → Prop} {Q : β → Prop} {x y : ResolveM α} {f : α → β}
    (first : c.follows P x y) (rest : ∀ a, P a → Q (f a)) :
    c.follows Q (f <$> x) (f <$> y) := by
  simp only [map_eq_pure_bind]
  exact c.andThen first fun a holds => c.done (rest a holds)

/-- Two lists of visits that follow one another item by item do so as a whole. -/
theorem mapM {α β : Type} {P : β → Prop} {f g : α → ResolveM β}
    (each : ∀ a, c.follows P (f a) (g a)) (items : List α) :
    c.follows (fun results => ∀ b ∈ results, P b) (items.mapM f) (items.mapM g) := by
  induction items with
  | nil =>
      simp only [List.mapM_nil]
      exact c.done (by simp)
  | cons a rest ih =>
      simp only [List.mapM_cons]
      refine c.andThen (each a) fun b holds => c.andThen ih fun more all => c.done ?_
      simpa using ⟨holds, all⟩

/-- A fold follows another if each step does and keeps the promise. -/
theorem foldlM {α β : Type} {P : β → Prop} {f g : β → α → ResolveM β}
    (each : ∀ b a, P b → c.follows P (f b a) (g b a)) (items : List α) (start : β)
    (holds : P start) : c.follows P (items.foldlM f start) (items.foldlM g start) := by
  induction items generalizing start with
  | nil =>
      simp only [List.foldlM_nil]
      exact c.done holds
  | cons a rest ih =>
      simp only [List.foldlM_cons]
      exact c.andThen (each start a holds) fun next kept => ih next kept

end Comparison

/-! ## What builders ask -/

namespace Inquiry

theorem locate (t : TypeId) (symbol : Option Symbol) (enclosing : Option Declaration) :
    Inquiry (Context.locate t symbol enclosing) := by
  unfold Context.locate
  split
  · exact .done _
  · refine .andThen (.typeLocation t) fun location => ?_
    split
    · exact .done _
    · exact .done _
    · exact .libraryLocation t

theorem contextOf (t : TypeId) (enclosing : Option Declaration) :
    Inquiry (Context.ofType t enclosing) := by
  unfold Context.ofType
  refine .andThen (.text t) fun text => .andThen (.symbol t) fun symbol => ?_
  refine .andThen ?_ fun metadata => .andThen (.locate t symbol enclosing) fun _ => .done _
  cases symbol with
  | none => exact .done _
  | some symbol => exact .andThen (.ofSymbol symbol enclosing) fun _ => .done _

theorem parameterCategory (symbol : Symbol) : Inquiry (Builder.parameterCategory symbol) := by
  unfold Builder.parameterCategory
  refine .andThen (.typeOfSymbol symbol) fun t => .andThen (.simplified t) fun simple => ?_
  split
  · exact .category _
  · exact .category t

theorem isFlattened (plan : Plan) (t : TypeId) : Inquiry (Builder.isFlattened plan t) := by
  unfold Builder.isFlattened
  split
  · exact .done false
  · refine .andThen (.simplified t) fun simple => ?_
    split
    · exact .isAnonymousObject _
    · exact .done false

theorem getterType (calls : List CallSignature) : Inquiry (Builder.getterType calls) := by
  unfold Builder.getterType
  split
  · exact .text _
  · exact .done "any"

end Inquiry

/-! ## Builders -/

namespace Node

/-- A result of resolving a type, which may have come to nothing, is shallow. -/
def MaybeShallow (bound : Nat) : Option Node → Prop
  | none => True
  | some node => node.Shallow bound

@[simp] theorem maybeShallow_none (bound : Nat) : MaybeShallow bound none := trivial

@[simp] theorem maybeShallow_some {bound : Nat} {node : Node} :
    MaybeShallow bound (some node) ↔ node.Shallow bound := Iff.rfl

theorem MaybeShallow.toList {bound : Nat} {result : Option Node}
    (shallow : MaybeShallow bound result) : ∀ node ∈ result.toList, node.Shallow bound := by
  cases result with
  | none => simp
  | some node => simpa using shallow

/-- A change of headers makes no node deeper. -/
theorem MaybeShallow.map {bound : Nat} {result : Option Node}
    (shallow : MaybeShallow bound result) (f : Header → Header) :
    MaybeShallow bound (result.map (Node.mapHeader f)) := by
  cases result with
  | none => trivial
  | some node => exact (shallow_mapHeader f).2 shallow

/-- Nodes that are there nest no deeper than the results they are taken from. -/
theorem Shallow.filterMap {bound : Nat} {results : List (Option Node)}
    (shallow : ∀ result ∈ results, MaybeShallow bound result) :
    ∀ node ∈ results.filterMap id, node.Shallow bound := by
  intro node member
  obtain ⟨result, among, found⟩ := List.mem_filterMap.1 member
  obtain rfl : result = some node := found
  exact shallow _ among

end Node

theorem Context.shallow_reference (context : Context) (bound : Nat) :
    context.reference.Shallow bound :=
  Node.shallow_of_leaf rfl bound

theorem Context.shallow_referenceTo (context : Context) (text : String) (bound : Nat) :
    (context.referenceTo text).Shallow bound :=
  Node.shallow_of_leaf rfl bound

namespace Builder

open Node (MaybeShallow)

theorem mem_getD_nonempty {α : Type} {items : List α} {a : α} :
    a ∈ (nonempty items).getD [] ↔ a ∈ items := by
  cases items <;> simp [nonempty]

section Builders

variable (c : Comparison) {bound : Nat} {first second : Below}
  (below : ∀ t enclosing,
    c.follows (MaybeShallow bound) (first t enclosing) (second t enclosing))

/-- A default that is attached makes no node deeper. -/
theorem attachDefault_follows (declaration : Option Declaration) (patterns : List Cursor)
    (node : Node) (shallow : node.Shallow bound) :
    c.follows (Node.Shallow bound) (attachDefault declaration patterns node)
      (attachDefault declaration patterns node) := by
  unfold attachDefault
  cases declaration with
  | none => exact c.done shallow
  | some declaration =>
      dsimp only
      split
      · exact c.done shallow
      · refine c.askThen (.defaultOf _ _ _) fun value => ?_
        split
        · exact c.done (shallow.assignDefault _)
        · exact c.done shallow

theorem primitive_follows (t : TypeId) (category : Category) (context : Context) :
    c.follows (Node.Shallow bound) (primitive t category context)
      (primitive t category context) := by
  unfold primitive
  refine c.askThen (.primitive t) fun keyword => ?_
  dsimp only
  split
  · exact c.askThen (.literalValue t) fun value => c.done (Node.shallow_of_leaf rfl bound)
  · exact c.doneThen (c.done (Node.shallow_of_leaf rfl bound))

include below

theorem property_follows (plan : Plan) (symbol : Symbol) :
    c.follows (MaybeShallow bound) (property plan first symbol) (property plan second symbol) := by
  unfold property
  refine c.askThen (.ofSymbol symbol none) fun metadata => ?_
  refine c.askThen (.typeOfSymbol symbol) fun t => ?_
  split
  · refine c.askThen (.text t) fun text => c.askThen (.locate t _ _) fun location => c.done ?_
    exact Context.shallow_reference _ bound
  · refine c.andThen (below t symbol.declaration) fun result shallow => ?_
    cases result with
    | none => exact c.done (Node.maybeShallow_none bound)
    | some node =>
        have noted := (Node.shallow_mapHeader (propertyHeader symbol metadata)).2 shallow
        exact c.map (attachDefault_follows c _ _ _ noted) fun _ kept => kept

/-- The properties of both resolutions nest below the bound, and what the first has is in the
second. -/
theorem properties_follows (plan : Plan) (symbols : List Symbol) :
    c.follows (fun nodes => ∀ node ∈ nodes, Node.Shallow bound node)
      (properties plan first symbols) (properties plan second symbols) := by
  unfold properties
  exact c.andThen (c.mapM (property_follows c below plan) symbols) fun results shallow =>
    c.done (Node.Shallow.filterMap shallow)

theorem parameter_follows (symbol : Symbol) :
    c.follows (MaybeShallow bound) (parameter first symbol) (parameter second symbol) := by
  unfold parameter
  refine c.askThen (.typeOfSymbol symbol) fun t => ?_
  refine c.andThen (below t symbol.declaration) fun result shallow => ?_
  cases result with
  | none => exact c.done (Node.maybeShallow_none bound)
  | some node =>
      have noted := (Node.shallow_mapHeader (parameterHeader symbol)).2 shallow
      exact c.map (attachDefault_follows c _ _ _ noted) fun _ kept => kept

/-- The nodes in a signature are no deeper than what is resolved below. -/
theorem signature_follows (call : CallSignature) :
    c.follows (fun found => ∀ node ∈ found.nodes, Node.Shallow bound node)
      (signature first call) (signature second call) := by
  unfold signature
  refine c.andThen (c.mapM (parameter_follows c below) call.parameters) fun results shallow => ?_
  exact c.askThen (.text _) fun returnType => c.done (Node.Shallow.filterMap shallow)

theorem componentSignature_follows (call : CallSignature) :
    c.follows (fun found => ∀ node ∈ found.nodes, Node.Shallow bound node)
      (componentSignature first call) (componentSignature second call) := by
  unfold componentSignature
  dsimp only
  split
  · refine c.andThen (parameter_follows c below _) fun props shallow => ?_
    exact c.askThen (.text _) fun returnType => c.done shallow.toList
  · refine c.andThen (c.done (Node.maybeShallow_none bound)) fun props shallow => ?_
    exact c.askThen (.text _) fun returnType => c.done shallow.toList

/-- A callable is one level deeper than what is resolved below. -/
theorem callable_follows (plan : Plan) (t : TypeId) (context : Context) :
    c.follows (Node.Shallow (bound + 1)) (callable plan first t context)
      (callable plan second t context) := by
  -- Whatever the categories of the parameters are, the signatures are built in one of
  -- two ways.
  have built (calls : List CallSignature) (isComponent : Bool) :
      c.follows (Node.Shallow (bound + 1))
        (if isComponent = true then do
            return .component (context.header .component)
              (← calls.mapM (componentSignature first))
          else do return .function (context.header .function) (← calls.mapM (signature first)))
        (if isComponent = true then do
            return .component (context.header .component)
              (← calls.mapM (componentSignature second))
          else do
            return .function (context.header .function) (← calls.mapM (signature second))) := by
    split
    · refine c.andThen (c.mapM (componentSignature_follows c below) calls)
        fun signatures shallow => c.done ?_
      rw [Node.shallow_succ_iff]
      intro child member
      obtain ⟨signature, among, inside⟩ := List.mem_flatMap.1 member
      exact shallow signature among child inside
    · refine c.andThen (c.mapM (signature_follows c below) calls)
        fun signatures shallow => c.done ?_
      rw [Node.shallow_succ_iff]
      intro child member
      obtain ⟨signature, among, inside⟩ := List.mem_flatMap.1 member
      exact shallow signature among child inside
  unfold callable
  refine c.askThen (.calls t) fun calls => ?_
  dsimp only
  split
  · exact c.andThen (c.mapM (fun symbol => c.asked (.parameterCategory symbol)) _)
      fun categories _ => built _ _
  · exact c.doneThen (built _ _)

theorem kept_follows (context : Context) (t : TypeId) :
    c.follows (Node.Shallow bound) (kept first context t) (kept second context t) := by
  unfold kept
  refine c.andThen (below t none) fun result shallow => ?_
  cases result with
  | none => exact c.askThen (.text t) fun text => c.done (context.shallow_referenceTo text bound)
  | some node => exact c.done shallow

theorem index_follows (context : Context) (entry : IndexEntry) :
    c.follows (fun found => ∀ node ∈ found.nodes, Node.Shallow bound node)
      (index first context entry) (index second context entry) := by
  unfold index
  refine c.andThen (kept_follows c below context _) fun key shallowKey => ?_
  refine c.andThen (kept_follows c below context _) fun value shallowValue => c.done ?_
  simp only [IndexSignature.nodes, List.mem_cons, List.not_mem_nil, or_false]
  rintro node (rfl | rfl)
  · exact (Node.shallow_mapHeader _).2 shallowKey
  · exact shallowValue

/-- An object type is one level deeper than what is resolved below. -/
theorem object_follows (plan : Plan) (t : TypeId) (context : Context) :
    c.follows (Node.Shallow (bound + 1)) (object plan first t context)
      (object plan second t context) := by
  unfold object
  refine c.askThen (.indexes t) fun entries => ?_
  refine c.andThen (c.mapM (index_follows c below context) entries) fun indexes inIndexes => ?_
  refine c.askThen (.properties t) fun symbols => ?_
  refine c.andThen (properties_follows c below plan symbols) fun nodes shallow => c.done ?_
  rw [Node.shallow_succ_iff]
  intro child member
  rcases List.mem_append.1 member with property | inIndex
  · exact shallow child property
  · obtain ⟨entry, among, inside⟩ := List.mem_flatMap.1 inIndex
    exact inIndexes entry (mem_getD_nonempty.1 among) child inside

theorem objectOrCallable_follows (plan : Plan) (t : TypeId) (context : Context) :
    c.follows (Node.Shallow (bound + 1)) (objectOrCallable plan first t context)
      (objectOrCallable plan second t context) := by
  have either (calls : List CallSignature) :
      c.follows (Node.Shallow (bound + 1))
        (if calls.isEmpty = true then object plan first t context
          else callable plan first t context)
        (if calls.isEmpty = true then object plan second t context
          else callable plan second t context) := by
    split
    · exact object_follows c below plan t context
    · exact callable_follows c below plan t context
  unfold objectOrCallable
  refine c.askThen (.properties t) fun symbols => ?_
  dsimp only
  split
  · exact c.askThen (.calls t) fun calls => either calls
  · exact c.doneThen (either [])

theorem union_follows (t : TypeId) (context : Context) :
    c.follows (Node.Shallow (bound + 1)) (union first t context) (union second t context) := by
  unfold union
  refine c.askThen (.unionMembers t) fun members => ?_
  refine c.andThen (c.mapM (fun member => below member none) members)
    fun results shallow => c.done ?_
  exact (Node.shallow_succ_iff _ _).2 (Node.Shallow.filterMap shallow)

/-- The nodes of a constituent are no deeper than what is resolved below. -/
theorem constituent_follows (plan : Plan) (t : TypeId) :
    c.follows (fun nodes => ∀ node ∈ nodes, Node.Shallow bound node)
      (constituent plan first t) (constituent plan second t) := by
  unfold constituent
  refine c.askThen (.isFlattened plan t) fun flattened => ?_
  split
  · exact c.askThen (.properties t) fun symbols => properties_follows c below plan symbols
  · exact c.andThen (below t none) fun result shallow => c.done shallow.toList

theorem intersection_follows (plan : Plan) (t : TypeId) (context : Context) :
    c.follows (Node.Shallow (bound + 1)) (intersection plan first t context)
      (intersection plan second t context) := by
  unfold intersection
  refine c.askThen (.intersectionMembers t) fun members => ?_
  refine c.andThen (c.mapM (constituent_follows c below plan) members)
    fun results shallow => c.done ?_
  rw [Node.shallow_succ_iff]
  intro child member
  obtain ⟨nodes, among, inside⟩ := List.mem_flatten.1 member
  exact shallow nodes among child inside

theorem array_follows (t : TypeId) (context : Context) :
    c.follows (Node.Shallow (bound + 1)) (array first t context) (array second t context) := by
  have made (element : Node) (shallow : element.Shallow bound) :
      c.follows (Node.Shallow (bound + 1)) (pure (.array (context.header .array) element))
        (pure (.array (context.header .array) element)) :=
    c.done ((Node.shallow_succ_iff _ _).2 (by simpa [Node.children] using shallow))
  unfold array
  refine c.askThen (.element t) fun element => ?_
  dsimp only
  split
  · exact c.andThen (kept_follows c below context _) made
  · exact c.andThen (c.done (context.shallow_referenceTo "unknown" bound)) made

theorem tuple_follows (t : TypeId) (context : Context) :
    c.follows (Node.Shallow (bound + 1)) (tuple first t context) (tuple second t context) := by
  unfold tuple
  refine c.askThen (.tupleItems t) fun items => ?_
  refine c.andThen (c.mapM (P := MaybeShallow bound) (fun item => ?_) items)
    fun results shallow => c.done ((Node.shallow_succ_iff _ _).2 (Node.Shallow.filterMap shallow))
  exact c.andThen (below item.type none) fun result shallow => c.done (shallow.map _)

theorem generic_follows (t : TypeId) (context : Context) :
    c.follows (Node.Shallow (bound + 1)) (generic first t context)
      (generic second t context) := by
  unfold generic
  refine c.askThen (.arguments t) fun args => ?_
  refine c.andThen (c.mapM (kept_follows c below context) args) fun nodes shallow => ?_
  exact c.askThen (.name t) fun name => c.done ((Node.shallow_succ_iff _ _).2 shallow)

/-! ## Classes -/

theorem method_follows (symbol : Symbol) :
    c.follows (fun found => ∀ node ∈ found.nodes, Node.Shallow bound node)
      (method first symbol) (method second symbol) := by
  unfold method
  refine c.askThen (.typeOfSymbol symbol) fun t => c.askThen (.text t) fun text => ?_
  refine c.askThen (.calls t) fun calls => ?_
  refine c.andThen (c.mapM (signature_follows c below) calls) fun signatures shallow => ?_
  refine c.askThen (.ofSymbol symbol none) fun metadata => c.done ?_
  intro node member
  obtain ⟨signature, among, inside⟩ := List.mem_flatMap.1 member
  exact shallow signature among node inside

theorem accessor_follows (symbol : Symbol) :
    c.follows (fun found => ∀ node ∈ found.nodes, Node.Shallow bound node)
      (accessor first symbol) (accessor second symbol) := by
  unfold accessor
  refine c.askThen (.typeOfSymbol symbol) fun t => c.askThen (.calls t) fun calls => ?_
  refine c.askThen (.ofSymbol symbol none) fun metadata => ?_
  split
  · exact c.askThen (.getterType calls) fun type => c.done (by simp [Accessor.nodes])
  · dsimp only
    split
    · exact c.andThen (parameter_follows c below _) fun node shallow => c.done shallow.toList
    · exact c.doneThen (c.done (by simp [Accessor.nodes]))

end Builders

/-- All nodes among the parts of a class are shallow. -/
structure ClassParts.Shallow (bound : Nat) (parts : ClassParts) : Prop where
  properties : ∀ node ∈ parts.properties, node.Shallow bound
  methods : ∀ method ∈ parts.methods, ∀ node ∈ method.nodes, node.Shallow bound
  accessors : ∀ accessor ∈ parts.accessors, ∀ node ∈ accessor.nodes, node.Shallow bound

section Classes

variable (c : Comparison) {bound : Nat} {first second : Below}
  (below : ∀ t enclosing,
    c.follows (MaybeShallow bound) (first t enclosing) (second t enclosing))

include below

/-- A member of a class is no deeper than what is resolved below. -/
theorem addMember_follows (plan : Plan) (parts : ClassParts) (symbol : Symbol)
    (shallow : parts.Shallow bound) :
    c.follows (ClassParts.Shallow bound) (addMember plan first parts symbol)
      (addMember plan second parts symbol) := by
  have withAccessor (found : Accessor)
      (shallowFound : ∀ node ∈ found.nodes, Node.Shallow bound node) :
      ClassParts.Shallow bound { parts with accessors := parts.accessors ++ [found] } := by
    refine ⟨shallow.properties, shallow.methods, fun other member => ?_⟩
    rcases List.mem_append.1 member with before | added
    · exact shallow.accessors other before
    · exact List.mem_singleton.1 added ▸ shallowFound
  unfold addMember
  split
  · exact c.done shallow
  · split
    · refine c.andThen (property_follows c below plan symbol) fun node found => c.done ?_
      refine ⟨fun other member => ?_, shallow.methods, shallow.accessors⟩
      rcases List.mem_append.1 member with before | added
      · exact shallow.properties other before
      · exact found.toList other added
    · refine c.andThen (method_follows c below symbol) fun added found => c.done ?_
      refine ⟨shallow.properties, fun other member => ?_, shallow.accessors⟩
      rcases List.mem_append.1 member with before | last
      · exact shallow.methods other before
      · exact List.mem_singleton.1 last ▸ found
    · exact c.andThen (accessor_follows c below symbol) fun added found =>
        c.done (withAccessor added found)
    · exact c.andThen (accessor_follows c below symbol) fun added found =>
        c.done (withAccessor added found)
    · exact c.done shallow

theorem classType_follows (plan : Plan) (t : TypeId) (context : Context) :
    c.follows (Node.Shallow (bound + 1)) (classType plan first t context)
      (classType plan second t context) := by
  unfold classType
  refine c.askThen (.classMembers t) fun symbols => ?_
  have none : ClassParts.Shallow bound {} := ⟨by simp, by simp, by simp⟩
  refine c.andThen (c.foldlM (addMember_follows c below plan) symbols {} none)
    fun parts shallow => ?_
  refine c.askThen (.constructs t) fun constructs => ?_
  refine c.andThen (c.mapM (signature_follows c below) constructs)
    fun constructors inConstructors => c.done ?_
  rw [Node.shallow_succ_iff]
  intro child member
  simp only [Node.children, List.mem_append, List.mem_flatMap, mem_getD_nonempty] at member
  rcases member with ((property | ⟨method, among, inside⟩) | ⟨accessor, among, inside⟩) |
    ⟨constructor, among, inside⟩
  · exact shallow.properties child property
  · exact shallow.methods method among child inside
  · exact shallow.accessors accessor among child inside
  · exact inConstructors constructor among child inside

/-- Two ways to resolve the types below that follow each other make the builders follow
each other, and the node they build is nested one level deeper. -/
theorem expanded_follows (plan : Plan) (t : TypeId) (category : Category) (context : Context) :
    c.follows (Node.Shallow (bound + 1)) (expanded plan first t category context)
      (expanded plan second t category context) := by
  have leaf : c.follows (Node.Shallow (bound + 1)) (pure context.reference)
      (pure context.reference) := c.done (context.shallow_reference _)
  cases category with
  | object => exact objectOrCallable_follows c below plan t context
  | union => exact union_follows c below t context
  | intersection => exact intersection_follows c below plan t context
  | array => exact array_follows c below t context
  | tuple => exact tuple_follows c below t context
  | function => exact callable_follows c below plan t context
  | classType => exact classType_follows c below plan t context
  | enum =>
      refine c.askThen (.enumMembers t) fun members => c.done ?_
      rw [Node.shallow_succ_iff]
      simp [Node.children]
  | generic => exact generic_follows c below t context
  | primitive => exact leaf
  | literal => exact leaf
  | named => exact leaf
  | computed => exact leaf

end Classes

end Builder

/-! ## Resolutions -/

namespace Resolution

/-- Up to where a type is expanded, two visits of it do the same. -/
theorem visit_follows (c : Comparison) {bound : Nat} (plan : Plan)
    {first second : TypeId → Category → Context → ResolveM Node}
    (descended : ∀ t category context,
      c.follows (Node.Shallow bound) (first t category context) (second t category context))
    (t : TypeId) (enclosing : Option Declaration) :
    c.follows (Node.MaybeShallow bound) (visit plan first t enclosing)
      (visit plan second t enclosing) := by
  unfold visit
  refine c.askThen (.simplified t) fun simple => ?_
  split
  · exact c.askThen (.text t) fun _ => c.done (Node.maybeShallow_none bound)
  · refine c.askThen (.category _) fun category => ?_
    refine c.askThen (.contextOf _ enclosing) fun context => ?_
    split
    · exact c.map (Builder.primitive_follows c _ category context) fun _ shallow => shallow
    · split
      · exact c.done (context.shallow_reference bound)
      · exact c.map (descended _ category context) fun _ shallow => shallow

/-- A comparison that is kept while a type counts as being expanded compares a
resolution with itself, and what a resolution returns has no more types nested than may
be. -/
theorem resolve_follows (c : Comparison)
    (bracketed : ∀ {α : Type} {P : α → Prop} (t : TypeId) {first second : Bool → ResolveM α},
      (∀ entered, c.follows P (first entered) (second entered)) →
        c.follows P (ResolveM.expanding t first) (ResolveM.expanding t second))
    (plan : Plan) (remaining : Nat) (t : TypeId) (enclosing : Option Declaration) :
    c.follows (Node.MaybeShallow remaining) (resolve plan remaining t enclosing)
      (resolve plan remaining t enclosing) := by
  induction remaining generalizing t enclosing with
  | zero =>
      exact visit_follows c plan (fun _ _ context => c.done (context.shallow_reference 0)) t
        enclosing
  | succ fewer ih =>
      refine visit_follows c plan (fun t category context => ?_) t enclosing
      refine bracketed t fun entered => ?_
      split
      · exact Builder.expanded_follows c ih plan t category context
      · exact c.done (context.shallow_reference _)

end Resolution

end TypeGloss
