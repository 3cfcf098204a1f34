/-
# TypeGloss.Proofs.Resolution.Accounting — every node of a tree stands for something

Started from a lawful state of the checker, a resolution returns nothing but trees all of
whose nodes stand for something in the state it leaves (`Resolution.resolve_yields`,
`Resolution.resolveType_documents`). The argument follows the builders: each is given that the
types below are resolved to trees of which this is so (`Builder.Accounts`), and shows it of the
node it builds (`Node.IsBuilt`).

Everything that can be asked of a checker leaves it lawful, so this holds after every history
(`State.Lawful.through`).
-/
import TypeGloss.Proofs.Resolution.Account
import TypeGloss.Proofs.Resolution.History

namespace TypeGloss

set_option autoImplicit false

variable {law : Tree.Law} {plan : Plan}

/-! ## Contexts -/

/-- What is read off the facts of a type changes nothing. -/
theorem Check.readFacts_safe {α : Type} (t : TypeId) (f : TypeFacts → α) :
    Safe law (do return f (← Check.facts t)) :=
  (Check.facts_safe t).bind fun _ => .pure trivial

/-- What is read off a part of a type leaves a lawful state. -/
theorem Checker.readPart_safe {α : Type} (categories : List Category) (t : TypeId) (part : Part)
    (f : Option part.Content → α) :
    Safe law (do return f (← partOf? categories t part)) :=
  (partOf?_sound categories t part).safe.bind fun _ => .pure trivial

namespace Context

theorem locate_safe (t : TypeId) (symbol : Option Symbol) (enclosing : Option Declaration) :
    Safe law (locate t symbol enclosing) := by
  unfold locate
  split
  · exact .pure trivial
  · refine Safe.bind ?_ fun location => ?_
    · refine (Check.facts_safe t).bind fun r => ?_
      split <;> exact .pure trivial
    · split
      · exact .pure trivial
      · exact .pure trivial
      · exact (Check.facts_safe t).bind fun _ => .pure trivial

/-- What a context says about the type that was met in it. -/
structure Describes (context : Context) (s : State) (u : TypeId) (r : TypeFacts)
    (enclosing : Option Declaration) : Prop where
  known : s.Finds (Check.facts u) r
  text : s.Finds (Checker.text u) context.text
  location : context.location = r.locationBelow enclosing
  metadata : ∀ symbol ∈ r.symbol, ∃ metadata,
    s.Finds (Metadata.ofSymbol symbol enclosing) metadata ∧ context.metadata = some metadata

/-- What is told of a type describes it, in the declaration around it. -/
theorem ofType_yields (u : TypeId) (enclosing : Option Declaration) :
    Yields law (fun s context => ∃ r, context.Describes s u r enclosing)
      (liftM (ofType u enclosing) : ResolveM Context) := by
  unfold ofType
  rw [ResolveM.liftM_bind]
  refine .askThen (Inquiry.text u).steady (Checker.text_safe u) fun text _ => ?_
  rw [ResolveM.liftM_bind]
  refine .askThen (Inquiry.symbol u).steady (Check.readFacts_safe u _)
    fun symbol _ => ?_
  have timeless (known : Symbol) := Metadata.ofSymbol_timeless known enclosing
  rw [ResolveM.liftM_bind]
  refine .askThen (Steady.option (fun known => (timeless known).steady) symbol)
    (Sound.option fun known _ => Safe.of_timeless (timeless known)) fun metadata _ => ?_
  rw [ResolveM.liftM_bind]
  refine .askThen (Inquiry.locate u symbol enclosing).steady (locate_safe u symbol enclosing)
    fun location _ => ?_
  refine .pure fun s located described symbolic texted => ?_
  obtain ⟨r, known, rfl⟩ := symbolic.ofFacts
  refine ⟨r, known, texted, Except.ok.inj (located.symm.trans (outcome_locate known enclosing)), ?_⟩
  intro symbol found
  rw [Option.mem_def.1 found] at described
  obtain ⟨known, asked, returned⟩ := outcome_bind_eq_ok described
  cases returned
  exact ⟨known, asked, rfl⟩

/-- A context is where some type is that was met along lawful declarations. -/
def IsPlaced (context : Context) (law : Tree.Law) (plan : Plan) (s : State) : Prop :=
  ∃ enclosing u r, (Way.below enclosing).IsOpen law plan s ∧ s.Finds (Check.facts u) r ∧
    context.location = r.locationBelow enclosing

/-- A reference in place of a type is accounted for by the place it stands at. -/
theorem isAccounted_referenceTo {s : State} {context : Context}
    (placed : context.IsPlaced law plan s) (text : String) :
    (context.referenceTo text).IsAccounted law plan s := by
  obtain ⟨enclosing, u, r, leads, known, location⟩ := placed
  exact Node.isAccounted_reference
    (.remnant leads known ⟨congrArg (some ·.path) location, congrArg (some ·.position) location⟩)

end Context

/-! ## Builders -/

/-- A node that is built for a type in the context in which it was met. -/
structure Node.IsBuilt (law : Tree.Law) (plan : Plan) (s : State) (u : TypeId)
    (context : Context) (node : Node) : Prop where
  type : node.header.type = context.text
  located : node.header.IsAt context.location
  lists : node.Lists plan s u
  below : ∀ child ∈ node.children, child.IsAccounted law plan s

theorem Context.isBuilt_reference (s : State) (u : TypeId) (context : Context) :
    context.reference.IsBuilt law plan s u context :=
  ⟨rfl, ⟨rfl, rfl⟩, trivial, by simp [Context.reference, Node.children]⟩

namespace Builder

/-- What a type that is met in some way is resolved to. -/
def Resolves (law : Tree.Law) (plan : Plan) (s : State) (way : Way) (t : TypeId) :
    Option Node → Prop
  | none => s.Finds (Checker.simplified t) none
  | some node => node.Documents law plan s way t

theorem Resolves.becomes {s : State} {way : Way} {t : TypeId} {result : Option Node}
    (resolves : Resolves law plan s way t result) : Becomes s way t result := by
  cases result with
  | none => exact resolves
  | some node => exact Node.Documents.becomes resolves

/-- What a type is resolved to is accounted for. -/
theorem Resolves.isAccounted {s : State} {way : Way} {t : TypeId} {result : Option Node}
    (resolves : Resolves law plan s way t result) :
    ∀ node ∈ result, node.IsAccounted law plan s := by
  rintro node ⟨⟩
  exact Node.Documents.isAccounted resolves

/-- A way to resolve the types below that accounts for every node. -/
def Accounts (law : Tree.Law) (plan : Plan) (below : Below) : Prop :=
  ∀ (t : TypeId) {enclosing : Option Declaration},
    (∀ declaration ∈ enclosing, declaration.Obeys law) →
      Yields law (fun s result => Resolves law plan s (.below enclosing) t result)
        (below t enclosing)

/-- The types below another one, whatever they are. -/
theorem Accounts.each {below : Below} (accounts : Accounts law plan below) (t : TypeId) :
    Yields law (fun s result => ∀ node ∈ result, node.IsAccounted law plan s) (below t none) :=
  (accounts t (by simp)).weaken fun _ _ resolves => resolves.isAccounted

/-- Results that are there are accounted for if all are. -/
theorem isAccounted_filterMap {s : State} {results : List (Option Node)}
    (accounted : ∀ result ∈ results, ∀ node ∈ result, node.IsAccounted law plan s) :
    ∀ node ∈ results.filterMap id, node.IsAccounted law plan s := by
  intro node member
  obtain ⟨result, among, found⟩ := List.mem_filterMap.1 member
  exact accounted result among node found

theorem getD_nonempty {α : Type} (items : List α) : (nonempty items).getD [] = items := by
  cases items <;> rfl

/-- An attached default is the only thing that changes. -/
theorem attachDefault_yields (declaration : Option Declaration) (patterns : List Cursor)
    (node : Node) :
    Yields law (fun _ found => found = node ∨ ∃ value, found = node.assignDefault value)
      (attachDefault declaration patterns node) := by
  unfold attachDefault
  cases declaration with
  | none => exact .pure fun _ => .inl rfl
  | some declaration =>
      dsimp only
      split
      · exact .pure fun _ => .inl rfl
      · have timeless := Checker.defaultOf_timeless declaration (Checker.initializer? declaration)
          patterns
        refine .askThen timeless.steady (Safe.of_timeless timeless) fun value _ => ?_
        split
        · exact .pure fun _ _ => .inr ⟨_, rfl⟩
        · exact .pure fun _ _ => .inl rfl

/-- A primitive is built without being expanded. -/
theorem primitive_yields (plan : Plan) (u : TypeId) (category : Category) (context : Context) :
    Yields law (fun s node => node.IsBuilt law plan s u context ∧ node.isExpanded = false)
      (primitive u category context) := by
  have built (s : State) (kind : Kind) (value : Value) :
      (Node.primitive { context.header kind with name := none } value).IsBuilt law plan s u
        context :=
    ⟨rfl, ⟨rfl, rfl⟩, trivial, by simp [Node.children]⟩
  unfold primitive
  refine .askThen (Inquiry.primitive u).steady (Check.readFacts_safe u _)
    fun keyword _ => ?_
  dsimp only
  split
  · refine .askThen (Inquiry.literalValue u).steady
      (Check.readFacts_safe u _) fun value _ => ?_
    exact .pure fun s _ _ => ⟨built s _ value, rfl⟩
  · exact .doneThen (.pure fun s _ => ⟨built s _ .null, rfl⟩)

/-- An object that was written where it is used has no name. -/
theorem isAnonymousObject_yields (u : TypeId) :
    Yields law (fun s anonymous => anonymous = true →
        ∃ r, s.Finds (Check.facts u) r ∧ r.IsUnnamed)
      (liftM (Checker.isAnonymousObject u) : ResolveM Bool) := by
  unfold Checker.isAnonymousObject
  rw [ResolveM.liftM_bind]
  refine .askThen (Check.facts_steady u) (Check.facts_sound u) fun r lawful => ?_
  refine .pure fun s known anonymous => ⟨r, known, ?_⟩
  simp only [Bool.and_eq_true, decide_eq_true_eq, Option.isNone_iff_eq_none,
    List.isEmpty_iff] at anonymous
  exact lawful.object anonymous.1.1.1 anonymous.1.1.2 anonymous.1.2

/-- A constituent that is laid out as its properties is an object without a name. -/
theorem isFlattened_yields (t : TypeId) :
    Yields law (fun s flattened => s.Finds (isFlattened plan t) flattened ∧
      (flattened = true → ∃ u r, s.Finds (Checker.simplified t) (some u) ∧
        s.Finds (Check.facts u) r ∧ r.IsUnnamed))
      (liftM (isFlattened plan t) : ResolveM Bool) := by
  have safe : Safe law (isFlattened plan t) := by
    unfold isFlattened
    split
    · exact .pure trivial
    · refine (Checker.simplified_safe t).bind fun simple => ?_
      split
      · exact Check.readFacts_safe _ _
      · exact .pure trivial
  have asked := Yields.asked (Inquiry.isFlattened plan t).steady safe
  refine (asked.weaken fun _ _ found => found.1).and ?_
  unfold isFlattened
  split
  · exact .pure fun s flat => by cases flat
  · rw [ResolveM.liftM_bind]
    refine .askThen (Inquiry.simplified t).steady (Checker.simplified_safe t) fun simple _ => ?_
    split
    · next u =>
        refine (isAnonymousObject_yields u).weaken fun s flattened unnamed simple flat => ?_
        obtain ⟨r, known, isUnnamed⟩ := unnamed flat
        exact ⟨u, r, simple, known, isUnnamed⟩
    · exact .pure fun s _ flat => by cases flat

/-- The header of a member is that of its symbol. -/
theorem memberHeader_isOf {s : State} {symbol : Symbol} {metadata : Metadata}
    (known : s.Finds (Metadata.ofSymbol symbol none) metadata) (kind : Kind) (type : String) :
    (memberHeader kind symbol metadata type).IsOf symbol where
  name := rfl
  path := by simpa [memberHeader, Symbol.location?] using known.metadata.path
  position := by simpa [memberHeader, Symbol.location?] using known.metadata.position

section Builders

variable {below : Below} (accounts : Accounts law plan below)

include accounts

/-! ### Properties and parameters -/

/-- A property shows its symbol, and all nodes of it are accounted for. -/
theorem property_yields {symbol : Symbol} (declared : symbol.IsDeclared law) :
    Yields law (fun s result => Shows plan s symbol result ∧
      ∀ node ∈ result, node.IsAccounted law plan s) (property plan below symbol) := by
  have timeless := Metadata.ofSymbol_timeless symbol none
  obtain ⟨declaration, present⟩ := Option.isSome_iff_exists.1 declared.declared
  unfold property
  refine .askThen timeless.steady (Safe.of_timeless timeless) fun metadata _ => ?_
  refine .askThen (Inquiry.typeOfSymbol symbol).steady
    (Checker.typeOfSymbol_safe declared.toObeys) fun t _ => ?_
  split
  · next rejects =>
      have rejects : plan.accepts metadata = false := by simpa using rejects
      refine .askThen (Inquiry.text t).steady (Checker.text_safe t) fun text _ => ?_
      refine .askThen (Inquiry.locate t (some symbol) symbol.declaration).steady
        (Context.locate_safe t _ _) fun location _ => ?_
      refine .pure fun s found texted typed known => ?_
      have located : ∀ place ∈ symbol.location?,
          (Context.header ⟨text, location, some metadata, none⟩ .reference).IsAt place := by
        intro place isPlace
        obtain rfl := found.locate_symbol isPlace
        exact ⟨rfl, rfl⟩
      refine ⟨.rejected known rejects typed texted known.metadata.name located, ?_⟩
      rintro _ ⟨⟩
      exact Node.isAccounted_reference (.rejected declared located)
  · next accepts =>
      have accepts : plan.accepts metadata = true := by simpa using accepts
      refine (accounts t declared.declaration).bind fun result _ => ?_
      cases result with
      | none =>
          refine .pure fun s gone typed known => ?_
          exact ⟨.accepted known accepts typed gone (by simp), by simp⟩
      | some node =>
          refine (attachDefault_yields _ _ _).map fun s found made documents typed known => ?_
          have leads : (Way.property symbol).IsOpen law plan s :=
            ⟨declared, metadata, known, accepts⟩
          have noted : (node.mapHeader (propertyHeader symbol metadata)).Documents law plan s
              (.property symbol) t := by
            refine documents.mapHeader leads rfl rfl fun r => ?_
            constructor <;>
              simp [propertyHeader, known.metadata.path, known.metadata.position, present,
                Way.location, Way.location?, Symbol.location?]
          have named : (node.mapHeader (propertyHeader symbol metadata)).header.name =
              symbol.name := by
            rw [Node.header_mapHeader]
            rfl
          rcases made with rfl | ⟨value, rfl⟩
          · exact ⟨.accepted known accepts typed noted.becomes (by simpa using named),
              by simpa using noted.isAccounted⟩
          · refine ⟨.accepted known accepts typed (noted.assignDefault value).becomes ?_,
              by simpa using (noted.assignDefault value).isAccounted⟩
            simpa [Node.header_assignDefault] using named

/-- The nodes of properties are those that the symbols show, in their order. -/
theorem properties_yields {symbols : List Symbol}
    (declared : ∀ symbol ∈ symbols, symbol.IsDeclared law) :
    Yields law (fun s nodes => ShowsAll plan s symbols nodes ∧
      ∀ node ∈ nodes, node.IsAccounted law plan s) (properties plan below symbols) := by
  unfold properties
  refine (Yields.mapM fun symbol among => property_yields accounts (declared symbol among)).bind
    fun results _ => .pure fun s each => ?_
  refine ⟨⟨results, each.imp fun _ _ shown => shown.1, rfl⟩, isAccounted_filterMap ?_⟩
  intro result among
  obtain ⟨symbol, -, shown⟩ := exists_of_mem_right each among
  exact shown.2

theorem parameter_yields {symbol : Symbol} (declared : symbol.IsDeclared law) :
    Yields law (fun s result => ∀ node ∈ result, node.IsAccounted law plan s)
      (parameter below symbol) := by
  obtain ⟨declaration, present⟩ := Option.isSome_iff_exists.1 declared.declared
  unfold parameter
  refine .askThen (Inquiry.typeOfSymbol symbol).steady
    (Checker.typeOfSymbol_safe declared.toObeys) fun t _ => ?_
  refine (accounts t declared.declaration).bind fun result _ => ?_
  cases result with
  | none => exact .pure fun s _ _ => by simp
  | some node =>
      refine (attachDefault_yields _ _ _).map fun s found made documents _ => ?_
      have noted : (node.mapHeader (parameterHeader symbol)).Documents law plan s
          (.parameter symbol) t := by
        refine documents.mapHeader declared rfl rfl fun r => ?_
        constructor <;>
          simp [parameterHeader, present, Way.location, Way.location?, Symbol.location?]
      rcases made with rfl | ⟨value, rfl⟩
      · simpa using noted.isAccounted
      · simpa using (noted.assignDefault value).isAccounted

/-! ### Signatures -/

/-- All nodes of a signature are accounted for. -/
theorem signature_yields {call : CallSignature} (declared : call.IsDeclared law) :
    Yields law (fun s found => ∀ node ∈ found.nodes, node.IsAccounted law plan s)
      (signature below call) := by
  unfold signature
  refine (Yields.mapM_all fun symbol among => parameter_yields accounts
    (declared symbol among)).bind fun results _ => ?_
  refine .askThen (Inquiry.text _).steady (Checker.text_safe _) fun returnType _ => ?_
  exact .pure fun s _ accounted => isAccounted_filterMap accounted

theorem componentSignature_yields {call : CallSignature} (declared : call.IsDeclared law) :
    Yields law (fun s found => ∀ node ∈ found.nodes, node.IsAccounted law plan s)
      (componentSignature below call) := by
  have ended (props : Option Node) : Yields law (fun s found =>
      (∀ node ∈ props, node.IsAccounted law plan s) →
        ∀ node ∈ found.nodes, node.IsAccounted law plan s) (do
          let returnType ← Checker.text call.returnType
          return ComponentSignature.mk .componentSignature call.text props returnType
            call.modifier) := by
    refine .askThen (Inquiry.text _).steady (Checker.text_safe _) fun returnType _ => ?_
    refine .pure fun s _ accounted node among => accounted node (Option.mem_toList.1 among)
  unfold componentSignature
  dsimp only
  split
  · next first rest listed =>
      have member : first ∈ call.parameters := by simp [listed]
      exact (parameter_yields accounts (declared first member)).bind fun props _ => ended props
  · exact .doneThen ((ended none).weaken fun s found holds => holds (by simp))

theorem callable_yields (u : TypeId) (context : Context) :
    Yields law (fun s node => node.IsBuilt law plan s u context)
      (callable plan below u context) := by
  -- Whatever the categories of the parameters are, the signatures are built in one of two
  -- ways.
  have built {calls : List CallSignature} (declared : ∀ call ∈ calls, call.IsDeclared law)
      (isComponent : Bool) :
      Yields law (fun s (node : Node) => node.IsBuilt law plan s u context)
        (if isComponent = true then do
            return .component (context.header .component)
              (← calls.mapM (componentSignature below))
          else do
            return .function (context.header .function) (← calls.mapM (signature below))) := by
    split
    · refine (Yields.mapM_all fun call among => componentSignature_yields accounts
        (declared call among)).bind fun signatures _ => .pure fun s accounted => ?_
      refine ⟨rfl, ⟨rfl, rfl⟩, trivial, fun child member => ?_⟩
      obtain ⟨signature, among, inside⟩ := List.mem_flatMap.1 member
      exact accounted signature among child inside
    · refine (Yields.mapM_all fun call among => signature_yields accounts
        (declared call among)).bind fun signatures _ => .pure fun s accounted => ?_
      refine ⟨rfl, ⟨rfl, rfl⟩, trivial, fun child member => ?_⟩
      obtain ⟨signature, among, inside⟩ := List.mem_flatMap.1 member
      exact accounted signature among child inside
  unfold callable
  refine .askThen (Inquiry.calls u).steady (Checker.calls_sound u) fun calls declared => ?_
  dsimp only
  split
  · next first rest =>
      have category (symbol : Symbol) (among : symbol ∈ first.parameters) :
          Yields law (fun _ _ => True) (liftM (parameterCategory symbol) : ResolveM Category) := by
        have lawful := (declared first List.mem_cons_self symbol among).toObeys
        have safe : Safe law (parameterCategory symbol) := by
          refine (Checker.typeOfSymbol_safe lawful).bind fun t => ?_
          refine (Checker.simplified_safe t).bind fun simple => ?_
          split
          · exact Check.category_safe _
          · exact Check.category_safe t
        exact (Yields.asked (Inquiry.parameterCategory symbol).steady safe).weaken
          fun _ _ _ => trivial
      refine (Yields.mapM_all category).bind fun categories _ => ?_
      exact (built declared _).weaken fun _ _ holds _ _ => holds
  · exact .doneThen ((built (by simp) _).weaken fun _ _ holds _ => holds)

/-! ### Objects -/

theorem kept_yields (context : Context) (t : TypeId) :
    Yields law (fun s node => context.IsPlaced law plan s → node.IsAccounted law plan s)
      (kept below context t) := by
  unfold kept
  refine (accounts t (by simp)).bind fun result _ => ?_
  cases result with
  | none =>
      refine .askThen (Inquiry.text t).steady (Checker.text_safe t) fun text _ => ?_
      exact .pure fun s _ _ placed => Context.isAccounted_referenceTo placed text
  | some node => exact .pure fun s documents _ => Node.Documents.isAccounted documents

theorem index_yields (context : Context) (entry : IndexEntry) :
    Yields law (fun s found => context.IsPlaced law plan s →
      ∀ node ∈ found.nodes, node.IsAccounted law plan s) (index below context entry) := by
  unfold index
  refine (kept_yields accounts context entry.keyType).bind fun key _ => ?_
  refine (kept_yields accounts context entry.valueType).bind fun value _ => ?_
  refine .pure fun s valued keyed placed => ?_
  simp only [IndexSignature.nodes, List.mem_cons, List.not_mem_nil, or_false]
  rintro node (rfl | rfl)
  · exact (keyed placed).agrees ⟨rfl, rfl, rfl⟩
  · exact valued placed

/-- An object type is built for its type wherever its context is placed. -/
theorem object_yields (u : TypeId) (context : Context) :
    Yields law (fun s node => context.IsPlaced law plan s → node.IsBuilt law plan s u context)
      (object plan below u context) := by
  unfold object
  refine .askThen (Inquiry.indexes u).steady (Checker.indexes_safe u) fun entries _ => ?_
  refine (Yields.mapM_all fun entry _ => index_yields accounts context entry).bind
    fun indexes _ => ?_
  refine .askThen (Inquiry.properties u).steady (Checker.properties_sound u)
    fun symbols declared => ?_
  refine (properties_yields accounts declared).bind fun nodes _ => ?_
  refine .pure fun s shown found inIndexes _ placed => ?_
  refine ⟨rfl, ⟨rfl, rfl⟩, ⟨symbols, found, shown.1⟩, fun child member => ?_⟩
  rcases List.mem_append.1 member with property | inIndex
  · exact shown.2 child property
  · obtain ⟨entry, among, inside⟩ := List.mem_flatMap.1 inIndex
    exact inIndexes entry (mem_getD_nonempty.1 among) placed child inside

theorem objectOrCallable_yields (u : TypeId) (context : Context) :
    Yields law (fun s node => context.IsPlaced law plan s → node.IsBuilt law plan s u context)
      (objectOrCallable plan below u context) := by
  have either (calls : List CallSignature) :
      Yields law (fun s node => context.IsPlaced law plan s → node.IsBuilt law plan s u context)
        (if calls.isEmpty = true then object plan below u context
          else callable plan below u context) := by
    split
    · exact object_yields accounts u context
    · exact (callable_yields accounts u context).weaken fun _ _ built _ => built
  unfold objectOrCallable
  refine .askThen (Inquiry.properties u).steady (Checker.properties_sound u)
    fun symbols _ => ?_
  dsimp only
  split
  · refine .askThen (Inquiry.calls u).steady (Checker.calls_sound u) fun calls _ => ?_
    exact (either calls).weaken fun _ _ built _ _ => built
  · exact .doneThen ((either []).weaken fun _ _ built _ => built)

/-! ### Unions, intersections, arrays, tuples -/

theorem union_yields (u : TypeId) (context : Context) :
    Yields law (fun s node => node.IsBuilt law plan s u context) (union below u context) := by
  unfold union
  refine .askThen (Inquiry.unionMembers u).steady (Checker.readPart_safe [.union] u .members _)
    fun members _ => ?_
  refine (Yields.mapM_all fun member _ => accounts.each member).bind fun results _ => ?_
  exact .pure fun s accounted _ => ⟨rfl, ⟨rfl, rfl⟩, trivial, isAccounted_filterMap accounted⟩

/-- The nodes of a constituent are what its type contributes, all accounted for. -/
theorem constituent_yields (t : TypeId) :
    Yields law (fun s nodes => Contributes plan s t nodes ∧
      ∀ node ∈ nodes, node.IsAccounted law plan s) (constituent plan below t) := by
  unfold constituent
  refine (isFlattened_yields t).bind fun flattened _ => ?_
  split
  · next flat =>
      refine .askThen (Inquiry.properties t).steady (Checker.properties_sound t)
        fun symbols declared => ?_
      refine (properties_yields accounts declared).weaken fun s nodes shown found known => ?_
      obtain ⟨u, r, simple, facts, unnamed⟩ := known.2 flat
      rw [flat] at known
      exact ⟨.flattened known.1 simple facts unnamed found shown.1, shown.2⟩
  · next whole =>
      have whole : flattened = false := by simpa using whole
      refine (accounts t (by simp)).bind fun result _ => .pure fun s resolves known => ?_
      rw [whole] at known
      refine ⟨.nested known.1 resolves.becomes, fun node among => ?_⟩
      exact resolves.isAccounted node (Option.mem_toList.1 among)

theorem intersection_yields (u : TypeId) (context : Context) :
    Yields law (fun s node => node.IsBuilt law plan s u context)
      (intersection plan below u context) := by
  unfold intersection
  refine .askThen (Inquiry.intersectionMembers u).steady
    (Checker.readPart_safe [.intersection] u .members _) fun members _ => ?_
  refine (Yields.mapM fun member _ => constituent_yields accounts member).bind
    fun chunks _ => .pure fun s each found => ?_
  refine ⟨rfl, ⟨rfl, rfl⟩,
    ⟨members, chunks, found, each.imp fun _ _ contributes => contributes.1, rfl⟩, ?_⟩
  intro child member
  obtain ⟨nodes, among, inside⟩ := List.mem_flatten.1 member
  obtain ⟨t, -, contributes⟩ := exists_of_mem_right each among
  exact contributes.2 child inside

theorem array_yields (u : TypeId) (context : Context) :
    Yields law (fun s node => context.IsPlaced law plan s → node.IsBuilt law plan s u context)
      (array below u context) := by
  have made {s : State} {element : Node} (accounted : element.IsAccounted law plan s) :
      (Node.array (context.header .array) element).IsBuilt law plan s u context :=
    ⟨rfl, ⟨rfl, rfl⟩, trivial, by simpa [Node.children] using accounted⟩
  unfold array
  refine .askThen (Inquiry.element u).steady (Checker.partOf?_sound [.array] u .element).safe
    fun element _ => ?_
  dsimp only
  split
  · refine (kept_yields accounts context _).bind fun node _ => ?_
    exact .pure fun s accounted _ placed => made (accounted placed)
  · refine .doneThen (.pure fun s _ placed => ?_)
    exact made (Context.isAccounted_referenceTo placed "unknown")

theorem tuple_yields (u : TypeId) (context : Context) :
    Yields law (fun s node => node.IsBuilt law plan s u context) (tuple below u context) := by
  have item (entry : TupleItem) :
      Yields law (fun s result => ∀ node ∈ result, node.IsAccounted law plan s) (do
        return (← below entry.type none).map (Node.mapHeader (tupleHeader entry))) := by
    refine (accounts.each entry.type).bind fun result _ => .pure fun s accounted node found => ?_
    obtain ⟨before, among, rfl⟩ := Option.map_eq_some_iff.1 found
    exact (accounted before among).agrees ⟨rfl, rfl, rfl⟩
  unfold tuple
  refine .askThen (Inquiry.tupleItems u).steady (Checker.readPart_safe [.tuple] u .elements _)
    fun items _ => ?_
  refine (Yields.mapM_all fun entry _ => item entry).bind fun results _ => ?_
  exact .pure fun s accounted _ => ⟨rfl, ⟨rfl, rfl⟩, trivial, isAccounted_filterMap accounted⟩

theorem generic_yields (u : TypeId) (context : Context) :
    Yields law (fun s node => context.IsPlaced law plan s → node.IsBuilt law plan s u context)
      (generic below u context) := by
  unfold generic
  refine .askThen (Inquiry.arguments u).steady (Check.readFacts_safe u _) fun args _ => ?_
  refine (Yields.mapM_all fun t _ => kept_yields accounts context t).bind fun nodes _ => ?_
  refine .askThen (Inquiry.name u).steady (Check.readFacts_safe u _) fun name _ => ?_
  refine .pure fun s _ accounted _ placed => ?_
  exact ⟨rfl, ⟨rfl, rfl⟩, trivial, fun child member => accounted child member placed⟩

/-! ### Classes -/

/-- A method has the header of its symbol, and all nodes of it are accounted for. -/
theorem method_yields {symbol : Symbol} (declared : symbol.IsDeclared law) :
    Yields law (fun s found => found.header.IsOf symbol ∧
      ∀ node ∈ found.nodes, node.IsAccounted law plan s) (method below symbol) := by
  have timeless := Metadata.ofSymbol_timeless symbol none
  unfold method
  refine .askThen (Inquiry.typeOfSymbol symbol).steady
    (Checker.typeOfSymbol_safe declared.toObeys) fun t _ => ?_
  refine .askThen (Inquiry.text t).steady (Checker.text_safe t) fun text _ => ?_
  refine .askThen (Inquiry.calls t).steady (Checker.calls_sound t) fun calls parameters => ?_
  refine (Yields.mapM_all fun call among => signature_yields accounts
    (parameters call among)).bind fun signatures _ => ?_
  refine .askThen timeless.steady (Safe.of_timeless timeless) fun metadata _ => ?_
  refine .pure fun s known accounted _ _ _ => ⟨?_, fun node member => ?_⟩
  · exact memberHeader_isOf known _ _
  · obtain ⟨signature, among, inside⟩ := List.mem_flatMap.1 member
    exact accounted signature among node inside

theorem accessor_yields {symbol : Symbol} (declared : symbol.IsDeclared law) :
    Yields law (fun s found => found.header.IsOf symbol ∧
      ∀ node ∈ found.nodes, node.IsAccounted law plan s) (accessor below symbol) := by
  have timeless := Metadata.ofSymbol_timeless symbol none
  unfold accessor
  refine .askThen (Inquiry.typeOfSymbol symbol).steady
    (Checker.typeOfSymbol_safe declared.toObeys) fun t _ => ?_
  refine .askThen (Inquiry.calls t).steady (Checker.calls_sound t) fun calls parameters => ?_
  refine .askThen timeless.steady (Safe.of_timeless timeless) fun metadata _ => ?_
  split
  · have safe : Safe law (getterType calls) := by
      unfold getterType
      split
      · exact Checker.text_safe _
      · exact .pure trivial
    refine .askThen (Inquiry.getterType calls).steady safe fun type _ => ?_
    exact .pure fun s _ known _ _ => ⟨memberHeader_isOf known _ _, by simp [Accessor.nodes]⟩
  · dsimp only
    split
    · next first found =>
        obtain ⟨call, head, taken⟩ := Option.bind_eq_some_iff.1 found
        have isDeclared := parameters call (List.mem_of_head? head) first
          (List.mem_of_head? taken)
        refine (parameter_yields accounts isDeclared).bind fun node _ => ?_
        refine .pure fun s accounted known _ _ => ⟨memberHeader_isOf known _ _, ?_⟩
        exact fun child member => accounted child (Option.mem_toList.1 member)
    · exact .doneThen (.pure fun s known _ _ =>
        ⟨memberHeader_isOf known _ _, by simp [Accessor.nodes]⟩)

end Builders

/-- The parts of a class that come from some of its members. -/
structure ClassParts.Lists (law : Tree.Law) (plan : Plan) (s : State) (symbols : List Symbol)
    (parts : ClassParts) : Prop where
  properties : ShowsAll plan s (plan.shown [.property] symbols) parts.properties
  methods : List.Forall₂ (fun symbol method => method.header.IsOf symbol)
    (plan.shown [.method] symbols) parts.methods
  accessors : List.Forall₂ (fun symbol accessor => accessor.header.IsOf symbol)
    (plan.shown [.getter, .setter] symbols) parts.accessors
  inProperties : ∀ node ∈ parts.properties, node.IsAccounted law plan s
  inMethods : ∀ method ∈ parts.methods, ∀ node ∈ method.nodes, node.IsAccounted law plan s
  inAccessors : ∀ accessor ∈ parts.accessors, ∀ node ∈ accessor.nodes, node.IsAccounted law plan s

section Members

variable {kinds : List MemberKind} {before : List Symbol} {symbol : Symbol}

/-- A member of one of the kinds is one more that is documented. -/
theorem shown_append_of_mem (visible : isShown plan symbol = true) {kind : MemberKind}
    (isKind : symbol.kind = some kind) (among : kind ∈ kinds) :
    plan.shown kinds (before ++ [symbol]) = plan.shown kinds before ++ [symbol] := by
  simp [Plan.shown, visible, isKind, among]

/-- A member of another kind is none of them. -/
theorem shown_append_of_not_mem (others : ∀ kind ∈ symbol.kind, kind ∉ kinds) :
    plan.shown kinds (before ++ [symbol]) = plan.shown kinds before := by
  cases isKind : symbol.kind with
  | none => simp [Plan.shown, isKind]
  | some kind => simp [Plan.shown, isKind, others kind isKind]

theorem shown_append_of_hidden (hidden : isShown plan symbol = false) :
    plan.shown kinds (before ++ [symbol]) = plan.shown kinds before := by
  simp [Plan.shown, hidden]

end Members

/-- What a further symbol shows stands behind what the symbols before it show. -/
theorem ShowsAll.append {s : State} {symbols : List Symbol} {nodes : List Node} {symbol : Symbol}
    {result : Option Node} (before : ShowsAll plan s symbols nodes)
    (shows : Shows plan s symbol result) :
    ShowsAll plan s (symbols ++ [symbol]) (nodes ++ result.toList) := by
  obtain ⟨results, each, rfl⟩ := before
  refine ⟨results ++ [result], List.rel_append each (.cons shows .nil), ?_⟩
  cases result <;> simp

namespace ClassParts.Lists

variable {s : State} {before : List Symbol} {symbol : Symbol} {parts : ClassParts}
  (lists : parts.Lists law plan s before)

include lists

/-- A member that is hidden, or neither a property nor a method nor an accessor. -/
theorem skip (unseen : ∀ kinds ∈ [[MemberKind.property], [.method], [.getter, .setter]],
      plan.shown kinds (before ++ [symbol]) = plan.shown kinds before) :
    parts.Lists law plan s (before ++ [symbol]) where
  properties := by
    rw [unseen _ (by simp)]
    exact lists.properties
  methods := by
    rw [unseen _ (by simp)]
    exact lists.methods
  accessors := by
    rw [unseen _ (by simp)]
    exact lists.accessors
  inProperties := lists.inProperties
  inMethods := lists.inMethods
  inAccessors := lists.inAccessors

theorem addProperty (visible : isShown plan symbol = true)
    (isProperty : symbol.kind = some .property) {result : Option Node}
    (shows : Shows plan s symbol result)
    (accounted : ∀ node ∈ result, node.IsAccounted law plan s) :
    ClassParts.Lists law plan s (before ++ [symbol])
      { parts with properties := parts.properties ++ result.toList } where
  properties := by
    rw [shown_append_of_mem visible isProperty (by simp)]
    exact ShowsAll.append lists.properties shows
  methods := by
    rw [shown_append_of_not_mem (by simp [isProperty])]
    exact lists.methods
  accessors := by
    rw [shown_append_of_not_mem (by simp [isProperty])]
    exact lists.accessors
  inProperties node member := by
    rcases List.mem_append.1 member with earlier | last
    · exact lists.inProperties node earlier
    · exact accounted node (Option.mem_toList.1 last)
  inMethods := lists.inMethods
  inAccessors := lists.inAccessors

theorem addMethod (visible : isShown plan symbol = true)
    (isMethod : symbol.kind = some .method) {method : Method}
    (isOf : method.header.IsOf symbol)
    (accounted : ∀ node ∈ method.nodes, node.IsAccounted law plan s) :
    ClassParts.Lists law plan s (before ++ [symbol])
      { parts with methods := parts.methods ++ [method] } where
  properties := by
    rw [shown_append_of_not_mem (by simp [isMethod])]
    exact lists.properties
  methods := by
    rw [shown_append_of_mem visible isMethod (by simp)]
    exact List.rel_append lists.methods (.cons isOf .nil)
  accessors := by
    rw [shown_append_of_not_mem (by simp [isMethod])]
    exact lists.accessors
  inProperties := lists.inProperties
  inMethods other member := by
    rcases List.mem_append.1 member with earlier | last
    · exact lists.inMethods other earlier
    · exact List.mem_singleton.1 last ▸ accounted
  inAccessors := lists.inAccessors

theorem addAccessor (visible : isShown plan symbol = true)
    (isAccessor : symbol.kind = some .getter ∨ symbol.kind = some .setter)
    {accessor : Accessor} (isOf : accessor.header.IsOf symbol)
    (accounted : ∀ node ∈ accessor.nodes, node.IsAccounted law plan s) :
    ClassParts.Lists law plan s (before ++ [symbol])
      { parts with accessors := parts.accessors ++ [accessor] } where
  properties := by
    rw [shown_append_of_not_mem (by rcases isAccessor with isKind | isKind <;> simp [isKind])]
    exact lists.properties
  methods := by
    rw [shown_append_of_not_mem (by rcases isAccessor with isKind | isKind <;> simp [isKind])]
    exact lists.methods
  accessors := by
    have added : plan.shown [.getter, .setter] (before ++ [symbol]) =
        plan.shown [.getter, .setter] before ++ [symbol] := by
      rcases isAccessor with isKind | isKind
      · exact shown_append_of_mem visible isKind (by simp)
      · exact shown_append_of_mem visible isKind (by simp)
    rw [added]
    exact List.rel_append lists.accessors (.cons isOf .nil)
  inProperties := lists.inProperties
  inMethods := lists.inMethods
  inAccessors other member := by
    rcases List.mem_append.1 member with earlier | last
    · exact lists.inAccessors other earlier
    · exact List.mem_singleton.1 last ▸ accounted

end ClassParts.Lists

section Classes

variable {below : Below} (accounts : Accounts law plan below)

include accounts

/-- A further member of a class is listed behind those before it. -/
theorem addMember_yields (before : List Symbol) (parts : ClassParts) {symbol : Symbol}
    (declared : symbol.IsDeclared law) :
    Yields law (fun s next => parts.Lists law plan s before →
      next.Lists law plan s (before ++ [symbol])) (addMember plan below parts symbol) := by
  unfold addMember
  split
  · next hidden =>
      have hidden : isShown plan symbol = false := by simpa using hidden
      exact .pure fun s lists => lists.skip fun kinds _ => shown_append_of_hidden hidden
  · next visible =>
      have visible : isShown plan symbol = true := by simpa using visible
      split
      · next isProperty =>
          refine (property_yields accounts declared).bind fun result _ => ?_
          exact .pure fun s new lists => lists.addProperty visible isProperty new.1 new.2
      · next isMethod =>
          refine (method_yields accounts declared).bind fun added _ => ?_
          exact .pure fun s new lists => lists.addMethod visible isMethod new.1 new.2
      · next isGetter =>
          refine (accessor_yields accounts declared).bind fun added _ => ?_
          exact .pure fun s new lists => lists.addAccessor visible (.inl isGetter) new.1 new.2
      · next isSetter =>
          refine (accessor_yields accounts declared).bind fun added _ => ?_
          exact .pure fun s new lists => lists.addAccessor visible (.inr isSetter) new.1 new.2
      · next noProperty noMethod noGetter noSetter =>
          refine .pure fun s lists => lists.skip fun kinds among => shown_append_of_not_mem ?_
          intro kind isKind
          simp only [List.mem_cons, List.not_mem_nil, or_false] at among
          rcases among with rfl | rfl | rfl <;> simp_all

theorem classType_yields (u : TypeId) (context : Context) :
    Yields law (fun s node => node.IsBuilt law plan s u context)
      (classType plan below u context) := by
  unfold classType
  refine .askThen (Inquiry.classMembers u).steady (Checker.classMembers_sound u)
    fun symbols declared => ?_
  refine (Yields.foldlM (fun before parts symbol among =>
    addMember_yields accounts before parts (declared symbol among)) [] {}).bind fun parts _ => ?_
  refine .askThen (Inquiry.constructs u).steady (Checker.constructs_sound u)
    fun constructs parameters => ?_
  refine (Yields.mapM_all fun call among => signature_yields accounts
    (parameters call among)).bind fun constructors _ => ?_
  refine .pure fun s inConstructors _ gathered found => ?_
  have lists := gathered ⟨⟨[], .nil, rfl⟩, .nil, .nil, by simp, by simp, by simp⟩
  rw [List.nil_append] at lists
  refine ⟨rfl, ⟨rfl, rfl⟩, ⟨symbols, found, lists.properties, lists.methods, ?_⟩, ?_⟩
  · rw [getD_nonempty]
    exact lists.accessors
  · intro child member
    simp only [Node.children, List.mem_append, List.mem_flatMap, mem_getD_nonempty] at member
    rcases member with ((property | ⟨method, among, inside⟩) | ⟨accessor, among, inside⟩) |
      ⟨constructor, among, inside⟩
    · exact lists.inProperties child property
    · exact lists.inMethods method among child inside
    · exact lists.inAccessors accessor among child inside
    · exact inConstructors constructor among child inside

/-- The node that is built for a type accounts for all that it is made of. -/
theorem expanded_yields (u : TypeId) (category : Category) (context : Context) :
    Yields law (fun s node => context.IsPlaced law plan s → node.IsBuilt law plan s u context)
      (expanded plan below u category context) := by
  have anywhere {x : ResolveM Node}
      (built : Yields law (fun s node => node.IsBuilt law plan s u context) x) :
      Yields law (fun s node => context.IsPlaced law plan s → node.IsBuilt law plan s u context)
        x :=
    built.weaken fun _ _ holds _ => holds
  have leaf : Yields law
      (fun s node => context.IsPlaced law plan s → node.IsBuilt law plan s u context)
      (pure context.reference) :=
    .pure fun s _ => context.isBuilt_reference s u
  cases category with
  | object => exact objectOrCallable_yields accounts u context
  | union => exact anywhere (union_yields accounts u context)
  | intersection => exact anywhere (intersection_yields accounts u context)
  | array => exact array_yields accounts u context
  | tuple => exact anywhere (tuple_yields accounts u context)
  | function => exact anywhere (callable_yields accounts u context)
  | classType => exact anywhere (classType_yields accounts u context)
  | enum =>
      refine .askThen (Inquiry.enumMembers u).steady
        (Checker.readPart_safe [.enum] u .enumMembers _) fun members _ => ?_
      exact .pure fun s _ _ => ⟨rfl, ⟨rfl, rfl⟩, trivial, by simp [Node.children]⟩
  | generic => exact generic_yields accounts u context
  | primitive => exact leaf
  | literal => exact leaf
  | named => exact leaf
  | computed => exact leaf

end Classes

end Builder

/-! ## Resolutions -/

namespace Resolution

/-- A type that is not rejected is one that the filter admits. -/
theorem admits_of_not_isRejected {s : State} {u : TypeId} {r : TypeFacts} {context : Context}
    {enclosing : Option Declaration} (described : context.Describes s u r enclosing)
    (passes : isRejected plan context.metadata = false) :
    plan.Admits s (.below enclosing) r := by
  intro symbol found
  obtain ⟨metadata, known, noted⟩ := described.metadata symbol found
  refine ⟨metadata, known, ?_⟩
  cases name : metadata.name with
  | none => exact .inl rfl
  | some text => exact .inr (by simpa [isRejected, noted, name] using passes)

/-- A node that is built for a type in its context documents the type. -/
theorem documents_of_isBuilt {s : State} {t u : TypeId} {r : TypeFacts} {context : Context}
    {enclosing : Option Declaration} (leads : (Way.below enclosing).IsOpen law plan s)
    (simple : s.Finds (Checker.simplified t) (some u))
    (described : context.Describes s u r enclosing) {node : Node}
    (built : node.IsBuilt law plan s u context)
    (admits : node.isExpanded = true → plan.Admits s (.below enclosing) r) :
    node.Documents law plan s (.below enclosing) t := by
  refine ⟨u, r, simple, ⟨leads, ⟨described.known, ?_, ?_⟩, ?_⟩, built.below⟩
  · rw [built.type]
    exact described.text
  · have located := built.located
    rw [described.location] at located
    exact located
  · exact fun more => ⟨admits more, built.lists⟩

/-- A visit builds a node, or leaves a reference in its place. -/
theorem visit_yields {descend : TypeId → Category → Context → ResolveM Node}
    (each : ∀ u category context, Yields law
      (fun s node => context.IsPlaced law plan s → node.IsBuilt law plan s u context)
      (descend u category context)) (t : TypeId) {enclosing : Option Declaration}
    (lawful : ∀ declaration ∈ enclosing, declaration.Obeys law) :
    Yields law (fun s result => Builder.Resolves law plan s (.below enclosing) t result)
      (visit plan descend t enclosing) := by
  unfold visit
  refine .askThen (Inquiry.simplified t).steady (Checker.simplified_safe t) fun simple _ => ?_
  split
  · refine .askThen (Inquiry.text t).steady (Checker.text_safe t) fun _ _ => ?_
    exact .pure fun s _ gone => gone
  · next u =>
      refine .askThen (Inquiry.category u).steady (Check.category_safe u) fun category _ => ?_
      refine (Context.ofType_yields u enclosing).bind fun context _ => ?_
      split
      · refine (Builder.primitive_yields plan u category context).map ?_
        rintro s node ⟨built, leaf⟩ ⟨r, described⟩ _ simple
        exact documents_of_isBuilt lawful simple described built (by simp [leaf])
      · split
        · refine .pure ?_
          rintro s ⟨r, described⟩ _ simple
          exact documents_of_isBuilt lawful simple described (context.isBuilt_reference s u)
            (by simp [Context.reference, Node.isExpanded])
        · next passes =>
            have passes : isRejected plan context.metadata = false := by simpa using passes
            refine (each u category context).map ?_
            rintro s node built ⟨r, described⟩ _ simple
            have placed : context.IsPlaced law plan s :=
              ⟨enclosing, u, r, lawful, described.known, described.location⟩
            exact documents_of_isBuilt lawful simple described (built placed)
              fun _ => admits_of_not_isRejected described passes

/-- Every node of what a type is resolved to stands for something. -/
theorem resolve_yields (plan : Plan) (remaining : Nat) :
    Builder.Accounts law plan (resolve plan remaining) := by
  induction remaining with
  | zero =>
      refine visit_yields fun u category context => ?_
      exact .pure fun s _ => context.isBuilt_reference s u
  | succ fewer ih =>
      refine visit_yields fun u category context => .expanding (fun entered => ?_) u
      split
      · exact Builder.expanded_yields ih u category context
      · exact .pure fun s _ => context.isBuilt_reference s u

/-- A resolution with a guard of its own. -/
theorem run_sound {α : Type} {P : State → α → Prop} {body : ResolveM α}
    (yields : Yields law P body) {s : State} (lawful : s.Lawful law) :
    (after (run body) s).Lawful law ∧ (s.Keyed → (after (run body) s).Keyed) ∧
      ∀ a, outcome (run body) s = .ok a → P (after (run body) s) a :=
  ⟨yields.lawful { checker := s } lawful, yields.keyed { checker := s } lawful, fun _ returned =>
    yields.holds { checker := s } lawful returned (.refl _)⟩

/-- How the type of a whole tree is met. -/
def wayOf (declaration : Option Declaration) : Way :=
  declaration.elim (.below none) .root

/-- A resolution leaves the state that the descent into the type leaves. -/
theorem after_resolveType (plan : Plan) (t : TypeId) (declaration : Option Declaration)
    (s : State) : after (resolveType plan t declaration) s =
      after (run (resolve plan plan.settings.maxDepth.toNat t declaration)) s := by
  cases returned : outcome (run (resolve plan plan.settings.maxDepth.toNat t declaration)) s with
  | error fault => rw [resolveType, after_bind_error returned]
  | ok node =>
      rw [resolveType, after_bind_ok returned]
      cases declaration <;> rfl

theorem resolveType_safe (plan : Plan) (t : TypeId) {declaration : Option Declaration}
    (obeys : ∀ known ∈ declaration, known.Obeys law) :
    Safe law (resolveType plan t declaration) where
  lawful lawful := by
    rw [after_resolveType]
    exact (run_sound (resolve_yields plan _ t obeys) lawful).1
  keyed lawful keyed := by
    rw [after_resolveType]
    exact (run_sound (resolve_yields plan _ t obeys) lawful).2.1 keyed
  holds _ _ := trivial

/-- The tree of a type that is asked for in a lawful state. -/
theorem resolveType_documents {s : State} (lawful : s.Lawful law) {t : TypeId}
    {declaration : Option Declaration} (obeys : ∀ known ∈ declaration, known.Obeys law)
    {tree : Node} (returned : outcome (resolveType plan t declaration) s = .ok (some tree)) :
    tree.Documents law plan (after (resolveType plan t declaration) s) (wayOf declaration) t := by
  rw [after_resolveType]
  obtain ⟨result, resolved, rooted⟩ := outcome_bind_eq_ok returned
  have documents := (run_sound (resolve_yields plan _ t obeys) lawful).2.2 result resolved
  cases declaration with
  | none =>
      cases rooted
      exact documents
  | some declaration =>
      cases result with
      | none => cases rooted
      | some node =>
          cases rooted
          exact documents.mapHeader (obeys declaration rfl) rfl rfl fun _ => ⟨rfl, rfl⟩

theorem resolveProperties_safe (plan : Plan) (t : TypeId) {declaration : Option Declaration}
    (obeys : ∀ known ∈ declaration, known.Obeys law) :
    Safe law (resolveProperties plan t declaration) := by
  refine (resolveType_safe plan t obeys).bind fun node => ?_
  split
  · exact .pure trivial
  · exact .pure trivial

theorem resolveDeclaration_safe (plan : Plan) (path name : String) :
    Safe law (resolveDeclaration plan path name) := by
  refine (Checker.declarationByName_sound path name).bind fun declaration obeys => ?_
  refine (Checker.typeOfDeclaration_safe obeys).bind fun t => ?_
  exact resolveType_safe plan t (by simpa using obeys)

end Resolution

/-! ## Histories -/

/-- What can be asked of a checker, where nothing is handed in that breaks a law. -/
inductive Operation.Obeys (law : Tree.Law) : {α : Type} → CheckM α → Prop where
  | request {α : Type} {question : CheckM α} (asked : Request law question) :
      Operation.Obeys law question
  | resolveType (plan : Plan) (t : TypeId) {declaration : Option Declaration}
      (obeys : ∀ known ∈ declaration, known.Obeys law) :
      Operation.Obeys law (Resolution.resolveType plan t declaration)
  | resolveProperties (plan : Plan) (t : TypeId) {declaration : Option Declaration}
      (obeys : ∀ known ∈ declaration, known.Obeys law) :
      Operation.Obeys law (Resolution.resolveProperties plan t declaration)
  | resolveDeclaration (plan : Plan) (path name : String) :
      Operation.Obeys law (Resolution.resolveDeclaration plan path name)

theorem Operation.Obeys.safe {α : Type} {x : CheckM α} (obeys : Operation.Obeys law x) :
    Safe law x := by
  cases obeys with
  | request asked => exact asked.safe
  | resolveType plan t obeys => exact Resolution.resolveType_safe plan t obeys
  | resolveProperties plan t obeys => exact Resolution.resolveProperties_safe plan t obeys
  | resolveDeclaration plan path name => exact Resolution.resolveDeclaration_safe plan path name

/-- An event that brings nothing to a checker that breaks a law. -/
def Event.Obeys (law : Tree.Law) : Event → Prop
  | .asked x _ => Operation.Obeys law x
  | .added _ root => law.holds root

/-- No event breaks the law that everything obeys. -/
theorem Event.obeys_free (event : Event) : event.Obeys .free := by
  cases event with
  | asked x operation =>
      cases operation with
      | inquiry asked => exact .request asked.request
      | resolveType plan t declaration =>
          exact .resolveType plan t fun known _ => known.obeys_free
      | resolveProperties plan t declaration =>
          exact .resolveProperties plan t fun known _ => known.obeys_free
      | resolveDeclaration plan path name => exact .resolveDeclaration plan path name
  | added path root => trivial

namespace State.Lawful

theorem apply {s : State} (lawful : s.Lawful law) {event : Event} (obeys : event.Obeys law) :
    (event.apply s).Lawful law := by
  cases event with
  | asked x operation => exact Operation.Obeys.safe obeys |>.lawful lawful
  | added path root => exact lawful.addSource path obeys

theorem through {s : State} (lawful : s.Lawful law) {history : List Event}
    (obey : ∀ event ∈ history, event.Obeys law) : (s.through history).Lawful law := by
  induction history generalizing s with
  | nil => exact lawful
  | cons event rest ih =>
      refine ih (lawful.apply (obey event List.mem_cons_self)) fun later among => ?_
      exact obey later (List.mem_cons_of_mem _ among)

/-- Every state that a checker can come to obeys the law that everything obeys. -/
theorem reachable (identity : Nat) (settings : SourceSettings) (history : List Event) :
    (State.through { identity, settings } history).Lawful .free :=
  (start identity settings).through fun event _ => event.obeys_free

end State.Lawful

namespace State.Keyed

theorem apply {s : State} (lawful : s.Lawful law) (keyed : s.Keyed) {event : Event}
    (obeys : event.Obeys law) : (event.apply s).Keyed := by
  cases event with
  | asked x operation => exact Operation.Obeys.safe obeys |>.keyed lawful keyed
  | added path root => exact addSource path root s

theorem through {s : State} (lawful : s.Lawful law) (keyed : s.Keyed) {history : List Event}
    (obey : ∀ event ∈ history, event.Obeys law) : (s.through history).Keyed := by
  induction history generalizing s with
  | nil => exact keyed
  | cons event rest ih =>
      have first := obey event List.mem_cons_self
      refine ih (lawful.apply first) (keyed.apply lawful first) fun later among => ?_
      exact obey later (List.mem_cons_of_mem _ among)

/-- In every state that a checker can come to, every key has a type of its own. -/
theorem reachable (identity : Nat) (settings : SourceSettings) (history : List Event) :
    (State.through { identity, settings } history).Keyed := by
  have lawful : State.Lawful .free { identity, settings } := .start identity settings
  exact through lawful (start identity settings) fun event _ => event.obeys_free

end State.Keyed

end TypeGloss
