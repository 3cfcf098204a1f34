/-
# TypeGloss.Proofs.Resolution.Making — builders make what is said of them

Every builder makes of a type what `Made` says, if that is so of the types below: it asks for
the answers that `Made` speaks of, and they are found again at every later time (`Yields`). The
argument goes through each builder once.
-/
import TypeGloss.Proofs.Checker.Simplifying
import TypeGloss.Proofs.Resolution.Made

namespace TypeGloss

set_option autoImplicit false

/-! ## Questions -/

/-- What is remembered of an inquiry is found again. -/
theorem State.Recalls.finds {α : Type} {s : State} {question : CheckM α} {answer : α}
    (recalled : s.Recalls question answer) (inquiry : Inquiry question) :
    s.Finds question answer :=
  (recalled.tells inquiry.steady).now

namespace Yields

variable {α β : Type} {Q : State → β → Prop}

/-- The answer to an inquiry is found again. -/
theorem answered {question : CheckM α} (inquiry : Inquiry question) :
    Yields .free (fun s a => s.Finds question a) (liftM question : ResolveM α) :=
  (asked inquiry.steady inquiry.request.safe).weaken fun _ _ known => known.1

/-- That an inquiry was answered is remembered. -/
theorem remembered {question : CheckM α} (inquiry : Inquiry question) :
    Yields .free (fun s a => s.Recalls question a) (liftM question : ResolveM α) where
  lawful := (answered inquiry).lawful
  keyed := (answered inquiry).keyed
  extended := (answered inquiry).extended
  holds _ _ _ _ returned extended := ⟨_, returned, extended⟩

/-- What is had before is remembered afterwards. -/
theorem recalls {P : State → α → Prop} {x : ResolveM α} (yields : Yields .free P x)
    {resolution : Resolution} (lawful : resolution.checker.Lawful .free) {question : CheckM β}
    {answer : β} (has : resolution.checker.Has question answer) :
    (after x resolution).checker.Recalls question answer := by
  have unchanged : after question resolution.checker = resolution.checker := congrArg Prod.snd has
  exact ⟨_, congrArg Prod.fst has, unchanged.symm ▸ yields.extended resolution lawful⟩

/-- An inquiry whose answer is used for what follows. -/
theorem inquire {question : CheckM α} {f : α → ResolveM β} (inquiry : Inquiry question)
    (rest : ∀ a, Yields .free (fun s b => s.Finds question a → Q s b) (f a)) :
    Yields .free Q (liftM question >>= f) :=
  (answered inquiry).bind fun a _ => rest a

end Yields

namespace Builder

variable {plan : Plan} {below : Below} {R : State → Made.Below}

/-- A default is attached exactly if the declaration gives one. -/
theorem attachDefault_made (declaration : Option Declaration) (patterns : List Cursor)
    (node : Node) :
    Yields .free (fun s found => ∃ value, Made.IsDefault s declaration patterns value ∧
      found = node.attach value) (attachDefault declaration patterns node) := by
  unfold attachDefault
  cases declaration with
  | none => exact .pure fun s => ⟨none, .undeclared, rfl⟩
  | some declaration =>
      dsimp only
      split
      · next bare =>
          simp only [Bool.and_eq_true, Option.isNone_iff_eq_none, List.isEmpty_iff] at bare
          obtain ⟨plain, rfl⟩ := bare
          exact .pure fun s => ⟨none, .bare plain, rfl⟩
      · next declares =>
          have declares : Checker.initializer? declaration ≠ none ∨ patterns ≠ [] := by
            simpa [-not_and, not_and_or] using declares
          refine .inquire (.defaultOf _ _ _) fun value => ?_
          split
          · exact .pure fun s given => ⟨_, .evaluated declares given, rfl⟩
          · exact .pure fun s given => ⟨_, .evaluated declares given, rfl⟩

theorem primitive_made (u : TypeId) (category : Category) (context : Context) :
    Yields .free (fun s node => Made.Leaf s u category context node)
      (primitive u category context) := by
  unfold primitive
  refine .inquire (.primitive u) fun keyword => ?_
  dsimp only
  split
  · next isLiteral =>
      refine .inquire (.literalValue u) fun value => ?_
      exact .pure fun s valued known => .literal known isLiteral valued
  · next isKeyword => exact .doneThen (.pure fun s known => .keyword known isKeyword)

section Builders

variable (made : ∀ t enclosing,
  Yields .free (fun s result => R s t enclosing result) (below t enclosing))

include made

/-! ## Properties and parameters -/

theorem property_made (symbol : Symbol) :
    Yields .free (fun s result => Made.Property plan s (R s) symbol result)
      (property plan below symbol) := by
  unfold property
  refine .inquire (.ofSymbol symbol none) fun metadata => ?_
  refine .inquire (.typeOfSymbol symbol) fun t => ?_
  split
  · next rejects =>
      have rejects : plan.accepts metadata = false := by simpa using rejects
      refine .inquire (.text t) fun text => .inquire (.locate t _ _) fun location => ?_
      exact .pure fun s located written typed known => .rejected known typed rejects written located
  · next accepts =>
      have accepts : plan.accepts metadata = true := by simpa using accepts
      refine (made t symbol.declaration).bind fun result _ => ?_
      cases result with
      | none => exact .pure fun s nothing typed known => .gone known typed accepts nothing
      | some node =>
          refine (attachDefault_made _ _ _).map ?_
          rintro s _ ⟨value, given, rfl⟩ inside typed known
          exact .shown known typed accepts inside given

theorem properties_made (symbols : List Symbol) :
    Yields .free (fun s nodes => Made.Properties plan s (R s) symbols nodes)
      (properties plan below symbols) := by
  unfold properties
  refine (Yields.mapM fun symbol _ => property_made made symbol).bind fun results _ => ?_
  exact .pure fun s each => .mk each

theorem parameter_made (symbol : Symbol) :
    Yields .free (fun s result => Made.Parameter s (R s) symbol result)
      (parameter below symbol) := by
  unfold parameter
  refine .inquire (.typeOfSymbol symbol) fun t => ?_
  refine (made t symbol.declaration).bind fun result _ => ?_
  cases result with
  | none => exact .pure fun s nothing typed => .gone typed nothing
  | some node =>
      refine (attachDefault_made _ _ _).map ?_
      rintro s _ ⟨value, given, rfl⟩ inside typed
      exact .shown typed inside given

/-! ## Signatures -/

theorem signature_made (call : CallSignature) :
    Yields .free (fun s found => Made.Signature s (R s) call found) (signature below call) := by
  unfold signature
  refine (Yields.mapM fun symbol _ => parameter_made made symbol).bind fun results _ => ?_
  refine .inquire (.text _) fun returnType => ?_
  exact .pure fun s returns each => .mk each returns

theorem componentSignature_made (call : CallSignature) :
    Yields .free (fun s found => Made.ComponentSignature s (R s) call found)
      (componentSignature below call) := by
  unfold componentSignature
  dsimp only
  split
  · next first rest takes =>
      refine (parameter_made made first).bind fun result _ => ?_
      refine .inquire (.text _) fun returnType => ?_
      exact .pure fun s returns each => .props takes each returns
  · next takes =>
      refine .doneThen (.inquire (.text _) fun returnType => ?_)
      exact .pure fun s returns => .bare takes returns

theorem callable_made (t : TypeId) (context : Context) :
    Yields .free (fun s node => Made.Callable plan s (R s) t context node)
      (callable plan below t context) := by
  -- Whatever the categories of the parameters are, the signatures are built in one of two ways.
  have built (calls : List CallSignature) (categories : List Category) :
      Yields .free
        (fun s node => List.Forall₂ (fun symbol category =>
            s.Finds (parameterCategory symbol) category) (Made.firstParameters calls) categories →
          s.Finds (Checker.calls t) calls → Made.Callable plan s (R s) t context node)
        (if Made.isComponent plan context categories = true then do
            return .component (context.header .component)
              (← calls.mapM (componentSignature below))
          else do
            return .function (context.header .function) (← calls.mapM (signature below))) := by
    split
    · next fits =>
        refine (Yields.mapM fun call _ => componentSignature_made made call).bind fun _ _ => ?_
        exact .pure fun s each categorized called => .component called categorized fits each
    · next misfits =>
        have misfits : Made.isComponent plan context categories = false := by simpa using misfits
        refine (Yields.mapM fun call _ => signature_made made call).bind fun _ _ => ?_
        exact .pure fun s each categorized called => .function called categorized misfits each
  unfold callable
  refine .inquire (.calls t) fun calls => ?_
  dsimp only
  split
  · next first rest =>
      refine (Yields.mapM fun symbol _ => .answered (.parameterCategory symbol)).bind
        fun categories _ => ?_
      exact built (first :: rest) categories
  · exact .doneThen ((built [] []).weaken fun s node holds called => holds .nil called)

/-! ## Objects -/

theorem kept_made (context : Context) (t : TypeId) :
    Yields .free (fun s node => Made.Kept s (R s) context t node) (kept below context t) := by
  unfold kept
  refine (made t none).bind fun result _ => ?_
  cases result with
  | none =>
      exact .inquire (.text t) fun text => .pure fun s written nothing => .gone nothing written
  | some node => exact .pure fun s inside => .shown inside

theorem index_made (context : Context) (entry : IndexEntry) :
    Yields .free (fun s found => Made.Index s (R s) context entry found)
      (index below context entry) := by
  unfold index
  refine (kept_made made context entry.keyType).bind fun key _ => ?_
  refine (kept_made made context entry.valueType).bind fun value _ => ?_
  exact .pure fun s valued keyed => .mk keyed valued

theorem object_made (t : TypeId) (context : Context) :
    Yields .free (fun s node => Made.Object plan s (R s) t context node)
      (object plan below t context) := by
  unfold object
  refine .inquire (.indexes t) fun entries => ?_
  refine (Yields.mapM fun entry _ => index_made made context entry).bind fun indexes _ => ?_
  refine .inquire (.properties t) fun symbols => ?_
  refine (properties_made made symbols).bind fun nodes _ => ?_
  exact .pure fun s shown listed each indexed => .mk indexed each listed shown

theorem objectOrCallable_made (t : TypeId) (context : Context) :
    Yields .free (fun s node => Made.ObjectOrCallable plan s (R s) t context node)
      (objectOrCallable plan below t context) := by
  unfold objectOrCallable
  refine .inquire (.properties t) fun symbols => ?_
  dsimp only
  split
  · next empty =>
      obtain rfl := List.isEmpty_iff.1 empty
      refine .inquire (.calls t) fun calls => ?_
      split
      · next uncalled =>
          obtain rfl := List.isEmpty_iff.1 uncalled
          exact (object_made made t context).weaken fun s node object called listed =>
            .object listed (fun _ => called) object
      · next some =>
          have some : calls ≠ [] := by simpa using some
          exact (callable_made made t context).weaken fun s node callable called listed =>
            .callable listed called some callable
  · next filled =>
      refine .doneThen ?_
      simp only [List.isEmpty_nil, if_true]
      refine (object_made made t context).weaken fun s node object listed => ?_
      exact .object listed (fun empty => absurd (List.isEmpty_iff.2 empty) filled) object

/-! ## Unions, intersections, arrays, tuples -/

theorem union_made (t : TypeId) (context : Context) :
    Yields .free (fun s node => Made.Union s (R s) t context node) (union below t context) := by
  unfold union
  refine .inquire (.unionMembers t) fun members => ?_
  refine (Yields.mapM fun member _ => made member none).bind fun results _ => ?_
  exact .pure fun s each joined => .mk joined each

omit made in
/-- A constituent that is flattened comes to an object. -/
theorem isObject_of_isFlattened {s : State} {t : TypeId}
    (recalled : s.Recalls (isFlattened plan t) true) :
    ∃ u r, s.Recalls (Checker.simplified t) (some u) ∧ s.records[u]? = some r ∧
      r.category = .object := by
  unfold isFlattened at recalled
  split at recalled
  · cases recalled.pure
  · obtain ⟨simple, known, rest⟩ := recalled.bind fun simple => by
      split
      · exact (Inquiry.isAnonymousObject _).steady.first
      · exact .pure _
    split at rest
    · next u =>
        have told := (rest.tells (Inquiry.isAnonymousObject u).steady).now
        obtain ⟨facts, found, holds⟩ := outcome_bind_eq_ok told
        obtain ⟨r, recorded, rfl⟩ := Check.outcome_facts_eq_ok.1 found
        have anonymous := Except.ok.inj holds
        simp only [Bool.and_eq_true, decide_eq_true_eq] at anonymous
        exact ⟨u, r, known, recorded, anonymous.1.1.1⟩
    · cases rest.pure

theorem constituent_made (t : TypeId) :
    Yields .free (fun s nodes => Made.Constituent plan s (R s) t nodes)
      (constituent plan below t) := by
  unfold constituent
  refine ((Yields.remembered (.isFlattened plan t)).and (isFlattened_yields t)).bind
    fun flattened _ => ?_
  split
  · next flat =>
      subst flat
      refine .inquire (.properties t) fun symbols => ?_
      refine (properties_made made symbols).weaken fun s nodes shown listed ⟨recalled, known⟩ => ?_
      obtain ⟨u, r, simple, recorded, isObject⟩ := isObject_of_isFlattened recalled
      obtain ⟨flat, unnamed⟩ := known
      obtain ⟨v, r', simple', facts, unnamed⟩ := unnamed rfl
      -- What the constituent comes to is told of a record, which is the one that is found.
      obtain rfl : u = v := by
        have again := (simple.tells (Inquiry.simplified t).steady).now
        exact Option.some.inj (Except.ok.inj (again.symm.trans simple'))
      obtain ⟨r'', recorded', rfl⟩ := Check.outcome_facts_eq_ok.1 facts
      obtain rfl : r = r'' := Option.some.inj (recorded.symm.trans recorded')
      have apparent : s.Finds (Checker.properties u) symbols :=
        (Checker.outcome_properties simple recorded (by simp [isObject])).symm.trans listed
      exact .flattened flat simple' facts isObject unnamed listed apparent shown
  · next whole =>
      obtain rfl : flattened = false := by simpa using whole
      refine (made t none).bind fun result _ => ?_
      exact .pure fun s inside ⟨_, known⟩ => .nested known.1 inside

/-- An intersection is made from the nodes of its constituents. -/
theorem intersection_made (t : TypeId) (context : Context) :
    Yields .free (fun s node => Made.Intersection plan s (R s) t context node)
      (intersection plan below t context) := by
  unfold intersection
  refine .inquire (.intersectionMembers t) fun members => ?_
  refine (Yields.mapM fun member _ => constituent_made made member).bind fun chunks _ => ?_
  exact .pure fun s each joined => .mk joined each

theorem array_made (t : TypeId) (context : Context) :
    Yields .free (fun s node => Made.Array s (R s) t context node) (array below t context) := by
  unfold array
  refine .inquire (.element t) fun element => ?_
  dsimp only
  split
  · refine (kept_made made context _).bind fun node _ => ?_
    exact .pure fun s kept known => .element known kept
  · exact .doneThen (.pure fun s absent => .unknown absent)

theorem tuple_made (t : TypeId) (context : Context) :
    Yields .free (fun s node => Made.Tuple s (R s) t context node) (tuple below t context) := by
  have item (entry : TupleItem) :
      Yields .free (fun s result => Made.Item (R s) entry result) (do
        return (← below entry.type none).map (Node.mapHeader (tupleHeader entry))) :=
    (made entry.type none).bind fun result _ => .pure fun s inside => .mk inside
  unfold tuple
  refine .inquire (.tupleItems t) fun items => ?_
  refine (Yields.mapM fun entry _ => item entry).bind fun results _ => ?_
  exact .pure fun s each joined => .mk joined each

theorem generic_made (t : TypeId) (context : Context) :
    Yields .free (fun s node => Made.Generic s (R s) t context node)
      (generic below t context) := by
  unfold generic
  refine .inquire (.arguments t) fun args => ?_
  refine (Yields.mapM fun arg _ => kept_made made context arg).bind fun nodes _ => ?_
  refine .inquire (.name t) fun name => ?_
  exact .pure fun s named each applied => .mk applied each named

omit made in
theorem enum_made (t : TypeId) (context : Context) :
    Yields .free (fun s node => Made.Enum s t context node) (enum t context) := by
  unfold enum
  exact .inquire (.enumMembers t) fun members => .pure fun s listed => .mk listed

/-! ## Classes -/

theorem method_made (symbol : Symbol) :
    Yields .free (fun s found => Made.Method s (R s) symbol found) (method below symbol) := by
  unfold method
  refine .inquire (.typeOfSymbol symbol) fun t => ?_
  refine .inquire (.text t) fun text => ?_
  refine .inquire (.calls t) fun calls => ?_
  refine (Yields.mapM fun call _ => signature_made made call).bind fun signatures _ => ?_
  refine .inquire (.ofSymbol symbol none) fun metadata => ?_
  exact .pure fun s known each called written typed => .mk typed written called each known

theorem accessor_made (symbol : Symbol) :
    Yields .free (fun s found => Made.Accessor s (R s) symbol found) (accessor below symbol) := by
  unfold accessor
  refine .inquire (.typeOfSymbol symbol) fun t => ?_
  refine .inquire (.calls t) fun calls => ?_
  refine .inquire (.ofSymbol symbol none) fun metadata => ?_
  split
  · next gets =>
      refine .inquire (.getterType calls) fun type => ?_
      exact .pure fun s got known called typed => .getter typed called known gets got
  · next sets =>
      dsimp only
      split
      · next first takes =>
          refine (parameter_made made first).bind fun result _ => ?_
          exact .pure fun s each known called typed =>
            .setter typed called known sets (.present takes each)
      · next takes =>
          exact .doneThen (.pure fun s known called typed =>
            .setter typed called known sets (.absent takes))

end Builders

end Builder

/-! ## Members of classes -/

namespace Made

open Builder (ClassParts shown_append_of_mem shown_append_of_not_mem shown_append_of_hidden)

variable {plan : Plan} {s : State} {below : Below} {before : List Symbol} {symbol : Symbol}
  {parts : ClassParts}

/-- One more property is shown behind the others. -/
theorem Properties.append {nodes : List Node} {result : Option Node}
    (shown : Properties plan s below before nodes) (made : Property plan s below symbol result) :
    Properties plan s below (before ++ [symbol]) (nodes ++ result.toList) := by
  obtain ⟨each⟩ := shown
  have longer := Properties.mk (List.rel_append each (.cons made .nil))
  cases result <;> simpa using longer

namespace Members

variable (members : Members plan s below before parts)

include members

/-- A member that is hidden, or neither a property nor a method nor an accessor. -/
theorem skip (unseen : ∀ kinds ∈ [[MemberKind.property], [.method], [.getter, .setter]],
      plan.shown kinds (before ++ [symbol]) = plan.shown kinds before) :
    Members plan s below (before ++ [symbol]) parts where
  properties := by
    rw [unseen _ (by simp)]
    exact members.properties
  methods := by
    rw [unseen _ (by simp)]
    exact members.methods
  accessors := by
    rw [unseen _ (by simp)]
    exact members.accessors

variable (visible : Builder.isShown plan symbol = true)

include visible

/-- A property is listed among the properties of the class. -/
theorem addProperty (isProperty : symbol.kind = some .property) {result : Option Node}
    (made : Property plan s below symbol result) :
    Members plan s below (before ++ [symbol])
      { parts with properties := parts.properties ++ result.toList } where
  properties := by
    rw [shown_append_of_mem visible isProperty (by simp)]
    exact members.properties.append made
  methods := by
    rw [shown_append_of_not_mem (by simp [isProperty])]
    exact members.methods
  accessors := by
    rw [shown_append_of_not_mem (by simp [isProperty])]
    exact members.accessors

theorem addMethod (isMethod : symbol.kind = some .method) {method : TypeGloss.Method}
    (made : Method s below symbol method) :
    Members plan s below (before ++ [symbol])
      { parts with methods := parts.methods ++ [method] } where
  properties := by
    rw [shown_append_of_not_mem (by simp [isMethod])]
    exact members.properties
  methods := by
    rw [shown_append_of_mem visible isMethod (by simp)]
    exact List.rel_append members.methods (.cons made .nil)
  accessors := by
    rw [shown_append_of_not_mem (by simp [isMethod])]
    exact members.accessors

theorem addAccessor (isAccessor : symbol.kind = some .getter ∨ symbol.kind = some .setter)
    {accessor : TypeGloss.Accessor}
    (made : Accessor s below symbol accessor) :
    Members plan s below (before ++ [symbol])
      { parts with accessors := parts.accessors ++ [accessor] } where
  properties := by
    rw [shown_append_of_not_mem (by rcases isAccessor with isKind | isKind <;> simp [isKind])]
    exact members.properties
  methods := by
    rw [shown_append_of_not_mem (by rcases isAccessor with isKind | isKind <;> simp [isKind])]
    exact members.methods
  accessors := by
    rcases isAccessor with isKind | isKind <;>
      (rw [shown_append_of_mem visible isKind (by simp)]
       exact List.rel_append members.accessors (.cons made .nil))

end Members

end Made

namespace Builder

variable {plan : Plan} {below : Below} {R : State → Made.Below}
  (made : ∀ t enclosing,
    Yields .free (fun s result => R s t enclosing result) (below t enclosing))

include made

/-- A member is listed in the part of the class that its kind names, or in none. -/
theorem addMember_made (before : List Symbol) (parts : ClassParts) (symbol : Symbol) :
    Yields .free (fun s next => Made.Members plan s (R s) before parts →
        Made.Members plan s (R s) (before ++ [symbol]) next)
      (addMember plan below parts symbol) := by
  unfold addMember
  split
  · next hides =>
      have hides : isShown plan symbol = false := by simpa using hides
      exact .pure fun s members => members.skip fun kinds _ => shown_append_of_hidden hides
  · next shows =>
      have visible : isShown plan symbol = true := by simpa using shows
      split
      · next isProperty =>
          refine (property_made made symbol).bind fun result _ => ?_
          exact .pure fun s made members => members.addProperty visible isProperty made
      · next isMethod =>
          refine (method_made made symbol).bind fun method _ => ?_
          exact .pure fun s made members => members.addMethod visible isMethod made
      · next isGetter =>
          refine (accessor_made made symbol).bind fun accessor _ => ?_
          exact .pure fun s made members => members.addAccessor visible (.inl isGetter) made
      · next isSetter =>
          refine (accessor_made made symbol).bind fun accessor _ => ?_
          exact .pure fun s made members => members.addAccessor visible (.inr isSetter) made
      · next noProperty noMethod noGetter noSetter =>
          refine .pure fun s members => members.skip fun kinds among =>
            shown_append_of_not_mem fun kind isKind => ?_
          simp only [List.mem_cons, List.not_mem_nil, or_false] at among
          rcases among with rfl | rfl | rfl <;> simp_all

theorem classType_made (t : TypeId) (context : Context) :
    Yields .free (fun s node => Made.Class plan s (R s) t context node)
      (classType plan below t context) := by
  unfold classType
  refine .inquire (.classMembers t) fun symbols => ?_
  refine (Yields.foldlM (fun before parts symbol _ => addMember_made made before parts symbol)
    [] {}).bind fun parts _ => ?_
  refine .inquire (.constructs t) fun constructs => ?_
  refine (Yields.mapM fun call _ => signature_made made call).bind fun constructors _ => ?_
  refine .pure fun s each constructed gathered listed => ?_
  exact .mk listed (gathered ⟨.mk .nil, .nil, .nil⟩) constructed each

/-- A type is expanded by the rule of its category. -/
theorem expanded_made (t : TypeId) (category : Category) (context : Context) :
    Yields .free (fun s node => Made.Expanded plan s (R s) t context category node)
      (expanded plan below t category context) := by
  cases category with
  | object => exact objectOrCallable_made made t context
  | union => exact union_made made t context
  | intersection => exact intersection_made made t context
  | array => exact array_made made t context
  | tuple => exact tuple_made made t context
  | function => exact callable_made made t context
  | classType => exact classType_made made t context
  | enum => exact enum_made t context
  | generic => exact generic_made made t context
  | primitive => exact .pure fun _ => rfl
  | literal => exact .pure fun _ => rfl
  | named => exact .pure fun _ => rfl
  | computed => exact .pure fun _ => rfl

end Builder

/-! ## Resolutions -/

namespace Resolution

variable {plan : Plan}

/-- A visit is made by the descent into the type, or is cut off. -/
theorem visit_made {descend : TypeId → Category → Context → ResolveM Node}
    {D : State → TypeId → Category → Context → Node → Prop}
    (each : ∀ u category context,
      Yields .free (fun s node => D s u category context node) (descend u category context))
    (t : TypeId) (enclosing : Option Declaration) :
    Yields .free (fun s result => Made.Visited plan s (D s) t enclosing result)
      (visit plan descend t enclosing) := by
  unfold visit
  refine .inquire (.simplified t) fun simple => ?_
  split
  · refine .inquire (.text t) fun _ => ?_
    exact .pure fun s _ simple => .gone simple
  · next u =>
      refine .inquire (.category u) fun category => ?_
      refine .inquire (.contextOf u enclosing) fun context => ?_
      split
      · next leaf =>
          refine (Builder.primitive_made u category context).map ?_
          exact fun s node made met sort simple => .leaf simple sort met leaf made
      · next inner =>
          have inner : isLeaf category = false := by simpa using inner
          split
          · next rejects =>
              exact .pure fun s met sort simple => .rejected simple sort met inner rejects
          · next passes =>
              have passes : isRejected plan context.metadata = false := by simpa using passes
              refine (each u category context).map ?_
              exact fun s node made met sort simple => .expanded simple sort met inner passes made

/-- Whatever a type is resolved to is made of answers of the checker. -/
theorem resolve_made (plan : Plan) (remaining : Nat) (t : TypeId)
    (enclosing : Option Declaration) :
    Yields .free (fun s result => Made.Resolved plan s True remaining t enclosing result)
      (resolve plan remaining t enclosing) := by
  induction remaining generalizing t enclosing with
  | zero =>
      refine visit_made (fun u category context => ?_) t enclosing
      exact .pure fun s => ⟨trivial, rfl⟩
  | succ fewer ih =>
      refine visit_made (fun u category context => .expanding (fun entered => ?_) u) t enclosing
      split
      · exact (Builder.expanded_made ih u category context).weaken fun s node made =>
          .expanded made
      · exact .pure fun s => .cut trivial

/-- The tree of a type is made of the answers that the checker has given when it is done. -/
theorem resolveType_made {plan : Plan} {t : TypeId} {declaration : Option Declaration}
    {s : State} (lawful : s.Lawful .free) {tree : Node}
    (returned : outcome (resolveType plan t declaration) s = .ok (some tree)) {later : State}
    (extended : (after (resolveType plan t declaration) s).Extends later) :
    ∃ node, Made.Resolved plan later True plan.settings.maxDepth.toNat t declaration (some node) ∧
      tree = declaration.elim node fun known => node.mapHeader (rootHeader known) := by
  rw [after_resolveType] at extended
  obtain ⟨result, resolved, rooted⟩ := outcome_bind_eq_ok returned
  have made := (resolve_made plan plan.settings.maxDepth.toNat t declaration).holds
    { checker := s } lawful resolved extended
  cases declaration with
  | none =>
      cases rooted
      exact ⟨tree, made, rfl⟩
  | some known =>
      cases result with
      | none => cases rooted
      | some node =>
          cases rooted
          exact ⟨node, made, rfl⟩

/-- The tree of a declaration is that of its type, which is asked for in a lawful state. -/
theorem resolveDeclaration_eq_resolveType {law : Tree.Law} {plan : Plan} {path name : String}
    {s : State} (lawful : s.Lawful law) {tree : Node}
    (returned : outcome (resolveDeclaration plan path name) s = .ok (some tree)) :
    ∃ declaration t middle, State.Lawful law middle ∧
      outcome (resolveType plan t (some declaration)) middle = .ok (some tree) ∧
      after (resolveDeclaration plan path name) s =
        after (resolveType plan t (some declaration)) middle := by
  have named : Sound law (fun declaration => declaration.Obeys law)
      (Checker.declarationByName path name) := Checker.declarationByName_sound path name
  obtain ⟨declaration, found, typing⟩ := outcome_bind_eq_ok returned
  obtain ⟨t, typed, resolved⟩ := outcome_bind_eq_ok typing
  have later := (Checker.typeOfDeclaration_safe (named.holds lawful found)).lawful
    (named.lawful lawful)
  refine ⟨declaration, t, _, later, resolved, ?_⟩
  rw [resolveDeclaration, after_bind_ok found, after_bind_ok typed]

end Resolution

end TypeGloss
