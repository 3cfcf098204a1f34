/-
# TypeGloss.Proofs.Resolution.Layout — what depends on the layout of intersections

The settings say how the constituents of an intersection are laid out. With `nestAll` every
constituent is a node of its own; with `flattenAnonymous` an object that was written where it is
used gives its place to its properties.

Everything else about a tree is the same with both: the checker gives the same answers, so each
builder makes of a type nodes that differ in their layout at most, if that is so of the types
below (`Made.Resolved.laid`). The two trees of a type are compared where neither is cut off,
which is where the resolution goes through that fails instead of cutting off (`resolveWhole`).

`resolveWhole_laid` says what the flat tree has and has not. Every node and every index signature
in it is in the nested tree too. Every node of the nested tree is in the flat one, but for the
constituents that were laid out flat and what these have besides their properties: the index
signatures of an object, and the signatures of an object that can only be called, are in the
nested tree alone.
-/
import TypeGloss.Proofs.Documentation.Layout
import TypeGloss.Proofs.Resolution.Making

namespace TypeGloss

set_option autoImplicit false

/-- The same plan with another layout of intersections. -/
def Plan.laidOut (plan : Plan) (policy : IntersectionPolicy) : Plan :=
  { plan with settings := { plan.settings with intersectionPolicy := policy } }

variable {plan : Plan} {policy policy' : IntersectionPolicy} {s : State}

/-! ## Answers -/

/-- A type without a name of its own has none where it is met. -/
theorem Context.name_of_isUnnamed {t : TypeId} {enclosing : Option Declaration} {context : Context}
    {r : TypeFacts} (met : s.Finds (Context.ofType t enclosing) context)
    (known : s.Finds (Check.facts t) r) (unnamed : r.IsUnnamed) :
    context.metadata.bind Metadata.name = none := by
  obtain ⟨text, written, rest⟩ := outcome_bind_eq_ok met
  obtain ⟨symbol, read, rest⟩ := outcome_bind_eq_ok rest
  obtain ⟨metadata, described, rest⟩ := outcome_bind_eq_ok rest
  obtain ⟨location, -, made⟩ := outcome_bind_eq_ok rest
  have later : (after (Check.facts t) s).Extends (after (Checker.text t) s) := by
    rw [Check.after_facts]
    exact (Inquiry.text t).steady.first s
  have facts := (Check.facts_steady t).again known later
  obtain rfl : r.symbol = symbol := by
    obtain ⟨r', known', rfl⟩ := State.Finds.ofFacts read
    exact congrArg TypeFacts.symbol (State.Finds.unique facts known')
  cases made
  cases present : r.symbol with
  | none =>
      rw [present] at described
      cases described
      rfl
  | some symbol =>
      rw [present] at described
      obtain ⟨found, asked, returned⟩ := outcome_bind_eq_ok described
      cases returned
      exact (State.Finds.metadata asked).name.trans (unnamed symbol present)

/-! ## Headers and defaults -/

/-- What is noted in a header without regard to its default is noted in both. -/
theorem Header.SameButDefault.map {first second : Header} (same : first.SameButDefault second)
    {f : Header → Header} (ignores : ∀ header : Header,
      { f header with default := none } = f { header with default := none }) :
    (f first).SameButDefault (f second) := by
  calc { f first with default := none }
    _ = f { first with default := none } := ignores first
    _ = f { second with default := none } := congrArg f same
    _ = { f second with default := none } := (ignores second).symm

theorem Node.isDefaulted_attach (value : Option Value) (node : Node) :
    node.IsDefaulted (node.attach value) := by
  cases value with
  | none =>
      refine ⟨[], id, fun _ => rfl, ?_⟩
      rw [pushDefaults_nil, mapHeader_id]
      rfl
  | some value => exact isDefaulted_assignDefault value node

theorem Node.Laid.note {first second : Node} (laid : first.Laid second) {f : Header → Header}
    (ignores : ∀ header : Header,
      { f header with default := none } = f { header with default := none }) :
    (first.mapHeader f).Laid (second.mapHeader f) :=
  laid.mapHeader (laid.headers.map ignores)

theorem Node.Laid.attach {first second : Node} (laid : first.Laid second)
    (value value' : Option Value) : (first.attach value).Laid (second.attach value') :=
  laid.defaulted (Node.isDefaulted_attach value first) (Node.isDefaulted_attach value' second)

theorem Node.laid_reference (header : Header) :
    (Node.reference header).Laid (.reference header) :=
  .alike (.reference rfl)

/-- Lists that are empty are left out on both sides. -/
theorem rel_nonempty {α β : Type} {R : α → β → Prop} {as : List α} {bs : List β}
    (aligned : List.Forall₂ R as bs) :
    Option.Rel (List.Forall₂ R) (Builder.nonempty as) (Builder.nonempty bs) := by
  cases aligned with
  | nil => exact .none
  | cons first rest => exact .some (.cons first rest)

/-! ## Builders -/

namespace Made

/-- Types below that are resolved to nodes that differ in their layout at most. -/
structure Agree (below below' : Below) : Prop where
  laid : ∀ {t : TypeId} {enclosing : Option Declaration} {result result' : Option Node},
    below t enclosing result → below' t enclosing result' → Option.Rel Node.Laid result result'

section Builders

variable {below below' : Below} (agree : Agree below below')

include agree

/-! ### Properties and parameters -/

/-- A property is laid out alike under both policies, as far as what is below it is. -/
theorem Property.laid {symbol : Symbol} {result result' : Option Node}
    (made : Property (plan.laidOut policy) s below symbol result)
    (made' : Property (plan.laidOut policy') s below' symbol result') :
    Option.Rel Node.Laid result result' := by
  cases made with
  | rejected known typed rejects written located =>
      cases made' with
      | rejected known' typed' rejects' written' located' =>
          obtain rfl := known.unique known'
          obtain rfl := typed.unique typed'
          obtain rfl := written.unique written'
          obtain rfl := located.unique located'
          exact .some (Node.laid_reference _)
      | gone known' typed' accepts | shown known' typed' accepts =>
          obtain rfl := known.unique known'
          cases rejects.symm.trans accepts
  | gone known typed accepts nothing =>
      cases made' with
      | rejected known' typed' rejects =>
          obtain rfl := known.unique known'
          cases rejects.symm.trans accepts
      | gone => exact .none
      | shown known' typed' accepts' inside =>
          obtain rfl := typed.unique typed'
          cases agree.laid nothing inside
  | shown known typed accepts inside =>
      cases made' with
      | rejected known' typed' rejects =>
          obtain rfl := known.unique known'
          cases rejects.symm.trans accepts
      | gone known' typed' accepts' nothing =>
          obtain rfl := typed.unique typed'
          cases agree.laid inside nothing
      | shown known' typed' accepts' inside' =>
          obtain rfl := known.unique known'
          obtain rfl := typed.unique typed'
          cases agree.laid inside inside' with
          | some laid => exact .some ((laid.note fun _ => rfl).attach _ _)

/-- The properties of a type are laid out in the same order under both policies. -/
theorem Properties.laid {symbols : List Symbol} {nodes nodes' : List Node}
    (made : Properties (plan.laidOut policy) s below symbols nodes)
    (made' : Properties (plan.laidOut policy') s below' symbols nodes') :
    List.Forall₂ Node.Laid nodes nodes' := by
  obtain ⟨each⟩ := made
  obtain ⟨each'⟩ := made'
  exact forall₂_filterMap_id (forall₂_of_common each each' fun made made' => made.laid agree made')

theorem Parameter.laid {symbol : Symbol} {result result' : Option Node}
    (made : Parameter s below symbol result) (made' : Parameter s below' symbol result') :
    Option.Rel Node.Laid result result' := by
  cases made with
  | gone typed nothing =>
      cases made' with
      | gone => exact .none
      | shown typed' inside =>
          obtain rfl := typed.unique typed'
          cases agree.laid nothing inside
  | shown typed inside =>
      cases made' with
      | gone typed' nothing =>
          obtain rfl := typed.unique typed'
          cases agree.laid inside nothing
      | shown typed' inside' =>
          obtain rfl := typed.unique typed'
          cases agree.laid inside inside' with
          | some laid => exact .some ((laid.note fun _ => rfl).attach _ _)

/-! ### Signatures -/

/-- Signatures are made of parameters and results alone, which are laid out alike. -/
theorem Signature.lifted {call : CallSignature} {signature signature' : TypeGloss.Signature}
    (made : Signature s below call signature) (made' : Signature s below' call signature') :
    signature.Lifted Node.Laid signature' := by
  obtain ⟨each, returns⟩ := made
  obtain ⟨each', returns'⟩ := made'
  obtain rfl := returns.unique returns'
  exact ⟨forall₂_filterMap_id
    (forall₂_of_common each each' fun made made' => made.laid agree made')⟩

theorem ComponentSignature.lifted {call : CallSignature}
    {signature signature' : TypeGloss.ComponentSignature}
    (made : ComponentSignature s below call signature)
    (made' : ComponentSignature s below' call signature') :
    signature.Lifted Node.Laid signature' := by
  cases made with
  | props takes made returns =>
      cases made' with
      | props takes' made' returns' =>
          cases takes.symm.trans takes'
          obtain rfl := returns.unique returns'
          exact ⟨made.laid agree made'⟩
      | bare takes' => cases takes.symm.trans takes'
  | bare takes returns =>
      cases made' with
      | props takes' => cases takes.symm.trans takes'
      | bare takes' returns' =>
          obtain rfl := returns.unique returns'
          exact ⟨.none⟩

/-- A callable is made the same under both policies, but for the layout inside. -/
theorem Callable.laid {t : TypeId} {context : Context} {node node' : Node}
    (made : Callable (plan.laidOut policy) s below t context node)
    (made' : Callable (plan.laidOut policy') s below' t context node') : node.Laid node' := by
  have same {symbols : List Symbol} {categories categories' : List Category}
      (each : List.Forall₂ (fun symbol category =>
        s.Finds (Builder.parameterCategory symbol) category) symbols categories)
      (each' : List.Forall₂ (fun symbol category =>
        s.Finds (Builder.parameterCategory symbol) category) symbols categories') :
      categories = categories' :=
    List.forall₂_eq_eq_eq ▸ forall₂_of_common each each' fun found found' => found.unique found'
  cases made with
  | component called categorized fits each =>
      cases made' with
      | component called' categorized' fits' each' =>
          obtain rfl := called.unique called'
          exact .alike (.component rfl
            (forall₂_of_common each each' fun made made' => made.lifted agree made'))
      | function called' categorized' misfits =>
          obtain rfl := called.unique called'
          obtain rfl := same categorized categorized'
          cases fits.symm.trans misfits
  | function called categorized misfits each =>
      cases made' with
      | component called' categorized' fits =>
          obtain rfl := called.unique called'
          obtain rfl := same categorized categorized'
          cases fits.symm.trans misfits
      | function called' categorized' misfits' each' =>
          obtain rfl := called.unique called'
          exact .alike (.function rfl
            (forall₂_of_common each each' fun made made' => made.lifted agree made'))

/-! ### Objects -/

theorem Kept.laid {context : Context} {t : TypeId} {node node' : Node}
    (made : Kept s below context t node) (made' : Kept s below' context t node') :
    node.Laid node' := by
  cases made with
  | gone nothing written =>
      cases made' with
      | gone nothing' written' =>
          obtain rfl := written.unique written'
          exact Node.laid_reference _
      | shown inside => cases agree.laid nothing inside
  | shown inside =>
      cases made' with
      | gone nothing => cases agree.laid inside nothing
      | shown inside' =>
          cases agree.laid inside inside' with
          | some laid => exact laid

theorem Index.lifted {context : Context} {entry : IndexEntry} {index index' : IndexSignature}
    (made : Index s below context entry index) (made' : Index s below' context entry index') :
    index.Lifted Node.Laid index' := by
  obtain ⟨keyed, valued⟩ := made
  obtain ⟨keyed', valued'⟩ := made'
  exact ⟨(keyed.laid agree keyed').note fun _ => rfl, valued.laid agree valued'⟩

/-- An object is laid out alike under both policies. -/
theorem Object.laid {t : TypeId} {context : Context} {node node' : Node}
    (made : Object (plan.laidOut policy) s below t context node)
    (made' : Object (plan.laidOut policy') s below' t context node') : node.Laid node' := by
  obtain ⟨indexed, each, listed, shown⟩ := made
  obtain ⟨indexed', each', listed', shown'⟩ := made'
  obtain rfl := indexed.unique indexed'
  obtain rfl := listed.unique listed'
  exact .alike (.object rfl (shown.laid agree shown')
    (rel_nonempty (forall₂_of_common each each' fun made made' => made.lifted agree made')))

/-- An object type is made the same under both policies, but for the layout inside. -/
theorem ObjectOrCallable.laid {t : TypeId} {context : Context} {node node' : Node}
    (made : ObjectOrCallable (plan.laidOut policy) s below t context node)
    (made' : ObjectOrCallable (plan.laidOut policy') s below' t context node') :
    node.Laid node' := by
  cases made with
  | object listed uncalled made =>
      cases made' with
      | object listed' uncalled' made' => exact made.laid agree made'
      | callable listed' called some =>
          obtain rfl := listed.unique listed'
          exact absurd (called.unique (uncalled rfl)) some
  | callable listed called some made =>
      cases made' with
      | object listed' uncalled =>
          obtain rfl := listed.unique listed'
          exact absurd (called.unique (uncalled rfl)) some
      | callable listed' called' some' made' => exact made.laid agree made'

/-! ### Unions, arrays, tuples -/

theorem Union.laid {t : TypeId} {context : Context} {node node' : Node}
    (made : Union s below t context node) (made' : Union s below' t context node') :
    node.Laid node' := by
  obtain ⟨joined, each⟩ := made
  obtain ⟨joined', each'⟩ := made'
  obtain rfl := joined.unique joined'
  exact .alike (.union rfl (forall₂_filterMap_id (forall₂_of_common each each' agree.laid)))

theorem Array.laid {t : TypeId} {context : Context} {node node' : Node}
    (made : Array s below t context node) (made' : Array s below' t context node') :
    node.Laid node' := by
  cases made with
  | element known kept =>
      cases made' with
      | element known' kept' =>
          obtain rfl := Option.some.inj (known.unique known')
          exact .alike (.array rfl (kept.laid agree kept'))
      | unknown absent => cases known.unique absent
  | unknown absent =>
      cases made' with
      | element known => cases known.unique absent
      | unknown => exact .alike (.array rfl (Node.laid_reference _))

theorem Item.laid {item : TupleItem} {result result' : Option Node}
    (made : Item below item result) (made' : Item below' item result') :
    Option.Rel Node.Laid result result' := by
  obtain ⟨inside⟩ := made
  obtain ⟨inside'⟩ := made'
  cases agree.laid inside inside' with
  | some laid => exact .some (laid.note fun _ => rfl)
  | none => exact .none

/-- A tuple is made the same under both policies, but for the layout inside. -/
theorem Tuple.laid {t : TypeId} {context : Context} {node node' : Node}
    (made : Tuple s below t context node) (made' : Tuple s below' t context node') :
    node.Laid node' := by
  obtain ⟨joined, each⟩ := made
  obtain ⟨joined', each'⟩ := made'
  obtain rfl := joined.unique joined'
  exact .alike (.tuple rfl (forall₂_filterMap_id
    (forall₂_of_common each each' fun made made' => made.laid agree made')))

theorem Generic.laid {t : TypeId} {context : Context} {node node' : Node}
    (made : Generic s below t context node) (made' : Generic s below' t context node') :
    node.Laid node' := by
  obtain ⟨applied, each, named⟩ := made
  obtain ⟨applied', each', named'⟩ := made'
  obtain rfl := applied.unique applied'
  obtain rfl := named.unique named'
  exact .alike (.generic rfl (forall₂_of_common each each' fun made made' => made.laid agree made'))

omit agree in
theorem Enum.laid {t : TypeId} {context : Context} {node node' : Node}
    (made : Enum s t context node) (made' : Enum s t context node') : node.Laid node' := by
  obtain ⟨listed⟩ := made
  obtain ⟨listed'⟩ := made'
  obtain rfl := listed.unique listed'
  exact .alike (.enum rfl rfl)

/-! ### Classes -/

theorem Method.lifted {symbol : Symbol} {method method' : TypeGloss.Method}
    (made : Method s below symbol method) (made' : Method s below' symbol method') :
    method.Lifted Node.Laid method' := by
  obtain ⟨typed, written, called, each, known⟩ := made
  obtain ⟨typed', written', called', each', known'⟩ := made'
  obtain rfl := typed.unique typed'
  obtain rfl := written.unique written'
  obtain rfl := called.unique called'
  obtain rfl := known.unique known'
  exact ⟨forall₂_of_common each each' fun made made' => made.lifted agree made'⟩

theorem Given.laid {calls : List CallSignature} {result result' : Option Node}
    (made : Given s below calls result) (made' : Given s below' calls result') :
    Option.Rel Node.Laid result result' := by
  cases made with
  | absent takes =>
      cases made' with
      | absent => exact .none
      | present takes' => cases takes.symm.trans takes'
  | present takes made =>
      cases made' with
      | absent takes' => cases takes.symm.trans takes'
      | present takes' made' =>
          obtain rfl := Option.some.inj (takes.symm.trans takes')
          exact made.laid agree made'

theorem Accessor.lifted {symbol : Symbol} {accessor accessor' : TypeGloss.Accessor}
    (made : Accessor s below symbol accessor) (made' : Accessor s below' symbol accessor') :
    accessor.Lifted Node.Laid accessor' := by
  cases made with
  | getter typed called known gets got =>
      cases made' with
      | getter typed' called' known' gets' got' =>
          obtain rfl := typed.unique typed'
          obtain rfl := called.unique called'
          obtain rfl := known.unique known'
          obtain rfl := got.unique got'
          exact ⟨.none⟩
      | setter typed' called' known' sets => exact absurd gets sets
  | setter typed called known sets given =>
      cases made' with
      | getter typed' called' known' gets => exact absurd gets sets
      | setter typed' called' known' sets' given' =>
          obtain rfl := typed.unique typed'
          obtain rfl := called.unique called'
          obtain rfl := known.unique known'
          -- The type of a setter is that of its parameter, which is the same in both trees.
          cases given.laid agree given' with
          | none => exact ⟨.none⟩
          | some laid =>
              have type := congrArg Header.type laid.headers
              dsimp only at type
              simp only [Option.map_some, Option.getD_some, type]
              exact ⟨.some laid⟩

/-- A class is made the same under both policies, but for the layout inside. -/
theorem Class.laid {t : TypeId} {context : Context} {node node' : Node}
    (made : Class (plan.laidOut policy) s below t context node)
    (made' : Class (plan.laidOut policy') s below' t context node') : node.Laid node' := by
  obtain ⟨listed, members, constructed, each⟩ := made
  obtain ⟨listed', members', constructed', each'⟩ := made'
  obtain rfl := listed.unique listed'
  obtain rfl := constructed.unique constructed'
  have methods := forall₂_of_common members.methods members'.methods
    fun made made' => made.lifted agree made'
  have accessors := forall₂_of_common members.accessors members'.accessors
    fun made made' => made.lifted agree made'
  have constructors := forall₂_of_common each each' fun made made' => made.lifted agree made'
  exact .alike (.classType rfl (members.properties.laid agree members'.properties) methods
    (rel_nonempty accessors) (rel_nonempty constructors))

end Builders

/-! ### Intersections -/

/-- Constituents of an intersection, and the same with the properties of some in their place. -/
def Covers (nodes nodes' : List Node) : Prop :=
  ∃ chunks, List.Forall₂ (Node.Spreads Node.Laid) nodes chunks ∧ nodes' = chunks.flatten

theorem Covers.flatten {chunks chunks' : List (List Node)}
    (each : List.Forall₂ Covers chunks chunks') : Covers chunks.flatten chunks'.flatten := by
  induction each with
  | nil => exact ⟨[], .nil, rfl⟩
  | cons first _ ih =>
      obtain ⟨pieces, spreads, rfl⟩ := first
      obtain ⟨more, spreads', same⟩ := ih
      refine ⟨pieces ++ more, List.rel_append spreads spreads', ?_⟩
      rw [List.flatten_cons, same, List.flatten_append]

theorem Covers.single {node : Node} {nodes : List Node} (spreads : node.Spreads Node.Laid nodes) :
    Covers [node] nodes :=
  ⟨[nodes], .cons spreads .nil, by simp⟩

theorem not_isFlattened_nestAll (plan : Plan) (s : State) (t : TypeId) :
    ¬ s.Finds (Builder.isFlattened (plan.laidOut .nestAll) t) true := by
  intro flat
  have nests : (plan.laidOut .nestAll).settings.intersectionPolicy ≠ .flattenAnonymous := by
    simp [Plan.laidOut]
  rw [State.Finds, Builder.isFlattened, if_pos nests] at flat
  cases flat

section Intersections

variable {below below' : Below}

/-- An object without a name gives its place to its properties. -/
theorem ObjectOrCallable.covers (agree : Agree below below') {u : TypeId} {context : Context}
    {symbols : List Symbol} {node : Node} {nodes : List Node}
    (unnamed : context.metadata.bind Metadata.name = none)
    (made : ObjectOrCallable (plan.laidOut policy) s below u context node)
    (listed : s.Finds (Checker.properties u) symbols)
    (shown : Properties (plan.laidOut policy') s below' symbols nodes) : Covers [node] nodes := by
  cases made with
  | object listed' uncalled made =>
      obtain ⟨indexed, each, listed', shown'⟩ := made
      obtain rfl := listed.unique listed'
      exact .single (.object unnamed (shown'.laid agree shown))
  | callable listed' called some made =>
      obtain rfl := listed.unique listed'
      obtain ⟨each⟩ := shown
      cases each
      cases made with
      | component => exact .single (.component unnamed)
      | function => exact .single (.function unnamed)

variable (covers : ∀ {t : TypeId} {nodes nodes' : List Node},
  Constituent (plan.laidOut .nestAll) s below t nodes →
    Constituent (plan.laidOut .flattenAnonymous) s below' t nodes' → Covers nodes nodes')

include covers

/-- What is nested under one policy stands flat under the other, with the same properties in it. -/
theorem Intersection.laid {t : TypeId} {context : Context} {node node' : Node}
    (made : Intersection (plan.laidOut .nestAll) s below t context node)
    (made' : Intersection (plan.laidOut .flattenAnonymous) s below' t context node') :
    node.Laid node' := by
  obtain ⟨joined, each⟩ := made
  obtain ⟨joined', each'⟩ := made'
  obtain rfl := joined.unique joined'
  obtain ⟨chunks, spreads, same⟩ := Covers.flatten (forall₂_of_common each each' covers)
  rw [same]
  exact .spread rfl spreads

/-- A type is expanded alike as far as the policies agree on what is below it. -/
theorem Expanded.laid (agree : Agree below below') {t : TypeId} {context : Context}
    {category : Category} {node node' : Node}
    (made : Expanded (plan.laidOut .nestAll) s below t context category node)
    (made' : Expanded (plan.laidOut .flattenAnonymous) s below' t context category node') :
    node.Laid node' := by
  cases category with
  | object => exact ObjectOrCallable.laid agree made made'
  | union => exact Union.laid agree made made'
  | intersection => exact Intersection.laid covers made made'
  | array => exact Array.laid agree made made'
  | tuple => exact Tuple.laid agree made made'
  | function => exact Callable.laid agree made made'
  | classType => exact Class.laid agree made made'
  | enum => exact Enum.laid made made'
  | generic => exact Generic.laid agree made made'
  | primitive | literal | named | computed =>
      cases made
      cases made'
      exact Node.laid_reference _

end Intersections

/-! ### Resolutions -/

theorem Leaf.laid {t : TypeId} {category : Category} {context : Context} {node node' : Node}
    (made : Leaf s t category context node) (made' : Leaf s t category context node') :
    node.Laid node' := by
  cases made with
  | keyword known isKeyword =>
      cases made' with
      | keyword known' =>
          obtain rfl := known.unique known'
          exact .alike (.primitive rfl rfl)
      | literal known' isLiteral => exact absurd isLiteral isKeyword
  | literal known isLiteral valued =>
      cases made' with
      | keyword known' isKeyword => exact absurd isLiteral isKeyword
      | literal known' isLiteral' valued' =>
          obtain rfl := known.unique known'
          obtain rfl := valued.unique valued'
          exact .alike (.primitive rfl rfl)

/-- What is made of a type of which something is left. -/
def Left (plan : Plan) (s : State) (descends : TypeId → Category → Context → Node → Prop)
    (u : TypeId) (category : Category) (context : Context) (node : Node) : Prop :=
  if Resolution.isLeaf category then Leaf s u category context node
  else if Resolution.isRejected plan context.metadata then node = context.reference
  else descends u category context node

/-- A type comes to nothing, or something is left of it, of which a node is made. -/
theorem Visited.gone_or_left {descends : TypeId → Category → Context → Node → Prop} {t : TypeId}
    {enclosing : Option Declaration} {result : Option Node}
    (made : Visited plan s descends t enclosing result) :
    (s.Finds (Checker.simplified t) none ∧ result = none) ∨
      ∃ u category context node, s.Finds (Checker.simplified t) (some u) ∧
        s.Finds (Checker.category u) category ∧ s.Finds (Context.ofType u enclosing) context ∧
        result = some node ∧ Left plan s descends u category context node := by
  cases made with
  | gone simple => exact .inl ⟨simple, rfl⟩
  | leaf simple sort met isLeaf made =>
      exact .inr ⟨_, _, _, _, simple, sort, met, rfl, by simpa [Left, isLeaf] using made⟩
  | rejected simple sort met inner rejects =>
      exact .inr ⟨_, _, _, _, simple, sort, met, rfl, by simp [Left, inner, rejects]⟩
  | expanded simple sort met inner passes made =>
      exact .inr ⟨_, _, _, _, simple, sort, met, rfl, by simpa [Left, inner, passes] using made⟩

/-- A visited type is a reference on both sides, or on neither. -/
theorem Visited.laid {descends descends' : TypeId → Category → Context → Node → Prop}
    (each : ∀ {u category context node node'}, descends u category context node →
      descends' u category context node' → node.Laid node')
    {t : TypeId} {enclosing : Option Declaration} {result result' : Option Node}
    (made : Visited (plan.laidOut policy) s descends t enclosing result)
    (made' : Visited (plan.laidOut policy') s descends' t enclosing result') :
    Option.Rel Node.Laid result result' := by
  rcases made.gone_or_left with
    ⟨simple, rfl⟩ | ⟨u, category, context, node, simple, sort, met, rfl, left⟩
  · rcases made'.gone_or_left with ⟨-, rfl⟩ | ⟨u', -, -, -, simple', -, -, rfl, -⟩
    · exact .none
    · cases simple.unique simple'
  · rcases made'.gone_or_left with
      ⟨simple', rfl⟩ | ⟨u', category', context', node', simple', sort', met', rfl, left'⟩
    · cases simple.unique simple'
    · obtain rfl := Option.some.inj (simple.unique simple')
      obtain rfl := sort.unique sort'
      obtain rfl := met.unique met'
      refine .some ?_
      unfold Left at left left'
      split at left
      · next isLeaf =>
          rw [if_pos isLeaf] at left'
          exact left.laid left'
      · next inner =>
          rw [if_neg inner] at left'
          split at left
          · next rejects =>
              rw [if_pos (show Resolution.isRejected (plan.laidOut policy') _ = true from rejects)]
                at left'
              rw [left, left']
              exact Node.laid_reference _
          · next passes =>
              rw [if_neg (show ¬Resolution.isRejected (plan.laidOut policy') _ = true from passes)]
                at left'
              exact each left left'

/-- An object without a name is expanded, so that its place can be taken by its properties. -/
theorem Resolved.covers {below' : Below} {remaining : Nat}
    (agree : ∀ fewer < remaining, Agree (Resolved (plan.laidOut policy) s False fewer) below')
    {t u : TypeId} {r : TypeFacts} {symbols : List Symbol} {result : Option Node}
    {nodes : List Node} (simple : s.Finds (Checker.simplified t) (some u))
    (known : s.Finds (Check.facts u) r) (isObject : r.category = .object)
    (unnamed : r.IsUnnamed) (listed : s.Finds (Checker.properties u) symbols)
    (shown : Properties (plan.laidOut policy') s below' symbols nodes)
    (made : Resolved (plan.laidOut policy) s False remaining t none result) :
    Covers result.toList nodes := by
  -- What is made of the object, given how a type is expanded.
  have left {descends : TypeId → Category → Context → Node → Prop}
      (made : Visited (plan.laidOut policy) s descends t none result) :
      ∃ context node, result = some node ∧ context.metadata.bind Metadata.name = none ∧
        descends u .object context node := by
    rcases made.gone_or_left with
      ⟨simple', -⟩ | ⟨u', category, context, node, simple', sort, met, rfl, left⟩
    · cases simple.unique simple'
    · obtain rfl := Option.some.inj (simple.unique simple')
      obtain ⟨r', known', rfl⟩ := State.Finds.ofFacts sort
      obtain rfl := known.unique known'
      have nameless := Context.name_of_isUnnamed met known unnamed
      have passes : Resolution.isRejected (plan.laidOut policy) context.metadata = false := by
        cases found : context.metadata with
        | none => rfl
        | some metadata =>
            have name : metadata.name = none := by simpa [found] using nameless
            simp [Resolution.isRejected, name]
      rw [isObject] at left
      simp only [Left, passes] at left
      exact ⟨context, node, rfl, nameless, left⟩
  cases remaining with
  | zero =>
      obtain ⟨context, node, -, -, impossible, -⟩ := left made
      exact impossible.elim
  | succ fewer =>
      obtain ⟨context, node, rfl, nameless, descended⟩ := left made
      cases descended with
      | cut impossible => exact impossible.elim
      | expanded made =>
          exact ObjectOrCallable.covers (agree fewer (Nat.lt_succ_self fewer)) nameless made listed
            shown

/-- What is made of a type with each of the two layouts differs in nothing else, if nothing is
cut off. -/
theorem Resolved.laid (plan : Plan) (s : State) (remaining remaining' : Nat) :
    Agree (Resolved (plan.laidOut .nestAll) s False remaining)
      (Resolved (plan.laidOut .flattenAnonymous) s False remaining') := by
  -- A constituent that is laid out flat has one type fewer nested in the second tree, so the
  -- induction is on what may be nested in the first.
  induction remaining using Nat.strong_induction_on generalizing remaining' with
  | _ remaining ih =>
    refine ⟨fun made made' => ?_⟩
    cases remaining with
    | zero =>
        cases remaining' with
        | zero | succ => exact Visited.laid (fun impossible _ => impossible.1.elim) made made'
    | succ fewer =>
        cases remaining' with
        | zero => exact Visited.laid (fun _ impossible => impossible.1.elim) made made'
        | succ fewer' =>
            have below := ih fewer (Nat.lt_succ_self fewer) fewer'
            refine Visited.laid (fun made made' => ?_) made made'
            cases made with
            | cut impossible => exact impossible.elim
            | expanded made =>
                cases made' with
                | cut impossible => exact impossible.elim
                | expanded made' =>
                    refine Expanded.laid (fun made made' => ?_) below made made'
                    cases made with
                    | flattened flat => exact absurd flat (not_isFlattened_nestAll plan s _)
                    | nested whole inside =>
                        cases made' with
                        | nested whole' inside' =>
                            cases below.laid inside inside' with
                            | none => exact ⟨[], .nil, rfl⟩
                            | some laid => exact .single (.nested laid)
                        | flattened flat simple known isObject unnamed listed apparent shown =>
                            exact Resolved.covers
                              (fun less lower => ih less (Nat.lt_succ_of_lt lower) fewer')
                              simple known isObject unnamed apparent shown inside

end Made

/-! ## Trees that are not cut off -/

namespace Resolution

/-- The documentation tree of a type, given up where it would have to be cut off. -/
def uncut (plan : Plan) : Nat → Builder.Below
  | 0 => visit plan fun _ _ _ => throw .exhausted
  | fewer + 1 => visit plan fun t category context =>
      ResolveM.expanding t fun entered =>
        if entered then Builder.expanded plan (uncut plan fewer) t category context
        else throw .exhausted

/-- The tree of a type, whose root bears what is known about the declaration that leads to it. -/
def rooted (declaration : Option Declaration) (node : Node) : Node :=
  declaration.elim node fun known => node.mapHeader (rootHeader known)

/-- The documentation tree of a type, given up where it would have to be cut off. -/
def resolveWhole (plan : Plan) (t : TypeId) (declaration : Option Declaration) :
    CheckM (Option Node) :=
  Option.map (rooted declaration) <$> run (uncut plan plan.settings.maxDepth.toNat t declaration)

/-- The tree of a type is what the run of the recursion gives, with the root of its declaration. -/
theorem resolveType_eq (plan : Plan) (t : TypeId) (declaration : Option Declaration) :
    resolveType plan t declaration =
      Option.map (rooted declaration) <$>
        run (resolve plan plan.settings.maxDepth.toNat t declaration) := by
  rw [resolveType, map_eq_pure_bind]
  congr 1
  funext result
  cases declaration with
  | none => cases result <;> rfl
  | some known => rfl

end Resolution

/-- Runs of which the second does what the first does if that returns. -/
def Comparison.returned : Comparison where
  follows P x y := ∀ (resolution : Resolution) a, outcome x resolution = .ok a →
    y.run.run resolution = x.run.run resolution ∧ P a
  done holds := by
    intro resolution a returned
    cases returned
    exact ⟨rfl, holds⟩
  andThen {α β P Q x y f g} first rest := by
    intro resolution b returned
    obtain ⟨a, before, last⟩ := outcome_bind_eq_ok returned
    obtain ⟨same, holds⟩ := first resolution a before
    obtain ⟨same', holds'⟩ := rest a holds _ b last
    have ran : x.run.run resolution = (.ok a, after x resolution) := Prod.ext before rfl
    refine ⟨?_, holds'⟩
    rw [run_bind_ok (same.trans ran), run_bind_ok ran]
    exact same'
  asked _ := fun _ _ _ => ⟨rfl, trivial⟩

namespace Resolution

/-- Without the cut, the recursion returns the same nodes. -/
theorem uncut_follows (plan : Plan) (remaining : Nat) (t : TypeId)
    (enclosing : Option Declaration) :
    Comparison.returned.follows (Node.MaybeShallow remaining) (uncut plan remaining t enclosing)
      (resolve plan remaining t enclosing) := by
  have givesUp {P : Node → Prop} (x : ResolveM Node) :
      Comparison.returned.follows P (throw .exhausted) x := by
    intro resolution node returned
    cases returned
  induction remaining generalizing t enclosing with
  | zero => exact visit_follows .returned plan (fun _ _ _ => givesUp _) t enclosing
  | succ fewer ih =>
      refine visit_follows .returned plan (fun t category context => ?_) t enclosing
      intro resolution node returned
      have inside (entered : Bool) : Comparison.returned.follows (Node.Shallow (fewer + 1))
          (if entered then Builder.expanded plan (uncut plan fewer) t category context
            else throw .exhausted)
          (if entered then Builder.expanded plan (resolve plan fewer) t category context
            else return context.reference) := by
        split
        · exact Builder.expanded_follows .returned ih plan t category context
        · exact givesUp _
      obtain ⟨same, shallow⟩ := inside _ _ node returned
      refine ⟨?_, shallow⟩
      rw [run_expanding t _ resolution rfl, run_expanding t _ resolution rfl]
      exact congrArg (fun ran => (ran.1, { ran.2 with
        guard := ran.2.guard.close t (resolution.guard.enter t).1 })) same

/-- A tree that is not given up is the tree of the type. -/
theorem resolveType_of_resolveWhole {plan : Plan} {t : TypeId} {declaration : Option Declaration}
    {s : State} {result : Option Node}
    (returned : outcome (resolveWhole plan t declaration) s = .ok result) :
    (resolveType plan t declaration).run.run s = (resolveWhole plan t declaration).run.run s := by
  rw [resolveWhole, map_eq_pure_bind] at returned ⊢
  rw [resolveType_eq, map_eq_pure_bind]
  obtain ⟨found, resolved, last⟩ := outcome_bind_eq_ok returned
  have same := (uncut_follows plan plan.settings.maxDepth.toNat t declaration { checker := s } found
    resolved).1
  have ran : (run (resolve plan plan.settings.maxDepth.toNat t declaration)).run.run s =
      (run (uncut plan plan.settings.maxDepth.toNat t declaration)).run.run s := by
    rw [run_run, run_run, same]
  rw [run_bind, run_bind, outcome, after, outcome, after, ran]

/-- What is resolved without a guard is made by the rules alone. -/
theorem uncut_made (plan : Plan) (remaining : Nat) (t : TypeId)
    (enclosing : Option Declaration) :
    Yields .free (fun s result => Made.Resolved plan s False remaining t enclosing result)
      (uncut plan remaining t enclosing) := by
  induction remaining generalizing t enclosing with
  | zero => exact visit_made (fun u category context => .throw .exhausted) t enclosing
  | succ fewer ih =>
      refine visit_made (fun u category context => .expanding (fun entered => ?_) u) t enclosing
      split
      · exact (Builder.expanded_made ih u category context).weaken fun s node made =>
          .expanded made
      · exact .throw .exhausted

/-- A tree that is not given up is made of answers of the checker, and cut off nowhere. -/
theorem resolveWhole_made {plan : Plan} {t : TypeId} {declaration : Option Declaration}
    {s : State} (lawful : s.Lawful .free) {tree : Node}
    (returned : outcome (resolveWhole plan t declaration) s = .ok (some tree)) {later : State}
    (extended : (after (resolveWhole plan t declaration) s).Extends later) :
    ∃ node, Made.Resolved plan later False plan.settings.maxDepth.toNat t declaration (some node) ∧
      tree = rooted declaration node := by
  rw [resolveWhole, map_eq_pure_bind] at returned extended
  obtain ⟨result, resolved, last⟩ := outcome_bind_eq_ok returned
  rw [after_bind_ok resolved] at extended
  have made := (uncut_made plan plan.settings.maxDepth.toNat t declaration).holds
    { checker := s } lawful resolved extended
  cases result with
  | none => cases last
  | some node =>
      cases last
      exact ⟨node, made, rfl⟩

/-- The state after a whole resolution is the one after the uncut recursion. -/
theorem after_resolveWhole (plan : Plan) (t : TypeId) (declaration : Option Declaration)
    (s : State) :
    after (resolveWhole plan t declaration) s =
      (after (uncut plan plan.settings.maxDepth.toNat t declaration) { checker := s }).checker := by
  have same : after (run (uncut plan plan.settings.maxDepth.toNat t declaration)) s =
      (after (uncut plan plan.settings.maxDepth.toNat t declaration) { checker := s }).checker := by
    rw [after, run_run, after]
  rw [resolveWhole, map_eq_pure_bind]
  cases returned : outcome (run (uncut plan plan.settings.maxDepth.toNat t declaration)) s with
  | error fault => rw [after_bind_error returned, same]
  | ok result =>
      rw [after_bind_ok returned]
      exact same

/-- A resolution that may be given up leaves a state as lawful as the one it started from. -/
theorem resolveWhole_keeps (plan : Plan) (t : TypeId) (declaration : Option Declaration) {s : State}
    (lawful : s.Lawful .free) :
    (after (resolveWhole plan t declaration) s).Lawful .free ∧
      s.Extends (after (resolveWhole plan t declaration) s) := by
  have made := uncut_made plan plan.settings.maxDepth.toNat t declaration
  rw [after_resolveWhole]
  exact ⟨made.lawful { checker := s } lawful, made.extended { checker := s } lawful⟩

end Resolution

/-! ## An index signature that is lost -/

namespace LostIndex

def path : String := "a.ts"

/-- A node of the source, which has one line. -/
def piece (kind text : String) (start stop : Nat) (children : List Tree) : Tree :=
  .node ⟨kind, text, start, stop, ⟨0, start⟩, ⟨0, stop⟩, true, false, none⟩ children

def first : Tree := piece "property_signature" "a: string" 11 20 []

def index : Tree := piece "index_signature" "[k: string]: string" 22 41 []

def left : Tree := piece "object_type" "{ a: string; [k: string]: string }" 9 43 [first, index]

def second : Tree := piece "property_signature" "b: number" 48 57 []

def right : Tree := piece "object_type" "{ b: number }" 46 59 [second]

/-- The type `{ a: string; [k: string]: string } & { b: number }`. -/
def both : Tree :=
  piece "intersection_type" "{ a: string; [k: string]: string } & { b: number }" 9 59 [left, right]

def source : Source := ⟨path, both, .ok {}⟩

/-- The settings that hold unless others are made. -/
def standard : Plan := ⟨{}, Filter.project.accepts⟩

/-! ### What is known about the type -/

def property (name : String) (t : Nat) (node : Cursor) : Symbol :=
  { name := some name, declaration := some ⟨.property, some name, path, some node⟩,
    kind := some .property, member := some ⟨t, .top source, [node]⟩ }

/-- A type that is written at a node, and what has been found of it. -/
def written (category : Category) (symbol : Option Symbol) (node : Cursor) (cache : Cache) :
    TypeRecord :=
  { category, node := some node, place := some (.top source), symbol, shape := .written,
    label := some node.text, cache }

def object (node : Cursor) (properties : List Symbol) (indexes : List IndexEntry) : TypeRecord :=
  written .object (some (.ofType none node path)) node
    { properties := some properties, indexes := some indexes, calls := some [] }

def keyword (primitive : Primitive) (text : String) : TypeRecord :=
  { category := .primitive, name := some text, primitive := some primitive, label := some text }

def leftNode : Cursor := ⟨left, [⟨both, 0⟩]⟩

def rightNode : Cursor := ⟨right, [⟨both, 1⟩]⟩

/-- A state in which everything is known about the type, which is the first. -/
def told : State :=
  { sources := [(path, source)]
    records := #[
      written .intersection none (.ofTree both) { members := some [1, 2] },
      object leftNode [property "a" 0 ⟨first, [⟨left, 0⟩, ⟨both, 0⟩]⟩]
        [⟨"k", 3, 3, "[k: string]: string", false⟩],
      object rightNode [property "b" 1 ⟨second, [⟨right, 0⟩, ⟨both, 1⟩]⟩] [],
      keyword .string "string", keyword .number "number"]
    slots := #[some 3, some 4] }

theorem written_lawful {category : Category} {symbol : Option Symbol} {cache : Cache}
    (unnamed : ∀ known ∈ symbol, known.ownName? = none) (lawful : cache.Lawful .free)
    (node : Cursor) : (written category symbol node cache).Lawful .free :=
  .of_written rfl unnamed rfl lawful

theorem object_lawful {properties : List Symbol}
    (declared : ∀ symbol ∈ properties, symbol.declaration.isSome = true) (node : Cursor)
    (indexes : List IndexEntry) : (object node properties indexes).Lawful .free := by
  have unnamed : ∀ known ∈ some (Symbol.ofType none node path), known.ownName? = none := by
    rintro known ⟨⟩
    rfl
  have lawful : Cache.Lawful .free
      { properties := some properties, indexes := some indexes, calls := some [] } :=
    ((Cache.lawful_empty.set .properties fun symbol among =>
      ⟨symbol.obeys_free, declared symbol among⟩).set .indexes trivial).set .calls nofun
  exact written_lawful unnamed lawful node

theorem intersection_lawful (members : List TypeId) (node : Cursor) :
    (written .intersection none node { members := some members }).Lawful .free := by
  have unnamed : ∀ known ∈ (none : Option Symbol), known.ownName? = none := by
    rintro known ⟨⟩
  have lawful : Cache.Lawful .free { members := some members } :=
    Cache.lawful_empty.set .members trivial
  exact written_lawful unnamed lawful node

theorem keyword_lawful (primitive : Primitive) (text : String) :
    (keyword primitive text).Lawful .free where
  facts := {
    node := by simp [keyword]
    place := by simp [keyword]
    bindings := by simp [keyword]
    symbol := by simp [keyword]
    shape := trivial
    utility := by simp [keyword]
    computed := by simp [keyword]
    object := by simp [keyword]
    library := by simp [keyword] }
  cache := Cache.lawful_empty

theorem told_lawful : told.Lawful .free where
  sources {path source} _ := source.obeys_free
  records {t r} known := by
    have among : r ∈ told.records := Array.mem_of_getElem? known
    simp only [told, List.mem_toArray, List.mem_cons, List.not_mem_nil, or_false] at among
    rcases among with is | is | is | is | is
    · rw [is]
      exact intersection_lawful _ _
    · rw [is]
      exact object_lawful (by simp [property]) _ _
    · rw [is]
      exact object_lawful (by simp [property]) _ _
    · rw [is]
      exact keyword_lawful _ _
    · rw [is]
      exact keyword_lawful _ _

/-! ### Its trees -/

/-- The state in which the nested tree has been made. -/
def asked : State := after (Resolution.resolveWhole (standard.laidOut .nestAll) 0 none) told

/-- A node just below the root has an index signature. -/
def indexesBelow (tree : Node) : Bool :=
  tree.children.any fun child => !child.indexes.isEmpty

/-- The nodes just below the root are leaves that have no index signatures, nor has the root. -/
def leavesBelow (tree : Node) : Bool :=
  tree.indexes.isEmpty &&
    tree.children.all fun child => child.indexes.isEmpty && child.children.isEmpty

theorem exists_hasIndex {tree : Node} (indexed : indexesBelow tree = true) :
    ∃ signature, tree.HasIndex signature := by
  simp only [indexesBelow, List.any_eq_true, Bool.not_eq_true', List.isEmpty_eq_false_iff]
    at indexed
  obtain ⟨child, below, some⟩ := indexed
  obtain ⟨signature, among⟩ := List.exists_mem_of_ne_nil _ some
  exact ⟨signature, 1, child, .inside below (.root child), among⟩

theorem not_hasIndex {tree : Node} (leaves : leavesBelow tree = true)
    (signature : IndexSignature) : ¬ tree.HasIndex signature := by
  simp only [leavesBelow, Bool.and_eq_true, List.isEmpty_iff, List.all_eq_true] at leaves
  obtain ⟨bare, below⟩ := leaves
  rintro ⟨above, node, occurs, among⟩
  cases occurs with
  | root => simp [bare] at among
  | inside member deeper =>
      obtain ⟨unindexed, childless⟩ := below _ member
      cases deeper with
      | root => simp [unindexed] at among
      | inside member deeper => simp [childless] at member

/-- A result that passes a test is a tree that passes it. -/
theorem exists_tree {result : Except Fault (Option Node)} {test : Node → Bool}
    (passes : result.toOption.join.any test = true) :
    ∃ tree, result = .ok (some tree) ∧ test tree = true := by
  match result, passes with
  | .ok (some tree), passes => exact ⟨tree, rfl, passes⟩

end LostIndex

namespace Resolution

/-- The two layouts of a tree that is cut off with neither of them. They document the same, but
that constituents without a name may be laid out flat. All that the flat tree has is in the nested
one. What the nested tree has is in the flat one, unless it is such a constituent or stands below
one other than in its properties; so index signatures of objects that are laid out flat, and what
is documented in the signatures of those that can only be called, are in the nested tree alone. -/
theorem resolveWhole_laid {plan : Plan} {t : TypeId} {declaration : Option Declaration}
    {s₁ s₂ s : State} {nested flat : Node} (lawful₁ : s₁.Lawful .free) (lawful₂ : s₂.Lawful .free)
    (nests : outcome (resolveWhole (plan.laidOut .nestAll) t declaration) s₁ = .ok (some nested))
    (flattens : outcome (resolveWhole (plan.laidOut .flattenAnonymous) t declaration) s₂ =
      .ok (some flat))
    (later₁ : (after (resolveWhole (plan.laidOut .nestAll) t declaration) s₁).Extends s)
    (later₂ : (after (resolveWhole (plan.laidOut .flattenAnonymous) t declaration) s₂).Extends s) :
    outcome (resolveType (plan.laidOut .nestAll) t declaration) s₁ = .ok (some nested) ∧
    outcome (resolveType (plan.laidOut .flattenAnonymous) t declaration) s₂ = .ok (some flat) ∧
    nested.Laid flat ∧
    (∀ above node, flat.Occurs above node →
      ∃ higher part, nested.Occurs higher part ∧ part.Laid node) ∧
    (∀ signature, flat.HasIndex signature →
      ∃ other, nested.HasIndex other ∧ other.Lifted Node.Laid signature) ∧
    (∀ above part, nested.Occurs above part →
      nested.Sheds part ∨ ∃ higher node, flat.Occurs higher node ∧ part.Laid node) ∧
    ∀ signature, nested.HasIndex signature →
      (∃ part, nested.Sheds part ∧ signature ∈ part.indexes) ∨
        ∃ other, flat.HasIndex other ∧ signature.Lifted Node.Laid other := by
  have laid : nested.Laid flat := by
    obtain ⟨node, made, rfl⟩ := resolveWhole_made lawful₁ nests later₁
    obtain ⟨node', made', rfl⟩ := resolveWhole_made lawful₂ flattens later₂
    cases (Made.Resolved.laid plan s _ _).laid made made' with
    | some laid =>
        cases declaration with
        | none => exact laid
        | some known => exact laid.note fun _ => rfl
  refine ⟨?_, ?_, laid, ?_, ?_, ?_, ?_⟩
  · rw [outcome, resolveType_of_resolveWhole nests]
    exact nests
  · rw [outcome, resolveType_of_resolveWhole flattens]
    exact flattens
  · exact fun above node occurs => laid.exists_of_occurs occurs
  · exact fun signature has => laid.exists_of_hasIndex has
  · exact fun above part occurs => laid.sheds_or_exists occurs
  · exact fun signature has => laid.sheds_or_exists_index has

open LostIndex in
/-- Of `{ a: string; [k: string]: string } & { b: number }`, which is two objects without names,
the flat tree has the properties; the index signature is in the nested tree alone. -/
theorem resolveWhole_laid_lostIndex :
    ∃ nested flat : Node,
      outcome (resolveType (standard.laidOut .nestAll) 0 none) told = .ok (some nested) ∧
      outcome (resolveType (standard.laidOut .flattenAnonymous) 0 none) asked = .ok (some flat) ∧
      nested.Laid flat ∧
      flat.children.map (·.header.name) = [some "a", some "b"] ∧
      (∃ signature, nested.HasIndex signature) ∧ ∀ signature, ¬ flat.HasIndex signature := by
  obtain ⟨nested, nests, indexed⟩ :
      ∃ tree, outcome (resolveWhole (standard.laidOut .nestAll) 0 none) told = .ok (some tree) ∧
        indexesBelow tree = true := exists_tree (by decide +kernel)
  obtain ⟨flat, flattens, seen⟩ :
      ∃ tree, outcome (resolveWhole (standard.laidOut .flattenAnonymous) 0 none) asked =
          .ok (some tree) ∧
        (leavesBelow tree && tree.children.map (·.header.name) == [some "a", some "b"]) = true :=
    exists_tree (by decide +kernel)
  obtain ⟨leaves, named⟩ := (Bool.and_eq_true _ _).mp seen
  have lawful : asked.Lawful .free := (resolveWhole_keeps _ _ _ told_lawful).1
  obtain ⟨documented, documented', laid, -⟩ := resolveWhole_laid told_lawful lawful nests flattens
    (resolveWhole_keeps _ _ _ lawful).2 (.refl _)
  exact ⟨nested, flat, documented, documented', laid, eq_of_beq named, exists_hasIndex indexed,
    not_hasIndex leaves⟩

end Resolution

end TypeGloss
