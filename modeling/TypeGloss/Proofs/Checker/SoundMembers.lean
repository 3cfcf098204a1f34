/-
# TypeGloss.Proofs.Checker.SoundMembers — signatures and members are declared where they stand

Every parameter of a signature and every member of an object, an interface or a class is
declared at the node that it was found at, and keeps this declaration wherever it is handed
on: to the properties of an heir, to the members of a derived class, to the constructors of
a class without one of its own.
-/
import TypeGloss.Proofs.Checker.SoundNames

namespace TypeGloss

set_option autoImplicit false

section Rules

variable {law : Tree.Law} {ask : Ask} (careful : Careful law ask)

/-- A part of a node that may be absent. -/
theorem Cursor.Obeys.fieldParts {node : Cursor} (obeys : node.Obeys law) {name : String} :
    ∀ part ∈ ((node.field? name).map Cursor.parts).getD [], part.Obeys law := by
  intro part among
  exact Cursor.obeys_inside (fun _ found _ => (obeys.field? found).part) among

/-! ## Texts -/

namespace Render

include careful in
theorem parameters_safe {symbols : List Symbol} (obey : ∀ symbol ∈ symbols, symbol.Obeys law) :
    Safe law (parameters ask symbols) := by
  refine (Safe.mapM fun parameter among => ?_).bind fun _ => .pure trivial
  refine (careful.ofSymbol (obey parameter among)).bind fun t => ?_
  exact (careful.text t).bind fun _ => .pure trivial

include careful in
theorem arrow_safe {symbols : List Symbol} (obey : ∀ symbol ∈ symbols, symbol.Obeys law)
    (returnType : TypeId) : Safe law (arrow ask symbols returnType) := by
  refine (parameters_safe careful obey).bind fun before => ?_
  exact (careful.text returnType).bind fun _ => .pure trivial

include careful in
theorem function_safe (t : TypeId) : Safe law (function ask t) := by
  refine (careful.calls t).bind fun signatures declared => ?_
  split
  · exact .pure trivial
  · exact .pure trivial
  · refine (Safe.mapM fun signature among => ?_).bind fun _ => .pure trivial
    refine (parameters_safe careful fun symbol listed =>
      (declared signature among symbol listed).toObeys).bind fun before => ?_
    exact (careful.text _).bind fun _ => .pure trivial

include careful in
theorem objectLiteral_safe (t : TypeId) : Safe law (objectLiteral ask t) := by
  refine (careful.load? t .properties).bind fun found known => ?_
  dsimp only
  refine (Safe.mapM fun property among => ?_).bind fun _ => .pure trivial
  have obeys : property.Obeys law := by
    cases found with
    | none => simp at among
    | some symbols => exact (known symbols rfl property among).toObeys
  refine (careful.ofSymbol obeys).bind fun t => ?_
  exact (careful.text t).bind fun _ => .pure trivial

end Render

/-! ## Signatures -/

/-- A symbol that is declared and read at one node. -/
theorem Symbol.isDeclared_at {symbol : Symbol} {declaration : Declaration}
    {node : Cursor} (declared : symbol.declaration = some declaration)
    (written : declaration.node = some node) (obeys : node.Obeys law) {member : Member}
    (kept : symbol.member = some member) (lawful : member.Obeys law) : symbol.IsDeclared law where
  declaration other found := by
    obtain rfl : declaration = other := Option.some.inj (declared.symm.trans found)
    exact Declaration.obeys_of_node written obeys
  member other found := by
    obtain rfl : member = other := Option.some.inj (kept.symm.trans found)
    exact lawful
  declared := by simp [declared]

namespace Signature

theorem mem_of_mem_overloads {nodes : List Cursor} {node : Cursor} (among : node ∈ overloads nodes) :
    node ∈ nodes := by
  unfold overloads at among
  dsimp only at among
  split at among
  · exact among
  · exact (List.mem_filter.1 among).1

/-- A function obeys the law if the nodes that declare it do. -/
theorem functionOf_safe {nodes : List Cursor} (obey : ∀ node ∈ nodes, node.Obeys law)
    {place : Place} (home : place.source.Obeys law) {symbol : Symbol}
    (obeys : symbol.Obeys law) : Safe law (functionOf nodes place symbol) := by
  refine (Check.needFirst_sound nodes).bind fun first listed => ?_
  refine (Check.complete_safe place).bind fun _ => ?_
  exact Check.intern_safe _ ⟨{
    node := by simpa using obey first listed, place := by simpa, symbol := by simpa,
    shape := fun node among => obey node (mem_of_mem_overloads among) }, Cache.lawful_empty⟩

theorem functionOfBindings_safe {source : Source} (home : source.Obeys law)
    {bindings : List Module.Binding} (obey : ∀ binding ∈ bindings, binding.node.Obeys law) :
    Safe law (functionOfBindings source bindings) := by
  refine (Check.needFirst_sound bindings).bind fun binding listed => ?_
  refine functionOf_safe ?_ home (Symbol.obeys_of_declaration rfl
    (Declaration.obeys_of_node rfl (obey binding listed)) rfl)
  intro node among
  obtain ⟨other, kept, rfl⟩ := List.mem_map.1 among
  exact obey other (List.mem_filter.1 kept).1

theorem functionAt_safe (kind : DeclarationKind) (name : Option String) {node : Cursor}
    (obeys : node.Obeys law) {place : Place} (home : place.source.Obeys law) :
    Safe law (functionAt kind name node place) :=
  functionOf_safe (by simpa) home
    (Symbol.obeys_of_declaration rfl (Declaration.obeys_of_node rfl obeys) rfl)

theorem parameter?_sound {node : Cursor} (obeys : node.Obeys law) {place : Place}
    (home : place.source.Obeys law) :
    Sound law (fun found => ∀ symbol ∈ found, symbol.IsDeclared law) (parameter? node place) := by
  unfold parameter?
  split
  · exact .pure (by simp)
  · split
    · exact .pure (by simp)
    · refine (Check.newMember_sound home (by simpa) none).bind fun member lawful => .pure ?_
      rintro _ ⟨⟩
      exact Symbol.isDeclared_at rfl rfl obeys rfl lawful

theorem parameters_sound {node : Cursor} (obeys : node.Obeys law) {place : Place}
    (home : place.source.Obeys law) :
    Sound law (fun symbols => ∀ symbol ∈ symbols, symbol.IsDeclared law)
      (parameters node place) := by
  unfold parameters
  split
  · next holder found =>
      refine (Sound.mapM fun param among =>
        parameter?_sound ((obeys.field? found).ofKinds among) home).bind fun symbols declared => ?_
      refine .pure fun symbol among => ?_
      obtain ⟨known, listed, isKnown⟩ := List.mem_filterMap.1 among
      exact declared known listed symbol isKnown
  · split
    · exact .pure (by simp)
    · next single found =>
        refine Check.any_safe.bind fun t => ?_
        refine (Check.newMember_sound home (by simpa using obeys.field? found) (some t)).bind
          fun member lawful => .pure ?_
        intro symbol among
        obtain rfl := List.mem_singleton.1 among
        exact Symbol.isDeclared_at rfl rfl (obeys.field? found) rfl lawful

/-- What a stack of nodes leads to obeys what all nodes on it obey. -/
theorem gather_obey {wanted entered : Cursor → Bool} {stack : Array Cursor}
    (obey : ∀ node ∈ stack, node.Obeys law) :
    ∀ node ∈ gather wanted entered stack, node.Obeys law := by
  induction stack using gather.induct entered with
  | case1 stack none =>
      obtain rfl := Array.back?_eq_none_iff.1 none
      simp [gather_empty]
  | case2 stack node top ih =>
      obtain ⟨below, rfl⟩ := Array.back?_eq_some_iff.1 top
      rw [Array.pop_push, dite_eq_ite] at ih
      have here : node.Obeys law := obey node Array.mem_push_self
      intro found among
      rw [gather_push, List.mem_append] at among
      rcases among with among | among
      · split at among
        · exact List.mem_singleton.1 among ▸ here
        · exact absurd among List.not_mem_nil
      · refine ih (fun other listed => ?_) found among
        rw [← Array.mem_toList_iff, Array.toList_appendList, List.mem_append] at listed
        rcases listed with kept | child
        · exact obey other (Array.mem_push_of_mem _ (Array.mem_toList_iff.1 kept))
        · split at child
          · exact here.named (List.mem_reverse.1 child)
          · exact absurd child List.not_mem_nil

theorem ownReturns_obey {node : Cursor} (obeys : node.Obeys law) :
    ∀ statement ∈ ownReturns node, statement.Obeys law :=
  gather_obey fun child among => obeys.named (by simpa using among)

theorem ownYields_obey {node : Cursor} (obeys : node.Obeys law) :
    ∀ expression ∈ ownYields node, expression.Obeys law :=
  gather_obey fun child among => obeys.named (by simpa using among)

include careful in
theorem widenedExpression_safe {place : Place} (home : place.source.Obeys law) {node : Cursor}
    (obeys : node.Obeys law) : Safe law (widenedExpression ask place node) :=
  (careful.ofExpression obeys home false false).bind fun t => Check.widen_safe t

include careful in
theorem returnedType_safe {place : Place} (home : place.source.Obeys law) {value : Option Cursor}
    (obey : ∀ node ∈ value, node.Obeys law) : Safe law (returnedType ask place value) := by
  cases value with
  | none => exact Check.primitive_safe .undefined
  | some node => exact widenedExpression_safe careful home (obey node rfl)

include careful in
theorem yieldedType_safe {place : Place} (home : place.source.Obeys law) {node : Cursor}
    (obeys : node.Obeys law) : Safe law (yieldedType ask place node) := by
  unfold yieldedType
  split
  · exact Check.any_safe
  · split
    · next parts => exact widenedExpression_safe careful home (obeys.firstPart parts)
    · exact Check.primitive_safe .undefined

include careful in
theorem bodyType_safe {place : Place} (home : place.source.Obeys law) {body : Cursor}
    (obeys : body.Obeys law) : Safe law (bodyType ask place body) := by
  unfold bodyType
  dsimp only
  split
  · exact widenedExpression_safe careful home obeys
  · split
    · refine careful.unionOf fun value among => returnedType_safe careful home fun node found => ?_
      obtain ⟨statement, listed, rfl⟩ := List.mem_map.1 among
      exact (ownReturns_obey obeys statement listed).part (List.mem_of_mem_head? found)
    · exact Check.primitive_safe .void

include careful in
theorem inferredReturn_safe {place : Place} (home : place.source.Obeys law) {body : Cursor}
    (obeys : body.Obeys law) (modifier : Option Modifier) :
    Safe law (inferredReturn ask place body modifier) := by
  refine (bodyType_safe careful home obeys).bind fun result => ?_
  have generating (name : String) : Safe law (do
      let yielded ← ask.unionOf (yieldedType ask place) (ownYields body)
      let sent ← Check.primitive .unknown
      Check.genericOf name (Library.genericFile name) [yielded, result, sent]) := by
    refine (careful.unionOf fun node among =>
      yieldedType_safe careful home (ownYields_obey obeys node among)).bind fun yielded => ?_
    refine (Check.primitive_safe .unknown).bind fun sent => ?_
    exact Check.genericOf_safe name _ _
  dsimp only
  split
  · exact .pure trivial
  · exact Check.genericOf_safe _ _ _
  · exact generating "Generator"
  · exact generating "AsyncGenerator"

include careful in
theorem returnType_safe {node : Cursor} (obeys : node.Obeys law) {place : Place}
    (home : place.source.Obeys law) : Safe law (returnType ask node place) := by
  unfold returnType
  split
  · next found => exact careful.typeAt (obeys.field? found) home
  · next found => exact inferredReturn_safe careful home (obeys.field? found) _
  · exact Check.any_safe

include careful in
/-- A signature is declared at its node. -/
theorem ofNode_sound {place : Place} (home : place.source.Obeys law)
    (constructed : Option TypeId) {node : Cursor} (obeys : node.Obeys law) :
    Sound law (fun call => call.IsDeclared law) (ofNode ask place constructed node) := by
  refine (Reference.withTypeParameters_sound careful obeys home).bind fun inside home => ?_
  refine (parameters_sound obeys home).bind fun listed declared => ?_
  have arrow (result : TypeId) : Safe law (Render.arrow ask listed result) :=
    Render.arrow_safe careful (fun symbol among => (declared symbol among).toObeys) result
  cases constructed with
  | some t => exact Safe.bind (.pure trivial) fun result => (arrow _).bind fun _ => .pure declared
  | none =>
      exact (returnType_safe careful obeys home).bind fun result =>
        (arrow result).bind fun _ => .pure declared

end Signature

/-! ## Members -/

namespace Members

variable (law) in
/-- A member is declared at syntax that obeys a law, and so is what it is read from. -/
structure Draft.IsDeclared (draft : Draft) : Prop where
  declaration : ∀ declaration ∈ draft.symbol.declaration, declaration.Obeys law
  declared : draft.symbol.declaration.isSome = true
  nodes : ∀ node ∈ draft.nodes, node.Obeys law

/-- A member that is declared at the one node it is read from. -/
theorem Draft.isDeclared_at {draft : Draft} {kind : DeclarationKind} {name path : String}
    {node : Cursor} (declared : draft.symbol.declaration = declarationAt kind name path node)
    (nodes : draft.nodes = [node]) (obeys : node.Obeys law) : draft.IsDeclared law where
  declaration declaration found := by
    rw [declared] at found
    cases found
    exact Declaration.obeys_of_node rfl obeys
  declared := by rw [declared]; rfl
  nodes := by simpa [nodes] using obeys

/-- An overload is added to the drafts or to one of them. -/
theorem addOverload_isDeclared {draft : Draft} (lawful : draft.IsDeclared law)
    {drafts : List Draft} (others : ∀ other ∈ drafts, other.IsDeclared law) :
    ∀ other ∈ addOverload draft drafts, other.IsDeclared law := by
  induction drafts with
  | nil => simpa [addOverload] using lawful
  | cons first rest ih =>
      have head := others first List.mem_cons_self
      have tail := fun other among => others other (List.mem_cons_of_mem first among)
      unfold addOverload
      split
      · refine List.forall_mem_cons.2 ⟨⟨head.declaration, head.declared, ?_⟩, tail⟩
        exact List.forall_mem_append.2 ⟨head.nodes, lawful.nodes⟩
      · exact List.forall_mem_cons.2 ⟨head, ih tail⟩

/-- Drafts that are declared lawfully become members that are. -/
theorem realize_sound {place : Place} (home : place.source.Obeys law) {drafts : List Draft}
    (declared : ∀ draft ∈ drafts, draft.IsDeclared law) :
    Sound law (fun symbols => ∀ symbol ∈ symbols, symbol.IsDeclared law)
      (realize place drafts) := by
  refine Sound.mapM fun draft among => ?_
  have lawful := declared draft among
  refine (Check.newMember_sound home lawful.nodes none).bind fun member kept => .pure ?_
  refine ⟨⟨lawful.declaration, ?_⟩, lawful.declared⟩
  rintro _ ⟨⟩
  exact kept

theorem nameOf?_safe (node : Option Cursor) : Safe law (nameOf? node) :=
  (Sound.option fun _ _ => Check.ofResult_safe _).safe

theorem addObjectPart_sound (path : String) {drafts : List Draft}
    (others : ∀ draft ∈ drafts, draft.IsDeclared law) {part : Cursor} (obeys : part.Obeys law) :
    Sound law (fun drafts => ∀ draft ∈ drafts, draft.IsDeclared law)
      (addObjectPart path drafts part) := by
  unfold addObjectPart
  split
  · refine (nameOf?_safe _).bind fun name => ?_
    split
    · exact .pure others
    · dsimp only
      split
      · refine .pure (List.forall_mem_append.2 ⟨others, ?_⟩)
        simpa using Draft.isDeclared_at rfl rfl obeys
      · exact .pure (addOverload_isDeclared (Draft.isDeclared_at rfl rfl obeys) others)
  · exact .pure others

theorem ofBody_sound {place : Place} (home : place.source.Obeys law) {body : Cursor}
    (obeys : body.Obeys law) :
    Sound law (fun symbols => ∀ symbol ∈ symbols, symbol.IsDeclared law) (ofBody place body) := by
  refine (Sound.foldlM (fun drafts others part among =>
    addObjectPart_sound _ others (obeys.named among)) (by simp)).bind fun drafts declared => ?_
  exact realize_sound home declared

include careful in
theorem indexesOfBody_safe {place : Place} (home : place.source.Obeys law) {body : Cursor}
    (obeys : body.Obeys law) : Safe law (indexesOfBody ask place body) := by
  refine (Safe.mapM fun member among => ?_).bind fun _ => .pure trivial
  have lawful := obeys.ofKinds among
  split
  · next key _ found =>
      refine (careful.typeAt (lawful.field? found) home).bind fun keyType => ?_
      have rendered : Safe law (Render.render ask member place) :=
        Render.render_safe careful member place
      dsimp only
      split
      · next value found =>
          refine (careful.typeAt (lawful.fieldOr? found) home).bind fun valueType => ?_
          exact rendered.bind fun _ => .pure trivial
      · exact Check.any_safe.bind fun valueType => rendered.bind fun _ => .pure trivial
  · exact .pure trivial

include careful in
theorem callsOfBody_sound {place : Place} (home : place.source.Obeys law) {body : Cursor}
    (obeys : body.Obeys law) :
    Sound law (fun calls => ∀ call ∈ calls, call.IsDeclared law) (callsOfBody ask place body) :=
  .mapM fun _ among => Signature.ofNode_sound careful home none (obeys.ofKinds among)

/-! ### Interfaces -/

theorem bodies_obey {bindings : List Module.Binding}
    (obey : ∀ binding ∈ bindings, binding.node.Obeys law) :
    ∀ body ∈ bodies bindings, body.Obeys law := by
  intro body among
  obtain ⟨binding, listed, found⟩ := List.mem_filterMap.1 among
  exact (obey binding listed).fieldOr? found

theorem bases_obey {bindings : List Module.Binding}
    (obey : ∀ binding ∈ bindings, binding.node.Obeys law) :
    ∀ base ∈ bases bindings, base.Obeys law := by
  intro base among
  obtain ⟨binding, listed, among⟩ := List.mem_flatMap.1 among
  exact Cursor.obeys_inside (fun _ found _ => ((obey binding listed).first? found).part) among

/-- What is inherited is there already, or comes from the base. -/
theorem mem_inherit {own base : List Symbol} {symbol : Symbol} (among : symbol ∈ inherit own base) :
    symbol ∈ own ∨ symbol ∈ base := by
  unfold inherit at among
  induction base generalizing own with
  | nil => exact .inl among
  | cons first rest ih =>
      rcases ih among with found | later
      · dsimp only at found
        split at found
        · exact .inl found
        · rcases List.mem_append.1 found with found | isFirst
          · exact .inl found
          · exact .inr (List.mem_singleton.1 isFirst ▸ List.mem_cons_self)
      · exact .inr (List.mem_cons_of_mem _ later)

/-- Properties that are inherited are declared in the base. -/
theorem inherit_isDeclared {own base : List Symbol}
    (declared : ∀ symbol ∈ own, symbol.IsDeclared law)
    (others : ∀ symbol ∈ base, symbol.IsDeclared law) :
    ∀ symbol ∈ inherit own base, symbol.IsDeclared law := fun symbol among =>
  (mem_inherit among).elim (declared symbol) (others symbol)

include careful in
theorem ofInterface_sound {place : Place} (home : place.source.Obeys law)
    {bindings : List Module.Binding} (obey : ∀ binding ∈ bindings, binding.node.Obeys law) :
    Sound law (fun symbols => ∀ symbol ∈ symbols, symbol.IsDeclared law)
      (ofInterface ask place bindings) := by
  refine (Sound.mapM fun body among => ofBody_sound home (bodies_obey obey body among)).bind
    fun own declared => ?_
  refine Sound.foldlM (fun found declared node among => ?_) ?_
  · refine (careful.typeAt (bases_obey obey node among) home).bind fun base => ?_
    exact (careful.properties base).bind fun symbols others =>
      .pure (inherit_isDeclared declared others)
  · intro symbol among
    obtain ⟨symbols, listed, among⟩ := List.mem_flatten.1 among
    exact declared symbols listed symbol among

include careful in
theorem inheritIndexes_safe (found : List IndexEntry × List String) (entries : List IndexEntry) :
    Safe law (inheritIndexes ask found entries) := by
  induction entries generalizing found with
  | nil => exact .pure trivial
  | cons entry rest ih =>
      refine (careful.text entry.keyType).bind fun text => ?_
      split
      · exact ih _
      · exact ih _

include careful in
theorem indexesOfInterface_safe {place : Place} (home : place.source.Obeys law)
    {bindings : List Module.Binding} (obey : ∀ binding ∈ bindings, binding.node.Obeys law) :
    Safe law (indexesOfInterface ask place bindings) := by
  refine (Safe.mapM fun body among =>
    indexesOfBody_safe careful home (bodies_obey obey body among)).bind fun own => ?_
  refine (Safe.mapM fun entry _ => careful.text entry.keyType).bind fun keys => ?_
  refine (Safe.foldlM (fun found node among => ?_) _).bind fun _ => .pure trivial
  refine (careful.typeAt (bases_obey obey node among) home).bind fun base => ?_
  exact (careful.indexes base).bind fun entries => inheritIndexes_safe careful found entries

include careful in
theorem callsOfInterface_sound {place : Place} (home : place.source.Obeys law)
    {bindings : List Module.Binding} (obey : ∀ binding ∈ bindings, binding.node.Obeys law) :
    Sound law (fun calls => ∀ call ∈ calls, call.IsDeclared law)
      (callsOfInterface ask place bindings) := by
  refine (Sound.mapM fun body among =>
    callsOfBody_sound careful home (bodies_obey obey body among)).bind fun found declared => ?_
  refine .pure fun call among => ?_
  obtain ⟨calls, listed, among⟩ := List.mem_flatten.1 among
  exact declared calls listed call among

/-! ### Classes -/

theorem classBody_obeys {node : Cursor} (obeys : node.Obeys law) :
    ∀ part ∈ classBody node, part.Obeys law := by
  intro part among
  exact Cursor.obeys_inside (fun _ found _ => (obeys.fieldOr? found).named) among

/-- Parameters of a constructor that obeys declare properties that obey. -/
theorem parameterProperties_isDeclared (path : String) {constructor : Cursor}
    (obeys : constructor.Obeys law) :
    ∀ draft ∈ parameterProperties path constructor, draft.IsDeclared law := by
  intro draft among
  unfold parameterProperties at among
  split at among
  · simp at among
  · next holder found =>
      obtain ⟨parameter, listed, made⟩ := List.mem_filterMap.1 among
      unfold parameterProperty? at made
      split at made
      · cases made
      · obtain ⟨pattern, -, rfl⟩ := Option.map_eq_some_iff.1 made
        exact Draft.isDeclared_at rfl rfl ((obeys.field? found).ofKinds listed)

theorem addClassPart_sound (path : String) {drafts : List Draft}
    (others : ∀ draft ∈ drafts, draft.IsDeclared law) {part : Cursor} (obeys : part.Obeys law) :
    Sound law (fun drafts => ∀ draft ∈ drafts, draft.IsDeclared law)
      (addClassPart path drafts part) := by
  unfold addClassPart
  split
  · refine (nameOf?_safe _).bind fun name => ?_
    split
    · exact .pure others
    · refine .pure (List.forall_mem_append.2 ⟨others, ?_⟩)
      simpa using Draft.isDeclared_at rfl rfl obeys
  · split
    · refine (nameOf?_safe _).bind fun name => ?_
      split
      · exact .pure others
      · split
        · exact .pure (addOverload_isDeclared (Draft.isDeclared_at rfl rfl obeys) others)
        · split
          · exact .pure (List.forall_mem_append.2
              ⟨others, parameterProperties_isDeclared path obeys⟩)
          · exact .pure others
    · exact .pure others

include careful in
theorem baseClass?_safe {place : Place} (home : place.source.Obeys law) {node : Cursor}
    (obeys : node.Obeys law) : Safe law (baseClass? ask place node) := by
  unfold baseClass?
  dsimp only
  split
  · exact .pure trivial
  · next clause found =>
      obtain ⟨heritage, inherits, found⟩ := Option.bind_eq_some_iff.1 found
      have lawful := (obeys.first? inherits).first? found
      split
      · exact .pure trivial
      · split
        · exact .pure trivial
        · refine (Reference.typesAt_safe careful lawful.fieldParts home).bind fun args => ?_
          refine (Lookup.lookup_sound home _ .values).bind fun result known => ?_
          split
          · next binding _ =>
              have found := known _ rfl
              split
              · refine Safe.map some (careful.declared found.source ?_ args)
                simpa using found.bindings binding List.mem_cons_self
              · exact .pure trivial
          · exact .pure trivial

include careful in
/-- The members of a class are declared in its body, or in that of a class it extends. -/
theorem ofClass_sound {place : Place} (home : place.source.Obeys law) {node : Cursor}
    (obeys : node.Obeys law) :
    Sound law (fun symbols => ∀ symbol ∈ symbols, symbol.IsDeclared law)
      (ofClass ask place node) := by
  refine (Sound.foldlM (fun drafts others part among =>
    addClassPart_sound _ others (classBody_obeys obeys part among)) (by simp)).bind
      fun drafts declared => ?_
  refine (realize_sound home declared).bind fun own declared => ?_
  refine (baseClass?_safe careful home obeys).bind fun base => ?_
  split
  · exact .pure declared
  · refine (careful.load? _ .classMembers).bind fun found known => ?_
    refine .pure (List.forall_mem_append.2 ⟨declared, fun symbol among => ?_⟩)
    cases found with
    | none => simp at among
    | some members => exact known members rfl symbol (List.mem_filter.1 among).1

include careful in
theorem constructsOf_sound {place : Place} (home : place.source.Obeys law) {node : Cursor}
    (obeys : node.Obeys law) (t : TypeId) :
    Sound law (fun calls => ∀ call ∈ calls, call.IsDeclared law)
      (constructsOf ask place node t) := by
  unfold constructsOf
  split
  · refine (baseClass?_safe careful home obeys).bind fun base => ?_
    split
    · exact .pure (by simp)
    · refine (careful.load? _ .constructs).bind fun found known => ?_
      refine Sound.mapM fun signature among => ?_
      have declared : signature.IsDeclared law := by
        cases found with
        | none => simp at among
        | some signatures => exact known signatures rfl signature among
      refine (Render.arrow_safe careful (fun symbol listed =>
        (declared symbol listed).toObeys) t).bind fun _ => .pure declared
  · refine Sound.mapM fun declaring among => Signature.ofNode_sound careful home (some t) ?_
    have listed := Signature.mem_of_mem_overloads among
    exact classBody_obeys obeys declaring (List.mem_filter.1 listed).1

end Members

end Rules

end TypeGloss
