/-
# TypeGloss.Proofs.Checker.SoundValues — types of expressions and declarations are lawful

The rules of inference read the syntax of expressions, go outward to the nearest declaration
of a name, and look names up in modules. Wherever they come to, the syntax is as lawful as
that which they started from.
-/
import TypeGloss.Proofs.Checker.SoundMembers
import TypeGloss.Proofs.Entries

namespace TypeGloss

set_option autoImplicit false

section Rules

variable {law : Tree.Law} {ask : Ask} (careful : Careful law ask)

/-! ## Outward -/

namespace Lookup

/-- What a block declares stands in the block. -/
theorem scopeDeclaration?_obeys {block declaration : Cursor} {name : String}
    (obeys : block.Obeys law) (found : scopeDeclaration? block name = some declaration) :
    declaration.Obeys law := by
  obtain ⟨statement, among, found⟩ := List.exists_of_findSome?_eq_some found
  obtain ⟨inner, exported, found⟩ := Option.bind_eq_some_iff.1 found
  have lawful : inner.Obeys law := by
    unfold exportedStatement? at exported
    split at exported
    · exact (obeys.named among).field? exported
    · cases exported
      exact obeys.named among
  split at found
  · exact lawful.ofKinds (List.mem_of_find?_eq_some found)
  · split at found
    · split at found
      · cases found
        exact lawful
      · cases found
    · cases found

theorem parameter?_obeys {function declaration : Cursor} {name : String}
    (obeys : function.Obeys law) (found : parameter? function name = some declaration) :
    declaration.Obeys law := by
  rcases Option.or_eq_some_iff.1 found with listed | ⟨-, single⟩
  · have among := List.mem_of_find?_eq_some listed
    exact Cursor.obeys_inside (fun _ found _ => (obeys.field? found).named) among
  · exact obeys.field? (Option.filter_eq_some_iff.1 single).1

theorem localAmong?_obeys {name : String} {ancestors : List Cursor} {declaration : Cursor}
    (obey : ∀ ancestor ∈ ancestors, ancestor.Obeys law)
    (found : localAmong? name ancestors = some declaration) : declaration.Obeys law := by
  induction ancestors with
  | nil => simp [localAmong?] at found
  | cons ancestor rest ih =>
      have here := obey ancestor List.mem_cons_self
      have outward := ih fun other among => obey other (List.mem_cons_of_mem _ among)
      unfold localAmong? at found
      dsimp only at found
      split at found
      · next parameter isParameter =>
          cases found
          split at isParameter
          · exact parameter?_obeys here isParameter
          · cases isParameter
      · split at found
        · exact scopeDeclaration?_obeys here found
        · split at found
          · split at found
            · next declared =>
                cases found
                exact scopeDeclaration?_obeys here declared
            · exact outward found
          · exact outward found

theorem localDeclaration?_obeys {node declaration : Cursor} {name : String}
    (obeys : node.Obeys law) (found : localDeclaration? node name = some declaration) :
    declaration.Obeys law :=
  localAmong?_obeys (fun _ among => obeys.ancestor among) found

end Lookup

namespace Inference

/-! ## Declarations -/

include careful in
theorem declaredValue_safe {node : Cursor} (obeys : node.Obeys law) {place : Place}
    (home : place.source.Obeys law) (literal : Bool) :
    Safe law (declaredValue ask node place literal) := by
  unfold declaredValue
  split
  · next found => exact careful.typeAt (obeys.fieldOr? found) home
  · next found => exact careful.ofExpression (obeys.field? found) home literal false
  · exact Check.any_safe

include careful in
theorem parameter_safe {node : Cursor} (obeys : node.Obeys law) {place : Place}
    (home : place.source.Obeys law) : Safe law (parameter ask node place) := by
  unfold parameter
  split
  · exact Check.any_safe
  · refine (declaredValue_safe careful obeys home false).bind fun declared => ?_
    dsimp only
    split
    · exact Check.any_safe.bind fun t => Check.arrayOf_safe t false
    · exact .pure trivial

theorem source_orTop (place : Place) : place.orTop.source = place.source := by
  unfold Place.orTop
  split <;> rfl

include careful in
theorem variableType_safe {declarator : Cursor} (obeys : declarator.Obeys law) {place : Place}
    (home : place.source.Obeys law) : Safe law (variableType ask declarator place) := by
  have inside : place.orTop.source.Obeys law := source_orTop place ▸ home
  exact Check.guarded_safe _ Check.hold_values (fun _ keyed => ⟨keyed.made⟩) Check.any_safe
    (declaredValue_safe careful obeys inside _)

include careful in
theorem binding_safe {found : Lookup.Found} (lawful : found.Obeys law) :
    Safe law (binding ask found) := by
  refine (Check.needFirst_sound found.bindings).bind fun first listed => ?_
  have obeys := lawful.bindings first listed
  split
  · exact Signature.functionOfBindings_safe lawful.source lawful.bindings
  · exact careful.declared lawful.source (by simpa) []
  · exact careful.declared lawful.source (by simpa) []
  · split
    · exact variableType_safe careful obeys lawful.source
    · exact careful.ofExpression obeys lawful.source false false

include careful in
theorem localValue_safe (name : String) {declaration : Cursor} (obeys : declaration.Obeys law)
    {place : Place} (home : place.source.Obeys law) :
    Safe law (localValue ask name declaration place) := by
  unfold localValue
  dsimp only
  split
  · exact variableType_safe careful obeys home
  · split
    · exact parameter_safe careful obeys home
    · split
      · exact Signature.functionAt_safe .function _ obeys home
      · exact Check.any_safe

/-! ## Names and members -/

include careful in
theorem identifier_safe (name : String) {at_ : Cursor} (obeys : at_.Obeys law) {place : Place}
    (home : place.source.Obeys law) (literal : Bool) :
    Safe law (identifier ask name at_ place literal) := by
  unfold identifier
  split
  · exact Check.primitive_safe .undefined
  · split
    · exact Check.primitive_safe .number
    · split
      · next declaration found =>
          refine (localValue_safe careful name (Lookup.localDeclaration?_obeys obeys found)
            home).bind fun t => ?_
          exact Check.keepLiteral_safe t literal
      · refine (Lookup.lookup_sound home name .values).bind fun result known => ?_
        split
        · next found =>
            exact (binding_safe careful (known found rfl)).bind fun t =>
              Check.keepLiteral_safe t literal
        · refine (Lookup.externalFile?_safe place.source name).bind fun file => ?_
          split
          · exact Check.namedType_safe name _
          · exact Check.any_safe

include careful in
theorem member_safe (owner : TypeId) (name : String) : Safe law (member ask owner name) := by
  refine (careful.simplified owner).bind fun simple => ?_
  split
  · exact Check.any_safe
  · refine (Check.category_safe _).bind fun category => ?_
    split
    · refine (Enum.memberType?_safe careful _ name).bind fun found => ?_
      split
      · exact .pure trivial
      · exact Check.any_safe
    · split
      · exact Check.primitive_safe .number
      · refine (careful.properties _).bind fun properties declared => ?_
        split
        · next property found =>
            exact careful.ofSymbol (declared property (List.mem_of_find?_eq_some found)).toObeys
        · exact Check.any_safe

include careful in
theorem valuePath_safe {node : Cursor} (obeys : node.Obeys law) {place : Place}
    (home : place.source.Obeys law) : Safe law (valuePath ask node place) := by
  unfold valuePath
  split
  · exact Check.any_safe
  · refine (identifier_safe careful _ obeys home true).bind fun start => ?_
    exact Safe.foldlM (fun t name _ => member_safe careful t name) start

/-! ## Literals and operators -/

theorem numberType_safe (text : String) (negative : Bool) : Safe law (numberType text negative) :=
  (Check.ofResult_safe _).bind fun _ => Check.literal_safe _ _

theorem unary_safe (node : Cursor) (keep : Bool) : Safe law (unary node keep) := by
  unfold unary
  dsimp only
  split
  · exact Check.primitive_safe .boolean
  · split
    · exact Check.primitive_safe .string
    · split
      · exact Check.primitive_safe .undefined
      · split
        · split
          · exact (numberType_safe _ _).bind fun t => Check.keepLiteral_safe t keep
          · exact Check.primitive_safe .number
        · exact Check.primitive_safe .number

theorem isNullish_safe (t : TypeId) : Safe law (isNullish t) :=
  (Check.facts_safe t).bind fun _ => .pure trivial

theorem dropNullish_safe (types : List TypeId) : Safe law (dropNullish types) :=
  Safe.filterM (fun t => (isNullish_safe t).bind fun _ => .pure trivial) types

include careful in
theorem operatorType_safe (operator : String) (left right : TypeId) :
    Safe law (operatorType ask operator left right) := by
  refine (Check.facts_safe left).bind fun leftFacts => ?_
  refine (Check.facts_safe right).bind fun rightFacts => ?_
  dsimp only
  split
  · exact Check.primitive_safe .boolean
  · split
    · split
      · exact Check.primitive_safe .string
      · split
        · exact .pure trivial
        · exact Check.any_safe
    · split
      · split
        · exact .pure trivial
        · exact Check.primitive_safe .number
      · split
        · exact .pure trivial
        · split
          · refine (careful.alternatives left).bind fun types => ?_
            exact (dropNullish_safe types).bind fun kept => careful.unionOfTypes _
          · exact Check.any_safe

include careful in
theorem binary_safe {node : Cursor} (obeys : node.Obeys law) {place : Place}
    (home : place.source.Obeys law) : Safe law (binary ask node place) := by
  have operand (name : String) {β : Type} {rest : TypeId → CheckM β}
      (following : ∀ t, Safe law (rest t)) :
      Safe law (do
        let inner ← Check.need (node.field? name)
        let t ← Signature.widenedExpression ask place inner
        rest t) := by
    refine (Check.need_sound _).bind fun inner found => ?_
    exact (Signature.widenedExpression_safe careful home (obeys.field? found)).bind following
  exact operand "left" fun left => operand "right" fun right =>
    operatorType_safe careful _ left right

/-! ## Calls -/

include careful in
theorem callable_sound (t : TypeId) :
    Sound law (fun calls => ∀ call ∈ calls, call.IsDeclared law) (callable ask t) := by
  refine (Check.category_safe t).bind fun category => ?_
  split
  · exact careful.calls t
  · exact careful.calls t
  · exact .pure (by simp)

include careful in
theorem call_safe {node : Cursor} (obeys : node.Obeys law) {place : Place}
    (home : place.source.Obeys law) : Safe law (call ask node place) := by
  unfold call
  dsimp only
  split
  · next argument rest _ isArgument =>
      have among : argument ∈ ((node.field? "arguments").map Cursor.parts).getD [] := by
        simp [isArgument]
      exact careful.ofExpression (obeys.fieldParts argument among) home true true
  · refine (Check.need_sound _).bind fun function found => ?_
    refine (careful.ofExpression (obeys.field? found) home false false).bind fun callee => ?_
    refine (callable_sound careful callee).bind fun signatures _ => ?_
    split
    · exact .pure trivial
    · exact Check.any_safe

theorem constructedLibrary_safe (name : String) (args : List TypeId) (place : Place) :
    Safe law (constructedLibrary name args place) := by
  unfold constructedLibrary
  split
  · split
    · exact Check.arrayOf_safe _ false
    · exact Check.any_safe.bind fun t => Check.arrayOf_safe t false
  · split
    · exact Reference.libraryType_safe name _ args
    · split
      · exact Check.namedType_safe name _
      · refine (Lookup.externalFile?_safe place.source name).bind fun file => ?_
        split
        · exact Check.namedType_safe name _
        · exact Check.any_safe

include careful in
theorem construction_safe {node : Cursor} (obeys : node.Obeys law) {place : Place}
    (home : place.source.Obeys law) : Safe law (construction ask node place) := by
  refine (Reference.typesAt_safe careful obeys.fieldParts home).bind fun args => ?_
  split
  · exact Check.any_safe
  · refine (Lookup.lookup_sound home _ .values).bind fun result known => ?_
    split
    · next first _ =>
        have found := known _ rfl
        split
        · refine careful.declared found.source ?_ args
          simpa using found.bindings first List.mem_cons_self
        · exact constructedLibrary_safe _ args place
    · exact constructedLibrary_safe _ args place

/-! ## Objects and arrays -/

theorem object_safe {node : Cursor} (obeys : node.Obeys law) {place : Place}
    (home : place.source.Obeys law) (frozen : Bool) : Safe law (object node place frozen) := by
  refine (Check.complete_safe place).bind fun _ => ?_
  refine Check.intern_safe _ ⟨{
    node := by simpa, place := by simpa, symbol := ?_, object := ?_ }, Cache.lawful_empty⟩
  · rintro _ ⟨⟩
    exact Symbol.obeys_of_declaration rfl (Declaration.obeys_of_node rfl obeys) rfl
  · rintro _ _ _ _ ⟨⟩
    rfl

theorem putProperty_sound {place : Place} (home : place.source.Obeys law) (frozen : Bool)
    (name : String) {node : Cursor} (obeys : node.Obeys law) (type : TypeId)
    {members : Entries Symbol} (declared : ∀ symbol ∈ members.entries, symbol.IsDeclared law) :
    Sound law (fun members => ∀ symbol ∈ Entries.entries members, symbol.IsDeclared law)
      (putProperty place frozen name node type members) := by
  refine (Check.newMember_sound home (by simpa) (some type)).bind fun member kept => .pure ?_
  intro symbol among
  rcases Entries.mem_entries_put among with rfl | before
  · exact Symbol.isDeclared_at rfl rfl obeys rfl kept
  · exact declared symbol before

include careful in
theorem addPart_sound {place : Place} (home : place.source.Obeys law) (frozen : Bool)
    {members : Entries Symbol} (declared : ∀ symbol ∈ members.entries, symbol.IsDeclared law)
    {part : Cursor} (obeys : part.Obeys law) :
    Sound law (fun members => ∀ symbol ∈ Entries.entries members, symbol.IsDeclared law)
      (addPart ask place frozen members part) := by
  unfold addPart
  split
  · refine (Members.nameOf?_safe _).bind fun name => ?_
    refine (Check.need_sound _).bind fun value found => ?_
    refine (careful.ofExpression (obeys.field? found) home frozen frozen).bind fun type => ?_
    split
    · exact putProperty_sound home frozen _ obeys type declared
    · exact .pure declared
  · refine (identifier_safe careful part.text obeys home frozen).bind fun type => ?_
    exact putProperty_sound home frozen _ obeys type declared
  · refine (Members.nameOf?_safe _).bind fun name => ?_
    refine (Signature.functionAt_safe .method name obeys home).bind fun type => ?_
    split
    · exact putProperty_sound home frozen _ obeys type declared
    · exact .pure declared
  · split
    · exact .pure declared
    · next inner _ parts =>
        refine (careful.ofExpression (obeys.firstPart parts) home false false).bind
          fun spread => ?_
        refine (careful.properties spread).bind fun properties others => .pure ?_
        exact Entries.entries_foldl_put declared others
  · exact .pure declared

include careful in
theorem objectMembers_sound {node : Cursor} (obeys : node.Obeys law) {place : Place}
    (home : place.source.Obeys law) (frozen : Bool) :
    Sound law (fun symbols => ∀ symbol ∈ symbols, symbol.IsDeclared law)
      (objectMembers ask node place frozen) := by
  refine (Sound.foldlM (fun members declared part among =>
    addPart_sound careful home frozen declared (obeys.named among)) (by simp [Entries.entries])).bind
      fun members declared => .pure declared

include careful in
theorem tuple_safe {node : Cursor} (obeys : node.Obeys law) {place : Place}
    (home : place.source.Obeys law) : Safe law (tuple ask node place) := by
  refine (Safe.mapM fun element among => ?_).bind fun items => ?_
  · have lawful := obeys.part (List.mem_filter.1 among).1
    exact (careful.ofExpression lawful home true true).bind fun _ => .pure trivial
  · refine (Check.complete_safe place).bind fun _ => ?_
    exact Check.intern_safe _ ⟨{ node := by simpa, place := by simpa },
      Cache.lawful_empty.set .elements trivial⟩

include careful in
theorem arrayPart_safe {place : Place} (home : place.source.Obeys law) {part : Cursor}
    (obeys : part.Obeys law) : Safe law (arrayPart ask place part) := by
  unfold arrayPart
  split
  · exact Signature.widenedExpression_safe careful home obeys
  · split
    · exact Check.any_safe
    · next parts =>
        refine (careful.ofExpression (obeys.firstPart parts) home false false).bind
          fun spread => ?_
        refine (Check.category_safe spread).bind fun category => ?_
        split
        · refine (careful.element? spread).bind fun element => ?_
          split
          · exact .pure trivial
          · exact Check.any_safe
        · exact Check.any_safe

include careful in
theorem array_safe {node : Cursor} (obeys : node.Obeys law) {place : Place}
    (home : place.source.Obeys law) (frozen : Bool) :
    Safe law (array ask node place frozen) := by
  unfold array
  split
  · exact tuple_safe careful obeys home
  · refine (Safe.mapM fun part among => arrayPart_safe careful home (obeys.part among)).bind
      fun types => ?_
    dsimp only
    split
    · exact Check.any_safe.bind fun element => Check.arrayOf_safe element false
    · exact (careful.unionOfTypes types).bind fun element => Check.arrayOf_safe element false

/-! ## Expressions -/

theorem functionExpression_safe {node : Cursor} (obeys : node.Obeys law) {place : Place}
    (home : place.source.Obeys law) : Safe law (functionExpression node place) := by
  refine (Check.complete_safe place).bind fun _ => ?_
  refine Check.intern_safe _ ⟨{
    node := by simpa, place := by simpa, symbol := ?_, shape := ?_ }, Cache.lawful_empty⟩
  · rintro _ ⟨⟩
    exact Symbol.obeys_of_declaration rfl (Declaration.obeys_of_node rfl obeys) rfl
  · intro other among
    exact List.mem_singleton.1 among ▸ obeys

theorem classExpression_safe {node : Cursor} (obeys : node.Obeys law) {place : Place}
    (home : place.source.Obeys law) : Safe law (classExpression node place) :=
  (Check.complete_safe place).bind fun _ => Check.intern_safe _ ⟨{ node := by simpa, place := by simpa }, Cache.lawful_empty⟩

theorem template_safe (node : Cursor) (keep : Bool) : Safe law (template node keep) := by
  unfold template
  split
  · exact Check.primitive_safe .string
  · refine (Check.ofResult_safe _).bind fun value => ?_
    exact (Check.literal_safe _ _).bind fun t => Check.keepLiteral_safe t keep

include careful in
theorem assertion_safe {node : Cursor} (obeys : node.Obeys law) {place : Place}
    (home : place.source.Obeys law) : Safe law (assertion ask node place) := by
  refine (Check.needLast_sound node.parts).bind fun last among => ?_
  split
  · refine (Check.needFirst_sound node.parts).bind fun inner among => ?_
    exact careful.ofExpression (obeys.part among) home true true
  · exact careful.typeAt (obeys.part among) home

theorem awaited_safe (t : TypeId) : Safe law (awaited t) := by
  refine (Check.facts_safe t).bind fun r => ?_
  split
  · exact .pure trivial
  · exact .pure trivial
  · exact .pure trivial

include careful in
theorem expression_safe {node : Cursor} (obeys : node.Obeys law) {place : Place}
    (home : place.source.Obeys law) (literal frozen : Bool) :
    Safe law (expression ask node place literal frozen) := by
  unfold expression
  dsimp only
  split
  · exact functionExpression_safe obeys home
  · split
    · exact Check.namedType_safe _ none
    · split
      · split
        · next parts => exact careful.ofExpression (obeys.firstPart parts) home literal frozen
        · exact Check.any_safe
      · split
        · next parts => exact careful.ofExpression (obeys.firstPart parts) home literal frozen
        · exact Check.any_safe
      · refine (Check.ofResult_safe _).bind fun value => ?_
        exact (Check.literal_safe _ _).bind fun t => Check.keepLiteral_safe t _
      · exact template_safe node _
      · exact (numberType_safe _ _).bind fun t => Check.keepLiteral_safe t _
      · exact (Check.literal_safe _ _).bind fun t => Check.keepLiteral_safe t _
      · exact (Check.literal_safe _ _).bind fun t => Check.keepLiteral_safe t _
      · exact Check.primitive_safe .null
      · exact Check.primitive_safe .undefined
      · exact Check.namedType_safe _ _
      · exact unary_safe node _
      · exact binary_safe careful obeys home
      · refine careful.unionOf fun branch _ => ?_
        refine (Check.need_sound _).bind fun inner found => ?_
        exact careful.ofExpression (obeys.field? found) home literal frozen
      · exact assertion_safe careful obeys home
      · refine (Check.needFirst_sound _).bind fun inner among => ?_
        exact careful.ofExpression (obeys.part among) home literal frozen
      · refine (Check.needFirst_sound _).bind fun inner among => ?_
        exact (careful.ofExpression (obeys.part among) home false false).bind awaited_safe
      · exact object_safe obeys home frozen
      · exact array_safe careful obeys home frozen
      · exact classExpression_safe obeys home
      · exact identifier_safe careful _ obeys home _
      · refine (Check.need_sound _).bind fun inner found => ?_
        refine (careful.ofExpression (obeys.field? found) home true false).bind fun owner => ?_
        refine (member_safe careful owner _).bind fun found => ?_
        exact Check.keepLiteral_safe found _
      · exact call_safe careful obeys home
      · exact construction_safe careful obeys home
      · exact Check.any_safe

/-! ## Members and declarations -/

include careful in
theorem memberAt_safe {symbol : Symbol} (lawful : symbol.Obeys law) {place : Place}
    (home : place.source.Obeys law) {nodes : List Cursor}
    (obey : ∀ node ∈ nodes, node.Obeys law) : Safe law (memberAt ask symbol place nodes) := by
  unfold memberAt
  split
  · exact Check.any_safe
  · next node rest =>
      have obeys := obey node List.mem_cons_self
      dsimp only
      split
      · exact Signature.functionOf_safe obey home lawful
      · split
        · exact parameter_safe careful obeys home
        · split
          · exact declaredValue_safe careful obeys home _
          · split
            · exact variableType_safe careful obeys home
            · exact Check.any_safe

/-- What a module declares stands in its tree. -/
theorem bindingsOf_obey {scope : Module.Scope} (lawful : scope.Obeys law) (name : Option String)
    (space : Lookup.Space) {bindings : List Module.Binding}
    (found : (name.bind fun n => Lookup.declarations? scope n space).getD [] = bindings) :
    ∀ binding ∈ bindings, binding.node.Obeys law := by
  subst found
  intro binding among
  cases listed : name.bind fun n => Lookup.declarations? scope n space with
  | none => simp [listed] at among
  | some bindings =>
      obtain ⟨n, -, found⟩ := Option.bind_eq_some_iff.1 listed
      rw [listed] at among
      exact lawful n space bindings found binding among

theorem bindingOf?_obeys {scope : Module.Scope} (lawful : scope.Obeys law)
    {declaration : Declaration} {node : Cursor} {binding : Module.Binding}
    (found : bindingOf? declaration node scope = some binding) : binding.node.Obeys law := by
  rcases Option.or_eq_some_iff.1 found with found | ⟨-, found⟩
  · exact bindingsOf_obey lawful declaration.name .types rfl binding
      (List.mem_of_find?_eq_some found)
  · exact bindingsOf_obey lawful declaration.name .values rfl binding
      (List.mem_of_find?_eq_some found)

theorem presentSource_sound (declaration : Declaration) :
    Sound law (fun source => source.Obeys law) (presentSource declaration) := by
  refine Check.program_sound.bind fun program sources => ?_
  split
  · next found => exact .pure (sources found)
  · exact .throw _

include careful in
theorem declarationType_safe {declaration : Declaration} (lawful : declaration.Obeys law) :
    Safe law (declarationType ask declaration) := by
  refine (presentSource_sound declaration).bind fun source home => ?_
  have written : Sound law (fun node => node.Obeys law) (syntaxOf declaration) := by
    unfold syntaxOf
    split
    · next node found => exact .pure (lawful node found)
    · exact .throw _
  refine written.bind fun node obeys => ?_
  refine (Check.checkSyntax_safe node source).bind fun _ => ?_
  split
  · refine (Check.scopeOf_sound home).bind fun scope scopeLawful => ?_
    dsimp only
    split
    · exact Signature.functionOf_safe (by simpa) home
        (Symbol.obeys_of_declaration rfl lawful rfl)
    · refine Signature.functionOfBindings_safe home fun binding among => ?_
      exact bindingsOf_obey scopeLawful _ .values rfl binding (List.mem_filter.1 among).1
  · split
    · exact variableType_safe careful obeys home
    · exact careful.ofExpression obeys home false false
  · exact declaredValue_safe careful obeys home false
  · exact declaredValue_safe careful obeys home false
  · split
    · refine (Check.scopeOf_sound home).bind fun scope scopeLawful => ?_
      dsimp only
      split
      · refine (Check.need_sound _).bind fun binding found => ?_
        exact careful.declared home (by simpa using bindingOf?_obeys scopeLawful found) []
      · refine careful.declared home (fun binding among => ?_) []
        exact bindingsOf_obey scopeLawful _ .types rfl binding (List.mem_filter.1 among).1
    · exact .throw _

end Inference

end Rules

end TypeGloss
