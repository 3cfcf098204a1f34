/-
# TypeGloss.Proofs.Checker.SoundParts — all answers of a checker are sound

The parts of types are found by sound computations, where what is known about a type is what
it was made with (`loader?_isSound`). So every rule answers soundly if its own questions are
answered so, and by induction on the number of nested questions all answers are sound
(`careful_ask`).
-/
import TypeGloss.Proofs.Checker.Memory
import TypeGloss.Proofs.Checker.SoundTypes

namespace TypeGloss

set_option autoImplicit false

section Rules

variable {law : Tree.Law} {ask : Ask} (careful : Careful law ask) (reliable : Reliable ask)

/-! ## Enums -/

namespace Enum

theorem members_safe (source : Source) (node : Cursor) : Safe law (members source node) := by
  refine Safe.foldlM (fun found member _ => ?_) []
  unfold addMember
  split
  · refine (memberName_safe member).bind fun name => ?_
    refine Sound.bind (P := fun _ => True) ?_ fun _ _ => .pure trivial
    refine Check.program_sound.bind fun program _ => ?_
    exact (Check.ofResult_safe _).bind fun _ => .pure trivial
  · split
    · exact (memberName_safe member).bind fun _ => .pure trivial
    · exact .pure trivial

end Enum

/-! ## Computed types -/

namespace Computed

include careful in
theorem filterMembers_safe (name : String) (args : List TypeId) (target : TypeId) :
    Safe law (filterMembers ask name args target) := by
  refine (careful.alternatives target).bind fun members => ?_
  split
  · refine (Inference.dropNullish_safe members).bind fun kept => ?_
    exact (careful.unionOfTypes kept).map some
  · split
    · refine (careful.simplified _).bind fun other => ?_
      split
      · exact .pure trivial
      · refine (Safe.mapM fun member _ => ?_).bind fun matched => ?_
        · exact (careful.assignable member _).bind fun _ => .pure trivial
        · exact (careful.unionOfTypes _).map some
    · exact .pure trivial

include careful in
theorem copy_sound (isOptional isReadonly : Bool) {symbol : Symbol}
    (declared : symbol.IsDeclared law) :
    Sound law (fun symbol => symbol.IsDeclared law) (copy ask isOptional isReadonly symbol) := by
  unfold copy
  split
  · exact .pure ⟨⟨declared.declaration, declared.member⟩, declared.declared⟩
  · next member isMember =>
      have lawful := declared.member member isMember
      refine (careful.ofSymbol declared.toObeys).bind fun t => ?_
      refine (Check.newMember_sound lawful.source lawful.nodes (some t)).bind
        fun fresh kept => .pure ?_
      refine ⟨⟨declared.declaration, ?_⟩, declared.declared⟩
      rintro _ ⟨⟩
      exact kept

include careful in
theorem changedProperties?_sound (name : String) (args : List TypeId) {properties : List Symbol}
    (declared : ∀ symbol ∈ properties, symbol.IsDeclared law) :
    Sound law (fun result => ∀ symbols ∈ result, ∀ symbol ∈ symbols, symbol.IsDeclared law)
      (changedProperties? ask name args properties) := by
  have copies (isOptional isReadonly : Symbol → Bool) :
      Sound law (fun result => ∀ symbols ∈ result, ∀ symbol ∈ symbols, symbol.IsDeclared law)
        (some <$> properties.mapM fun p => copy ask (isOptional p) (isReadonly p) p) := by
    refine (Sound.mapM fun p among => copy_sound careful _ _ (declared p among)).map
      fun symbols changed => ?_
    rintro _ ⟨⟩
    exact changed
  unfold changedProperties?
  split
  · exact copies (fun _ => true) Symbol.isReadonly
  · exact copies (fun _ => false) Symbol.isReadonly
  · exact copies Symbol.isOptional fun _ => true
  · split
    · refine (Structure.literalKeys?_safe careful _).bind fun keys => ?_
      split
      · exact .pure (by simp)
      · refine .pure ?_
        rintro _ ⟨⟩ symbol among
        exact declared symbol (List.mem_filter.1 among).1
    · exact .pure (by simp)

include careful reliable in
/-- What a utility type computes is sound for every known type of that category. -/
theorem utility_soundAt {t : TypeId} {known : TypeFacts} (computed : known.category = .computed)
    (name : String) (args : List TypeId) :
    SoundAt law t known (fun _ => True) (utility ask t name args) := by
  refine .after (Check.needFirst_sound args) (Check.needFirst_steady args).first fun first _ => ?_
  split
  · refine Sound.soundAt ?_ t known
    refine (careful.simplified first).bind fun target => ?_
    split
    · exact .pure trivial
    · exact filterMembers_safe careful name args _
  · refine .after (Structure.objectProperties?_sound careful first)
      (Structure.objectProperties?_conservative reliable first) fun properties declared => ?_
    split
    · exact (Sound.pure trivial).soundAt t known
    · exact (Sound.pure trivial).soundAt t known
    · refine .after (changedProperties?_sound careful name args (declared _ rfl))
        (changedProperties?_conservative reliable name args _) fun changed declared => ?_
      split
      · exact (Sound.pure trivial).soundAt t known
      · refine .after (careful.text t) (reliable.text t).first fun text _ => ?_
        exact Check.syntheticObject_soundAt computed (declared _ rfl) text

/-! ### Mapped types -/

variable (law) in
/-- The parts of a mapped type obey a law. -/
structure MappedClause.Obeys (clause : MappedClause) : Prop where
  signature : clause.signature.Obeys law
  constraint : clause.constraint.Obeys law
  remap : ∀ node ∈ clause.remap, node.Obeys law
  value : clause.value.Obeys law

theorem mappedClause?_obeys {node : Cursor} (obeys : node.Obeys law) {clause : MappedClause}
    (found : mappedClause? node = some clause) : clause.Obeys law := by
  obtain ⟨signature, signed, found⟩ := Option.bind_eq_some_iff.1 found
  obtain ⟨inner, clauses, found⟩ := Option.bind_eq_some_iff.1 found
  obtain ⟨typing, annotates, found⟩ := Option.bind_eq_some_iff.1 found
  obtain ⟨value, valued, found⟩ := Option.bind_eq_some_iff.1 found
  obtain ⟨constraint, constrained, found⟩ := Option.bind_eq_some_iff.1 found
  cases found
  have here := obeys.ofKinds (List.mem_of_find?_eq_some signed)
  have inside := here.first? clauses
  refine ⟨here, ?_, fun remap written => inside.field? written,
    (here.first? annotates).lastPart? valued⟩
  rcases Option.or_eq_some_iff.1 constrained with field | ⟨-, second⟩
  · exact inside.field? field
  · exact inside.part (List.mem_of_getElem? second)

include careful in
theorem mappedKeys?_sound {place : Place} (home : place.source.Obeys law) {constraint : Cursor}
    (obeys : constraint.Obeys law) :
    Sound law (fun result => ∀ keys ∈ result, ∀ pair ∈ keys, ∀ symbol ∈ pair.2,
      symbol.IsDeclared law) (mappedKeys? ask place constraint) := by
  have inner := obeys.unwrapParens
  unfold mappedKeys?
  dsimp only
  split
  · refine (Check.need_sound _).bind fun node found => ?_
    refine (careful.typeAt (inner.lastPart? found) home).bind fun target => ?_
    refine (Structure.objectProperties?_sound careful target).bind fun properties declared => ?_
    split
    · exact .pure (by simp)
    · next properties =>
        refine .pure ?_
        rintro _ ⟨⟩ pair among symbol isSymbol
        obtain ⟨item, listed, rfl⟩ := List.mem_map.1 among
        cases isSymbol
        have known := Structure.mem_of_mem_byName (List.mem_map.2 ⟨item, listed, rfl⟩)
        exact declared properties rfl _ known
  · refine (careful.typeAt inner home).bind fun t => ?_
    refine (Structure.literalKeys?_safe careful t).bind fun keys => .pure ?_
    intro pairs found pair among symbol isSymbol
    obtain ⟨names, -, rfl⟩ := Option.map_eq_some_iff.1 found
    obtain ⟨key, -, rfl⟩ := List.mem_map.1 among
    cases isSymbol

include careful in
theorem mappedName?_safe {place : Place} (home : place.source.Obeys law) {remap : Option Cursor}
    (obey : ∀ node ∈ remap, node.Obeys law) (key : String) :
    Safe law (mappedName? ask place remap key) := by
  unfold mappedName?
  split
  · exact .pure trivial
  · next node =>
      refine (careful.typeAt (obey node rfl) home).bind fun t => ?_
      exact (Structure.literalKeys?_safe careful t).bind fun _ => .pure trivial

include careful in
theorem mappedProperty?_sound {place : Place} (home : place.source.Obeys law)
    {clause : MappedClause} (obeys : clause.Obeys law) (key : String) {base : Option Symbol}
    (declared : ∀ symbol ∈ base, symbol.IsDeclared law) :
    Sound law (fun found => ∀ symbol ∈ found, symbol.IsDeclared law)
      (mappedProperty? ask place clause key base) := by
  refine (Check.literal_safe _ _).bind fun literal => ?_
  refine (Check.newPlace_sound home _).bind fun inside home => ?_
  refine (mappedName?_safe careful home obeys.remap key).bind fun name => ?_
  split
  · exact .pure (by simp)
  · next name =>
      dsimp only
      refine (careful.typeAt obeys.value home).bind fun type => ?_
      have made {declaration : Option Declaration} (isOptional isReadonly : Bool)
          (obey : ∀ known ∈ declaration, known.Obeys law)
          (isDeclared : declaration.isSome = true) :
          Sound law (fun found : Option Symbol => ∀ symbol ∈ found, symbol.IsDeclared law) (do
            let member ← Check.newMember inside
              (((declaration.bind Declaration.node).map ([·])).getD []) (some type)
            return some
              { name := some name, declaration, isOptional, isReadonly, kind := some .property,
                member := some member : Symbol }) := by
        refine (Check.newMember_sound home (fun node among => ?_) (some type)).bind
          fun member kept => .pure ?_
        · cases written : declaration.bind Declaration.node with
          | none => simp [written] at among
          | some other =>
              obtain ⟨known, isKnown, hasNode⟩ := Option.bind_eq_some_iff.1 written
              rw [written] at among
              exact List.mem_singleton.1 among ▸ obey known isKnown other hasNode
        · rintro _ ⟨⟩
          refine ⟨⟨obey, ?_⟩, isDeclared⟩
          rintro _ ⟨⟩
          exact kept
      -- The property is declared where the one it comes from is, or else in the mapped type.
      cases base with
      | none =>
          refine made _ _ ?_ rfl
          rintro _ ⟨⟩
          exact Declaration.obeys_of_node rfl obeys.signature
      | some property =>
          exact made _ _ (declared property rfl).declaration (declared property rfl).declared

include careful reliable in
/-- What a mapped type computes is sound if its node obeys. -/
theorem mapped_soundAt {t : TypeId} {known : TypeFacts} (computed : known.category = .computed)
    {node : Cursor} (obeys : node.Obeys law) {place : Place} (home : place.source.Obeys law) :
    SoundAt law t known (fun _ => True) (mapped ask t node place) := by
  unfold mapped
  split
  · exact (Sound.pure trivial).soundAt t known
  · next clause found =>
      have lawful := mappedClause?_obeys obeys found
      refine .after (mappedKeys?_sound careful home lawful.constraint)
        (mappedKeys?_conservative reliable place _) fun keys declared => ?_
      split
      · exact (Sound.pure trivial).soundAt t known
      · next keys =>
          have properties := Sound.mapM (f := fun pair : String × Option Symbol =>
              mappedProperty? ask place clause pair.1 pair.2) fun pair among =>
            mappedProperty?_sound careful home lawful pair.1 (declared keys rfl pair among)
          have conserves : Conservative (keys.mapM fun pair : String × Option Symbol =>
              mappedProperty? ask place clause pair.1 pair.2) :=
            .mapM (fun pair => mappedProperty?_conservative reliable place _ _ _) keys
          refine .after properties conserves fun found declared => ?_
          refine .after (careful.text t) (reliable.text t).first fun text _ => ?_
          refine Check.syntheticObject_soundAt computed (fun symbol among => ?_) text
          obtain ⟨result, listed, isSymbol⟩ := List.mem_filterMap.1 among
          exact declared result listed symbol isSymbol

/-! ### Keys and access -/

include careful in
theorem keys_safe (t : TypeId) {node : Cursor} (obeys : node.Obeys law) {place : Place}
    (home : place.source.Obeys law) : Safe law (keys ask t node place) := by
  refine (Check.need_sound _).bind fun inner found => ?_
  refine (careful.typeAt (obeys.lastPart? found) home).bind fun target => ?_
  refine (Structure.objectProperties?_sound careful target).bind fun properties _ => ?_
  split
  · exact (Structure.stuck_safe careful t).map some
  · exact (careful.unionOf fun p _ => Check.literal_safe _ _).map some

include careful in
theorem tupleAccess?_safe (target : TypeId) (index : TypeFacts) :
    Safe law (tupleAccess? ask target index) := by
  refine (careful.elements target).bind fun elements => ?_
  split
  · split
    · exact .pure trivial
    · exact .pure trivial
  · split
    · exact (careful.unionOfTypes _).map some
    · exact .pure trivial

include careful in
theorem propertyTypes_safe (target : TypeId) (keys : List String) :
    Safe law (propertyTypes ask target keys) := by
  refine (careful.properties target).bind fun properties declared => ?_
  refine Safe.mapM fun symbol among => careful.ofSymbol ?_
  obtain ⟨key, -, found⟩ := List.mem_filterMap.1 among
  exact (declared symbol (Structure.mem_of_find?_byName found)).toObeys

include careful in
theorem keyAccess_safe (t target index : TypeId) : Safe law (keyAccess ask t target index) := by
  refine (Structure.literalKeys?_safe careful index).bind fun keys => ?_
  refine (Check.category_safe target).bind fun category => ?_
  split
  · refine (propertyTypes_safe careful target _).bind fun found => ?_
    split
    · exact Structure.stuck_safe careful t
    · exact careful.unionOfTypes _
  · exact Structure.stuck_safe careful t

include careful in
theorem access_safe (t : TypeId) {node : Cursor} (obeys : node.Obeys law) {place : Place}
    (home : place.source.Obeys law) : Safe law (access ask t node place) := by
  unfold access
  split
  · next targetNode indexNode _ parts =>
      have first : targetNode.Obeys law := obeys.firstPart parts
      have second : indexNode.Obeys law := obeys.part (by simp [parts])
      refine (careful.typeAt first home).bind fun target => ?_
      refine (careful.simplified target).bind fun target => ?_
      refine (careful.typeAt second home).bind fun index => ?_
      refine (careful.simplified index).bind fun index => ?_
      split
      · refine (Check.category_safe _).bind fun category => ?_
        refine (Check.facts_safe _).bind fun indexFacts => ?_
        split
        · exact careful.element? _
        · split
          · refine (tupleAccess?_safe careful _ indexFacts).bind fun found => ?_
            split
            · exact .pure trivial
            · exact (keyAccess_safe careful t _ _).map some
          · exact (keyAccess_safe careful t _ _).map some
      · exact .pure trivial
  · exact .pure trivial

end Computed

/-! ## Conditional types -/

namespace Conditional

include careful in
theorem fitsAll_safe {place : Place} (home : place.source.Obeys law)
    {pairs : List (TypeId × Cursor)} (obey : ∀ pair ∈ pairs, pair.2.Obeys law) (inferred : Inferred) :
    Safe law (fitsAll ask place pairs inferred) := by
  induction pairs generalizing inferred with
  | nil => exact .pure trivial
  | cons pair rest ih =>
      refine (careful.fits (some pair.1) (obey pair List.mem_cons_self) home inferred).bind
        fun result => ?_
      split
      · exact ih (fun pair among => obey pair (List.mem_cons_of_mem _ among)) _
      · exact .pure trivial

include careful in
theorem fitsGeneric_safe (candidate : TypeId) {pattern : Cursor} (obeys : pattern.Obeys law)
    {place : Place} (home : place.source.Obeys law) (inferred : Inferred) :
    Safe law (fitsGeneric ask candidate pattern place inferred) := by
  have arguments : ∀ arg ∈ ((pattern.fieldOr? "type_arguments" ["type_arguments"]).map
      Cursor.parts).getD [], arg.Obeys law := by
    intro arg among
    exact Cursor.obeys_inside (fun _ found _ => (obeys.fieldOr? found).part) among
  refine (Check.facts_safe candidate).bind fun r => ?_
  dsimp only
  split
  · next elementNode rest _ isArgument =>
      refine (careful.element? candidate).bind fun element => ?_
      exact careful.fits element (arguments elementNode (by simp [isArgument])) home inferred
  · split
    · refine fitsAll_safe careful home (fun pair among => ?_) inferred
      exact arguments pair.2 (List.of_mem_zip among).2
    · exact .pure trivial

include careful in
theorem fits_safe (candidate : Option TypeId) {pattern : Cursor} (obeys : pattern.Obeys law)
    {place : Place} (home : place.source.Obeys law) (inferred : Inferred) :
    Safe law (fits ask candidate pattern place inferred) := by
  unfold fits
  split
  · refine (careful.typeAt obeys home).bind fun t => ?_
    refine (careful.simplified t).bind fun target => ?_
    split
    · exact .pure trivial
    · refine (Check.need_sound candidate).bind fun t _ => ?_
      exact (careful.assignable t _).bind fun _ => .pure trivial
  · split
    · exact .pure trivial
    · refine (Check.needFirst_sound _).bind fun inner among => ?_
      exact careful.fits candidate (obeys.part among) home inferred
    · refine (Check.need_sound candidate).bind fun t _ => ?_
      refine (Check.category_safe t).bind fun category => ?_
      split
      · exact .pure trivial
      · refine (careful.element? t).bind fun element => ?_
        refine (Check.needFirst_sound _).bind fun inner among => ?_
        exact careful.fits element (obeys.part among) home inferred
    · refine (Check.need_sound candidate).bind fun t _ => ?_
      exact fitsGeneric_safe careful t obeys home inferred
    · refine (Check.need_sound candidate).bind fun t _ => ?_
      refine (Inference.callable_sound careful t).bind fun signatures _ => ?_
      split
      · exact .pure trivial
      · split
        · exact .pure trivial
        · next found => exact careful.fits _ (obeys.field? found) home inferred
    · exact .pure trivial

theorem branchPlace_sound {source : Source} (home : source.Obeys law) (bound : Env)
    (inferred : Inferred) :
    Sound law (fun place => place.source.Obeys law) (branchPlace source bound inferred) :=
  (Check.newPlace_sound home _).bind fun _ home => .pure home

variable (law) in
/-- The branches of a conditional type and what chooses between them obey a law. -/
structure Choice.Obeys (choice : Choice) : Prop where
  checked : choice.checked.Obeys law
  pattern : choice.pattern.Obeys law
  whenTrue : choice.whenTrue.Obeys law
  whenFalse : choice.whenFalse.Obeys law

theorem choice?_obeys {node : Cursor} (obeys : node.Obeys law) {choice : Choice}
    (found : choice? node = some choice) : choice.Obeys law := by
  obtain ⟨checked, left, found⟩ := Option.bind_eq_some_iff.1 found
  obtain ⟨pattern, right, found⟩ := Option.bind_eq_some_iff.1 found
  obtain ⟨whenTrue, consequence, found⟩ := Option.bind_eq_some_iff.1 found
  obtain ⟨whenFalse, alternative, found⟩ := Option.bind_eq_some_iff.1 found
  cases found
  exact ⟨obeys.field? left, obeys.field? right, obeys.field? consequence,
    obeys.field? alternative⟩

include careful in
theorem branches?_safe {place : Place} (home : place.source.Obeys law) {choice : Choice}
    (obeys : choice.Obeys law) (parameter : Option String) (candidates : List TypeId) :
    Safe law (branches? ask place choice parameter candidates) := by
  induction candidates with
  | nil => exact .pure trivial
  | cons candidate rest ih =>
      refine (Check.category_safe candidate).bind fun category => ?_
      split
      · exact .pure trivial
      · refine (careful.fits (some candidate) obeys.pattern home []).bind fun result => ?_
        obtain ⟨matched, inferred⟩ := result
        dsimp only
        refine (branchPlace_sound home _ inferred).bind fun inside home => ?_
        have branch : (if matched then choice.whenTrue else choice.whenFalse).Obeys law := by
          split
          · exact obeys.whenTrue
          · exact obeys.whenFalse
        exact (careful.typeAt branch home).bind fun t => ih.bind fun _ => .pure trivial

include careful in
theorem united_safe (t : TypeId) {place : Place} (home : place.source.Obeys law)
    {choice : Choice} (obeys : choice.Obeys law) (parameter : Option String)
    (candidates : List TypeId) :
    Safe law (united ask t place choice parameter candidates) := by
  refine (branches?_safe careful home obeys parameter candidates).bind fun results => ?_
  split
  · exact Structure.stuck_safe careful t
  · exact careful.unionOfTypes _

include careful in
theorem conditional_safe (t : TypeId) {node : Cursor} (obeys : node.Obeys law) {place : Place}
    (home : place.source.Obeys law) : Safe law (conditional ask t node place) := by
  unfold conditional
  split
  · exact .pure trivial
  · next choice found =>
      have lawful := choice?_obeys obeys found
      refine (careful.typeAt lawful.checked home).bind fun checked => ?_
      refine (careful.simplified checked).bind fun simple => ?_
      split
      · exact .pure trivial
      · refine (Check.category_safe _).bind fun category => ?_
        dsimp only
        split
        · exact (careful.members _).bind fun members =>
            (united_safe careful t home lawful _ members).map some
        · exact (united_safe careful t home lawful _ _).map some

end Conditional

/-! ## Parts -/

namespace Answer

theorem syntaxOf_sound {r : TypeFacts} (known : r.Lawful law) :
    Sound law (fun found : Cursor × Place => found.1.Obeys law ∧ found.2.source.Obeys law)
      (syntaxOf r) := by
  refine (Check.need_sound _).bind fun node isNode => ?_
  refine (Check.need_sound _).bind fun place isPlace => ?_
  exact (Check.upToDate_sound (known.place place isPlace)).bind fun place home =>
    .pure ⟨known.node node isNode, home⟩

variable (law) in
/-- A way to find a part of a type with the given facts, if there is one, is sound. -/
def Loader.IsSound {part : Part} (t : TypeId) (known : TypeFacts) (loader : Loader part) : Prop :=
  ∀ find, loader = some find → SoundAt law t known (part.Lawful law) find

section Loaders

variable {t : TypeId} {r : TypeFacts} {part : Part}

theorem isSound_none : Loader.IsSound law t r (none : Loader part) := by
  intro find impossible
  cases impossible

theorem isSound_some {find : CheckM part.Content} (sound : Sound law (part.Lawful law) find) :
    Loader.IsSound law t r (some find) := by
  intro other same
  cases same
  exact sound.soundAt t r

/-- Whatever is done with the syntax of a type, if that is sound. -/
theorem isSound_withSyntax {find : Cursor × Place → CheckM part.Content} (known : r.Lawful law)
    (rest : ∀ {node : Cursor} {place : Place}, node.Obeys law → place.source.Obeys law →
      Sound law (part.Lawful law) (find (node, place))) :
    Loader.IsSound law t r (some (syntaxOf r >>= find)) :=
  isSound_some ((syntaxOf_sound known).bind fun (_, _) lawful => rest lawful.1 lawful.2)

end Loaders

include careful reliable in
theorem written?_isSound (t : TypeId) {r : TypeFacts} (known : r.Lawful law) (part : Part) :
    Loader.IsSound law t r (written? ask t r part) := by
  cases part with
  | text =>
      exact isSound_withSyntax known fun {node place} _ _ => Render.render_safe careful node place
  | elements =>
      simp only [written?]
      split
      · exact isSound_none
      · exact isSound_withSyntax known fun obeys home =>
          Safe.mapM fun item among => TypeSyntax.tupleItem_safe careful home (obeys.part among)
  | members =>
      simp only [written?]
      split
      · exact isSound_none
      · exact isSound_withSyntax known fun obeys home =>
          Safe.mapM fun operand among =>
            careful.typeAt (TypeSyntax.operands_obey obeys operand among) home
  | properties =>
      simp only [written?]
      split
      · exact isSound_none
      · exact isSound_withSyntax known fun obeys home => Members.ofBody_sound home obeys
  | indexes =>
      simp only [written?]
      split
      · exact isSound_none
      · exact isSound_withSyntax known fun obeys home =>
          Members.indexesOfBody_safe careful home obeys
  | calls =>
      simp only [written?]
      split
      · refine isSound_withSyntax known fun obeys home => ?_
        refine (Signature.ofNode_sound careful home none obeys).bind fun call declared => ?_
        exact .pure (List.forall_mem_singleton.2 declared)
      · split
        · exact isSound_withSyntax known fun obeys home =>
            Members.callsOfBody_sound careful home obeys
        · exact isSound_none
  | simplified =>
      simp only [written?]
      split
      · exact isSound_none
      · next computed =>
          rintro _ ⟨⟩
          refine .after (syntaxOf_sound known) (syntaxOf_conservative r) fun found lawful => ?_
          obtain ⟨node, place⟩ := found
          obtain ⟨obeys, home⟩ := lawful
          dsimp only
          split
          · exact Computed.mapped_soundAt careful reliable (Classical.not_not.1 computed) obeys home
          · exact (Computed.keys_safe careful t obeys home).soundAt t r
          · exact (Computed.access_safe careful t obeys home).soundAt t r
          · exact (Conditional.conditional_safe careful t obeys home).soundAt t r
  | element | constructs | classMembers | enumMembers => exact isSound_none

include careful in
theorem declared?_isSound (t : TypeId) {r : TypeFacts} (known : r.Lawful law) (part : Part) :
    Loader.IsSound law t r (declared? ask t r part) := by
  cases part with
  | text => exact isSound_some (careful.applied _ _)
  | properties =>
      simp only [declared?]
      split
      · exact isSound_none
      · exact isSound_withSyntax known fun _ home =>
          Members.ofInterface_sound careful home known.bindings
  | indexes =>
      simp only [declared?]
      split
      · exact isSound_none
      · exact isSound_withSyntax known fun _ home =>
          Members.indexesOfInterface_safe careful home known.bindings
  | calls =>
      simp only [declared?]
      split
      · exact isSound_none
      · exact isSound_withSyntax known fun _ home =>
          Members.callsOfInterface_sound careful home known.bindings
  | classMembers =>
      simp only [declared?]
      split
      · exact isSound_none
      · exact isSound_withSyntax known fun obeys home => Members.ofClass_sound careful home obeys
  | constructs =>
      simp only [declared?]
      split
      · exact isSound_none
      · exact isSound_withSyntax known fun obeys home =>
          Members.constructsOf_sound careful home obeys t
  | enumMembers =>
      simp only [declared?]
      split
      · exact isSound_none
      · exact isSound_withSyntax known fun {node place} _ _ =>
          Enum.members_safe place.source node
  | members | element | elements | simplified => exact isSound_none

include careful in
theorem joined_safe (separator : String) (types : List TypeId) :
    Safe law (joined ask separator types) :=
  (Safe.mapM fun t _ => careful.text t).bind fun _ => .pure trivial

include careful reliable in
/-- Every way in which a part of a type is found is sound. -/
theorem loader?_isSound (t : TypeId) {r : TypeRecord} (known : r.toTypeFacts.Lawful law)
    (part : Part) : Loader.IsSound law t r.toTypeFacts (loader? ask t r part) := by
  unfold loader?
  cases isShape : r.shape with
  | plain => cases part <;> exact isSound_none
  | array =>
      cases part with
      | text =>
          refine isSound_some <| (Check.need_sound _).bind fun element _ => ?_
          exact (careful.text element).bind fun _ => .pure trivial
      | _ => exact isSound_none
  | generic =>
      cases part with
      | text => exact isSound_some (careful.applied _ _)
      | _ => exact isSound_none
  | union =>
      cases part with
      | text => exact isSound_some (joined_safe careful _ _)
      | _ => exact isSound_none
  | written => exact written?_isSound careful reliable t known part
  | writtenArray =>
      cases part with
      | element =>
          refine isSound_withSyntax known fun obeys home => ?_
          refine (Check.needFirst_sound _).bind fun element among => ?_
          exact careful.typeAt (obeys.part among) home
      | _ => exact isSound_none
  | utility name =>
      cases part with
      | text => exact isSound_some (careful.applied _ _)
      | simplified =>
          rintro _ ⟨⟩
          exact Computed.utility_soundAt careful reliable (known.utility isShape) _ _
      | _ => exact isSound_none
  | declared => exact declared?_isSound careful t known part
  | function nodes =>
      have obey : ∀ node ∈ nodes, node.Obeys law := by
        have shaped := known.shape
        rwa [isShape] at shaped
      cases part with
      | text => exact isSound_some (Render.function_safe careful t)
      | calls =>
          exact isSound_withSyntax known fun _ home => Sound.mapM fun node among =>
            Signature.ofNode_sound careful home none (obey node among)
      | _ => exact isSound_none
  | classExpression =>
      cases part with
      | classMembers =>
          exact isSound_withSyntax known fun obeys home =>
            Members.ofClass_sound careful home obeys
      | constructs =>
          exact isSound_withSyntax known fun obeys home =>
            Members.constructsOf_sound careful home obeys t
      | _ => exact isSound_none
  | objectLiteral frozen =>
      cases part with
      | text => exact isSound_some (Render.objectLiteral_safe careful t)
      | properties =>
          exact isSound_withSyntax known fun obeys home =>
            Inference.objectMembers_sound careful obeys home _
      | _ => exact isSound_none
  | frozenTuple =>
      cases part with
      | text => exact isSound_some <| (joined_safe careful _ _).bind fun _ => .pure trivial
      | _ => exact isSound_none

/-! ### Marks -/

theorem lawful_mark {s : State} (lawful : s.Lawful law) (t : TypeId) (part : Part) :
    (s.mark t part).Lawful law :=
  lawful.update fun known => ⟨known.facts, known.cache⟩

theorem lawful_unmark {s : State} (lawful : s.Lawful law) (t : TypeId) (part : Part) :
    (s.unmark t part).Lawful law :=
  lawful.update fun known => ⟨known.facts, known.cache⟩

/-- A lawful part can be kept in the record of any type. -/
theorem lawful_keepPart {s : State} (lawful : s.Lawful law) (t : TypeId) {part : Part}
    {content : part.Content} (holds : part.Lawful law content) :
    (s.keepPart t part content).Lawful law :=
  lawful.update fun known => ⟨known.facts, known.cache.set part holds⟩

theorem keyed_mark {s : State} (keyed : s.Keyed) (t : TypeId) (part : Part) :
    (s.mark t part).Keyed :=
  keyed.update fun _ made => made.mono rfl fun _ there => there

theorem keyed_unmark {s : State} (keyed : s.Keyed) (t : TypeId) (part : Part) :
    (s.unmark t part).Keyed :=
  keyed.update fun _ made => made.mono rfl fun _ there => there

/-- The members of a union that was made were known already, so they are none that are found. -/
theorem keyed_keepPart {s : State} (keyed : s.Keyed) (t : TypeId) {part : Part}
    (content : part.Content)
    (unknown : ∀ r, s.records[t]? = some r → r.cache.get? part = none) :
    (s.keepPart t part content).Keyed := by
  refine keyed.update ?_
  intro key r known made
  refine made.mono rfl fun members there => ?_
  have other : part ≠ .members := by
    rintro rfl
    cases there.symm.trans (unknown r known)
  exact (Cache.get?_set_of_ne r.cache other.symm content).trans there

include careful reliable in
theorem load_sound (t : TypeId) (part : Part) :
    Sound law (fun found => ∀ content ∈ found, part.Lawful law content) (load ask t part) := by
  have found {s : State} {r : TypeRecord} {find : CheckM part.Content} (start : s.Lawful law)
      (has : s.records[t]? = some r) (finds : loader? ask t r part = some find) :
      (after find (s.mark t part)).Lawful law ∧
        (s.Keyed → (after find (s.mark t part)).Keyed) ∧ ∀ content, outcome find (s.mark t part) = .ok content → part.Lawful law content := by
    have sound := loader?_isSound careful reliable t (start.records has).facts part find finds
    have marked : (s.mark t part).records[t]? = some { r with loading := part :: r.loading } := by
      simp [State.mark, State.Extends.records_update, has]
    exact ⟨sound.lawful (lawful_mark start t part) marked rfl,
      fun keyed => sound.keyed (lawful_mark start t part) (keyed_mark keyed t part) marked rfl,
      fun content => sound.holds (lawful_mark start t part) marked rfl⟩
  constructor
  · intro s start
    cases has : s.records[t]? with
    | none =>
        rw [load, Check.after_bind_record_of_none has]
        exact start
    | some r =>
        rcases load_cases ask t part r with
          ⟨content, kept⟩ | ⟨unknown, settled⟩ | ⟨find, unknown, finds, -, idle⟩
        · rwa [after, run_load_of_some has kept]
        · rwa [after, run_load_of_settled has unknown settled]
        · obtain ⟨left, -, holds⟩ := found start has finds
          rw [after, run_load_of_find has unknown finds idle]
          split
          · next content returned =>
              exact lawful_keepPart (lawful_unmark left t part) t (holds content returned)
          · exact lawful_unmark left t part
  · intro s start keyed
    cases has : s.records[t]? with
    | none =>
        rw [load, Check.after_bind_record_of_none has]
        exact keyed
    | some r =>
        rcases load_cases ask t part r with
          ⟨content, kept⟩ | ⟨unknown, settled⟩ | ⟨find, unknown, finds, -, idle⟩
        · rwa [after, run_load_of_some has kept]
        · rwa [after, run_load_of_settled has unknown settled]
        · obtain ⟨-, left, -⟩ := found start has finds
          obtain ⟨-, unfound⟩ := State.Extends.of_loading has
            (loader?_isConservative reliable t r part find finds _)
          rw [after, run_load_of_find has unknown finds idle]
          split
          · next content returned =>
              exact keyed_keepPart (keyed_unmark (left keyed) t part) t content
                fun r' known' => (unfound r' known').trans unknown
          · exact keyed_unmark (left keyed) t part
  · intro s result start returned content isContent
    obtain ⟨r, recorded, -⟩ := outcome_bind_eq_ok returned
    have has := Check.outcome_record_eq_ok.1 recorded
    cases isContent
    rcases load_cases ask t part r with
      ⟨content', kept⟩ | ⟨unknown, settled⟩ | ⟨find, unknown, finds, -, idle⟩
    · rw [outcome, run_load_of_some has kept] at returned
      cases returned
      exact (start.records has).cache part content kept
    · rw [outcome, run_load_of_settled has unknown settled] at returned
      cases returned
    · rw [outcome, run_load_of_find has unknown finds idle] at returned
      split at returned
      · next content' inside =>
          cases returned
          exact (found start has finds).2.2 content inside
      · cases returned

include careful reliable in
theorem text_safe (t : TypeId) : Safe law (text ask t) := by
  refine (Check.record_sound t).bind fun r _ => ?_
  split
  · exact .pure trivial
  · refine (load_sound careful reliable t .text).bind fun found _ => ?_
    split
    · exact .pure trivial
    · next label _ =>
        have kept : Safe law (modify (State.keepLabel t label) : CheckM Unit) :=
          ⟨fun start => start.update fun known => ⟨known.facts, known.cache⟩,
            fun _ keyed => keyed.update fun _ made => made.mono rfl fun _ there => there,
            fun _ _ => trivial⟩
        exact kept.bind fun _ => .pure trivial

end Answer

namespace Inference

include careful in
theorem symbolType_safe {symbol : Symbol} (obeys : symbol.Obeys law) :
    Safe law (symbolType ask symbol) := by
  unfold symbolType
  split
  · next member isMember =>
      have lawful := obeys.member member isMember
      have slot : Safe law (Check.slotType member.slot) :=
        ⟨fun {s} start => by rwa [after_slotType], fun {s} _ keyed => by rwa [after_slotType],
          fun _ _ => trivial⟩
      refine slot.bind fun known => ?_
      split
      · exact .pure trivial
      · refine Sound.bind (P := fun _ => True) ?_ fun t _ => ?_
        · exact (Check.upToDate_sound lawful.source).bind fun place home =>
            memberAt_safe careful obeys home lawful.nodes
        · have kept : Safe law (Check.setSlot member.slot t) :=
            ⟨fun start => ⟨start.sources, start.records⟩, fun _ keyed => ⟨keyed.made⟩,
              fun _ _ => trivial⟩
          exact kept.bind fun _ => .pure trivial
  · split
    · next declaration declared =>
        split
        · exact careful.ofDeclaration (obeys.declaration declaration declared)
        · exact Check.any_safe
    · exact Check.any_safe

end Inference

/-! ## All questions -/

namespace Answer

include careful reliable in
theorem step_careful : Careful law (step ask) := by
  intro query obeys
  cases query with
  | typeAt node place via => exact TypeSyntax.ofNode_safe careful obeys.1 obeys.2.1 obeys.2.2
  | declared source bindings args => exact Reference.declared_safe careful obeys.1 obeys.2 args
  | ofDeclaration declaration => exact Inference.declarationType_safe careful obeys
  | ofSymbol symbol => exact Inference.symbolType_safe careful obeys
  | ofExpression node place literal frozen =>
      exact Inference.expression_safe careful obeys.1 obeys.2 literal frozen
  | text t => exact text_safe careful reliable t
  | load t part => exact load_sound careful reliable t part
  | simplified t => exact Structure.simplifiedIn_safe careful Structure.maxSteps t
  | properties t => exact Structure.properties_sound careful t
  | indexes t => exact Structure.indexes_safe careful t
  | assignable source target => exact Assignability.assignable_safe careful source target
  | fits candidate pattern place inferred =>
      exact Conditional.fits_safe careful candidate obeys.1 obeys.2 inferred

end Answer

end Rules

/-- Every answer is sound, however many questions may be nested. -/
theorem Answer.careful_answer (law : Tree.Law) (depth : Nat) : Careful law (answer depth) := by
  induction depth with
  | zero => exact fun _ _ => .throw _
  | succ depth ih => exact step_careful ih (reliable_answer depth)

theorem Answer.careful_ask (law : Tree.Law) : Careful law ask := careful_answer law maxDepth

end TypeGloss
