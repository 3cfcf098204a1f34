/-
# TypeGloss.Proofs.Checker.SoundTypes — written, computed and compared types are lawful

Type syntax becomes types whose parts are found later; computed types are simplified step by
step. One step makes an object out of a computed type, and what this object is called, and
where it stands, it takes from the computed type. So whether the step is sound depends on
what is known about the type it is taken from: `SoundAt` says that a computation is sound
where a type has given facts.
-/
import TypeGloss.Proofs.Checker.Parts
import TypeGloss.Proofs.Checker.SoundValues

namespace TypeGloss

set_option autoImplicit false

variable {law : Tree.Law}

/-! ## What is known about a type -/

/-- A run that starts from a lawful state in which a type has the given facts leaves a lawful
one, where every key has a type of its own if it had before, and what it returns has a
property. -/
structure SoundAt {α : Type} (law : Tree.Law) (t : TypeId) (known : TypeFacts) (P : α → Prop)
    (x : CheckM α) : Prop where
  lawful : ∀ {s : State} {r : TypeRecord}, s.Lawful law → s.records[t]? = some r →
    r.toTypeFacts = known → (after x s).Lawful law
  keyed : ∀ {s : State} {r : TypeRecord}, s.Lawful law → s.Keyed → s.records[t]? = some r →
    r.toTypeFacts = known → (after x s).Keyed
  holds : ∀ {s : State} {r : TypeRecord} {a : α}, s.Lawful law → s.records[t]? = some r →
    r.toTypeFacts = known → outcome x s = .ok a → P a

section SoundAt

variable {α β : Type} {t : TypeId} {known : TypeFacts} {P : α → Prop} {Q : β → Prop}

theorem Sound.soundAt {x : CheckM α} (sound : Sound law P x) (t : TypeId) (known : TypeFacts) :
    SoundAt law t known P x where
  lawful start _ _ := sound.lawful start
  keyed start keyed _ _ := sound.keyed start keyed
  holds start _ _ returned := sound.holds start returned

/-- What is known about a type is known after a run that forgets nothing. -/
theorem SoundAt.after {x : CheckM α} {f : α → CheckM β} (first : Sound law P x)
    (conserves : Conservative x) (rest : ∀ a, P a → SoundAt law t known Q (f a)) :
    SoundAt law t known Q (x >>= f) := by
  have later {s : State} {r : TypeRecord} (has : s.records[t]? = some r)
      (facts : r.toTypeFacts = known) :
      ∃ r', (TypeGloss.after x s).records[t]? = some r' ∧ r'.toTypeFacts = known := by
    obtain ⟨r', has', grows⟩ := (conserves s).records has
    exact ⟨r', has', grows.facts.trans facts⟩
  constructor
  · intro s r start has facts
    cases returned : outcome x s with
    | error fault =>
        rw [after_bind_error returned]
        exact first.lawful start
    | ok a =>
        obtain ⟨r', has', facts'⟩ := later has facts
        rw [after_bind_ok returned]
        exact (rest a (first.holds start returned)).lawful (first.lawful start) has' facts'
  · intro s r start keyed has facts
    cases returned : outcome x s with
    | error fault =>
        rw [after_bind_error returned]
        exact first.keyed start keyed
    | ok a =>
        obtain ⟨r', has', facts'⟩ := later has facts
        rw [after_bind_ok returned]
        exact (rest a (first.holds start returned)).keyed (first.lawful start)
          (first.keyed start keyed) has' facts'
  · intro s r b start has facts returned
    obtain ⟨a, before, last⟩ := outcome_bind_eq_ok returned
    obtain ⟨r', has', facts'⟩ := later has facts
    exact (rest a (first.holds start before)).holds (first.lawful start) has' facts' last

/-- An object in place of a computed type is as lawful as the computed type. -/
theorem Check.syntheticObject_soundAt (computed : known.category = .computed)
    {properties : List Symbol} (declared : ∀ symbol ∈ properties, symbol.IsDeclared law)
    (text : String) :
    SoundAt law t known (fun _ => True) (some <$> syntheticObject t properties text) := by
  have split : (some <$> syntheticObject t properties text) =
      Check.facts t >>= fun r => some <$> Check.intern (.simplified t)
        { category := .object, label := some text, name := r.name, node := r.node,
          place := r.place, via := r.via, symbol := r.symbol,
          cache := { properties := some properties } } := by
    rw [syntheticObject, map_bind]
  have same {s : State} {r : TypeRecord} (start : s.Lawful law) (has : s.records[t]? = some r)
      (facts : r.toTypeFacts = known) : ∃ made : CheckM (Option TypeId), Safe law made ∧
        TypeGloss.after (some <$> syntheticObject t properties text) s =
          TypeGloss.after made s := by
    have read : outcome (Check.facts t) s = .ok known := outcome_facts_eq_ok.2 ⟨r, has, facts⟩
    have lawful : known.Lawful law := facts ▸ (start.records has).facts
    have made : Safe law (some <$> Check.intern (.simplified t)
        { category := .object, label := some text, name := known.name, node := known.node,
          place := known.place, via := known.via, symbol := known.symbol,
          cache := { properties := some properties } }) :=
      Safe.map some (intern_safe _ ⟨{
        node := lawful.node, place := lawful.place, symbol := lawful.symbol,
        object := fun _ direct _ => lawful.computed computed direct },
        Cache.lawful_empty.set .properties declared⟩)
    exact ⟨_, made, by rw [split, after_bind_ok read, after_facts]⟩
  constructor
  · intro s r start has facts
    obtain ⟨made, safe, runs⟩ := same start has facts
    exact runs ▸ safe.lawful start
  · intro s r start keyed has facts
    obtain ⟨made, safe, runs⟩ := same start has facts
    exact runs ▸ safe.keyed start keyed
  · exact fun _ _ _ _ => trivial

end SoundAt

section Rules

variable {ask : Ask} (careful : Careful law ask)

/-! ## Structure -/

namespace Structure

include careful in
theorem stuck_safe (t : TypeId) : Safe law (stuck ask t) :=
  (careful.text t).bind fun text => Check.stuckType_safe t text

include careful in
theorem simplifiedIn_safe (steps : Nat) (t : TypeId) : Safe law (simplifiedIn ask steps t) := by
  induction steps generalizing t with
  | zero =>
      refine (Check.category_safe t).bind fun category => ?_
      split
      · exact (stuck_safe careful t).map some
      · exact .pure trivial
  | succ steps ih =>
      refine (Check.category_safe t).bind fun category => ?_
      split
      · exact .pure trivial
      · refine (careful.load? t .simplified).bind fun next _ => ?_
        split
        · exact .pure trivial
        · split
          · exact (stuck_safe careful t).map some
          · exact ih _

include careful in
theorem properties_sound (t : TypeId) :
    Sound law (fun symbols => ∀ symbol ∈ symbols, symbol.IsDeclared law) (properties ask t) := by
  refine (careful.simplified t).bind fun simple => ?_
  split
  · exact .pure (by simp)
  · next t =>
      refine (Check.category_safe t).bind fun category => ?_
      split
      · refine (careful.load? t .properties).bind fun found known => .pure ?_
        cases found with
        | none => simp
        | some symbols => exact known symbols rfl
      · refine (careful.load? t .classMembers).bind fun found known => .pure ?_
        cases found with
        | none => simp
        | some symbols =>
            exact fun symbol among => known symbols rfl symbol (List.mem_filter.1 among).1
      · refine (careful.members t).bind fun members => ?_
        refine Sound.foldlM (fun found declared constituent _ => ?_) (by simp)
        exact (careful.properties constituent).bind fun symbols others =>
          .pure (Members.inherit_isDeclared declared others)
      · exact .pure (by simp)

include careful in
theorem indexes_safe (t : TypeId) : Safe law (indexes ask t) := by
  refine (careful.simplified t).bind fun simple => ?_
  split
  · exact .pure trivial
  · next t =>
      refine (Check.category_safe t).bind fun category => ?_
      split
      · exact (careful.load? t .indexes).bind fun _ _ => .pure trivial
      · refine (careful.members t).bind fun members => ?_
        refine (Safe.foldlM (fun found constituent _ => ?_) _).bind fun _ => .pure trivial
        exact (careful.indexes constituent).bind fun entries =>
          Members.inheritIndexes_safe careful found entries
      · exact .pure trivial

include careful in
theorem objectProperties?_sound (t : TypeId) :
    Sound law (fun result => ∀ symbols ∈ result, ∀ symbol ∈ symbols, symbol.IsDeclared law)
      (objectProperties? ask t) := by
  refine (careful.simplified t).bind fun simple => ?_
  split
  · exact .pure (by simp)
  · refine (Check.category_safe _).bind fun category => ?_
    split
    · refine (careful.properties _).map fun symbols declared => ?_
      rintro _ ⟨⟩
      exact declared
    · exact .pure (by simp)

theorem mem_of_mem_byName {properties : List Symbol} {symbol : Symbol}
    (among : symbol ∈ (byName properties).entries) : symbol ∈ properties := by
  have written : byName properties =
      properties.foldl (fun found p => Entries.put (p.name.getD "") p found) [] := by
    rw [byName, Entries.ofList, Entries.putAll, List.foldl_map]
  rw [written] at among
  exact Entries.entries_foldl_put (P := (· ∈ properties)) (by simp [Entries.entries])
    (fun entry listed => listed) symbol among

theorem mem_of_find?_byName {properties : List Symbol} {key : String} {symbol : Symbol}
    (found : Entries.find? key (byName properties) = some symbol) : symbol ∈ properties :=
  mem_of_mem_byName (List.mem_map.2 ⟨_, Entries.mem_of_find?_eq_some found, rfl⟩)

theorem keysOf?_safe (types : List TypeId) : Safe law (keysOf? types) := by
  induction types with
  | nil => exact .pure trivial
  | cons t rest ih =>
      refine (Check.facts_safe t).bind fun r => ?_
      split
      · exact ih.bind fun _ => .pure trivial
      · split
        · exact ih
        · exact .pure trivial

include careful in
theorem literalKeys?_safe (t : TypeId) : Safe law (literalKeys? ask t) := by
  refine (careful.simplified t).bind fun simple => ?_
  split
  · exact .pure trivial
  · exact (careful.alternatives _).bind fun types => keysOf?_safe types

end Structure

/-! ## Type syntax -/

namespace TypeSyntax

include careful in
theorem structured_safe (category : Category) {symbol : Option Symbol}
    (obey : ∀ known ∈ symbol, known.Obeys law) {node : Cursor} (obeys : node.Obeys law)
    {place : Place} (home : place.source.Obeys law) {via : Option AliasRef}
    (aliased : ∀ ref ∈ via, ref.binding.node.Obeys law)
    (unnamed : via = none → category = .object ∨ category = .computed →
      ∀ known ∈ symbol, known.ownName? = none) :
    Safe law (structured ask category symbol node place via) := by
  refine (Check.complete_safe place).bind fun _ => ?_
  refine (careful.aliasText? via).bind fun label => ?_
  have direct (isDirect : via = none) (isNoted : category = .object ∨ category = .computed) :
      ∀ known ∈ symbol.or (via.map fun _ => Symbol.ofType via node place.source.path),
        known.ownName? = none := by
    subst isDirect
    simpa using unnamed rfl isNoted
  refine Check.intern_safe _ ⟨{
    node := by simpa, place := by simpa, symbol := ?_,
    computed := fun noted isDirect => direct isDirect (.inr noted),
    object := fun noted isDirect _ => direct isDirect (.inl noted) }, Cache.lawful_empty⟩
  intro known found
  rcases Option.or_eq_some_iff.1 found with given | ⟨-, named⟩
  · exact obey known given
  · obtain ⟨ref, -, rfl⟩ := Option.map_eq_some_iff.1 named
    exact Symbol.obeys_ofType aliased obeys _

theorem operands_obey {kind : String} {node : Cursor} (obeys : node.Obeys law) :
    ∀ operand ∈ operands kind node, operand.Obeys law := by
  intro operand among
  rw [operands, List.mem_flatMap] at among
  obtain ⟨⟨child, isPart⟩, -, among⟩ := among
  have bound := Cursor.sizeOf_unwrapParens_le child
  have lower := Cursor.sizeOf_lt_of_mem_parts isPart
  have lawful := obeys.part isPart
  dsimp only at among
  split at among
  · exact operands_obey lawful.unwrapParens operand among
  · exact List.mem_singleton.1 among ▸ lawful
termination_by sizeOf node.focus

include careful in
/-- A type without a name of its own, unless an alias leads to it. -/
theorem anonymous_safe (category : Category) {node : Cursor} (obeys : node.Obeys law)
    {place : Place} (home : place.source.Obeys law) {via : Option AliasRef}
    (aliased : ∀ ref ∈ via, ref.binding.node.Obeys law) :
    Safe law (structured ask category none node place via) :=
  structured_safe careful category (by simp) obeys home aliased (by simp)

include careful in
theorem object_safe {node : Cursor} (obeys : node.Obeys law) {place : Place}
    (home : place.source.Obeys law) {via : Option AliasRef}
    (aliased : ∀ ref ∈ via, ref.binding.node.Obeys law) :
    Safe law (object ask node place via) := by
  unfold object
  split
  · exact anonymous_safe careful .computed obeys home aliased
  · refine structured_safe careful .object ?_ obeys home aliased ?_
    · rintro _ ⟨⟩
      exact Symbol.obeys_ofType aliased obeys _
    · rintro rfl _ _ ⟨⟩
      exact Symbol.ownName?_ofType node _

include careful in
theorem array_safe {node : Cursor} (obeys : node.Obeys law) {place : Place}
    (home : place.source.Obeys law) {via : Option AliasRef}
    (aliased : ∀ ref ∈ via, ref.binding.node.Obeys law) : Safe law (array ask node place via) := by
  refine (Check.needFirst_sound node.parts).bind fun element among => ?_
  split
  · exact (careful.typeAt (obeys.part among) home).bind fun t => Check.arrayOf_safe t false
  · refine (Check.complete_safe place).bind fun _ => ?_
    refine (careful.aliasText _).bind fun label => ?_
    refine Check.intern_safe _ ⟨{ node := by simpa, place := by simpa, symbol := ?_ },
      Cache.lawful_empty⟩
    rintro _ ⟨⟩
    exact Symbol.obeys_ofType aliased obeys _

include careful in
theorem tupleItem_safe {place : Place} (home : place.source.Obeys law) {node : Cursor}
    (obeys : node.Obeys law) : Safe law (tupleItem ask place node) := by
  have last {β : Type} {rest : TypeId → CheckM β} (following : ∀ t, Safe law (rest t)) :
      Safe law (do
        let inner ← Check.need node.lastPart?
        let t ← ask.typeAt inner place
        rest t) := by
    refine (Check.need_sound _).bind fun inner found => ?_
    exact (careful.typeAt (obeys.lastPart? found) home).bind following
  unfold tupleItem
  dsimp only
  split
  · split
    · next found =>
        exact (careful.typeAt (obeys.fieldOr? found) home).bind fun _ => .pure trivial
    · exact Check.any_safe.bind fun _ => .pure trivial
  · split
    · exact last fun _ => .pure trivial
    · split
      · exact last fun _ => .pure trivial
      · exact (careful.typeAt obeys home).bind fun _ => .pure trivial

theorem literal_safe (node : Cursor) : Safe law (literal node) := by
  unfold literal
  split
  · exact Check.any_safe
  · split
    · exact (Check.ofResult_safe _).bind fun _ => Check.literal_safe _ _
    · exact Inference.numberType_safe _ _
    · exact Check.literal_safe _ _
    · exact Check.literal_safe _ _
    · exact Check.primitive_safe .null
    · exact Check.primitive_safe .undefined
    · split
      · exact Inference.numberType_safe _ _
      · exact Check.namedType_safe _ none
    · exact Check.namedType_safe _ none

include careful in
theorem template_safe {node : Cursor} (obeys : node.Obeys law) {place : Place}
    (home : place.source.Obeys law) : Safe law (template ask node place) := by
  unfold template
  split
  · exact Check.literal_safe _ _
  · refine (Check.complete_safe place).bind fun _ => ?_
    refine (Render.render_safe careful node place).bind fun label => ?_
    exact Check.intern_safe _ ⟨{ node := by simpa, place := by simpa [Place.top] },
      Cache.lawful_empty⟩

theorem keyword_safe (text : String) : Safe law (keyword text) := by
  unfold keyword
  split
  · exact Check.primitive_safe _
  · exact Check.namedType_safe text none

include careful in
theorem generic_safe {node : Cursor} (obeys : node.Obeys law) {place : Place}
    (home : place.source.Obeys law) {via : Option AliasRef}
    (aliased : ∀ ref ∈ via, ref.binding.node.Obeys law) :
    Safe law (generic ask node place via) := by
  have arguments : ∀ arg ∈ ((node.fieldOr? "type_arguments" ["type_arguments"]).map
      Cursor.parts).getD [], arg.Obeys law := by
    intro arg among
    exact Cursor.obeys_inside (fun _ found _ => (obeys.fieldOr? found).part) among
  unfold generic
  dsimp only
  split
  · exact Reference.qualified_safe careful _ arguments obeys home aliased
  · exact Reference.simple_safe careful _ arguments obeys home aliased

include careful in
theorem ofNode_safe {node : Cursor} (obeys : node.Obeys law) {place : Place}
    (home : place.source.Obeys law) {via : Option AliasRef}
    (aliased : ∀ ref ∈ via, ref.binding.node.Obeys law) :
    Safe law (ofNode ask node place via) := by
  unfold ofNode
  dsimp only
  split
  · split
    · next found => exact careful.typeThrough aliased (obeys.lastPart? found) home
    · exact Check.any_safe
  · split
    · exact Check.primitive_safe .boolean
    · split
      · exact Check.primitive_safe .void
      · split
        · exact keyword_safe node.text
        · exact literal_safe node
        · exact template_safe careful obeys home
        · exact Check.namedType_safe _ none
        · exact Check.any_safe
        · exact Reference.simple_safe careful _ (by simp) obeys home aliased
        · exact Reference.qualified_safe careful _ (by simp) obeys home aliased
        · exact generic_safe careful obeys home aliased
        · exact object_safe careful obeys home aliased
        · exact array_safe careful obeys home aliased
        · exact anonymous_safe careful .tuple obeys home aliased
        · exact anonymous_safe careful .union obeys home aliased
        · exact anonymous_safe careful .intersection obeys home aliased
        · refine structured_safe careful .function ?_ obeys home aliased (by simp)
          rintro _ ⟨⟩
          exact Symbol.obeys_ofType aliased obeys _
        · split
          · next found => exact Inference.valuePath_safe careful (obeys.lastPart? found) home
          · exact Check.any_safe
        · exact anonymous_safe careful .computed obeys home aliased
        · exact anonymous_safe careful .computed obeys home aliased
        · exact anonymous_safe careful .computed obeys home aliased
        · exact Check.namedType_safe _ none
        · exact (Render.render_safe careful node place).bind fun _ => Check.namedType_safe _ none

end TypeSyntax

/-! ## Comparison -/

namespace Assignability

include careful in
theorem toArray_safe (category : Category) (source target : TypeId) :
    Safe law (toArray ask category source target) := by
  unfold toArray
  split
  · refine (careful.element? source).bind fun given => ?_
    refine (careful.element? target).bind fun want => ?_
    refine (Check.need_sound _).bind fun element _ => ?_
    exact (Check.need_sound _).bind fun other _ => careful.assignable element other
  · split
    · refine (careful.element? target).bind fun element => ?_
      refine (careful.elements source).bind fun items => ?_
      refine Safe.allM fun item _ => ?_
      exact (Check.need_sound _).bind fun other _ => careful.assignable item.type other
    · exact .pure trivial

include careful in
theorem toObject_safe (source target : TypeId) : Safe law (toObject ask source target) := by
  refine (careful.properties source).bind fun available declared => ?_
  refine (careful.properties target).bind fun required others => ?_
  refine Safe.allM fun property among => ?_
  split
  · exact .pure trivial
  · split
    · exact .pure trivial
    · next found isFound =>
        have listed := declared found (Structure.mem_of_find?_byName isFound)
        refine (careful.ofSymbol listed.toObeys).bind fun have_ => ?_
        refine (careful.ofSymbol (others property among).toObeys).bind fun want => ?_
        exact careful.assignable have_ want

include careful in
theorem byCategory_safe (source target : TypeId) (have_ want : TypeFacts) :
    Safe law (byCategory ask source target have_ want) := by
  unfold byCategory
  split
  · exact .pure trivial
  · exact .pure trivial
  · exact toArray_safe careful _ source target
  · exact .pure trivial
  · exact .pure trivial
  · split
    · exact toObject_safe careful source target
    · exact .pure trivial

include careful in
theorem assignable_safe (source target : TypeId) : Safe law (assignable ask source target) := by
  refine (Check.facts_safe source).bind fun have_ => ?_
  refine (Check.facts_safe target).bind fun want => ?_
  split
  · exact .pure trivial
  · split
    · exact .pure trivial
    · split
      · exact .pure trivial
      · split
        · exact (careful.members target).bind fun members =>
            Safe.anyM fun member _ => careful.assignable source member
        · split
          · exact (careful.members source).bind fun members =>
              Safe.allM fun member _ => careful.assignable member target
          · exact byCategory_safe careful source target have_ want

end Assignability

end Rules

end TypeGloss
