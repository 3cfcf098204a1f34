/-
# TypeGloss.Proofs.Checker.Sound — what a checker knows comes from its sources

Whatever a checker keeps about types refers to syntax: the places where types are written,
the declarations of symbols, the nodes of members. A state is *lawful* if all of this syntax
obeys a given law of trees, as that of the sources does. Besides, a lawful state knows six
things that no single rule shows:

* every property, class member and parameter that a type has been found to have has a
  declaration;
* what a utility type leaves to compute is noted as a computed type;
* a computed type that was not reached through an alias has no name of its own;
* neither has an object type that is not declared under a name;
* a type from a library file has a symbol that is declared in that file;
* under the key of a union, a literal or a primitive type there is that type.

A computation is *sound* if it leaves a lawful state behind, whether or not it fails, and if
what it returns has a given property. Answers are *careful* if every question that is asked
about lawful syntax is sound. Here this is said of the steps that all rules are made of; the
modules that follow carry it over to the rules.
-/
import TypeGloss.Proofs.Checker.Steady
import TypeGloss.Proofs.Lookup.Search

namespace TypeGloss

set_option autoImplicit false

/-! ## Lawful syntax -/

section Data

variable (law : Tree.Law)

/-- The syntax of a declaration obeys a law. -/
def Declaration.Obeys (declaration : Declaration) : Prop :=
  ∀ node ∈ declaration.node, node.Obeys law

/-- Everything that a scope declares obeys a law. -/
def Module.Scope.Obeys (scope : Module.Scope) : Prop :=
  ∀ (name : String) (space : Lookup.Space) (bindings : List Module.Binding),
    Lookup.declarations? scope name space = some bindings →
      ∀ binding ∈ bindings, binding.node.Obeys law

/-- Everything that a source declares obeys a law. -/
def Source.Obeys (source : Source) : Prop :=
  ∀ scope : Module.Scope, source.scope = .ok scope → scope.Obeys law

/-- Declarations that were found for a name obey a law. -/
structure Lookup.Found.Obeys (found : Lookup.Found) : Prop where
  source : found.source.Obeys law
  bindings : ∀ binding ∈ found.bindings, binding.node.Obeys law

/-- The syntax of a member and the place where it is read obey a law. -/
structure Member.Obeys (member : Member) : Prop where
  source : member.place.source.Obeys law
  nodes : ∀ node ∈ member.nodes, node.Obeys law

/-- All syntax of a symbol obeys a law. -/
structure Symbol.Obeys (symbol : Symbol) : Prop where
  declaration : ∀ declaration ∈ symbol.declaration, declaration.Obeys law
  member : ∀ member ∈ symbol.member, member.Obeys law

/-- A symbol that is declared somewhere, and all of whose syntax obeys a law. -/
structure Symbol.IsDeclared (symbol : Symbol) : Prop extends symbol.Obeys law where
  declared : symbol.declaration.isSome = true

/-- The parameters of a signature are declared. -/
def CallSignature.IsDeclared (call : CallSignature) : Prop :=
  ∀ parameter ∈ call.parameters, parameter.IsDeclared law

/-- The nodes of a function obey a law. -/
def Shape.Obeys : Shape → Prop
  | .function nodes => ∀ node ∈ nodes, node.Obeys law
  | _ => True

/-! ## Lawful states -/

/-- A type has no symbol, or its symbol has no name of its own. -/
def TypeFacts.IsUnnamed (r : TypeFacts) : Prop :=
  ∀ symbol ∈ r.symbol, symbol.ownName? = none

/-- What is known about a type from the moment it was made is lawful. -/
structure TypeFacts.Lawful (r : TypeFacts) : Prop where
  node : ∀ node ∈ r.node, node.Obeys law := by simp
  place : ∀ place ∈ r.place, place.source.Obeys law := by simp
  bindings : ∀ binding ∈ r.bindings, binding.node.Obeys law := by simp
  symbol : ∀ symbol ∈ r.symbol, symbol.Obeys law := by simp
  shape : r.shape.Obeys law := by trivial
  utility : ∀ {name : String}, r.shape = .utility name → r.category = .computed := by simp
  computed : r.category = .computed → r.via = none → r.IsUnnamed := by simp
  object : r.category = .object → r.via = none → r.bindings = [] → r.IsUnnamed := by simp
  library : ∀ file ∈ r.libraryFile, ∃ name, r.symbol = some (.ofLibrary name file) := by simp

/-- The symbols in a part of a type are declared. -/
def Part.Lawful : (part : Part) → part.Content → Prop
  | .properties, symbols => ∀ symbol ∈ symbols, symbol.IsDeclared law
  | .classMembers, symbols => ∀ symbol ∈ symbols, symbol.IsDeclared law
  | .calls, signatures => ∀ call ∈ signatures, call.IsDeclared law
  | .constructs, signatures => ∀ call ∈ signatures, call.IsDeclared law
  | _, _ => True

/-- What has been found of a type is lawful. -/
def Cache.Lawful (cache : Cache) : Prop :=
  ∀ (part : Part) (content : part.Content), cache.get? part = some content →
    part.Lawful law content

/-- All that is known about a type is lawful. -/
structure TypeRecord.Lawful (r : TypeRecord) : Prop where
  facts : r.toTypeFacts.Lawful law
  cache : r.cache.Lawful law

/-- A type is what is made for a key, as far as the key alone says it. -/
def Key.Made (r : TypeRecord) : Key → Prop
  | .union members => r.category = .union ∧ r.cache.members = some members
  | .literal p value =>
      r.category = .literal ∧ r.primitive = some p ∧ LiteralKey.ofValue r.value = value
  | .primitive p => r.category = .primitive ∧ r.primitive = some p
  | _ => True

/-- All that a checker knows is lawful. -/
structure State.Lawful (s : State) : Prop where
  sources : ∀ {path : String} {source : Source},
    Entries.find? path s.sources = some source → source.Obeys law
  records : ∀ {t : TypeId} {r : TypeRecord}, s.records[t]? = some r → r.Lawful law

/-- Every key has a type that was made for it. -/
structure State.Keyed (s : State) : Prop where
  made : ∀ {key : Key} {t : TypeId}, s.interned[key]? = some t →
    ∃ r, s.records[t]? = some r ∧ key.Made r

/-! ## Sound computations -/

/-- A run that starts from a lawful state leaves one, where every key has a type of its own if it
had before, and what it returns has a property. -/
structure Sound {α : Type} (P : α → Prop) (x : CheckM α) : Prop where
  lawful : ∀ {s : State}, s.Lawful law → (after x s).Lawful law
  keyed : ∀ {s : State}, s.Lawful law → s.Keyed → (after x s).Keyed
  holds : ∀ {s : State} {a : α}, s.Lawful law → outcome x s = .ok a → P a

/-- A run that starts from a lawful state leaves one. -/
abbrev Safe {α : Type} (x : CheckM α) : Prop := Sound law (fun _ => True) x

end Data

variable {law : Tree.Law} {α β : Type}

/-- A symbol without a member obeys as soon as its declaration does. -/
theorem Symbol.obeys_of_declaration {symbol : Symbol} {declaration : Declaration}
    (declared : symbol.declaration = some declaration) (obeys : declaration.Obeys law)
    (memberless : symbol.member = none) : symbol.Obeys law where
  declaration other found := by
    obtain rfl : declaration = other := Option.some.inj (declared.symm.trans found)
    exact obeys
  member member found := by simp [memberless] at found

/-- A declaration obeys as soon as its node does. -/
theorem Declaration.obeys_of_node {declaration : Declaration} {node : Cursor}
    (written : declaration.node = some node) (obeys : node.Obeys law) :
    declaration.Obeys law := by
  intro other found
  obtain rfl : node = other := Option.some.inj (written.symm.trans found)
  exact obeys

theorem Symbol.obeys_ofLibrary (name file : String) :
    (Symbol.ofLibrary name file).Obeys law :=
  Symbol.obeys_of_declaration rfl (fun _ found => by cases found) rfl

theorem Cache.lawful_empty : Cache.Lawful law {} := by
  intro part content found
  cases part <;> simp [Cache.get?] at found

/-- A lawful part that is kept leaves the other parts lawful. -/
theorem Cache.Lawful.set {cache : Cache} (lawful : cache.Lawful law) (part : Part)
    {content : part.Content} (holds : part.Lawful law content) :
    (cache.set part content).Lawful law := by
  intro other found known
  by_cases same : other = part
  · subst same
    rw [Cache.get?_set_self, Option.some.injEq] at known
    exact known ▸ holds
  · rw [Cache.get?_set_of_ne _ same] at known
    exact lawful other found known

/-- What was made for a key stays it, for neither the facts of a type nor known members change. -/
theorem Key.Made.mono {key : Key} {r r' : TypeRecord} (made : key.Made r)
    (facts : r'.toTypeFacts = r.toTypeFacts)
    (kept : ∀ members, r.cache.members = some members → r'.cache.members = some members) :
    key.Made r' := by
  cases key with
  | union members => exact ⟨by rw [facts]; exact made.1, kept _ made.2⟩
  | literal p value => rw [Key.Made, facts]; exact made
  | primitive p => rw [Key.Made, facts]; exact made
  | _ => trivial

namespace State.Lawful

variable {s : State} (lawful : s.Lawful law)

include lawful

/-- A type that is changed in a lawful way. -/
theorem update {t : TypeId} {f : TypeRecord → TypeRecord}
    (each : ∀ {r : TypeRecord}, r.Lawful law → (f r).Lawful law) :
    (State.update t f s).Lawful law where
  sources := lawful.sources
  records {u r} known := by
    rw [State.Extends.records_update] at known
    split at known
    · obtain ⟨r', before, rfl⟩ := Option.map_eq_some_iff.1 known
      exact each (lawful.records before)
    · exact lawful.records known

/-- A type that is made for a key. -/
theorem push {key : Key} {fresh : TypeRecord} (made : fresh.Lawful law) :
    State.Lawful law
      { s with
        interned := s.interned.insert key s.records.size, records := s.records.push fresh } where
  sources := lawful.sources
  records {t r} known := by
    rw [Array.getElem?_push] at known
    split at known
    · exact Option.some.inj known ▸ made
    · exact lawful.records known

end State.Lawful

namespace State.Keyed

variable {s : State} (keyed : s.Keyed)

include keyed

/-- A type that is changed, and stays what was made for its keys. -/
theorem update {t : TypeId} {f : TypeRecord → TypeRecord}
    (stays : ∀ {key : Key} {r : TypeRecord}, s.records[t]? = some r → key.Made r →
      key.Made (f r)) : (State.update t f s).Keyed where
  made {key u} there := by
    obtain ⟨r, known, made⟩ := keyed.made there
    rw [State.Extends.records_update, known]
    split
    · next same =>
        subst same
        exact ⟨f r, rfl, stays known made⟩
    · exact ⟨r, rfl, made⟩

/-- A type that is made under a new key keeps what stands under the other keys. -/
theorem push {key : Key} {fresh : TypeRecord} (made : key.Made fresh) :
    State.Keyed
      { s with
        interned := s.interned.insert key s.records.size, records := s.records.push fresh } where
  made {other t} there := by
    rw [Std.HashMap.getElem?_insert] at there
    split at there
    · next same =>
        cases there
        cases beq_iff_eq.1 same
        exact ⟨fresh, Array.getElem?_push_size, made⟩
    · obtain ⟨r, known, is⟩ := keyed.made there
      obtain ⟨bound, -⟩ := Array.getElem?_eq_some_iff.1 known
      exact ⟨r, by rw [Array.getElem?_push, if_neg (Nat.ne_of_lt bound), known], is⟩

end State.Keyed

namespace Sound

variable {P P' : α → Prop} {Q : β → Prop}

theorem weaken {x : CheckM α} (sound : Sound law P x) (implies : ∀ a, P a → P' a) :
    Sound law P' x where
  lawful := sound.lawful
  keyed := sound.keyed
  holds start returned := implies _ (sound.holds start returned)

theorem safe {x : CheckM α} (sound : Sound law P x) : Safe law x :=
  sound.weaken fun _ _ => trivial

theorem pure {a : α} (holds : P a) : Sound law P (pure a) where
  lawful start := start
  keyed _ keyed := keyed
  holds _ returned := by
    cases returned
    exact holds

theorem throw (fault : Fault) : Sound law P (throw fault : CheckM α) where
  lawful start := start
  keyed _ keyed := keyed
  holds _ returned := by cases returned

theorem bind {x : CheckM α} {f : α → CheckM β} (first : Sound law P x)
    (rest : ∀ a, P a → Sound law Q (f a)) : Sound law Q (x >>= f) where
  lawful {s} start := by
    cases returned : outcome x s with
    | error fault =>
        rw [after_bind_error returned]
        exact first.lawful start
    | ok a =>
        rw [after_bind_ok returned]
        exact (rest a (first.holds start returned)).lawful (first.lawful start)
  keyed {s} start keyed := by
    cases returned : outcome x s with
    | error fault =>
        rw [after_bind_error returned]
        exact first.keyed start keyed
    | ok a =>
        rw [after_bind_ok returned]
        exact (rest a (first.holds start returned)).keyed (first.lawful start)
          (first.keyed start keyed)
  holds {s b} start returned := by
    obtain ⟨a, before, last⟩ := outcome_bind_eq_ok returned
    exact (rest a (first.holds start before)).holds (first.lawful start) last

theorem map {x : CheckM α} {f : α → β} (first : Sound law P x) (each : ∀ a, P a → Q (f a)) :
    Sound law Q (f <$> x) := by
  rw [map_eq_pure_bind]
  exact first.bind fun a holds => pure (each a holds)

theorem mapM {f : α → CheckM β} {items : List α} (each : ∀ a ∈ items, Sound law Q (f a)) :
    Sound law (fun bs => ∀ b ∈ bs, Q b) (items.mapM f) := by
  induction items with
  | nil =>
      rw [List.mapM_nil]
      exact pure (by simp)
  | cons item rest ih =>
      rw [List.mapM_cons]
      refine (each item List.mem_cons_self).bind fun b holds => ?_
      refine (ih fun a among => each a (List.mem_cons_of_mem _ among)).bind fun bs others => ?_
      exact pure (List.forall_mem_cons.2 ⟨holds, others⟩)

theorem foldlM {f : β → α → CheckM β} {items : List α}
    (each : ∀ b, Q b → ∀ a ∈ items, Sound law Q (f b a)) {b : β} (start : Q b) :
    Sound law Q (items.foldlM f b) := by
  induction items generalizing b with
  | nil => exact pure start
  | cons item rest ih =>
      refine (each b start item List.mem_cons_self).bind fun next holds => ?_
      exact ih (fun b holds a among => each b holds a (List.mem_cons_of_mem _ among)) holds

theorem option {f : α → CheckM β} {item : Option α} (each : ∀ a ∈ item, Sound law Q (f a)) :
    Sound law (fun found => ∀ b ∈ found, Q b) (item.mapM f) := by
  cases item with
  | none => exact pure (by simp)
  | some a =>
      refine (each a rfl).map fun b holds => ?_
      rintro _ ⟨⟩
      exact holds

/-- A computation that looks at the program alone leaves the state as it is. -/
theorem of_timeless {x : CheckM α} (timeless : Timeless x)
    (holds : ∀ {s : State} {a : α}, s.Lawful law → outcome x s = .ok a → P a) :
    Sound law P x where
  lawful {s} start := by rwa [timeless.unchanged s]
  keyed {s} _ keyed := by rwa [timeless.unchanged s]
  holds := holds

end Sound

namespace Safe

variable {Q : β → Prop}

theorem bind {x : CheckM α} {f : α → CheckM β} (first : Safe law x)
    (rest : ∀ a, Sound law Q (f a)) : Sound law Q (x >>= f) :=
  Sound.bind first fun a _ => rest a

theorem map {x : CheckM α} (f : α → β) (first : Safe law x) : Safe law (f <$> x) :=
  Sound.map first fun _ _ => trivial

theorem mapM {f : α → CheckM β} {items : List α} (each : ∀ a ∈ items, Safe law (f a)) :
    Safe law (items.mapM f) :=
  (Sound.mapM each).safe

theorem foldlM {f : β → α → CheckM β} {items : List α}
    (each : ∀ b, ∀ a ∈ items, Safe law (f b a)) (b : β) : Safe law (items.foldlM f b) :=
  Sound.foldlM (fun b _ => each b) trivial

theorem allM {f : α → CheckM Bool} {items : List α} (each : ∀ a ∈ items, Safe law (f a)) :
    Safe law (items.allM f) := by
  induction items with
  | nil => exact .pure trivial
  | cons item rest ih =>
      refine (each item List.mem_cons_self).bind fun holds => ?_
      cases holds with
      | true => exact ih fun a among => each a (List.mem_cons_of_mem _ among)
      | false => exact .pure trivial

theorem anyM {f : α → CheckM Bool} {items : List α} (each : ∀ a ∈ items, Safe law (f a)) :
    Safe law (items.anyM f) := by
  induction items with
  | nil => exact .pure trivial
  | cons item rest ih =>
      refine (each item List.mem_cons_self).bind fun holds => ?_
      cases holds with
      | true => exact .pure trivial
      | false => exact ih fun a among => each a (List.mem_cons_of_mem _ among)

theorem filterM {f : α → CheckM Bool} (each : ∀ a, Safe law (f a)) (items : List α) :
    Safe law (items.filterM f) := by
  have kept : ∀ found, Safe law (items.filterAuxM f found) := by
    induction items with
    | nil => exact fun _ => .pure trivial
    | cons item rest ih => exact fun found => (each item).bind fun _ => ih _
  exact (kept []).bind fun _ => .pure trivial

theorem of_timeless {x : CheckM α} (timeless : Timeless x) : Safe law x :=
  Sound.of_timeless timeless fun _ _ => trivial

end Safe

/-! ## What the rules are made of -/

namespace Check

theorem ofResult_safe (result : Result α) : Safe law (ofResult result) :=
  .of_timeless (ofResult_timeless result)

theorem need_sound (part : Option α) : Sound law (· ∈ part) (need part) := by
  cases part with
  | none => exact .throw _
  | some a => exact .pure rfl

theorem needFirst_sound (items : List α) : Sound law (· ∈ items) (needFirst items) := by
  cases items with
  | nil => exact .throw _
  | cons a rest => exact .pure List.mem_cons_self

theorem needLast_sound (items : List α) : Sound law (· ∈ items) (needLast items) := by
  unfold needLast
  split
  · next last => exact .pure (List.mem_of_getLast? last)
  · exact .throw _

/-- Every source of the program is lawful. -/
theorem program_sound : Sound law (fun program : Program =>
    ∀ {path : String} {source : Source}, Entries.find? path program.sources = some source →
      source.Obeys law) program :=
  .of_timeless program_timeless fun start returned => by
    cases returned
    exact start.sources

theorem scopeOf_sound {source : Source} (home : source.Obeys law) :
    Sound law (fun scope => scope.Obeys law) (scopeOf source) := by
  unfold scopeOf
  cases read : source.scope with
  | error fault => exact .throw fault
  | ok scope => exact .pure (home scope read)

theorem checkSyntax_safe (node : Cursor) (source : Source) : Safe law (checkSyntax node source) :=
  .of_timeless (checkSyntax_timeless node source)

/-! ### Types -/

theorem record_sound (t : TypeId) : Sound law (fun r => r.Lawful law) (record t) where
  lawful {s} start := by rwa [after_record]
  keyed {s} _ keyed := by rwa [after_record]
  holds start returned := start.records (outcome_record_eq_ok.1 returned)

theorem facts_sound (t : TypeId) : Sound law (fun r => r.Lawful law) (facts t) :=
  (record_sound t).bind fun _ known => .pure known.facts

theorem facts_safe (t : TypeId) : Safe law (facts t) := (facts_sound t).safe

theorem category_safe (t : TypeId) : Safe law (category t) :=
  (facts_safe t).bind fun _ => .pure trivial

theorem intern_safe (key : Key) {fresh : TypeRecord} (made : fresh.Lawful law)
    (is : key.Made fresh := by exact trivial) : Safe law (intern key fresh) where
  lawful {s} start := by
    cases known : s.interned[key]? with
    | some t =>
        rw [after, run_intern_of_some known]
        exact start
    | none =>
        rw [after, run_intern_of_none known]
        exact start.push made
  keyed {s} _ keyed := by
    cases known : s.interned[key]? with
    | some t =>
        rw [after, run_intern_of_some known]
        exact keyed
    | none =>
        rw [after, run_intern_of_none known]
        exact keyed.push is
  holds _ _ := trivial

/-! ### Places and guards -/

theorem newPlace_sound {source : Source} (home : source.Obeys law) (env : Env) :
    Sound law (fun place => place.source.Obeys law) (newPlace source env) where
  lawful start := ⟨start.sources, start.records⟩
  keyed _ keyed := ⟨keyed.made⟩
  holds _ returned := by
    cases returned
    exact home

theorem bindAt_sound {place : Place} (home : place.source.Obeys law) (name : String)
    (t : TypeId) : Sound law (fun place => place.source.Obeys law) (bindAt place name t) where
  lawful start := ⟨start.sources, start.records⟩
  keyed _ keyed := ⟨keyed.made⟩
  holds _ returned := by
    cases returned
    exact home

theorem complete_safe (place : Place) : Safe law (complete place) := by
  unfold complete
  split
  · exact .pure trivial
  · exact .throw _

theorem upToDate_sound {place : Place} (home : place.source.Obeys law) :
    Sound law (fun place => place.source.Obeys law) (upToDate place) where
  lawful start := start
  keyed _ keyed := ⟨keyed.made⟩
  holds _ returned := by
    cases returned
    exact home

/-- What is noted while something is expanded is no concern of the law. -/
theorem guarded_safe {κ : Type} [BEq κ] {guard : Guard κ} (key : κ)
    (mark : ∀ {s : State} (keys : List κ), s.Lawful law → (guard.hold keys s).Lawful law)
    (keep : ∀ {s : State} (keys : List κ), s.Keyed → (guard.hold keys s).Keyed)
    {circular body : CheckM α} (outside : Safe law circular) (inside : Safe law body) :
    Safe law (guarded guard key circular body) where
  lawful {s} start := by
    rw [after, run_guarded]
    split
    · exact outside.lawful start
    · exact mark _ (inside.lawful (mark _ start))
  keyed {s} start keyed := by
    rw [after, run_guarded]
    split
    · exact outside.keyed start keyed
    · exact keep _ (inside.keyed (mark _ start) (keep _ keyed))
  holds _ _ := trivial

theorem hold_aliases {s : State} (keys : List AliasKey) (lawful : s.Lawful law) :
    (Guard.aliases.hold keys s).Lawful law :=
  ⟨lawful.sources, lawful.records⟩

theorem hold_values {s : State} (keys : List (String × Nat)) (lawful : s.Lawful law) :
    (Guard.values.hold keys s).Lawful law :=
  ⟨lawful.sources, lawful.records⟩

/-! ### Members -/

/-- A new member is read where it is declared. -/
theorem newMember_sound {place : Place} (home : place.source.Obeys law) {nodes : List Cursor}
    (obey : ∀ node ∈ nodes, node.Obeys law) (type : Option TypeId) :
    Sound law (fun member => member.Obeys law) (newMember place nodes type) where
  lawful start := ⟨start.sources, start.records⟩
  keyed _ keyed := ⟨keyed.made⟩
  holds _ returned := by
    cases returned
    exact ⟨home, obey⟩

/-! ### Simple types -/

/-- What is known of a type that is written nowhere. -/
theorem unwritten_lawful {r : TypeFacts} (node : r.node = none) (place : r.place = none)
    (bindings : r.bindings = []) (shape : r.shape.Obeys law)
    (utility : ∀ {name : String}, r.shape ≠ .utility name)
    (other : r.category ≠ .computed ∧ r.category ≠ .object)
    (symbol : ∀ symbol ∈ r.symbol, symbol.Obeys law)
    (library : ∀ file ∈ r.libraryFile, ∃ name, r.symbol = some (.ofLibrary name file)) :
    r.Lawful law where
  node := by simp [node]
  place := by simp [place]
  bindings := by simp [bindings]
  symbol := symbol
  shape := shape
  utility is := absurd is utility
  computed is := absurd is other.1
  object is := absurd is other.2
  library := library

theorem primitive_safe (p : Primitive) : Safe law (primitive p) := by
  refine intern_safe _ ⟨?_, Cache.lawful_empty⟩ ⟨rfl, rfl⟩
  exact unwritten_lawful rfl rfl rfl trivial (by simp) (by simp) (by simp) (by simp)

theorem any_safe : Safe law any := primitive_safe .any

theorem literal_safe (value : Value) (p : Primitive) : Safe law (literal value p) := by
  refine (ofResult_safe _).bind fun _ => intern_safe _ ⟨?_, Cache.lawful_empty⟩ ⟨rfl, rfl, rfl⟩
  exact unwritten_lawful rfl rfl rfl trivial (by simp) (by simp) (by simp) (by simp)

theorem widen_safe (t : TypeId) : Safe law (widen t) := by
  refine (facts_safe t).bind fun r => ?_
  split
  · exact primitive_safe _
  · exact .pure trivial

theorem keepLiteral_safe (t : TypeId) (keep : Bool) : Safe law (keepLiteral t keep) := by
  unfold keepLiteral
  split
  · exact .pure trivial
  · exact widen_safe t

theorem arrayOf_safe (element : TypeId) (readonly : Bool) : Safe law (arrayOf element readonly) := by
  refine intern_safe _ ⟨?_, Cache.lawful_empty.set .element trivial⟩
  exact unwritten_lawful rfl rfl rfl trivial (by simp) (by simp) (by simp) (by simp)

theorem genericOf_safe (name file : String) (args : List TypeId) :
    Safe law (genericOf name file args) := by
  refine intern_safe _ ⟨?_, Cache.lawful_empty⟩
  refine unwritten_lawful rfl rfl rfl trivial (by simp) (by simp)
    (by simp [Symbol.obeys_ofLibrary]) ?_
  rintro _ ⟨⟩
  exact ⟨name, rfl⟩

theorem namedType_safe (text : String) (file : Option String) : Safe law (namedType text file) := by
  refine intern_safe _ ⟨?_, Cache.lawful_empty⟩
  refine unwritten_lawful rfl rfl rfl trivial (by simp) (by simp)
    (by simp [Symbol.obeys_ofLibrary]) ?_
  rintro _ ⟨⟩
  exact ⟨text, rfl⟩

theorem stuckType_safe (computed : TypeId) (text : String) : Safe law (stuckType computed text) := by
  refine intern_safe _ ⟨?_, Cache.lawful_empty⟩
  exact unwritten_lawful rfl rfl rfl trivial (by simp) (by simp) (by simp) (by simp)

theorem typeParameter_safe (name : String) {node : Cursor} (obeys : node.Obeys law)
    {source : Source} (home : source.Obeys law) : Safe law (typeParameter name node source) := by
  refine intern_safe _ ⟨{ node := by simpa, place := by simpa, symbol := ?_ }, Cache.lawful_empty⟩
  rintro _ ⟨⟩
  exact Symbol.obeys_of_declaration rfl (Declaration.obeys_of_node rfl obeys) rfl

end Check

end TypeGloss
