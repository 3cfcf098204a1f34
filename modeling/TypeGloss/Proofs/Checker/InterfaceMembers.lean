/-
# TypeGloss.Proofs.Checker.InterfaceMembers — interfaces list the members of their bodies and bases

The properties of an interface are found when they are first asked for: its bodies are read one
after the other, and then each base is read and asked for its own properties, while the interface is
marked. Whatever the bases tell, the interface lists its bodies and then what is new of the bases
(`State.Unlisted.ensures_properties`).

A base tells what it lists, unless it is being found itself. For interfaces without type parameters,
of which none is its own base, nothing of the kind can happen. Such interfaces may be
declared many times and have bases in common (`Hierarchy`), and what each of them lists can be told
from the declarations alone (`Hierarchy.names`).
-/
import TypeGloss.Proofs.Checker.Inheritance
import TypeGloss.Proofs.Checker.InterfaceBodies

namespace TypeGloss

set_option autoImplicit false

open Answer (answer)
open Members (Draft)

/-! ## The rule -/

/-- More slots for the types of members. -/
def State.addSlots (s : State) (count : Nat) : State :=
  { s with slots := s.slots ++ Array.replicate count none }

theorem State.preserves_addSlots (s : State) (count : Nat) : s.Preserves (s.addSlots count) where
  records known := ⟨_, known, .refl _⟩
  slots known := by
    obtain ⟨bound, -⟩ := Array.getElem?_eq_some_iff.1 known
    exact (Array.getElem?_append_left bound).trans known

theorem State.addSlots_add (s : State) (count more : Nat) :
    (s.addSlots count).addSlots more = s.addSlots (count + more) := by
  simp only [addSlots, Array.append_assoc, Array.replicate_append_replicate]

namespace Members

/-- What the bases of an interface have, one after the other. -/
def ofBases (ask : Ask) (place : Place) (bases : List Cursor) : CheckM (List (List Symbol)) :=
  bases.mapM fun node => ask.typeAt node place >>= ask.properties

theorem inherit_append (own base others : List Symbol) :
    inherit own (base ++ others) = inherit (inherit own base) others :=
  addNew_append Symbol.name own base others

/-- What is inherited from several types, one after the other. -/
theorem foldlM_inherit {α : Type} (tell : α → CheckM (List Symbol)) (items : List α)
    (own : List Symbol) :
    items.foldlM (fun found item => do return inherit found (← tell item)) own =
      (fun told => inherit own told.flatten) <$> items.mapM tell := by
  induction items generalizing own with
  | nil => rfl
  | cons item rest ih =>
      simp only [List.foldlM_cons, List.mapM_cons, bind_assoc, pure_bind, ih, List.flatten_cons,
        inherit_append, map_eq_pure_bind]

/-- The properties of an interface: those of its bodies, and then what is new of its bases. -/
theorem ofInterface_eq (ask : Ask) (place : Place) (bindings : List Module.Binding) :
    ofInterface ask place bindings =
      (bodies bindings).mapM (ofBody place) >>= fun parts =>
        (fun told => inherit parts.flatten told.flatten) <$> ofBases ask place (bases bindings) := by
  rw [ofInterface]
  refine bind_congr fun parts => ?_
  rw [ofBases, ← foldlM_inherit]
  simp only [bind_assoc]

theorem ofBases_conservative {ask : Ask} (reliable : Reliable ask) (place : Place)
    (bases : List Cursor) : Conservative (ofBases ask place bases) :=
  .mapM (fun node => (reliable.typeAt node place 0).first.bind fun base =>
    (reliable.properties base).first) bases

/-- The members of bodies have slots of their own, one for each name of a body. -/
theorem run_ofBodies {place : Place} {nodes : List Cursor} {bodies : List (List Draft)}
    (declares : List.Forall₂ (BodyDeclares place.source.path) nodes bodies)
    (free : ∀ body ∈ bodies, FreeOfRepeats body) (s : State) :
    ∃ parts, (nodes.mapM (ofBody place)).run.run s =
        (.ok parts, s.addSlots (namesOf bodies).length) ∧
      List.Forall₂ (OfBody place) bodies parts := by
  induction declares generalizing s with
  | nil => exact ⟨[], by simp [namesOf, State.addSlots]; rfl, .nil⟩
  | @cons node body nodes bodies one _ ih =>
      obtain ⟨freeOne, freeRest⟩ := List.forall_mem_cons.1 free
      obtain ⟨own, made, each⟩ := run_realize place (body.foldl join []) s
      have isOwn := ofBody_of_realized one freeOne each
      have count : (body.foldl join []).length = (body.map Draft.name).eraseDups.length := by
        rw [each.length_eq, ← isOwn.names, List.length_map]
      have read : (ofBody place node).run.run s =
          (.ok own, s.addSlots (body.map Draft.name).eraseDups.length) := by
        rw [ofBody, one.eq_pure, pure_bind, made, count]
        rfl
      obtain ⟨parts, run, others⟩ := ih freeRest
        (s.addSlots (body.map Draft.name).eraseDups.length)
      rw [State.addSlots_add, ← List.length_append] at run
      refine ⟨own :: parts, ?_, .cons isOwn others⟩
      rw [List.mapM_cons, run_bind_ok read]
      exact run_bind_ok run

end Members

/-! ## Runs -/

/-- A type is an interface, which is read by now at a place. -/
structure State.IsInterface (s : State) (t : TypeId) (r : TypeRecord) (place : Place) : Prop where
  known : s.records[t]? = some r
  isObject : r.category = .object
  isDeclared : r.shape = .declared
  syntax_ : ∃ node p, r.node = some node ∧ r.place = some p ∧
    place = s.current p

/-- An interface whose properties are neither found nor being found, and what each of its bodies
declares. -/
structure State.Unlisted (s : State) (t : TypeId) (r : TypeRecord) (place : Place)
    (bodies : List (List Draft)) : Prop extends s.IsInterface t r place where
  declares : List.Forall₂ (Members.BodyDeclares place.source.path) (Members.bodies r.bindings) bodies
  free : ∀ body ∈ bodies, Members.FreeOfRepeats body
  unknown : r.cache.properties = none
  idle : .properties ∉ r.loading

/-- The state in which the bases of an interface are looked for: its properties are being found, and
those that its bodies declare have slots. -/
def State.listing (s : State) (t : TypeId) (bodies : List (List Draft)) : State :=
  (s.mark t .properties).addSlots (Members.namesOf bodies).length

namespace State

variable {s later : State} {t : TypeId} {r : TypeRecord} {place : Place}
  {bodies : List (List Draft)}

theorem preserves_listing (s : State) (t : TypeId) (bodies : List (List Draft)) :
    s.Preserves (s.listing t bodies) :=
  (Leaves.mark s t .properties).toPreserves.trans (preserves_addSlots _ _)

/-- An object is asked for its properties. -/
theorem ensures_properties_of_object (known : s.records[t]? = some r) (isObject : r.category = .object)
    {post : List Symbol → State → Prop}
    (ensures : Ensures (· = s) (fun ask => ask.load? t .properties) fun found left =>
      post (found.getD []) left) :
    Ensures (· = s) (fun ask => ask.properties t) post := by
  refine Ensures.asked ?_
  simp only [Answer.step, Structure.properties]
  refine (Remembers.simplified_self known (by simp [isObject])).now.then_ ?_
  refine (Remembers.category known).now.then_ ?_
  simp only [isObject]
  exact ensures.bind fun _ => .pure fun _ => id

/-- An object whose properties have been found. -/
theorem Remembers.properties (known : s.records[t]? = some r) (isObject : r.category = .object)
    {found : List Symbol} (kept : r.cache.properties = some found) :
    s.Remembers (fun ask => ask.properties t) found := by
  have content : r.cache.get? .properties = some found := kept
  refine asked ?_
  simp only [Answer.step, Structure.properties]
  refine (simplified_self known (by simp [isObject])).bind ?_
  refine (category known).bind ?_
  simp only [isObject]
  exact (load known content).bind (.pure _)

namespace IsInterface

/-- A part of an interface is found by its rule at the place of the interface. -/
theorem ensures_load (isInterface : s.IsInterface t r place) (part : Part)
    (find : Ask → Place → CheckM part.Content) {inner : part.Content → State → Prop}
    (found : ∀ ask, Answer.loader? ask t r part =
      some (Answer.syntaxOf r.toTypeFacts >>= fun found => find ask found.2))
    (unknown : r.cache.get? part = none) (idle : part ∉ r.loading)
    (ensures : Ensures (· = s.mark t part) (fun ask => find ask place) inner) :
    Ensures (· = s) (fun ask => ask.load? t part) fun result left =>
      ∃ content inside, result = some content ∧ inner content inside ∧
        left = (inside.unmark t part).keepPart t part content ∧ inside.Preserves left ∧
        ∃ r', left.records[t]? = some r' ∧ r'.toTypeFacts = r.toTypeFacts ∧
          r'.cache.get? part = some content := by
  obtain ⟨node, p, isNode, isPlace, upToDate⟩ := isInterface.syntax_
  have read : (Answer.syntaxOf r.toTypeFacts).run.run (s.mark t part) =
      (.ok (node, place), s.mark t part) := by
    rw [Answer.syntaxOf, isNode, isPlace, upToDate]
    rfl
  exact ensures_found isInterface.known unknown idle found (.bind_run read ensures)

/-- The properties of an interface are found by the rule for interfaces. -/
theorem ensures_properties (isInterface : s.IsInterface t r place)
    (unknown : r.cache.properties = none) (idle : .properties ∉ r.loading)
    {inner : List Symbol → State → Prop}
    (ensures : Ensures (· = s.mark t .properties)
      (fun ask => Members.ofInterface ask place r.bindings) inner) :
    Ensures (· = s) (fun ask => ask.properties t) fun found left =>
      ∃ inside, inner found inside ∧
        left = (inside.unmark t .properties).keepPart t .properties found ∧
        inside.Preserves left ∧ left.Remembers (fun ask => ask.properties t) found := by
  have rule (ask : Ask) : Answer.loader? ask t r .properties =
      some (Answer.syntaxOf r.toTypeFacts >>= fun found =>
        Members.ofInterface ask found.2 r.bindings) := by
    simp only [Answer.loader?, isInterface.isDeclared, Answer.declared?, isInterface.isObject,
      ne_eq, not_true_eq_false, if_false]
  have absent : r.cache.get? .properties = none := unknown
  refine ensures_properties_of_object isInterface.known isInterface.isObject ?_
  refine (isInterface.ensures_load .properties
    (fun ask place => Members.ofInterface ask place r.bindings) rule absent idle ensures).consequence (fun _ => id) ?_
  rintro _ left ⟨found, inside, rfl, here, after, kept, r', known, facts, content⟩
  have isObject : r'.category = .object :=
    (congrArg TypeFacts.category facts).trans isInterface.isObject
  exact ⟨inside, here, after, kept, .properties known isObject content⟩

end IsInterface

namespace Unlisted

/-- The members of the bodies are there before the bases are looked for. -/
theorem ensures_ofInterface (unlisted : s.Unlisted t r place bodies)
    {post : List (List Symbol) → State → Prop}
    (told : Ensures (· = s.listing t bodies)
      (fun ask => Members.ofBases ask place (Members.bases r.bindings)) post) :
    Ensures (· = s.mark t .properties) (fun ask => Members.ofInterface ask place r.bindings)
      fun found left => ∃ told parts inherited, post told left ∧
        found = parts.flatten ++ inherited ∧
        Members.Listing place bodies told parts inherited := by
  obtain ⟨parts, run, own⟩ := Members.run_ofBodies unlisted.declares unlisted.free
    (s.mark t .properties)
  simp only [Members.ofInterface_eq, map_eq_pure_bind]
  refine .bind_run run (told.bind fun told => .pure fun left here => ?_)
  obtain ⟨inherited, split, names, first⟩ := exists_addNew Symbol.name parts.flatten told.flatten
  exact ⟨told, parts, inherited, here, split, own, names, first⟩

/-- An interface lists the members of its bodies and what its bases tell. -/
theorem ensures_properties (unlisted : s.Unlisted t r place bodies)
    {post : List (List Symbol) → State → Prop}
    (told : Ensures (· = s.listing t bodies)
      (fun ask => Members.ofBases ask place (Members.bases r.bindings)) post) :
    Ensures (· = s) (fun ask => ask.properties t) fun found left =>
      ∃ told parts inherited inside, post told inside ∧ found = parts.flatten ++ inherited ∧
        Members.Listing place bodies told parts inherited ∧
        left = (inside.unmark t .properties).keepPart t .properties found ∧
        inside.Preserves left ∧ left.Remembers (fun ask => ask.properties t) found := by
  refine (unlisted.toIsInterface.ensures_properties unlisted.unknown unlisted.idle
    (unlisted.ensures_ofInterface told)).consequence (fun _ => id) ?_
  rintro found left ⟨inside, ⟨told, parts, inherited, here, split, listing⟩, after, kept, remembers⟩
  exact ⟨told, parts, inherited, inside, here, split, listing, after, kept, remembers⟩

end Unlisted

end State

/-! ## Interfaces without type parameters -/

/-- Interfaces of which none is its own base: each with its declarations as they are found by its
name, what each of its bodies declares, and its bases, which are of lower rank. -/
structure Hierarchy (ι : Type) where
  source : ι → Source
  first : ι → Module.Binding
  others : ι → List Module.Binding
  bodies : ι → List (List Draft)
  bases : ι → List ι
  rank : ι → Nat
  lower : ∀ {i j : ι}, j ∈ bases i → rank j < rank i
  apart : ∀ {i j : ι}, (source i).path = (source j).path →
    (first i).node.mark.start = (first j).node.mark.start → i = j

namespace Hierarchy

variable {ι : Type} (h : Hierarchy ι)

/-- What is found by the name of an interface. -/
def found (i : ι) : List Module.Binding :=
  h.first i :: h.others i

/-- The declarations that are merged. -/
def declarations (i : ι) : List Module.Binding :=
  (h.found i).filter (·.kind = .interface)

/-- What makes the type of an interface: where its first declaration begins. -/
def key (i : ι) : Key :=
  .declared (h.source i).path (h.first i).node.mark.start []

/-- The names that an interface lists: those of its bodies, each as often as there are bodies that
declare it, and then those of its bases that no body declares, each once. -/
def names (i : ι) : List (Option String) :=
  Members.namesWith (h.bodies i) ((h.bases i).attach.map fun base => names base.1)
termination_by h.rank i
decreasing_by exact h.lower base.2

/-- An interface stands in its source: it has no type parameters, its bodies can be read, and each
base is a name by which another one is found. -/
structure Stands (program : Program) (i : ι) : Prop where
  isInterface : (h.first i).kind = .interface
  plain : Reference.typeParameters (h.first i).node = []
  sound : (h.first i).node.focus.findError = none
  declares : List.Forall₂ (Members.BodyDeclares (h.source i).path)
    (Members.bodies (h.declarations i)) (h.bodies i)
  free : ∀ body ∈ h.bodies i, Members.FreeOfRepeats body
  extends_ : List.Forall₂ (fun node j => node.kind = "type_identifier" ∧
    Lookup.find? program (h.source i) node.text .types = .ok (some ⟨h.source j, h.found j⟩))
    (Members.bases (h.declarations i)) (h.bases i)

/-- The record of an interface without type parameters, as it is made. -/
def record (i : ι) : TypeRecord :=
  { category := .object, name := some (h.first i).name, node := some (h.first i).node,
    place := some (.top (h.source i)), bindings := h.declarations i,
    symbol := some
      { name := some (h.first i).name,
        declaration := some (.ofBinding (h.source i).path (h.first i)) },
    shape := .declared }

end Hierarchy

section Names

variable {s : State} {source : Source} {node : Cursor} {found : Lookup.Found}

/-- A name that stands at the top of a source is the type of what is found by it. -/
theorem Ensures.typeAt_of_found {post : TypeId → State → Prop} (isName : node.kind = "type_identifier")
    (finds : Lookup.find? s.toProgram source node.text .types = .ok (some found))
    (ensures : Ensures (· = s) (fun ask => ask.declared found.source found.bindings []) post) :
    Ensures (· = s) (fun ask => ask.typeAt node (.top source)) post := by
  refine Ensures.asked ?_
  have rule (ask : Ask) : TypeSyntax.ofNode ask node (.top source) none =
      Reference.simple ask node.text [] node (.top source) none := by
    rw [TypeSyntax.ofNode]
    simp only [isName]
    rfl
  simp only [Answer.step, rule]
  simp only [Reference.simple, Place.top, Entries.find?, List.mapM_nil, pure_bind]
  exact .bind_run (Lookup.run_lookup finds) ensures

end Names

namespace Hierarchy

variable {ι : Type} {h : Hierarchy ι} {program : Program} {s later : State} {i j : ι} {t u : TypeId}
  {busy : List ι} {found : List Symbol}

/-- An interface whose properties are neither found nor being found. -/
def Untouched (h : Hierarchy ι) (s : State) (i : ι) (t : TypeId) : Prop :=
  ∃ r, s.records[t]? = some r ∧ r.toTypeFacts = (h.record i).toTypeFacts ∧
    r.cache.properties = none ∧ .properties ∉ r.loading

/-- The properties of an interface have been found as they should. -/
def Lists (h : Hierarchy ι) (s : State) (i : ι) (t : TypeId) (found : List Symbol) : Prop :=
  s.Remembers (fun ask => ask.properties t) found ∧ ∃ told parts inherited,
    found = parts.flatten ++ inherited ∧
      Members.Listing (.top (h.source i)) (h.bodies i) told parts inherited ∧
      told.map (List.map Symbol.name) = (h.bases i).map h.names

/-- Interfaces stand in their sources. Those that have been met, but for some that are being looked
at, have been listed as they should, or nothing has been done about their properties. -/
structure Ready (h : Hierarchy ι) (program : Program) (busy : List ι) (s : State) : Prop where
  here : s.toProgram = program
  top : s.frames.getD 0 [] = []
  stands : ∀ i, h.Stands program i
  intact : ∀ {i}, i ∉ busy → ∀ {t}, s.interned[h.key i]? = some t →
    h.Untouched s i t ∨ ∃ found, h.Lists s i t found

theorem Lists.keeps (lists : h.Lists s i t found) (kept : s.Preserves later) :
    h.Lists later i t found :=
  lists.imp_left (·.keeps kept)

theorem names_eq (i : ι) :
    h.names i = Members.namesWith (h.bodies i) ((h.bases i).map h.names) := by
  rw [names, List.attach_map_val]

/-- What an interface lists, name by name. -/
theorem Lists.names (lists : h.Lists s i t found) : found.map Symbol.name = h.names i := by
  obtain ⟨-, told, parts, inherited, rfl, listing, names⟩ := lists
  rw [listing.allNames, names, names_eq]

/-- The type of an interface that is untouched is that of no other one. -/
theorem Untouched.unique {r : TypeRecord} (untouched : h.Untouched s j t)
    (known : s.records[t]? = some r) (facts : r.toTypeFacts = (h.record i).toTypeFacts) : j = i := by
  obtain ⟨r', known', facts', -⟩ := untouched
  cases known.symm.trans known'
  have same := facts.symm.trans facts'
  have node : (h.first i).node = (h.first j).node := Option.some.inj (congrArg TypeFacts.node same)
  have place : Place.top (h.source i) = .top (h.source j) :=
    Option.some.inj (congrArg TypeFacts.place same)
  exact (h.apart (congrArg (·.source.path) place) (congrArg (·.mark.start) node)).symm

theorem Untouched.moves (untouched : h.Untouched s i t)
    (same : later.records[t]? = s.records[t]?) : h.Untouched later i t := by
  rwa [Untouched, same]

theorem key_ne (different : i ≠ j) : h.key i ≠ h.key j := by
  intro same
  simp only [key, Key.declared.injEq, and_true] at same
  exact different (h.apart same.1 same.2)

/-! ### Interfaces that are met -/

/-- The type of an interface without type parameters is found by its key. -/
theorem Stands.declared_eq (stands : h.Stands program i) (ask : Ask) :
    Reference.declared ask (h.source i) (h.found i) [] = Check.intern (h.key i) (h.record i) := by
  have sound : Check.checkSyntax (h.first i).node (h.source i) = pure () := by
    rw [Check.checkSyntax, stands.sound]
  simp only [Reference.declared, found, Check.needFirst, pure_bind, sound, stands.isInterface,
    reduceCtorEq, if_false, Reference.declaredCategory?, stands.plain, Reference.instantiate,
    List.isEmpty_nil, if_true, Reference.argumentsAt, List.filterMap_nil]
  rfl

/-- An interface that has been made is found by its name. -/
theorem Stands.comes_declared (stands : h.Stands s.toProgram i)
    (made : s.interned[h.key i]? = some t) :
    Comes (· = s) (fun ask => ask.declared (h.source i) (h.found i) []) t := by
  refine Ensures.asked (Ensures.ofRun fun s' same => ?_)
  subst same
  simp only [Answer.step, stands.declared_eq]
  exact ⟨t, s', fun _ => Check.run_intern_of_some made _, rfl, rfl⟩

/-- When an interface is met for the first time, the others are as they were. -/
theorem Ready.made (ready : h.Ready program busy s) (new : s.interned[h.key i]? = none) :
    h.Ready program busy { s with
      interned := s.interned.insert (h.key i) s.records.size
      records := s.records.push (h.record i) } where
  here := ready.here
  top := ready.top
  stands := ready.stands
  intact {j} idle u made := by
    by_cases same : i = j
    · subst same
      obtain rfl : s.records.size = u := by simpa [Std.HashMap.getElem?_insert] using made
      exact .inl ⟨_, Array.getElem?_push_size, rfl, rfl, List.not_mem_nil⟩
    · have before : s.interned[h.key j]? = some u := by
        simpa [Std.HashMap.getElem?_insert, key_ne same] using made
      rcases ready.intact idle before with untouched | ⟨found, lists⟩
      · refine .inl (untouched.moves ?_)
        obtain ⟨r, known, -⟩ := untouched
        obtain ⟨bound, -⟩ := Array.getElem?_eq_some_iff.1 known
        exact Array.getElem?_push.trans (if_neg (Nat.ne_of_lt bound))
      · exact .inr ⟨found, lists.keeps (.ofExtends (.push new rfl))⟩

/-- An interface is met: it is as it was if it has been made, or else it is made. -/
theorem Ready.ensures_declared (ready : h.Ready program busy s) :
    Ensures (· = s) (fun ask => ask.declared (h.source i) (h.found i) []) fun t left =>
      left.interned[h.key i]? = some t ∧ h.Ready program busy left := by
  refine Ensures.asked (Ensures.ofRun fun s' same => ?_)
  subst same
  simp only [Answer.step, (ready.stands i).declared_eq]
  cases made : s'.interned[h.key i]? with
  | some t => exact ⟨t, s', fun _ => Check.run_intern_of_some made _, made, ready⟩
  | none =>
      refine ⟨_, _, fun _ => Check.run_intern_of_none made _, ?_, ready.made made⟩
      exact Std.HashMap.getElem?_insert_self

/-- While the properties of an interface are being found, the others are as they were. -/
theorem Ready.listing (ready : h.Ready program busy s) {r : TypeRecord} (known : s.records[t]? = some r)
    (facts : r.toTypeFacts = (h.record i).toTypeFacts) :
    h.Ready program (i :: busy) (s.listing t (h.bodies i)) where
  here := ready.here
  top := ready.top
  stands := ready.stands
  intact {j} idle u made := by
    obtain ⟨different, idle⟩ := not_or.1 (mt List.mem_cons.2 idle)
    rcases ready.intact idle made with untouched | ⟨found, lists⟩
    · refine .inl (untouched.moves ?_)
      have apart : t ≠ u := by
        rintro rfl
        exact different (untouched.unique known facts)
      exact (State.Extends.records_update s t u _).trans (if_neg apart)
    · exact .inr ⟨found, lists.keeps (s.preserves_listing t _)⟩

/-- When the properties of an interface have been found, it is listed, and the others are as they
were. -/
theorem Ready.listed (ready : h.Ready program (i :: busy) s) {r : TypeRecord}
    (known : s.records[t]? = some r) (facts : r.toTypeFacts = (h.record i).toTypeFacts)
    (made : s.interned[h.key i]? = some t)
    (after : later = (s.unmark t .properties).keepPart t .properties found)
    (kept : s.Preserves later) (lists : h.Lists later i t found) : h.Ready program busy later := by
  subst after
  refine ⟨ready.here, ready.top, ready.stands, fun {j} idle u made' => ?_⟩
  by_cases same : i = j
  · subst same
    cases made.symm.trans made'
    exact .inr ⟨found, lists⟩
  · rcases ready.intact (by simp [Ne.symm same, idle]) made' with untouched | ⟨others, lists⟩
    · refine .inl (untouched.moves ?_)
      have apart : t ≠ u := by
        rintro rfl
        exact same (untouched.unique known facts).symm
      rw [State.keepPart, State.Extends.records_update, if_neg apart, State.unmark,
        State.Extends.records_update, if_neg apart]
    · exact .inr ⟨others, lists.keeps kept⟩

/-! ### Interfaces that are looked at -/

/-- An interface that is untouched can be listed. -/
theorem Ready.unlisted (ready : h.Ready program busy s) {r : TypeRecord} (known : s.records[t]? = some r)
    (facts : r.toTypeFacts = (h.record i).toTypeFacts) (unknown : r.cache.properties = none)
    (idle : .properties ∉ r.loading) :
    s.Unlisted t r (.top (h.source i)) (h.bodies i) := by
  have bindings : r.bindings = h.declarations i := congrArg TypeFacts.bindings facts
  refine ⟨⟨known, congrArg TypeFacts.category facts, congrArg TypeFacts.shape facts,
    ⟨_, _, congrArg TypeFacts.node facts, congrArg TypeFacts.place facts, ?_⟩⟩, ?_,
    (ready.stands i).free, unknown, idle⟩
  · simp only [Place.top, State.current, ready.top]
  · rw [bindings]
    exact (ready.stands i).declares

/-- Bases tell what they list. -/
theorem Ready.ensures_bases (ready : h.Ready program busy s) {source : Source} {nodes : List Cursor}
    {js : List ι} (named : List.Forall₂ (fun node j => node.kind = "type_identifier" ∧
      Lookup.find? program source node.text .types = .ok (some ⟨h.source j, h.found j⟩)) nodes js)
    (each : ∀ j ∈ js, ∀ {s : State} {t : TypeId}, h.Ready program busy s →
      s.interned[h.key j]? = some t → Ensures (· = s) (fun ask => ask.properties t)
        fun found left => h.Lists left j t found ∧ h.Ready program busy left) :
    Ensures (· = s) (fun ask => Members.ofBases ask (.top source) nodes) fun told left =>
      told.map (List.map Symbol.name) = js.map h.names ∧ h.Ready program busy left := by
  induction named generalizing s with
  | nil => exact .pure fun _ same => ⟨rfl, same ▸ ready⟩
  | @cons node j nodes js one _ ih =>
      obtain ⟨first, others⟩ := List.forall_mem_cons.1 each
      obtain ⟨isName, finds⟩ := one
      rw [← ready.here] at finds
      simp only [Members.ofBases, List.mapM_cons, bind_assoc]
      refine (Ensures.typeAt_of_found isName finds ready.ensures_declared).bind fun t =>
        .ofEach fun s ⟨made, ready⟩ => ?_
      refine (first ready made).bind fun found => .ofEach fun s ⟨lists, ready⟩ => ?_
      refine (ih ready others).bind fun told => .pure fun left ⟨names, ready⟩ => ⟨?_, ready⟩
      rw [List.map_cons, lists.names, names, List.map_cons]

/-- An interface that has been met lists what it should. -/
theorem Ready.ensures_properties (ready : h.Ready program busy s)
    (lower : ∀ k ∈ busy, h.rank i < h.rank k) (made : s.interned[h.key i]? = some t) :
    Ensures (· = s) (fun ask => ask.properties t)
      fun found left => h.Lists left i t found ∧ h.Ready program busy left := by
  induction rank : h.rank i using Nat.strong_induction_on generalizing i busy s t with
  | h rank ih =>
    subst rank
    have idle : i ∉ busy := fun among => Nat.lt_irrefl _ (lower i among)
    rcases ready.intact idle made with ⟨r, known, facts, unknown, still⟩ | ⟨found, lists⟩
    · have unlisted := ready.unlisted known facts unknown still
      have bindings : r.bindings = h.declarations i := congrArg TypeFacts.bindings facts
      -- While the interface is marked, its bases are looked at one after the other.
      have told := (ready.listing known facts).ensures_bases (ready.stands i).extends_
        fun j among s t ready made => by
          have below : h.rank j < h.rank i := h.lower among
          refine ih _ below ready (fun k busy => ?_) made rfl
          rcases List.mem_cons.1 busy with rfl | busy
          · exact below
          · exact below.trans (lower k busy)
      rw [← bindings] at told
      have conservative (limit : Nat) := Members.ofBases_conservative
        (Answer.reliable_answer limit) (.top (h.source i)) (Members.bases r.bindings)
      refine (unlisted.ensures_properties (told.growing conservative)).consequence (fun _ => id) ?_
      rintro found left ⟨told, parts, inherited, inside, ⟨⟨names, ready⟩, extended⟩, split, listing,
        after, kept, remembers⟩
      have lists : h.Lists left i t found := ⟨remembers, told, parts, inherited, split, listing, names⟩
      obtain ⟨r', known', keeps⟩ :=
        ((s.preserves_listing t (h.bodies i)).trans (.ofExtends extended)).records known
      exact ⟨lists, ready.listed known' (keeps.facts.trans facts) (extended.interned made) after kept
        lists⟩
    · refine (lists.1.now).consequence (fun _ => id) ?_
      rintro _ left ⟨rfl, rfl⟩
      exact ⟨lists, ready⟩

/-- The properties of an interface, as they are found when it is met. -/
theorem Ready.ensures (ready : h.Ready program [] s) (i : ι) :
    Ensures (· = s) (fun ask => ask.declared (h.source i) (h.found i) [] >>= ask.properties)
      fun found left => (∃ t, h.Lists left i t found) ∧ h.Ready program [] left :=
  ready.ensures_declared.bind fun t => .ofEach fun _ ⟨made, ready⟩ =>
    (ready.ensures_properties (fun _ => nofun) made).consequence (fun _ => id)
      fun _ _ => And.imp_left fun lists => ⟨t, lists⟩

end Hierarchy

/-- Let the properties of an interface be neither found nor being found, and let no body of it
declare a name twice, unless all are overloads of one method. Whatever its bases tell when they are
looked at, the interface lists the members of its bodies, one body after the other, and then the
members of its bases whose names no body declares, each name for the first base that has it. In a
body, a method is one member with all its overloads there; what other bodies declare under its name
are members of their own. So each name of a body or a base is listed: as often as there are bodies
that declare it, or once if only bases have it; and all are listed once exactly if no two bodies
share a name. When interfaces without type parameters, of which none is its own base, are met, their
bases tell what they list, so that the names of each can be told from what the bodies declare. -/
theorem interface_members {s : State} :
    (∀ {t : TypeId} {r : TypeRecord} {place : Place} {bodies : List (List Draft)}
        {post : List (List Symbol) → State → Prop}, s.Unlisted t r place bodies →
      Ensures (· = s.listing t bodies)
        (fun ask => Members.ofBases ask place (Members.bases r.bindings)) post →
      Ensures (· = s) (fun ask => ask.properties t) fun found left =>
        (∃ told parts inherited inside, post told inside ∧ inside.Preserves left ∧
          found = parts.flatten ++ inherited ∧
          Members.Listing place bodies told parts inherited ∧
          ∀ name, (found.map Symbol.name).count name =
            if bodies.countP (name ∈ ·.map Draft.name) = 0 then
              if ∃ base ∈ told, name ∈ base.map Symbol.name then 1 else 0
            else bodies.countP (name ∈ ·.map Draft.name)) ∧
        ((found.map Symbol.name).Nodup ↔ bodies.Pairwise fun body later =>
          ∀ draft ∈ body, ∀ other ∈ later, draft.name ≠ other.name) ∧
        left.Remembers (fun ask => ask.properties t) found) ∧
    ∀ {ι : Type} {h : Hierarchy ι} {program : Program}, h.Ready program [] s → ∀ i,
      Ensures (· = s) (fun ask => ask.declared (h.source i) (h.found i) [] >>= ask.properties)
        fun found left =>
          found.map Symbol.name = h.names i ∧
          (∀ name, name ∈ found.map Symbol.name ↔
            (∃ body ∈ h.bodies i, name ∈ body.map Draft.name) ∨
              ∃ j ∈ h.bases i, name ∈ h.names j) ∧
          ((found.map Symbol.name).Nodup ↔ (h.bodies i).Pairwise fun body later =>
            ∀ draft ∈ body, ∀ other ∈ later, draft.name ≠ other.name) ∧
          (∃ t, h.Lists left i t found) ∧ h.Ready program [] left := by
  refine ⟨fun unlisted told => ?_, fun {_ h _} ready i => ?_⟩
  · refine (unlisted.ensures_properties told).consequence (fun _ => id) ?_
    rintro _ left ⟨told, parts, inherited, inside, here, rfl, listing, -, kept, remembers⟩
    refine ⟨⟨told, parts, inherited, inside, here, kept, rfl, listing, fun name => ?_⟩, ?_,
      remembers⟩
    · rw [listing.allNames, Members.count_namesWith]
      simp only [List.mem_map (f := List.map Symbol.name), exists_exists_and_eq_and]
    · rw [listing.allNames, Members.nodup_namesWith_iff]
  · refine (ready.ensures i).consequence (fun _ => id) ?_
    rintro found left ⟨⟨t, lists⟩, ready⟩
    refine ⟨lists.names, fun name => ?_, ?_, ⟨t, lists⟩, ready⟩
    · rw [lists.names, Hierarchy.names_eq, Members.mem_namesWith]
      simp only [List.mem_map (f := h.names), exists_exists_and_eq_and]
    · rw [lists.names, Hierarchy.names_eq, Members.nodup_namesWith_iff]

/-! ### Two interfaces

`interface A { m(); m(a) } interface A extends B { m(); y } interface B { y; x; m() }` -/

namespace TwoInterfaces

open ThreeClasses (token piece down method)

/-- A property signature. -/
def property (name : String) (start : Nat) : Tree :=
  piece "property_signature" name start none
    [piece "property_identifier" name start (some "name") []]

def a : Tree :=
  piece "interface_declaration" "interface A { m(); m(a) }" 0 none
    [piece "type_identifier" "A" 10 (some "name") [],
      piece "interface_body" "{ m(); m(a) }" 12 (some "body")
        [method "method_signature" "m()" "m" 14 14 [],
          method "method_signature" "m(a)" "m" 19 19 []]]

def more : Tree :=
  piece "interface_declaration" "interface A extends B { m(); y }" 26 none
    [piece "type_identifier" "A" 36 (some "name") [],
      piece "extends_type_clause" "extends B" 38 none
        [token "extends" 38, piece "type_identifier" "B" 46 (some "type") []],
      piece "interface_body" "{ m(); y }" 48 (some "body")
        [method "method_signature" "m()" "m" 50 50 [], property "y" 55]]

def b : Tree :=
  piece "interface_declaration" "interface B { y; x; m() }" 59 none
    [piece "type_identifier" "B" 69 (some "name") [],
      piece "interface_body" "{ y; x; m() }" 71 (some "body")
        [property "y" 73, property "x" 76, method "method_signature" "m()" "m" 79 79 []]]

def root : Tree :=
  piece "program" (a.text ++ " " ++ more.text ++ " " ++ b.text) 0 none [a, more, b]

def source : Source := ⟨"a.ts", root, Module.Scope.ofTree root⟩

/-- The declaration at an index. -/
def node (index : Nat) : Cursor := down (.ofTree root) index

/-- A part of the body of a declaration, where the body is the child at an index. -/
def part (index body place : Nat) : Cursor := down (down (node index) body) place

def binding (name : String) (index : Nat) : Module.Binding := ⟨name, .interface, node index, false⟩

def bindings : Entries (List Module.Binding) :=
  [("A", [binding "A" 0, binding "A" 1]), ("B", [binding "B" 2])]

theorem read_source : source.scope = .ok { types := bindings } := by
  with_unfolding_all rfl

def state : State := { sources := [("a.ts", source)] }

/-- `A` stands above `B`. -/
def both : Hierarchy Bool where
  source _ := source
  first isA := if isA then binding "A" 0 else binding "B" 2
  others isA := if isA then [binding "A" 1] else []
  bodies isA :=
    if isA then
      [[Members.overload "m" "a.ts" (part 0 1 0), Members.overload "m" "a.ts" (part 0 1 1)],
        [Members.overload "m" "a.ts" (part 1 2 0), Members.property "y" "a.ts" (part 1 2 1)]]
    else
      [[Members.property "y" "a.ts" (part 2 1 0), Members.property "x" "a.ts" (part 2 1 1),
        Members.overload "m" "a.ts" (part 2 1 2)]]
  bases isA := if isA then [false] else []
  rank isA := if isA then 1 else 0
  lower {isA base} among := by cases isA <;> simp_all
  apart {isA other} _ start := by
    cases isA <;> cases other <;> first | rfl | exact absurd start (by decide +kernel)

theorem stands_b : both.Stands state.toProgram false where
  isInterface := rfl
  plain := by with_unfolding_all rfl
  sound := by with_unfolding_all rfl
  declares := .cons ⟨[[_], [_], [_]], rfl, .cons (.property rfl rfl rfl)
    (.cons (.property rfl rfl rfl) (.cons (.overload rfl rfl rfl) .nil))⟩ .nil
  free := by decide +kernel
  extends_ := .nil

theorem stands_a : both.Stands state.toProgram true where
  isInterface := rfl
  plain := by with_unfolding_all rfl
  sound := by with_unfolding_all rfl
  declares := .cons ⟨[[_], [_]], rfl, .cons (.overload rfl rfl rfl)
    (.cons (.overload rfl rfl rfl) .nil)⟩ (.cons ⟨[[_], [_]], rfl, .cons (.overload rfl rfl rfl)
    (.cons (.property rfl rfl rfl) .nil)⟩ .nil)
  free := by decide +kernel
  extends_ := by
    refine .cons ⟨rfl, ?_⟩ .nil
    have found : Lookup.search state.toProgram Lookup.maxSteps .types (.within source "B") [] =
        .ok (some ⟨source, [binding "B" 2]⟩, [("a.ts", "B", .types)]) :=
      Lookup.search_of_declared read_source rfl
    exact congrArg (Except.map Prod.fst) found

theorem ready : both.Ready state.toProgram [] state where
  here := rfl
  top := rfl
  stands isA := match isA with
    | true => stands_a
    | false => stands_b
  intact _ _ made := by
    simp [state] at made

end TwoInterfaces

open TwoInterfaces in
/-- `A` lists its method twice, since two bodies declare it, and `x` alone of what `B` has. -/
theorem interface_members_twoInterfaces :
    ∃ depth found left,
      found.map Symbol.name = [some "m", some "m", some "y", some "x"] ∧
      (∃ t, both.Lists left true t found) ∧
      ∀ limit, depth ≤ limit →
        ((answer limit).declared source [binding "A" 0, binding "A" 1] [] >>=
          (answer limit).properties).run.run state = (.ok found, left) := by
  obtain ⟨depth, found, left, ⟨names, -, -, lists, -⟩, run⟩ :=
    (interface_members.2 ready true).exists_run rfl
  refine ⟨depth, found, left, names.trans ?_, lists, run⟩
  simp only [Hierarchy.names_eq]
  decide +kernel

end TypeGloss
