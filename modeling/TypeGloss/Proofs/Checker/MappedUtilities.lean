/-
# TypeGloss.Proofs.Checker.MappedUtilities — mapped types that do what a utility type does

`Partial`, `Required` and `Readonly` can be written out: `{ [K in keyof T]?: T[K] }`, or with `-?`,
or with `readonly` in front (`Computed.IsMapping`). The utility type copies the properties of its
argument; the mapped type makes one property for every key, and the type of the property is an
indexed access, `T[K]`, read where the parameter stands for the key (`State.IsAccess`).

The accesses are made one after the other, each under a key of its own, because the literals are
different that the parameter stands for (`accessKey_injective`). They wait to be computed
(`State.Maps.reveals`). When such an access is looked at, it comes to the type of the property it
names, unless this is a union, of which a new one would be made, or has to be computed itself
(`State.IsMapped.turns`).
-/
import TypeGloss.Proofs.Checker.Utilities

namespace TypeGloss

set_option autoImplicit false

open Answer (answer)

/-! ## Syntax -/

namespace Alteration

/-- What the operation says about optional properties. -/
def setsOptional : Alteration → Option Bool
  | optional => some true
  | required => some false
  | _ => none

/-- What the operation says about readonly properties. -/
def setsReadonly : Alteration → Option Bool
  | readonly => some true
  | _ => none

theorem isOptional_alter (op : Alteration) (symbol : Symbol) :
    (op.alter symbol).isOptional = op.setsOptional.getD symbol.isOptional := by
  cases op <;> rfl

theorem isReadonly_alter (op : Alteration) (symbol : Symbol) :
    (op.alter symbol).isReadonly = op.setsReadonly.getD symbol.isReadonly := by
  cases op <;> rfl

@[simp] theorem declaration_alter (op : Alteration) (symbol : Symbol) :
    (op.alter symbol).declaration = symbol.declaration := by
  cases op <;> rfl

/-- How the signature of a mapped type says what an operation does: `?` or `-?` in the annotation,
or `readonly` in front of everything else. -/
def Marks (signature annotation : Cursor) : Alteration → Prop
  | optional => annotation.kind = "opting_type_annotation" ∧
      ∀ token ∈ signature.children, token.kind ≠ "readonly"
  | required => annotation.kind = "omitting_type_annotation" ∧
      ∀ token ∈ signature.children, token.kind ≠ "readonly"
  | readonly => annotation.kind = "type_annotation" ∧
      ∃ token rest, signature.children = token :: rest ∧ token.kind = "readonly"
  | _ => False

end Alteration

namespace Computed

/-- The nodes that matter of a mapped type over the keys of a type parameter. -/
structure Mapping where
  signature : Cursor
  head : Cursor
  constraint : Cursor
  annotation : Cursor
  value : Cursor

/-- A mapped type `{ [K in keyof T]: T[K] }` with the modifiers of an operation. -/
structure IsMapping (op : Alteration) (parameter key : String) (node : Cursor) (parts : Mapping) :
    Prop where
  kind : node.kind = "object_type"
  signature : TypeSyntax.mappedSignature? node = some parts.signature
  head : parts.signature.first? ["mapped_type_clause"] = some parts.head
  name : textOf (parts.head.fieldOr? "name" ["type_identifier"]) = key
  constraint : parts.head.field? "type" = some parts.constraint
  query : parts.constraint.kind = "index_type_query"
  queried : ∃ target, parts.constraint.lastPart? = some target ∧ IsTypeName parameter target
  plain : parts.head.field? "alias" = none
  annotation : parts.signature.first? Grammar.annotations = some parts.annotation
  marks : op.Marks parts.signature parts.annotation
  value : parts.annotation.lastPart? = some parts.value
  access : parts.value.kind = "lookup_type"
  accessed : ∃ target index rest, parts.value.parts = target :: index :: rest ∧
    IsTypeName parameter target ∧ IsTypeName key index

/-- Without the word `readonly` among the tokens, a mapped type leaves that flag alone. -/
theorem readonlyModifier?_of_none {before : String} {tokens : List Cursor}
    (none : ∀ token ∈ tokens, token.kind ≠ "readonly") : readonlyModifier? before tokens = .none := by
  induction tokens generalizing before with
  | nil => rfl
  | cons token rest ih =>
      obtain ⟨other, later⟩ := List.forall_mem_cons.1 none
      simp [readonlyModifier?, other, ih later]

theorem optionalModifier?_of_marks {op : Alteration} {signature annotation : Cursor}
    (marks : op.Marks signature annotation) :
    optionalModifier? annotation.kind = op.setsOptional := by
  cases op with
  | optional => rw [marks.1]; rfl
  | required => rw [marks.1]; rfl
  | readonly => rw [marks.1]; rfl
  | pick => exact marks.elim
  | without => exact marks.elim

/-- The tokens of the signature tell what becomes of `readonly`. -/
theorem readonlyModifier?_of_marks {op : Alteration} {signature annotation : Cursor}
    (marks : op.Marks signature annotation) :
    readonlyModifier? "" signature.children = op.setsReadonly := by
  cases op with
  | optional => exact readonlyModifier?_of_none marks.2
  | required => exact readonlyModifier?_of_none marks.2
  | readonly =>
      obtain ⟨token, rest, children, isReadonly⟩ := marks.2
      rw [children]
      simp [readonlyModifier?, isReadonly, Alteration.setsReadonly]
  | pick => exact marks.elim
  | without => exact marks.elim

/-- A mapping only alters flags; it chooses no keys. -/
theorem IsMapping.modifies {op : Alteration} {parameter key : String} {node : Cursor}
    {parts : Mapping} (mapping : IsMapping op parameter key node parts) : op.chooses = false := by
  have marks := mapping.marks
  cases op with
  | optional | required | readonly => rfl
  | pick => exact marks.elim
  | without => exact marks.elim

/-- The parts of a mapped type as the rule reads them. -/
def Mapping.clause (parts : Mapping) (op : Alteration) (key : String) : MappedClause where
  signature := parts.signature
  parameter := key
  constraint := parts.constraint
  remap := none
  value := parts.value
  isOptional := op.setsOptional
  isReadonly := op.setsReadonly

/-- A mapping is read as the clause of its parts. -/
theorem IsMapping.mappedClause? {op : Alteration} {parameter key : String} {node : Cursor}
    {parts : Mapping} (mapping : IsMapping op parameter key node parts) :
    mappedClause? node = some (parts.clause op key) := by
  simp [Computed.mappedClause?, mapping.signature, mapping.head, mapping.annotation, mapping.value,
    mapping.constraint, mapping.plain, mapping.name, optionalModifier?_of_marks mapping.marks,
    readonlyModifier?_of_marks mapping.marks, Mapping.clause]

end Computed

/-! ## Literals for keys -/

namespace State

variable {s later : State} {t m : TypeId} {key key' : String}

/-- A type is the literal of a text. -/
def IsText (s : State) (m : TypeId) (key : String) : Prop :=
  ∃ r, s.records[m]? = some r ∧ r.category = .literal ∧ r.primitive = some .string ∧
    r.value = .text key

/-- Under the key of a text a state has that text. -/
def KeepsTexts (s : State) : Prop :=
  ∀ ⦃key : String⦄ ⦃m : TypeId⦄, s.interned[Key.literal .string (.text key)]? = some m →
    s.IsText m key

theorem IsText.keeps (isText : s.IsText m key) (kept : s.Preserves later) : later.IsText m key := by
  obtain ⟨r, known, is⟩ := isText
  obtain ⟨r', known', keeps⟩ := kept.records known
  exact ⟨r', known', keeps.facts ▸ is⟩

theorem IsText.unique (isText : s.IsText m key) (again : s.IsText m key') : key = key' := by
  obtain ⟨r, known, -, -, value⟩ := isText
  obtain ⟨r', known', -, -, value'⟩ := again
  cases known.symm.trans known'
  exact Value.text.inj (value.symm.trans value')

theorem IsText.isKey (isText : s.IsText m key) : s.IsKey m key := by
  obtain ⟨r, known, category, primitive, value⟩ := isText
  exact ⟨r, known, category, .inl primitive, by rw [value]; rfl⟩

/-- Texts stay those of their literals when no literal of a text is added. -/
theorem KeepsTexts.ofInterned (keeps : s.KeepsTexts) (kept : s.Preserves later)
    (same : ∀ key, later.interned[Key.literal .string (.text key)]? =
      s.interned[Key.literal .string (.text key)]?) : later.KeepsTexts :=
  fun _ _ made => (keeps (same _ ▸ made)).keeps kept

end State

/-! ## Accesses -/

/-- A place where the parameter of a mapped type stands for a literal. -/
def Place.entered (place : Place) (key : String) (literal : TypeId) : Place :=
  { place with env := Entries.put key literal place.env }

/-- The key of the access that is written at a node, for a literal. -/
def accessKey (value : Cursor) (place : Place) (key : String) (literal : TypeId) : Key :=
  .ofNode value (place.entered key literal) none .plain

/-- Accesses for different literals are different types. -/
theorem accessKey_injective {value : Cursor} {place : Place} {key : String}
    (nodup : (Entries.names place.env).Nodup) : Function.Injective (accessKey value place key) := by
  intro literal other same
  have envs : Env.key (Entries.put key literal place.env) =
      Env.key (Entries.put key other place.env) := by
    simp only [accessKey, Place.entered, Key.ofNode, Key.node.injEq] at same
    tauto
  have sorted (env : Env) : (Env.key env).Perm env := List.mergeSort_perm _ _
  have perm : (Entries.put key literal place.env).Perm (Entries.put key other place.env) := by
    have first := sorted (Entries.put key literal place.env)
    rw [envs] at first
    exact first.symm.trans (sorted _)
  have among := Entries.mem_of_find?_eq_some (Entries.find?_put_self key literal place.env)
  have found := Entries.find?_of_mem (Entries.nodup_names_put nodup key other)
    (perm.mem_iff.1 among)
  exact Option.some.inj (found.symm.trans (Entries.find?_put_self ..))

namespace State

variable {s later : State} {value : Cursor} {place : Place} {key name : String}
  {literal c : TypeId} {es : List TypeId} {done : List String}

/-- A type is the access written at a node, where the parameter stands for a literal; it has not
been simplified. -/
def IsAccess (s : State) (value : Cursor) (place : Place) (key : String) (literal c : TypeId) :
    Prop :=
  ∃ r inside, s.Pending c r ∧ r.shape = .written ∧ r.node = some value ∧
    r.place = some inside ∧ inside.env = (place.entered key literal).env ∧
    s.frames[inside.frame]? = some inside.env

theorem IsAccess.leaves (isAccess : s.IsAccess value place key literal c)
    (leaves : s.Leaves es later) (apart : c ∉ es) :
    later.IsAccess value place key literal c := by
  obtain ⟨r, inside, pending, shape, node, at_, entered, known⟩ := isAccess
  obtain ⟨r', pending'⟩ := leaves.pending apart pending
  obtain ⟨r'', known', keeps⟩ := leaves.records pending.known
  cases pending'.known.symm.trans known'
  exact ⟨r', inside, pending', keeps.facts ▸ shape, keeps.facts ▸ node, keeps.facts ▸ at_, entered,
    leaves.frames known⟩

/-- Accesses have been made for some names, and for no others. -/
structure Accessed (s : State) (value : Cursor) (place : Place) (key : String)
    (done : List String) : Prop where
  texts : s.KeepsTexts
  made : ∀ ⦃literal t : TypeId⦄, s.interned[accessKey value place key literal]? = some t →
    ∃ name ∈ done, s.IsText literal name

/-- What was accessed stays so while the intern table is as it was. -/
theorem Accessed.keeps (accessed : s.Accessed value place key done) (kept : s.Preserves later)
    (same : later.interned = s.interned) : later.Accessed value place key done where
  texts := accessed.texts.ofInterned kept fun _ => by rw [same]
  made literal t there := by
    obtain ⟨name, among, isText⟩ := accessed.made (same ▸ there)
    exact ⟨name, among, isText.keeps kept⟩

/-- A type is made for a key that had none. -/
theorem Accessed.push {more : List String} (accessed : s.Accessed value place key done)
    {other : Key} {fresh : TypeRecord} (absent : s.interned[other]? = none)
    (idle : fresh.loading = []) (within : ∀ name ∈ done, name ∈ more)
    (covers : ∀ literal, accessKey value place key literal = other →
      ∃ name ∈ more, s.IsText literal name)
    (isText : ∀ name, other = .literal .string (.text name) →
      fresh.category = .literal ∧ fresh.primitive = some .string ∧ fresh.value = .text name) :
    Accessed { s with
      interned := s.interned.insert other s.records.size, records := s.records.push fresh }
      value place key more := by
  have kept := Preserves.ofExtends (.push absent idle)
  constructor
  · intro name m made
    simp only [Std.HashMap.getElem?_insert] at made
    split at made
    · next same =>
        cases made
        exact ⟨fresh, Array.getElem?_push_size, isText name (beq_iff_eq.1 same)⟩
    · exact (accessed.texts made).keeps kept
  · intro literal t made
    have covered : ∃ name ∈ more, s.IsText literal name := by
      simp only [Std.HashMap.getElem?_insert] at made
      split at made
      · next same => exact covers literal (beq_iff_eq.1 same).symm
      · obtain ⟨name, among, isText⟩ := accessed.made made
        exact ⟨name, within name among, isText⟩
    obtain ⟨name, among, isText⟩ := covered
    exact ⟨name, among, isText.keeps kept⟩

/-- The literal of a name. -/
theorem Accessed.ensures_literal (accessed : s.Accessed value place key done) (name : String) :
    Ensures (· = s) (fun _ => Check.literal (.text name) .string) fun literal left =>
      s.Leaves [] left ∧ left.IsText literal name ∧ left.Accessed value place key done := by
  simp only [Check.literal, Check.literalText, Check.ofResult, pure_bind, LiteralKey.ofValue]
  cases made : s.interned[Key.literal .string (.text name)]? with
  | some m =>
      refine Ensures.ofRun ?_
      rintro _ rfl
      exact ⟨m, _, fun _ => Check.run_intern_of_some made _, .refl _, accessed.texts made, accessed⟩
  | none =>
      refine Ensures.ofRun ?_
      rintro _ rfl
      refine ⟨_, _, fun _ => Check.run_intern_of_none made _, .push made rfl ?_,
        ⟨_, Array.getElem?_push_size, rfl, rfl, rfl⟩,
        accessed.push made rfl (fun _ => id) ?_ ?_⟩
      · intro e same
        cases same
      · intro literal same
        cases same
      · intro other same
        cases same
        exact ⟨rfl, rfl, rfl⟩

/-- The access for a name for which there was none is a new type, which waits to be computed. -/
theorem Accessed.ensures_access (accessed : s.Accessed value place key done)
    (complete : place.blanks = []) (nodup : (Entries.names place.env).Nodup) (access : value.kind = "lookup_type")
    (isText : s.IsText literal name) (new : name ∉ done) {frame : Nat}
    (known : s.frames[frame]? = some (place.entered key literal).env) :
    Ensures (· = s) (fun ask => ask.typeAt value { place.entered key literal with frame })
      fun c left => s.Leaves [] left ∧ left.Accessed value place key (name :: done) ∧
        left.IsAccess value place key literal c ∧ s.records[c]? = none := by
  have form : Form.ofNode value = .structured .computed false := by
    simp [Form.ofNode, access, Grammar.annotations]
  have absent : s.interned[accessKey value place key literal]? = none := by
    cases made : s.interned[accessKey value place key literal]? with
    | none => rfl
    | some t =>
        obtain ⟨other, among, isText'⟩ := accessed.made made
        exact absurd (isText.unique isText' ▸ among) new
  refine Ensures.asked ?_
  have entered : { place.entered key literal with frame }.blanks = [] := complete
  simp only [Answer.step, Form.read_ofNode, form, Form.read, TypeSyntax.structured, Ask.aliasText?,
    Option.mapM_none, Check.complete_of_none entered, pure_bind]
  refine Ensures.ofRun ?_
  rintro _ rfl
  refine ⟨_, _, fun _ => Check.run_intern_of_none absent _, .push absent rfl ?_,
    accessed.push absent rfl (fun _ => List.mem_cons_of_mem name) ?_ ?_,
    ⟨_, _, ⟨Array.getElem?_push_size, rfl, rfl, List.not_mem_nil⟩, rfl, rfl, rfl, rfl, known⟩,
    Array.getElem?_size⟩
  · intro e same
    cases same
  · intro other same
    exact ⟨name, List.mem_cons_self, accessKey_injective nodup same ▸ isText⟩
  · intro other same
    cases same

/-- The property of a mapped type for a property of its type: its name, its declaration and its
modifiers, apart from those that are set; and the access that is its type. -/
structure IsMapped (s : State) (op : Alteration) (value : Cursor) (place : Place) (key : String)
    (p p' : Symbol) (c : TypeId) : Prop where
  name : p'.name = some p.key
  declaration : p'.declaration = p.declaration
  isOptional : p'.isOptional = (op.alter p).isOptional
  isReadonly : p'.isReadonly = (op.alter p).isReadonly
  type : ∃ member, p'.member = some member ∧ s.slots[member.slot]? = some (some c)
  access : ∃ literal, s.IsText literal p.key ∧ s.IsAccess value place key literal c

/-- The property of a mapped type stays what it is when other types are computed. -/
theorem IsMapped.leaves {op : Alteration} {p p' : Symbol}
    (isMapped : s.IsMapped op value place key p p' c) (leaves : s.Leaves es later)
    (apart : c ∉ es) : later.IsMapped op value place key p p' c where
  name := isMapped.name
  declaration := isMapped.declaration
  isOptional := isMapped.isOptional
  isReadonly := isMapped.isReadonly
  type := by
    obtain ⟨member, isMember, filled⟩ := isMapped.type
    exact ⟨member, isMember, leaves.slots filled⟩
  access := by
    obtain ⟨literal, isText, isAccess⟩ := isMapped.access
    exact ⟨literal, isText.keeps leaves.toPreserves, isAccess.leaves leaves apart⟩

end State

namespace Computed

variable {s : State} {op : Alteration} {parts : Mapping} {place : Place} {key : String}
  {done : List String}

/-- One property of a mapped type. -/
theorem ensures_mappedProperty (accessed : s.Accessed parts.value place key done)
    (complete : place.blanks = []) (nodup : (Entries.names place.env).Nodup) (access : parts.value.kind = "lookup_type")
    {p : Symbol} (new : p.key ∉ done) :
    Ensures (· = s)
      (fun ask => mappedProperty? ask place (parts.clause op key) p.key (some p))
      fun found left => s.Leaves [] left ∧
        left.Accessed parts.value place key (p.key :: done) ∧
        ∃ p' c, found = some p' ∧ s.records[c]? = none ∧
          left.IsMapped op parts.value place key p p' c := by
  simp only [mappedProperty?]
  refine (accessed.ensures_literal p.key).bind fun literal => .ofEach fun middle here => ?_
  obtain ⟨leaves, isText, accessed⟩ := here
  simp only [mappedName?, Mapping.clause, pure_bind]
  have entered : Ensures (· = middle)
      (fun _ => Check.newPlace place.source (Entries.put key literal place.env))
      fun inside left => middle.Leaves [] left ∧ left.interned = middle.interned ∧
        inside = { place.entered key literal with frame := middle.frames.size } ∧
        left.frames[middle.frames.size]? = some (place.entered key literal).env := by
    refine Ensures.ofRun ?_
    rintro _ rfl
    refine ⟨_, _, fun _ => rfl, .pushFrame _ _, rfl, ?_, Array.getElem?_push_size⟩
    simp only [Place.entered, complete]
  refine entered.bind fun inside => .ofEach fun at_ there => ?_
  obtain ⟨leaves', same, rfl, known⟩ := there
  have accessed := accessed.keeps leaves'.toPreserves same
  refine (accessed.ensures_access complete nodup access (isText.keeps leaves'.toPreserves) new known).bind
    fun c => Ensures.ofRun ?_
  rintro left ⟨leaves'', accessed, isAccess, fresh⟩
  have before := (leaves.then_ leaves').toPreserves
  have slot := State.Leaves.pushSlot left (some c)
  refine ⟨_, _, fun _ => rfl, ((leaves.then_ leaves').then_ leaves'').then_ slot,
    accessed.keeps slot.toPreserves rfl, _, c, rfl, before.absent fresh, ?_⟩
  exact
    { name := rfl
      declaration := rfl
      isOptional := (op.isOptional_alter p).symm
      isReadonly := (op.isReadonly_alter p).symm
      type := ⟨_, rfl, Array.getElem?_push_size⟩
      access := ⟨literal, (isText.keeps (leaves'.then_ leaves'').toPreserves).keeps slot.toPreserves,
        isAccess.leaves slot List.not_mem_nil⟩ }

/-- The properties of a mapped type, one for each property of its type. -/
theorem ensures_mappedProperties (accessed : s.Accessed parts.value place key done)
    (complete : place.blanks = []) (nodup : (Entries.names place.env).Nodup) (access : parts.value.kind = "lookup_type")
    {properties : List Symbol} (distinct : (properties.map Symbol.key).Nodup)
    (new : ∀ p ∈ properties, p.key ∉ done) :
    Ensures (· = s)
      (fun ask => (properties.map fun p => (p.key, some p)).mapM fun entry =>
        mappedProperty? ask place (parts.clause op key) entry.1 entry.2)
      fun found left => s.Leaves [] left ∧ List.Forall₂ (fun p made => ∃ p' c, made = some p' ∧
        s.records[c]? = none ∧ left.IsMapped op parts.value place key p p' c) properties found := by
  induction properties generalizing s done with
  | nil => exact .pure fun _ same => ⟨same ▸ .refl s, .nil⟩
  | cons p properties ih =>
      obtain ⟨first, others⟩ := List.forall_mem_cons.1 new
      obtain ⟨different, distinct⟩ := List.nodup_cons.1 distinct
      simp only [List.map_cons, List.mapM_cons]
      refine (ensures_mappedProperty accessed complete nodup access first).bind fun made =>
        .ofEach fun middle here => ?_
      obtain ⟨leaves, accessed, p', c, rfl, fresh, isMapped⟩ := here
      have later : ∀ q ∈ properties, q.key ∉ p.key :: done := by
        intro q among listed
        rcases List.mem_cons.1 listed with same | earlier
        · exact different (same ▸ List.mem_map_of_mem among)
        · exact others q among earlier
      refine (ih accessed distinct later).bind fun found => .pure ?_
      rintro left ⟨leaves', rest⟩
      refine ⟨leaves.then_ leaves', .cons ?_ (rest.imp ?_)⟩
      · exact ⟨p', c, rfl, fresh, isMapped.leaves leaves' List.not_mem_nil⟩
      · rintro q _ ⟨q', c', same, fresh', isMapped'⟩
        exact ⟨q', c', same, leaves.toPreserves.absent fresh', isMapped'⟩

/-- Properties of different names are found by their names. -/
theorem byName_of_nodup {properties : List Symbol} (distinct : (properties.map Symbol.key).Nodup) :
    Structure.byName properties = properties.map fun p => (p.key, p) := by
  refine Entries.ofList_of_nodup ?_
  rwa [Entries.names, List.map_map]

end Computed

/-! ## Mapped types -/

namespace State

variable {s later : State} {op : Alteration} {t m : TypeId} {place : Place}
  {parameter key : String} {parts : Computed.Mapping} {node : Cursor} {r : TypeRecord}
  {properties : List Symbol} {rows : List Row}

/-- A mapped type that does what an operation does, read where its type parameter stands for a
type. It awaits its computation, and none of its accesses has been made. -/
structure Maps (s : State) (op : Alteration) (t m : TypeId) (parameter key : String)
    (parts : Computed.Mapping) (node : Cursor) (place : Place) (r : TypeRecord) : Prop
    extends s.Awaits m r where
  shape : r.shape = .written
  node_eq : r.node = some node
  place_eq : ∃ p, r.place = some p ∧ place = s.current p
  frame : s.frames[place.frame]? = some place.env
  mapping : Computed.IsMapping op parameter key node parts
  nodup : (Entries.names place.env).Nodup
  stands : Entries.find? parameter place.env = some t
  different : parameter ≠ key
  spells : s.Spells m
  texts : s.KeepsTexts
  unread : ∀ literal, s.interned[accessKey parts.value place key literal]? = none

theorem Maps.complete (maps : s.Maps op t m parameter key parts node place r) :
    place.blanks = [] := by
  obtain ⟨p, -, rfl⟩ := maps.place_eq
  rfl

theorem Maps.accessed (maps : s.Maps op t m parameter key parts node place r) :
    s.Accessed parts.value place key [] where
  texts := maps.texts
  made literal t there := by
    rw [maps.unread literal] at there
    cases there

/-- One step of a mapped type: an object is made that has a property for each property of its
type. -/
theorem Maps.ensures_object (maps : s.Maps op t m parameter key parts node place r)
    (shows_ : s.Shows t properties) (distinct : (properties.map Symbol.key).Nodup) :
    Ensures (· = s.mark m .simplified) (fun ask => Computed.mapped ask m node place)
      fun found inside => ∃ o, found = some o ∧ (s.mark m .simplified).Leaves [m] inside ∧
        ∃ made r', inside.IsObject o made r' ∧ List.Forall₂ (fun p p' => ∃ c,
          s.records[c]? = none ∧ inside.IsMapped op parts.value place key p p' c)
          properties made := by
  have marked := Leaves.mark s m .simplified
  obtain ⟨target, last, isName⟩ := maps.mapping.queried
  have bare : parts.constraint.unwrapParens = parts.constraint := by
    rw [Cursor.unwrapParens, if_neg (by simp [maps.mapping.query])]
  have keyed : ((properties.map fun p => (p.key, p)).map fun entry => (entry.1, some entry.2)) =
      properties.map fun p => (p.key, some p) := by
    rw [List.map_map]
    rfl
  simp only [Computed.mapped, maps.mapping.mappedClause?, Computed.mappedKeys?,
    Computed.Mapping.clause, bare, maps.mapping.query, beq_self_eq_true, if_true, last, Check.need,
    pure_bind, bind_assoc]
  refine (isName.comes maps.complete maps.stands _).then_ ?_
  refine (shows_.keeps marked.toPreserves).isObject.now.then_ ?_
  simp only [pure_bind, Computed.byName_of_nodup distinct, keyed]
  have accessed := maps.accessed.keeps marked.toPreserves rfl
  refine (Computed.ensures_mappedProperties accessed maps.complete maps.nodup maps.mapping.access distinct
    (fun _ _ => List.not_mem_nil)).bind fun found => .ofEach fun inside here => ?_
  obtain ⟨leaves, mapped⟩ := here
  have kept := marked.toPreserves.trans leaves.toPreserves
  simp only [map_eq_pure_bind]
  refine (maps.spells kept).bind fun text => .ofEach fun told onward => ?_
  obtain ⟨r', known, -⟩ := (kept.trans onward.toPreserves).records maps.known
  have unmade : (s.mark m .simplified).Unmade m := maps.unmade
  have unmade := (leaves.then_ onward).unmade List.not_mem_nil unmade
  refine (Computed.ensures_syntheticObject known unmade (found.filterMap id) text).bind
    fun o => .pure ?_
  rintro left ⟨leaves', r'', isObject⟩
  refine ⟨o, rfl, (leaves.then_ onward).trans leaves', _, r'', isObject, ?_⟩
  have after := onward.trans leaves'
  refine forall₂_filterMap_of_some (mapped.imp fun p made there => ?_)
  obtain ⟨p', c, same, fresh, isMapped⟩ := there
  have new := marked.toPreserves.absent fresh
  have different : c ≠ m := by
    intro there
    rw [there, maps.known] at new
    cases new
  exact ⟨p', same, c, new, isMapped.leaves after (by simpa using different)⟩

/-- When a mapped type is looked at, it shows a property for each property of its type, and the
accesses that are their types have not been looked at. -/
theorem Maps.reveals (maps : s.Maps op t m parameter key parts node place r)
    (shows_ : s.Shows t properties) (distinct : (properties.map Symbol.key).Nodup) :
    s.Reveals m fun made left => s.Leaves [m] left ∧ left.Shows m made ∧
      List.Forall₂ (fun p p' => ∃ c, s.records[c]? = none ∧
        left.IsMapped op parts.value place key p p' c) properties made := by
  obtain ⟨p, at_, now⟩ := maps.place_eq
  have loader (ask : Ask) : Answer.loader? ask m r .simplified =
      some (Check.upToDate p >>= Computed.mapped ask m node) := by
    simp [Answer.loader?, maps.shape, Answer.written?, maps.computed, Answer.syntaxOf,
      maps.node_eq, at_, Check.need, maps.mapping.kind]
  have read : Comes (· = s.mark m .simplified) (fun _ => Check.upToDate p) place := by
    refine Ensures.ofRun ?_
    rintro _ rfl
    exact ⟨_, _, fun _ => rfl, now.symm, rfl⟩
  have simplified := maps.toPending.ensures_leaving loader
    (fun o s' => ∃ made r', s'.IsObject o made r' ∧ List.Forall₂ (fun p p' => ∃ c,
      s.records[c]? = none ∧ s'.IsMapped op parts.value place key p p' c) properties made) ?_ ?_
    (read.then_ (maps.ensures_object shows_ distinct))
  · refine reveals_of_simplified (simplified.consequence (fun _ => id) ?_)
    rintro _ left ⟨o, rfl, ⟨made, r', isObject, mapped⟩, leaves, _, came⟩
    exact ⟨o, made, r', rfl, isObject, leaves.weaken (by simp), came.shows_ isObject, mapped⟩
  · rintro o before later leaves ⟨made, r', isObject, mapped⟩
    obtain ⟨r'', isObject'⟩ := isObject.keeps leaves.toPreserves
    refine ⟨made, r'', isObject', mapped.imp fun p p' there => ?_⟩
    obtain ⟨c, new, isMapped⟩ := there
    have different : c ≠ m := by
      intro there
      rw [there, maps.known] at new
      cases new
    exact ⟨c, new, isMapped.leaves leaves (by simpa using different)⟩
  · rintro o before ⟨made, r', isObject, -⟩
    exact ⟨r', isObject.known, by simp [isObject.category]⟩

/-! ### Types of properties -/

/-- A type that is no union is the union of itself. -/
theorem Remembers.unionOfTypes_single {u : TypeId} {r : TypeRecord}
    (known : s.records[u]? = some r) (single : r.category ≠ .union) :
    s.Remembers (fun ask => ask.unionOfTypes [u]) u := by
  have alternatives : s.Remembers (fun ask => ask.alternatives u) [u] := by
    simp only [Ask.alternatives]
    refine (Remembers.category known).bind ?_
    simp only [single, if_false]
    exact .pure [u]
  have members : s.Remembers (fun ask => ask.unionMembers Pure.pure [] [u]) [u] := by
    simp only [Ask.unionMembers, pure_bind]
    exact alternatives.bind (.pure [u])
  exact members.bind (.pure u)

/-- A property that is named is found. -/
theorem Remembers.propertyTypes {o : TypeId} {p : Symbol} {row : Row}
    (has : s.Remembers (fun ask => ask.properties o) properties)
    (distinct : (properties.map Symbol.key).Nodup) (among : p ∈ properties)
    (isRow : s.IsRow p row) :
    s.Remembers (fun ask => Computed.propertyTypes ask o [p.key]) [row.type] := by
  have found : Entries.find? p.key (Structure.byName properties) = some p := by
    have names : (Entries.names (properties.map fun p => (p.key, p))).Nodup := by
      rwa [Entries.names, List.map_map]
    rw [Computed.byName_of_nodup distinct]
    exact Entries.find?_of_mem names (List.mem_map_of_mem (f := fun p => (p.key, p)) among)
  simp only [Computed.propertyTypes]
  refine has.bind ?_
  simp only [List.filterMap_cons, found, List.filterMap_nil, List.mapM_cons, List.mapM_nil]
  exact isRow.remembers.bind (.pure _)

/-- An access comes to the type of the property that it names, if this is no union. -/
theorem remembers_access {literal c : TypeId} {p : Symbol} {row : Row} {inside : Place}
    (complete : inside.blanks = [])
    (entered : inside.env = (place.entered key literal).env)
    (mapping : Computed.IsMapping op parameter key node parts)
    (stands : Entries.find? parameter place.env = some t) (different : parameter ≠ key)
    (isText : s.IsText literal p.key) (shows_ : s.Shows t properties)
    (distinct : (properties.map Symbol.key).Nodup) (among : p ∈ properties)
    (isRow : s.IsRow p row) (known : s.records[row.type]? = some r)
    (single : r.category ≠ .union) :
    s.Remembers (fun ask => Computed.access ask c parts.value inside) (some row.type) := by
  obtain ⟨target, index, rest, written, isTarget, isIndex⟩ := mapping.accessed
  obtain ⟨o, r', simplified, known', shaped, has⟩ := shows_.simple
  have above : Entries.find? parameter inside.env = some t := by
    rw [entered, Place.entered, Entries.find?_put_of_ne different, stands]
  have here : Entries.find? key inside.env = some literal := by
    rw [entered, Place.entered, Entries.find?_put_self]
  have keys := Remembers.literalKeys_single isText.isKey
  obtain ⟨r'', text, isLiteral, -⟩ := isText
  have itself : s.Remembers (fun ask => ask.simplified literal) (some literal) :=
    .simplified_self text (by simp [isLiteral])
  have noArray : r'.category ≠ .array := by
    intro same
    rw [same] at shaped
    cases shaped
  have noTuple : r'.category ≠ .tuple := by
    intro same
    rw [same] at shaped
    cases shaped
  have first : s.Remembers (fun ask => ask.typeAt target inside) t :=
    fun _ _ => isTarget.comes complete above _
  have second : s.Remembers (fun ask => ask.typeAt index inside) literal :=
    fun _ _ => isIndex.comes complete here _
  simp only [Computed.access, written]
  refine first.bind (simplified.bind (second.bind (itself.bind ?_)))
  refine (Remembers.category known').bind ((Remembers.facts text).bind ?_)
  simp only [noArray, noTuple, decide_false, Bool.false_and, Bool.false_eq_true, if_false,
    Computed.keyAccess]
  refine Remembers.map ?_ some
  refine keys.bind ((Remembers.category known').bind ?_)
  simp only [Option.getD_some, List.isEmpty_cons, Bool.not_false, shaped, Bool.and_self, if_true]
  refine (Remembers.propertyTypes has distinct among isRow).bind ?_
  exact .unionOfTypes_single known single

/-- When a type is looked at for the first time, whatever else has been looked at before, it comes
to another type. -/
def Turns (s : State) (c u : TypeId) : Prop :=
  ∀ ⦃later : State⦄ ⦃es : List TypeId⦄, s.Leaves es later → c ∉ es →
    Ensures (· = later) (fun ask => ask.simplified c) fun found left =>
      found = some u ∧ later.Leaves [c] left

/-- The access that is the type of a property comes to the type of the property that it names,
unless this is a union or is to be computed itself. -/
theorem IsMapped.turns {p p' : Symbol} {c : TypeId} {row : Row}
    (isMapped : s.IsMapped op parts.value place key p p' c)
    (mapping : Computed.IsMapping op parameter key node parts)
    (stands : Entries.find? parameter place.env = some t) (different : parameter ≠ key)
    (shows_ : s.Shows t properties) (distinct : (properties.map Symbol.key).Nodup)
    (among : p ∈ properties) (isRow : s.IsRow p row) (known : s.records[row.type]? = some r)
    (single : r.category ≠ .union) (plain : r.category ≠ .computed) : s.Turns c row.type := by
  intro later es leaves apart
  obtain ⟨literal, isText, isAccess⟩ := isMapped.access
  obtain ⟨r', inside, pending, shape, node_eq, at_, entered, frames⟩ :=
    isAccess.leaves leaves apart
  have marked := Leaves.mark later c .simplified
  have kept := leaves.toPreserves.trans marked.toPreserves
  have loader (ask : Ask) : Answer.loader? ask c r' .simplified =
      some (Check.upToDate inside >>= Computed.access ask c parts.value) := by
    simp [Answer.loader?, shape, Answer.written?, pending.computed, Answer.syntaxOf, node_eq, at_,
      Check.need, mapping.access]
  have read : Comes (· = later.mark c .simplified) (fun _ => Check.upToDate inside)
      { inside with blanks := [] } := by
    refine Ensures.ofRun ?_
    rintro _ rfl
    refine ⟨_, _, fun _ => rfl, ?_, rfl⟩
    have known : (later.mark c .simplified).frames[inside.frame]? = some inside.env := frames
    simp [State.current, Array.getD_eq_getD_getElem?, known]
  obtain ⟨r'', known', keeps⟩ := kept.records known
  have within : { inside with blanks := [] }.env = (place.entered key literal).env := entered
  have named := remembers_access (c := c) rfl within mapping stands different (isText.keeps kept)
    (shows_.keeps kept) distinct among (isRow.keeps kept) known' (keeps.facts ▸ single)
  have step : Ensures (· = later.mark c .simplified)
      (fun ask => Check.upToDate inside >>= Computed.access ask c parts.value) fun found left =>
        ∃ o, found = some o ∧ (later.mark c .simplified).Leaves [] left ∧
          (o = row.type ∧ ∃ r, left.records[o]? = some r ∧ r.category ≠ .computed) := by
    refine read.then_ (named.now.consequence (fun _ => id) ?_)
    rintro _ _ ⟨rfl, rfl⟩
    exact ⟨row.type, rfl, .refl _, rfl, r'', known', keeps.facts ▸ plain⟩
  refine (pending.ensures_leaving loader
    (fun o s => o = row.type ∧ ∃ r, s.records[o]? = some r ∧ r.category ≠ .computed) ?_ And.right
    step).consequence (fun _ => id) ?_
  · rintro o before after leaves ⟨rfl, r, known, plain⟩
    obtain ⟨r', known', keeps⟩ := leaves.records known
    exact ⟨rfl, r', known', keeps.facts ▸ plain⟩
  · rintro _ left ⟨o, rfl, ⟨rfl, -⟩, leaves, -⟩
    exact ⟨rfl, leaves⟩

/-! ### Agreement -/

/-- A property of a mapped type and one of a utility type agree in name, declaration and modifiers.
The type of the first comes to the type of the second when it is looked at, unless that is a
union or is to be computed itself. -/
structure Corresponds (s : State) (p q : Symbol) : Prop where
  key : p.key = q.key
  declaration : p.declaration = q.declaration
  isOptional : p.isOptional = q.isOptional
  isReadonly : p.isReadonly = q.isReadonly
  types : ∃ member member' c u, p.member = some member ∧ q.member = some member' ∧
    s.slots[member.slot]? = some (some c) ∧ s.slots[member'.slot]? = some (some u) ∧
    ∀ r, s.records[u]? = some r → r.category ≠ .union → r.category ≠ .computed → s.Turns c u

/-- The property of a mapped type has the name, the declaration and the modifiers that the operation
gives to the property of its key. -/
theorem IsMapped.corresponds {p p' q : Symbol} {c : TypeId} {row : Row}
    (isMapped : s.IsMapped op parts.value place key p p' c)
    (mapping : Computed.IsMapping op parameter key node parts)
    (stands : Entries.find? parameter place.env = some t) (different : parameter ≠ key)
    (shows_ : s.Shows t properties) (distinct : (properties.map Symbol.key).Nodup)
    (among : p ∈ properties) (isRow : s.IsRow p row)
    (isRow' : s.IsRow q { row with symbol := op.alter row.symbol }) : s.Corresponds p' q := by
  have turns (r : TypeRecord) (known : s.records[row.type]? = some r) (single : r.category ≠ .union)
      (plain : r.category ≠ .computed) : s.Turns c row.type :=
    isMapped.turns mapping stands different shows_ distinct among isRow known single plain
  obtain ⟨member, isMember, filled⟩ := isMapped.type
  obtain ⟨same, member', isMember', filled'⟩ := isRow'
  have copied : { q with member := none } = op.alter { p with member := none } := by
    rw [← isRow.1]
    exact same.symm
  have isOptional : q.isOptional = (op.alter p).isOptional :=
    (congrArg Symbol.isOptional copied).trans
      ((op.isOptional_alter _).trans (op.isOptional_alter p).symm)
  have isReadonly : q.isReadonly = (op.alter p).isReadonly :=
    (congrArg Symbol.isReadonly copied).trans
      ((op.isReadonly_alter _).trans (op.isReadonly_alter p).symm)
  have declaration : q.declaration = p.declaration :=
    (congrArg Symbol.declaration copied).trans (op.declaration_alter _)
  have key : q.key = p.key := (congrArg Symbol.key copied).trans (op.alter_key _)
  exact
    { key := by rw [key, Symbol.key, isMapped.name]; rfl
      declaration := isMapped.declaration.trans declaration.symm
      isOptional := isMapped.isOptional.trans isOptional.symm
      isReadonly := isMapped.isReadonly.trans isReadonly.symm
      types := ⟨member, member', c, row.type, isMember, isMember', filled, filled', turns⟩ }

/-- What a utility type shows that awaits its computation, or shows it already. -/
theorem ensures_utility {e : TypeId} {rest : List TypeId} {r' : TypeRecord}
    (shown : s.Shown t rows) (spells : s.Spells t) (inhabited : rows ≠ [])
    (utility : s.Applies op t e rest r' ∨ s.Shown e (op.apply rows)) :
    Ensures (· = s) (fun ask => ask.properties e) fun found left =>
      s.Leaves [e] left ∧ left.Shows e found ∧ List.Forall₂ left.IsRow found (op.apply rows) := by
  rcases utility with applies | ⟨found, shows_, isRows⟩
  · have promises := Promises.utility (.shown shown spells) applies (by simp) inhabited
    refine promises.reveals.2.consequence (fun _ => id) ?_
    rintro found left ⟨leaves, shows_, isRows, -⟩
    exact ⟨leaves, shows_, isRows⟩
  · refine shows_.properties.now.consequence (fun _ => id) ?_
    rintro _ left ⟨rfl, rfl⟩
    exact ⟨(Leaves.refl left).weaken (by simp), shows_, isRows⟩

end State

/-- Let the properties of a type with any shape of an object have been found, and their types; let
there be at least one, and let their names be different. A mapped type over its keys with the
modifiers of `Partial`, `Required` or `Readonly` that has not been looked at, and the utility type
itself, looked at or not, both have the shape of an object then, and the same properties in the same
order, with the same modifiers and declarations. And for every property whose type is no union and
is not to be computed, the type that the mapped type gives it comes to that very type, whatever has
been looked at before. -/
theorem mapped_utilities {s : State} {op : Alteration} {t m e : TypeId} {place : Place}
    {parameter key : String} {parts : Computed.Mapping} {node : Cursor} {r r' : TypeRecord}
    {properties : List Symbol} {rows : List Row} {rest : List TypeId}
    (shows_ : s.Shows t properties) (isRows : List.Forall₂ s.IsRow properties rows)
    (spells : s.Spells t) (inhabited : properties ≠ [])
    (distinct : (properties.map Symbol.key).Nodup)
    (maps : s.Maps op t m parameter key parts node place r)
    (utility : s.Applies op t e rest r' ∨ s.Shown e (op.apply rows)) :
    Ensures (· = s) (fun ask => ask.bothProperties m e) fun found left =>
      left.Shows m found.1 ∧ left.Shows e found.2 ∧
        List.Forall₂ left.Corresponds found.1 found.2 := by
  have shown : s.Shown t rows := ⟨properties, shows_, isRows⟩
  have present : rows ≠ [] := by
    rintro rfl
    exact inhabited (List.forall₂_nil_right_iff.1 isRows)
  obtain ⟨apart, r'', known⟩ : e ≠ m ∧ ∃ r, s.records[e]? = some r := by
    rcases utility with applies | ⟨found, looked, -⟩
    · refine ⟨fun same => ?_, r', applies.known⟩
      subst same
      cases applies.known.symm.trans maps.known
      cases applies.shape.symm.trans maps.shape
    · refine ⟨fun same => looked.not_awaits (same ▸ maps.toAwaits), ?_⟩
      exact looked.looked.imp fun _ => And.left
  simp only [Ask.bothProperties]
  refine (maps.reveals shows_ distinct).2.bind fun made => .ofEach fun middle here => ?_
  obtain ⟨leaves, shown', mapped⟩ := here
  have kept := leaves.toPreserves
  have utility' : (∃ r', middle.Applies op t e rest r') ∨ middle.Shown e (op.apply rows) :=
    utility.imp (fun applies => applies.leaves leaves (by simpa using apart))
      fun shown => shown.keeps kept
  obtain ⟨r', utility⟩ : ∃ r', middle.Applies op t e rest r' ∨ middle.Shown e (op.apply rows) :=
    utility'.elim (fun there => there.imp fun _ => .inl) fun there => ⟨r', .inr there⟩
  refine (State.ensures_utility (shown.keeps kept) (spells.keeps kept) present utility).bind
    fun copied => .pure ?_
  rintro left ⟨leaves', copies, isRows'⟩
  rw [Computed.apply_of_modifies maps.mapping.modifies, List.forall₂_map_right_iff] at isRows'
  have onward := kept.trans leaves'.toPreserves
  have listed := forall₂_imp_of_mem mapped fun p among _ _ there => And.intro among there
  have aligned : List.Forall₂ (fun p' row => ∃ p, p ∈ properties ∧ (∃ c, s.records[c]? = none ∧
      middle.IsMapped op parts.value place key p p' c) ∧ left.IsRow p row) made rows :=
    forall₂_of_common listed (State.rows_keeps isRows onward) fun there isRow =>
      ⟨_, there.1, there.2, isRow⟩
  refine ⟨shown'.keeps leaves'.toPreserves, copies, forall₂_of_common aligned.flip isRows'.flip ?_⟩
  rintro row p' q ⟨p, among, ⟨c, new, isMapped⟩, isRow⟩ isRow'
  have different : c ≠ e := by
    intro there
    rw [there, known] at new
    cases new
  exact (isMapped.leaves leaves' (by simpa using different)).corresponds maps.mapping maps.stands
    maps.different (shows_.keeps onward) distinct among isRow isRow'

/-! ### A partial type written out

`{ [K in keyof T]?: T[K] }` where `T` stands for `{ x: number; y?: string }`. -/

namespace WrittenOut

open TwoProperties (applied)

def token (text : String) : Tree :=
  .node { (default : Mark) with kind := text, text } []

def part (kind text : String) (field : Option String) (children : List Tree) : Tree :=
  .node { (default : Mark) with kind, text, named := true, field } children

def clause : Tree :=
  part "mapped_type_clause" "K in keyof T" none [part "type_identifier" "K" (some "name") [],
    token "in", part "index_type_query" "keyof T" (some "type") [token "keyof",
      part "type_identifier" "T" none []]]

def annotation : Tree :=
  part "opting_type_annotation" "?: T[K]" (some "type") [token "?:",
    part "lookup_type" "T[K]" none [part "type_identifier" "T" none [], token "[",
      part "type_identifier" "K" none [], token "]"]]

def node : Cursor :=
  .ofTree (part "object_type" "" none [token "\x7b",
    part "index_signature" "" none [token "[", clause, token "]", annotation], token "\x7d"])

/-- The parts of the node, of which none is missing. -/
def parts : Computed.Mapping :=
  let signature := (TypeSyntax.mappedSignature? node).getD node
  let head := (signature.first? ["mapped_type_clause"]).getD node
  let annotation := (signature.first? Grammar.annotations).getD node
  { signature, head, constraint := (head.field? "type").getD node, annotation
    value := annotation.lastPart?.getD node }

def place : Place := { source := default, env := [("T", 2)], frame := 1 }

def mapped : TypeRecord :=
  { category := .computed, shape := .written, node := some node, place := some place,
    label := some "M<A>" }

def state : State :=
  { TwoProperties.state with
    records := TwoProperties.state.records.push mapped, frames := #[[], [("T", 2)]] }

theorem keeps : TwoProperties.state.Preserves state where
  records {t r} known := by
    obtain ⟨bound, -⟩ := Array.getElem?_eq_some_iff.1 known
    refine ⟨r, ?_, .refl r⟩
    rw [state, Array.getElem?_push, if_neg (Nat.ne_of_lt bound), known]
  slots := id

theorem mapping : Computed.IsMapping .optional "T" "K" node parts where
  kind := rfl
  signature := rfl
  head := rfl
  name := rfl
  constraint := rfl
  query := rfl
  queried := ⟨_, rfl, rfl, rfl, rfl⟩
  plain := rfl
  annotation := rfl
  marks := ⟨rfl, by decide⟩
  value := rfl
  access := rfl
  accessed := ⟨_, _, _, rfl, ⟨rfl, rfl, rfl⟩, rfl, rfl, rfl⟩

theorem maps : state.Maps .optional 2 10 "T" "K" parts node place mapped where
  known := rfl
  computed := rfl
  unknown := rfl
  idle := List.not_mem_nil
  unmade := by simp [State.Unmade, state, TwoProperties.state]
  shape := rfl
  node_eq := rfl
  place_eq := ⟨_, rfl, rfl⟩
  frame := rfl
  mapping := mapping
  nodup := by decide
  stands := rfl
  different := by decide
  spells := .ofLabel rfl rfl
  texts key m made := by simp [state, TwoProperties.state] at made
  unread literal := by simp [state, TwoProperties.state]

theorem applies : state.Applies .optional 2 4 [] (applied "Partial" [2]) where
  known := rfl
  computed := rfl
  unknown := rfl
  idle := List.not_mem_nil
  unmade := by simp [State.Unmade, state, TwoProperties.state]
  shape := rfl
  args := rfl
  chooses := .optional
  spells := by simp

end WrittenOut

open WrittenOut in
/-- The mapped type has two properties, and each corresponds to one of the utility type. -/
theorem mapped_utilities_writtenOut :
    ∃ depth found left, List.Forall₂ left.Corresponds found.1 found.2 ∧
      ∀ limit, depth ≤ limit →
        ((answer limit).bothProperties 10 4).run.run state = (.ok found, left) := by
  have distinct : ([TwoProperties.x, TwoProperties.y].map Symbol.key).Nodup := by decide
  have agree := mapped_utilities (TwoProperties.shows_object.keeps keeps)
    (State.rows_keeps TwoProperties.isRows keeps) (TwoProperties.spells_object.keeps keeps) (by simp)
    distinct maps (.inl applies)
  obtain ⟨depth, found, left, ⟨-, -, there⟩, run⟩ := agree.exists_run rfl
  exact ⟨depth, found, left, there, run⟩

end TypeGloss
