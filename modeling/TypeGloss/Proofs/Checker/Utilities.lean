/-
# TypeGloss.Proofs.Checker.Utilities — the algebra of the utility types for objects

`Partial`, `Required` and `Readonly` change the modifiers of all properties; `Pick` and `Omit`
keep some of the properties. What they do is told by rows (`Row`): a row is a property and its
type, apart from where the type is kept. An operation on lists of rows stands for each utility type
(`Alteration`).

A utility type that has not been looked at awaits its computation, and so may the type it is
applied to. Such types form a tower over one whose properties have been found (`State.Tower`).
When the properties of the type at the top are asked for, everything below is computed, each type
while the ones above it are marked, and what is found is what the operations make of the rows at
the bottom (`State.Promises.reveals`). What has been computed stays so, and other towers over the same
type are left as they are as far as they share nothing; what they share has been computed
(`State.Promises.advances`).

So what is true of operations on rows is true of utility types.
-/
import TypeGloss.Proofs.Checker.Findings

namespace TypeGloss

set_option autoImplicit false

open Answer (answer)

/-! ## Properties as rows -/

/-- A property apart from where its type is kept, and its type. -/
structure Row where
  symbol : Symbol
  type : TypeId

/-- The name of a property. -/
def Symbol.key (symbol : Symbol) : String :=
  symbol.name.getD ""

/-- What the utility types for objects do. -/
inductive Alteration where
  | optional
  | required
  | readonly
  | pick (keys : List String)
  | without (keys : List String)

namespace Alteration

/-- The name of the utility type. -/
def name : Alteration → String
  | optional => "Partial"
  | required => "Required"
  | readonly => "Readonly"
  | pick _ => "Pick"
  | without _ => "Omit"

/-- Is a property kept? -/
def keeps : Alteration → Symbol → Bool
  | pick keys, symbol => keys.contains symbol.key
  | without keys, symbol => !keys.contains symbol.key
  | _, _ => true

/-- What is made of a property that is kept. -/
def alter : Alteration → Symbol → Symbol
  | optional, symbol => { symbol with isOptional := true }
  | required, symbol => { symbol with isOptional := false }
  | readonly, symbol => { symbol with isReadonly := true }
  | _, symbol => symbol

/-- Does the operation choose among the properties? -/
def chooses : Alteration → Bool
  | pick _ => true
  | without _ => true
  | _ => false

/-- What is made of rows. -/
def apply (op : Alteration) (rows : List Row) : List Row :=
  (rows.filter fun row => op.keeps row.symbol).map fun row =>
    { row with symbol := op.alter row.symbol }

/-- Several operations, the last one first. -/
def applyAll (ops : List Alteration) (rows : List Row) : List Row :=
  ops.foldr apply rows

@[simp] theorem applyAll_nil (rows : List Row) : applyAll [] rows = rows := rfl

@[simp] theorem applyAll_cons (op : Alteration) (ops : List Alteration) (rows : List Row) :
    applyAll (op :: ops) rows = op.apply (applyAll ops rows) := rfl

@[simp] theorem alter_key (op : Alteration) (symbol : Symbol) :
    (op.alter symbol).key = symbol.key := by
  cases op <;> rfl

@[simp] theorem keeps_alter (op other : Alteration) (symbol : Symbol) :
    op.keeps (other.alter symbol) = op.keeps symbol := by
  cases op <;> simp [keeps]

end Alteration

namespace State

/-- A property has been found, and so has its type. -/
def IsRow (s : State) (p : Symbol) (row : Row) : Prop :=
  row.symbol = { p with member := none } ∧
    ∃ member, p.member = some member ∧ s.slots[member.slot]? = some (some row.type)

/-- A type has any shape of an object, and its properties have been found. -/
structure Shows (s : State) (t : TypeId) (properties : List Symbol) : Prop where
  /-- If the type is computed it has been simplified. -/
  looked : ∃ r, s.records[t]? = some r ∧ (r.category = .computed → r.cache.simplified ≠ none)
  simple : ∃ o r, s.Remembers (fun ask => ask.simplified t) (some o) ∧
    s.records[o]? = some r ∧ r.category.isObjectShaped = true ∧
    s.Remembers (fun ask => ask.properties o) properties
  properties : s.Remembers (fun ask => ask.properties t) properties

/-- A type has any shape of an object, and its properties and their types have been found. -/
def Shown (s : State) (t : TypeId) (rows : List Row) : Prop :=
  ∃ properties, s.Shows t properties ∧ List.Forall₂ s.IsRow properties rows

variable {s later : State} {t e o : TypeId} {p : Symbol} {properties others : List Symbol}
  {row row' : Row} {rows rows' : List Row} {r r' : TypeRecord}

theorem IsRow.keeps (isRow : s.IsRow p row) (kept : s.Preserves later) : later.IsRow p row := by
  obtain ⟨symbol, member, isMember, filled⟩ := isRow
  exact ⟨symbol, member, isMember, kept.slots filled⟩

theorem IsRow.remembers (isRow : s.IsRow p row) :
    s.Remembers (fun ask => ask.ofSymbol p) row.type := by
  obtain ⟨-, member, isMember, filled⟩ := isRow
  exact .ofSymbol isMember filled

theorem IsRow.unique (isRow : s.IsRow p row) (again : s.IsRow p row') : row = row' := by
  obtain ⟨symbol, member, isMember, filled⟩ := isRow
  obtain ⟨symbol', member', isMember', filled'⟩ := again
  cases isMember.symm.trans isMember'
  cases row
  cases row'
  simp_all

theorem IsRow.key (isRow : s.IsRow p row) : row.symbol.key = p.key := by
  rw [isRow.1]
  rfl

theorem Shows.keeps (shows_ : s.Shows t properties) (kept : s.Preserves later) :
    later.Shows t properties where
  looked := by
    obtain ⟨r, known, looked⟩ := shows_.looked
    obtain ⟨r', known', keeps⟩ := kept.records known
    refine ⟨r', known', fun computed => ?_⟩
    obtain ⟨content, there⟩ :=
      Option.ne_none_iff_exists'.1 (looked (keeps.facts ▸ computed))
    have earlier : r.cache.get? .simplified = some content := there
    have here : r'.cache.simplified = some content := keeps.parts earlier
    simp [here]
  simple := by
    obtain ⟨o, r, simplified, known, shaped, has⟩ := shows_.simple
    obtain ⟨r', known', keeps⟩ := kept.records known
    exact ⟨o, r', simplified.keeps kept, known', keeps.facts ▸ shaped, has.keeps kept⟩
  properties := shows_.properties.keeps kept

theorem Shows.isObject (shows_ : s.Shows t properties) :
    s.Remembers (fun ask => Structure.objectProperties? ask t) (some properties) := by
  obtain ⟨o, r, simplified, known, shaped, has⟩ := shows_.simple
  simp only [Structure.objectProperties?]
  refine simplified.bind ((Remembers.category known).bind ?_)
  simp only [shaped, if_true]
  exact has.map some

theorem Shows.unique (shows_ : s.Shows t properties) (again : s.Shows t others) :
    properties = others :=
  shows_.properties.unique again.properties

theorem rows_keeps (isRows : List.Forall₂ s.IsRow properties rows) (kept : s.Preserves later) :
    List.Forall₂ later.IsRow properties rows :=
  isRows.imp fun _ _ isRow => isRow.keeps kept

theorem rows_unique (isRows : List.Forall₂ s.IsRow properties rows)
    (again : List.Forall₂ s.IsRow properties rows') : rows = rows' := by
  induction isRows generalizing rows' with
  | nil => exact (List.forall₂_nil_left_iff.1 again).symm
  | cons isRow _ ih =>
      cases again with
      | cons isRow' rest => rw [isRow.unique isRow', ih rest]

theorem Shown.keeps (shown : s.Shown t rows) (kept : s.Preserves later) : later.Shown t rows := by
  obtain ⟨properties, shows_, isRows⟩ := shown
  exact ⟨properties, shows_.keeps kept, rows_keeps isRows kept⟩

theorem Shown.unique (shown : s.Shown t rows) (again : s.Shown t rows') : rows = rows' := by
  obtain ⟨properties, shows_, isRows⟩ := shown
  obtain ⟨others, shows', isRows'⟩ := again
  obtain rfl := shows_.unique shows'
  exact rows_unique isRows isRows'

/-- A type whose properties have been found does not await its computation. -/
theorem Shows.not_awaits (shows_ : s.Shows t properties) : ¬s.Awaits t r := by
  intro awaits
  obtain ⟨r', known, looked⟩ := shows_.looked
  cases known.symm.trans awaits.known
  exact looked awaits.computed awaits.unknown

/-! ### Objects -/

/-- The properties of an object that are known. -/
structure IsObject (s : State) (o : TypeId) (properties : List Symbol) (r : TypeRecord) : Prop
    where
  known : s.records[o]? = some r
  category : r.category = .object
  found : r.cache.properties = some properties

theorem IsObject.keeps (isObject : s.IsObject o properties r) (kept : s.Preserves later) :
    ∃ r', later.IsObject o properties r' := by
  obtain ⟨r', known, keeps⟩ := kept.records isObject.known
  have content : r.cache.get? .properties = some properties := isObject.found
  exact ⟨r', known, (congrArg TypeFacts.category keeps.facts).trans isObject.category,
    keeps.parts content⟩

/-- An object after all computation has the properties of the object. -/
theorem IsObject.remembers (isObject : s.IsObject o properties r)
    (simplified : s.Remembers (fun ask => ask.simplified t) (some o)) :
    s.Remembers (fun ask => ask.properties t) properties := by
  have content : r.cache.get? .properties = some properties := isObject.found
  refine .asked ?_
  simp only [Answer.step, Structure.properties]
  refine simplified.bind ?_
  refine (Remembers.category isObject.known).bind ?_
  simp only [isObject.category]
  exact (Remembers.load isObject.known content).bind (.pure _)

/-- A type that is an object after all computation shows what the object has. -/
theorem IsObject.shows_ (isObject : s.IsObject o properties r)
    (looked : ∃ r, s.records[t]? = some r ∧ (r.category = .computed → r.cache.simplified ≠ none))
    (simplified : s.Remembers (fun ask => ask.simplified t) (some o)) :
    s.Shows t properties where
  looked := looked
  simple := by
    have self : s.Remembers (fun ask => ask.simplified o) (some o) :=
      .simplified_self isObject.known (by simp [isObject.category])
    exact ⟨o, r, simplified, isObject.known, by rw [isObject.category]; rfl,
      isObject.remembers self⟩
  properties := isObject.remembers simplified

/-- An object shows its properties. -/
theorem IsObject.shows_self (isObject : s.IsObject o properties r) : s.Shows o properties := by
  have plain : r.category ≠ .computed := by simp [isObject.category]
  exact isObject.shows_ ⟨r, isObject.known, fun computed => absurd computed plain⟩
    (.simplified_self isObject.known plain)

/-- A computed type that came to an object shows what the object has. -/
theorem Came.shows_ (came : s.Came e o r) (isObject : s.IsObject o properties r') :
    s.Shows e properties := by
  refine isObject.shows_ ⟨r, came.known, fun _ => by simp [came.found]⟩ ?_
  exact .simplified_of_found came.known came.computed came.found isObject.known
    (by simp [isObject.category])

end State

/-! ## One step -/

/-- What the arguments after the first say to a utility type. -/
inductive State.Chooses (s : State) : Alteration → List TypeId → Prop where
  | optional {rest : List TypeId} : Chooses s .optional rest
  | required {rest : List TypeId} : Chooses s .required rest
  | readonly {rest : List TypeId} : Chooses s .readonly rest
  | pick {k : TypeId} {keys : List String} {rest : List TypeId}
      (known : s.Remembers (fun ask => Structure.literalKeys? ask k) (some keys)) :
      Chooses s (.pick keys) (k :: rest)
  | without {k : TypeId} {keys : List String} {rest : List TypeId}
      (known : s.Remembers (fun ask => Structure.literalKeys? ask k) (some keys)) :
      Chooses s (.without keys) (k :: rest)

theorem State.Chooses.keeps {s later : State} {op : Alteration} {rest : List TypeId}
    (chosen : s.Chooses op rest) (kept : s.Preserves later) : later.Chooses op rest := by
  cases chosen with
  | optional => exact .optional
  | required => exact .required
  | readonly => exact .readonly
  | pick known => exact .pick (known.keeps kept)
  | without known => exact .without (known.keeps kept)

/-- A utility type that awaits its computation. -/
structure State.Applies (s : State) (op : Alteration) (t e : TypeId) (rest : List TypeId)
    (r : TypeRecord) : Prop extends s.Awaits e r where
  shape : r.shape = .utility op.name
  args : r.args = t :: rest
  chooses : s.Chooses op rest
  spells : ∀ a ∈ rest, s.Spells a

namespace Computed

variable {s : State} {op : Alteration} {rest : List TypeId} {properties : List Symbol}
  {rows : List Row}

/-- A property is copied with other modifiers. -/
theorem ensures_copy (op : Alteration) {p : Symbol} {row : Row} (isRow : s.IsRow p row) :
    Ensures (· = s) (fun ask => copy ask (op.alter p).isOptional (op.alter p).isReadonly p)
      fun p' left => s.Leaves [] left ∧
        left.IsRow p' { row with symbol := op.alter row.symbol } := by
  have told := isRow.remembers.now
  obtain ⟨symbol, member, isMember, filled⟩ := isRow
  simp only [copy, isMember]
  refine told.then_ (Ensures.ofRun ?_)
  rintro _ rfl
  refine ⟨_, _, fun _ => rfl, .pushSlot _ (some row.type), ?_, _, rfl, Array.getElem?_push_size⟩
  rw [symbol]
  cases op <;> rfl

/-- All properties are copied. -/
theorem ensures_copies (op : Alteration) (isRows : List.Forall₂ s.IsRow properties rows) :
    Ensures (· = s)
      (fun ask => properties.mapM fun p =>
        copy ask (op.alter p).isOptional (op.alter p).isReadonly p)
      fun found left => s.Leaves [] left ∧ List.Forall₂ left.IsRow found
        (rows.map fun row => { row with symbol := op.alter row.symbol }) := by
  induction properties generalizing s rows with
  | nil =>
      obtain rfl := List.forall₂_nil_left_iff.1 isRows
      exact .pure fun _ same => ⟨same ▸ .refl s, .nil⟩
  | cons p properties ih =>
      cases isRows with
      | cons isRow isRows =>
          simp only [List.mapM_cons]
          refine (ensures_copy op isRow).bind fun p' => .ofEach fun middle there => ?_
          obtain ⟨leaves, isRow'⟩ := there
          refine (ih (State.rows_keeps isRows leaves.toPreserves)).bind fun found => .pure ?_
          rintro left ⟨leaves', isRows'⟩
          exact ⟨leaves.then_ leaves', .cons (isRow'.keeps leaves'.toPreserves) isRows'⟩

/-- The properties that are kept are those of the rows that are kept. -/
theorem rows_filter (op : Alteration) (isRows : List.Forall₂ s.IsRow properties rows) :
    List.Forall₂ s.IsRow (properties.filter op.keeps)
      (rows.filter fun row => op.keeps row.symbol) := by
  induction isRows with
  | nil => exact .nil
  | @cons p row properties rows isRow _ ih =>
      have same : op.keeps row.symbol = op.keeps p := by
        rw [isRow.1]
        cases op <;> rfl
      rw [List.filter_cons, List.filter_cons, same]
      split
      · exact .cons isRow ih
      · exact ih

/-- An operation that changes modifiers copies all properties. -/
theorem changedProperties?_of_modifies (modifies : op.chooses = false) (ask : Ask)
    (args : List TypeId) (properties : List Symbol) :
    changedProperties? ask op.name args properties = some <$> properties.mapM fun p =>
      copy ask (op.alter p).isOptional (op.alter p).isReadonly p := by
  cases op with
  | optional => rfl
  | required => rfl
  | readonly => rfl
  | pick keys => cases modifies
  | without keys => cases modifies

theorem apply_of_modifies (modifies : op.chooses = false) (rows : List Row) :
    op.apply rows = rows.map fun row => { row with symbol := op.alter row.symbol } := by
  cases op <;> simp_all [Alteration.chooses, Alteration.apply, Alteration.keeps]

theorem apply_of_chooses (chooses : op.chooses = true) (rows : List Row) :
    op.apply rows = rows.filter fun row => op.keeps row.symbol := by
  cases op <;> simp_all [Alteration.chooses, Alteration.apply, Alteration.alter]

/-- An operation that chooses asks for the keys. -/
theorem ensures_chosen (chooses : op.chooses = true) (chosen : s.Chooses op rest) (t : TypeId)
    (properties : List Symbol) :
    Comes (· = s) (fun ask => changedProperties? ask op.name (t :: rest) properties)
      (some (properties.filter op.keeps)) := by
  cases chosen with
  | @pick k keys _ known =>
      have same (p : Symbol) : (keys.contains (p.name.getD "") == ("Pick" == "Pick")) =
          (Alteration.pick keys).keeps p := by simp [Alteration.keeps, Symbol.key]
      simp only [changedProperties?, Alteration.name]
      refine known.now.bind ?_
      simp only [same]
      exact .pure _
  | @without k keys _ known =>
      have same (p : Symbol) : (keys.contains (p.name.getD "") == ("Omit" == "Pick")) =
          (Alteration.without keys).keeps p := by simp [Alteration.keeps, Symbol.key]
      simp only [changedProperties?, Alteration.name]
      refine known.now.bind ?_
      simp only [same]
      exact .pure _
  | optional | required | readonly => cases chooses

/-- The properties of a utility type are those that the operation makes of the properties of its
argument. Those that are chosen are the same properties. -/
theorem ensures_changedProperties (chosen : s.Chooses op rest) (t : TypeId)
    (isRows : List.Forall₂ s.IsRow properties rows) :
    Ensures (· = s) (fun ask => changedProperties? ask op.name (t :: rest) properties)
      fun found left => ∃ made, found = some made ∧ s.Leaves [] left ∧
        List.Forall₂ left.IsRow made (op.apply rows) ∧
        (op.chooses = true → made = properties.filter op.keeps) := by
  cases chooses : op.chooses with
  | false =>
      simp only [changedProperties?_of_modifies chooses, map_eq_pure_bind]
      refine (ensures_copies op isRows).bind fun made => .pure ?_
      rintro left ⟨leaves, isRows⟩
      rw [apply_of_modifies chooses]
      exact ⟨made, rfl, leaves, isRows, by simp⟩
  | true =>
      refine (ensures_chosen chooses chosen t properties).consequence (fun _ => id) ?_
      rintro _ left ⟨rfl, rfl⟩
      rw [apply_of_chooses chooses]
      exact ⟨_, rfl, .refl left, rows_filter op isRows, fun _ => rfl⟩

/-- An object is made in place of a computed type. -/
theorem ensures_syntheticObject {e : TypeId} {r : TypeRecord} (known : s.records[e]? = some r)
    (unmade : s.Unmade e) (properties : List Symbol) (text : String) :
    Ensures (· = s) (fun _ => Check.syntheticObject e properties text) fun o left =>
      s.Leaves [e] left ∧ ∃ r', left.IsObject o properties r' := by
  have onward (later : State) (same : later = s) : s.Extends later := same ▸ .refl s
  simp only [Check.syntheticObject]
  refine (Comes.facts onward known).then_ (Ensures.ofRun ?_)
  rintro _ rfl
  refine ⟨_, _, fun _ => Check.run_intern_of_none unmade _, .push unmade rfl ?_, _,
    Array.getElem?_push_size, rfl, rfl⟩
  rintro other same
  cases same
  exact List.mem_singleton_self e

/-- One step of a utility type: with the properties of its argument at hand, an object is made of
what the operation makes of them. -/
theorem ensures_utility_object {e t : TypeId} {r : TypeRecord} {es : List TypeId}
    {holds : List Symbol → State → Prop}
    (applies : s.Applies op t e rest r) (apart : e ∉ es) (spells : s.Spells t)
    (inhabited : rows ≠ [])
    (stable : ∀ {properties : List Symbol} {s later : State}, s.Preserves later →
      holds properties s → holds properties later)
    (isRows : ∀ {properties : List Symbol} {s : State}, holds properties s →
      List.Forall₂ s.IsRow properties rows)
    (inner : Ensures (· = s.mark e .simplified) (fun ask => Structure.objectProperties? ask t)
      fun found inside => ∃ properties, found = some properties ∧
        (s.mark e .simplified).Leaves es inside ∧ holds properties inside) :
    Ensures (· = s.mark e .simplified) (fun ask => utility ask e op.name (t :: rest))
      fun found inside => ∃ o, found = some o ∧ (s.mark e .simplified).Leaves (e :: es) inside ∧
        ∃ properties made r', holds properties inside ∧ inside.IsObject o made r' ∧
          List.Forall₂ inside.IsRow made (op.apply rows) ∧
          (op.chooses = true → made = properties.filter op.keeps) := by
  have objects : Library.filteringUtilities.contains op.name = false := by cases op <;> rfl
  simp only [utility, Check.needFirst, pure_bind, objects, Bool.false_eq_true, if_false]
  refine inner.bind fun found => .ofEach fun inside here => ?_
  obtain ⟨properties, rfl, leaves, there⟩ := here
  have isRows := isRows there
  obtain ⟨p, others, rfl⟩ : ∃ p others, properties = p :: others := by
    cases isRows with
    | nil => exact absurd rfl inhabited
    | cons _ _ => exact ⟨_, _, rfl⟩
  have kept := (State.Leaves.mark s e _).toPreserves.trans leaves.toPreserves
  have chosen := applies.chooses.keeps kept
  refine (ensures_changedProperties chosen t isRows).bind fun found => .ofEach fun changed here => ?_
  obtain ⟨made, rfl, leaves', isRows', same⟩ := here
  have leaves := leaves.then_ leaves'
  have spelled : s.Spells e := by
    refine .utility applies.known applies.shape ?_
    rw [applies.args]
    exact List.forall_mem_cons.2 ⟨spells, applies.spells⟩
  have kept := (State.Leaves.mark s e .simplified).toPreserves.trans leaves.toPreserves
  simp only [map_eq_pure_bind]
  refine (spelled kept).bind fun text => .ofEach fun told onward => ?_
  have leaves := leaves.then_ onward
  obtain ⟨r', known, -⟩ := (kept.trans onward.toPreserves).records applies.known
  refine (ensures_syntheticObject known (leaves.unmade apart applies.unmade) made text).bind
    fun o => .pure ?_
  rintro left ⟨leaves'', r'', isObject⟩
  refine ⟨o, rfl, (leaves.trans leaves'').weaken (by simp [or_comm]), p :: others, made, r'', ?_,
    isObject, State.rows_keeps isRows' (onward.toPreserves.trans leaves''.toPreserves), same⟩
  exact stable ((leaves'.toPreserves.trans onward.toPreserves).trans leaves''.toPreserves) there

end Computed

namespace State

variable {s later : State} {op : Alteration} {t e : TypeId} {rest : List TypeId}
  {rows : List Row} {es : List TypeId} {r : TypeRecord}

/-- The properties of a type can be asked for in two ways, which both come to this. -/
def Reveals (s : State) (e : TypeId) (holds : List Symbol → State → Prop) : Prop :=
  (Ensures (· = s) (fun ask => Structure.objectProperties? ask e) fun found left =>
    ∃ properties, found = some properties ∧ holds properties left) ∧
  Ensures (· = s) (fun ask => ask.properties e) holds

theorem Shows.reveals {properties : List Symbol} (shows_ : s.Shows e properties) :
    s.Reveals e fun found left => found = properties ∧ left = s := by
  refine ⟨shows_.isObject.now.consequence (fun _ => id) ?_, shows_.properties.now⟩
  rintro _ left ⟨rfl, rfl⟩
  exact ⟨properties, rfl, rfl, rfl⟩

/-- What a type reveals can be stated more loosely. -/
theorem Reveals.consequence {holds holds' : List Symbol → State → Prop}
    (comes : s.Reveals e holds) (weaker : ∀ properties left, holds properties left →
      holds' properties left) : s.Reveals e holds' := by
  refine ⟨comes.1.consequence (fun _ => id) ?_, comes.2.consequence (fun _ => id) weaker⟩
  rintro _ left ⟨properties, rfl, there⟩
  exact ⟨properties, rfl, weaker properties left there⟩

/-- A type that comes to an object reveals what the object has. -/
theorem reveals_of_simplified {holds : List Symbol → State → Prop}
    (simplified : Ensures (· = s) (fun ask => ask.simplified e) fun found left =>
      ∃ o properties r, found = some o ∧ left.IsObject o properties r ∧ holds properties left) :
    s.Reveals e holds := by
  constructor
  · simp only [Structure.objectProperties?]
    refine simplified.bind fun found => .ofEach fun left here => ?_
    obtain ⟨o, properties, r, rfl, isObject, there⟩ := here
    refine (Remembers.category isObject.known).now.then_ ?_
    simp only [isObject.category, Category.isObjectShaped, if_true]
    refine (isObject.shows_self.properties.map some).now.consequence (fun _ => id) ?_
    rintro _ _ ⟨rfl, rfl⟩
    exact ⟨properties, rfl, there⟩
  · refine Ensures.asked ?_
    simp only [Answer.step, Structure.properties]
    refine simplified.bind fun found => .ofEach fun left here => ?_
    obtain ⟨o, properties, r, rfl, isObject, there⟩ := here
    have content : r.cache.get? .properties = some properties := isObject.found
    refine (Remembers.category isObject.known).now.then_ ?_
    simp only [isObject.category]
    refine (Remembers.load isObject.known content).now.then_ (.pure ?_)
    rintro _ rfl
    exact there

/-- When a utility type is looked at, its argument is looked at, and it shows what the operation
makes of the properties of its argument. -/
theorem Applies.ensures (applies : s.Applies op t e rest r) (holds : List Symbol → State → Prop)
    (apart : e ∉ es) (spells : s.Spells t) (inhabited : rows ≠ [])
    (stable : ∀ {properties : List Symbol} {s later : State}, s.Preserves later →
      holds properties s → holds properties later)
    (isRows : ∀ {properties : List Symbol} {s : State}, holds properties s →
      List.Forall₂ s.IsRow properties rows)
    (inner : Ensures (· = s.mark e .simplified) (fun ask => Structure.objectProperties? ask t)
      fun found inside => ∃ properties, found = some properties ∧
        (s.mark e .simplified).Leaves es inside ∧ holds properties inside) :
    s.Reveals e fun made left => ∃ properties, s.Leaves (e :: es) left ∧
      holds properties left ∧ left.Shows e made ∧ List.Forall₂ left.IsRow made (op.apply rows) ∧
      (op.chooses = true → made = properties.filter op.keeps) := by
  have found (ask : Ask) : Answer.loader? ask e r .simplified =
      some (Computed.utility ask e op.name (t :: rest)) := by
    simp only [Answer.loader?, applies.shape, applies.args]
  have simplified := applies.toPending.ensures_leaving found
    (fun o s => ∃ properties made r', holds properties s ∧ s.IsObject o made r' ∧
      List.Forall₂ s.IsRow made (op.apply rows) ∧
      (op.chooses = true → made = properties.filter op.keeps)) ?_ ?_
    (Computed.ensures_utility_object applies apart spells inhabited stable isRows inner)
  · refine reveals_of_simplified (simplified.consequence (fun _ => id) ?_)
    rintro _ left ⟨o, rfl, ⟨properties, made, r', there, isObject, isRows', same⟩, leaves, _, came⟩
    exact ⟨o, made, r', rfl, isObject, properties, leaves.weaken (by simp), there,
      came.shows_ isObject, isRows', same⟩
  · rintro o s later leaves ⟨properties, made, r', there, isObject, isRows', same⟩
    have kept := leaves.toPreserves
    obtain ⟨r'', isObject'⟩ := isObject.keeps kept
    exact ⟨properties, made, r'', stable kept there, isObject', rows_keeps isRows' kept, same⟩
  · rintro o s ⟨properties, made, r', -, isObject, -⟩
    exact ⟨r', isObject.known, by simp [isObject.category]⟩

end State

/-! ## Towers -/

/-- What a type will show once it is looked at, if it does not show it yet; with the types that
will have been computed then, and what they will show. -/
inductive State.Promises (s : State) : List (TypeId × List Row) → TypeId → List Row → Prop where
  | shown {t : TypeId} {rows : List Row} (shown : s.Shown t rows) (spells : s.Spells t) :
      Promises s [] t rows
  | utility {parts : List (TypeId × List Row)} {op : Alteration} {t e : TypeId}
      {rest : List TypeId} {r : TypeRecord} {rows : List Row} (inner : Promises s parts t rows)
      (applies : s.Applies op t e rest r) (apart : e ∉ parts.map Prod.fst)
      (inhabited : rows ≠ []) : Promises s ((e, op.apply rows) :: parts) e (op.apply rows)

namespace State

variable {s later : State} {op op' : Alteration} {t u e : TypeId} {rest rest' : List TypeId}
  {rows rows' : List Row} {parts parts' : List (TypeId × List Row)} {r r' : TypeRecord}
  {es : List TypeId}

theorem Chooses.unique (chosen : s.Chooses op rest) (again : s.Chooses op' rest)
    (same : op.name = op'.name) : op = op' := by
  cases chosen with
  | optional =>
      cases again with
      | optional => rfl
      | _ => simp [Alteration.name] at same
  | required =>
      cases again with
      | required => rfl
      | _ => simp [Alteration.name] at same
  | readonly =>
      cases again with
      | readonly => rfl
      | _ => simp [Alteration.name] at same
  | pick known =>
      cases again with
      | pick known' => rw [Option.some.inj (known.unique known')]
      | _ => simp [Alteration.name] at same
  | without known =>
      cases again with
      | without known' => rw [Option.some.inj (known.unique known')]
      | _ => simp [Alteration.name] at same

theorem Applies.leaves (applies : s.Applies op t e rest r) (leaves : s.Leaves es later)
    (apart : e ∉ es) : ∃ r', later.Applies op t e rest r' := by
  obtain ⟨r', awaits, keeps⟩ := leaves.awaits apart applies.toAwaits
  exact ⟨r', awaits, keeps.facts ▸ applies.shape, keeps.facts ▸ applies.args,
    applies.chooses.keeps leaves.toPreserves,
    fun a among => (applies.spells a among).keeps leaves.toPreserves⟩

namespace Promises

theorem spells (promises : s.Promises parts t rows) : s.Spells t := by
  induction promises with
  | shown _ spells => exact spells
  | utility _ applies _ _ ih =>
      refine .utility applies.known applies.shape ?_
      rw [applies.args]
      exact List.forall_mem_cons.2 ⟨ih, applies.spells⟩

theorem ofPart (promises : s.Promises parts t rows) :
    ∀ part ∈ parts, ∃ others, s.Promises others part.1 part.2 := by
  induction promises with
  | shown => simp
  | utility inner applies apart inhabited ih =>
      exact List.forall_mem_cons.2 ⟨⟨_, .utility inner applies apart inhabited⟩, ih⟩

theorem unique (promises : s.Promises parts t rows) (again : s.Promises parts' t rows') :
    rows = rows' := by
  induction promises generalizing parts' rows' with
  | shown shown _ =>
      cases again with
      | shown shown' _ => exact shown.unique shown'
      | utility _ applies _ _ =>
          obtain ⟨properties, shows_, -⟩ := shown
          exact absurd applies.toAwaits shows_.not_awaits
  | utility inner applies _ _ ih =>
      cases again with
      | shown shown _ =>
          obtain ⟨properties, shows_, -⟩ := shown
          exact absurd applies.toAwaits shows_.not_awaits
      | utility inner' applies' _ _ =>
          cases applies.known.symm.trans applies'.known
          cases applies.args.symm.trans applies'.args
          have names := applies.shape.symm.trans applies'.shape
          obtain rfl := applies.chooses.unique applies'.chooses (Shape.utility.inj names)
          rw [ih inner']

/-- What is not computed meanwhile is promised still. -/
theorem leaves (promises : s.Promises parts t rows) (leaves : s.Leaves es later)
    (apart : ∀ e ∈ parts.map Prod.fst, e ∉ es) : later.Promises parts t rows := by
  induction promises with
  | shown shown spells =>
      exact .shown (shown.keeps leaves.toPreserves) (spells.keeps leaves.toPreserves)
  | utility inner applies new inhabited ih =>
      obtain ⟨first, others⟩ := List.forall_mem_cons.1 apart
      obtain ⟨_, applies'⟩ := applies.leaves leaves first
      exact .utility (ih others) applies' new inhabited

/-- When a type is looked at, it shows what it has promised, and so does everything that had to
be computed. -/
theorem reveals (promises : s.Promises parts t rows) :
    s.Reveals t fun found left => s.Leaves (parts.map Prod.fst) left ∧
      left.Shows t found ∧ List.Forall₂ left.IsRow found rows ∧
      ∀ part ∈ parts, left.Shown part.1 part.2 := by
  induction parts generalizing s t rows with
  | nil =>
      cases promises with
      | shown shown _ =>
          obtain ⟨properties, shows_, isRows⟩ := shown
          refine shows_.reveals.consequence ?_
          rintro _ left ⟨rfl, rfl⟩
          exact ⟨.refl left, shows_, isRows, by simp⟩
  | cons part parts ih =>
      cases promises with
      | @utility _ op u _ _ _ lower inner applies apart inhabited =>
          have marked := Leaves.mark s t .simplified
          have below := inner.leaves marked fun e among same =>
            apart (List.mem_singleton.1 same ▸ among)
          refine (applies.ensures (fun properties left => left.Shows u properties ∧
            List.Forall₂ left.IsRow properties lower ∧ ∀ part ∈ parts, left.Shown part.1 part.2)
            apart inner.spells inhabited ?_ (fun there => there.2.1) (ih below).1).consequence ?_
          · rintro properties s later kept ⟨shows_, isRows, shown⟩
            exact ⟨shows_.keeps kept, rows_keeps isRows kept,
              fun part among => (shown part among).keeps kept⟩
          · rintro made left ⟨properties, leaves, ⟨-, -, shown⟩, shows_, isRows, -⟩
            exact ⟨leaves, shows_, isRows,
              List.forall_mem_cons.2 ⟨⟨made, shows_, isRows⟩, shown⟩⟩

/-- After a type has been looked at, others promise what they promised before. -/
theorem advances (promises : s.Promises parts t rows)
    (leaves : s.Leaves (parts.map Prod.fst) later)
    (shown : ∀ part ∈ parts, later.Shown part.1 part.2)
    (others : s.Promises parts' u rows') :
    ∃ fewer, later.Promises fewer u rows' ∧
      ∀ e ∈ fewer.map Prod.fst, e ∈ parts'.map Prod.fst := by
  induction others with
  | shown shown spells =>
      exact ⟨[], .shown (shown.keeps leaves.toPreserves) (spells.keeps leaves.toPreserves), by simp⟩
  | @utility _ op _ e _ _ lower inner applies apart inhabited ih =>
      by_cases among : e ∈ parts.map Prod.fst
      · obtain ⟨part, listed, rfl⟩ := List.mem_map.1 among
        obtain ⟨_, again⟩ := promises.ofPart part listed
        have this := Promises.utility inner applies apart inhabited
        refine ⟨[], .shown ?_ (this.spells.keeps leaves.toPreserves), by simp⟩
        exact again.unique this ▸ shown part listed
      · obtain ⟨fewer, below, within⟩ := ih
        obtain ⟨_, applies'⟩ := applies.leaves leaves among
        refine ⟨_, .utility below applies' (mt (within e) apart) inhabited, ?_⟩
        simp only [List.map_cons, List.mem_cons]
        exact fun e => Or.imp_right (within e)

end Promises

/-- Utility types one over the other, with what they do; none of them has been looked at. Below the
lowest there is a type with the given rows, and each is applied to a type that has a property. -/
inductive Tower (s : State) (t : TypeId) (rows : List Row) :
    List Alteration → List TypeId → TypeId → Prop where
  | base : Tower s t rows [] [] t
  | atop {ops : List Alteration} {es : List TypeId} {op : Alteration} {u e : TypeId}
      {rest : List TypeId} {r : TypeRecord} (lower : Tower s t rows ops es u)
      (applies : s.Applies op u e rest r) (apart : e ∉ es)
      (inhabited : Alteration.applyAll ops rows ≠ []) : Tower s t rows (op :: ops) (e :: es) e

/-- A tower keeps what it promises: its rows are what the operations make of those at its foot. -/
theorem Tower.promises {ops : List Alteration} (tower : s.Tower t rows ops es e)
    (shown : s.Shown t rows) (spells : s.Spells t) :
    ∃ parts, s.Promises parts e (Alteration.applyAll ops rows) ∧ parts.map Prod.fst = es := by
  induction tower with
  | base => exact ⟨[], .shown shown spells, rfl⟩
  | atop lower applies apart inhabited ih =>
      obtain ⟨parts, inner, rfl⟩ := ih
      exact ⟨_, .utility inner applies apart inhabited, rfl⟩

end State

/-! ## Laws -/

namespace Alteration

variable {op choice : Alteration} {ops ops' : List Alteration} {rows : List Row}

/-- Operations one after the other choose what both choose, and alter what both alter. -/
theorem apply_apply (op other : Alteration) (rows : List Row) :
    op.apply (other.apply rows) =
      (rows.filter fun row => op.keeps row.symbol && other.keeps row.symbol).map fun row =>
        { row with symbol := op.alter (other.alter row.symbol) } := by
  simp [apply, List.filter_map, Function.comp_def, List.filter_filter]

/-- Operations commute if what they do to one property commutes. -/
theorem apply_comm (op other : Alteration)
    (alters : ∀ symbol, op.alter (other.alter symbol) = other.alter (op.alter symbol))
    (rows : List Row) : op.apply (other.apply rows) = other.apply (op.apply rows) := by
  rw [apply_apply, apply_apply]
  simp only [alters, Bool.and_comm]

theorem alter_of_chooses (chooses : choice.chooses = true) (symbol : Symbol) :
    choice.alter symbol = symbol := by
  cases choice with
  | pick | without => rfl
  | optional | required | readonly => cases chooses

theorem alter_alter (op : Alteration) (symbol : Symbol) :
    op.alter (op.alter symbol) = op.alter symbol := by
  cases op <;> rfl

theorem apply_idem (op : Alteration) (rows : List Row) :
    op.apply (op.apply rows) = op.apply rows := by
  rw [apply_apply]
  simp only [alter_alter, Bool.and_self]
  rfl

/-- Lists of operations that do the same. -/
inductive Same : List Alteration → List Alteration → Prop where
  | refl (ops : List Alteration) : Same ops ops
  | symm {ops ops' : List Alteration} (same : Same ops ops') : Same ops' ops
  | trans {ops middle ops' : List Alteration} (first : Same ops middle)
      (second : Same middle ops') : Same ops ops'
  | cons (op : Alteration) {ops ops' : List Alteration} (same : Same ops ops') :
      Same (op :: ops) (op :: ops')
  | readonly_optional (ops : List Alteration) :
      Same (readonly :: optional :: ops) (optional :: readonly :: ops)
  | readonly_required (ops : List Alteration) :
      Same (readonly :: required :: ops) (required :: readonly :: ops)
  | required_optional (ops : List Alteration) :
      Same (required :: optional :: ops) (required :: ops)
  | twice (op : Alteration) (ops : List Alteration) : Same (op :: op :: ops) (op :: ops)
  | chosen {op choice : Alteration} (modifies : op.chooses = false)
      (chooses : choice.chooses = true) (ops : List Alteration) :
      Same (op :: choice :: ops) (choice :: op :: ops)

theorem Same.applyAll (same : Same ops ops') (rows : List Row) :
    applyAll ops rows = applyAll ops' rows := by
  induction same with
  | refl => rfl
  | symm _ ih => exact ih.symm
  | trans _ _ ih ih' => exact ih.trans ih'
  | cons op _ ih => rw [applyAll_cons, applyAll_cons, ih]
  | readonly_optional => exact apply_comm readonly optional (fun _ => rfl) _
  | readonly_required => exact apply_comm readonly required (fun _ => rfl) _
  | required_optional =>
      simp only [applyAll_cons, apply_apply]
      rfl
  | twice op => exact apply_idem op _
  | @chosen op choice _ chooses =>
      exact apply_comm op choice (fun _ => by simp only [alter_of_chooses chooses]) _

end Alteration

/-- Two properties are the same but for where their types are kept: name, declaration and
modifiers, and the type that each of them has. -/
def State.SameProperty (s : State) (p p' : Symbol) : Prop :=
  ∃ row, s.IsRow p row ∧ s.IsRow p' row

/-- Properties of the same rows are the same, one by one. -/
theorem State.sameProperties {s : State} {properties others : List Symbol} {rows : List Row}
    (isRows : List.Forall₂ s.IsRow properties rows)
    (isRows' : List.Forall₂ s.IsRow others rows) :
    List.Forall₂ s.SameProperty properties others := by
  induction isRows generalizing others with
  | nil => rw [List.forall₂_nil_right_iff.1 isRows']; exact .nil
  | cons isRow _ ih =>
      cases isRows' with
      | cons isRow' rest => exact .cons ⟨_, isRow, isRow'⟩ (ih rest)

/-- The properties that two types appear to have, asked for one after the other. -/
def Ask.bothProperties (ask : Ask) (t u : TypeId) : CheckM (List Symbol × List Symbol) := do
  let first ← ask.properties t
  let second ← ask.properties u
  return (first, second)

namespace State

variable {s : State} {t e e' : TypeId} {rows rows' : List Row}
  {parts parts' : List (TypeId × List Row)}

/-- A utility type that chooses among properties that have been found has those very
properties. -/
theorem Applies.ensures_found {op : Alteration} {rest : List TypeId} {r : TypeRecord}
    {properties : List Symbol} (applies : s.Applies op t e rest r)
    (shows_ : s.Shows t properties) (isRows : List.Forall₂ s.IsRow properties rows)
    (spells : s.Spells t) (inhabited : rows ≠ []) :
    s.Reveals e fun made left => s.Leaves [e] left ∧
      (op.chooses = true → made = properties.filter op.keeps) := by
  have marked := Leaves.mark s e .simplified
  have inner := (shows_.keeps marked.toPreserves).isObject.now
  refine (applies.ensures (fun found left => found = properties ∧
    List.Forall₂ left.IsRow found rows) List.not_mem_nil spells inhabited ?_ And.right
    (inner.consequence (fun _ => id) ?_)).consequence ?_
  · rintro found s later kept ⟨same, isRows'⟩
    exact ⟨same, rows_keeps isRows' kept⟩
  · rintro _ inside ⟨rfl, rfl⟩
    exact ⟨properties, rfl, .refl _, rfl, rows_keeps isRows marked.toPreserves⟩
  · rintro made left ⟨_, leaves, ⟨rfl, -⟩, -, -, same⟩
    exact ⟨leaves, same⟩

/-- Two types that are looked at one after the other both show what they have promised. -/
theorem Promises.ensures_both (promises : s.Promises parts e rows)
    (others : s.Promises parts' e' rows') :
    Ensures (· = s) (fun ask => ask.bothProperties e e') fun found left =>
      List.Forall₂ left.IsRow found.1 rows ∧ List.Forall₂ left.IsRow found.2 rows' := by
  simp only [Ask.bothProperties]
  refine promises.reveals.2.bind fun first => .ofEach fun middle here => ?_
  obtain ⟨leaves, -, isRows, shown⟩ := here
  obtain ⟨fewer, others', -⟩ := promises.advances leaves shown others
  refine others'.reveals.2.bind fun second => .pure ?_
  rintro left ⟨leaves', -, isRows', -⟩
  exact ⟨rows_keeps isRows leaves'.toPreserves, isRows'⟩

end State

/-- Let the properties of a type with any shape of an object have been found, and their types, and
let there be at least one. Utility types for objects over it, none of which has been looked at,
show what their operations make of its rows, in its order: a property that is kept has its name,
its declaration and its type, and apart from the one modifier that an operation sets all modifiers
(`Alteration.apply`). So utility types whose operations do the same show the same properties, names,
modifiers and types alike: changes of different modifiers commute, the later change of one modifier
counts, to do the same twice is to do it once, and changes commute with choices as long as something
is chosen (`Alteration.Same`). `Pick` and `Omit` have the very properties of the type: those whose
names are among the keys, and those whose names are not. -/
theorem object_utilities {s : State} {t : TypeId} {properties : List Symbol} {rows : List Row}
    (shows_ : s.Shows t properties) (isRows : List.Forall₂ s.IsRow properties rows)
    (spells : s.Spells t) (inhabited : properties ≠ []) :
    (∀ {ops ops' : List Alteration} {es es' : List TypeId} {e e' : TypeId},
      s.Tower t rows ops es e → s.Tower t rows ops' es' e' →
      Ensures (· = s) (fun ask => ask.bothProperties e e') fun found left =>
        List.Forall₂ left.IsRow found.1 (Alteration.applyAll ops rows) ∧
        List.Forall₂ left.IsRow found.2 (Alteration.applyAll ops' rows) ∧
        (Alteration.Same ops ops' → List.Forall₂ left.SameProperty found.1 found.2)) ∧
    ∀ {keys : List String} {e e' : TypeId} {rest rest' : List TypeId} {r r' : TypeRecord},
      s.Applies (.pick keys) t e rest r → s.Applies (.without keys) t e' rest' r' →
      Ensures (· = s) (fun ask => ask.bothProperties e e') fun found _ =>
        found.1 = properties.filter (fun p => keys.contains p.key) ∧
        found.2 = properties.filter fun p => !keys.contains p.key := by
  have shown : s.Shown t rows := ⟨properties, shows_, isRows⟩
  constructor
  · intro ops ops' es es' e e' tower tower'
    obtain ⟨parts, promises, -⟩ := tower.promises shown spells
    obtain ⟨parts', promises', -⟩ := tower'.promises shown spells
    refine (promises.ensures_both promises').consequence (fun _ => id) ?_
    rintro found left ⟨first, second⟩
    exact ⟨first, second, fun same => State.sameProperties first (same.applyAll rows ▸ second)⟩
  · intro keys e e' rest rest' r r' picks drops
    have inhabited : rows ≠ [] := by
      rintro rfl
      exact inhabited (List.forall₂_nil_right_iff.1 isRows)
    have different : e' ≠ e := by
      rintro rfl
      cases picks.known.symm.trans drops.known
      have same := Shape.utility.inj (picks.shape.symm.trans drops.shape)
      simp [Alteration.name] at same
    simp only [Ask.bothProperties]
    refine (picks.ensures_found shows_ isRows spells inhabited).2.bind fun first =>
      .ofEach fun middle here => ?_
    obtain ⟨leaves, chosen⟩ := here
    obtain ⟨_, drops'⟩ := drops.leaves leaves (by simpa using different)
    have kept := leaves.toPreserves
    refine (drops'.ensures_found (shows_.keeps kept) (State.rows_keeps isRows kept)
      (spells.keeps kept) inhabited).2.bind fun second => .pure ?_
    rintro left ⟨-, chosen'⟩
    exact ⟨chosen rfl, chosen' rfl⟩

/-! ### Two properties

`Readonly<Partial<A>>` beside `Partial<Readonly<A>>`, and `Pick<A, 'x'>` beside `Omit<A, 'x'>`, where
`A` is `{ x: number; y?: string }`. -/

namespace TwoProperties

def x : Symbol :=
  { name := some "x", kind := some .property, member := some ⟨0, default, []⟩ }

def y : Symbol :=
  { name := some "y", isOptional := true, kind := some .property, member := some ⟨1, default, []⟩ }

def rows : List Row :=
  [⟨{ x with member := none }, 0⟩, ⟨{ y with member := none }, 1⟩]

def applied (name : String) (args : List TypeId) : TypeRecord :=
  { category := .computed, shape := .utility name, args }

/-- The types of the properties, the object, a key and the utility types. -/
def state : State :=
  { records := #[{ category := .primitive, primitive := some .number, label := some "number" },
      { category := .primitive, primitive := some .string, label := some "string" },
      { category := .object, label := some "A", cache := { properties := some [x, y] } },
      { category := .literal, primitive := some .string, value := .text "x", label := some "'x'" },
      applied "Partial" [2], applied "Readonly" [4], applied "Readonly" [2],
      applied "Partial" [6], applied "Pick" [2, 3], applied "Omit" [2, 3]]
    slots := #[some 0, some 1] }

theorem shows_object : state.Shows 2 [x, y] :=
  State.IsObject.shows_self ⟨rfl, rfl, rfl⟩

theorem isRows : List.Forall₂ state.IsRow [x, y] rows :=
  .cons ⟨rfl, _, rfl, rfl⟩ (.cons ⟨rfl, _, rfl, rfl⟩ .nil)

theorem spells_object : state.Spells 2 := .ofLabel rfl rfl

theorem unmade (e : TypeId) : state.Unmade e := by simp [State.Unmade, state]

theorem pending {e : TypeId} {name : String} {args : List TypeId}
    (known : state.records[e]? = some (applied name args)) :
    state.Awaits e (applied name args) :=
  ⟨⟨known, rfl, rfl, List.not_mem_nil⟩, unmade e⟩

theorem known_key :
    state.Remembers (fun ask => Structure.literalKeys? ask 3) (some ["x"]) :=
  .literalKeys_single ⟨_, rfl, rfl, .inl rfl, rfl⟩

theorem spells_key : ∀ a ∈ [3], state.Spells a :=
  List.forall_mem_singleton.2 (.ofLabel rfl rfl)

theorem pick : state.Applies (.pick ["x"]) 2 8 [3] (applied "Pick" [2, 3]) :=
  ⟨pending rfl, rfl, rfl, .pick known_key, spells_key⟩

theorem without : state.Applies (.without ["x"]) 2 9 [3] (applied "Omit" [2, 3]) :=
  ⟨pending rfl, rfl, rfl, .without known_key, spells_key⟩

theorem readonly_optional : state.Tower 2 rows [.readonly, .optional] [5, 4] 5 := by
  have lower : state.Tower 2 rows [.optional] [4] 4 :=
    .atop .base ⟨pending rfl, rfl, rfl, .optional, by simp⟩ (by simp) (by simp [rows])
  exact .atop lower ⟨pending rfl, rfl, rfl, .readonly, by simp⟩ (by simp)
    (by simp [rows, Alteration.apply, Alteration.keeps])

theorem optional_readonly : state.Tower 2 rows [.optional, .readonly] [7, 6] 7 := by
  have lower : state.Tower 2 rows [.readonly] [6] 6 :=
    .atop .base ⟨pending rfl, rfl, rfl, .readonly, by simp⟩ (by simp) (by simp [rows])
  exact .atop lower ⟨pending rfl, rfl, rfl, .optional, by simp⟩ (by simp)
    (by simp [rows, Alteration.apply, Alteration.keeps])

end TwoProperties

open TwoProperties in
/-- The changes commute, and the choices have one property each. -/
theorem object_utilities_twoProperties :
    (∃ depth found left, List.Forall₂ left.SameProperty found.1 found.2 ∧
      List.Forall₂ left.IsRow found.1 (rows.map fun row =>
        { row with symbol := { row.symbol with isOptional := true, isReadonly := true } }) ∧
      ∀ limit, depth ≤ limit →
        ((answer limit).bothProperties 5 7).run.run state = (.ok found, left)) ∧
    ∃ depth left, ∀ limit, depth ≤ limit →
      ((answer limit).bothProperties 8 9).run.run state = (.ok ([x], [y]), left) := by
  obtain ⟨towers, choices⟩ := object_utilities shows_object isRows spells_object (by simp)
  constructor
  · obtain ⟨depth, found, left, ⟨first, -, same⟩, run⟩ :=
      (towers readonly_optional optional_readonly).exists_run rfl
    exact ⟨depth, found, left, same (.readonly_optional []), first, run⟩
  · obtain ⟨depth, found, left, ⟨first, second⟩, run⟩ := (choices pick without).exists_run rfl
    have chosen : found = ([x], [y]) := Prod.ext first second
    exact ⟨depth, left, chosen ▸ run⟩

end TypeGloss
