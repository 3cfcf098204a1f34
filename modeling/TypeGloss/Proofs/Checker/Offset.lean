/-
# TypeGloss.Proofs.Checker.Offset — the same data under other identities

Types, slots and frames are known by numbers that are given out in order. A checker that has
been through more gives out greater numbers for the same things. An `Offset` says how much
greater, and how all data is read over from the one numbering to the other: whatever has a
type, a slot or a frame in it has another one, and everything else is the same.

The first frame is the one in which no type parameter is in view. Every checker has it, so
it keeps its number.

Distinct keys stay distinct (`key_injective`), so nothing is found under the other numbers
that was not there under the first. The key of an environment is sorted by names, not by
numbers, so it can be read over before or after it is sorted (`env_key`).
-/
import TypeGloss.Checker.Store
import TypeGloss.Proofs.Entries

namespace TypeGloss

set_option autoImplicit false

/-- By how much the numbers of types, slots and frames are greater. -/
structure Offset where
  types : Nat
  slots : Nat
  frames : Nat

namespace Offset

variable (o : Offset)

/-! ## Numbers -/

def type (t : TypeId) : TypeId := t + o.types

def slot (n : Nat) : Nat := n + o.slots

/-- The first frame is common to all. -/
def frame : Nat → Nat
  | 0 => 0
  | n + 1 => n + 1 + o.frames

@[simp] theorem type_inj {t u : TypeId} : o.type t = o.type u ↔ t = u := by
  simp [type]

theorem type_injective : Function.Injective o.type :=
  fun _ _ same => o.type_inj.1 same

@[simp] theorem slot_inj {m n : Nat} : o.slot m = o.slot n ↔ m = n := by
  simp [slot]

@[simp] theorem slot_lt {m n : Nat} : o.slot m < o.slot n ↔ m < n := by
  simp [slot]

@[simp] theorem frame_zero : o.frame 0 = 0 := rfl

theorem frame_of_ne {n : Nat} (ne : n ≠ 0) : o.frame n = n + o.frames := by
  cases n with
  | zero => exact absurd rfl ne
  | succ n => rfl

@[simp] theorem frame_inj {m n : Nat} : o.frame m = o.frame n ↔ m = n := by
  cases m <;> cases n <;> simp only [frame] <;> omega

/-! ## Environments and places -/

def env (bound : Env) : Env := Entries.mapEntries o.type bound

@[simp] theorem env_nil : o.env [] = [] := rfl

@[simp] theorem isEmpty_env (bound : Env) : (o.env bound).isEmpty = bound.isEmpty :=
  Entries.isEmpty_mapEntries o.type bound

@[simp] theorem find?_env (name : String) (bound : Env) :
    Entries.find? name (o.env bound) = (Entries.find? name bound).map o.type :=
  Entries.find?_mapEntries o.type name bound

@[simp] theorem has_env (name : String) (bound : Env) :
    Entries.has name (o.env bound) = Entries.has name bound :=
  Entries.has_mapEntries o.type name bound

@[simp] theorem env_put (name : String) (t : TypeId) (bound : Env) :
    o.env (Entries.put name t bound) = Entries.put name (o.type t) (o.env bound) :=
  Entries.mapEntries_put o.type name t bound

@[simp] theorem env_erase (name : String) (bound : Env) :
    o.env (Entries.erase name bound) = Entries.erase name (o.env bound) :=
  Entries.mapEntries_erase o.type name bound

theorem env_injective : Function.Injective o.env :=
  Entries.mapEntries_injective o.type_injective

/-- Sorting looks at names alone. -/
@[simp] theorem env_key (bound : Env) : Env.key (o.env bound) = o.env (Env.key bound) := by
  unfold Env.key env Entries.mapEntries
  symm
  apply List.map_mergeSort
  intros
  rfl

def inferred (found : Inferred) : Inferred := Entries.mapEntries (Option.map o.type) found

@[simp] theorem inferred_nil : o.inferred [] = [] := rfl

@[simp] theorem inferred_put (name : String) (t : Option TypeId) (found : Inferred) :
    o.inferred (Entries.put name t found) = Entries.put name (t.map o.type) (o.inferred found) :=
  Entries.mapEntries_put (Option.map o.type) name t found

@[simp] theorem blanks_inferred (found : Inferred) : (o.inferred found).blanks = found.blanks := by
  simp [Inferred.blanks, inferred, Entries.mapEntries, List.filter_map, Entries.names,
    Function.comp_def]

@[simp] theorem env_above (found : Inferred) (bound : Env) :
    o.env (found.above bound) = (o.inferred found).above (o.env bound) := by
  induction found generalizing bound with
  | nil => rfl
  | cons item rest ih =>
      obtain ⟨name, _ | t⟩ := item
      · exact (ih _).trans (congrArg (Inferred.above (o.inferred rest)) (o.env_erase name bound))
      · exact (ih _).trans (congrArg (Inferred.above (o.inferred rest)) (o.env_put name t bound))

def place (p : Place) : Place :=
  { p with env := o.env p.env, frame := o.frame p.frame }

@[simp] theorem place_source (p : Place) : (o.place p).source = p.source := rfl

@[simp] theorem place_env (p : Place) : (o.place p).env = o.env p.env := rfl

@[simp] theorem place_blanks (p : Place) : (o.place p).blanks = p.blanks := rfl

@[simp] theorem place_frame (p : Place) : (o.place p).frame = o.frame p.frame := rfl

@[simp] theorem place_top (source : Source) : o.place (.top source) = .top source := rfl

@[simp] theorem orTop_place (p : Place) : (o.place p).orTop = o.place p.orTop := by
  simp only [Place.orTop, place_env, place_blanks, isEmpty_env]
  split <;> rfl

/-! ## Symbols and signatures -/

def member (m : Member) : Member :=
  { m with slot := o.slot m.slot, place := o.place m.place }

def symbol (symbol : Symbol) : Symbol :=
  { symbol with member := symbol.member.map o.member }

@[simp] theorem symbol_name (symbol : Symbol) : (o.symbol symbol).name = symbol.name := rfl

@[simp] theorem symbol_declaration (symbol : Symbol) :
    (o.symbol symbol).declaration = symbol.declaration := rfl

@[simp] theorem symbol_kind (symbol : Symbol) : (o.symbol symbol).kind = symbol.kind := rfl

@[simp] theorem symbol_isOptional (symbol : Symbol) :
    (o.symbol symbol).isOptional = symbol.isOptional := rfl

@[simp] theorem symbol_isReadonly (symbol : Symbol) :
    (o.symbol symbol).isReadonly = symbol.isReadonly := rfl

@[simp] theorem symbol_isStatic (symbol : Symbol) :
    (o.symbol symbol).isStatic = symbol.isStatic := rfl

@[simp] theorem symbol_isRest (symbol : Symbol) : (o.symbol symbol).isRest = symbol.isRest := rfl

@[simp] theorem symbol_visibility (symbol : Symbol) :
    (o.symbol symbol).visibility = symbol.visibility := rfl

@[simp] theorem symbol_member (symbol : Symbol) :
    (o.symbol symbol).member = symbol.member.map o.member := rfl

def call (signature : CallSignature) : CallSignature :=
  { signature with
    parameters := signature.parameters.map o.symbol, returnType := o.type signature.returnType }

@[simp] theorem call_parameters (signature : CallSignature) :
    (o.call signature).parameters = signature.parameters.map o.symbol := rfl

def item (element : TupleItem) : TupleItem :=
  { element with type := o.type element.type }

def index (entry : IndexEntry) : IndexEntry :=
  { entry with keyType := o.type entry.keyType, valueType := o.type entry.valueType }

/-! ## Aliases and keys -/

def ref (via : AliasRef) : AliasRef :=
  { via with args := via.args.map o.type }

def aliasKey (key : AliasKey) : AliasKey :=
  { key with args := key.args.map o.type }

@[simp] theorem key_ref (via : AliasRef) : (o.ref via).key = o.aliasKey via.key := rfl

theorem map_key_ref (via : Option AliasRef) :
    (via.map o.ref).map AliasRef.key = (via.map AliasRef.key).map o.aliasKey := by
  cases via <;> rfl

theorem aliasKey_injective : Function.Injective o.aliasKey := by
  intro key other same
  obtain ⟨path, start, args⟩ := key
  simp only [aliasKey, AliasKey.mk.injEq] at same
  obtain ⟨rfl, rfl, sameArgs⟩ := same
  rw [List.map_injective_iff.2 o.type_injective sameArgs]

@[simp] theorem symbol_ofType (via : Option AliasRef) (node : Cursor) (path : String) :
    o.symbol (.ofType via node path) = .ofType (via.map o.ref) node path := by
  cases via <;> rfl

def key : Key → Key
  | .primitive p => .primitive p
  | .literal p value => .literal p value
  | .array element readonly => .array (o.type element) readonly
  | .generic name file args => .generic name file (args.map o.type)
  | .named text file => .named text file
  | .stuck computed => .stuck (o.type computed)
  | .typeParameter path start => .typeParameter path start
  | .union members => .union (members.map o.type)
  | .node path start stop kind bound via reading =>
      .node path start stop kind (o.env bound) (via.map o.aliasKey) reading
  | .utility name args via => .utility name (args.map o.type) (via.map o.aliasKey)
  | .declared path start args => .declared path start (args.map o.type)
  | .enumMember enum name => .enumMember (o.type enum) name
  | .function path start bound => .function path start (o.env bound)
  | .simplified computed => .simplified (o.type computed)

@[simp] theorem key_ofNode (node : Cursor) (p : Place) (via : Option AliasRef)
    (reading : Reading) :
    o.key (.ofNode node p via reading) = .ofNode node (o.place p) (via.map o.ref) reading := by
  simp only [Key.ofNode, key, place_source, place_env, env_key, map_key_ref]

/-- Two keys that are one under the other numbers are one. -/
theorem key_injective : Function.Injective o.key := by
  have types : Function.Injective (List.map o.type) := List.map_injective_iff.2 o.type_injective
  have vias : Function.Injective (Option.map o.aliasKey) :=
    Option.map_injective o.aliasKey_injective
  intro key other same
  cases key <;> cases other <;>
    simp only [Offset.key, reduceCtorEq, Key.primitive.injEq, Key.literal.injEq, Key.array.injEq,
      Key.generic.injEq, Key.named.injEq, Key.stuck.injEq, Key.typeParameter.injEq,
      Key.union.injEq, Key.node.injEq, Key.utility.injEq, Key.declared.injEq,
      Key.enumMember.injEq, Key.function.injEq, Key.simplified.injEq, type_inj, types.eq_iff,
      vias.eq_iff, o.env_injective.eq_iff] at same ⊢ <;>
    exact same

/-! ## Types -/

def content : (part : Part) → part.Content → part.Content
  | .text, text => text
  | .members, members => members.map o.type
  | .element, element => o.type element
  | .elements, elements => elements.map o.item
  | .properties, properties => properties.map o.symbol
  | .indexes, indexes => indexes.map o.index
  | .calls, calls => calls.map o.call
  | .constructs, constructs => constructs.map o.call
  | .classMembers, members => members.map o.symbol
  | .enumMembers, members => members
  | .simplified, simplified => simplified.map o.type

def cache (known : Cache) : Cache where
  text := known.text
  members := known.members.map (o.content .members)
  element := known.element.map (o.content .element)
  elements := known.elements.map (o.content .elements)
  properties := known.properties.map (o.content .properties)
  indexes := known.indexes.map (o.content .indexes)
  calls := known.calls.map (o.content .calls)
  constructs := known.constructs.map (o.content .constructs)
  classMembers := known.classMembers.map (o.content .classMembers)
  enumMembers := known.enumMembers
  simplified := known.simplified.map (o.content .simplified)

@[simp] theorem get?_cache (known : Cache) (part : Part) :
    (o.cache known).get? part = (known.get? part).map (o.content part) := by
  cases part <;> simp only [cache, Cache.get?] <;> first
    | rfl
    | exact Option.map_id'.symm

@[simp] theorem set_cache (known : Cache) (part : Part) (found : part.Content) :
    (o.cache known).set part (o.content part found) = o.cache (known.set part found) := by
  cases part <;> rfl

theorem cache_members (known : Cache) :
    (o.cache known).members.getD [] = (known.members.getD []).map o.type := by
  cases shown : known.members <;> simp [cache, shown, content]

theorem cache_elements (known : Cache) :
    (o.cache known).elements.getD [] = (known.elements.getD []).map o.item := by
  cases shown : known.elements <;> simp [cache, shown, content]

def facts (r : TypeFacts) : TypeFacts :=
  { r with
    place := r.place.map o.place, via := r.via.map o.ref, args := r.args.map o.type,
    symbol := r.symbol.map o.symbol }

@[simp] theorem facts_category (r : TypeFacts) : (o.facts r).category = r.category := rfl

@[simp] theorem facts_name (r : TypeFacts) : (o.facts r).name = r.name := rfl

@[simp] theorem facts_args (r : TypeFacts) : (o.facts r).args = r.args.map o.type := rfl

@[simp] theorem facts_primitive (r : TypeFacts) : (o.facts r).primitive = r.primitive := rfl

@[simp] theorem facts_value (r : TypeFacts) : (o.facts r).value = r.value := rfl

def record (r : TypeRecord) : TypeRecord :=
  { o.facts r.toTypeFacts with label := r.label, cache := o.cache r.cache, loading := r.loading }

@[simp] theorem record_facts (r : TypeRecord) :
    (o.record r).toTypeFacts = o.facts r.toTypeFacts := rfl

@[simp] theorem record_shape (r : TypeRecord) : (o.record r).shape = r.shape := rfl

@[simp] theorem record_label (r : TypeRecord) : (o.record r).label = r.label := rfl

@[simp] theorem record_cache (r : TypeRecord) : (o.record r).cache = o.cache r.cache := rfl

@[simp] theorem record_loading (r : TypeRecord) : (o.record r).loading = r.loading := rfl

/-! ## No offset -/

/-- The offset at which all data is the same. -/
def zero : Offset := ⟨0, 0, 0⟩

theorem zero_type : zero.type = id := rfl

theorem zero_slot : zero.slot = id := rfl

theorem zero_frame : zero.frame = id := by
  funext n
  cases n <;> rfl

theorem zero_env : zero.env = id :=
  funext (Entries.mapEntries_id ·)

theorem zero_place : zero.place = id := by
  funext p
  simp only [place, zero_env, zero_frame, id]

theorem zero_member : zero.member = id := by
  funext m
  simp only [member, zero_slot, zero_place, id]

theorem zero_symbol : zero.symbol = id := by
  funext s
  simp only [symbol, zero_member, Option.map_id_fun, id]

theorem zero_ref : zero.ref = id := by
  funext via
  simp only [ref, zero_type, List.map_id_fun, id]

theorem zero_aliasKey : zero.aliasKey = id := by
  funext key
  simp only [aliasKey, zero_type, List.map_id_fun, id]

theorem zero_key : zero.key = id := by
  funext key
  cases key <;>
    simp only [Offset.key, zero_type, zero_env, zero_aliasKey, List.map_id_fun,
      Option.map_id_fun, id]

theorem zero_call : zero.call = id := by
  funext signature
  simp only [call, zero_symbol, zero_type, List.map_id_fun, id]

theorem zero_content (part : Part) : zero.content part = id := by
  funext found
  cases part <;>
    simp only [content, zero_type, zero_symbol, zero_call, List.map_id_fun, Option.map_id_fun,
      id] <;>
    exact List.map_id found

theorem zero_cache : zero.cache = id := by
  funext known
  simp only [cache, zero_content, Option.map_id_fun, id]

theorem zero_record : zero.record = id := by
  funext r
  simp only [record, facts, zero_place, zero_ref, zero_type, zero_symbol, zero_cache,
    List.map_id_fun, Option.map_id_fun, id]

end Offset

end TypeGloss
