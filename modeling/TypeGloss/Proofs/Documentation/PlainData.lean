/-
# TypeGloss.Proofs.Documentation.PlainData — documents as plain data

What a document says is plain data: texts, numbers, lists and tables, with nothing that tells
whether a table was a node or the value of a default (`Document.plain`).

There is more than one equality of plain data. Each has to compare texts, truth values,
integers, lists and tables as every equality does (`Value.IsEquality`). Being the same value is
one (`Value.isEquality_eq`). The agreement of values is another, for which 1 and 1.0 are equal
and the order of a table's keys is immaterial (`Value.isEquality_agrees`).

Equal lists have equal items, and equal tables in which no name occurs twice have the same
fields (`Document.forall₂_of_same`, `Document.rel_groups_of_same`), where a field that is left
out on one side is left out on the other.
-/
import Mathlib.Data.List.Perm.Subperm
import TypeGloss.Documentation.Document
import TypeGloss.Proofs.Documentation.Lifting
import TypeGloss.Proofs.Entries

namespace TypeGloss

set_option autoImplicit false

/-! ## Finite values -/

namespace Value

mutual

/-- Is no number in a value infinite or not a number? -/
def isFinite : Value → Bool
  | number x => !(x.isNaN || x.isInf)
  | notNumber _ => false
  | list items => areFinite items
  | object entries => areFiniteEntries entries
  | _ => true

/-- `isFinite` on list items. -/
def areFinite : List Value → Bool
  | [] => true
  | item :: rest => isFinite item && areFinite rest

/-- `isFinite` on entries. -/
def areFiniteEntries : List (String × Value) → Bool
  | [] => true
  | (_, v) :: rest => isFinite v && areFiniteEntries rest

end

mutual

/-- A finite value is its own finite form. -/
theorem finite_of_isFinite : ∀ {v : Value}, v.isFinite = true → v.finite = v
  | null, _ | flag _, _ | integer _, _ | text _, _ => rfl
  | number x, finite => by
      simp only [isFinite, Bool.not_eq_true'] at finite
      simp only [Value.finite, finite, Bool.false_eq_true, if_false]
  | notNumber _, finite => by simp [isFinite] at finite
  | list items, finite => by
      rw [Value.finite, finiteAll_of_areFinite (by simpa [isFinite] using finite)]
  | object entries, finite => by
      rw [Value.finite, finiteEntries_of_areFiniteEntries (by simpa [isFinite] using finite)]

/-- Values without infinities or `NaN` are plain data as they are. -/
theorem finiteAll_of_areFinite : ∀ {items : List Value}, areFinite items = true →
    finiteAll items = items
  | [], _ => rfl
  | item :: rest, finite => by
      rw [areFinite, Bool.and_eq_true] at finite
      rw [finiteAll, finite_of_isFinite finite.1, finiteAll_of_areFinite finite.2]

/-- Entries without infinities or `NaN` are plain data as they are. -/
theorem finiteEntries_of_areFiniteEntries : ∀ {entries : List (String × Value)},
    areFiniteEntries entries = true → finiteEntries entries = entries
  | [], _ => rfl
  | (name, v) :: rest, finite => by
      rw [areFiniteEntries, Bool.and_eq_true] at finite
      rw [finiteEntries, finite_of_isFinite finite.1, finiteEntries_of_areFiniteEntries finite.2]

end

/-! ## Equalities of plain data -/

/-- What every equality of plain data has in common. Tables are compared by name, if no name
occurs twice in them. -/
structure IsEquality (R : Value → Value → Prop) : Prop where
  null : R null null
  text {s t : String} : R (text s) (text t) → s = t
  flag {a b : Bool} : R (flag a) (flag b) → a = b
  integer {m n : Int} : R (integer m) (integer n) → m = n
  list {items more : List Value} : R (list items) (list more) → List.Forall₂ R items more
  object {entries more : Entries Value} : (Entries.names entries).Nodup →
    (Entries.names more).Nodup → R (object entries) (object more) →
    ∀ name, Option.Rel R (Entries.find? name entries) (Entries.find? name more)

theorem isEquality_eq : IsEquality Eq where
  null := rfl
  text := text.inj
  flag := flag.inj
  integer := integer.inj
  list same := by
    obtain rfl := list.inj same
    exact List.forall₂_eq_eq_eq ▸ rfl
  object _ _ same name := by
    obtain rfl := object.inj same
    cases Entries.find? name _ with
    | none => exact .none
    | some v => exact .some rfl

/-- Values that agree, as items of lists and tables are compared: what is not a number agrees
with itself there. -/
def Agrees (a b : Value) : Prop :=
  (a.sameMark b || a.agree b) = true

theorem forall₂_agrees {items more : List Value} (agree : listAgree items more = true) :
    List.Forall₂ Agrees items more := by
  induction items generalizing more with
  | nil =>
      cases more with
      | nil => exact .nil
      | cons b more => simp [listAgree] at agree
  | cons a rest ih =>
      cases more with
      | nil => simp [listAgree] at agree
      | cons b more =>
          rw [listAgree, Bool.and_eq_true] at agree
          exact .cons agree.1 (ih agree.2)

/-- Tables that agree have the same names. -/
theorem exists_of_entriesAgree {entries more : Entries Value}
    (agree : entriesAgree entries more = true) {name : String} {a : Value}
    (found : Entries.find? name entries = some a) :
    ∃ b, Entries.find? name more = some b ∧ Agrees a b := by
  induction entries with
  | nil => simp [Entries.find?] at found
  | cons entry rest ih =>
      obtain ⟨key, first⟩ := entry
      rw [entriesAgree] at agree
      split at agree
      next b there =>
        rw [Bool.and_eq_true] at agree
        rw [Entries.find?] at found
        split at found
        · subst_vars
          exact ⟨b, there, Option.some.inj found ▸ agree.1⟩
        · exact ih agree.2 found
      next => simp at agree

/-- Tables of one length of which the first has no names but those of the second have the same
names. -/
theorem find?_eq_none_of_entriesAgree {entries more : Entries Value}
    (distinct : (Entries.names entries).Nodup) (sameLength : entries.length = more.length)
    (agree : entriesAgree entries more = true) {name : String}
    (absent : Entries.find? name entries = none) : Entries.find? name more = none := by
  have within : Entries.names entries ⊆ Entries.names more := by
    intro key among
    by_contra notAmong
    cases found : Entries.find? key entries with
    | none => exact absurd among (Entries.find?_eq_none_iff.1 found)
    | some a =>
        obtain ⟨b, there, _⟩ := exists_of_entriesAgree agree found
        simp [Entries.find?_eq_none_iff.2 notAmong] at there
  have all := (List.subperm_of_subset distinct within).perm_of_length_le
    (by simp [Entries.names, sameLength])
  exact Entries.find?_eq_none_iff.2 fun among =>
    Entries.find?_eq_none_iff.1 absent (all.mem_iff.2 among)

theorem isEquality_agrees : IsEquality Agrees where
  null := rfl
  text agree := by simpa [Agrees, sameMark, Value.agree] using agree
  flag {a b} agree := by
    revert agree
    cases a <;> cases b <;>
      simp [Agrees, sameMark, Value.agree, amountAgree, compare?, amount?, Amount.compare?]
  integer agree := by
    simpa [Agrees, sameMark, Value.agree, amountAgree, compare?, amount?,
      Amount.compare?] using agree
  list agree := forall₂_agrees (by simpa [Agrees, sameMark, Value.agree] using agree)
  object distinct _ agree name := by
    simp only [Agrees, sameMark, Value.agree, Bool.false_or, Bool.and_eq_true,
      beq_iff_eq] at agree
    cases found : Entries.find? name _ with
    | none =>
        rw [find?_eq_none_of_entriesAgree distinct agree.1 agree.2 found]
        exact .none
    | some a =>
        obtain ⟨b, there, agrees⟩ := exists_of_entriesAgree agree.2 found
        rw [there]
        exact .some agrees

end Value

/-! ## Documents as plain data -/

namespace Document

mutual

/-- A document as one value. -/
def plain : Document → Value
  | value v => v
  | list items => .list (plainAll items)
  | record fields => .object (plainFields fields)

/-- Documents as values. -/
def plainAll : List Document → List Value
  | [] => []
  | d :: rest => plain d :: plainAll rest

/-- Fields as entries. -/
def plainFields : List (String × Document) → List (String × Value)
  | [] => []
  | (name, d) :: rest => (name, plain d) :: plainFields rest

end

theorem plainAll_eq_map (items : List Document) : plainAll items = items.map plain := by
  induction items with
  | nil => rfl
  | cons d rest ih => rw [plainAll, ih, List.map_cons]

theorem plainFields_eq_mapEntries (fields : Entries Document) :
    plainFields fields = Entries.mapEntries plain fields := by
  induction fields with
  | nil => rfl
  | cons field rest ih => rw [plainFields, ih, Entries.mapEntries_cons]

/-- Documents that are equal as plain data. -/
def Same (R : Value → Value → Prop) (d e : Document) : Prop :=
  R d.plain e.plain

/-! ## What equal documents have in common -/

section Reading

variable {R : Value → Value → Prop} (equality : Value.IsEquality R)

include equality

theorem same_text {s t : String} (same : Same R (text s) (text t)) : s = t :=
  equality.text same

theorem same_flag {a b : Bool} (same : Same R (flag a) (flag b)) : a = b :=
  equality.flag same

theorem same_kind {kind other : Kind} (same : Same R (ofKind kind) (ofKind other)) :
    kind = other := by
  have injective : Function.Injective Kind.text := by
    intro kind other same
    cases kind <;> cases other <;> first | rfl | simp [Kind.text] at same
  exact injective (same_text equality same)

theorem same_visibility {seen other : Visibility}
    (same : Same R (text seen.text) (text other.text)) : seen = other := by
  have spelled := same_text equality same
  cases seen <;> cases other <;> first | rfl | simp [Visibility.text] at spelled

theorem same_modifier {modifier other : Modifier}
    (same : Same R (ofModifier modifier) (ofModifier other)) : modifier = other := by
  have spelled := same_text equality same
  cases modifier <;> cases other <;> first | rfl | simp [Modifier.text] at spelled

/-- Equal lists have equal items. -/
theorem forall₂_of_same {α β : Type} {encode : α → Document} {encode' : β → Document}
    {Q : α → β → Prop} {as : List α} {bs : List β}
    (same : Same R (list (as.map encode)) (list (bs.map encode')))
    (each : ∀ a ∈ as, ∀ b ∈ bs, Same R (encode a) (encode' b) → Q a b) :
    List.Forall₂ Q as bs := by
  have items := equality.list same
  simp only [plainAll_eq_map, List.map_map, List.forall₂_map_left_iff,
    List.forall₂_map_right_iff] at items
  exact forall₂_imp_of_mem items each

/-- Equal tables have the same fields. -/
theorem rel_of_same {fields more : Entries Document} (distinct : (Entries.names fields).Nodup)
    (distinct' : (Entries.names more).Nodup) (same : Same R (record fields) (record more))
    (name : String) :
    Option.Rel (Same R) (Entries.find? name fields) (Entries.find? name more) := by
  simp only [Same, plain, plainFields_eq_mapEntries] at same
  have entry := equality.object ((Entries.names_mapEntries plain fields).symm ▸ distinct)
    ((Entries.names_mapEntries plain more).symm ▸ distinct') same name
  simp only [Entries.find?_mapEntries] at entry
  cases found : Entries.find? name fields <;> cases found' : Entries.find? name more <;>
    rw [found, found'] at entry
  · exact .none
  · cases entry
  · cases entry
  · obtain ⟨related⟩ := entry
    exact .some related

/-- Equal tables with names from one list have the same fields. -/
theorem rel_of_same_keys {fields more : Entries Document}
    (same : Same R (record fields) (record more)) (keys : List String) (distinct : keys.Nodup)
    (within : (Entries.names fields).Sublist keys) (within' : (Entries.names more).Sublist keys)
    (name : String) :
    Option.Rel (Same R) (Entries.find? name fields) (Entries.find? name more) :=
  rel_of_same equality (within.nodup distinct) (within'.nodup distinct) same name

/-- Equal tables of two groups of fields have the same fields in each group. -/
theorem rel_groups_of_same {fields fields' more more' : Entries Document}
    (same : Same R (record (fields ++ more)) (record (fields' ++ more')))
    (keys : List String) {others others' : List String} (distinct : (keys ++ others).Nodup)
    (distinct' : (keys ++ others').Nodup) (within : (Entries.names fields).Sublist keys)
    (within' : (Entries.names fields').Sublist keys) (besides : (Entries.names more).Sublist others)
    (besides' : (Entries.names more').Sublist others') (name : String) :
    Option.Rel (Same R) (Entries.find? name fields) (Entries.find? name fields') ∧
      Option.Rel (Same R) (Entries.find? name more) (Entries.find? name more') := by
  have entry := rel_of_same equality ((Entries.names_append_sublist within besides).nodup distinct)
    ((Entries.names_append_sublist within' besides').nodup distinct') same name
  simp only [Entries.find?_append] at entry
  by_cases key : name ∈ keys
  · have apart : name ∉ others := fun other =>
      (List.nodup_append.1 distinct).2.2 name key name other rfl
    have apart' : name ∉ others' := fun other =>
      (List.nodup_append.1 distinct').2.2 name key name other rfl
    rw [Entries.find?_eq_none_of_sublist besides apart,
      Entries.find?_eq_none_of_sublist besides' apart'] at entry ⊢
    exact ⟨by simpa using entry, .none⟩
  · rw [Entries.find?_eq_none_of_sublist within key,
      Entries.find?_eq_none_of_sublist within' key] at entry ⊢
    exact ⟨.none, by simpa using entry⟩

end Reading

/-! ## Optional fields -/

section Optional

variable {α : Type} {R : Value → Value → Prop} {name : String} {encode : α → Document}

@[simp] theorem find?_field? (key : String) (content : Option α) :
    Entries.find? key (field? name encode content) =
      if name = key then content.map encode else none := by
  cases content <;> simp [field?, Entries.find?]

theorem unlessNull_of_ne {v : Value} (ne : v ≠ .null) : unlessNull name v = [(name, value v)] := by
  cases v with
  | null => exact absurd rfl ne
  | _ => rfl

@[simp] theorem find?_scopeField (key : String) (isStatic : Bool) :
    Entries.find? key (scopeField isStatic) =
      if "scope" = key then (if isStatic then some (text "static") else none) else none := by
  cases isStatic <;> simp [scopeField, Entries.find?]

theorem names_field? (content : Option α) :
    (Entries.names (field? name encode content)).Sublist [name] := by
  cases content <;> simp [field?, Entries.names]

theorem names_unlessNull (v : Value) : (Entries.names (unlessNull name v)).Sublist [name] := by
  cases v <;> simp [unlessNull, Entries.names]

theorem names_scopeField (isStatic : Bool) :
    (Entries.names (scopeField isStatic)).Sublist ["scope"] := by
  cases isStatic <;> simp [scopeField, Entries.names]

/-- What a field holds that may be absent. -/
theorem rel_of_same_field {Q : α → α → Prop} {first second : Option α}
    (same : Option.Rel (Same R) (first.map encode) (second.map encode))
    (each : ∀ a ∈ first.toList, ∀ b ∈ second.toList, Same R (encode a) (encode b) → Q a b) :
    Option.Rel Q first second := by
  cases first <;> cases second
  · exact .none
  · cases same
  · cases same
  · obtain ⟨related⟩ := same
    exact .some (each _ (by simp) _ (by simp) related)

/-- A field that may be absent can be read back if its content can. -/
theorem eq_of_same_field {first second : Option α}
    (same : Option.Rel (Same R) (first.map encode) (second.map encode))
    (each : ∀ {a b}, Same R (encode a) (encode b) → a = b) : first = second :=
  eq_of_rel (rel_of_same_field same fun _ _ _ _ => each) fun _ _ _ => id

/-- What a field holds whose list may be absent. -/
theorem rel_lists_of_same_field (equality : Value.IsEquality R) {Q : α → α → Prop}
    {first second : Option (List α)}
    (same : Option.Rel (Same R) (first.map fun items => list (items.map encode))
      (second.map fun items => list (items.map encode)))
    (each : ∀ a ∈ first.getD [], ∀ b ∈ second.getD [], Same R (encode a) (encode b) → Q a b) :
    Option.Rel (List.Forall₂ Q) first second := by
  refine rel_of_same_field same fun items there items' there' sameItems => ?_
  obtain rfl := Option.mem_toList.1 there
  obtain rfl := Option.mem_toList.1 there'
  exact forall₂_of_same equality sameItems each

/-- What a field holds that is left out when it is null. -/
theorem same_of_unlessNull {first second : Value} (null : R .null .null)
    (same : Option.Rel (Same R) (Entries.find? name (unlessNull name first))
      (Entries.find? name (unlessNull name second))) : R first second := by
  by_cases isNull : first = .null <;> by_cases isNull' : second = .null
  · exact isNull ▸ isNull' ▸ null
  · rw [isNull, unlessNull_of_ne isNull'] at same
    simp only [unlessNull, Entries.find?, if_true] at same
    cases same
  · rw [isNull', unlessNull_of_ne isNull] at same
    simp only [unlessNull, Entries.find?, if_true] at same
    cases same
  · rw [unlessNull_of_ne isNull, unlessNull_of_ne isNull'] at same
    simp only [Entries.find?, if_true, Option.rel_some_some] at same
    exact same

end Optional

end Document

end TypeGloss
