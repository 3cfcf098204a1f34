/-
# TypeGloss.Proofs.Checker.Denotation — types as sets of values

A type stands for the values that have it. Here this is said of the types that are built
from keywords other than `object`, literals, unions and arrays: a keyword is its kind of
value, `never` is no value, `any` and `unknown` are all of them, a literal is one value, a
union is what its members are, and an array is a finite list of what its element is.

`State.Denotes` ties the types of a checker to such a `DataType`. Two types of the checker
are compared as the table `DataType.form` says, down through unions and arrays, and
`assignable_sound` says what the verdict is worth: if it is yes, every value of the one type
is a value of the other. A no may be wrong only if there is a union in the second type.
-/
import TypeGloss.Proofs.Checker.Unions
import TypeGloss.Proofs.Checker.Verdicts

namespace TypeGloss

set_option autoImplicit false

open Answer (answer)

/-! ## Values and types -/

/-- A value at run time. A number is an integer or not, as in `Value`. -/
inductive Datum where
  | null
  | undefined
  | void
  | flag (b : Bool)
  | text (s : String)
  | integer (n : Int)
  | number (x : Float)
  | bigint (n : Int)
  | symbol (mark : Nat)
  | list (items : List Datum)
  /-- An object or a function. -/
  | object (mark : Nat)

/-- The values that a keyword stands for. -/
inductive Primitive.Holds : Primitive → Datum → Prop where
  | null : Holds .null .null
  | undefined : Holds .undefined .undefined
  | void : Holds .void .void
  | boolean (b : Bool) : Holds .boolean (.flag b)
  | string (s : String) : Holds .string (.text s)
  | integer (n : Int) : Holds .number (.integer n)
  | number (x : Float) : Holds .number (.number x)
  | bigint (n : Int) : Holds .bigint (.bigint n)
  | symbol (mark : Nat) : Holds .symbol (.symbol mark)
  | any (d : Datum) : Holds .any d
  | unknown (d : Datum) : Holds .unknown d

/-- The content of a literal type. An integer is one that is a number without rounding. -/
inductive Literal where
  | text (s : String)
  | integer (n : Int) (safe : Value.isSafe n)
  | flag (b : Bool)
  | bigint (n : Int)

namespace Literal

/-- The keyword of a literal's kind. -/
def primitive : Literal → Primitive
  | text _ => .string
  | integer _ _ => .number
  | flag _ => .boolean
  | bigint _ => .bigint

/-- What is kept of a literal. -/
def value : Literal → Value
  | text s => .text s
  | integer n _ => .integer n
  | flag b => .flag b
  | bigint n => .integer n

/-- The one value of a literal. -/
def datum : Literal → Datum
  | text s => .text s
  | integer n _ => .integer n
  | flag b => .flag b
  | bigint n => .bigint n

end Literal

/-- Types that are sets of data. -/
inductive DataType where
  | keyword (p : Primitive) (plain : p ≠ .object)
  | literal (l : Literal)
  | union (members : List DataType)
  | array (element : DataType)

namespace DataType

/-- The values of a type. -/
inductive Holds : DataType → Datum → Prop where
  | keyword {p : Primitive} {plain : p ≠ .object} {d : Datum} (holds : p.Holds d) :
      Holds (.keyword p plain) d
  | literal (l : Literal) : Holds (.literal l) l.datum
  | member {members : List DataType} {m : DataType} {d : Datum} (among : m ∈ members)
      (holds : Holds m d) : Holds (.union members) d
  | list {element : DataType} {items : List Datum} (each : ∀ d ∈ items, Holds element d) :
      Holds (.array element) (.list items)

@[simp]
theorem holds_keyword {p : Primitive} {plain : p ≠ .object} {d : Datum} :
    (keyword p plain).Holds d ↔ p.Holds d :=
  ⟨fun | .keyword holds => holds, .keyword⟩

@[simp]
theorem holds_literal {l : Literal} {d : Datum} : (literal l).Holds d ↔ d = l.datum := by
  constructor
  · rintro ⟨⟩
    rfl
  · rintro rfl
    exact .literal l

@[simp]
theorem holds_union {members : List DataType} {d : Datum} :
    (union members).Holds d ↔ ∃ m ∈ members, m.Holds d :=
  ⟨fun | .member among holds => ⟨_, among, holds⟩, fun ⟨_, among, holds⟩ => .member among holds⟩

@[simp]
theorem holds_array {element : DataType} {d : Datum} :
    (array element).Holds d ↔ ∃ items, d = .list items ∧ ∀ d ∈ items, element.Holds d := by
  constructor
  · intro holds
    cases holds with
    | list each => exact ⟨_, rfl, each⟩
  · rintro ⟨items, rfl, each⟩
    exact .list each

/-- Every value of the one type is a value of the other. -/
def Within (τ σ : DataType) : Prop := ∀ d, τ.Holds d → σ.Holds d

/-- No part of the type is a union. -/
def isUnionFree : DataType → Bool
  | union _ => false
  | array element => element.isUnionFree
  | _ => true

/-- Two literals of one kind and one value. -/
def sameLiteral (l l' : Literal) : Bool :=
  l.primitive == l'.primitive && l.value.agree l'.value

/-- Is a type one that everything is a value of? -/
def isAnything : DataType → Bool
  | keyword p _ => p == .any || p == .unknown
  | _ => false

/-- Is a type the keyword of no values? -/
def isNever : DataType → Bool
  | keyword p _ => p == .never
  | _ => false

/-- How two types of data are compared by what they are built from. -/
def kindForm : DataType → DataType → Assignability.Form
  | _, union _ => .intoUnion
  | union _, _ => .outOfUnion
  | keyword q _, keyword p _ => .known (q == p)
  | literal l, keyword p _ => .known (l.primitive == p)
  | literal l, literal l' => .known (sameLiteral l l')
  | array _, array _ => .elements
  | _, _ => .known false

/-- How two types of data that are not identical are compared. -/
def form (τ σ : DataType) : Assignability.Form :=
  if σ.isAnything then .known true
  else if τ.isNever then .known true
  else τ.kindForm σ

end DataType

/-- What is known at once of a type of data. -/
def TypeFacts.IsOf (facts : TypeFacts) : DataType → Prop
  | .keyword p _ => facts.category = .primitive ∧ facts.primitive = some p
  | .literal l =>
      facts.category = .literal ∧ facts.primitive = some l.primitive ∧ facts.value = l.value
  | .union _ => facts.category = .union ∧ facts.primitive = none
  | .array _ => facts.category = .array ∧ facts.primitive = none

/-- A type of the checker is built like a type of data. What its parts are need not have
been asked before, as long as there is one answer. -/
inductive State.Denotes (s : State) : TypeId → DataType → Prop where
  | keyword {t : TypeId} {r : TypeRecord} {p : Primitive} {plain : p ≠ .object}
      (known : s.records[t]? = some r) (is : r.IsOf (.keyword p plain)) :
      Denotes s t (.keyword p plain)
  | literal {t : TypeId} {r : TypeRecord} {l : Literal} (known : s.records[t]? = some r)
      (is : r.IsOf (.literal l)) : Denotes s t (.literal l)
  | union {t : TypeId} {r : TypeRecord} {members : List (TypeId × DataType)}
      (known : s.records[t]? = some r) (is : r.IsOf (.union (members.map Prod.snd)))
      (told : s.Foretells (fun ask => ask.members t) (members.map Prod.fst))
      (each : ∀ m ∈ members, Denotes s m.1 m.2) : Denotes s t (.union (members.map Prod.snd))
  | array {t element : TypeId} {r : TypeRecord} {τ : DataType} (known : s.records[t]? = some r)
      (is : r.IsOf (.array τ)) (told : s.Foretells (fun ask => ask.element? t) (some element))
      (inside : Denotes s element τ) : Denotes s t (.array τ)

open Assignability (byForm)

/-- Types of data are compared as the table says. -/
theorem form_of_isOf {source target : TypeId} {given want : TypeFacts} {τ σ : DataType}
    (different : source ≠ target) (is : given.IsOf τ) (is' : want.IsOf σ) :
    Assignability.form source target given want = τ.form σ := by
  have anything : (want.primitive == some .any || want.primitive == some .unknown) =
      σ.isAnything := by
    cases σ with
    | keyword p plain => simp [is'.2, DataType.isAnything]
    | literal l => cases l <;> simp [is'.2.1, DataType.isAnything, Literal.primitive]
    | union | array => simp [is'.2, DataType.isAnything]
  have never : (given.primitive == some .never) = τ.isNever := by
    cases τ with
    | keyword p plain => simp [is.2, DataType.isNever]
    | literal l => cases l <;> simp [is.2.1, DataType.isNever, Literal.primitive]
    | union | array => simp [is.2, DataType.isNever]
  rw [Assignability.form, if_neg different, DataType.form, anything, never]
  split
  · rfl
  split
  · rfl
  cases σ with
  | keyword p plain =>
      cases τ <;> simp_all [TypeFacts.IsOf, Assignability.categoryForm, Assignability.toPrimitive,
        DataType.kindForm]
  | literal l' =>
      cases τ <;> simp_all [TypeFacts.IsOf, Assignability.categoryForm, Assignability.toLiteral,
        DataType.kindForm, DataType.sameLiteral]
  | union | array =>
      cases τ <;> simp_all [TypeFacts.IsOf, Assignability.categoryForm, DataType.kindForm]

/-! ## Verdicts that are found at once -/

theorem Literal.holds_datum_iff {l : Literal} {p : Primitive} :
    p.Holds l.datum ↔ p = l.primitive ∨ p = .any ∨ p = .unknown := by
  constructor
  · intro holds
    cases l <;> cases holds <;> simp [Literal.primitive]
  · rintro (rfl | rfl | rfl)
    · cases l
      · exact .string _
      · exact .integer _
      · exact .boolean _
      · exact .bigint _
    · exact .any _
    · exact .unknown _

theorem Literal.datum_ne_list (l : Literal) (items : List Datum) : l.datum ≠ .list items := by
  cases l <;> simp [Literal.datum]

/-- Two literals are the same if they have the same value at run time. -/
theorem sameLiteral_iff {l l' : Literal} :
    DataType.sameLiteral l l' = true ↔ l.datum = l'.datum := by
  have ordered (n n' : Int) : compare n n' = .eq ↔ n = n' := compare_eq_iff_eq
  have flags (b b' : Bool) : (if b = true then (1 : Int) else 0) = (if b' = true then 1 else 0) ↔
      b = b' := by
    cases b <;> cases b' <;> decide
  cases l <;> cases l' <;>
    simp [DataType.sameLiteral, Literal.primitive, Literal.value, Literal.datum, Value.agree,
      Value.amountAgree, Value.compare?, Value.amount?, Value.Amount.compare?, ordered, flags]

namespace Primitive

/-- Two values of a keyword, which differ if the keyword has literals. -/
def sample (second : Bool) : Primitive → Datum
  | null => .null
  | undefined => .undefined
  | void => .void
  | boolean => .flag second
  | string => .text (if second then "a" else "")
  | number => .number 0
  | bigint => .bigint (if second then 1 else 0)
  | symbol => .symbol 0
  | _ => .object 0

variable {p q : Primitive} (inhabited : q ≠ .never) (plain : q ≠ .object)

include inhabited plain

theorem holds_sample (second : Bool) : q.Holds (q.sample second) := by
  cases q with
  | never => exact absurd rfl inhabited
  | object => exact absurd rfl plain
  | _ => constructor

/-- No other keyword has the values, but those that have all. -/
theorem eq_of_holds_sample {second : Bool} (holds : p.Holds (q.sample second)) :
    p = q ∨ p = .any ∨ p = .unknown := by
  cases q with
  | never => exact absurd rfl inhabited
  | object => exact absurd rfl plain
  | _ => cases holds <;> simp

omit inhabited plain

theorem sample_ne_list (q : Primitive) (second : Bool) (items : List Datum) :
    q.sample second ≠ .list items := by
  cases q <;> simp [sample]

/-- No literal is all that there is of a keyword. -/
theorem exists_sample_ne (q : Primitive) (l : Literal) : ∃ second, q.sample second ≠ l.datum := by
  by_cases same : q.sample false = l.datum
  · refine ⟨true, fun same' => ?_⟩
    have both := same'.trans same.symm
    cases q with
    | boolean | string | bigint => simp [sample] at both
    | _ => cases l <;> simp [sample, Literal.datum] at same
  · exact ⟨false, same⟩

end Primitive

namespace DataType

variable {τ σ : DataType}

/-- A verdict that is found at once is right. -/
theorem within_iff_of_kindForm {verdict : Bool} (something : σ.isAnything = false)
    (inhabited : τ.isNever = false) (known : τ.kindForm σ = .known verdict) :
    verdict = true ↔ τ.Within σ := by
  -- What the second type must be if it is a keyword that has a value of the first.
  have sole {p q : Primitive} {plain : p ≠ .object} (other : (keyword p plain).isAnything = false)
      (which : p = q ∨ p = .any ∨ p = .unknown) : p = q := by
    simp only [isAnything, Bool.or_eq_false_iff, beq_eq_false_iff_ne] at other
    exact which.resolve_right (not_or.2 other)
  cases τ with
  | keyword q plain =>
      have some : q ≠ .never := by simpa [isNever] using inhabited
      have sample (second : Bool) : (keyword q plain).Holds (q.sample second) :=
        .keyword (Primitive.holds_sample some plain second)
      cases σ with
      | keyword p plain' =>
          cases known
          rw [beq_iff_eq]
          constructor
          · rintro rfl d holds
            simpa using holds
          · intro within
            have holds := holds_keyword.1 (within _ (sample true))
            exact (sole something (Primitive.eq_of_holds_sample some plain holds)).symm
      | literal l =>
          cases known
          obtain ⟨second, other⟩ := q.exists_sample_ne l
          exact iff_of_false Bool.false_ne_true fun within =>
            other (holds_literal.1 (within _ (sample second)))
      | array element =>
          cases known
          refine iff_of_false Bool.false_ne_true fun within => ?_
          obtain ⟨items, listed, -⟩ := holds_array.1 (within _ (sample true))
          exact q.sample_ne_list _ _ listed
      | union => cases known
  | literal l =>
      cases σ with
      | keyword p plain' =>
          cases known
          rw [beq_iff_eq]
          constructor
          · rintro rfl d holds
            obtain rfl := holds_literal.1 holds
            exact .keyword (Literal.holds_datum_iff.2 (.inl rfl))
          · intro within
            have holds := holds_keyword.1 (within _ (.literal l))
            exact (sole something (Literal.holds_datum_iff.1 holds)).symm
      | literal l' =>
          cases known
          rw [sameLiteral_iff]
          constructor
          · intro same d holds
            rw [holds_literal] at holds ⊢
            exact holds.trans same
          · exact fun within => holds_literal.1 (within _ (.literal l))
      | array element =>
          cases known
          refine iff_of_false Bool.false_ne_true fun within => ?_
          obtain ⟨items, listed, -⟩ := holds_array.1 (within _ (.literal l))
          exact l.datum_ne_list _ listed
      | union => cases known
  | array element =>
      have empty : (array element).Holds (.list []) := .list (by simp)
      cases σ with
      | keyword p plain' =>
          cases known
          refine iff_of_false Bool.false_ne_true fun within => ?_
          cases holds_keyword.1 (within _ empty) <;> simp [isAnything] at something
      | literal l' =>
          cases known
          exact iff_of_false Bool.false_ne_true fun within =>
            l'.datum_ne_list _ (holds_literal.1 (within _ empty)).symm
      | array => cases known
      | union => cases known
  | union => cases σ <;> cases known

/-- An array is within another one if the elements are. -/
theorem within_array_iff : (array τ).Within (array σ) ↔ τ.Within σ := by
  constructor
  · intro within d holds
    obtain ⟨items, same, each⟩ :=
      holds_array.1 (within (.list [d]) (.list fun d' among => List.mem_singleton.1 among ▸ holds))
    cases same
    exact each d (by simp)
  · intro within d holds
    obtain ⟨items, rfl, each⟩ := holds_array.1 holds
    exact .list fun d among => within d (each d among)

/-- A union is within a type if its members are. -/
theorem union_within_iff {members : List DataType} :
    (union members).Within σ ↔ ∀ m ∈ members, m.Within σ := by
  simp only [Within, holds_union]
  grind

end DataType

/-! ## Types of the checker -/

theorem map_snd_eq_of_map_fst_eq {α β : Type} {pairs pairs' : List (α × β)}
    (same : pairs.map Prod.fst = pairs'.map Prod.fst)
    (each : ∀ p ∈ pairs, ∀ p' ∈ pairs', p.1 = p'.1 → p.2 = p'.2) :
    pairs.map Prod.snd = pairs'.map Prod.snd := by
  induction pairs generalizing pairs' with
  | nil =>
      obtain rfl := List.map_eq_nil_iff.1 same.symm
      rfl
  | cons p rest ih =>
      obtain ⟨p', rest', rfl, first, others⟩ := List.map_eq_cons_iff.1 same.symm
      rw [List.map_cons, List.map_cons, each p List.mem_cons_self p' List.mem_cons_self first.symm,
        ih others.symm fun q among q' among' =>
          each q (List.mem_cons_of_mem _ among) q' (List.mem_cons_of_mem _ among')]

namespace State.Denotes

variable {s : State} {t source target : TypeId} {τ σ : DataType}

theorem record (denotes : s.Denotes t τ) : ∃ r, s.records[t]? = some r ∧ r.IsOf τ := by
  cases denotes with
  | keyword known is | literal known is | union known is | array known is => exact ⟨_, known, is⟩

/-- A type of the checker is built in one way. -/
theorem unique (denotes : s.Denotes t τ) (again : s.Denotes t σ) : τ = σ := by
  induction denotes generalizing σ with
  | keyword known is =>
      cases again with
      | keyword known' is' =>
          cases known.symm.trans known'
          cases is.2.symm.trans is'.2
          rfl
      | literal known' is' | union known' is' | array known' is' =>
          cases known.symm.trans known'
          cases is.1.symm.trans is'.1
  | @literal t r l known is =>
      cases again with
      | @literal _ _ l' known' is' =>
          cases known.symm.trans known'
          have kind := Option.some.inj (is.2.1.symm.trans is'.2.1)
          have value := is.2.2.symm.trans is'.2.2
          cases l <;> cases l' <;> simp_all [Literal.primitive, Literal.value]
      | keyword known' is' | union known' is' | array known' is' =>
          cases known.symm.trans known'
          cases is.1.symm.trans is'.1
  | union known is told _ ih =>
      cases again with
      | union known' _ told' each' =>
          cases known.symm.trans known'
          rw [map_snd_eq_of_map_fst_eq (told.unique told') fun m among m' among' named =>
            ih m among (named ▸ each' m' among')]
      | keyword known' is' | literal known' is' | array known' is' =>
          cases known.symm.trans known'
          cases is.1.symm.trans is'.1
  | array known is told _ ih =>
      cases again with
      | array known' _ told' inside' =>
          cases known.symm.trans known'
          cases told.unique told'
          rw [ih inside']
      | keyword known' is' | literal known' is' | union known' is' =>
          cases known.symm.trans known'
          cases is.1.symm.trans is'.1

end State.Denotes

/-! ## Soundness -/

/-- The verdict on types that stand for these types of data: it is found, and what it is
worth. -/
def Judged (s : State) (source target : TypeId) (τ σ : DataType) : Prop :=
  ∃ verdict, s.Compares source target verdict ∧
    (verdict = true → τ.Within σ) ∧ (σ.isUnionFree = true → τ.Within σ → verdict = true)

/-- Either the verdict is found at once, and is right, or the parts of a union or of two arrays
are compared. -/
theorem DataType.form_cases (τ σ : DataType) :
    (∃ verdict, τ.form σ = .known verdict ∧ (verdict = true ↔ τ.Within σ)) ∨
      (∃ members, σ = union members ∧ τ.form σ = .intoUnion) ∨
      (∃ members, τ = union members ∧ τ.form σ = .outOfUnion) ∨
      ∃ element element', τ = array element ∧ σ = array element' ∧ τ.form σ = .elements := by
  unfold form
  split
  · next anything =>
      refine .inl ⟨true, rfl, iff_of_true rfl fun d _ => ?_⟩
      cases σ with
      | keyword p plain =>
          simp only [isAnything, Bool.or_eq_true, beq_iff_eq] at anything
          rcases anything with rfl | rfl
          · exact .keyword (.any d)
          · exact .keyword (.unknown d)
      | _ => cases anything
  next something =>
  split
  · next never =>
      refine .inl ⟨true, rfl, iff_of_true rfl fun d holds => ?_⟩
      cases τ with
      | keyword p plain =>
          obtain rfl := beq_iff_eq.1 never
          cases holds_keyword.1 holds
      | _ => cases never
  next inhabited =>
  rw [Bool.not_eq_true] at something inhabited
  have found {verdict : Bool} (known : τ.kindForm σ = .known verdict) :
      ∃ verdict, τ.kindForm σ = .known verdict ∧ (verdict = true ↔ τ.Within σ) :=
    ⟨verdict, known, within_iff_of_kindForm something inhabited known⟩
  cases σ with
  | union members => exact .inr (.inl ⟨members, rfl, by cases τ <;> rfl⟩)
  | keyword p plain =>
      cases τ with
      | union members => exact .inr (.inr (.inl ⟨members, rfl, rfl⟩))
      | _ => exact .inl (found rfl)
  | literal l =>
      cases τ with
      | union members => exact .inr (.inr (.inl ⟨members, rfl, rfl⟩))
      | _ => exact .inl (found rfl)
  | array element =>
      cases τ with
      | union members => exact .inr (.inr (.inl ⟨members, rfl, rfl⟩))
      | array element' => exact .inr (.inr (.inr ⟨element', element, rfl, rfl, rfl⟩))
      | _ => exact .inl (found rfl)

namespace Judged

variable {s : State} {t source target : TypeId} {τ σ : DataType} {pairs : List (TypeId × DataType)}

/-- If a type is within a member of a union, it is within the union. -/
theorem any (each : ∀ m ∈ pairs, Judged s source m.1 τ m.2) :
    ∃ verdict, s.Foretells (fun ask => (pairs.map Prod.fst).anyM (ask.assignable source)) verdict ∧
      (verdict = true → τ.Within (.union (pairs.map Prod.snd))) := by
  have compared (m) (among : m ∈ pairs.map Prod.fst) :
      ∃ verdict, s.Compares source m verdict := by
    obtain ⟨pair, listed, rfl⟩ := List.mem_map.1 among
    obtain ⟨verdict, foretold, -⟩ := each pair listed
    exact ⟨verdict, foretold⟩
  obtain ⟨verdict, foretold, iff⟩ := State.Foretells.anyM compared
  refine ⟨verdict, foretold, fun yes d holds => ?_⟩
  obtain ⟨m, among, passed⟩ := iff.1 yes
  obtain ⟨pair, listed, rfl⟩ := List.mem_map.1 among
  obtain ⟨verdict', foretold', sound, -⟩ := each pair listed
  exact .member (List.mem_map_of_mem listed) (sound (foretold'.unique passed) d holds)

/-- A union is within a type if its members are, and only if, as far as their verdicts tell. -/
theorem all (each : ∀ m ∈ pairs, Judged s m.1 target m.2 σ) :
    ∃ verdict,
      s.Foretells
        (fun ask => (pairs.map Prod.fst).allM fun member => ask.assignable member target) verdict ∧
      (verdict = true → (DataType.union (pairs.map Prod.snd)).Within σ) ∧
      (σ.isUnionFree = true → (DataType.union (pairs.map Prod.snd)).Within σ → verdict = true) := by
  have compared (m) (among : m ∈ pairs.map Prod.fst) :
      ∃ verdict, s.Compares m target verdict := by
    obtain ⟨pair, listed, rfl⟩ := List.mem_map.1 among
    obtain ⟨verdict, foretold, -⟩ := each pair listed
    exact ⟨verdict, foretold⟩
  obtain ⟨verdict, foretold, iff⟩ := State.Foretells.allM compared
  simp only [DataType.union_within_iff, List.forall_mem_map] at iff ⊢
  refine ⟨verdict, foretold, fun yes pair listed => ?_, fun free within => ?_⟩
  · obtain ⟨verdict', foretold', sound, -⟩ := each pair listed
    exact sound (foretold'.unique (iff.1 yes pair listed))
  · refine iff.2 fun pair listed => ?_
    obtain ⟨verdict', foretold', -, complete⟩ := each pair listed
    exact complete free (within pair listed) ▸ foretold'

end Judged

/-- Types that stand for types of data are compared in finitely many steps, by induction on
what the types are built from: one of the two gets smaller with each step. -/
theorem judged {s : State} {source target : TypeId} {τ σ : DataType}
    (given : s.Denotes source τ) (want : s.Denotes target σ) : Judged s source target τ σ := by
  induction size : sizeOf τ + sizeOf σ using Nat.strong_induction_on
    generalizing source target τ σ with
  | _ size ih =>
  subst size
  obtain ⟨r, known, is⟩ := given.record
  obtain ⟨r', known', is'⟩ := want.record
  by_cases same : source = target
  · subst same
    obtain rfl := given.unique want
    exact ⟨true, Assignability.compares_self known, fun _ d holds => holds, fun _ _ => rfl⟩
  -- The verdict is that of the comparison by its form.
  have compared {verdict : Bool}
      (foretold : s.Foretells (fun ask => byForm ask source target (τ.form σ)) verdict) :
      s.Compares source target verdict := by
    rw [← form_of_isOf same is is'] at foretold
    exact Assignability.comes_assignable (fun _ => id) known known' foretold
  have smaller {pairs : List (TypeId × DataType)} {m : TypeId × DataType} (among : m ∈ pairs) :
      sizeOf m.2 < sizeOf (DataType.union (pairs.map Prod.snd)) := by
    have inside := List.sizeOf_lt_of_mem (List.mem_map_of_mem (f := Prod.snd) among)
    rw [DataType.union.sizeOf_spec]
    omega
  rcases τ.form_cases σ with
    ⟨verdict, form, iff⟩ | ⟨members, rfl, form⟩ | ⟨members, rfl, form⟩ |
      ⟨element, element', rfl, rfl, form⟩
  · rw [form] at compared
    exact ⟨verdict, compared (.pure verdict), iff.1, fun _ => iff.2⟩
  · rw [form] at compared
    cases want with
    | @union _ _ pairs _ _ told each =>
        obtain ⟨verdict, foretold, sound⟩ := Judged.any fun m among =>
          ih _ (Nat.add_lt_add_left (smaller among) _) given (each m among) rfl
        exact ⟨verdict, compared (told.bind foretold), sound, by simp [DataType.isUnionFree]⟩
  · rw [form] at compared
    cases given with
    | @union _ _ pairs _ _ told each =>
        obtain ⟨verdict, foretold, worth⟩ := Judged.all fun m among =>
          ih _ (Nat.add_lt_add_right (smaller among) _) (each m among) want rfl
        exact ⟨verdict, compared (told.bind foretold), worth⟩
  · rw [form] at compared
    cases given with
    | @array _ e _ _ _ _ told inside =>
        cases want with
        | @array _ e' _ _ _ _ told' inside' =>
            have inner := ih _ (by simp only [DataType.array.sizeOf_spec]; omega) inside inside' rfl
            obtain ⟨verdict, foretold, worth⟩ := inner
            refine ⟨verdict, compared ?_, by rwa [DataType.within_array_iff]⟩
            exact told.bind (told'.bind (Comes.bind (.pure e) (Comes.bind (.pure e') foretold)))

/-- Two types that stand for types of data are compared with one verdict: it is found from now
on, whatever else is asked before, if the limit on the nesting is great enough, and no other one
was ever found before, when less was known of the types. If it is yes, every value of the one
type is a value of the other; and if the second type has no union in it, the verdict is yes
whenever that is so. -/
theorem assignable_sound {s : State} {source target : TypeId} {τ σ : DataType}
    (given : s.Denotes source τ) (want : s.Denotes target σ) :
    ∃ verdict, s.Compares source target verdict ∧
      (∀ limit found, s.Recalls (answer limit (.assignable source target)) found →
        found = verdict) ∧
      (verdict = true → ∀ d, τ.Holds d → σ.Holds d) ∧
      (σ.isUnionFree = true → (∀ d, τ.Holds d → σ.Holds d) → verdict = true) := by
  obtain ⟨verdict, compared, sound, complete⟩ := judged given want
  refine ⟨verdict, compared, fun limit found recalled => ?_, sound, complete⟩
  have told := recalled.tells ((Answer.reliable_answer limit).assignable source target)
  exact (compared.holds (.refl s) told.now).1

/-- A list of numbers, and text or a list of numbers and texts. -/
def nestedLists : State :=
  { records := #[keyword .number, keyword .string, union [0, 1], array 0, array 2, union [1, 4]] }
where
  keyword (p : Primitive) : TypeRecord := { category := .primitive, primitive := some p }
  union (members : List TypeId) : TypeRecord :=
    { category := .union, cache := { members := some members } }
  array (element : TypeId) : TypeRecord :=
    { category := .array, cache := { element := some element } }

theorem assignable_sound_nestedLists :
    let number : DataType := .keyword .number (by decide)
    let string : DataType := .keyword .string (by decide)
    nestedLists.Denotes 3 (.array number) ∧
      nestedLists.Denotes 5 (.union [string, .array (.union [number, string])]) ∧
      nestedLists.Compares 3 5 true ∧
      ∀ d, (DataType.array number).Holds d →
        (DataType.union [string, .array (.union [number, string])]).Holds d := by
  intro number string
  have isNumber : nestedLists.Denotes 0 number := .keyword rfl ⟨rfl, rfl⟩
  have isString : nestedLists.Denotes 1 string := .keyword rfl ⟨rfl, rfl⟩
  have lists {t element : TypeId} {τ : DataType}
      (known : nestedLists.records[t]? = some (nestedLists.array element))
      (inside : nestedLists.Denotes element τ) : nestedLists.Denotes t (.array τ) := by
    have kept : (nestedLists.array element).cache.get? .element = some element := rfl
    exact .array known ⟨rfl, rfl⟩ (.load known kept) inside
  have unites {t m m' : TypeId} {τ σ : DataType}
      (known : nestedLists.records[t]? = some (nestedLists.union [m, m']))
      (first : nestedLists.Denotes m τ) (second : nestedLists.Denotes m' σ) :
      nestedLists.Denotes t (.union [τ, σ]) := by
    have told : nestedLists.Foretells (fun ask => ask.members t)
        ([(m, τ), (m', σ)].map Prod.fst) := .members known rfl
    exact .union known ⟨rfl, rfl⟩ told (by simp [first, second])
  have given : nestedLists.Denotes 3 (.array number) := lists rfl isNumber
  have want : nestedLists.Denotes 5 (.union [string, .array (.union [number, string])]) :=
    unites rfl isString (lists rfl (unites rfl isNumber isString))
  obtain ⟨verdict, compared, -, sound, -⟩ := assignable_sound given want
  have yes : outcome (answer 5 (.assignable 3 5)) nestedLists = .ok true := by rfl
  obtain rfl : true = verdict := (compared.holds (.refl nestedLists) yes).1
  exact ⟨given, want, compared, sound rfl⟩

end TypeGloss
