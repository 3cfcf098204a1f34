/-
# TypeGloss.Proofs.Evaluation.Equality — what is equal, and the complement

What the language says about its equality operators and the complement, and for which operands
the evaluator computes it.

An operand of the language is a primitive value, or an array or object (`Operand`). What an array
or object holds is in a heap, at its own address: two of them are equal if they are one, whatever
they hold. The strict operators compare nothing but this. The others convert operands of
different types (`looselyEqual?`): arrays and objects to text, and texts and truth values to
numbers. A conversion to text fails for an object that has its own `toString`, since no value of
a constant expression can be called.

The evaluator knows the values and not the addresses, and converts nothing (`strictlyEqual_eq`).
So it is right about primitive values of one type, right about different types unless a
conversion makes them equal, and right about arrays and objects if the same hold the same and
different ones do not. The complement is that of an integer without an end to its bits, which is
right up to 32 bits.
-/
import TypeGloss.Proofs.Evaluation.Bitwise
import TypeGloss.Proofs.Evaluation.Distinct
import TypeGloss.Proofs.Evaluation.Values

namespace TypeGloss

set_option autoImplicit false

namespace Script

/-! ## Texts as numbers -/

/-- Blanks and ends of lines, which may stand around a number in a text. -/
def isSpace (c : Char) : Bool :=
  Text.inRanges [(0x09, 0x0D), (0x20, 0x20), (0xA0, 0xA0), (0x1680, 0x1680), (0x2000, 0x200A),
    (0x2028, 0x2029), (0x202F, 0x202F), (0x205F, 0x205F), (0x3000, 0x3000), (0xFEFF, 0xFEFF)]
    c.toNat

/-- The value of a digit. -/
def digitIn? (base : Nat) (c : Char) : Option Nat :=
  let n := c.toNat
  let digit :=
    if 0x30 ≤ n ∧ n ≤ 0x39 then some (n - 0x30)
    else if 0x61 ≤ n ∧ n ≤ 0x66 then some (n - 0x57)
    else if 0x41 ≤ n ∧ n ≤ 0x46 then some (n - 0x37)
    else none
  digit.filter (· < base)

/-- The number that digits denote, of which there is at least one. -/
def digits? (base : Nat) (cs : List Char) : Option Nat :=
  if cs = [] then none else (cs.mapM (digitIn? base)).map (Number.ofDigits base)

/-- The integer that is the number nearest to `n · 10 ^ e`, if it is one. -/
def nearest? (n : Nat) (e : Int) : Option Int :=
  Number.toInteger? (Number.ofDecimal n e)

/-- The exponent at the end of a decimal. -/
def exponent? : List Char → Option Int
  | [] => some 0
  | mark :: cs =>
      if mark = 'e' ∨ mark = 'E' then
        let (negative, ds) := Number.takeSign cs
        (digits? 10 ds).map (Number.signed negative)
      else none

/-- The integer that a decimal without a sign denotes, if it is one: digits with at most one
point among them, and an exponent. -/
def decimal? (cs : List Char) : Option Int := do
  let isDigit (c : Char) : Bool := (digitIn? 10 c).isSome
  let whole := cs.takeWhile isDigit
  let (fraction, rest) :=
    match cs.dropWhile isDigit with
    | '.' :: more => (more.takeWhile isDigit, more.dropWhile isDigit)
    | more => ([], more)
  let n ← digits? 10 (whole ++ fraction)
  let e ← exponent? rest
  nearest? n (e - fraction.length)

/-- The integer that a text is as a number, if it is one: an empty text is zero, a base may be
marked, and a decimal may have a sign. -/
def textInteger? (s : String) : Option Int :=
  let cs := Text.dropTail isSpace (s.toList.dropWhile isSpace)
  let decimal :=
    let (negative, unsigned) := Number.takeSign cs
    (decimal? unsigned).map fun n => if negative then -n else n
  match cs with
  | [] => some 0
  | '0' :: mark :: rest =>
      match Number.markedBase? mark with
      | some base => (digits? base rest).bind fun n => nearest? n 0
      | none => decimal
  | _ => decimal

/-! ## Arrays and objects as texts -/

mutual

/-- The text that a value is converted to. How numbers that are no integers are written is left
open. -/
def text? (real : Float → String) : Value → Option String
  | .null => some "null"
  | .flag b => some (if b then "true" else "false")
  | .integer n => some (toString n)
  | .number x => some (real x)
  | .notNumber _ => some "NaN"
  | .text s => some s
  | .list items => (itemTexts? real items).map (",".intercalate ·)
  | .object entries =>
      if (Entries.find? "toString" entries).isSome then none else some "[object Object]"

/-- The texts of the items of an array; null is empty there. -/
def itemTexts? (real : Float → String) : List Value → Option (List String)
  | [] => some []
  | .null :: rest => (itemTexts? real rest).map ("" :: ·)
  | v :: rest => do return (← text? real v) :: (← itemTexts? real rest)

end

/-! ## Operands -/

/-- Primitive values; numbers are integers. -/
inductive Primitive where
  | null
  | flag (b : Bool)
  | integer (n : Int)
  | text (s : String)
  deriving DecidableEq

/-- An operand: a primitive value, or the array or object at an address. -/
inductive Operand where
  | primitive (p : Primitive)
  | object (address : Nat)
  deriving DecidableEq

/-- Types of operands. -/
inductive Kind where
  | null
  | boolean
  | number
  | text
  | object
  deriving DecidableEq

/-- A primitive value as a value of the evaluator. -/
def Primitive.value : Primitive → Value
  | null => .null
  | flag b => .flag b
  | integer n => .integer n
  | text s => .text s

def Primitive.kind : Primitive → Kind
  | null => .null
  | flag _ => .boolean
  | integer _ => .number
  | text _ => .text

def Operand.kind : Operand → Kind
  | primitive p => p.kind
  | object _ => .object

/-- The operand evaluates to this value, with what arrays and objects hold in the heap. -/
inductive Denotes (heap : Nat → Value) : Operand → Value → Prop where
  | primitive (p : Primitive) : Denotes heap (.primitive p) p.value
  | list {address : Nat} {items : List Value} (holds : heap address = .list items) :
      Denotes heap (.object address) (.list items)
  | object {address : Nat} {entries : Entries Value} (holds : heap address = .object entries) :
      Denotes heap (.object address) (.object entries)

/-! ## Equality -/

/-- The integer that a primitive value is converted to, if it is one. Null is not converted. -/
def Primitive.number? : Primitive → Option Int
  | null => none
  | flag b => some (if b then 1 else 0)
  | integer n => some n
  | text s => textInteger? s

/-- Equality of primitive values, with conversion. -/
def Primitive.looselyEqual : Primitive → Primitive → Bool
  | null, q => q = null
  | p, null => p = null
  | text s, text t => s = t
  | p, q => p.number? = q.number?

/-- Equality with conversion; `none` if a conversion fails. -/
def looselyEqual? (real : Float → String) (heap : Nat → Value) : Operand → Operand → Option Bool
  | .primitive p, .primitive q => some (p.looselyEqual q)
  | .object a, .object b => some (a = b)
  | .primitive p, .object a => converted p a
  | .object a, .primitive p => converted p a
where
  /-- Equality of a primitive value with an array or object. -/
  converted (p : Primitive) (a : Nat) : Option Bool :=
    if p = .null then some false else (text? real (heap a)).map (p.looselyEqual <| .text ·)

/-- An equality operator: with conversion or without, and negated or not. -/
structure Comparison where
  isLoose : Bool
  isNegated : Bool

namespace Comparison

/-- The sign of an operator. -/
def sign : Comparison → String
  | ⟨false, false⟩ => "==="
  | ⟨false, true⟩ => "!=="
  | ⟨true, false⟩ => "=="
  | ⟨true, true⟩ => "!="

/-- What an operator answers; `none` if a conversion fails. -/
def answer? (comparison : Comparison) (real : Float → String) (heap : Nat → Value)
    (x y : Operand) : Option Bool :=
  (if comparison.isLoose then looselyEqual? real heap x y else some (x = y)).map
    (comparison.isNegated ^^ ·)

end Comparison

/-- The complement of the last 32 bits of an integer. -/
def complement (n : Int) : Int := ~~~ int32 n

theorem complement_eq (n : Int) : complement n = -int32 n - 1 := by
  rw [complement]
  cases int32 n with
  | ofNat n =>
      change Int.negSucc n = -(n : Int) - 1
      omega
  | negSucc n =>
      change (n : Int) = -Int.negSucc n - 1
      omega

/-- Integers of 32 bits are read as themselves. -/
theorem int32_eq_iff (n : Int) : int32 n = n ↔ -2 ^ 31 ≤ n ∧ n < 2 ^ 31 := by
  rw [int32]
  split <;> omega

/-! ## Where conversion makes no difference -/

theorem Primitive.looselyEqual_of_kind {p q : Primitive} (same : p.kind = q.kind) :
    p.looselyEqual q = decide (p = q) := by
  cases p with
  | null => cases q <;> simp [looselyEqual]
  | flag a =>
      cases q with
      | flag b => cases a <;> cases b <;> rfl
      | _ => cases same
  | integer m =>
      cases q with
      | integer n => simp [looselyEqual, number?]
      | _ => cases same
  | text s =>
      cases q with
      | text t => simp [looselyEqual]
      | _ => cases same

variable {real : Float → String} {heap : Nat → Value} {x y : Operand} {v w : Value}

theorem looselyEqual?_of_kind (same : x.kind = y.kind) :
    looselyEqual? real heap x y = some (decide (x = y)) := by
  cases x with
  | primitive p =>
      cases y with
      | primitive q => simp [looselyEqual?, Primitive.looselyEqual_of_kind same]
      | object b => cases p <;> cases same
  | object a =>
      cases y with
      | primitive q => cases q <;> cases same
      | object b => simp [looselyEqual?]

/-! ## What the evaluator compares -/

/-- Equality of values without their addresses: arrays and objects are equal if what they hold
agrees. -/
def sameContent (heap : Nat → Value) : Operand → Operand → Bool
  | .object a, .object b => (heap a).agree (heap b)
  | x, y => x = y

theorem sameContent_of_kind_ne (other : x.kind ≠ y.kind) : sameContent heap x y = false := by
  have ne : x ≠ y := fun same => other (congrArg Operand.kind same)
  cases x with
  | primitive p => simpa [sameContent] using ne
  | object a =>
      cases y with
      | primitive q => simp [sameContent]
      | object b => exact absurd rfl other

/-- Without conversion it is only arrays and objects that the content says something else about
than the address. -/
theorem sameContent_eq_iff : sameContent heap x y = decide (x = y) ↔
    ∀ a b, x = .object a → y = .object b → ((heap a).agree (heap b) = true ↔ a = b) := by
  cases x with
  | primitive p => simp [sameContent]
  | object a =>
      cases y with
      | primitive q => simp [sameContent]
      | object b =>
          rw [sameContent, Bool.eq_iff_iff, decide_eq_true_eq, Operand.object.injEq]
          refine ⟨?_, fun each => each a b rfl rfl⟩
          rintro same _ _ ⟨⟩ ⟨⟩
          exact same

theorem Primitive.isPrimitive_value (p : Primitive) : IsPrimitive p.value := by
  cases p <;> constructor

theorem Primitive.value_inj {p q : Primitive} : p.value = q.value ↔ p = q := by
  cases p <;> cases q <;> simp [value]

theorem strictlyEqual_list (items : List Value) (w : Value) :
    (Value.list items).strictlyEqual w = (Value.list items).agree w := by
  cases w <;> simp [Value.strictlyEqual, Value.isNumber, Value.agree, Value.sameKind]

theorem strictlyEqual_object (entries : Entries Value) (w : Value) :
    (Value.object entries).strictlyEqual w = (Value.object entries).agree w := by
  cases w <;> simp [Value.strictlyEqual, Value.isNumber, Value.agree, Value.sameKind]

/-- The evaluator compares by content. -/
theorem strictlyEqual_eq (first : Denotes heap x v) (second : Denotes heap y w) :
    v.strictlyEqual w = sameContent heap x y := by
  cases first with
  | primitive p =>
      cases second with
      | primitive q =>
          have same := strictlyEqual_iff p.isPrimitive_value q.isPrimitive_value
          rw [Primitive.value_inj] at same
          simpa only [sameContent, Operand.primitive.injEq] using
            Bool.eq_iff_iff.2 (same.trans decide_eq_true_iff.symm)
      | list | object => cases p <;> rfl
  | list holds =>
      rw [strictlyEqual_list]
      cases second with
      | primitive q => cases q <;> rfl
      | list holds' | object holds' => rw [sameContent, holds, holds']
  | object holds =>
      rw [strictlyEqual_object]
      cases second with
      | primitive q => cases q <;> rfl
      | list holds' | object holds' => rw [sameContent, holds, holds']

/-- When the content of the operands gives the answer of the language. -/
theorem Comparison.answer?_eq_iff {comparison : Comparison} :
    comparison.answer? real heap x y = some (comparison.isNegated ^^ sameContent heap x y) ↔
      (∀ a b, x = .object a → y = .object b → ((heap a).agree (heap b) = true ↔ a = b)) ∧
        (comparison.isLoose = true → x.kind ≠ y.kind →
          looselyEqual? real heap x y = some false) := by
  have injective : Function.Injective (Option.map (comparison.isNegated ^^ ·)) :=
    Option.map_injective fun _ _ => Bool.xor_right_inj.1
  have strict : some (decide (x = y)) = some (sameContent heap x y) ↔
      ∀ a b, x = .object a → y = .object b → ((heap a).agree (heap b) = true ↔ a = b) := by
    rw [← sameContent_eq_iff, Option.some.injEq, eq_comm]
  have content : some (comparison.isNegated ^^ sameContent heap x y) =
      (some (sameContent heap x y)).map (comparison.isNegated ^^ ·) := rfl
  rw [answer?, content, injective.eq_iff]
  by_cases converts : comparison.isLoose = true ∧ x.kind ≠ y.kind
  · obtain ⟨isLoose, other⟩ := converts
    rw [if_pos isLoose, sameContent_of_kind_ne other]
    refine ⟨fun unequal => ⟨?_, fun _ _ => unequal⟩, fun ⟨_, unequal⟩ => unequal isLoose other⟩
    rintro a b rfl rfl
    exact absurd rfl other
  · have plain : (if comparison.isLoose then looselyEqual? real heap x y else some (x = y)) =
        some (decide (x = y)) := by
      split
      · next isLoose =>
          exact looselyEqual?_of_kind (not_not.1 fun other => converts ⟨isLoose, other⟩)
      · rfl
    rw [plain, strict, iff_self_and]
    exact fun _ isLoose other => absurd ⟨isLoose, other⟩ converts

end Script

/-! ## What agrees with itself -/

namespace Value

theorem listAgree_self {items : List Value} (each : ∀ v ∈ items, v.agree v = true) :
    listAgree items items = true := by
  induction items with
  | nil => rfl
  | cons v rest ih =>
      obtain ⟨here, later⟩ := List.forall_mem_cons.1 each
      rw [listAgree, here, ih later, Bool.or_true, Bool.and_true]

/-- Entries that all stand in a table agree with it. -/
theorem entriesAgree_of_subset {table entries : Entries Value}
    (nodup : (Entries.names table).Nodup) (within : entries ⊆ table)
    (each : ∀ item ∈ table, item.2.agree item.2 = true) : entriesAgree entries table = true := by
  induction entries with
  | nil => rfl
  | cons item rest ih =>
      obtain ⟨here, later⟩ := List.cons_subset.1 within
      have found : Entries.find? item.1 table = some item.2 := Entries.find?_of_mem nodup here
      rw [entriesAgree, found]
      simp only [each item here, ih later, Bool.or_true, Bool.and_true]

/-- A value agrees with itself if all its numbers are integers. -/
theorem agree_self {v : Value} (whole : Script.IsWhole v) (distinct : v.IsDistinct) :
    v.agree v = true := by
  induction whole with
  | null => rfl
  | flag b => cases b <;> rfl
  | integer n => simp [agree, amountAgree, compare?, amount?, Amount.compare?]
  | text s => simp [agree]
  | list _ ih =>
      rw [agree]
      exact listAgree_self fun v among => ih v among (distinct.items v among)
  | object _ ih =>
      obtain ⟨nodup, each⟩ := isDistinct_object.1 distinct
      rw [agree, beq_self_eq_true, Bool.true_and]
      exact entriesAgree_of_subset nodup (List.Subset.refl _) fun item among =>
        ih item among (each item.2 (List.mem_map_of_mem among))

end Value

/-! ## Evaluation -/

namespace Expression

open Evaluation Script

variable {context : Context} {depth : Nat} {resolving : List String} {t : Tree}

/-- The expression is the complement of one that evaluates to this integer. -/
structure Complements (context : Context) (depth : Nat) (resolving : List String) (t : Tree)
    (n : Int) : Prop where
  kind : t.kind = "unary_expression"
  sign : operatorOf t = "~"
  operand : ∃ inner, t.field? "argument" = some inner ∧
    Gives (evaluate context depth resolving inner) (.integer n)

theorem Complements.gives {n : Int} (complements : Complements context depth resolving t n) :
    Gives (evaluate context (depth + 1) resolving t) (.integer (-n - 1)) := by
  obtain ⟨kind, sign, inner, found, given⟩ := complements
  rw [evaluate, evaluateNode_unary kind, absentOr_eq, found]
  simp only [gives_bind, gives_ofOption]
  exact ⟨.integer n, ⟨inner, rfl, given⟩, by rw [sign]; exact gives_pure.2 rfl⟩

theorem binary_comparison (comparison : Comparison) (v w : Value) :
    Operators.binary comparison.sign v w =
      pure (.flag (comparison.isNegated ^^ v.strictlyEqual w)) := by
  obtain ⟨isLoose, isNegated⟩ := comparison
  cases isLoose <;> cases isNegated <;> simp [Operators.binary, Comparison.sign]

/-- Equality operators on null, truth values, integers, texts, arrays and objects come to a truth
value, and it is the answer of the language exactly if arrays and objects that agree are one, and
one agrees with itself, and no conversion makes operands of different types equal. (What is one
agrees with itself if its numbers are integers.) The complement of an integer is that of the
language exactly if it has 32 bits. -/
theorem equality_and_complement :
    (∀ (comparison : Comparison) (real : Float → String) (heap : Nat → Value) (x y : Operand)
      (v w : Value), Applies context depth resolving t v w → operatorOf t = comparison.sign →
      Denotes heap x v → Denotes heap y w →
      ∃ answer, Gives (evaluate context (depth + 1) resolving t) (.flag answer) ∧
        (comparison.answer? real heap x y = some answer ↔
          (∀ a b, x = .object a → y = .object b → ((heap a).agree (heap b) = true ↔ a = b)) ∧
          (comparison.isLoose = true → x.kind ≠ y.kind →
            looselyEqual? real heap x y = some false)) ∧
        (x = y → IsWhole v → v.IsDistinct → comparison.answer? real heap x y = some answer)) ∧
    ∀ n : Int, Complements context depth resolving t n →
      Gives (evaluate context (depth + 1) resolving t) (.integer (-n - 1)) ∧
        (-n - 1 = complement n ↔ -2 ^ 31 ≤ n ∧ n < 2 ^ 31) := by
  constructor
  · intro comparison real heap x y v w applies sign first second
    refine ⟨comparison.isNegated ^^ sameContent heap x y, applies.gives ?_,
      Comparison.answer?_eq_iff, ?_⟩
    · rw [sign, binary_comparison, strictlyEqual_eq first second]
      exact gives_pure.2 rfl
    · rintro rfl whole distinct
      refine Comparison.answer?_eq_iff.2 ⟨?_, fun _ other => absurd rfl other⟩
      rintro a _ rfl ⟨⟩
      refine iff_of_true ?_ rfl
      have self := Value.agree_self whole distinct
      cases first with
      | list holds | object holds => rwa [holds]
  · intro n complements
    refine ⟨complements.gives, ?_⟩
    rw [complement_eq, ← int32_eq_iff]
    omega

namespace Converted

open Masked

/-- Two arrays without items. -/
def empties : Tree :=
  node "binary_expression" "[] === []" none
    [node "array" "[]" (some "left"), node "===" "===" (some "operator"),
      node "array" "[]" (some "right")]

/-- A text that is converted to a number. -/
def numeral : Tree :=
  node "binary_expression" "1 == '1'" none
    [node "number" "1" (some "left"), node "==" "==" (some "operator"),
      node "string" "'1'" (some "right") [node "string_fragment" "1"]]

/-- An integer of 32 bits, of which the first is not a sign. -/
def unsigned : Tree :=
  node "unary_expression" "~4294967295" none
    [node "~" "~" (some "operator"), node "number" "4294967295" (some "argument")]

theorem applies_empties : Applies {} 1 [] empties (.list []) (.list []) :=
  ⟨⟨rfl, ⟨_, rfl, rfl⟩, nofun⟩, ⟨_, rfl, rfl⟩, rfl⟩

theorem applies_numeral : Applies {} 1 [] numeral (.integer 1) (.text "1") :=
  ⟨⟨rfl, ⟨_, rfl, rfl⟩, nofun⟩, ⟨_, rfl, rfl⟩, rfl⟩

theorem complements_unsigned : Complements {} 1 [] unsigned 4294967295 :=
  ⟨rfl, rfl, _, rfl, rfl⟩

theorem looselyEqual?_numeral : looselyEqual? (fun _ => "") (fun _ => .null)
    (.primitive (.integer 1)) (.primitive (.text "1")) = some true := by
  decide +kernel

end Converted

open Converted in
/-- Two arrays of one content, a number and a text that is converted, and an integer that is
longer than 32 bits with its sign. -/
theorem equality_and_complement_converted :
    (∃ answer, Gives (evaluate {} 2 [] empties) (.flag answer) ∧
      Comparison.answer? ⟨false, false⟩ (fun _ => "") (fun _ => .list []) (.object 0) (.object 1) ≠
        some answer) ∧
    (∃ answer, Gives (evaluate {} 2 [] numeral) (.flag answer) ∧
      Comparison.answer? ⟨true, false⟩ (fun _ => "") (fun _ => .null) (.primitive (.integer 1))
        (.primitive (.text "1")) ≠ some answer) ∧
    Gives (evaluate {} 2 [] unsigned) (.integer (-4294967296)) ∧
      complement 4294967295 ≠ -4294967296 := by
  refine ⟨?_, ?_, ?_⟩
  · obtain ⟨answer, given, right, -⟩ := equality_and_complement.1 ⟨false, false⟩ (fun _ => "")
      (fun _ => .list []) (.object 0) (.object 1) _ _ applies_empties rfl (.list rfl) (.list rfl)
    refine ⟨answer, given, fun same => ?_⟩
    exact absurd (((right.1 same).1 0 1 rfl rfl).1 rfl) (by decide)
  · obtain ⟨answer, given, right, -⟩ := equality_and_complement.1 ⟨true, false⟩ (fun _ => "")
      (fun _ => .null) (.primitive (.integer 1)) (.primitive (.text "1")) _ _ applies_numeral rfl
      (.primitive (.integer 1)) (.primitive (.text "1"))
    refine ⟨answer, given, fun same => ?_⟩
    have unequal := (right.1 same).2 rfl (by decide)
    exact absurd (looselyEqual?_numeral.symm.trans unequal) (by decide)
  · obtain ⟨given, right⟩ := equality_and_complement.2 4294967295 complements_unsigned
    refine ⟨given, fun same => ?_⟩
    exact absurd (right.1 same.symm).2 (by decide)

end Expression

end TypeGloss
