/-
# TypeGloss.Proofs.Evaluation.Failure — when an evaluation fails

An evaluation that is unresolved has not failed. It fails if an expression that it evaluates
on the way cannot be evaluated for a reason of its own, and only then: nothing on the way is
left out, and nothing that is not on the way counts.

* `Asks context depth resolving t resolving' u`: to evaluate `t`, the evaluator evaluates `u`,
  because all that comes before it came to something. `Reaches` is any number of such steps.
* `Converts context depth resolving t v`: at `t` itself, the value `v` is turned into text, in
  a template, for a computed key or next to a plus sign.
* `Trouble context depth resolving t fault`: at `t` itself, something fails: a literal that
  cannot be read, a look-up, a value that is turned into text and has none, or an operator.

`evaluate_fails_iff` says that an evaluation fails with a fault exactly if it reaches an
expression with that trouble.
-/
import TypeGloss.Proofs.Evaluation.Outcome
import Mathlib.Tactic.SplitIfs

namespace TypeGloss

set_option autoImplicit false

variable {α β : Type}

/-! ## Failing -/

namespace Evaluation

/-- The evaluation fails with this fault. -/
def Fails (x : Evaluation α) (fault : Fault) : Prop :=
  x.run = .error fault

variable {fault : Fault}

@[simp] theorem not_fails_pure {a : α} : ¬ Fails (pure a : Evaluation α) fault := by
  simp only [Fails, OptionT.run_pure]
  simp [pure, Except.pure]

@[simp] theorem not_fails_ofOption {found : Option α} : ¬ Fails (ofOption found) fault := by
  simp [Fails, ofOption]

@[simp] theorem not_fails_unresolved : ¬ Fails (unresolved : Evaluation α) fault :=
  not_fails_ofOption

@[simp] theorem fails_ofResult {result : Result α} :
    Fails (ofResult result) fault ↔ result = .error fault := by
  cases result <;> simp [Fails, ofResult, Functor.map, Except.map]

/-- One evaluation after another fails if the first does, or comes to something with which the
second does. -/
@[simp] theorem fails_bind {x : Evaluation α} {f : α → Evaluation β} :
    Fails (x >>= f) fault ↔ Fails x fault ∨ ∃ a, Gives x a ∧ Fails (f a) fault := by
  simp only [Fails, Gives, OptionT.run_bind]
  cases x.run with
  | error other => simp [Option.elimM, bind, Except.bind]
  | ok found => cases found <;> simp [Option.elimM, bind, Except.bind, pure, Except.pure]

@[simp] theorem fails_map {f : α → β} {x : Evaluation α} :
    Fails (f <$> x) fault ↔ Fails x fault := by
  rw [map_eq_pure_bind]
  simp only [fails_bind, not_fails_pure, and_false, exists_false, or_false]

/-- Of two cases the one that holds fails. -/
theorem cases_of_fails {c : Bool} {x y : Evaluation α}
    (fails : Fails (if c = true then x else y) fault) :
    c = true ∧ Fails x fault ∨ Fails y fault := by
  cases c with
  | true => exact .inl ⟨rfl, fails⟩
  | false => exact .inr fails

/-- What follows and never fails does not count. -/
theorem fails_bind_left {x : Evaluation α} {f : α → Evaluation β}
    (safe : ∀ a, ¬ Fails (f a) fault) : Fails (x >>= f) fault ↔ Fails x fault := by
  simp [safe]

/-- Items are evaluated in order, up to the one that fails. -/
theorem fails_mapM {f : α → Evaluation β} {items : List α} :
    Fails (items.mapM f) fault ↔ ∃ before item after values,
      items = before ++ item :: after ∧ Gives (before.mapM f) values ∧ Fails (f item) fault := by
  induction items with
  | nil => simp
  | cons first rest ih =>
      simp only [List.mapM_cons, fails_bind, not_fails_pure, and_false, exists_false, or_false, ih]
      constructor
      · rintro (fails | ⟨value, given, before, item, after, values, rfl, earlier, fails⟩)
        · exact ⟨[], first, rest, [], rfl, by simp, fails⟩
        · exact ⟨first :: before, item, after, value :: values, rfl, by simp [given, earlier],
            fails⟩
      · rintro ⟨before, item, after, values, split, earlier, fails⟩
        cases before with
        | nil =>
            obtain ⟨rfl, rfl⟩ := List.cons.inj split
            exact .inl fails
        | cons head before =>
            obtain ⟨rfl, rfl⟩ := List.cons.inj split
            simp only [List.mapM_cons, gives_bind, gives_pure] at earlier
            obtain ⟨value, given, others, earlier, -⟩ := earlier
            exact .inr ⟨value, given, before, item, after, others, rfl, earlier, fails⟩

/-- Steps are taken in order, up to the one that fails. -/
theorem fails_foldlM {f : β → α → Evaluation β} {items : List α} {b : β} :
    Fails (items.foldlM f b) fault ↔ ∃ before item after c,
      items = before ++ item :: after ∧ Gives (before.foldlM f b) c ∧ Fails (f c item) fault := by
  induction items generalizing b with
  | nil => simp
  | cons first rest ih =>
      simp only [List.foldlM_cons, fails_bind, ih]
      constructor
      · rintro (fails | ⟨c, given, before, item, after, d, rfl, earlier, fails⟩)
        · exact ⟨[], first, rest, b, rfl, by simp, fails⟩
        · exact ⟨first :: before, item, after, d, rfl, by simpa using ⟨c, given, earlier⟩, fails⟩
      · rintro ⟨before, item, after, d, split, earlier, fails⟩
        cases before with
        | nil =>
            obtain ⟨rfl, rfl⟩ := List.cons.inj split
            obtain rfl : b = d := by simpa using earlier
            exact .inl fails
        | cons head before =>
            obtain ⟨rfl, rfl⟩ := List.cons.inj split
            obtain ⟨c, given, earlier⟩ :
                ∃ c, Gives (f b first) c ∧ Gives (before.foldlM f c) d := by
              simpa using earlier
            exact .inr ⟨c, given, before, item, after, d, rfl, earlier, fails⟩

end Evaluation

/-! ## Operators -/

namespace Operators

open Evaluation

variable {fault : Fault} {left right : Value}

/-- Values whose sum is a text. -/
inductive AreJoined : Value → Value → Prop where
  | left (s : String) (right : Value) : AreJoined (.text s) right
  | right (left : Value) (s : String) : AreJoined left (.text s)

/-- A number is too large for an operator if it is an integer that is nearest to no
floating-point number. -/
def IsTooLarge : Value → Prop
  | .integer n => Number.ofInteger? n = none
  | _ => False

theorem toFloat_fails {value : Value} (fails : Fails (toFloat value) fault) :
    fault = .tooLarge ∧ IsTooLarge value := by
  cases value with
  | integer n =>
      simp only [toFloat] at fails
      split at fails
      · simp at fails
      · next none => exact ⟨by simpa [eq_comm] using fails, none⟩
  | _ => simp [toFloat] at fails

theorem wholeOf_fails {value : Value} (fails : Fails (wholeOf value) fault) :
    fault = .tooLarge ∧ IsTooLarge value := by
  cases value with
  | integer n =>
      simp only [wholeOf, fails_bind, not_fails_pure, and_false, exists_false, or_false] at fails
      exact toFloat_fails fails
  | _ => simp [wholeOf] at fails

theorem numeric_fails {operator : String} (fails : Fails (numeric operator left right) fault) :
    fault = .tooLarge ∧ (IsTooLarge left ∨ IsTooLarge right) := by
  have either {γ δ : Type} {f : Value → Evaluation γ} {g : γ → γ → δ}
      (each : ∀ {value}, Fails (f value) fault → fault = .tooLarge ∧ IsTooLarge value)
      (fails : Fails (do return g (← f left) (← f right)) fault) :
      fault = .tooLarge ∧ (IsTooLarge left ∨ IsTooLarge right) := by
    simp only [fails_bind, not_fails_pure, and_false, exists_false, or_false] at fails
    rcases fails with first | ⟨_, _, second⟩
    · exact (each first).imp_right .inl
    · exact (each second).imp_right .inr
  unfold numeric at fails
  split at fails
  · exact either toFloat_fails fails
  · split at fails
    · simp at fails
    · split at fails
      · exact either wholeOf_fails fails
      · simp at fails

/-- A sum that is a text fails if one of its sides has none, the left one first. -/
theorem concat_fails_iff : Fails (concat left right) fault ↔
    left.spelling = .error fault ∨
      (∃ before, left.spelling = .ok before) ∧ right.spelling = .error fault := by
  simp only [concat, fails_bind, fails_ofResult, gives_ofResult]
  constructor
  · rintro (first | ⟨before, given, second | ⟨after, -, fails⟩⟩)
    · exact .inl first
    · exact .inr ⟨⟨before, given⟩, second⟩
    · cases before <;> cases after <;> simp at fails
  · rintro (first | ⟨⟨before, given⟩, second⟩)
    · exact .inl first
    · exact .inr ⟨before, given, .inl second⟩

theorem not_isNumber_of_areJoined (joined : AreJoined left right) :
    (left.isNumber && right.isNumber) = false := by
  cases joined <;> simp [Value.isNumber]

theorem add_of_areJoined (joined : AreJoined left right) :
    add left right = concat left right := by
  unfold add
  rw [not_isNumber_of_areJoined joined]
  cases joined with
  | left s right => rfl
  | right left s => cases left <;> rfl

theorem add_fails (apart : ¬ AreJoined left right) (fails : Fails (add left right) fault) :
    fault = .tooLarge ∧ (IsTooLarge left ∨ IsTooLarge right) := by
  unfold add at fails
  split at fails
  · simp only [fails_bind, not_fails_pure, and_false, exists_false, or_false] at fails
    rcases fails with first | ⟨_, _, second⟩
    · exact (toFloat_fails first).imp_right .inl
    · exact (toFloat_fails second).imp_right .inr
  · split at fails
    · exact absurd (.left _ _) apart
    · exact absurd (.right _ _) apart
    · simp at fails

/-- An operator that joins no texts fails only because of an integer that is too large. -/
theorem binary_fails {operator : String} (apart : ¬ (operator = "+" ∧ AreJoined left right))
    (fails : Fails (Operators.binary operator left right) fault) :
    fault = .tooLarge ∧ (IsTooLarge left ∨ IsTooLarge right) := by
  unfold Operators.binary at fails
  split_ifs at fails with plus
  · exact add_fails (fun joined => apart ⟨plus, joined⟩) fails
  · simp at fails
  · simp at fails
  · exact numeric_fails fails
  · simp at fails

theorem binary_of_areJoined (joined : AreJoined left right) :
    Operators.binary "+" left right = concat left right :=
  add_of_areJoined joined

end Operators

/-! ## Parts of an expression -/

namespace Expression

open Evaluation

variable {fault : Fault}

section Parts

variable {below : Tree → Evaluation Value}

theorem absentOr_fails_iff {t : Option Tree} :
    Fails (absentOr below t) fault ↔ ∃ u, t = some u ∧ Fails (below u) fault := by
  cases t <;> simp [absentOr]

/-- The text of an expression that is inserted somewhere. -/
theorem inserted_fails_iff {f : Option String → Evaluation String} {t : Option Tree}
    (rest : ∀ text, ¬ Fails (f text) fault) :
    Fails (absentOr below t >>= fun value => ofResult value.spelling >>= f) fault ↔
      ∃ u, t = some u ∧
        (Fails (below u) fault ∨ ∃ v, Gives (below u) v ∧ v.spelling = .error fault) := by
  cases t <;> simp [absentOr, rest]

/-- A part of a template fails with what stands in it, or because its value has no text. -/
theorem templatePart_fails_iff {part : Tree} : Fails (templatePart below part) fault ↔
    (part.kind = "template_substitution" ∧ ∃ u, part.named.head? = some u ∧
      (Fails (below u) fault ∨ ∃ v, Gives (below u) v ∧ v.spelling = .error fault)) ∨
    (part.kind ≠ "template_substitution" ∧ Literal.fragmentValue part = .error fault) := by
  unfold templatePart
  split
  · next hole =>
      have isHole : part.kind = "template_substitution" := by simpa using hole
      rw [inserted_fails_iff (by rintro (_ | text) <;> simp)]
      simp [isHole]
  · next fixed =>
      have isFixed : part.kind ≠ "template_substitution" := by simpa using fixed
      simp [isFixed]

/-- A template fails with the first part that does, after parts that have texts. -/
theorem template_fails_iff {t : Tree} : Fails (template below t) fault ↔
    ∃ before part after texts, t.named = before ++ part :: after ∧
      Gives (before.mapM (templatePart below)) texts ∧ Fails (templatePart below part) fault := by
  unfold template
  split
  · next none => simp [none]
  · simp only [fails_bind, not_fails_pure, and_false, exists_false, or_false, fails_mapM]

/-- A key fails if it is computed from what fails or has no text, or cannot be read as it is. -/
theorem entryKey_fails_iff {key : Option Tree} : Fails (entryKey below key) fault ↔
    ∃ k, key = some k ∧
      ((k.kind = "computed_property_name" ∧ ∃ u, k.named.head? = some u ∧
          (Fails (below u) fault ∨ ∃ v, Gives (below u) v ∧ v.spelling = .error fault)) ∨
        (k.kind ≠ "computed_property_name" ∧ Literal.propertyKey? k = .error fault)) := by
  cases key with
  | none => simp [entryKey]
  | some k =>
      simp only [entryKey]
      split
      · next computed =>
          have isComputed : k.kind = "computed_property_name" := by simpa using computed
          rw [inserted_fails_iff (by simp)]
          simp [isComputed]
      · next fixed =>
          have isFixed : k.kind ≠ "computed_property_name" := by simpa using fixed
          simp [isFixed]

/-- A part of an object literal fails with its key or its value, or with what is spread. -/
theorem objectPart_fails_iff {ofName : String → Evaluation Value} {entries : Entries Value}
    {part : Tree} : Fails (objectPart ofName below entries part) fault ↔
      (part.kind = "pair" ∧ (Fails (entryKey below (part.field? "key")) fault ∨
        ∃ key, Gives (entryKey below (part.field? "key")) key ∧
          ∃ u, part.field? "value" = some u ∧ Fails (below u) fault)) ∨
      (part.kind = "shorthand_property_identifier" ∧ Fails (ofName part.text) fault) ∨
      (part.kind = "spread_element" ∧
        ∃ u, part.named.head? = some u ∧ Fails (below u) fault) := by
  unfold objectPart
  split_ifs with comment pair shorthand spread
  · rw [beq_iff_eq] at comment
    simp [comment]
  · rw [beq_iff_eq] at pair
    simp [pair, absentOr_fails_iff]
  · rw [beq_iff_eq] at shorthand
    simp [shorthand]
  · rw [beq_iff_eq] at spread
    rw [fails_bind_left (by rintro (_ | _) <;> simp)]
    simp [spread, absentOr_fails_iff]
  · rw [beq_iff_eq] at pair shorthand spread
    simp [pair, shorthand, spread]

/-- A part of an array literal fails with its element or with what is spread. -/
theorem arrayPart_fails_iff {part : Tree} : Fails (arrayPart below part) fault ↔
    (part.kind = "spread_element" ∧ ∃ u, part.named.head? = some u ∧ Fails (below u) fault) ∨
      (part.kind ≠ "comment" ∧ part.kind ≠ "spread_element" ∧ Fails (below part) fault) := by
  unfold arrayPart
  split_ifs with comment spread
  · rw [beq_iff_eq] at comment
    simp [comment]
  · rw [beq_iff_eq] at spread
    rw [fails_bind_left (by rintro (_ | _) <;> simp)]
    simp [spread, absentOr_fails_iff]
  · rw [beq_iff_eq] at comment spread
    simp [comment, spread]

/-- The sign of an operator. -/
def operatorOf (t : Tree) : String :=
  (t.field? "operator").elim "" Tree.text

/-- An expression with two operands fails with one of them, the left one first and the right
one only if it is needed, or with the operator itself. -/
theorem binary_fails_iff {t : Tree} : Fails (binary below t) fault ↔
    ∃ first, t.field? "left" = some first ∧
      (Fails (below first) fault ∨ ∃ left, Gives (below first) left ∧
        (∀ decided, Operators.shortCircuit? (operatorOf t) left ≠ some (some decided)) ∧
        ∃ second, t.field? "right" = some second ∧
          (Fails (below second) fault ∨
            Operators.shortCircuit? (operatorOf t) left = none ∧ ∃ right,
              Gives (below second) right ∧
                Fails (Operators.binary (operatorOf t) left right) fault)) := by
  cases leftmost : t.field? "left" with
  | none => simp [binary, leftmost, absentOr]
  | some first =>
      simp only [binary, leftmost, fails_bind, Option.some.injEq, exists_eq_left']
      refine or_congr_right (exists_congr fun left => and_congr_right fun _ => ?_)
      rw [← operatorOf]
      rcases Operators.shortCircuit? (operatorOf t) left with _ | _ | decided
      · cases t.field? "right" <;> simp [absentOr]
      · simp [absentOr_fails_iff]
      · simp

/-- A choice fails with its condition or with the branch that is taken. -/
theorem ternary_fails_iff {t : Tree} : Fails (ternary below t) fault ↔
    ∃ condition, t.field? "condition" = some condition ∧
      (Fails (below condition) fault ∨ ∃ v, Gives (below condition) v ∧
        ∃ u, t.field? (if v.truthy then "consequence" else "alternative") = some u ∧
          Fails (below u) fault) := by
  cases tested : t.field? "condition" with
  | none => simp [ternary, tested, absentOr]
  | some condition =>
      simp only [ternary, tested, fails_bind, absentOr_fails_iff, Option.some.injEq,
        exists_eq_left']
      rfl

theorem member_fails_iff {t : Tree} : Fails (member below t) fault ↔
    ∃ u, t.field? "object" = some u ∧ Fails (below u) fault := by
  unfold member
  rw [fails_bind_left, absentOr_fails_iff]
  rintro (_ | _)
  all_goals
    dsimp only
    try split
  all_goals simp

/-- A call fails only as `Object.freeze` of what fails. -/
theorem call_fails_iff {t : Tree} : Fails (call below t) fault ↔
    ∃ function arguments u, t.field? "function" = some function ∧
      t.field? "arguments" = some arguments ∧ function.text = "Object.freeze" ∧
      arguments.parts = [u] ∧ Fails (below u) fault := by
  unfold call
  split
  · next function arguments named given =>
      split
      · next u frozen parts => simp_all
      · next other =>
          simp only [not_fails_unresolved, false_iff]
          rintro ⟨function', arguments', u, named', given', frozen, parts, -⟩
          obtain rfl : function = function' := by simpa [named] using named'
          obtain rfl : arguments = arguments' := by simpa [given] using given'
          exact other u (by simp [frozen]) parts
  · next absent =>
      simp only [not_fails_unresolved, false_iff]
      rintro ⟨function, arguments, u, named, given, -⟩
      exact absent function arguments named given

end Parts

/-! ## Names -/

/-- A name is looked up: it is nothing built in, no constant and not under evaluation. -/
structure IsLookedUp (context : Context) (resolving : List String) (name : String) : Prop where
  free : name ∉ ["undefined", "NaN", "Infinity"]
  undefined : Entries.find? name context.constants = none
  idle : name ∉ resolving

/-- A name that is looked up has the value of its initializer, read with the name under evaluation.
-/
theorem name_of_isLookedUp {context : Context} {resolving : List String} {name : String}
    (looked : IsLookedUp context resolving name) (below : Below) :
    Expression.name context resolving below name =
      context.find name >>= below (name :: resolving) := by
  have free := looked.free
  simp only [List.mem_cons, List.not_mem_nil, or_false, not_or] at free
  rw [name_eq, if_neg free.1, if_neg free.2.1, if_neg free.2.2, looked.undefined]
  exact if_neg (by simpa using looked.idle)

/-- A name fails with its look-up or with its initializer. -/
theorem name_fails_iff {context : Context} {resolving : List String} {below : Below}
    {name : String} : Fails (Expression.name context resolving below name) fault ↔
      IsLookedUp context resolving name ∧ (Fails (context.find name) fault ∨
        ∃ u, Gives (context.find name) u ∧ Fails (below (name :: resolving) u) fault) := by
  by_cases looked : IsLookedUp context resolving name
  · simp only [name_of_isLookedUp looked, fails_bind, looked, true_and]
  · simp only [looked, false_and, iff_false]
    rw [name_eq]
    split_ifs with undefined nan infinity held
    · simp
    · simp
    · simp
    · split <;> simp
    · split
      · simp
      · next absent =>
          exact absurd ⟨by simp [undefined, nan, infinity], absent, by simpa using held⟩ looked

/-! ## The way of an evaluation -/

section Way

variable (context : Context) (depth : Nat) (resolving : List String)

/-- The evaluation of a template, an object or an array comes to one of its parts: the parts
before come to something. -/
inductive Arrives (t part : Tree) : Prop where
  | template {before after : List Tree} {texts : List String} (kind : t.kind = "template_string")
      (split : t.named = before ++ part :: after)
      (earlier : Gives (before.mapM (templatePart (evaluate context depth resolving))) texts)
  | object {before after : List Tree} {entries : Entries Value} (kind : t.kind = "object")
      (split : t.named = before ++ part :: after)
      (earlier : Gives (before.foldlM (objectPart
        (Expression.name context resolving (evaluate context depth))
        (evaluate context depth resolving)) []) entries)
  | array {before after : List Tree} {values : List (List Value)} (kind : t.kind = "array")
      (split : t.named = before ++ part :: after)
      (earlier : Gives (before.mapM (arrayPart (evaluate context depth resolving))) values)

/-- At a node a name is evaluated. -/
inductive Names : Tree → String → Prop where
  | identifier {t : Tree} (kind : t.kind = "identifier") : Names t t.text
  | shorthand {t part : Tree} (kind : t.kind = "object")
      (arrives : Arrives context depth resolving t part)
      (short : part.kind = "shorthand_property_identifier") : Names t part.text

/-- At a node an expression is evaluated for the text of its value: in a template, or for the
key of an entry. -/
inductive Inserts : Tree → Tree → Prop where
  | hole {t part u : Tree} (kind : t.kind = "template_string")
      (arrives : Arrives context depth resolving t part)
      (isHole : part.kind = "template_substitution") (inside : part.named.head? = some u) :
      Inserts t u
  | key {t part key u : Tree} (kind : t.kind = "object")
      (arrives : Arrives context depth resolving t part) (pair : part.kind = "pair")
      (found : part.field? "key" = some key) (computed : key.kind = "computed_property_name")
      (inside : key.named.head? = some u) : Inserts t u

/-- At a node the left operand has this value, and it does not decide. -/
structure Continues (t : Tree) (left : Value) : Prop where
  kind : t.kind = "binary_expression"
  operand : ∃ first, t.field? "left" = some first ∧
    Gives (evaluate context depth resolving first) left
  undecided : ∀ decided, Operators.shortCircuit? (operatorOf t) left ≠ some (some decided)

/-- At a node the operator is applied to these values. -/
structure Applies (t : Tree) (left right : Value) : Prop where
  continues : Continues context depth resolving t left
  operand : ∃ second, t.field? "right" = some second ∧
    Gives (evaluate context depth resolving second) right
  strict : Operators.shortCircuit? (operatorOf t) left = none

/-- To evaluate a node, an expression is evaluated, with the names that are under evaluation
then. -/
inductive Asks : Tree → List String → Tree → Prop where
  | wrapped {t u : Tree} (kind : t.kind ∈ wrappers) (inside : t.named.head? = some u) :
      Asks t resolving u
  | name {t u : Tree} {name : String} (names : Names context depth resolving t name)
      (looked : IsLookedUp context resolving name) (found : Gives (context.find name) u) :
      Asks t (name :: resolving) u
  | inserted {t u : Tree} (inserts : Inserts context depth resolving t u) : Asks t resolving u
  | entry {t part u : Tree} {key : String} (kind : t.kind = "object")
      (arrives : Arrives context depth resolving t part) (pair : part.kind = "pair")
      (named : Gives (entryKey (evaluate context depth resolving) (part.field? "key")) key)
      (found : part.field? "value" = some u) : Asks t resolving u
  | spread {t part u : Tree} (kind : t.kind = "object" ∨ t.kind = "array")
      (arrives : Arrives context depth resolving t part) (isSpread : part.kind = "spread_element")
      (inside : part.named.head? = some u) : Asks t resolving u
  | item {t part : Tree} (kind : t.kind = "array")
      (arrives : Arrives context depth resolving t part) (isCode : part.kind ≠ "comment")
      (isOne : part.kind ≠ "spread_element") : Asks t resolving part
  | operand {t u : Tree} (kind : t.kind = "unary_expression")
      (found : t.field? "argument" = some u) : Asks t resolving u
  | left {t u : Tree} (kind : t.kind = "binary_expression") (found : t.field? "left" = some u) :
      Asks t resolving u
  | right {t u : Tree} {left : Value} (continues : Continues context depth resolving t left)
      (found : t.field? "right" = some u) : Asks t resolving u
  | condition {t u : Tree} (kind : t.kind = "ternary_expression")
      (found : t.field? "condition" = some u) : Asks t resolving u
  | branch {t condition u : Tree} {v : Value} (kind : t.kind = "ternary_expression")
      (tested : t.field? "condition" = some condition)
      (given : Gives (evaluate context depth resolving condition) v)
      (found : t.field? (if v.truthy then "consequence" else "alternative") = some u) :
      Asks t resolving u
  | frozen {t function arguments u : Tree} (kind : t.kind = "call_expression")
      (called : t.field? "function" = some function) (given : t.field? "arguments" = some arguments)
      (freezes : function.text = "Object.freeze") (only : arguments.parts = [u]) :
      Asks t resolving u
  | target {t u : Tree} (kind : t.kind = "member_expression")
      (found : t.field? "object" = some u) : Asks t resolving u

/-- At a node a value is turned into text: one that is inserted, or a side of a sum that is a
text. The right side has its turn only if the left one does not fail. -/
inductive Converts : Tree → Value → Prop where
  | inserted {t u : Tree} {v : Value} (inserts : Inserts context depth resolving t u)
      (given : Gives (evaluate context depth resolving u) v) : Converts t v
  | left {t : Tree} {left right : Value} (applies : Applies context depth resolving t left right)
      (sum : operatorOf t = "+") (joined : Operators.AreJoined left right) : Converts t left
  | right {t : Tree} {left right : Value} {text : Option String}
      (applies : Applies context depth resolving t left right) (sum : operatorOf t = "+")
      (joined : Operators.AreJoined left right) (before : left.spelling = .ok text) :
      Converts t right

/-- Something fails at a node itself: a literal text, number, chunk or key that is read, a look-up,
a value that is turned into text, or an operator. -/
inductive Trouble : Tree → Fault → Prop where
  | text {t : Tree} {fault : Fault} (kind : t.kind = "string")
      (unread : Literal.stringValue t = .error fault) : Trouble t fault
  | number {t : Tree} {fault : Fault} (kind : t.kind = "number")
      (unread : Literal.numberValue t.text = .error fault) : Trouble t fault
  | chunk {t part : Tree} {fault : Fault} (kind : t.kind = "template_string")
      (arrives : Arrives context depth resolving t part)
      (fixed : part.kind ≠ "template_substitution")
      (unread : Literal.fragmentValue part = .error fault) : Trouble t fault
  | key {t part key : Tree} {fault : Fault} (kind : t.kind = "object")
      (arrives : Arrives context depth resolving t part) (pair : part.kind = "pair")
      (found : part.field? "key" = some key) (fixed : key.kind ≠ "computed_property_name")
      (unread : Literal.propertyKey? key = .error fault) : Trouble t fault
  | lookup {t : Tree} {name : String} {fault : Fault} (names : Names context depth resolving t name)
      (looked : IsLookedUp context resolving name) (fails : Fails (context.find name) fault) :
      Trouble t fault
  | unspelled {t : Tree} {v : Value} {fault : Fault}
      (converts : Converts context depth resolving t v)
      (unspelled : v.spelling = .error fault) : Trouble t fault
  | tooLarge {t : Tree} {left right : Value}
      (applies : Applies context depth resolving t left right)
      (apart : ¬ (operatorOf t = "+" ∧ Operators.AreJoined left right))
      (fails : Fails (Operators.binary (operatorOf t) left right) .tooLarge) : Trouble t .tooLarge

variable {context depth resolving} {t : Tree}

/-! ## One expression -/

section Kinds

variable {below : Below}

theorem evaluateNode_wrapped (kind : t.kind ∈ wrappers) :
    evaluateNode context resolving below t = absentOr (below resolving) t.named.head? := by
  simp only [wrappers, List.mem_cons, List.not_mem_nil, or_false] at kind
  unfold evaluateNode
  rcases kind with kind | kind | kind | kind <;> simp [kind, wrappers]

theorem evaluateNode_identifier (kind : t.kind = "identifier") :
    evaluateNode context resolving below t = Expression.name context resolving below t.text := by
  unfold evaluateNode
  simp [kind, wrappers]

theorem evaluateNode_template (kind : t.kind = "template_string") :
    evaluateNode context resolving below t = template (below resolving) t := by
  unfold evaluateNode
  simp [kind, wrappers]

theorem evaluateNode_object (kind : t.kind = "object") :
    evaluateNode context resolving below t = do
      return .object (← t.named.foldlM
        (objectPart (Expression.name context resolving below) (below resolving)) []) := by
  unfold evaluateNode
  simp [kind, wrappers]

theorem evaluateNode_array (kind : t.kind = "array") :
    evaluateNode context resolving below t = do
      return .list (← t.named.mapM (arrayPart (below resolving))).flatten := by
  unfold evaluateNode
  simp [kind, wrappers]

theorem evaluateNode_unary (kind : t.kind = "unary_expression") :
    evaluateNode context resolving below t =
      absentOr (below resolving) (t.field? "argument") >>= Operators.unary (operatorOf t) := by
  unfold evaluateNode
  simp [kind, wrappers, operatorOf]

theorem evaluateNode_binary (kind : t.kind = "binary_expression") :
    evaluateNode context resolving below t = binary (below resolving) t := by
  unfold evaluateNode
  simp [kind, wrappers]

theorem evaluateNode_ternary (kind : t.kind = "ternary_expression") :
    evaluateNode context resolving below t = ternary (below resolving) t := by
  unfold evaluateNode
  simp [kind, wrappers]

theorem evaluateNode_call (kind : t.kind = "call_expression") :
    evaluateNode context resolving below t = call (below resolving) t := by
  unfold evaluateNode
  simp [kind, wrappers]

theorem evaluateNode_member (kind : t.kind = "member_expression") :
    evaluateNode context resolving below t = member (below resolving) t := by
  unfold evaluateNode
  simp [kind, wrappers]

end Kinds

theorem unary_safe (operator : String) (v : Value) :
    ¬ Fails (Operators.unary operator v) fault := by
  unfold Operators.unary
  split <;> simp

/-- An expression is in trouble itself, or asks for one that fails. -/
def Stumbles (context : Context) (depth : Nat) (resolving : List String) (t : Tree)
    (fault : Fault) : Prop :=
  Trouble context depth resolving t fault ∨ ∃ names u,
    Asks context depth resolving t names u ∧ Fails (evaluate context depth names u) fault

/-- A failure of what is asked for is one of the expression. -/
theorem Asks.stumbles {names : List String} {u : Tree}
    (asks : Asks context depth resolving t names u)
    (fails : Fails (evaluate context depth names u) fault) :
    Stumbles context depth resolving t fault :=
  .inr ⟨names, u, asks, fails⟩

/-- An expression that names something stumbles where the name fails. -/
theorem Names.stumbles {name : String} (names : Names context depth resolving t name)
    (fails : Fails (Expression.name context resolving (evaluate context depth) name) fault) :
    Stumbles context depth resolving t fault := by
  obtain ⟨looked, unfound | ⟨u, found, fails⟩⟩ := name_fails_iff.1 fails
  · exact .inl (.lookup names looked unfound)
  · exact (Asks.name names looked found).stumbles fails

/-- A template stumbles over an expression in it that fails or has no text. -/
theorem Inserts.stumbles {u : Tree} (inserts : Inserts context depth resolving t u)
    (fails : Fails (evaluate context depth resolving u) fault ∨
      ∃ v, Gives (evaluate context depth resolving u) v ∧ v.spelling = .error fault) :
    Stumbles context depth resolving t fault := by
  obtain fails | ⟨v, given, unspelled⟩ := fails
  · exact (Asks.inserted inserts).stumbles fails
  · exact .inl (.unspelled (.inserted inserts given) unspelled)

theorem stumbles_template (kind : t.kind = "template_string")
    (fails : Fails (template (evaluate context depth resolving) t) fault) :
    Stumbles context depth resolving t fault := by
  obtain ⟨before, part, after, texts, split, earlier, fails⟩ := template_fails_iff.1 fails
  have arrives := Arrives.template kind split earlier
  obtain ⟨isHole, u, inside, fails⟩ | ⟨fixed, unread⟩ := templatePart_fails_iff.1 fails
  · exact (Inserts.hole kind arrives isHole inside).stumbles fails
  · exact .inl (.chunk kind arrives fixed unread)

theorem stumbles_object (kind : t.kind = "object")
    (fails : Fails (t.named.foldlM (objectPart
      (Expression.name context resolving (evaluate context depth))
      (evaluate context depth resolving)) []) fault) :
    Stumbles context depth resolving t fault := by
  obtain ⟨before, part, after, entries, split, earlier, fails⟩ := fails_foldlM.1 fails
  have arrives := Arrives.object kind split earlier
  obtain ⟨pair, fails⟩ | ⟨short, fails⟩ | ⟨isSpread, u, inside, fails⟩ :=
    objectPart_fails_iff.1 fails
  · obtain fails | ⟨name, named, u, found, fails⟩ := fails
    · obtain ⟨key, found, ⟨computed, u, inside, fails⟩ | ⟨fixed, unread⟩⟩ :=
        entryKey_fails_iff.1 fails
      · exact (Inserts.key kind arrives pair found computed inside).stumbles fails
      · exact .inl (.key kind arrives pair found fixed unread)
    · exact (Asks.entry kind arrives pair named found).stumbles fails
  · exact (Names.shorthand kind arrives short).stumbles fails
  · exact (Asks.spread (.inl kind) arrives isSpread inside).stumbles fails

theorem stumbles_array (kind : t.kind = "array")
    (fails : Fails (t.named.mapM (arrayPart (evaluate context depth resolving))) fault) :
    Stumbles context depth resolving t fault := by
  obtain ⟨before, part, after, values, split, earlier, fails⟩ := fails_mapM.1 fails
  have arrives := Arrives.array kind split earlier
  obtain ⟨isSpread, u, inside, fails⟩ | ⟨isCode, isOne, fails⟩ := arrayPart_fails_iff.1 fails
  · exact (Asks.spread (.inr kind) arrives isSpread inside).stumbles fails
  · exact (Asks.item kind arrives isCode isOne).stumbles fails

theorem stumbles_binary (kind : t.kind = "binary_expression")
    (fails : Fails (binary (evaluate context depth resolving) t) fault) :
    Stumbles context depth resolving t fault := by
  obtain ⟨first, found, fails | ⟨left, given, undecided, second, found', fails⟩⟩ :=
    binary_fails_iff.1 fails
  · exact (Asks.left kind found).stumbles fails
  have continues : Continues context depth resolving t left :=
    ⟨kind, ⟨first, found, given⟩, undecided⟩
  obtain fails | ⟨strict, right, given', fails⟩ := fails
  · exact (Asks.right continues found').stumbles fails
  have applies : Applies context depth resolving t left right :=
    ⟨continues, ⟨second, found', given'⟩, strict⟩
  by_cases joins : operatorOf t = "+" ∧ Operators.AreJoined left right
  · obtain ⟨sum, joined⟩ := joins
    rw [sum, Operators.binary_of_areJoined joined, Operators.concat_fails_iff] at fails
    obtain unspelled | ⟨⟨text, before⟩, unspelled⟩ := fails
    · exact .inl (.unspelled (.left applies sum joined) unspelled)
    · exact .inl (.unspelled (.right applies sum joined before) unspelled)
  · obtain ⟨rfl, -⟩ := Operators.binary_fails joins fails
    exact .inl (.tooLarge applies joins fails)

/-- An expression that fails stumbles. -/
theorem stumbles_of_fails (fails : Fails (evaluate context (depth + 1) resolving t) fault) :
    Stumbles context depth resolving t fault := by
  replace fails : Fails (evaluateNode context resolving (evaluate context depth) t) fault := fails
  dsimp only [evaluateNode] at fails
  obtain ⟨kind, fails⟩ | fails := cases_of_fails fails
  · exact .inl (.text (beq_iff_eq.1 kind) (by simpa using fails))
  obtain ⟨kind, fails⟩ | fails := cases_of_fails fails
  · exact .inl (.number (beq_iff_eq.1 kind) (by simpa using fails))
  obtain ⟨-, fails⟩ | fails := cases_of_fails fails
  · simp at fails
  obtain ⟨-, fails⟩ | fails := cases_of_fails fails
  · simp at fails
  obtain ⟨-, fails⟩ | fails := cases_of_fails fails
  · simp at fails
  obtain ⟨kind, fails⟩ | fails := cases_of_fails fails
  · obtain ⟨u, inside, fails⟩ := absentOr_fails_iff.1 fails
    exact (Asks.wrapped (List.contains_iff_mem.1 kind) inside).stumbles fails
  obtain ⟨kind, fails⟩ | fails := cases_of_fails fails
  · exact (Names.identifier (beq_iff_eq.1 kind)).stumbles fails
  obtain ⟨kind, fails⟩ | fails := cases_of_fails fails
  · exact stumbles_template (beq_iff_eq.1 kind) fails
  obtain ⟨kind, fails⟩ | fails := cases_of_fails fails
  · exact stumbles_object (beq_iff_eq.1 kind) (by simpa using fails)
  obtain ⟨kind, fails⟩ | fails := cases_of_fails fails
  · exact stumbles_array (beq_iff_eq.1 kind) (by simpa using fails)
  obtain ⟨kind, fails⟩ | fails := cases_of_fails fails
  · rw [fails_bind_left (unary_safe _)] at fails
    obtain ⟨u, found, fails⟩ := absentOr_fails_iff.1 fails
    exact (Asks.operand (beq_iff_eq.1 kind) found).stumbles fails
  obtain ⟨kind, fails⟩ | fails := cases_of_fails fails
  · exact stumbles_binary (beq_iff_eq.1 kind) fails
  obtain ⟨kind, fails⟩ | fails := cases_of_fails fails
  · have isTernary : t.kind = "ternary_expression" := beq_iff_eq.1 kind
    obtain ⟨condition, tested, fails | ⟨v, given, u, found, fails⟩⟩ := ternary_fails_iff.1 fails
    · exact (Asks.condition isTernary tested).stumbles fails
    · exact (Asks.branch isTernary tested given found).stumbles fails
  obtain ⟨kind, fails⟩ | fails := cases_of_fails fails
  · obtain ⟨function, arguments, u, called, given, freezes, only, fails⟩ := call_fails_iff.1 fails
    exact (Asks.frozen (beq_iff_eq.1 kind) called given freezes only).stumbles fails
  obtain ⟨kind, fails⟩ | fails := cases_of_fails fails
  · obtain ⟨u, found, fails⟩ := member_fails_iff.1 fails
    exact (Asks.target (beq_iff_eq.1 kind) found).stumbles fails
  · simp at fails

/-! ## What fails on the way fails -/

/-- A template fails with a part that is arrived at. -/
theorem fails_of_chunk {part : Tree} (kind : t.kind = "template_string")
    (arrives : Arrives context depth resolving t part)
    (fails : Fails (templatePart (evaluate context depth resolving) part) fault) :
    Fails (evaluate context (depth + 1) resolving t) fault := by
  rw [evaluate, evaluateNode_template kind, template_fails_iff]
  cases arrives with
  | template _ split earlier => exact ⟨_, _, _, _, split, earlier, fails⟩
  | object other | array other => simp [kind] at other

/-- A part of an object that is arrived at fails the object if it fails after any entries. -/
theorem fails_of_part {part : Tree} (kind : t.kind = "object")
    (arrives : Arrives context depth resolving t part)
    (fails : ∀ entries, Fails (objectPart
      (Expression.name context resolving (evaluate context depth))
      (evaluate context depth resolving) entries part) fault) :
    Fails (evaluate context (depth + 1) resolving t) fault := by
  rw [evaluate, evaluateNode_object kind, fails_bind, fails_foldlM]
  cases arrives with
  | object _ split earlier => exact .inl ⟨_, _, _, _, split, earlier, fails _⟩
  | template other | array other => simp [kind] at other

/-- A part of an array that is arrived at fails the array. -/
theorem fails_of_item {part : Tree} (kind : t.kind = "array")
    (arrives : Arrives context depth resolving t part)
    (fails : Fails (arrayPart (evaluate context depth resolving) part) fault) :
    Fails (evaluate context (depth + 1) resolving t) fault := by
  rw [evaluate, evaluateNode_array kind, fails_bind, fails_mapM]
  cases arrives with
  | array _ split earlier => exact .inl ⟨_, _, _, _, split, earlier, fails⟩
  | template other | object other => simp [kind] at other

/-- The failure of a name that is read is one of the expression. -/
theorem Names.fails {name : String} (names : Names context depth resolving t name)
    (fails : Fails (Expression.name context resolving (evaluate context depth) name) fault) :
    Fails (evaluate context (depth + 1) resolving t) fault := by
  cases names with
  | identifier kind =>
      rw [evaluate, evaluateNode_identifier kind]
      exact fails
  | shorthand kind arrives short =>
      exact fails_of_part kind arrives fun _ => objectPart_fails_iff.2 (.inr (.inl ⟨short, fails⟩))

/-- An expression in a template that fails or has no text fails the template. -/
theorem Inserts.fails {u : Tree} (inserts : Inserts context depth resolving t u)
    (fails : Fails (evaluate context depth resolving u) fault ∨
      ∃ v, Gives (evaluate context depth resolving u) v ∧ v.spelling = .error fault) :
    Fails (evaluate context (depth + 1) resolving t) fault := by
  cases inserts with
  | hole kind arrives isHole inside =>
      exact fails_of_chunk kind arrives (templatePart_fails_iff.2 (.inl ⟨isHole, u, inside, fails⟩))
  | key kind arrives pair found computed inside =>
      refine fails_of_part kind arrives fun _ => objectPart_fails_iff.2 (.inl ⟨pair, .inl ?_⟩)
      exact entryKey_fails_iff.2 ⟨_, found, .inl ⟨computed, u, inside, fails⟩⟩

/-- A right operand that fails, or an operator that does. -/
theorem Continues.fails {left : Value} {second : Tree}
    (continues : Continues context depth resolving t left) (found : t.field? "right" = some second)
    (fails : Fails (evaluate context depth resolving second) fault ∨
      Operators.shortCircuit? (operatorOf t) left = none ∧ ∃ right,
        Gives (evaluate context depth resolving second) right ∧
          Fails (Operators.binary (operatorOf t) left right) fault) :
    Fails (evaluate context (depth + 1) resolving t) fault := by
  obtain ⟨kind, ⟨first, found', given⟩, undecided⟩ := continues
  rw [evaluate, evaluateNode_binary kind, binary_fails_iff]
  exact ⟨first, found', .inr ⟨left, given, undecided, second, found, fails⟩⟩

/-- An operator that fails on the values of its operands fails. -/
theorem Applies.fails {left right : Value} (applies : Applies context depth resolving t left right)
    (fails : Fails (Operators.binary (operatorOf t) left right) fault) :
    Fails (evaluate context (depth + 1) resolving t) fault := by
  obtain ⟨second, found, given⟩ := applies.operand
  exact applies.continues.fails found (.inr ⟨applies.strict, right, given, fails⟩)

/-- An operator that is applied gives what it gives on the two values. -/
theorem Applies.gives {left right v : Value} (applies : Applies context depth resolving t left right)
    (given : Gives (Operators.binary (operatorOf t) left right) v) :
    Gives (evaluate context (depth + 1) resolving t) v := by
  obtain ⟨⟨kind, ⟨first, found, before⟩, -⟩, ⟨second, found', after⟩, strict⟩ := applies
  have evaluated : Gives (binary (evaluate context depth resolving) t) v := by
    simp only [binary, absentOr_eq, gives_bind, gives_ofOption, found, found']
    refine ⟨left, ⟨first, rfl, before⟩, ?_⟩
    rw [← operatorOf, strict]
    simpa only [gives_bind, gives_ofOption] using ⟨right, ⟨second, rfl, after⟩, given⟩
  rwa [evaluate, evaluateNode_binary kind]

/-- What is asked for fails the expression that asks. -/
theorem Asks.fails {names : List String} {u : Tree} (asks : Asks context depth resolving t names u)
    (fails : Fails (evaluate context depth names u) fault) :
    Fails (evaluate context (depth + 1) resolving t) fault := by
  cases asks with
  | wrapped kind inside =>
      rw [evaluate, evaluateNode_wrapped kind, absentOr_fails_iff]
      exact ⟨u, inside, fails⟩
  | name names looked found =>
      exact names.fails (name_fails_iff.2 ⟨looked, .inr ⟨u, found, fails⟩⟩)
  | inserted inserts => exact inserts.fails (.inl fails)
  | entry kind arrives pair named found =>
      exact fails_of_part kind arrives fun _ =>
        objectPart_fails_iff.2 (.inl ⟨pair, .inr ⟨_, named, u, found, fails⟩⟩)
  | spread kind arrives isSpread inside =>
      obtain kind | kind := kind
      · exact fails_of_part kind arrives fun _ =>
          objectPart_fails_iff.2 (.inr (.inr ⟨isSpread, u, inside, fails⟩))
      · exact fails_of_item kind arrives (arrayPart_fails_iff.2 (.inl ⟨isSpread, u, inside, fails⟩))
  | item kind arrives isCode isOne =>
      exact fails_of_item kind arrives (arrayPart_fails_iff.2 (.inr ⟨isCode, isOne, fails⟩))
  | operand kind found =>
      rw [evaluate, evaluateNode_unary kind, fails_bind, absentOr_fails_iff]
      exact .inl ⟨u, found, fails⟩
  | left kind found =>
      rw [evaluate, evaluateNode_binary kind, binary_fails_iff]
      exact ⟨u, found, .inl fails⟩
  | right continues found => exact continues.fails found (.inl fails)
  | condition kind found =>
      rw [evaluate, evaluateNode_ternary kind, ternary_fails_iff]
      exact ⟨u, found, .inl fails⟩
  | branch kind tested given found =>
      rw [evaluate, evaluateNode_ternary kind, ternary_fails_iff]
      exact ⟨_, tested, .inr ⟨_, given, u, found, fails⟩⟩
  | frozen kind called given freezes only =>
      rw [evaluate, evaluateNode_call kind, call_fails_iff]
      exact ⟨_, _, u, called, given, freezes, only, fails⟩
  | target kind found =>
      rw [evaluate, evaluateNode_member kind, member_fails_iff]
      exact ⟨u, found, fails⟩

/-- A value that has no text fails the expression that puts it into words. -/
theorem Converts.fails {v : Value} (converts : Converts context depth resolving t v)
    (unspelled : v.spelling = .error fault) :
    Fails (evaluate context (depth + 1) resolving t) fault := by
  cases converts with
  | inserted inserts given => exact inserts.fails (.inr ⟨v, given, unspelled⟩)
  | left applies sum joined =>
      refine applies.fails ?_
      rw [sum, Operators.binary_of_areJoined joined, Operators.concat_fails_iff]
      exact .inl unspelled
  | right applies sum joined before =>
      refine applies.fails ?_
      rw [sum, Operators.binary_of_areJoined joined, Operators.concat_fails_iff]
      exact .inr ⟨⟨_, before⟩, unspelled⟩

theorem Trouble.fails (trouble : Trouble context depth resolving t fault) :
    Fails (evaluate context (depth + 1) resolving t) fault := by
  cases trouble with
  | text kind unread => simp [evaluate, evaluateNode, kind, unread]
  | number kind unread => simp [evaluate, evaluateNode, kind, unread]
  | chunk kind arrives fixed unread =>
      exact fails_of_chunk kind arrives (templatePart_fails_iff.2 (.inr ⟨fixed, unread⟩))
  | key kind arrives pair found fixed unread =>
      refine fails_of_part kind arrives fun _ => objectPart_fails_iff.2 (.inl ⟨pair, .inl ?_⟩)
      exact entryKey_fails_iff.2 ⟨_, found, .inr ⟨fixed, unread⟩⟩
  | lookup names looked fails => exact names.fails (name_fails_iff.2 ⟨looked, .inl fails⟩)
  | unspelled converts unspelled => exact converts.fails unspelled
  | tooLarge applies _ fails => exact applies.fails fails

/-! ## The whole way -/

/-- An evaluation reaches an expression, which is evaluated with so much depth to go and with
these names under evaluation. -/
inductive Reaches (context : Context) :
    Nat → List String → Tree → Nat → List String → Tree → Prop where
  | here {depth : Nat} {resolving : List String} {t : Tree} :
      Reaches context (depth + 1) resolving t depth resolving t
  | deeper {depth deep : Nat} {resolving names resolving' : List String} {t u v : Tree}
      (asks : Asks context depth resolving t names u)
      (further : Reaches context depth names u deep resolving' v) :
      Reaches context (depth + 1) resolving t deep resolving' v

end Way

/-- An evaluation fails with a fault exactly if it reaches an expression that is in this trouble
itself. -/
theorem evaluate_fails_iff {context : Context} {depth : Nat} {resolving : List String} {t : Tree} :
    Fails (evaluate context depth resolving t) fault ↔ ∃ deep names u,
      Reaches context depth resolving t deep names u ∧ Trouble context deep names u fault := by
  constructor
  · induction depth generalizing resolving t with
    | zero =>
        intro fails
        simp [evaluate] at fails
    | succ depth ih =>
        intro fails
        obtain trouble | ⟨names, u, asks, fails⟩ := stumbles_of_fails fails
        · exact ⟨depth, resolving, t, .here, trouble⟩
        · obtain ⟨deep, names', v, reaches, trouble⟩ := ih fails
          exact ⟨deep, names', v, .deeper asks reaches, trouble⟩
  · rintro ⟨deep, names, u, reaches, trouble⟩
    induction reaches with
    | here => exact trouble.fails
    | deeper asks _ ih => exact asks.fails (ih trouble)

end Expression

end TypeGloss
