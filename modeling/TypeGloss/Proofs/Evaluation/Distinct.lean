/-
# TypeGloss.Proofs.Evaluation.Distinct — no name occurs twice in an object

What is evaluated has no name twice in any object, at any depth (`Value.IsDistinct`): literals are
written entry by entry, and every other expression passes on values that it has got. It is enough
that this holds of the constants (`evaluate_distinct`).

`Holds P x` says that whatever `x` comes to satisfies `P`. It is shown of an evaluation by showing
it of the parts.
-/
import TypeGloss.Proofs.Entries
import TypeGloss.Proofs.Evaluation.Outcome

namespace TypeGloss

set_option autoImplicit false

variable {α β : Type}

/-! ## What holds of all outcomes -/

namespace Evaluation

/-- Whatever the evaluation comes to satisfies the predicate. -/
def Holds (P : α → Prop) (x : Evaluation α) : Prop :=
  ∀ a, Gives x a → P a

namespace Holds

variable {P : α → Prop} {Q : β → Prop}

theorem pure {a : α} (here : P a) : Holds P (pure a) := by
  intro b given
  rwa [← gives_pure.1 given]

theorem unresolved : Holds P unresolved := fun _ given => absurd given not_gives_unresolved

theorem any (x : Evaluation α) : Holds (fun _ => True) x := fun _ _ => trivial

theorem ofOption {found : Option α} (each : ∀ a, found = some a → P a) :
    Holds P (ofOption found) := fun a given => each a (gives_ofOption.1 given)

theorem ofResult {result : Result α} (each : ∀ a, result = .ok a → P a) :
    Holds P (ofResult result) := fun a given => each a (gives_ofResult.1 given)

theorem bind {x : Evaluation α} {f : α → Evaluation β} (first : Holds P x)
    (rest : ∀ a, P a → Holds Q (f a)) : Holds Q (x >>= f) := by
  intro b given
  obtain ⟨a, before, last⟩ := gives_bind.1 given
  exact rest a (first a before) b last

theorem either {c : Prop} [Decidable c] {x y : Evaluation α} (yes : c → Holds P x)
    (no : ¬c → Holds P y) : Holds P (if c then x else y) := by
  split
  · next holds => exact yes holds
  · next fails => exact no fails

theorem mapM {f : α → Evaluation β} (each : ∀ a, Holds Q (f a)) (items : List α) :
    Holds (fun values => ∀ b ∈ values, Q b) (items.mapM f) := by
  induction items with
  | nil => exact pure nofun
  | cons item rest ih =>
      rw [List.mapM_cons]
      exact (each item).bind fun b here => ih.bind fun bs there =>
        pure (List.forall_mem_cons.2 ⟨here, there⟩)

theorem foldlM {f : β → α → Evaluation β} (each : ∀ b a, Q b → Holds Q (f b a)) (items : List α)
    {b : β} (before : Q b) : Holds Q (items.foldlM f b) := by
  induction items generalizing b with
  | nil => exact pure before
  | cons item rest ih => exact (each b item before).bind fun _ => ih

end Holds

end Evaluation

/-! ## Values -/

namespace Value

/-- No name occurs twice in the value, or in an object inside of it. -/
inductive IsDistinct : Value → Prop where
  | null : IsDistinct .null
  | flag (b : Bool) : IsDistinct (.flag b)
  | integer (n : Int) : IsDistinct (.integer n)
  | number (x : Float) : IsDistinct (.number x)
  | notNumber (mark : Nat) : IsDistinct (.notNumber mark)
  | text (s : String) : IsDistinct (.text s)
  | list {items : List Value} (each : ∀ v ∈ items, IsDistinct v) : IsDistinct (.list items)
  | object {entries : Entries Value} (nodup : (Entries.names entries).Nodup)
      (each : ∀ v ∈ Entries.entries entries, IsDistinct v) : IsDistinct (.object entries)

/-- The entries of a distinct object. -/
structure AreDistinct (entries : Entries Value) : Prop where
  nodup : (Entries.names entries).Nodup
  each : ∀ v ∈ Entries.entries entries, IsDistinct v

variable {entries more : Entries Value} {name : String} {v : Value}

theorem isDistinct_object : (object entries).IsDistinct ↔ AreDistinct entries := by
  constructor
  · rintro (_ | _ | _ | _ | _ | _ | _ | ⟨nodup, each⟩)
    exact ⟨nodup, each⟩
  · exact fun ⟨nodup, each⟩ => .object nodup each

theorem IsDistinct.items {items : List Value} (distinct : (Value.list items).IsDistinct) :
    ∀ v ∈ items, v.IsDistinct := by
  cases distinct with
  | list each => exact each

namespace AreDistinct

theorem nil : AreDistinct [] := ⟨List.nodup_nil, nofun⟩

theorem of_find? (distinct : AreDistinct entries) (found : Entries.find? name entries = some v) :
    v.IsDistinct :=
  distinct.each v (List.mem_map_of_mem (Entries.mem_of_find?_eq_some found))

theorem put (distinct : AreDistinct entries) (written : v.IsDistinct) :
    AreDistinct (Entries.put name v entries) := by
  refine ⟨Entries.nodup_names_put distinct.nodup name v, fun other among => ?_⟩
  rcases Entries.mem_entries_put among with rfl | earlier
  · exact written
  · exact distinct.each other earlier

theorem putAll (distinct : AreDistinct entries)
    (written : ∀ v ∈ Entries.entries more, v.IsDistinct) :
    AreDistinct (Entries.putAll entries more) := by
  induction more generalizing entries with
  | nil => exact distinct
  | cons item rest ih =>
      obtain ⟨first, others⟩ := List.forall_mem_cons.1 written
      exact ih (distinct.put first) others

end AreDistinct

theorem ofFloat_isDistinct (x : Float) : (ofFloat x).IsDistinct := by
  unfold ofFloat
  split
  · split
    · exact .integer _
    · exact .number _
  · exact .number _

end Value

theorem Literal.numberValue_isDistinct {text : String} {v : Value}
    (read : numberValue text = .ok v) : v.IsDistinct := by
  have ofInteger (n : Int) : (ofInteger n).IsDistinct := by
    unfold Literal.ofInteger
    split
    · exact .integer n
    · exact .number _
  have mapped {γ : Type} {result : Result γ} {f : γ → Value} (each : ∀ c, (f c).IsDistinct)
      (read : result.map f = .ok v) : v.IsDistinct := by
    cases result with
    | error fault => cases read
    | ok c =>
        cases read
        exact each c
  unfold numberValue at read
  dsimp only at read
  split at read
  · exact mapped ofInteger read
  · split at read
    · exact mapped Value.ofFloat_isDistinct read
    · exact mapped ofInteger read

/-! ## Operators -/

namespace Operators

open Evaluation

theorem arithmetic_isDistinct {operator : String} {f : Float → Float → Value}
    (known : arithmetic? operator = some f) (x y : Float) : (f x y).IsDistinct := by
  have quotient : (quotient x y).IsDistinct := by
    unfold Operators.quotient
    split
    · exact .notNumber 0
    · exact Value.ofFloat_isDistinct _
  have remainder : (remainder x y).IsDistinct := by
    unfold Operators.remainder
    split
    · exact .notNumber 0
    · exact Value.ofFloat_isDistinct _
  have power : (power x y).IsDistinct := by
    unfold Operators.power
    split
    · exact .notNumber 0
    · dsimp only
      split
      · exact .notNumber 0
      · exact Value.ofFloat_isDistinct _
  unfold arithmetic? at known
  split at known
  -- The last case is that of an operator that is not known.
  case h_7 => cases known
  all_goals
    cases known
    first
    | exact quotient
    | exact remainder
    | exact power
    | exact Value.ofFloat_isDistinct _

theorem concat_distinct (left right : Value) : Holds Value.IsDistinct (concat left right) := by
  refine (Holds.any _).bind fun before _ => (Holds.any _).bind fun after _ => ?_
  split
  · exact .pure (.text _)
  · exact .unresolved

theorem add_distinct (left right : Value) : Holds Value.IsDistinct (add left right) := by
  unfold add
  refine .either (fun _ => ?_) fun _ => ?_
  · exact (Holds.any _).bind fun _ _ => (Holds.any _).bind fun _ _ =>
      .pure (Value.ofFloat_isDistinct _)
  · split
    · exact concat_distinct _ _
    · exact concat_distinct _ _
    · exact .unresolved

theorem numeric_distinct (operator : String) (left right : Value) :
    Holds Value.IsDistinct (numeric operator left right) := by
  unfold numeric
  split
  · next f known =>
      exact (Holds.any _).bind fun _ _ => (Holds.any _).bind fun _ _ =>
        .pure (arithmetic_isDistinct known _ _)
  · split
    · exact .pure (.flag _)
    · split
      · exact (Holds.any _).bind fun _ _ => (Holds.any _).bind fun _ _ => .pure (.integer _)
      · exact .unresolved

theorem binary_distinct (operator : String) (left right : Value) :
    Holds Value.IsDistinct (Operators.binary operator left right) := by
  unfold Operators.binary
  refine .either (fun _ => add_distinct left right) fun _ => .either (fun _ => .pure (.flag _))
    fun _ => .either (fun _ => .pure (.flag _)) fun _ =>
      .either (fun _ => numeric_distinct operator left right) fun _ => .unresolved

theorem unary_distinct (operator : String) (v : Value) :
    Holds Value.IsDistinct (unary operator v) := by
  unfold unary
  split
  · exact .pure (.flag _)
  · exact .pure (.integer _)
  · exact .pure (.number _)
  · exact .pure (.number _)
  · exact .pure (.integer _)
  · exact .pure (.number _)
  · exact .pure (.notNumber _)
  · exact .pure (.integer _)
  · exact .unresolved

/-- An operator that is decided by its left operand passes it on. -/
theorem shortCircuit?_isDistinct {operator : String} {left v : Value} (distinct : left.IsDistinct)
    (decided : shortCircuit? operator left = some (some v)) : v.IsDistinct := by
  unfold shortCircuit? at decided
  split at decided
  · split at decided
    · cases decided
    · cases decided
      exact distinct
  · split at decided
    · cases decided
      exact distinct
    · cases decided
  · split at decided
    · cases decided
    · cases decided
      exact distinct
  · cases decided

end Operators

/-! ## Expressions -/

namespace Expression

open Evaluation

/-- The constants of a context are distinct. -/
def Context.IsDistinct (context : Context) : Prop :=
  ∀ name v, Entries.find? name context.constants = some v → v.IsDistinct

theorem Context.isDistinct_of_nil {context : Context} (none : context.constants = []) :
    context.IsDistinct := by
  intro name v found
  rw [none] at found
  cases found

section Parts

variable {below : Tree → Evaluation Value} (inner : ∀ t, Holds Value.IsDistinct (below t))

include inner

theorem absentOr_distinct (t : Option Tree) : Holds Value.IsDistinct (absentOr below t) := by
  cases t with
  | none => exact .unresolved
  | some t => exact inner t

/-- A part of an object adds to the entries without repeating a name. -/
theorem objectPart_distinct {ofName : String → Evaluation Value}
    (names : ∀ name, Holds Value.IsDistinct (ofName name)) (entries : Entries Value) (part : Tree)
    (distinct : Value.AreDistinct entries) :
    Holds Value.AreDistinct (objectPart ofName below entries part) := by
  unfold objectPart
  refine .either (fun _ => .pure distinct) fun _ => .either (fun _ => ?_) fun _ =>
    .either (fun _ => ?_) fun _ => .either (fun _ => ?_) fun _ => .unresolved
  · exact (Holds.any _).bind fun _ _ => (absentOr_distinct inner _).bind fun _ written =>
      .pure (distinct.put written)
  · exact (names part.text).bind fun _ written => .pure (distinct.put written)
  · refine (absentOr_distinct inner _).bind fun v copied => ?_
    split
    · exact .pure (distinct.putAll (Value.isDistinct_object.1 copied).each)
    · exact .unresolved

theorem arrayPart_distinct (part : Tree) :
    Holds (fun items => ∀ v ∈ items, v.IsDistinct) (arrayPart below part) := by
  unfold arrayPart
  refine .either (fun _ => .pure nofun) fun _ => .either (fun _ => ?_) fun _ => ?_
  · refine (absentOr_distinct inner _).bind fun v copied => ?_
    split
    · refine .pure fun v among => ?_
      obtain ⟨c, -, rfl⟩ := List.mem_map.1 among
      exact .text _
    · exact .pure copied.items
    · exact .unresolved
  · exact (inner part).bind fun _ here => .pure (List.forall_mem_singleton.2 here)

theorem binary_distinct (t : Tree) : Holds Value.IsDistinct (binary below t) := by
  refine (absentOr_distinct inner _).bind fun left distinct => ?_
  split
  · next decided => exact .pure (Operators.shortCircuit?_isDistinct distinct decided)
  · exact absentOr_distinct inner _
  · exact (absentOr_distinct inner _).bind fun right _ => Operators.binary_distinct _ left right

theorem member_distinct (t : Tree) : Holds Value.IsDistinct (member below t) := by
  refine (absentOr_distinct inner _).bind fun target distinct => ?_
  dsimp only
  split
  · exact .ofOption fun v found => (Value.isDistinct_object.1 distinct).of_find? found
  · exact .either (fun _ => .pure (.integer _)) fun _ => .unresolved
  · exact .either (fun _ => .pure (.integer _)) fun _ => .unresolved
  · exact .unresolved

theorem call_distinct (t : Tree) : Holds Value.IsDistinct (call below t) := by
  unfold call
  split
  · split
    · exact inner _
    · exact .unresolved
  · exact .unresolved

end Parts

section Names

variable {context : Context} (known : context.IsDistinct)

include known

/-- A name has a value without repeated names if all initializers have. -/
theorem name_distinct {below : Below} (inner : ∀ names t, Holds Value.IsDistinct (below names t))
    (resolving : List String) (name : String) :
    Holds Value.IsDistinct (Expression.name context resolving below name) := by
  rw [name_eq]
  refine .either (fun _ => .unresolved) fun _ => .either (fun _ => .pure (.notNumber 0)) fun _ =>
    .either (fun _ => .pure (.number _)) fun _ => ?_
  split
  · next v constant => exact .pure (known name v constant)
  · exact .either (fun _ => .unresolved) fun _ => (Holds.any _).bind fun t _ => inner _ t

theorem evaluateNode_distinct {below : Below}
    (inner : ∀ names t, Holds Value.IsDistinct (below names t)) (resolving : List String)
    (t : Tree) : Holds Value.IsDistinct (evaluateNode context resolving below t) := by
  have names := name_distinct known inner resolving
  have here := inner resolving
  dsimp only [evaluateNode]
  refine .either (fun _ => (Holds.any _).bind fun _ _ => .pure (.text _)) fun _ => ?_
  refine .either (fun _ => .ofResult fun _ => Literal.numberValue_isDistinct) fun _ => ?_
  refine .either (fun _ => .pure (.flag true)) fun _ => ?_
  refine .either (fun _ => .pure (.flag false)) fun _ => ?_
  refine .either (fun _ => .pure .null) fun _ => ?_
  refine .either (fun _ => absentOr_distinct here _) fun _ => ?_
  refine .either (fun _ => names _) fun _ => ?_
  refine .either (fun _ => ?_) fun _ => ?_
  · unfold template
    split
    · exact .pure (.text _)
    · exact (Holds.any _).bind fun _ _ => .pure (.text _)
  refine .either (fun _ => ?_) fun _ => ?_
  · exact (Holds.foldlM (objectPart_distinct here names) _ .nil).bind fun _ distinct =>
      .pure (Value.isDistinct_object.2 distinct)
  refine .either (fun _ => ?_) fun _ => ?_
  · refine (Holds.mapM (arrayPart_distinct here) _).bind fun lists each => .pure (.list ?_)
    intro v among
    obtain ⟨items, listed, among⟩ := List.mem_flatten.1 among
    exact each items listed v among
  refine .either (fun _ => (absentOr_distinct here _).bind fun v _ =>
    Operators.unary_distinct _ v) fun _ => ?_
  refine .either (fun _ => binary_distinct here t) fun _ => ?_
  refine .either (fun _ => (Holds.any _).bind fun _ _ => absentOr_distinct here _) fun _ => ?_
  refine .either (fun _ => call_distinct here t) fun _ => ?_
  exact .either (fun _ => member_distinct here t) fun _ => .unresolved

theorem evaluate_distinct (depth : Nat) (resolving : List String) (t : Tree) :
    Holds Value.IsDistinct (evaluate context depth resolving t) := by
  induction depth generalizing resolving t with
  | zero => exact .unresolved
  | succ depth ih => exact evaluateNode_distinct known ih resolving t

/-- The value of an initializer has no name twice in any object. -/
theorem value?_distinct {initializer : Option Tree} {v : Value}
    (resolved : value? context initializer = .ok (some v)) : v.IsDistinct := by
  cases initializer with
  | none => cases resolved
  | some t => exact evaluate_distinct known _ _ t v resolved

end Names

end Expression

end TypeGloss
