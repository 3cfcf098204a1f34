/-
# TypeGloss.Proofs.Evaluation.Withheld — names that are withheld

Some of the names of a context can be withheld (`Context.withhold`): they are neither constants nor
looked up then, and an expression that needs one of them is unresolved. An evaluation *reads* a name
if it reaches a node that names it (`Reads`).

To withhold names changes an evaluation in one way only: it is unresolved, and that only if it reads
one of them (`evaluate_withheld`). So an expression has the value that it has without these names,
or it reads one of them.
-/
import TypeGloss.Proofs.Evaluation.Failure
import TypeGloss.Proofs.Entries

namespace TypeGloss

set_option autoImplicit false

variable {α β : Type}

namespace Evaluation

/-- The first is the second, or it is unresolved for a reason. -/
def SameUnless (reason : Prop) (x y : Evaluation α) : Prop :=
  x = y ∨ x = unresolved ∧ reason

namespace SameUnless

variable {reason other : Prop}

theorem refl (x : Evaluation α) : SameUnless reason x x := .inl rfl

theorem mono {x y : Evaluation α} (same : SameUnless reason x y) (because : reason → other) :
    SameUnless other x y :=
  same.imp_right fun ⟨withheld, holds⟩ => ⟨withheld, because holds⟩

/-- What follows is compared for the values that the second comes to. -/
theorem bind {x y : Evaluation α} {f g : α → Evaluation β} (first : SameUnless reason x y)
    (rest : ∀ a, Gives y a → SameUnless reason (f a) (g a)) :
    SameUnless reason (x >>= f) (y >>= g) := by
  rcases first with rfl | ⟨rfl, holds⟩
  · rcases cases_outcome x with rfl | ⟨a, rfl⟩ | ⟨fault, rfl⟩
    · exact .inl rfl
    · simpa only [pure_bind] using rest a (gives_pure.2 rfl)
    · exact .inl rfl
  · exact .inr ⟨unresolved_bind f, holds⟩

/-- Two cases told apart in the same way. -/
theorem either {c : Prop} [Decidable c] {x y x' y' : Evaluation α}
    (yes : c → SameUnless reason x x') (no : ¬c → SameUnless reason y y') :
    SameUnless reason (if c then x else y) (if c then x' else y') := by
  split
  · next holds => exact yes holds
  · next fails => exact no fails

/-- Steps are compared where the second takes them. -/
theorem foldlM {f g : β → α → Evaluation β} {items : List α} {b : β}
    (each : ∀ before item after c, items = before ++ item :: after →
      Gives (before.foldlM g b) c → SameUnless reason (f c item) (g c item)) :
    SameUnless reason (items.foldlM f b) (items.foldlM g b) := by
  induction items generalizing b with
  | nil => exact .refl _
  | cons item rest ih =>
      have here : SameUnless reason (f b item) (g b item) := by
        refine each [] item rest b rfl ?_
        simp
      refine here.bind fun c given => ih fun before other after d split later => ?_
      have behind : item :: rest = (item :: before) ++ other :: after := congrArg _ split
      refine each _ other after d behind ?_
      rw [List.foldlM_cons, gives_bind]
      exact ⟨c, given, later⟩

/-- Two evaluations of a list are the same unless one of the items is a reason to differ. -/
theorem mapM {f g : α → Evaluation β} {items : List α}
    (each : ∀ before item after values, items = before ++ item :: after →
      Gives (before.mapM g) values → SameUnless reason (f item) (g item)) :
    SameUnless reason (items.mapM f) (items.mapM g) := by
  induction items with
  | nil => exact .refl _
  | cons item rest ih =>
      have here : SameUnless reason (f item) (g item) := by
        refine each [] item rest [] rfl ?_
        simp
      rw [List.mapM_cons, List.mapM_cons]
      refine here.bind fun value given => SameUnless.bind ?_ fun _ _ => .refl _
      refine ih fun before other after values split later => ?_
      have behind : item :: rest = (item :: before) ++ other :: after := congrArg _ split
      refine each _ other after (value :: values) behind ?_
      simp [given, later]

end SameUnless

end Evaluation

namespace Expression

open Evaluation

/-! ## Withholding and reading -/

/-- A context without some names. -/
def Context.withhold (hidden : List String) (context : Context) : Context where
  lookup := context.lookup.map fun find name => if hidden.contains name then .ok none else find name
  constants := context.constants.filter fun item => !hidden.contains item.1

/-- An evaluation comes to a node that names one of these. Names that are built in do not count. -/
def Reads (context : Context) (hidden : List String) (depth : Nat) (resolving : List String)
    (t : Tree) : Prop :=
  ∃ deep names u name, Reaches context depth resolving t deep names u ∧
    Names context deep names u name ∧ name ∈ hidden ∧ name ∉ ["undefined", "NaN", "Infinity"]

variable {context : Context} {hidden : List String} {name : String}

theorem find_withhold_of_mem (isHidden : name ∈ hidden) :
    (context.withhold hidden).find name = unresolved := by
  unfold Context.find Context.withhold
  cases context.lookup with
  | none => rfl
  | some find =>
      simp only [Option.map_some, List.contains_iff_mem.2 isHidden, if_true]
      rfl

theorem find_withhold_of_not_mem (inView : name ∉ hidden) :
    (context.withhold hidden).find name = context.find name := by
  unfold Context.find Context.withhold
  cases context.lookup with
  | none => rfl
  | some find => simp [inView]

theorem constant_withhold :
    Entries.find? name (context.withhold hidden).constants =
      if name ∈ hidden then none else Entries.find? name context.constants := by
  simp only [Context.withhold]
  induction context.constants with
  | nil => simp [Entries.find?]
  | cons item rest ih =>
      obtain ⟨key, value⟩ := item
      by_cases same : key = name
      · subst same
        by_cases isHidden : key ∈ hidden <;> simp_all [Entries.find?]
      · rw [List.filter_cons]
        split <;> simpa only [Entries.find?, if_neg same] using ih

variable {depth : Nat} {resolving : List String} {t : Tree}

/-- What is read for a part is read for the expression. -/
theorem Asks.reads {names : List String} {u : Tree} (asks : Asks context depth resolving t names u)
    (reads : Reads context hidden depth names u) :
    Reads context hidden (depth + 1) resolving t := by
  obtain ⟨deep, resolving', v, name, reaches, rest⟩ := reads
  exact ⟨deep, resolving', v, name, .deeper asks reaches, rest⟩

/-! ## One expression -/

/-- What expressions come to without the hidden names, below the current one. -/
def Compares (context : Context) (hidden : List String) (depth : Nat) : Prop :=
  ∀ (names : List String) (u : Tree), SameUnless (Reads context hidden depth names u)
    (evaluate (context.withhold hidden) depth names u) (evaluate context depth names u)

section Parts

variable (inner : Compares context hidden depth)

include inner

/-- What is asked for with some names withheld is the same, unless a withheld name is read. -/
theorem Asks.compares {names : List String} {u : Tree}
    (asks : Asks context depth resolving t names u) :
    SameUnless (Reads context hidden (depth + 1) resolving t)
      (evaluate (context.withhold hidden) depth names u) (evaluate context depth names u) :=
  (inner names u).mono asks.reads

theorem absentOr_compares {found : Option Tree}
    (asks : ∀ u, found = some u → Asks context depth resolving t resolving u) :
    SameUnless (Reads context hidden (depth + 1) resolving t)
      (absentOr (evaluate (context.withhold hidden) depth resolving) found)
      (absentOr (evaluate context depth resolving) found) := by
  cases found with
  | none => exact .refl _
  | some u => exact (asks u rfl).compares inner

/-- A name that is hidden is unresolved, unless it is built in. -/
theorem Names.compares (names : Names context depth resolving t name) :
    SameUnless (Reads context hidden (depth + 1) resolving t)
      (Expression.name (context.withhold hidden) resolving
        (evaluate (context.withhold hidden) depth) name)
      (Expression.name context resolving (evaluate context depth) name) := by
  rw [name_eq, name_eq]
  refine .either (fun _ => .refl _) fun noUndefined => .either (fun _ => .refl _) fun noNumber =>
    .either (fun _ => .refl _) fun finite => ?_
  have free : name ∉ ["undefined", "NaN", "Infinity"] := by simp [noUndefined, noNumber, finite]
  rw [constant_withhold]
  -- A hidden name is read here. For another one the same initializer is found in both contexts.
  by_cases isHidden : name ∈ hidden
  · refine .inr ⟨?_, depth, resolving, t, name, .here, names, isHidden, free⟩
    simp only [isHidden, if_true, find_withhold_of_mem isHidden, unresolved_bind, ite_self]
  · rw [if_neg isHidden, find_withhold_of_not_mem isHidden]
    cases constant : Entries.find? name context.constants with
    | some value => exact .refl _
    | none =>
        refine .either (fun _ => .refl _) fun idle => SameUnless.bind (.refl _) fun u found => ?_
        have looked : IsLookedUp context resolving name := ⟨free, constant, by simpa using idle⟩
        exact (Asks.name names looked found).compares inner

/-- A template is the same with some names withheld, unless it reads one of them. -/
theorem template_compares (kind : t.kind = "template_string") :
    SameUnless (Reads context hidden (depth + 1) resolving t)
      (template (evaluate (context.withhold hidden) depth resolving) t)
      (template (evaluate context depth resolving) t) := by
  unfold template
  split
  · exact .refl _
  · refine SameUnless.bind (.mapM fun before part after texts split earlier => ?_)
      fun _ _ => .refl _
    unfold templatePart
    refine .either (fun hole => ?_) fun _ => .refl _
    refine SameUnless.bind (absentOr_compares inner fun u inside => ?_) fun _ _ => .refl _
    exact .inserted (.hole kind (.template kind split earlier) (beq_iff_eq.1 hole) inside)

theorem entryKey_compares {part : Tree} (kind : t.kind = "object") (pair : part.kind = "pair")
    (arrives : Arrives context depth resolving t part) :
    SameUnless (Reads context hidden (depth + 1) resolving t)
      (entryKey (evaluate (context.withhold hidden) depth resolving) (part.field? "key"))
      (entryKey (evaluate context depth resolving) (part.field? "key")) := by
  unfold entryKey
  split
  · exact .refl _
  · next key found =>
      refine .either (fun computed => ?_) fun _ => .refl _
      refine SameUnless.bind (absentOr_compares inner fun u inside => ?_) fun _ _ => .refl _
      exact .inserted (.key kind arrives pair found (beq_iff_eq.1 computed) inside)

/-- An object is the same with some names withheld, unless it reads one of them. -/
theorem object_compares (kind : t.kind = "object") :
    SameUnless (Reads context hidden (depth + 1) resolving t)
      (t.named.foldlM (objectPart
        (Expression.name (context.withhold hidden) resolving
          (evaluate (context.withhold hidden) depth))
        (evaluate (context.withhold hidden) depth resolving)) [])
      (t.named.foldlM (objectPart (Expression.name context resolving (evaluate context depth))
        (evaluate context depth resolving)) []) := by
  refine .foldlM fun before part after entries split earlier => ?_
  have arrives : Arrives context depth resolving t part := .object kind split earlier
  unfold objectPart
  refine .either (fun _ => .refl _) fun _ => .either (fun pair => ?_) fun _ =>
    .either (fun short => ?_) fun _ => .either (fun isSpread => ?_) fun _ => .refl _
  · have isPair := beq_iff_eq.1 pair
    refine SameUnless.bind (entryKey_compares inner kind isPair arrives) fun key named => ?_
    exact SameUnless.bind (absentOr_compares inner fun u found =>
      .entry kind arrives isPair named found) fun _ _ => .refl _
  · have names : Names context depth resolving t part.text :=
      .shorthand kind arrives (beq_iff_eq.1 short)
    exact SameUnless.bind (names.compares inner) fun _ _ => .refl _
  · exact SameUnless.bind (absentOr_compares inner fun u inside =>
      .spread (.inl kind) arrives (beq_iff_eq.1 isSpread) inside) fun _ _ => .refl _

theorem array_compares (kind : t.kind = "array") :
    SameUnless (Reads context hidden (depth + 1) resolving t)
      (t.named.mapM (arrayPart (evaluate (context.withhold hidden) depth resolving)))
      (t.named.mapM (arrayPart (evaluate context depth resolving))) := by
  refine .mapM fun before part after values split earlier => ?_
  have arrives : Arrives context depth resolving t part := .array kind split earlier
  unfold arrayPart
  refine .either (fun _ => .refl _) fun isCode => .either (fun isSpread => ?_) fun isOne => ?_
  · exact SameUnless.bind (absentOr_compares inner fun u inside =>
      .spread (.inr kind) arrives (beq_iff_eq.1 isSpread) inside) fun _ _ => .refl _
  · have item : Asks context depth resolving t resolving part :=
      .item kind arrives (by simpa using isCode) (by simpa using isOne)
    exact SameUnless.bind (item.compares inner) fun _ _ => .refl _

theorem binary_compares (kind : t.kind = "binary_expression") :
    SameUnless (Reads context hidden (depth + 1) resolving t)
      (binary (evaluate (context.withhold hidden) depth resolving) t)
      (binary (evaluate context depth resolving) t) := by
  refine SameUnless.bind (absentOr_compares inner fun u found => .left kind found)
    fun left given => ?_
  -- The right operand is reached only if the left one, as it is with the names, leaves it open.
  obtain ⟨first, leftmost, given⟩ : ∃ first, t.field? "left" = some first ∧
      Gives (evaluate context depth resolving first) left := by
    cases leftmost : t.field? "left" with
    | none => simp [leftmost, absentOr] at given
    | some first => exact ⟨first, rfl, by simpa [leftmost, absentOr] using given⟩
  rw [← operatorOf]
  have right (undecided : ∀ decided,
      Operators.shortCircuit? (operatorOf t) left ≠ some (some decided)) :
      SameUnless (Reads context hidden (depth + 1) resolving t)
        (absentOr (evaluate (context.withhold hidden) depth resolving) (t.field? "right"))
        (absentOr (evaluate context depth resolving) (t.field? "right")) :=
    absentOr_compares inner fun u found =>
      .right ⟨kind, ⟨first, leftmost, given⟩, undecided⟩ found
  split
  · exact .refl _
  · next decided => exact right (by simp [decided])
  · next decided => exact SameUnless.bind (right (by simp [decided])) fun _ _ => .refl _

theorem ternary_compares (kind : t.kind = "ternary_expression") :
    SameUnless (Reads context hidden (depth + 1) resolving t)
      (ternary (evaluate (context.withhold hidden) depth resolving) t)
      (ternary (evaluate context depth resolving) t) := by
  refine SameUnless.bind (absentOr_compares inner fun u found => .condition kind found)
    fun v given => ?_
  cases tested : t.field? "condition" with
  | none => simp [tested, absentOr] at given
  | some condition =>
      rw [tested] at given
      exact absentOr_compares inner fun _ found => .branch kind tested given found

theorem call_compares (kind : t.kind = "call_expression") :
    SameUnless (Reads context hidden (depth + 1) resolving t)
      (call (evaluate (context.withhold hidden) depth resolving) t)
      (call (evaluate context depth resolving) t) := by
  unfold call
  split
  · next function arguments called given =>
      split
      · next argument freezes only =>
          exact (Asks.frozen kind called given (beq_iff_eq.1 freezes) only).compares inner
      · exact .refl _
  · exact .refl _

theorem member_compares (kind : t.kind = "member_expression") :
    SameUnless (Reads context hidden (depth + 1) resolving t)
      (member (evaluate (context.withhold hidden) depth resolving) t)
      (member (evaluate context depth resolving) t) :=
  SameUnless.bind (absentOr_compares inner fun _ found => .target kind found) fun _ _ => .refl _

/-- One level of an evaluation is the same with some names withheld, unless it reads one of them. -/
theorem evaluateNode_compares (resolving : List String) (t : Tree) :
    SameUnless (Reads context hidden (depth + 1) resolving t)
      (evaluateNode (context.withhold hidden) resolving
        (evaluate (context.withhold hidden) depth) t)
      (evaluateNode context resolving (evaluate context depth) t) := by
  dsimp only [evaluateNode]
  -- Literals have no parts, and name nothing.
  refine .either (fun _ => .refl _) fun _ => ?_
  refine .either (fun _ => .refl _) fun _ => ?_
  refine .either (fun _ => .refl _) fun _ => ?_
  refine .either (fun _ => .refl _) fun _ => ?_
  refine .either (fun _ => .refl _) fun _ => ?_
  refine .either (fun kind => absentOr_compares inner fun u inside =>
    .wrapped (List.contains_iff_mem.1 kind) inside) fun _ => ?_
  refine .either (fun kind => (Names.identifier (beq_iff_eq.1 kind)).compares inner) fun _ => ?_
  refine .either (fun kind => template_compares inner (beq_iff_eq.1 kind)) fun _ => ?_
  refine .either (fun kind => SameUnless.bind (object_compares inner (beq_iff_eq.1 kind))
    fun _ _ => .refl _) fun _ => ?_
  refine .either (fun kind => SameUnless.bind (array_compares inner (beq_iff_eq.1 kind))
    fun _ _ => .refl _) fun _ => ?_
  refine .either (fun kind => SameUnless.bind (absentOr_compares inner fun u found =>
    .operand (beq_iff_eq.1 kind) found) fun _ _ => .refl _) fun _ => ?_
  refine .either (fun kind => binary_compares inner (beq_iff_eq.1 kind)) fun _ => ?_
  refine .either (fun kind => ternary_compares inner (beq_iff_eq.1 kind)) fun _ => ?_
  refine .either (fun kind => call_compares inner (beq_iff_eq.1 kind)) fun _ => ?_
  exact .either (fun kind => member_compares inner (beq_iff_eq.1 kind)) fun _ => .refl _

end Parts

/-! ## All expressions -/

/-- An evaluation without some names comes to what it comes to with them, or it is unresolved and
with them it reads one of them. -/
theorem evaluate_withheld (context : Context) (hidden : List String) (depth : Nat) :
    Compares context hidden depth := by
  induction depth with
  | zero => exact fun _ _ => .refl _
  | succ depth ih => exact evaluateNode_compares ih

/-- What an initializer evaluates to without some names is what it evaluates to with them, or it is
unresolved without them and reads one of them. -/
theorem value?_withheld (context : Context) (hidden : List String) (t : Tree) :
    value? (context.withhold hidden) (some t) = value? context (some t) ∨
      value? (context.withhold hidden) (some t) = .ok none ∧
        Reads context hidden (maxDepth + 1) [] t := by
  have compared := evaluate_withheld context hidden (maxDepth + 1) [] t
  rcases compared with same | ⟨unresolved, reads⟩
  · exact .inl (congrArg OptionT.run same)
  · exact .inr ⟨congrArg OptionT.run unresolved, reads⟩

end Expression

end TypeGloss
