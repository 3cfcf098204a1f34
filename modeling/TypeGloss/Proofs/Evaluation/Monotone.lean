/-
# TypeGloss.Proofs.Evaluation.Monotone — what is resolved stays resolved

Three things can keep the evaluation of an expression from coming to a value: the limit on
the nesting, a name that is being evaluated already, and a name that nothing is found for.
All three only leave a value out. With more depth to go, fewer names under evaluation and
more names in view, an evaluation comes to the value it came to before.

The argument is the same for every way of saying that one evaluation is another *as far as
it goes*, so it is made once, for any relation in which an unresolved evaluation stands
below every other and which is kept by going on in the same way (`IsApproximation`). Two
relations are of interest:

* `Extends x y`: the values that `x` comes to are values of `y`;
* `Follows x y`: `x` is unresolved, or it comes to what `y` comes to, be that a value or a
  fault.
-/
import TypeGloss.Proofs.Evaluation.Outcome
import Mathlib.Tactic.SplitIfs

namespace TypeGloss

set_option autoImplicit false

variable {α β : Type}

namespace Evaluation

/-- A relation that says of two evaluations that the first is the second, as far as it
goes. -/
structure IsApproximation (R : {α : Type} → Evaluation α → Evaluation α → Prop) : Prop where
  refl {α : Type} (x : Evaluation α) : R x x
  bottom {α : Type} (x : Evaluation α) : R unresolved x
  bind {α β : Type} {x y : Evaluation α} {f g : α → Evaluation β} :
    R x y → (∀ a, R (f a) (g a)) → R (x >>= f) (y >>= g)

/-- Whatever the first comes to, the second comes to. -/
def Extends (x y : Evaluation α) : Prop :=
  ∀ a, Gives x a → Gives y a

/-- The first is unresolved or ends as the second does. -/
def Follows (x y : Evaluation α) : Prop :=
  x = unresolved ∨ x = y

theorem extends_isApproximation : IsApproximation Extends where
  refl _ _ given := given
  bottom x a given := by simp at given
  bind first rest b given := by
    obtain ⟨a, before, last⟩ := gives_bind.1 given
    exact gives_bind.2 ⟨a, first a before, rest a b last⟩

theorem follows_isApproximation : IsApproximation Follows where
  refl _ := .inr rfl
  bottom _ := .inl rfl
  bind {_ _ x y f g} first rest := by
    rcases first with rfl | rfl
    · exact .inl (unresolved_bind f)
    · rcases cases_outcome x with rfl | ⟨a, rfl⟩ | ⟨fault, rfl⟩
      · exact .inl rfl
      · simpa only [pure_bind] using rest a
      · exact .inr rfl

namespace IsApproximation

variable {R : {α : Type} → Evaluation α → Evaluation α → Prop}

/-- Two cases told apart in the same way. -/
theorem either (_ : IsApproximation R) {c : Prop} [Decidable c] {x y x' y' : Evaluation α}
    (yes : R x x') (no : R y y') : R (if c then x else y) (if c then x' else y') := by
  split
  · exact yes
  · exact no

theorem mapM (approximation : IsApproximation R) {f g : α → Evaluation β}
    (each : ∀ a, R (f a) (g a)) (items : List α) : R (items.mapM f) (items.mapM g) := by
  induction items with
  | nil => exact approximation.refl _
  | cons item rest ih =>
      rw [List.mapM_cons, List.mapM_cons]
      exact approximation.bind (each item) fun b =>
        approximation.bind ih fun bs => approximation.refl _

/-- Folds with approximating steps approximate each other. -/
theorem foldlM (approximation : IsApproximation R) {f g : β → α → Evaluation β}
    (each : ∀ b a, R (f b a) (g b a)) (items : List α) (b : β) :
    R (items.foldlM f b) (items.foldlM g b) := by
  induction items generalizing b with
  | nil => exact approximation.refl _
  | cons item rest ih => exact approximation.bind (each b item) ih

end IsApproximation

end Evaluation

/-! ## One expression

What an expression comes to is approximated as well as what the expressions below it come
to. -/

namespace Expression

open Evaluation

section Parts

variable {R : {α : Type} → Evaluation α → Evaluation α → Prop}
variable (approximation : IsApproximation R)
variable {below above : Tree → Evaluation Value} (inner : ∀ t, R (below t) (above t))

include approximation inner

theorem absentOr_approximates (t : Option Tree) : R (absentOr below t) (absentOr above t) := by
  cases t with
  | none => exact approximation.bottom _
  | some t => exact inner t

theorem templatePart_approximates (part : Tree) :
    R (templatePart below part) (templatePart above part) := by
  unfold templatePart
  split
  · exact approximation.bind (absentOr_approximates approximation inner _) fun _ =>
      approximation.refl _
  · exact approximation.refl _

theorem template_approximates (t : Tree) : R (template below t) (template above t) := by
  unfold template
  split
  · exact approximation.refl _
  · exact approximation.bind
      (approximation.mapM (templatePart_approximates approximation inner) _) fun _ =>
        approximation.refl _

theorem entryKey_approximates (key : Option Tree) :
    R (entryKey below key) (entryKey above key) := by
  unfold entryKey
  split
  · exact approximation.bottom _
  · split
    · exact approximation.bind (absentOr_approximates approximation inner _) fun _ =>
        approximation.refl _
    · exact approximation.refl _

theorem objectPart_approximates {ofName ofName' : String → Evaluation Value}
    (names : ∀ name, R (ofName name) (ofName' name)) (entries : Entries Value) (part : Tree) :
    R (objectPart ofName below entries part) (objectPart ofName' above entries part) := by
  unfold objectPart
  split_ifs
  · exact approximation.refl _
  · exact approximation.bind (entryKey_approximates approximation inner _) fun _ =>
      approximation.bind (absentOr_approximates approximation inner _) fun _ =>
        approximation.refl _
  · exact approximation.bind (names _) fun _ => approximation.refl _
  · exact approximation.bind (absentOr_approximates approximation inner _) fun _ =>
      approximation.refl _
  · exact approximation.refl _

theorem arrayPart_approximates (part : Tree) : R (arrayPart below part) (arrayPart above part) := by
  unfold arrayPart
  split_ifs
  · exact approximation.refl _
  · exact approximation.bind (absentOr_approximates approximation inner _) fun _ =>
      approximation.refl _
  · exact approximation.bind (inner part) fun _ => approximation.refl _

theorem binary_approximates (t : Tree) : R (binary below t) (binary above t) := by
  refine approximation.bind (absentOr_approximates approximation inner _) fun left => ?_
  split
  · exact approximation.refl _
  · exact absentOr_approximates approximation inner _
  · exact approximation.bind (absentOr_approximates approximation inner _) fun _ =>
      approximation.refl _

theorem ternary_approximates (t : Tree) : R (ternary below t) (ternary above t) :=
  approximation.bind (absentOr_approximates approximation inner _) fun _ =>
    absentOr_approximates approximation inner _

theorem member_approximates (t : Tree) : R (member below t) (member above t) :=
  approximation.bind (absentOr_approximates approximation inner _) fun _ =>
    approximation.refl _

theorem call_approximates (t : Tree) : R (call below t) (call above t) := by
  unfold call
  split
  · split
    · exact inner _
    · exact approximation.refl _
  · exact approximation.refl _

end Parts

section Names

variable {R : {α : Type} → Evaluation α → Evaluation α → Prop}
variable (approximation : IsApproximation R)
variable {context wider : Context} (constants : wider.constants = context.constants)
variable (found : ∀ name, R (context.find name) (wider.find name))

include approximation constants found

/-- A name that is under evaluation is unresolved; with fewer of them it is looked up. -/
theorem name_approximates {resolving fewer : List String} {below above : Below}
    (inner : ∀ name t, R (below (name :: resolving) t) (above (name :: fewer) t))
    (contained : fewer ⊆ resolving) (name : String) :
    R (Expression.name context resolving below name) (Expression.name wider fewer above name) := by
  rw [name_eq, name_eq, constants]
  refine approximation.either (approximation.refl _) (approximation.either (approximation.refl _)
    (approximation.either (approximation.refl _) ?_))
  split
  · exact approximation.refl _
  · split_ifs with held heldStill heldStill
    · exact approximation.refl _
    · exact approximation.bottom _
    · exact absurd (List.contains_iff_mem.2 (contained (List.contains_iff_mem.1 heldStill))) held
    · exact approximation.bind (found name) (inner name)

/-- One level of an evaluation is approximated if what it asks for is, with fewer names under
evaluation. -/
theorem evaluateNode_approximates {resolving fewer : List String} {below above : Below}
    (inner : ∀ t, R (below resolving t) (above fewer t))
    (initializers : ∀ name t, R (below (name :: resolving) t) (above (name :: fewer) t))
    (contained : fewer ⊆ resolving) (t : Tree) :
    R (evaluateNode context resolving below t) (evaluateNode wider fewer above t) := by
  have names := name_approximates approximation constants found initializers contained
  dsimp only [evaluateNode]
  refine approximation.either (approximation.refl _) ?_
  refine approximation.either (approximation.refl _) ?_
  refine approximation.either (approximation.refl _) ?_
  refine approximation.either (approximation.refl _) ?_
  refine approximation.either (approximation.refl _) ?_
  refine approximation.either (absentOr_approximates approximation inner _) ?_
  refine approximation.either (names _) ?_
  refine approximation.either (template_approximates approximation inner t) ?_
  refine approximation.either (approximation.bind
    (approximation.foldlM (objectPart_approximates approximation inner names) _ _) fun _ =>
      approximation.refl _) ?_
  refine approximation.either (approximation.bind
    (approximation.mapM (arrayPart_approximates approximation inner) _) fun _ =>
      approximation.refl _) ?_
  refine approximation.either (approximation.bind
    (absentOr_approximates approximation inner _) fun _ => approximation.refl _) ?_
  refine approximation.either (binary_approximates approximation inner t) ?_
  refine approximation.either (ternary_approximates approximation inner t) ?_
  refine approximation.either (call_approximates approximation inner t) ?_
  exact approximation.either (member_approximates approximation inner t) (approximation.refl _)

/-- With less depth to go an evaluation goes the same way, until the depth is used up. -/
theorem evaluate_approximates {depth deeper : Nat} (more : depth ≤ deeper)
    {resolving fewer : List String} (contained : fewer ⊆ resolving) (t : Tree) :
    R (evaluate context depth resolving t) (evaluate wider deeper fewer t) := by
  induction depth generalizing deeper resolving fewer t with
  | zero => exact approximation.bottom _
  | succ depth ih =>
      obtain ⟨deeper, rfl⟩ : ∃ next, deeper = next + 1 := ⟨deeper - 1, by omega⟩
      have less : depth ≤ deeper := by omega
      exact evaluateNode_approximates approximation constants found (ih less contained)
        (fun name => ih less (List.cons_subset_cons name contained)) contained t

end Names

/-! ## Monotonicity -/

/-- The value of an expression at a depth, where none deeper than a limit is evaluated. -/
def evaluateAt (context : Context) (limit depth : Nat) (resolving : List String) (t : Tree) :
    Evaluation Value :=
  evaluate context (limit + 1 - depth) resolving t

theorem value?_some (context : Context) (t : Tree) :
    value? context (some t) = (evaluateAt context maxDepth 0 [] t).run := rfl

/-- At a smaller depth, under a higher limit, with fewer names under evaluation and with a
look-up that finds whatever was found before, an expression has the value it had. If the
look-ups differ in nothing but names for which nothing was found, then the evaluation was
unresolved before or ends in the same way now, be it with a value or with a fault; and
what an initializer evaluates to is the same with more declarations in view. -/
theorem evaluateAt_monotone {context wider : Context}
    (constants : wider.constants = context.constants)
    (found : ∀ name t, Gives (context.find name) t → Gives (wider.find name) t)
    {limit higher depth shallower : Nat} (limits : limit ≤ higher) (depths : shallower ≤ depth)
    {resolving fewer : List String} (contained : fewer ⊆ resolving) (t : Tree) :
    (∀ v, Gives (evaluateAt context limit depth resolving t) v →
      Gives (evaluateAt wider higher shallower fewer t) v) ∧
    ((∀ name, Follows (context.find name) (wider.find name)) →
      Follows (evaluateAt context limit depth resolving t)
        (evaluateAt wider higher shallower fewer t)) ∧
    ∀ v, value? context (some t) = .ok (some v) → value? wider (some t) = .ok (some v) := by
  have deeper : limit + 1 - depth ≤ higher + 1 - shallower := by omega
  refine ⟨?_, fun follows => ?_, ?_⟩
  · exact evaluate_approximates extends_isApproximation constants found deeper contained t
  · exact evaluate_approximates follows_isApproximation constants follows deeper contained t
  · intro v resolved
    rw [value?_some] at resolved ⊢
    exact evaluate_approximates extends_isApproximation constants found (Nat.le_refl _)
      (List.Subset.refl []) t v resolved

/-! ### A condition on a switch

`on ? on : off`, where only `on` has an initializer at first and `off` is being evaluated. -/

namespace Switches

/-- A named node that may play a field. -/
def node (kind text : String) (field : Option String := none) (children : List Tree := []) : Tree :=
  .node { kind, text, start := 0, stop := 0, first := ⟨0, 0⟩, last := ⟨0, 0⟩, named := true,
          missing := false, field } children

/-- The condition. -/
def choice : Tree :=
  node "ternary_expression" "on ? on : off" none
    [node "identifier" "on" (some "condition"), node "identifier" "on" (some "consequence"),
     node "identifier" "off" (some "alternative")]

/-- A context in which names are declared with these initializers. -/
def declaring (initializers : Entries Tree) : Context :=
  { lookup := some fun name => .ok (Entries.find? name initializers) }

/-- Only `on` is declared. -/
def one : Entries Tree := [("on", node "true" "true")]

/-- `on` and `off` are declared. -/
def both : Entries Tree := one ++ [("off", node "false" "false")]

theorem find_extends (name : String) (t : Tree) (found : Gives ((declaring one).find name) t) :
    Gives ((declaring both).find name) t := by
  have written : Entries.find? name one = some t := by simpa [declaring, Context.find] using found
  suffices Entries.find? name both = some t by simpa [declaring, Context.find] using this
  simp only [one, both, List.singleton_append, Entries.find?] at written ⊢
  split_ifs at written ⊢
  exact written

theorem choice_resolved : Gives (evaluateAt (declaring one) 2 0 ["off"] choice) (.flag true) := rfl

end Switches

open Switches in
theorem evaluateAt_monotone_switches :
    Gives (evaluateAt (declaring one) 2 0 ["off"] choice) (.flag true) ∧
      Gives (evaluateAt (declaring both) 3 0 [] choice) (.flag true) := by
  have constants : (declaring both).constants = (declaring one).constants := rfl
  have limits : 2 ≤ 3 := by omega
  have monotone := evaluateAt_monotone constants find_extends limits (Nat.le_refl 0)
    (List.nil_subset ["off"]) choice
  exact ⟨choice_resolved, monotone.1 _ choice_resolved⟩

end Expression

end TypeGloss
