/-
# TypeGloss.Proofs.Evaluation.Script — the meaning of constant expressions

The expressions that can be evaluated without running a program, and what the language says
they evaluate to. This is a second account of their meaning: it speaks about terms and not
about syntax trees, has no limit on the nesting, and shares no function with the evaluator
but the type of values.

* `IsFalsy` lists the values that count as false, `Reads` gives the text of a value, where an
  array is its items with commas between them and a null item is empty, `Iterates` the items
  of what is spread in an array, and `Copies` the properties of what is spread in an object.
* `Assembles` says which object the definitions in a literal make: a key stands where it was
  defined first and has the value that was defined last. (That is the order of keys that are
  not indices of an array; the others would come first.)
* `Yields scope e v`: with the names of the scope in view, `e` evaluates to `v`. There is no
  rule where the value is not an integer, a truth value, a text, null, or made of these, and
  none for sums of numbers, for the identity of arrays and objects, or for a negated zero.

An expression yields one value at most (`Yields.unique`), and values hold no numbers but
integers (`Yields.isWhole`).
-/
import Mathlib.Data.List.Dedup
import TypeGloss.Proofs.Entries
import TypeGloss.Value

namespace TypeGloss.Script

set_option autoImplicit false

/-! ## Terms -/

/-- Operators on one operand. -/
inductive Unary where
  | not
  | minus

/-- Operators on two operands. -/
inductive Binary where
  | and
  | or
  | orElse
  | same
  | differ
  | plus

mutual

/-- Constant expressions. Parentheses and assertions of a type are not part of a term. -/
inductive Term where
  | null
  | flag (b : Bool)
  | integer (n : Nat)
  | text (s : String)
  | name (x : String)
  | template (chunks : List Chunk)
  | array (items : List Item)
  | object (parts : List Part)
  | frozen (e : Term)
  | member (e : Term) (property : String)
  | unary (operator : Unary) (e : Term)
  | binary (operator : Binary) (left right : Term)
  | choice (condition yes no : Term)

/-- What a template is made of. -/
inductive Chunk where
  | fixed (s : String)
  | hole (e : Term)

/-- What an array literal is made of. -/
inductive Item where
  | one (e : Term)
  | spread (e : Term)

/-- What an object literal is made of. -/
inductive Part where
  | pair (key : String) (e : Term)
  | spread (e : Term)

end

/-- The initializers of names. -/
abbrev Scope := String → Option Term

/-! ## Values -/

/-- Values that count as false. -/
inductive IsFalsy : Value → Prop where
  | null : IsFalsy .null
  | flag : IsFalsy (.flag false)
  | zero : IsFalsy (.integer 0)
  | empty : IsFalsy (.text "")

/-- Values without parts. -/
inductive IsPrimitive : Value → Prop where
  | null : IsPrimitive .null
  | flag (b : Bool) : IsPrimitive (.flag b)
  | integer (n : Int) : IsPrimitive (.integer n)
  | text (s : String) : IsPrimitive (.text s)

/-- Values in which all numbers are integers. -/
inductive IsWhole : Value → Prop where
  | null : IsWhole .null
  | flag (b : Bool) : IsWhole (.flag b)
  | integer (n : Int) : IsWhole (.integer n)
  | text (s : String) : IsWhole (.text s)
  | list {items : List Value} (each : ∀ v ∈ items, IsWhole v) : IsWhole (.list items)
  | object {entries : Entries Value} (each : ∀ item ∈ entries, IsWhole item.2) :
      IsWhole (.object entries)

mutual

/-- The text of a value. -/
inductive Reads : Value → String → Prop where
  | null : Reads .null "null"
  | flag (b : Bool) : Reads (.flag b) (if b then "true" else "false")
  | integer (n : Int) : Reads (.integer n) (toString n)
  | text (s : String) : Reads (.text s) s
  | list {items : List Value} {texts : List String} (each : ReadsAll items texts) :
      Reads (.list items) (",".intercalate texts)

/-- The texts of the items of an array. -/
inductive ReadsAll : List Value → List String → Prop where
  | nil : ReadsAll [] []
  | null {items : List Value} {texts : List String} (rest : ReadsAll items texts) :
      ReadsAll (.null :: items) ("" :: texts)
  | cons {v : Value} {s : String} {items : List Value} {texts : List String} (ne : v ≠ .null)
      (first : Reads v s) (rest : ReadsAll items texts) : ReadsAll (v :: items) (s :: texts)

end

/-- The items of a value that is spread: those of an array, the characters of a text. -/
inductive Iterates : Value → List Value → Prop where
  | list (items : List Value) : Iterates (.list items) items
  | text (s : String) : Iterates (.text s) (s.toList.map fun c => .text (String.singleton c))

/-- The properties of a value that is spread in an object: null, truth values and numbers
have none. -/
inductive Copies : Value → List (String × Value) → Prop where
  | object (entries : Entries Value) : Copies (.object entries) entries
  | null : Copies .null []
  | flag (b : Bool) : Copies (.flag b) []
  | integer (n : Int) : Copies (.integer n) []

/-- The object that definitions make, one after the other. -/
structure Assembles (definitions : List (String × Value)) (entries : Entries Value) : Prop where
  names : Entries.names entries = ((definitions.map Prod.fst).reverse.dedup).reverse
  last : ∀ key, Entries.find? key entries = Entries.find? key definitions.reverse

/-- The left operand alone decides. -/
inductive Decides : Binary → Value → Prop where
  | and {v : Value} (falsy : IsFalsy v) : Decides .and v
  | or {v : Value} (truthy : ¬ IsFalsy v) : Decides .or v
  | orElse {v : Value} (present : v ≠ .null) : Decides .orElse v

/-- The left operand leaves the decision to the right one. -/
inductive Passes : Binary → Value → Prop where
  | and {v : Value} (truthy : ¬ IsFalsy v) : Passes .and v
  | or {v : Value} (falsy : IsFalsy v) : Passes .or v
  | orElse : Passes .orElse .null

/-! ## Evaluation -/

mutual

/-- What an expression evaluates to. -/
inductive Yields (scope : Scope) : Term → Value → Prop where
  | null : Yields scope .null .null
  | flag (b : Bool) : Yields scope (.flag b) (.flag b)
  | integer (n : Nat) : Yields scope (.integer n) (.integer n)
  | text (s : String) : Yields scope (.text s) (.text s)
  | name {x : String} {e : Term} {v : Value} (bound : scope x = some e) (value : Yields scope e v) :
      Yields scope (.name x) v
  | template {chunks : List Chunk} {s : String} (filled : Fills scope chunks s) :
      Yields scope (.template chunks) (.text s)
  | array {items : List Item} {values : List Value} (listed : Lists scope items values) :
      Yields scope (.array items) (.list values)
  | object {parts : List Part} {definitions : List (String × Value)} {entries : Entries Value}
      (defined : Defines scope parts definitions) (assembled : Assembles definitions entries) :
      Yields scope (.object parts) (.object entries)
  | frozen {e : Term} {v : Value} (value : Yields scope e v) : Yields scope (.frozen e) v
  | property {e : Term} {entries : Entries Value} {x : String} {v : Value}
      (target : Yields scope e (.object entries)) (found : Entries.find? x entries = some v) :
      Yields scope (.member e x) v
  | length {e : Term} {items : List Value} (target : Yields scope e (.list items)) :
      Yields scope (.member e "length") (.integer items.length)
  | not {e : Term} {v : Value} {falsy : Bool} (value : Yields scope e v)
      (decided : falsy = true ↔ IsFalsy v) : Yields scope (.unary .not e) (.flag falsy)
  | minus {e : Term} {n : Int} (value : Yields scope e (.integer n)) (nonzero : n ≠ 0) :
      Yields scope (.unary .minus e) (.integer (-n))
  | decided {operator : Binary} {a b : Term} {v : Value} (left : Yields scope a v)
      (decides : Decides operator v) : Yields scope (.binary operator a b) v
  | passed {operator : Binary} {a b : Term} {v w : Value} (left : Yields scope a v)
      (passes : Passes operator v) (right : Yields scope b w) : Yields scope (.binary operator a b) w
  | same {a b : Term} {x y : Value} {equal : Bool} (left : Yields scope a x)
      (right : Yields scope b y) (primitive : IsPrimitive x ∧ IsPrimitive y)
      (compared : equal = true ↔ x = y) : Yields scope (.binary .same a b) (.flag equal)
  | differ {a b : Term} {x y : Value} {equal : Bool} (left : Yields scope a x)
      (right : Yields scope b y) (primitive : IsPrimitive x ∧ IsPrimitive y)
      (compared : equal = true ↔ x = y) : Yields scope (.binary .differ a b) (.flag !equal)
  | plus {a b : Term} {x y : Value} {s t : String} (left : Yields scope a x)
      (right : Yields scope b y) (oneText : (∃ s, x = .text s) ∨ ∃ t, y = .text t)
      (before : Reads x s) (after : Reads y t) : Yields scope (.binary .plus a b) (.text (s ++ t))
  | yes {c a b : Term} {v w : Value} (condition : Yields scope c v) (truthy : ¬ IsFalsy v)
      (branch : Yields scope a w) : Yields scope (.choice c a b) w
  | no {c a b : Term} {v w : Value} (condition : Yields scope c v) (falsy : IsFalsy v)
      (branch : Yields scope b w) : Yields scope (.choice c a b) w

/-- The text of a template. -/
inductive Fills (scope : Scope) : List Chunk → String → Prop where
  | nil : Fills scope [] ""
  | fixed {s t : String} {chunks : List Chunk} (rest : Fills scope chunks t) :
      Fills scope (.fixed s :: chunks) (s ++ t)
  | hole {e : Term} {v : Value} {s t : String} {chunks : List Chunk} (value : Yields scope e v)
      (reads : Reads v s) (rest : Fills scope chunks t) :
      Fills scope (.hole e :: chunks) (s ++ t)

/-- The items of an array literal. -/
inductive Lists (scope : Scope) : List Item → List Value → Prop where
  | nil : Lists scope [] []
  | one {e : Term} {v : Value} {items : List Item} {values : List Value}
      (value : Yields scope e v) (rest : Lists scope items values) :
      Lists scope (.one e :: items) (v :: values)
  | spread {e : Term} {v : Value} {items : List Item} {inside values : List Value}
      (value : Yields scope e v) (iterates : Iterates v inside) (rest : Lists scope items values) :
      Lists scope (.spread e :: items) (inside ++ values)

/-- The definitions that an object literal makes. -/
inductive Defines (scope : Scope) : List Part → List (String × Value) → Prop where
  | nil : Defines scope [] []
  | pair {key : String} {e : Term} {v : Value} {parts : List Part}
      {definitions : List (String × Value)} (value : Yields scope e v)
      (rest : Defines scope parts definitions) :
      Defines scope (.pair key e :: parts) ((key, v) :: definitions)
  | spread {e : Term} {v : Value} {parts : List Part} {copied definitions : List (String × Value)}
      (value : Yields scope e v) (copies : Copies v copied)
      (rest : Defines scope parts definitions) :
      Defines scope (.spread e :: parts) (copied ++ definitions)

end

/-! ## One value -/

mutual

/-- A value is put into words in one way. -/
theorem Reads.unique {v : Value} {s t : String} : Reads v s → Reads v t → s = t
  | .null, .null => rfl
  | .flag _, .flag _ => rfl
  | .integer _, .integer _ => rfl
  | .text _, .text _ => rfl
  | .list each, .list others => by rw [ReadsAll.unique each others]

/-- The items of a list have one sequence of texts at most. -/
theorem ReadsAll.unique {items : List Value} {texts others : List String} :
    ReadsAll items texts → ReadsAll items others → texts = others
  | .nil, .nil => rfl
  | .null rest, .null more => by rw [ReadsAll.unique rest more]
  | .null _, .cons ne _ _ => absurd rfl ne
  | .cons ne _ _, .null _ => absurd rfl ne
  | .cons _ first rest, .cons _ other more => by
      rw [Reads.unique first other, ReadsAll.unique rest more]

end

theorem Iterates.unique {v : Value} {items others : List Value} (first : Iterates v items)
    (second : Iterates v others) : items = others := by
  cases first <;> cases second <;> rfl

theorem Copies.unique {v : Value} {copied others : List (String × Value)}
    (first : Copies v copied) (second : Copies v others) : copied = others := by
  cases first <;> cases second <;> rfl

theorem Decides.not_passes {operator : Binary} {v : Value} (decides : Decides operator v) :
    ¬ Passes operator v := by
  intro passes
  cases decides <;> cases passes <;> contradiction

theorem Assembles.nodup {definitions : List (String × Value)} {entries : Entries Value}
    (assembled : Assembles definitions entries) : (Entries.names entries).Nodup := by
  rw [assembled.names]
  exact List.nodup_reverse.2 (List.nodup_dedup _)

/-- Definitions make one object. -/
theorem Assembles.unique {definitions : List (String × Value)} {entries others : Entries Value}
    (first : Assembles definitions entries) (second : Assembles definitions others) :
    entries = others := by
  refine Entries.ext_of_names first.nodup (first.names.trans second.names.symm) fun key => ?_
  rw [first.last, second.last]

theorem eq_of_iff {p : Prop} {a b : Bool} (first : a = true ↔ p) (second : b = true ↔ p) :
    a = b :=
  Bool.eq_iff_iff.2 (first.trans second.symm)

mutual

/-- An expression evaluates to one value at most. -/
theorem Yields.unique {scope : Scope} {e : Term} {v w : Value} (first : Yields scope e v)
    (second : Yields scope e w) : v = w :=
  match first with
  | .null => by cases second; rfl
  | .flag _ => by cases second; rfl
  | .integer _ => by cases second; rfl
  | .text _ => by cases second; rfl
  | .name bound value => by
      cases second with
      | name bound' value' =>
          cases bound.symm.trans bound'
          exact value.unique value'
  | .template filled => by
      cases second with
      | template filled' => rw [filled.unique filled']
  | .array listed => by
      cases second with
      | array listed' => rw [listed.unique listed']
  | .object defined assembled => by
      cases second with
      | object defined' assembled' =>
          cases defined.unique defined'
          rw [assembled.unique assembled']
  | .frozen value => by
      cases second with
      | frozen value' => exact value.unique value'
  | .property target found => by
      cases second with
      | property target' found' =>
          cases target.unique target'
          exact Option.some.inj (found.symm.trans found')
      | length target' => cases target.unique target'
  | .length target => by
      cases second with
      | property target' _ => cases target.unique target'
      | length target' =>
          cases target.unique target'
          rfl
  | .not value decided => by
      cases second with
      | not value' decided' =>
          cases value.unique value'
          rw [eq_of_iff decided decided']
  | .minus value _ => by
      cases second with
      | minus value' _ =>
          cases value.unique value'
          rfl
  | .decided left decides => by
      cases second with
      | decided left' _ => exact left.unique left'
      | passed left' passes _ =>
          cases left.unique left'
          exact absurd passes decides.not_passes
      | same => cases decides
      | differ => cases decides
      | plus => cases decides
  | .passed left passes right => by
      cases second with
      | decided left' decides =>
          cases left.unique left'
          exact absurd passes decides.not_passes
      | passed _ _ right' => exact right.unique right'
      | same => cases passes
      | differ => cases passes
      | plus => cases passes
  | .same left right _ compared => by
      cases second with
      | decided _ decides => cases decides
      | passed _ passes _ => cases passes
      | same left' right' _ compared' =>
          cases left.unique left'
          cases right.unique right'
          rw [eq_of_iff compared compared']
  | .differ left right _ compared => by
      cases second with
      | decided _ decides => cases decides
      | passed _ passes _ => cases passes
      | differ left' right' _ compared' =>
          cases left.unique left'
          cases right.unique right'
          rw [eq_of_iff compared compared']
  | .plus left right _ before after => by
      cases second with
      | decided _ decides => cases decides
      | passed _ passes _ => cases passes
      | plus left' right' _ before' after' =>
          cases left.unique left'
          cases right.unique right'
          rw [before.unique before', after.unique after']
  | .yes condition truthy branch => by
      cases second with
      | yes _ _ branch' => exact branch.unique branch'
      | no condition' falsy _ =>
          cases condition.unique condition'
          exact absurd falsy truthy
  | .no condition falsy branch => by
      cases second with
      | yes condition' truthy _ =>
          cases condition.unique condition'
          exact absurd falsy truthy
      | no _ _ branch' => exact branch.unique branch'
termination_by structural first

theorem Fills.unique {scope : Scope} {chunks : List Chunk} {s t : String}
    (first : Fills scope chunks s) (second : Fills scope chunks t) : s = t :=
  match first with
  | .nil => by cases second; rfl
  | .fixed rest => by
      cases second with
      | fixed rest' => rw [rest.unique rest']
  | .hole value reads rest => by
      cases second with
      | hole value' reads' rest' =>
          cases value.unique value'
          rw [reads.unique reads', rest.unique rest']
termination_by structural first

/-- A list has one sequence of values at most. -/
theorem Lists.unique {scope : Scope} {items : List Item} {values others : List Value}
    (first : Lists scope items values) (second : Lists scope items others) : values = others :=
  match first with
  | .nil => by cases second; rfl
  | .one value rest => by
      cases second with
      | one value' rest' => rw [value.unique value', rest.unique rest']
  | .spread value iterates rest => by
      cases second with
      | spread value' iterates' rest' =>
          cases value.unique value'
          rw [iterates.unique iterates', rest.unique rest']
termination_by structural first

/-- Definitions have one list of values at most. -/
theorem Defines.unique {scope : Scope} {parts : List Part}
    {definitions others : List (String × Value)} (first : Defines scope parts definitions)
    (second : Defines scope parts others) : definitions = others :=
  match first with
  | .nil => by cases second; rfl
  | .pair value rest => by
      cases second with
      | pair value' rest' => rw [value.unique value', rest.unique rest']
  | .spread value copies rest => by
      cases second with
      | spread value' copies' rest' =>
          cases value.unique value'
          rw [copies.unique copies', rest.unique rest']
termination_by structural first

end

/-! ## Whole values -/

theorem Iterates.isWhole {v : Value} {items : List Value} (iterates : Iterates v items)
    (whole : IsWhole v) : ∀ item ∈ items, IsWhole item := by
  cases iterates with
  | list items => cases whole with | list each => exact each
  | text s =>
      intro item among
      obtain ⟨c, -, rfl⟩ := List.mem_map.1 among
      exact .text _

theorem Copies.isWhole {v : Value} {copied : List (String × Value)} (copies : Copies v copied)
    (whole : IsWhole v) : ∀ item ∈ copied, IsWhole item.2 := by
  cases copies with
  | object entries => cases whole with | object each => exact each
  | null => simp
  | flag b => simp
  | integer n => simp

/-- A table of whole values is whole. -/
theorem Assembles.isWhole {definitions : List (String × Value)} {entries : Entries Value}
    (assembled : Assembles definitions entries) (each : ∀ item ∈ definitions, IsWhole item.2) :
    IsWhole (.object entries) := by
  refine .object fun item among => ?_
  have found := assembled.last item.1
  rw [Entries.find?_of_mem assembled.nodup among] at found
  have listed := Entries.mem_of_find?_eq_some found.symm
  exact each _ (List.mem_reverse.1 listed)

mutual

/-- All numbers in the value of an expression are integers. -/
theorem Yields.isWhole {scope : Scope} {e : Term} {v : Value} : Yields scope e v → IsWhole v
  | .null => .null
  | .flag b => .flag b
  | .integer n => .integer n
  | .text s => .text s
  | .name _ value => value.isWhole
  | .template _ => .text _
  | .array listed => .list listed.isWhole
  | .object defined assembled => assembled.isWhole defined.isWhole
  | .frozen value => value.isWhole
  | .property target found => by
      cases target.isWhole with
      | object each => exact each _ (Entries.mem_of_find?_eq_some found)
  | .length _ => .integer _
  | .not _ _ => .flag _
  | .minus _ _ => .integer _
  | .decided left _ => left.isWhole
  | .passed _ _ right => right.isWhole
  | .same _ _ _ _ => .flag _
  | .differ _ _ _ _ => .flag _
  | .plus _ _ _ _ _ => .text _
  | .yes _ _ branch => branch.isWhole
  | .no _ _ branch => branch.isWhole

/-- What a list holds is whole if its items are. -/
theorem Lists.isWhole {scope : Scope} {items : List Item} {values : List Value} :
    Lists scope items values → ∀ v ∈ values, IsWhole v
  | .nil => fun _ among => nomatch among
  | .one value rest => List.forall_mem_cons.2 ⟨value.isWhole, rest.isWhole⟩
  | .spread value iterates rest =>
      List.forall_mem_append.2 ⟨iterates.isWhole value.isWhole, rest.isWhole⟩

theorem Defines.isWhole {scope : Scope} {parts : List Part}
    {definitions : List (String × Value)} :
    Defines scope parts definitions → ∀ item ∈ definitions, IsWhole item.2
  | .nil => fun _ among => nomatch among
  | .pair value rest => List.forall_mem_cons.2 ⟨value.isWhole, rest.isWhole⟩
  | .spread value copies rest =>
      List.forall_mem_append.2 ⟨copies.isWhole value.isWhole, rest.isWhole⟩

end

end TypeGloss.Script
