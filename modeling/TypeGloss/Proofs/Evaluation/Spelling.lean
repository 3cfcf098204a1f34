/-
# TypeGloss.Proofs.Evaluation.Spelling — how constant expressions are written

`Spells t e` says that the syntax tree `t` is the term `e`. It is the grammar of the
expressions whose meaning `Yields` gives, read off the nodes of a tree; comments count for
nothing, and parentheses and assertions of a type stand for what is inside them.

* A string is a sequence of fragments, which stand for their text, and of escapes, which
  stand for the character they denote.
* Names and keys are written without escapes. A key that is an index of an array is left out,
  for the language does not list it where it was defined, and so is the key that sets the
  prototype.
* An array has no holes: no comma follows its bracket or another comma.

`Fits scope e` says of the operands in an expression, and in the initializers of the names it
uses, what the grammar cannot: that a sum has a text on one side, that what is compared has no
parts, that what is negated is an integer other than zero, and that members are taken of
objects, or the length of arrays.
-/
import Mathlib.Logic.Relation
import TypeGloss.Evaluation.Expression
import TypeGloss.Proofs.Evaluation.Script
import TypeGloss.Proofs.Tree.Literal

namespace TypeGloss.Script

set_option autoImplicit false

/-! ## Strings and names -/

/-- One piece of a string. -/
inductive SpellsPiece : Tree → String → Prop where
  | fragment {t : Tree} (kind : t.kind = "string_fragment") (noReturn : '\r' ∉ t.text.toList) :
      SpellsPiece t t.text
  | escape {t : Tree} {c : Char} (kind : t.kind = "escape_sequence")
      (denotes : Literal.Denotes t.text.toList c) : SpellsPiece t (String.singleton c)

/-- Strings. -/
inductive SpellsText : Tree → String → Prop where
  | empty {t : Tree} (kind : t.kind = "string") (bare : t.named = [])
      (quotes : t.text = "\"\"" ∨ t.text = "''") : SpellsText t ""
  | pieces {t : Tree} {texts : List String} (kind : t.kind = "string") (some : t.named ≠ [])
      (each : List.Forall₂ SpellsPiece t.named texts) : SpellsText t (String.join texts)

/-- Names that are written as they are. -/
def IsPlain (name : String) : Prop :=
  '\\' ∉ name.toList

instance (name : String) : Decidable (IsPlain name) :=
  inferInstanceAs (Decidable ('\\' ∉ name.toList))

/-- Names that stand for what a scope binds them to. -/
def IsBindable (name : String) : Prop :=
  IsPlain name ∧ name ≠ "NaN" ∧ name ≠ "Infinity"

instance (name : String) : Decidable (IsBindable name) :=
  inferInstanceAs (Decidable (_ ∧ _))

/-- Keys that are listed where they were defined and define a property. -/
def IsOrdinary (key : String) : Prop :=
  (key = "" ∨ ∃ c ∈ key.toList, ¬ c.isDigit) ∧ key ≠ "__proto__"

/-- Keys of an object literal. -/
inductive SpellsKey : Tree → String → Prop where
  | identifier {t : Tree} (kind : t.kind = "property_identifier") (plain : IsPlain t.text) :
      SpellsKey t t.text
  | text {t : Tree} {s : String} (spelled : SpellsText t s) : SpellsKey t s

/-! ## Expressions -/

/-- The signs of operators on one operand. -/
def Unary.sign : Unary → String
  | .not => "!"
  | .minus => "-"

/-- The signs of operators on two operands. -/
def Binary.sign : Binary → String
  | .and => "&&"
  | .or => "||"
  | .orElse => "??"
  | .same => "==="
  | .differ => "!=="
  | .plus => "+"

/-- An array literal without holes. -/
def IsFull (t : Tree) : Prop :=
  (t.children.filter (·.kind != "comment")).IsChain fun before after =>
    after.kind = "," → before.kind ≠ "[" ∧ before.kind ≠ ","

mutual

/-- The tree is this expression. -/
inductive Spells : Tree → Term → Prop where
  | null {t : Tree} (kind : t.kind = "null") : Spells t .null
  | flag {t : Tree} {b : Bool} (kind : t.kind = if b then "true" else "false") :
      Spells t (.flag b)
  | integer {t : Tree} {n : Nat} (kind : t.kind = "number")
      (numeral : Literal.Numeral t.text.toList n) (safe : n ≤ Value.maxSafeInteger) :
      Spells t (.integer n)
  | text {t : Tree} {s : String} (quoted : SpellsText t s) : Spells t (.text s)
  | name {t : Tree} (kind : t.kind = "identifier") (bindable : IsBindable t.text) :
      Spells t (.name t.text)
  | wrapped {t inner : Tree} {e : Term} (kind : t.kind ∈ Expression.wrappers)
      (inside : t.parts.head? = some inner) (spelled : Spells inner e) : Spells t e
  | template {t : Tree} {chunks : List Chunk} (kind : t.kind = "template_string")
      (empty : t.named = [] → t.text = "\x60\x60")
      (each : List.Forall₂ SpellsChunk t.named chunks) : Spells t (.template chunks)
  | array {t : Tree} {items : List Item} (kind : t.kind = "array") (full : IsFull t)
      (each : List.Forall₂ SpellsItem t.parts items) : Spells t (.array items)
  | object {t : Tree} {parts : List Part} (kind : t.kind = "object")
      (each : List.Forall₂ SpellsPart t.parts parts) : Spells t (.object parts)
  | frozen {t function arguments argument : Tree} {e : Term} (kind : t.kind = "call_expression")
      (called : t.field? "function" = some function) (freeze : function.text = "Object.freeze")
      (given : t.field? "arguments" = some arguments) (one : arguments.parts = [argument])
      (spelled : Spells argument e) : Spells t (.frozen e)
  | member {t target property : Tree} {e : Term} (kind : t.kind = "member_expression")
      (object : t.field? "object" = some target) (spelled : Spells target e)
      (named : t.field? "property" = some property) (plain : IsPlain property.text) :
      Spells t (.member e property.text)
  | unary {t sign argument : Tree} {operator : Unary} {e : Term}
      (kind : t.kind = "unary_expression") (signed : t.field? "operator" = some sign)
      (written : sign.text = operator.sign) (operand : t.field? "argument" = some argument)
      (spelled : Spells argument e) : Spells t (.unary operator e)
  | binary {t sign before after : Tree} {operator : Binary} {a b : Term}
      (kind : t.kind = "binary_expression") (signed : t.field? "operator" = some sign)
      (written : sign.text = operator.sign) (left : t.field? "left" = some before)
      (right : t.field? "right" = some after) (first : Spells before a)
      (second : Spells after b) : Spells t (.binary operator a b)
  | choice {t condition yes no : Tree} {c a b : Term} (kind : t.kind = "ternary_expression")
      (tested : t.field? "condition" = some condition)
      (consequence : t.field? "consequence" = some yes)
      (alternative : t.field? "alternative" = some no) (test : Spells condition c)
      (first : Spells yes a) (second : Spells no b) : Spells t (.choice c a b)

/-- A piece of a template. -/
inductive SpellsChunk : Tree → Chunk → Prop where
  | fixed {t : Tree} {s : String} (piece : SpellsPiece t s) : SpellsChunk t (.fixed s)
  | hole {t inner : Tree} {e : Term} (kind : t.kind = "template_substitution")
      (inside : t.parts.head? = some inner) (spelled : Spells inner e) : SpellsChunk t (.hole e)

/-- An item of an array literal. -/
inductive SpellsItem : Tree → Item → Prop where
  | one {t : Tree} {e : Term} (spelled : Spells t e) : SpellsItem t (.one e)
  | spread {t inner : Tree} {e : Term} (kind : t.kind = "spread_element")
      (inside : t.parts.head? = some inner) (spelled : Spells inner e) :
      SpellsItem t (.spread e)

/-- A part of an object literal. -/
inductive SpellsPart : Tree → Part → Prop where
  | pair {t label value : Tree} {key : String} {e : Term} (kind : t.kind = "pair")
      (keyed : t.field? "key" = some label) (labelled : SpellsKey label key)
      (ordinary : IsOrdinary key) (valued : t.field? "value" = some value)
      (spelled : Spells value e) : SpellsPart t (.pair key e)
  | shorthand {t : Tree} (kind : t.kind = "shorthand_property_identifier")
      (bindable : IsBindable t.text) : SpellsPart t (.pair t.text (.name t.text))
  | spread {t inner : Tree} {e : Term} (kind : t.kind = "spread_element")
      (inside : t.parts.head? = some inner) (spelled : Spells inner e) :
      SpellsPart t (.spread e)

end

/-- No expression is a comment. -/
theorem Spells.kind_ne {t : Tree} {e : Term} (spelled : Spells t e) :
    t.kind ≠ "comment" ∧ t.kind ≠ "spread_element" := by
  cases spelled with
  | text quoted => cases quoted <;> simp_all
  | flag kind => split at kind <;> simp [kind]
  | wrapped kind =>
      simp only [Expression.wrappers, List.mem_cons, List.not_mem_nil, or_false] at kind
      rcases kind with kind | kind | kind | kind <;> simp [kind]
  | _ => simp_all

/-! ## Operands -/

/-- The expression of an item. -/
def Item.term : Item → Term
  | .one e => e
  | .spread e => e

/-- The expression of a part. -/
def Part.term : Part → Term
  | .pair _ e => e
  | .spread e => e

/-- The expressions that an expression is evaluated with. -/
inductive Child (scope : Scope) : Term → Term → Prop where
  | name {x : String} {e : Term} (bound : scope x = some e) : Child scope (.name x) e
  | hole {chunks : List Chunk} {e : Term} (among : .hole e ∈ chunks) :
      Child scope (.template chunks) e
  | item {items : List Item} {item : Item} (among : item ∈ items) :
      Child scope (.array items) item.term
  | part {parts : List Part} {part : Part} (among : part ∈ parts) :
      Child scope (.object parts) part.term
  | frozen {e : Term} : Child scope (.frozen e) e
  | member {e : Term} {x : String} : Child scope (.member e x) e
  | unary {operator : Unary} {e : Term} : Child scope (.unary operator e) e
  | left {operator : Binary} {a b : Term} : Child scope (.binary operator a b) a
  | right {operator : Binary} {a b : Term} : Child scope (.binary operator a b) b
  | condition {c a b : Term} : Child scope (.choice c a b) c
  | yes {c a b : Term} : Child scope (.choice c a b) a
  | no {c a b : Term} : Child scope (.choice c a b) b

/-- The operands are of the kinds that the operator is explained for. -/
def Suits (scope : Scope) : Term → Prop
  | .member e x => ∀ v, Yields scope e v →
      (∃ entries, v = .object entries) ∨ (x = "length" ∧ ∃ items, v = .list items)
  | .unary .minus e => ∀ v, Yields scope e v → ∃ n : Int, n ≠ 0 ∧ v = .integer n
  | .binary .same a b => ∀ v w, Yields scope a v → Yields scope b w → IsPrimitive v ∧ IsPrimitive w
  | .binary .differ a b => ∀ v w, Yields scope a v → Yields scope b w →
      IsPrimitive v ∧ IsPrimitive w
  | .binary .plus a b => ∀ v w, Yields scope a v → Yields scope b w →
      (∃ s, v = .text s) ∨ ∃ s, w = .text s
  | _ => True

/-- Wherever an expression leads, operands are of the kinds that are explained. -/
def Fits (scope : Scope) (e : Term) : Prop :=
  ∀ inner, Relation.ReflTransGen (Child scope) e inner → Suits scope inner

namespace Fits

variable {scope : Scope} {e : Term}

theorem suits (fits : Fits scope e) : Suits scope e :=
  fits e .refl

theorem child (fits : Fits scope e) {inner : Term} (step : Child scope e inner) :
    Fits scope inner :=
  fun _ steps => fits _ (.head step steps)

theorem intro (suits : Suits scope e) (each : ∀ inner, Child scope e inner → Fits scope inner) :
    Fits scope e := by
  intro inner steps
  rcases Relation.ReflTransGen.cases_head steps with rfl | ⟨next, step, rest⟩
  · exact suits
  · exact each next step inner rest

end Fits

end TypeGloss.Script
