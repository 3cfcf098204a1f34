/-
# TypeGloss.Proofs.Evaluation.Soundness — a value that is found is the right one

The evaluator may give up, but what it finds is what the language says the expression
evaluates to. For every tree that spells a term, with initializers that spell the terms in a
scope, a value that comes out is the one value that the term yields (`value?_yields`).

An expression is evaluated by way of the expressions below it, so the step of the proof is
about any evaluation of these that is `Faithful`: one lemma for each kind of node takes it
from the expressions below to the expression itself, and the limit on the nesting is what the
induction is on.
-/
import TypeGloss.Proofs.Evaluation.Values

namespace TypeGloss.Script

set_option autoImplicit false

open Evaluation

/-! ## Names -/

/-- Of the names that an expression leads to, those that the look-up finds have initializers that
spell their terms. -/
def Binds (context : Expression.Context) (scope : Scope) (e : Term) : Prop :=
  ∀ x t, Relation.ReflTransGen (Child scope) e (.name x) → Gives (context.find x) t →
    ∃ initializer, scope x = some initializer ∧ Spells t initializer

/-- Wherever an expression leads, operands are of the kinds that are explained, and names mean
what the look-up finds for them. -/
structure Suited (context : Expression.Context) (scope : Scope) (e : Term) : Prop where
  fits : Fits scope e
  binds : Binds context scope e

/-- What suits an expression suits everything inside it. -/
theorem Suited.child {context : Expression.Context} {scope : Scope} {e inner : Term}
    (suited : Suited context scope e) (step : Child scope e inner) :
    Suited context scope inner where
  fits := suited.fits.child step
  binds x t steps := suited.binds x t (.head step steps)

/-! ## Parts of an expression -/

/-- Wherever the evaluation of a tree comes to a value, the tree's term yields that value. -/
structure Faithful (context : Expression.Context) (scope : Scope)
    (below : Tree → Evaluation Value) : Prop where
  comment {t : Tree} {v : Value} (kind : t.kind = "comment") : ¬ Gives (below t) v
  sound {t : Tree} {e : Term} {v : Value} (spelled : Spells t e) (suited : Suited context scope e)
    (given : Gives (below t) v) : Yields scope e v

namespace Faithful

open Expression

variable {context : Expression.Context} {scope : Scope} {below : Tree → Evaluation Value}
  (faithful : Faithful context scope below)

include faithful

/-- A comment in front leaves a wrapper unresolved; else its first part is evaluated. -/
theorem wrapped {t inner : Tree} {e : Term} {v : Value} (inside : t.parts.head? = some inner)
    (spelled : Spells inner e) (suited : Suited context scope e)
    (given : Gives (absentOr below t.named.head?) v) : Yields scope e v := by
  rw [Tree.parts] at inside
  cases listed : t.named with
  | nil => simp [listed] at inside
  | cons first rest =>
      rw [listed] at given inside
      by_cases kind : first.kind = "comment"
      · exact absurd given (faithful.comment kind)
      · simp only [List.filter_cons, bne_iff_ne, ne_eq, kind, not_false_eq_true, if_true,
          List.head?_cons, Option.some.injEq] at inside
        subst inside
        exact faithful.sound spelled suited given

/-- What the pieces of a template come to fills the template. -/
theorem chunks {nodes : List Tree} {chunks : List Chunk} {texts : List String}
    (each : List.Forall₂ SpellsChunk nodes chunks)
    (suited : ∀ e, Chunk.hole e ∈ chunks → Suited context scope e)
    (given : Gives (nodes.mapM (templatePart below)) texts) :
    Fills scope chunks (String.join texts) := by
  rw [gives_mapM] at given
  induction each generalizing texts with
  | nil =>
      cases given
      exact .nil
  | @cons node chunk nodes chunks spelled _ ih =>
      cases given with
      | @cons _ text _ texts first rest =>
          have later := ih (fun e among => suited e (List.mem_cons_of_mem _ among)) rest
          rw [String.join_cons]
          rw [templatePart] at first
          cases spelled with
          | fixed piece =>
            have kind : node.kind ≠ "template_substitution" := by
              cases piece <;> simp_all
            simp [kind, fragmentValue_piece piece] at first
            subst first
            exact .fixed later
          | hole kind inside spelled =>
            simp only [kind, beq_self_eq_true, if_true, gives_bind, gives_ofResult] at first
            obtain ⟨v, value, found, spelling, last⟩ := first
            have yields := faithful.wrapped inside spelled (suited _ List.mem_cons_self) value
            cases found with
            | none => simp at last
            | some s =>
              simp at last
              subst last
              exact .hole yields (reads_of_spelling v yields.isWhole spelling) later

/-- A template that gives a value yields it in the separate semantics. -/
theorem template {t : Tree} {chunks : List Chunk} {result : Value}
    (empty : t.named = [] → t.text = "\x60\x60")
    (each : List.Forall₂ SpellsChunk t.named chunks)
    (suited : Suited context scope (.template chunks))
    (given : Gives (Expression.template below t) result) :
    Yields scope (.template chunks) result := by
  rw [Expression.template] at given
  split at given
  · next bare =>
      rw [bare] at each
      cases each
      rw [empty bare, gives_pure] at given
      subst given
      exact .template .nil
  · obtain ⟨texts, filled, made⟩ := gives_bind.1 given
    rw [gives_pure] at made
    subst made
    exact .template (faithful.chunks each (fun e among => suited.child (.hole among)) filled)

/-- The items of an array literal; comments among them add none. -/
theorem items {nodes : List Tree} {items : List Item} {lists : List (List Value)}
    (each : List.Forall₂ SpellsItem (nodes.filter (·.kind != "comment")) items)
    (suited : ∀ item ∈ items, Suited context scope item.term)
    (given : Gives (nodes.mapM (arrayPart below)) lists) : Lists scope items lists.flatten := by
  rw [gives_mapM] at given
  induction given generalizing items with
  | nil =>
      cases each
      exact .nil
  | @cons node inside nodes lists first _ ih =>
      rw [List.flatten_cons]
      rw [arrayPart] at first
      by_cases kind : node.kind = "comment"
      · simp only [kind, beq_self_eq_true, if_true, gives_pure] at first
        subst first
        simp only [List.filter_cons, kind, bne_self_eq_false, Bool.false_eq_true, if_false] at each
        exact ih each suited
      · simp only [List.filter_cons, bne_iff_ne, ne_eq, kind, not_false_eq_true, if_true] at each
        simp only [beq_iff_eq, kind, if_false] at first
        cases each with
        | @cons _ item _ items spelled rest =>
            have suits : Suited context scope item.term := suited item List.mem_cons_self
            have later := ih rest fun item among => suited item (List.mem_cons_of_mem _ among)
            cases spelled with
            | one spelled =>
                simp only [spelled.kind_ne.2, if_false, gives_bind, gives_pure] at first
                obtain ⟨v, value, rfl⟩ := first
                exact .one (faithful.sound spelled suits value) later
            | spread kind place spelled =>
                simp only [kind, if_true, gives_bind] at first
                obtain ⟨v, value, listed⟩ := first
                have yields := faithful.wrapped place spelled suits value
                split at listed
                · rw [gives_pure] at listed
                  subst listed
                  exact .spread yields (.text _) later
                · rw [gives_pure] at listed
                  subst listed
                  exact .spread yields (.list _) later
                · simp at listed

/-- The definitions of an object literal, written into a table one after the other. -/
theorem parts {nodes : List Tree} {parts : List Part} {ofName : String → Evaluation Value}
    (names : ∀ {x v}, IsBindable x → Suited context scope (.name x) → Gives (ofName x) v →
      Yields scope (.name x) v)
    (each : List.Forall₂ SpellsPart (nodes.filter (·.kind != "comment")) parts)
    (suited : ∀ part ∈ parts, Suited context scope part.term) {table entries : Entries Value}
    (given : Gives (nodes.foldlM (objectPart ofName below) table) entries) :
    ∃ definitions, Defines scope parts definitions ∧
      entries = Entries.putAll table definitions := by
  induction nodes generalizing parts table with
  | nil =>
      cases each
      simp only [List.foldlM_nil, gives_pure] at given
      exact ⟨[], .nil, given.symm⟩
  | cons node nodes ih =>
      rw [List.foldlM_cons, gives_bind] at given
      obtain ⟨next, first, rest⟩ := given
      rw [objectPart] at first
      by_cases kind : node.kind = "comment"
      · simp only [kind, beq_self_eq_true, if_true, gives_pure] at first
        subst first
        simp only [List.filter_cons, kind, bne_self_eq_false, Bool.false_eq_true, if_false] at each
        exact ih each suited rest
      · simp only [List.filter_cons, bne_iff_ne, ne_eq, kind, not_false_eq_true, if_true] at each
        simp only [beq_iff_eq, kind, if_false] at first
        cases each with
        | @cons _ part _ parts spelled others =>
            have suits : Suited context scope part.term := suited part List.mem_cons_self
            obtain ⟨definitions, defines, rfl⟩ :=
              ih others (fun part among => suited part (List.mem_cons_of_mem _ among)) rest
            cases spelled with
            | pair kind keyed labelled ordinary valued spelled =>
                simp only [kind, if_true, gives_bind, keyed, valued, absentOr, gives_pure] at first
                obtain ⟨key, label, v, value, rfl⟩ := first
                obtain rfl := entryKey_key labelled label
                exact ⟨_, .pair (faithful.sound spelled suits value) defines, rfl⟩
            | shorthand kind bindable =>
                simp only [kind, String.reduceEq, if_false, if_true, gives_bind,
                  gives_pure] at first
                obtain ⟨v, value, rfl⟩ := first
                exact ⟨_, .pair (names bindable suits value) defines, rfl⟩
            | spread kind inside spelled =>
                simp only [kind, String.reduceEq, if_false, if_true, gives_bind] at first
                obtain ⟨v, value, copied⟩ := first
                have yields := faithful.wrapped inside spelled suits value
                split at copied
                · rw [gives_pure] at copied
                  subst copied
                  exact ⟨_, .spread yields (.object _) defines, (Entries.putAll_append ..).symm⟩
                · simp at copied

/-- An operator yields what its rule says, whether or not the second operand is evaluated. -/
theorem binary {t sign before after : Tree} {operator : Binary} {a b : Term} {result : Value}
    (signed : t.field? "operator" = some sign) (written : sign.text = operator.sign)
    (left : t.field? "left" = some before) (right : t.field? "right" = some after)
    (first : Spells before a) (second : Spells after b)
    (suited : Suited context scope (.binary operator a b))
    (given : Gives (Expression.binary below t) result) :
    Yields scope (.binary operator a b) result := by
  simp only [Expression.binary, signed, Option.elim_some, written, left, right, absentOr,
    gives_bind] at given
  obtain ⟨v, value, given⟩ := given
  have yields := faithful.sound first (suited.child .left) value
  split at given
  · next found decided =>
      rw [gives_pure] at given
      subst given
      rcases decides_or_passes yields.isWhole decided with ⟨same, decides⟩ | ⟨no, _⟩
      · cases same
        exact .decided yields decides
      · cases no
  · next passed =>
      rcases decides_or_passes yields.isWhole passed with ⟨no, _⟩ | ⟨_, passes⟩
      · cases no
      · exact .passed yields passes (faithful.sound second (suited.child .right) given)
  · next both =>
      obtain ⟨w, other, given⟩ := gives_bind.1 given
      have right := faithful.sound second (suited.child .right) other
      exact binary_yields suited.fits yields right both given

/-- A choice yields the branch that the condition decides on. -/
theorem ternary {t condition yes no : Tree} {c a b : Term} {result : Value}
    (tested : t.field? "condition" = some condition)
    (consequence : t.field? "consequence" = some yes)
    (alternative : t.field? "alternative" = some no) (test : Spells condition c)
    (first : Spells yes a) (second : Spells no b) (suited : Suited context scope (.choice c a b))
    (given : Gives (Expression.ternary below t) result) : Yields scope (.choice c a b) result := by
  simp only [Expression.ternary, gives_bind, tested, absentOr] at given
  obtain ⟨v, value, branch⟩ := given
  have yields := faithful.sound test (suited.child .condition) value
  cases truth : v.truthy with
  | true =>
      simp only [truth, if_true, consequence] at branch
      exact .yes yields ((truthy_iff yields.isWhole).1 truth)
        (faithful.sound first (suited.child .yes) branch)
  | false =>
      simp only [truth, Bool.false_eq_true, if_false, alternative] at branch
      exact .no yields ((truthy_eq_false_iff yields.isWhole).1 truth)
        (faithful.sound second (suited.child .no) branch)

/-- A member is a property of an object, or the length of a list. -/
theorem member {t target property : Tree} {e : Term} {result : Value}
    (object : t.field? "object" = some target) (spelled : Spells target e)
    (named : t.field? "property" = some property)
    (suited : Suited context scope (.member e property.text))
    (given : Gives (Expression.member below t) result) :
    Yields scope (.member e property.text) result := by
  simp only [Expression.member, gives_bind, object, absentOr, named, Option.elim_some] at given
  obtain ⟨v, value, found⟩ := given
  have yields := faithful.sound spelled (suited.child .member) value
  rcases suited.fits.suits v yields with ⟨entries, rfl⟩ | ⟨length, items, rfl⟩
  · exact .property yields (gives_ofOption.1 found)
  · rw [length] at found ⊢
    obtain rfl : Value.integer items.length = result := gives_pure.1 found
    exact .length yields

end Faithful

/-! ## Expressions -/

section Expressions

open Expression

theorem evaluateNode_wrapped {context : Context} {resolving : List String} {below : Below}
    {t : Tree} (kind : t.kind ∈ wrappers) :
    evaluateNode context resolving below t = absentOr (below resolving) t.named.head? := by
  have known := kind
  simp only [wrappers, List.mem_cons, List.not_mem_nil, or_false] at known
  rcases known with known | known | known | known <;> simp [evaluateNode, known, wrappers]

variable {context : Context} {scope : Scope}
variable (constants : context.constants = [])

include constants

/-- A name yields what its initializer does. -/
theorem name_yields {resolving : List String} {below : Below}
    (inner : ∀ resolving, Faithful context scope (below resolving)) {x : String} {v : Value}
    (bindable : IsBindable x) (suited : Suited context scope (.name x))
    (given : Gives (Expression.name context resolving below x) v) : Yields scope (.name x) v := by
  obtain ⟨-, notNan, notInfinity⟩ := bindable
  rw [name_eq, constants] at given
  simp only [notNan, notInfinity, if_false, Entries.find?] at given
  split at given
  · simp at given
  · split at given
    · simp at given
    · obtain ⟨t, found, value⟩ := gives_bind.1 given
      obtain ⟨e, initializer, spelled⟩ := suited.binds x t .refl found
      exact .name initializer ((inner _).sound spelled (suited.child (.name initializer)) value)

/-- One level of an evaluation is faithful if what it asks for is. -/
theorem evaluateNode_yields {resolving : List String} {below : Below}
    (inner : ∀ resolving, Faithful context scope (below resolving)) {t : Tree} {e : Term}
    {v : Value} (spelled : Spells t e) (suited : Suited context scope e)
    (given : Gives (evaluateNode context resolving below t) v) : Yields scope e v := by
  have faithful := inner resolving
  cases spelled with
  | null kind =>
      simp [evaluateNode, kind] at given
      subst given
      exact .null
  | flag kind =>
      split at kind <;> simp [evaluateNode, kind] at given <;> subst given <;> simp_all
      · exact .flag true
      · exact .flag false
  | integer kind numeral safe =>
      simp [evaluateNode, kind, Literal.numberValue_numeral numeral safe] at given
      subst given
      exact .integer _
  | text quoted =>
      simp [evaluateNode, quoted.kind, stringValue_text quoted] at given
      subst given
      exact .text _
  | name kind bindable =>
      simp [evaluateNode, kind, wrappers] at given
      exact name_yields constants inner bindable suited given
  | wrapped kind inside spelled =>
      rw [evaluateNode_wrapped kind] at given
      exact faithful.wrapped inside spelled suited given
  | template kind empty each =>
      simp [evaluateNode, kind, wrappers] at given
      exact faithful.template empty each suited given
  | array kind full each =>
      simp [evaluateNode, kind, wrappers] at given
      obtain ⟨lists, given, rfl⟩ := given
      exact .array (faithful.items each (fun item among => suited.child (.item among)) given)
  | object kind each =>
      simp [evaluateNode, kind, wrappers] at given
      obtain ⟨entries, given, rfl⟩ := given
      obtain ⟨definitions, defines, rfl⟩ := faithful.parts (name_yields constants inner) each
        (fun part among => suited.child (.part among)) given
      exact .object defines (assembles_ofList definitions)
  | frozen kind called freeze arguments one spelled =>
      simp [evaluateNode, kind, wrappers, call, called, freeze, arguments, one] at given
      exact .frozen (faithful.sound spelled (suited.child .frozen) given)
  | member kind object spelled named plain =>
      simp [evaluateNode, kind, wrappers] at given
      exact faithful.member object spelled named suited given
  | unary kind signed written operand spelled =>
      simp [evaluateNode, kind, wrappers, signed, written, operand, absentOr] at given
      obtain ⟨w, value, given⟩ := given
      exact unary_yields suited.fits (faithful.sound spelled (suited.child .unary) value) given
  | binary kind signed written left right first second =>
      simp [evaluateNode, kind, wrappers] at given
      exact faithful.binary signed written left right first second suited given
  | choice kind tested consequence alternative test first second =>
      simp [evaluateNode, kind, wrappers] at given
      exact faithful.ternary tested consequence alternative test first second suited given

/-- By induction on the depth: an expression is evaluated with less depth to go than what it
stands in, and so is the initializer of a name. -/
theorem evaluate_faithful (depth : Nat) (resolving : List String) :
    Faithful context scope (evaluate context depth resolving) := by
  induction depth generalizing resolving with
  | zero =>
      have nothing : ∀ t v, ¬ Gives (evaluate context 0 resolving t) v := by simp [evaluate]
      exact ⟨fun _ => nothing _ _, fun _ _ given => absurd given (nothing _ _)⟩
  | succ depth ih =>
      refine ⟨fun kind => ?_, fun spelled suited given => ?_⟩
      · simp [evaluate, evaluateNode, kind, wrappers]
      · exact evaluateNode_yields constants ih spelled suited given

/-- A value that is found for an expression is the value that it evaluates to, and no other.
The names that it leads to mean what the look-up finds for them; nothing is assumed of other
names, or of names that are not found. -/
theorem value?_yields {t : Tree} {e : Term} {v : Value} (spelled : Spells t e)
    (fits : Fits scope e) (binds : Binds context scope e)
    (resolved : value? context (some t) = .ok (some v)) :
    Yields scope e v ∧ ∀ w, Yields scope e w → w = v := by
  have faithful : Faithful context scope (evaluate context (maxDepth + 1) []) :=
    evaluate_faithful constants _ _
  have yields : Yields scope e v := faithful.sound spelled ⟨fits, binds⟩ resolved
  exact ⟨yields, fun w other => other.unique yields⟩

end Expressions

/-! ### A label with the number of sizes

`"n" + sizes.length`, where `sizes` is `[1, 2]`. -/

namespace Sizes

/-- A named node that may play a field. -/
def node (kind text : String) (field : Option String := none) (children : List Tree := []) : Tree :=
  .node { kind, text, start := 0, stop := 0, first := ⟨0, 0⟩, last := ⟨0, 0⟩, named := true,
          missing := false, field } children

/-- The number of sizes. -/
def length : Tree :=
  node "member_expression" "sizes.length" (some "right")
    [node "identifier" "sizes" (some "object"),
     node "property_identifier" "length" (some "property")]

/-- The label. -/
def label : Tree :=
  node "binary_expression" "\"n\" + sizes.length" none
    [node "string" "\"n\"" (some "left") [node "string_fragment" "n"],
     node "+" "+" (some "operator"), length]

/-- The sizes. -/
def sizes : Tree :=
  node "array" "[1, 2]" none [node "number" "1", node "number" "2"]

/-- The label as a term. -/
def labelTerm : Term :=
  .binary .plus (.text "n") (.member (.name "sizes") "length")

/-- The sizes as a term. -/
def sizesTerm : Term :=
  .array [.one (.integer 1), .one (.integer 2)]

/-- Only the sizes are declared. -/
def context : Expression.Context :=
  { lookup := some fun name => .ok (if name = "sizes" then some sizes else none) }

/-- Only the sizes are bound. -/
def scope : Scope := fun name => if name = "sizes" then some sizesTerm else none

theorem spells_sizes : Spells sizes sizesTerm := by
  have one : Literal.IsDigit 10 '1' 1 := ⟨by decide, .inl rfl⟩
  have two : Literal.IsDigit 10 '2' 2 := ⟨by decide, .inl rfl⟩
  have first : Spells (node "number" "1") (.integer 1) :=
    .integer rfl (.decimal (.last one) (by decide)) (by decide)
  have second : Spells (node "number" "2") (.integer 2) :=
    .integer rfl (.decimal (.last two) (by decide)) (by decide)
  exact .array rfl (by simp [IsFull, sizes, node, Tree.children, Tree.kind, Tree.mark])
    (.cons (.one first) (.cons (.one second) .nil))

theorem spells_label : Spells label labelTerm := by
  have piece : SpellsPiece (node "string_fragment" "n") "n" := .fragment rfl (by decide)
  have text : SpellsText (node "string" "\"n\"" (some "left") [node "string_fragment" "n"])
      (String.join ["n"]) :=
    .pieces rfl (by simp [node, Tree.named, Tree.children, Tree.mark]) (.cons piece .nil)
  have bindable : IsBindable "sizes" := by decide
  have plain : IsPlain "length" := by decide
  have name : Spells (node "identifier" "sizes" (some "object")) (.name "sizes") :=
    .name rfl bindable
  have named : length.field? "property" =
      some (node "property_identifier" "length" (some "property")) := rfl
  have member : Spells length (.member (.name "sizes") "length") :=
    .member rfl rfl name named plain
  exact .binary rfl rfl rfl rfl rfl (.text text) member

theorem binds : Binds context scope labelTerm := by
  intro x t _ found
  have listed : (if x = "sizes" then some sizes else none) = some t := by
    simpa [context, Expression.Context.find] using found
  split at listed
  · next same =>
      cases listed
      exact ⟨sizesTerm, by simp [scope, same], spells_sizes⟩
  · cases listed

theorem fits : Fits scope labelTerm := by
  have integer : ∀ n, Fits scope (.integer n) := fun n => .intro trivial nofun
  have array : Fits scope sizesTerm := by
    refine .intro trivial fun inner step => ?_
    cases step with
    | item among =>
        simp only [List.mem_cons, List.not_mem_nil, or_false] at among
        rcases among with rfl | rfl <;> exact integer _
  have name : Fits scope (.name "sizes") := by
    refine .intro trivial fun inner step => ?_
    cases step with
    | name bound =>
        cases bound
        exact array
  have member : Fits scope (.member (.name "sizes") "length") := by
    refine .intro (fun v yields => ?_) fun inner step => ?_
    · cases yields with
      | name bound value =>
          cases bound
          cases value with
          | array listed => exact .inr ⟨rfl, _, rfl⟩
    · cases step
      exact name
  refine .intro (fun v w left _ => ?_) fun inner step => ?_
  · cases left
    exact .inl ⟨_, rfl⟩
  · cases step with
    | left => exact .intro trivial nofun
    | right => exact member

end Sizes

open Sizes in
theorem value?_yields_sizes :
    Expression.value? context (some label) = .ok (some (.text "n2")) ∧
      Yields scope labelTerm (.text "n2") := by
  have resolved : Expression.value? context (some label) = .ok (some (.text "n2")) := rfl
  exact ⟨resolved, (value?_yields rfl spells_label fits binds resolved).1⟩

end TypeGloss.Script
