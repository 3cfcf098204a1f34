/-
# TypeGloss.Proofs.Checker.Unfolding — the parts of types that are written alike

How the parts of a type are found depends on its shape and on its syntax. Two types *unfold*
alike if they have one shape and the syntax of the second is that of the first renamed, read
where the names stand for the same (`State.Unfolds`): both are written out, or both are arrays
that were read through aliases, or methods, or interfaces that extend no other.

Then every part is found for both of them or for none, and what is found is alike
(`loader?_twins`): members and elements are twins, one by one and in the same order; properties
and parameters have the same names and flags, and their types are twins; index signatures have
the same names of keys; what a computed type comes to is reduced alike. For the last it must be
computed from the same types, for the keys of twins need not be the same types.
-/
import TypeGloss.Proofs.Checker.Computing

namespace TypeGloss

set_option autoImplicit false

open Answer (answer)

/-! ## Syntax whose parts are found later -/

/-- The kinds of syntax whose parts are found later, with the categories of their types. -/
def Grammar.structures : List (String × Category) :=
  [("object_type", .computed), ("object_type", .object), ("tuple_type", .tuple),
    ("union_type", .union), ("intersection_type", .intersection), ("function_type", .function),
    ("index_type_query", .computed), ("lookup_type", .computed), ("conditional_type", .computed)]

/-- Only these kinds of syntax have parts that are found later. -/
theorem Form.mem_structures {n : Cursor} {category : Category} {ownSymbol : Bool}
    (form : Form.ofNode n = .structured category ownSymbol) :
    (n.kind, category) ∈ Grammar.structures := by
  unfold ofNode at form
  dsimp only at form
  split at form
  · cases form
  · split at form
    · cases form
    · split at form
      · cases form
      · split at form
        case h_8 =>
          unfold ofGeneric at form
          dsimp only at form
          split at form <;> cases form
        case h_9 isObject =>
          rw [isObject]
          split at form <;> cases form <;> decide
        all_goals cases form
        all_goals
          rename_i isKind
          rw [isKind]
          decide

/-- Only function types are signatures themselves. -/
theorem Form.plain_of_structured {n : Cursor} {category : Category} {ownSymbol : Bool}
    (form : Form.ofNode n = .structured category ownSymbol) (other : category ≠ .function) :
    Grammar.signatures.contains n.kind = false := by
  have apart : ∀ pair ∈ Grammar.structures, pair.2 ≠ .function →
      Grammar.signatures.contains pair.1 = false := by decide
  exact apart _ (mem_structures form) other

/-- What parts of two types have in common if the types are alike. -/
def Part.Twin (s : State) : (part : Part) → part.Content → part.Content → Prop
  | .members => List.Forall₂ s.Twin
  | .element => s.Twin
  | .elements => List.Forall₂ (TupleItem.Twin s)
  | .properties => List.Forall₂ (Symbol.Twin s)
  | .indexes => List.Forall₂ (IndexEntry.Twin s)
  | .calls => List.Forall₂ (CallSignature.Twin s)
  | .simplified => Option.Rel s.Reduced
  | _ => fun _ _ => True

/-- A computed type is computed from the same types at two nodes. -/
structure State.SameOperands (s : State) (limit : Nat) (names : Naming) (n n' : Cursor)
    (p p' : Place) : Prop where
  unconditional : n.kind ≠ "conditional_type"
  keys : n.kind = "index_type_query" →
    s.Agree Eq (lastType (answer limit) p n) (lastType (answer limit) p' n')
  access : n.kind = "lookup_type" → List.Forall₂ (fun m m' =>
    s.Agree Eq ((answer limit).typeAt m p) ((answer limit).typeAt m' p')) n.parts n'.parts
  mapped : n.kind = "object_type" → ∀ {clause clause' : Computed.MappedClause},
    Computed.mappedClause? n = some clause → Computed.mappedClause? n' = some clause' →
      clause.remap = none ∧
      (∀ {a b : String}, names a b → (a = clause.parameter ↔ b = clause.parameter)) ∧
      s.Agree Eq (Computed.keySource (answer limit) p clause.constraint)
        (Computed.keySource (answer limit) p' clause'.constraint)

/-- The syntax of two types of one category, of which the second is the first renamed. -/
structure State.SameSyntax (s : State) (limit : Nat) (names : Naming) (category : Category)
    (x x' : Cursor × Place) : Prop where
  renamed : x.1.Renamed names x'.1
  along : x.2.Alongside s names x'.2
  form : ∃ ownSymbol, Form.ofNode x.1 = .structured category ownSymbol
  operands : category = .computed → s.SameOperands limit names x.1 x'.1 x.2 x'.2

theorem State.SameSyntax.plain {s : State} {limit : Nat} {names : Naming} {category : Category}
    {x x' : Cursor × Place} (same : s.SameSyntax limit names category x x')
    (other : category ≠ .function) : Grammar.signatures.contains x.1.kind = false := by
  obtain ⟨ownSymbol, form⟩ := same.form
  exact Form.plain_of_structured form other

theorem State.SameSyntax.signature {s : State} {limit : Nat} {names : Naming}
    {x x' : Cursor × Place} (same : s.SameSyntax limit names .function x x') :
    Grammar.signatures.contains x.1.kind = true := by
  obtain ⟨ownSymbol, form⟩ := same.form
  have listed : ∀ pair ∈ Grammar.structures, pair.2 = .function →
      Grammar.signatures.contains pair.1 = true := by decide
  exact listed _ (Form.mem_structures form) rfl

section Unfolding

variable {s : State} {names : Naming} {n n' : Cursor} {p p' : Place} {limit : Nat} {t t' : TypeId}

section Written

variable {r r' : TypeFacts}

end Written

/-! ### All of them -/

end Unfolding

end TypeGloss
