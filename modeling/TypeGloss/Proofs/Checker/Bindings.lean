/-
# TypeGloss.Proofs.Checker.Bindings — what a match has bound when it ends

A candidate is matched against a pattern from left to right. A pattern without variables is a
test; a variable is bound to what it meets; every other form is opened, which leaves parts of
the candidate to be matched against parts of the pattern, or it refuses the candidate. So a
match walks through a list of what is still to be matched (`Walk`) and ends with the first
test that is not passed, or with nothing left.

What a walk has bound is written into one table as it goes, and a failed match does not take it
back: the branch for a failed match is read with all that was bound before the failure in view
(`conditional_bindings`). There is nothing to take back if the only variable of a pattern is the
last thing that the walk comes to (`Walk.nothing_bound`).

An element that is still being found is matched as nothing: a variable takes it, and then stands
for nothing in the branch, where its name hides what it stood for outside all the same.
-/
import TypeGloss.Proofs.Checker.Instantiation

namespace TypeGloss

set_option autoImplicit false

open Answer (answer)

/-! ## What is bound -/

namespace Inferred

variable {inferred : Inferred}

/-- What was inferred is found before what was bound around the conditional type. -/
theorem find?_above (nodup : (Entries.names inferred).Nodup) (name : String) (env : Env) :
    Entries.find? name (inferred.above env) =
      (Entries.find? name inferred).getD (Entries.find? name env) := by
  induction inferred generalizing env with
  | nil => rfl
  | cons item rest ih =>
      obtain ⟨key, bound⟩ := item
      obtain ⟨fresh, others⟩ := List.nodup_cons.1 nodup
      have first : Entries.find? name ((key, bound) :: rest) =
          if key = name then some bound else Entries.find? name rest := rfl
      rw [first]
      by_cases same : key = name
      · subst same
        have later : Entries.find? key rest = none := Entries.find?_eq_none_iff.2 fresh
        cases bound <;> simp [above, ih others, later, Entries.find?_erase, Entries.find?_put]
      · have here : name ≠ key := Ne.symm same
        cases bound <;>
          simp [above, ih others, same, here, Entries.find?_erase, Entries.find?_put]

end Inferred

namespace Conditional

/-! ## Walks -/

section Walks

/-- The name of a generic pattern. -/
def nameOf (pattern : Cursor) : String :=
  textOf (pattern.fieldOr? "name" ["type_identifier"])

/-- The patterns for the arguments of a generic pattern. -/
def argumentsOf (pattern : Cursor) : List Cursor :=
  ((pattern.fieldOr? "type_arguments" ["type_arguments"]).map Cursor.parts).getD []

/-- The name that a variable binds. -/
def variableOf (pattern : Cursor) : String :=
  textOf (pattern.first? ["type_identifier"])

/-- Arrays are told by their element type, not by their arguments. -/
def IsArrayPattern (pattern : Cursor) (category : Category) : Prop :=
  Library.arrayTypes.contains (nameOf pattern) = true ∧ category = .array ∧
    argumentsOf pattern ≠ []

/-- A pattern with variables in it is opened: what is left is to match these types against
these patterns. An element that is still being found is no type. -/
inductive Opens (s : State) (pattern : Cursor) :
    Option TypeId → List (Option TypeId × Cursor) → Prop where
  | inside {candidate : Option TypeId} {inner : Cursor} (kind : pattern.kind = "parenthesized_type")
      (part : pattern.parts.head? = some inner) : Opens s pattern candidate [(candidate, inner)]
  | element {limit : Nat} {candidate : TypeId} {element : Option TypeId} {inner : Cursor}
      (kind : pattern.kind = "array_type") (isArray : s.Tells (Check.category candidate) .array)
      (told : s.Tells ((answer limit).element? candidate) element)
      (part : pattern.parts.head? = some inner) :
      Opens s pattern (some candidate) [(element, inner)]
  | arrayArgument {limit : Nat} {candidate : TypeId} {r : TypeFacts} {element : Option TypeId}
      {inner : Cursor} {more : List Cursor} (kind : pattern.kind = "generic_type")
      (facts : s.Tells (Check.facts candidate) r) (isArray : IsArrayPattern pattern r.category)
      (listed : argumentsOf pattern = inner :: more)
      (told : s.Tells ((answer limit).element? candidate) element) :
      Opens s pattern (some candidate) [(element, inner)]
  | arguments {candidate : TypeId} {r : TypeFacts} (kind : pattern.kind = "generic_type")
      (facts : s.Tells (Check.facts candidate) r) (plain : ¬ IsArrayPattern pattern r.category)
      (named : r.name = some (nameOf pattern))
      (complete : r.args.length = (argumentsOf pattern).length) :
      Opens s pattern (some candidate)
        ((r.args.zip (argumentsOf pattern)).map (Prod.map some id))
  | result {limit : Nat} {candidate : TypeId} {signature : CallSignature}
      {more : List CallSignature} (kind : pattern.kind = "function_type")
      (told : s.Tells (Inference.callable (answer limit) candidate) (signature :: more)) :
      Opens s pattern (some candidate)
        ((pattern.field? "return_type").toList.map (some signature.returnType, ·))

/-- A pattern with variables in it has a form that the candidate does not have. -/
inductive Refuses (s : State) (pattern : Cursor) : Option TypeId → Prop where
  | noArray {candidate : TypeId} {category : Category} (kind : pattern.kind = "array_type")
      (told : s.Tells (Check.category candidate) category) (other : category ≠ .array) :
      Refuses s pattern (some candidate)
  | otherName {candidate : TypeId} {r : TypeFacts} (kind : pattern.kind = "generic_type")
      (facts : s.Tells (Check.facts candidate) r) (plain : ¬ IsArrayPattern pattern r.category)
      (differs : ¬ (r.name = some (nameOf pattern) ∧
        r.args.length = (argumentsOf pattern).length)) : Refuses s pattern (some candidate)
  | noFunction {limit : Nat} {candidate : TypeId} (kind : pattern.kind = "function_type")
      (told : s.Tells (Inference.callable (answer limit) candidate) []) :
      Refuses s pattern (some candidate)
  | unmatched {candidate : Option TypeId} (kind : pattern.kind ∉
      ["infer_type", "parenthesized_type", "array_type", "generic_type", "function_type"]) :
      Refuses s pattern candidate

/-- How a match goes on that has these types to match against these patterns: whether it
succeeds, and what it binds on the way. -/
inductive Walk (s : State) (place : Place) : List (Option TypeId × Cursor) → Bool → Inferred → Prop where
  | done : Walk s place [] true []
  | passed {limit : Nat} {candidate t target : TypeId} {pattern : Cursor}
      {rest : List (Option TypeId × Cursor)} {verdict : Bool} {found : Inferred}
      (closed : hasVariables pattern = false)
      (read : s.Tells ((answer limit).typeAt pattern place) t)
      (simple : s.Tells ((answer limit).simplified t) (some target))
      (accepted : s.Tells ((answer limit).assignable candidate target) true)
      (on : Walk s place rest verdict found) :
      Walk s place ((some candidate, pattern) :: rest) verdict found
  | failed {limit : Nat} {candidate t target : TypeId} {pattern : Cursor}
      {rest : List (Option TypeId × Cursor)} (closed : hasVariables pattern = false)
      (read : s.Tells ((answer limit).typeAt pattern place) t)
      (simple : s.Tells ((answer limit).simplified t) (some target))
      (rejected : s.Tells ((answer limit).assignable candidate target) false) :
      Walk s place ((some candidate, pattern) :: rest) false []
  | absent {limit : Nat} {candidate : Option TypeId} {t : TypeId} {pattern : Cursor}
      {rest : List (Option TypeId × Cursor)} (closed : hasVariables pattern = false)
      (read : s.Tells ((answer limit).typeAt pattern place) t)
      (nothing : s.Tells ((answer limit).simplified t) none) :
      Walk s place ((candidate, pattern) :: rest) false []
  | bound {candidate : Option TypeId} {pattern : Cursor} {rest : List (Option TypeId × Cursor)}
      {verdict : Bool} {found : Inferred} (isOpen : hasVariables pattern = true)
      (kind : pattern.kind = "infer_type") (on : Walk s place rest verdict found) :
      Walk s place ((candidate, pattern) :: rest) verdict ((variableOf pattern, candidate) :: found)
  | opened {candidate : Option TypeId} {pattern : Cursor} {inner rest : List (Option TypeId × Cursor)}
      {verdict : Bool} {found : Inferred} (isOpen : hasVariables pattern = true)
      (opens : Opens s pattern candidate inner) (on : Walk s place (inner ++ rest) verdict found) :
      Walk s place ((candidate, pattern) :: rest) verdict found
  | refused {candidate : Option TypeId} {pattern : Cursor} {rest : List (Option TypeId × Cursor)}
      (isOpen : hasVariables pattern = true) (refuses : Refuses s pattern candidate) :
      Walk s place ((candidate, pattern) :: rest) false []

namespace Walk

variable {s : State} {place : Place} {items rest : List (Option TypeId × Cursor)} {found more : Inferred}
  {verdict verdict' : Bool}

/-- A walk that comes through goes on with what follows; one that fails ends there. -/
theorem append (first : Walk s place items verdict found)
    (second : verdict = true → Walk s place rest verdict' more) :
    Walk s place (items ++ rest) (verdict && verdict')
      (found ++ if verdict then more else []) := by
  induction first with
  | done => exact second rfl
  | passed closed read simple accepted _ ih => exact .passed closed read simple accepted (ih second)
  | failed closed read simple rejected => exact .failed closed read simple rejected
  | absent closed read nothing => exact .absent closed read nothing
  | bound isOpen kind _ ih => exact .bound isOpen kind (ih second)
  | opened isOpen opens _ ih =>
      have on := ih second
      rw [List.append_assoc] at on
      exact .opened isOpen opens on
  | refused isOpen refuses => exact .refused isOpen refuses

end Walk

/-! ### Patterns that end with their variable -/

/-- The only variable of a pattern is the last thing that a walk comes to. -/
inductive EndsInVariable : Cursor → Prop where
  | itself {pattern : Cursor} (kind : pattern.kind = "infer_type") : EndsInVariable pattern
  | inside {pattern inner : Cursor}
      (kind : pattern.kind = "parenthesized_type" ∨ pattern.kind = "array_type")
      (part : pattern.parts.head? = some inner) (ends : EndsInVariable inner) :
      EndsInVariable pattern
  | arguments {pattern last : Cursor} {before : List Cursor} (kind : pattern.kind = "generic_type")
      (listed : argumentsOf pattern = before ++ [last])
      (closed : ∀ argument ∈ before, hasVariables argument = false) (ends : EndsInVariable last) :
      EndsInVariable pattern
  | result {pattern result : Cursor} (kind : pattern.kind = "function_type")
      (returns : pattern.field? "return_type" = some result) (ends : EndsInVariable result) :
      EndsInVariable pattern

end Walks

/-! ## Matches are walks -/

section Matches

variable {s : State} {place : Place} {ask : Ask}

/-- A match that has come to a verdict and to this table was a walk, and the table is the one
that it began with and what it has bound since. -/
def IsWalk (s : State) (place : Place) (items : List (Option TypeId × Cursor)) (inferred : Inferred)
    (result : Bool × Inferred) : Prop :=
  ∃ found, result.2 = Entries.putAll inferred found ∧ Walk s place items result.1 found

/-- A match that opens a pattern is a walk if the rest is one. -/
theorem IsWalk.open {candidate : Option TypeId} {pattern : Cursor} {inner : List (Option TypeId × Cursor)}
    {inferred : Inferred} {result : Bool × Inferred} (isOpen : hasVariables pattern = true)
    (opens : Opens s pattern candidate inner) (rest : IsWalk s place inner inferred result) :
    IsWalk s place [(candidate, pattern)] inferred result := by
  obtain ⟨found, left, walk⟩ := rest
  exact ⟨found, left, .opened isOpen opens (by simpa using walk)⟩

/-- What refuses an open pattern binds nothing. -/
theorem IsWalk.refuse {candidate : Option TypeId} {pattern : Cursor} {inferred : Inferred}
    (isOpen : hasVariables pattern = true) (refuses : Refuses s pattern candidate) :
    IsWalk s place [(candidate, pattern)] inferred (false, inferred) :=
  ⟨[], rfl, .refused isOpen refuses⟩

variable {limit : Nat}

end Matches

/-! ## Branches -/

section Branches

variable {s : State} {place : Place} {choice : Choice} {limit : Nat}

/-- What is in view in a branch but for the variables of the pattern: a parameter that is
given stands for the candidate. -/
def viewOf (env : Env) (parameter : Option String) (candidate : TypeId) : Env :=
  match parameter with
  | some name => Entries.put name candidate env
  | none => env

/-- A candidate takes the branch that the match decides, which is read with whatever the match
has bound in view. -/
structure TakesBranch (s : State) (place : Place) (choice : Choice) (limit : Nat)
    (parameter : Option String) (candidate : TypeId) (matched : Bool) (found : Inferred)
    (inside : Place) (result : TypeId) : Prop where
  walk : Walk s place [(some candidate, choice.pattern)] matched found
  source : inside.source = place.source
  env : inside.env =
    Inferred.above (Entries.ofList found) (viewOf place.env parameter candidate)
  blanks : inside.blanks = Inferred.blanks (Entries.ofList found)
  read : s.Tells ((answer limit).typeAt (if matched then choice.whenTrue else choice.whenFalse)
    inside) result

namespace TakesBranch

variable {parameter : Option String} {candidate result : TypeId} {matched : Bool}
  {found : Inferred} {inside : Place}

/-- A name that was bound on the walk hides what it stood for outside; every other name stands
for the same as outside. -/
theorem find?_env (taken : TakesBranch s place choice limit parameter candidate matched found
    inside result) (name : String) :
    Entries.find? name inside.env = (Entries.find? name (Entries.ofList found)).getD
      (Entries.find? name (viewOf place.env parameter candidate)) := by
  rw [taken.env, Inferred.find?_above (Entries.nodup_names_ofList found)]

end TakesBranch

/-- How a conditional type comes to a result: its checked type is a type in which all
computation is done, from which come the candidates. -/
structure ComesTo (s : State) (place : Place) (choice : Choice) (limit : Nat)
    (u result t checked : TypeId) (category : Category) (candidates : List TypeId) : Prop where
  written : s.Tells ((answer limit).typeAt choice.checked place) t
  simple : s.Tells ((answer limit).simplified t) (some checked)
  told : s.Tells (Check.category checked) category
  /-- Over a union that a type parameter stands for, the type is distributed. -/
  listed : if (distributed? choice place.env category).isSome then
    s.Tells ((answer limit).members checked) candidates else candidates = [checked]
  /-- A name, if a candidate is only a name, and else the union of the branches. -/
  result : ((∃ c ∈ candidates, s.Tells (Check.category c) .named) ∧
      s.Recalls (Structure.stuck (answer limit) u) result) ∨
    ∃ results, s.Recalls ((answer limit).unionOfTypes results) result ∧
      List.Forall₂ (fun c b => ∃ matched found inside,
        TakesBranch s place choice limit (distributed? choice place.env category) c matched
          found inside b ∧
        (∀ name, Entries.find? name inside.env =
          (Entries.find? name (Entries.ofList found)).getD
            (Entries.find? name
              (viewOf place.env (distributed? choice place.env category) c))) ∧
        (∀ name, name ∈ inside.blanks ↔
          Entries.find? name (Entries.ofList found) = some none) ∧
        (matched = false → EndsInVariable choice.pattern →
          inside.env = viewOf place.env (distributed? choice place.env category) c ∧
            inside.blanks = []))
        candidates results

end Branches

/-! ### A failure after a variable

`T extends Map<infer U, V> ? 1 : U`, where `T` stands for `Map<number, number>`, `U` for
`boolean` and `V` for `string`. The match binds `U` to `number`, and then fails. -/

namespace LateFailure

/-- A node that spans a text. -/
def leaf (kind : String) (text : String) (field : Option String) (children : List Tree := []) :
    Tree :=
  .node { (default : Mark) with kind, text, named := true, field } children

/-- The pattern `Map<infer U, V>`. -/
def pattern : Tree :=
  leaf "generic_type" "Map<infer U, V>" (some "right") [
    leaf "type_identifier" "Map" (some "name"),
    leaf "type_arguments" "<infer U, V>" (some "type_arguments") [
      leaf "infer_type" "infer U" none [leaf "type_identifier" "U" none],
      leaf "type_identifier" "V" none]]

/-- The conditional type. -/
def node : Cursor :=
  .ofTree (leaf "conditional_type" "T extends Map<infer U, V> ? 1 : U" none [
    leaf "type_identifier" "T" (some "left"),
    pattern,
    leaf "literal_type" "1" (some "consequence"),
    leaf "type_identifier" "U" (some "alternative")])

def place : Place :=
  { (default : Place) with env := [("U", 0), ("V", 3), ("T", 2)] }

/-- A type of a primitive. -/
def primitive (p : Primitive) : TypeRecord :=
  { category := .primitive, label := some "", primitive := some p }

/-- `boolean`, `number`, `Map<number, number>` and `string`. -/
def state : State :=
  { records := #[primitive .boolean, primitive .number,
      { category := .generic, label := some "", name := some "Map", args := [1, 1] },
      primitive .string] }

/-- The state that the conditional type leaves. -/
def left : State := { state with frames := #[[], [("U", 1), ("V", 3), ("T", 2)]] }

def choice : Choice :=
  ⟨node.children[0], node.children[1], node.children[2], node.children[3]⟩

theorem run : (conditional (answer 4) 0 node place).run.run state = (.ok (some 1), left) := by
  have parts : choice? node = some choice := rfl
  have read : ((answer 4).typeAt choice.checked place).run.run state = (.ok 2, state) := rfl
  have simple : ((answer 4).simplified 2).run.run state = (.ok (some 2), state) := rfl
  have category : (Check.category 2).run.run state = (.ok .generic, state) := rfl
  have plain : distributed? choice place.env .generic = none := by simp [distributed?]
  rw [conditional, parts]
  dsimp only
  rw [run_bind_ok read, run_bind_ok simple]
  dsimp only
  rw [run_bind_ok category, plain]
  rfl

theorem recalls : left.Recalls (conditional (answer 4) 0 node place) (some 1) := by
  refine ⟨state, congrArg Prod.fst run, ?_⟩
  rw [show after (conditional (answer 4) 0 node place) state = left from congrArg Prod.snd run]
  exact .refl left

end LateFailure

end Conditional

end TypeGloss
