/-
# TypeGloss.Proofs.Evaluation.Merging — an initializer and the defaults inside a pattern

An object that is taken apart has entries, and the pattern has defaults for the properties that it
may lack. The two are merged name by name: what the object has under a name, it has as a whole, and
what the pattern has under the other names is added (`Value.Overrides`). So the entries of the
object are kept at every depth, and so are the defaults under names that the object does not have.
But of the defaults inside a nested pattern nothing is left if the object has an entry under its
name, even if that is an object without the names of these defaults.

This is how a declaration is merged with its pattern, and also how a nested pattern is merged with
an initializer of its own (`merged_defaults`).
-/
import TypeGloss.Evaluation.Pattern
import TypeGloss.Proofs.Evaluation.Distinct
import TypeGloss.Proofs.Evaluation.Monotone

namespace TypeGloss

set_option autoImplicit false

/-! ## Entries over entries -/

namespace Value

/-- What a value has at the end of a path of names. -/
def at? : List String → Value → Option Value
  | [], v => some v
  | name :: rest, object entries => (Entries.find? name entries).bind (at? rest)
  | _ :: _, _ => none

/-- Some entries are written over others, name by name. -/
structure Overrides (own inside merged : Entries Value) : Prop where
  /-- What is written over the others is kept at every depth. -/
  kept : ∀ (path : List String) (v : Value), path ≠ [] → (object own).at? path = some v →
    (object merged).at? path = some v
  /-- The others are kept under names that are not written. -/
  added : ∀ (name : String) (rest : List String), Entries.find? name own = none →
    (object merged).at? (name :: rest) = (object inside).at? (name :: rest)
  /-- Under a name that is written nothing of them is left. -/
  lost : ∀ (name : String) (rest : List String), (Entries.find? name own).isSome = true →
    (object own).at? (name :: rest) = none → (object merged).at? (name :: rest) = none

variable {own inside : Entries Value}

theorem overrides_putAll (nodup : (Entries.names own).Nodup) :
    Overrides own inside (Entries.putAll inside own) := by
  have found (name : String) (rest : List String) :
      (object (Entries.putAll inside own)).at? (name :: rest) =
        ((Entries.find? name own).or (Entries.find? name inside)).bind (at? rest) := by
    rw [at?, Entries.find?_putAll name inside nodup]
  refine ⟨fun path v nonempty has => ?_, fun name rest absent => ?_,
    fun name rest present none => ?_⟩
  · cases path with
    | nil => exact absurd rfl nonempty
    | cons name rest =>
        obtain ⟨w, here, there⟩ := Option.bind_eq_some_iff.1 has
        rw [found, here]
        exact there
  · rw [found, absent, Option.none_or, at?]
  · obtain ⟨w, here⟩ := Option.isSome_iff_exists.1 present
    rw [at?, here] at none
    rw [found, here]
    exact none

/-- Where the entries that are written have objects on the way and nothing at the end, an entry of
the others is kept if it is at the top, and lost if it is deeper. -/
theorem Overrides.at?_of_absent {merged : Entries Value} (overrides : Overrides own inside merged)
    {name : String} {rest : List String} {v : Value}
    (has : (object inside).at? (name :: rest) = some v)
    (way : rest ≠ [] → ∃ entries, Entries.find? name own = some (object entries))
    (absent : (object own).at? (name :: rest) = none) :
    (object merged).at? (name :: rest) = if rest = [] then some v else none := by
  split
  · next top =>
      subst top
      have unwritten : Entries.find? name own = none := by
        simpa [at?, Option.bind_eq_none_iff] using absent
      rw [overrides.added name [] unwritten, has]
  · next deeper =>
      obtain ⟨entries, found⟩ := way deeper
      exact overrides.lost name rest (by rw [found]; rfl) absent

end Value

/-! ## Properties of a pattern -/

namespace Pattern

open Expression

/-- A property with its name and what it is taken apart into. -/
structure IsPair (child : Tree) (name : String) (target : Tree) : Prop where
  pair : child.kind = "pair_pattern"
  named : ∃ key, child.field? "key" = some key ∧ Literal.propertyKey? key = .ok (some name)
  found : child.field? "value" = some target

/-- The defaults inside what a property with an initializer is taken apart into. -/
def insideOf (context : Context) (target : Tree) : Result (Entries Value) :=
  match target.field? "left" with
  | some left => patternDefaults context left
  | none => .ok []

/-- A property of a pattern has a default. -/
inductive Writes (context : Context) (child : Tree) : String → Value → Prop where
  | shorthand {left : Tree} {v : Value} (assigned : child.kind = "object_assignment_pattern")
      (named : child.field? "left" = some left)
      (short : left.kind = "shorthand_property_identifier_pattern")
      (evaluated : value? context (child.field? "right") = .ok (some v)) :
      Writes context child left.text v
  | plain {name : String} {target : Tree} {v : Value} {inside : Entries Value}
      (pair : IsPair child name target) (assigned : target.kind = "assignment_pattern")
      (evaluated : value? context (target.field? "right") = .ok (some v))
      (noObject : ∀ entries, v ≠ .object entries) (nested : insideOf context target = .ok inside) :
      Writes context child name v
  | merged {name : String} {target : Tree} {own inside : Entries Value}
      (pair : IsPair child name target) (assigned : target.kind = "assignment_pattern")
      (evaluated : value? context (target.field? "right") = .ok (some (.object own)))
      (nested : insideOf context target = .ok inside) :
      Writes context child name (.object (Entries.putAll inside own))
  | unresolved {name : String} {target : Tree} {inside : Entries Value}
      (pair : IsPair child name target) (assigned : target.kind = "assignment_pattern")
      (evaluated : value? context (target.field? "right") = .ok none)
      (nested : insideOf context target = .ok inside) (some : inside ≠ []) :
      Writes context child name (.object inside)
  | bare {name : String} {target : Tree} {inside : Entries Value}
      (pair : IsPair child name target) (isPattern : target.kind = "object_pattern")
      (nested : patternDefaults context target = .ok inside) (some : inside ≠ []) :
      Writes context child name (.object inside)

/-- Of the properties that have a default for a name, the last has this one. -/
def LastWrites (context : Context) (properties : List Tree) (name : String) (v : Value) : Prop :=
  ∃ before child after, properties = before ++ child :: after ∧ Writes context child name v ∧
    ∀ later ∈ after, ∀ w, ¬Writes context later name w

/-! ## One property -/

/-- The default that a property with a name is found to have. -/
def targetDefault? (context : Context) (target : Tree) : Result (Option Value) :=
  if target.kind == "assignment_pattern" then do
    let value ← value? context (target.field? "right")
    return mergeDefaults (← insideOf context target) value
  else if target.kind == "object_pattern" then do
    return mergeDefaults (← patternDefaults context target) none
  else .ok none

/-- The name and the default that a property is found to have. -/
def written? (context : Context) (child : Tree) : Result (Option (String × Value)) :=
  if child.kind == "object_assignment_pattern" then
    match child.field? "left" with
    | some left =>
        if left.kind == "shorthand_property_identifier_pattern" then do
          return (← value? context (child.field? "right")).map (left.text, ·)
        else .ok none
    | none => .ok none
  else if child.kind == "pair_pattern" then do
    let key ← match child.field? "key" with
      | some key => Literal.propertyKey? key
      | none => .ok none
    match key, child.field? "value" with
    | some key, some target => return (← targetDefault? context target).map (key, ·)
    | _, _ => .ok none
  else .ok none

/-- The defaults after one more property. -/
def write (context : Context) (defaults : Entries Value) (child : Tree) :
    Result (Entries Value) := do
  match ← written? context child with
  | some (name, v) => return Entries.put name v defaults
  | none => return defaults

variable {context : Context} {pattern child : Tree}

theorem patternDefaults_eq (isPattern : pattern.kind = "object_pattern") :
    patternDefaults context pattern = pattern.named.foldlM (write context) [] := by
  rw [patternDefaults]
  simp only [bne_iff_ne, ne_eq, isPattern, not_true_eq_false, if_false]
  rw [List.foldlM_subtype (g := write context), List.unattach_attach]
  rintro defaults child among
  -- A default is written at once there, and here it is passed on before.
  have put (name : String) (result : Result (Option Value)) :
      (do return putDefault name (← result) defaults : Result (Entries Value)) =
        (do
          match ← (do return (← result).map (name, ·) : Result (Option (String × Value))) with
          | some (name, v) => return Entries.put name v defaults
          | none => return defaults) := by
    rcases result with fault | _ | v <;> rfl
  unfold write written?
  dsimp only
  split
  · cases child.field? "left" with
    | none => rfl
    | some left =>
        dsimp only
        split
        · exact put _ _
        · rfl
  · split
    · cases child.field? "key" with
      | none => rfl
      | some key =>
          dsimp only
          rw [bind_assoc]
          refine bind_congr fun key => ?_
          split
          · next key target found =>
              rw [found]
              dsimp only [targetDefault?, insideOf]
              split
              · refine Eq.trans ?_ (put key _)
                simp only [bind_assoc, pure_bind]
                refine bind_congr fun value => ?_
                split
                · next left here => rw [here]
                · next absent =>
                    rw [absent]
                    rfl
              · split
                · refine Eq.trans ?_ (put key _)
                  simp only [bind_assoc, pure_bind]
                · rfl
          · next absent =>
              split
              · next found => exact absurd found (absent _ _ rfl)
              · rfl
    · rfl

variable {name : String} {target : Tree} {v : Value}

/-- The default of an assigned target is its initializer, over what stands inside. -/
theorem targetDefault?_of_assigned (assigned : target.kind = "assignment_pattern") :
    targetDefault? context target = .ok (some v) ↔ ∃ value inside,
      value? context (target.field? "right") = .ok value ∧
      insideOf context target = .ok inside ∧ mergeDefaults inside value = some v := by
  rw [targetDefault?, if_pos (beq_iff_eq.2 assigned)]
  simp only [Result.bind_eq_ok, pure, Except.pure, Except.ok.injEq, exists_and_left]

/-- The default of a nested pattern is the object of the defaults inside, if there are any. -/
theorem targetDefault?_of_pattern (isPattern : target.kind = "object_pattern") :
    targetDefault? context target = .ok (some v) ↔ ∃ inside,
      patternDefaults context target = .ok inside ∧ inside ≠ [] ∧ .object inside = v := by
  have unassigned : target.kind ≠ "assignment_pattern" := by
    rw [isPattern]
    decide
  rw [targetDefault?, if_neg (mt beq_iff_eq.1 unassigned), if_pos (beq_iff_eq.2 isPattern)]
  simp only [Result.bind_eq_ok, pure, Except.pure, Except.ok.injEq, mergeDefaults, List.isEmpty_iff,
    Option.ite_none_left_eq_some, Option.some.injEq, ne_eq]

theorem written?_of_pair (pair : IsPair child name target) :
    written? context child = .ok (some (name, v)) ↔
      targetDefault? context target = .ok (some v) := by
  obtain ⟨isPair, ⟨key, named, read⟩, found⟩ := pair
  have same : written? context child =
      (do return (← targetDefault? context target).map (name, ·)) := by
    simp only [written?, isPair, named, read, found]
    rfl
  rw [same]
  simp [Result.bind_eq_ok, pure, Except.pure]

theorem Writes.written?_eq (writes : Writes context child name v) :
    written? context child = .ok (some (name, v)) := by
  cases writes with
  | shorthand assigned named short evaluated =>
      simp only [written?, assigned, named, short, evaluated]
      rfl
  | plain pair assigned evaluated noObject nested =>
      refine (written?_of_pair pair).2 ((targetDefault?_of_assigned assigned).2
        ⟨_, _, evaluated, nested, ?_⟩)
      cases v with
      | object entries => exact absurd rfl (noObject entries)
      | _ => rfl
  | merged pair assigned evaluated nested =>
      exact (written?_of_pair pair).2 ((targetDefault?_of_assigned assigned).2
        ⟨_, _, evaluated, nested, rfl⟩)
  | unresolved pair assigned evaluated nested some =>
      refine (written?_of_pair pair).2 ((targetDefault?_of_assigned assigned).2
        ⟨_, _, evaluated, nested, ?_⟩)
      rw [mergeDefaults, if_neg (mt List.isEmpty_iff.1 some)]
  | bare pair isPattern nested some =>
      exact (written?_of_pair pair).2 ((targetDefault?_of_pattern isPattern).2
        ⟨_, nested, some, rfl⟩)

/-- A default that is found for what a property is taken apart into. -/
theorem Writes.of_targetDefault? (pair : IsPair child name target)
    (found : targetDefault? context target = .ok (some v)) : Writes context child name v := by
  by_cases assigned : target.kind = "assignment_pattern"
  · obtain ⟨value, inside, evaluated, nested, merged⟩ :=
      (targetDefault?_of_assigned assigned).1 found
    unfold mergeDefaults at merged
    split at merged
    · cases merged
      exact .merged pair assigned evaluated nested
    · next noObject =>
        cases merged
        exact .plain pair assigned evaluated (fun entries same => noObject entries same) nested
    · obtain ⟨some, rfl⟩ : ¬inside.isEmpty ∧ Value.object inside = v := by simpa using merged
      exact .unresolved pair assigned evaluated nested (mt List.isEmpty_iff.2 some)
  · by_cases isPattern : target.kind = "object_pattern"
    · obtain ⟨inside, nested, some, rfl⟩ := (targetDefault?_of_pattern isPattern).1 found
      exact .bare pair isPattern nested some
    · simp [targetDefault?, assigned, isPattern] at found

theorem Writes.of_written? (found : written? context child = .ok (some (name, v))) :
    Writes context child name v := by
  unfold written? at found
  split at found
  · next assigned =>
      split at found
      · next left named =>
          split at found
          · next short =>
              obtain ⟨value, evaluated, last⟩ := Result.bind_eq_ok.1 found
              obtain ⟨w, rfl, ⟨⟩⟩ := Option.map_eq_some_iff.1 (Except.ok.inj last)
              exact .shorthand (beq_iff_eq.1 assigned) named (beq_iff_eq.1 short) evaluated
          · cases found
      · cases found
  · split at found
    · next isPair =>
        cases keyed : child.field? "key" with
        | none =>
            rw [keyed] at found
            cases found
        | some key =>
            rw [keyed] at found
            obtain ⟨label, read, found⟩ := Result.bind_eq_ok.1 found
            dsimp only at found
            split at found
            · next label target here =>
                obtain ⟨value, merged, last⟩ := Result.bind_eq_ok.1 found
                obtain ⟨w, rfl, ⟨⟩⟩ := Option.map_eq_some_iff.1 (Except.ok.inj last)
                exact .of_targetDefault? ⟨beq_iff_eq.1 isPair, ⟨key, keyed, read⟩, here⟩ merged
            · cases found
    · cases found

/-- The last child that writes a name counts. -/
theorem lastWrites_concat {properties : List Tree} :
    LastWrites context (properties ++ [child]) name v ↔ Writes context child name v ∨
      (∀ w, ¬Writes context child name w) ∧ LastWrites context properties name v := by
  constructor
  · rintro ⟨before, first, after, split, writes, never⟩
    rcases List.eq_nil_or_concat after with rfl | ⟨others, last, rfl⟩
    · obtain ⟨-, rfl⟩ := List.append_singleton_inj.1 split
      exact .inl writes
    · have split : properties ++ [child] = (before ++ first :: others) ++ [last] := by
        rw [split, List.append_assoc, List.cons_append, List.concat_eq_append]
      obtain ⟨rfl, rfl⟩ := List.append_singleton_inj.1 split
      refine .inr ⟨never child (by simp), before, first, others, rfl, writes, ?_⟩
      exact fun later among => never later (by simp [among])
  · rintro (writes | ⟨silent, before, first, after, rfl, writes, never⟩)
    · exact ⟨properties, child, [], rfl, writes, nofun⟩
    · refine ⟨before, first, after ++ [child], by simp, writes, fun later among => ?_⟩
      rcases List.mem_append.1 among with among | among
      · exact never later among
      · obtain rfl := List.mem_singleton.1 among
        exact silent

/-- The defaults of some properties are those that were written last, and no name has two. -/
theorem find?_of_foldlM {properties : List Tree} {inside : Entries Value}
    (returned : properties.foldlM (write context) [] = .ok inside) :
    (Entries.names inside).Nodup ∧ ∀ name v, Entries.find? name inside = some v ↔
      LastWrites context properties name v := by
  induction properties using List.reverseRecOn generalizing inside with
  | nil =>
      cases returned
      refine ⟨List.nodup_nil, fun name v => iff_of_false nofun ?_⟩
      rintro ⟨before, child, after, split, -⟩
      simp at split
  | append_singleton properties child ih =>
      simp only [List.foldlM_append, List.foldlM_cons, List.foldlM_nil, bind_pure] at returned
      obtain ⟨middle, first, returned⟩ := Result.bind_eq_ok.1 returned
      obtain ⟨nodup, found⟩ := ih first
      obtain ⟨result, writes, returned⟩ := Result.bind_eq_ok.1 returned
      cases result with
      | none =>
          cases returned
          have silent (name : String) (w : Value) : ¬Writes context child name w :=
            fun some => by simp [some.written?_eq] at writes
          refine ⟨nodup, fun name v => ?_⟩
          rw [lastWrites_concat, found]
          exact ⟨fun last => .inr ⟨silent name, last⟩,
            fun last => (last.resolve_left (silent name v)).2⟩
      | some item =>
          obtain ⟨key, w⟩ := item
          cases returned
          have here (name : String) (v : Value) : Writes context child name v ↔
              name = key ∧ v = w := by
            constructor
            · intro some
              have same := writes.symm.trans some.written?_eq
              simp only [Except.ok.injEq, Option.some.injEq, Prod.mk.injEq] at same
              exact ⟨same.1.symm, same.2.symm⟩
            · rintro ⟨rfl, rfl⟩
              exact .of_written? writes
          refine ⟨Entries.nodup_names_put nodup key w, fun name v => ?_⟩
          rw [Entries.find?_put, lastWrites_concat, ← found]
          by_cases same : name = key
          · simp [here, same, eq_comm]
          · simp [here, same]

/-- The defaults of a pattern are those that its properties have, the last of each name. -/
theorem find?_of_patternDefaults {inside : Entries Value}
    (declared : patternDefaults context pattern = .ok inside) :
    (Entries.names inside).Nodup ∧ ∀ name v, Entries.find? name inside = some v ↔
      pattern.kind = "object_pattern" ∧ LastWrites context pattern.named name v := by
  by_cases isPattern : pattern.kind = "object_pattern"
  · rw [patternDefaults_eq isPattern] at declared
    obtain ⟨nodup, found⟩ := find?_of_foldlM declared
    exact ⟨nodup, fun name v => (found name v).trans (and_iff_right isPattern).symm⟩
  · rw [patternDefaults, if_pos (by simpa using isPattern)] at declared
    cases declared
    exact ⟨List.nodup_nil, fun name v => iff_of_false nofun fun has => isPattern has.1⟩

/-- A declaration whose initializer is an object. -/
theorem declarationDefault_object {initializer : Option Tree} {own inside : Entries Value}
    (evaluated : value? context initializer = .ok (some (.object own)))
    (declared : patternDefaults context pattern = .ok inside) :
    declarationDefault context initializer [pattern] =
      .ok (some (.object (Entries.putAll inside own))) := by
  have whole : Entries.putAll [] inside = inside :=
    Entries.ofList_of_nodup (find?_of_patternDefaults declared).1
  simp only [declarationDefault, evaluated, List.foldlM_cons, List.foldlM_nil, declared, bind,
    Except.bind, pure, Except.pure, whole, mergeDefaults]

/-- A declaration takes an object apart. The defaults of the pattern are those of its properties,
and the entries of the object are written over them name by name, so that a default that the pattern
has deeper than at the top is lost where the object has an object on the way. It is the same where a
property of a pattern has the object for an initializer. -/
theorem merged_defaults (known : context.IsDistinct) {initializer : Option Tree}
    {own inside : Entries Value}
    (evaluated : value? context initializer = .ok (some (.object own)))
    (declared : patternDefaults context pattern = .ok inside) :
    (∀ name v, Entries.find? name inside = some v ↔
      pattern.kind = "object_pattern" ∧ LastWrites context pattern.named name v) ∧
    ∃ merged,
      declarationDefault context initializer [pattern] = .ok (some (.object merged)) ∧
      (∀ child name target, IsPair child name target → target.kind = "assignment_pattern" →
        target.field? "left" = some pattern → target.field? "right" = initializer →
        Writes context child name (.object merged)) ∧
      Value.Overrides own inside merged ∧
      ∀ name rest v, (Value.object inside).at? (name :: rest) = some v →
        (rest ≠ [] → ∃ entries, Entries.find? name own = some (.object entries)) →
        (Value.object own).at? (name :: rest) = none →
        (Value.object merged).at? (name :: rest) = if rest = [] then some v else none := by
  have distinct := Value.isDistinct_object.1 (value?_distinct known evaluated)
  have overrides : Value.Overrides own inside (Entries.putAll inside own) :=
    Value.overrides_putAll distinct.nodup
  refine ⟨(find?_of_patternDefaults declared).2, Entries.putAll inside own,
    declarationDefault_object evaluated declared, ?_, overrides, ?_⟩
  · intro child name target pair assigned left right
    refine .merged pair assigned (right ▸ evaluated) ?_
    rw [insideOf, left]
    exact declared
  · exact fun name rest v has way absent => overrides.at?_of_absent has way absent

namespace Points

open Expression.Switches (node)

/-- A property `name = number`. -/
def property (name number : String) : Tree :=
  node "object_assignment_pattern" (name ++ " = " ++ number) none
    [node "shorthand_property_identifier_pattern" name (some "left"),
      node "number" number (some "right")]

def inner : Tree :=
  node "object_pattern" "{ x = 1, y = 2 }" (some "value") [property "x" "1", property "y" "2"]

/-- The pattern inside is below a name of the pattern outside. -/
def pair : Tree :=
  node "pair_pattern" "a: { x = 1, y = 2 }" none
    [node "property_identifier" "a" (some "key"), inner]

def outer : Tree := node "object_pattern" "{ a: { x = 1, y = 2 } }" none [pair]

/-- An object with one entry. -/
def object (text name : String) (value : Tree) : Tree :=
  node "object" text (some "value")
    [node "pair" text none [node "property_identifier" name (some "key"), value]]

def initializer : Tree :=
  object "{ a: { x: 5 } }" "a" (object "{ x: 5 }" "x" (node "number" "5" (some "value")))

theorem declared_inner :
    patternDefaults {} inner = .ok [("x", .integer 1), ("y", .integer 2)] := by
  rw [patternDefaults_eq rfl]
  with_unfolding_all rfl

theorem declared_outer :
    patternDefaults {} outer =
      .ok [("a", .object [("x", .integer 1), ("y", .integer 2)])] := by
  have isPair : IsPair pair "a" inner := ⟨rfl, ⟨_, rfl, by with_unfolding_all rfl⟩, rfl⟩
  have writes : Writes {} pair "a" (.object [("x", .integer 1), ("y", .integer 2)]) :=
    .bare isPair rfl declared_inner nofun
  have only : outer.named = [pair] := rfl
  rw [patternDefaults_eq rfl, only, List.foldlM_cons, write, writes.written?_eq]
  rfl

end Points

open Points in
/-- The default of `y` is lost: the object has an entry under `a`, though none under `y` in it. -/
theorem merged_defaults_points : ∃ merged,
    declarationDefault {} (some initializer) [outer] = .ok (some (.object merged)) ∧
    (Value.object merged).at? ["a", "y"] = none := by
  have evaluated : value? {} (some initializer) =
      .ok (some (.object [("a", .object [("x", .integer 5)])])) := by with_unfolding_all rfl
  obtain ⟨-, merged, found, -, -, deeper⟩ :=
    merged_defaults (Context.isDistinct_of_nil rfl) evaluated declared_outer
  exact ⟨merged, found, deeper "a" ["y"] (.integer 2) rfl (fun _ => ⟨_, rfl⟩) rfl⟩

end Pattern

end TypeGloss
