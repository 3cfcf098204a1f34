/-
# TypeGloss.Proofs.Checker.Simplifying — what a computed type comes to

A computed type is simplified step by step. Every step is a part of a type, and parts are kept
once they are found. So after a type was simplified, nothing has to be computed for it any more:
the state *has* what the type comes to (`State.Has`), however many questions may be nested, and
tells it without a change (`Structure.has_simplified`).

Questions about the structure of a type are questions about what it comes to. Here this is said
of the properties (`Checker.outcome_properties`): the properties of a type that was simplified are
those of the type that it came to.
-/
import TypeGloss.Proofs.Checker.Unions

namespace TypeGloss

set_option autoImplicit false

open Answer (answer)

variable {α β : Type} {s : State} {t : TypeId}

/-! ## What a state has -/

/-- In a state, a computation comes to a result and changes nothing. -/
def State.Has (s : State) (x : CheckM α) (a : α) : Prop :=
  x.run.run s = (.ok a, s)

namespace State.Has

theorem pure (a : α) : s.Has (Pure.pure a) a := rfl

theorem bind {x : CheckM α} {f : α → CheckM β} {a : α} {b : β} (first : s.Has x a)
    (rest : s.Has (f a) b) : s.Has (x >>= f) b :=
  (run_bind_ok first).trans rest

theorem map {x : CheckM α} {f : α → β} {a : α} (first : s.Has x a) : s.Has (f <$> x) (f a) := by
  rw [map_eq_pure_bind]
  exact first.bind (.pure _)

theorem mapM {f : α → CheckM β} {items : List α} {results : List β}
    (each : List.Forall₂ (fun a b => s.Has (f a) b) items results) :
    s.Has (items.mapM f) results := by
  induction each with
  | nil => exact .pure []
  | cons first _ ih =>
      rw [List.mapM_cons]
      exact .bind first (.bind ih (.pure _))

theorem recalls {x : CheckM α} {a : α} (has : s.Has x a) : s.Recalls x a := by
  have unchanged : after x s = s := congrArg Prod.snd has
  exact ⟨s, congrArg Prod.fst has, unchanged.symm ▸ .refl s⟩

end State.Has

theorem Check.has_category {category : Category} (told : s.Tells (Check.category t) category) :
    s.Has (Check.category t) category := by
  obtain ⟨r, found, last⟩ := outcome_bind_eq_ok told.now
  cases last
  exact .bind (Prod.ext found (Check.after_facts t s)) (.pure _)

namespace Answer

/-- What is remembered of a part is had, at any depth. -/
theorem has_load {part : Part} {depth : Nat} {result : Option part.Content}
    (recalled : s.Recalls ((answer (depth + 1)).load? t part) result) (other : Nat) :
    s.Has ((answer (other + 1)).load? t part) result := by
  have finds (r : TypeRecord) := loader?_isConservative (reliable_answer depth) t r part
  obtain ⟨before, returned, extended⟩ := recalled
  cases result with
  | some content =>
      obtain ⟨r, known, kept⟩ := kept_of_load finds returned
      obtain ⟨r', known', grows⟩ := extended.records known
      exact run_load_of_some known' (grows.kept kept)
  | none =>
      obtain ⟨r, recorded, -⟩ := outcome_bind_eq_ok returned
      have known := Check.outcome_record_eq_ok.1 recorded
      obtain ⟨unknown, settled⟩ := settled_of_load known returned
      have unchanged : after ((answer (depth + 1)).load? t part) before = before := by
        change after (load (answer depth) t part) before = before
        rw [after, run_load_of_settled known unknown settled]
      rw [unchanged] at extended
      obtain ⟨r', known', grows⟩ := extended.records known
      exact run_load_of_grows known' grows unknown settled

/-- What is remembered of a text is had, at any depth. -/
theorem has_text {depth : Nat} {label : String}
    (recalled : s.Recalls ((answer (depth + 1)).text t) label) (other : Nat) :
    s.Has ((answer (other + 1)).text t) label := by
  obtain ⟨before, returned, extended⟩ := recalled
  obtain ⟨r, known, found⟩ := isText_of_text
    (fun r => loader?_isConservative (reliable_answer depth) t r .text) returned
  obtain ⟨r', known', grows⟩ := extended.records known
  exact run_text_of_isText known' (found.grows grows)

end Answer

/-! ## Simplified types -/

namespace Structure

theorem has_stuck {depth : Nat} {u : TypeId}
    (recalled : s.Recalls (stuck (answer (depth + 1)) t) u) (other : Nat) :
    s.Has (stuck (answer (other + 1)) t) u := by
  obtain ⟨text, read, made⟩ := recalled.bind fun text => (Check.stuckType_steady t text).first
  exact .bind (Answer.has_text read other)
    (Check.run_intern_of_some (interned_of_recalls made) _)

/-- What follows a step of computation keeps what is known. -/
theorem following_conservative {ask : Ask} (reliable : Reliable ask) (steps : Nat) (t : TypeId)
    (found : Option (Option TypeId)) : Conservative (match found.join with
      | none => pure none
      | some next => if next = t then some <$> stuck ask t else simplifiedIn ask steps next) := by
  split
  · exact .pure _
  · split
    · exact ((stuck_steady reliable t).map some).first
    · exact (simplifiedIn_steady reliable steps _).first

/-- What a type was simplified to is had, at any depth. -/
theorem has_simplifiedIn {depth steps : Nat} {result : Option TypeId}
    (recalled : s.Recalls (simplifiedIn (answer (depth + 1)) steps t) result) (other : Nat) :
    s.Has (simplifiedIn (answer (other + 1)) steps t) result := by
  have reliable := Answer.reliable_answer (depth + 1)
  -- By induction on the steps that may be left, as they are taken.
  induction steps generalizing t with
  | zero =>
      rw [simplifiedIn] at recalled ⊢
      obtain ⟨category, sort, rest⟩ := recalled.bind fun category => by
        split
        · exact ((stuck_steady reliable t).map some).first
        · exact .pure _
      refine .bind (Check.has_category (sort.tells (Check.category_steady t))) ?_
      split at rest
      · next computed =>
          obtain ⟨u, made, rfl⟩ := rest.map
          rw [if_pos computed]
          exact (has_stuck made other).map
      · next plain =>
          rw [if_neg plain, ← rest.pure]
          exact .pure _
  | succ steps ih =>
      have onward := following_conservative reliable steps t
      rw [simplifiedIn] at recalled ⊢
      obtain ⟨category, sort, rest⟩ := recalled.bind fun category => by
        split
        · exact .pure _
        · exact (reliable.load? t .simplified).first.bind onward
      refine .bind (Check.has_category (sort.tells (Check.category_steady t))) ?_
      split at rest
      · next plain =>
          rw [if_pos plain, ← rest.pure]
          exact .pure _
      · next computed =>
          rw [if_neg computed]
          obtain ⟨found, loaded, rest⟩ := rest.bind onward
          refine .bind (Answer.has_load loaded other) ?_
          split at rest
          · rw [← rest.pure]
            exact .pure _
          · split at rest
            · next back =>
                obtain ⟨u, made, rfl⟩ := rest.map
                rw [if_pos back]
                exact (has_stuck made other).map
            · next further =>
                rw [if_neg further]
                exact ih rest

/-- What a type was simplified to is had, at any depth. -/
theorem has_simplified {depth : Nat} {result : Option TypeId}
    (recalled : s.Recalls ((answer (depth + 2)).simplified t) result) (other : Nat) :
    s.Has ((answer (other + 2)).simplified t) result :=
  has_simplifiedIn recalled other

/-- A type that is not computed is simple already. -/
theorem has_simplified_self {r : TypeRecord} (known : s.records[t]? = some r)
    (plain : r.category ≠ .computed) (depth : Nat) :
    s.Has ((answer (depth + 2)).simplified t) (some t) := by
  change s.Has (simplifiedIn (answer (depth + 1)) maxSteps t) (some t)
  rw [maxSteps, simplifiedIn]
  refine .bind (Check.has_category (State.tells_category known)) ?_
  rw [if_pos plain]
  exact .pure _

/-- The properties of a type that was simplified are those of what it came to. -/
theorem run_properties (depth : Nat) {u : TypeId} {r : TypeRecord}
    (recalled : s.Recalls ((answer (depth + 2)).simplified t) (some u))
    (known : s.records[u]? = some r) (plain : r.category ≠ .computed) (other : Nat) :
    (properties (answer (other + 2)) t).run.run s =
      (properties (answer (other + 2)) u).run.run s := by
  rw [properties, properties, run_bind_ok (has_simplified recalled other),
    run_bind_ok (has_simplified_self known plain other)]

end Structure

/-- The properties of a type that was simplified are those of what it came to. -/
theorem Checker.outcome_properties {u : TypeId} {r : TypeRecord}
    (recalled : s.Recalls (Checker.simplified t) (some u)) (known : s.records[u]? = some r)
    (plain : r.category ≠ .computed) :
    outcome (Checker.properties t) s = outcome (Checker.properties u) s :=
  congrArg Prod.fst (Structure.run_properties 1198 recalled known plain 1197)

end TypeGloss
