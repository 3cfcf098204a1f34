/-
# TypeGloss.Proofs.Checker.Constituents — the properties of an intersection

An intersection appears to have the properties of its constituents, of two of one name the first. A
constituent may be an intersection itself, so how many questions are nested depends on the types.
What is remembered of the properties of a type is had, with as many questions nested as before or
with more (`Structure.has_properties`). So the properties of an intersection and those of its
constituents are found in one state (`Checker.properties_of_intersection`).
-/
import TypeGloss.Proofs.Checker.InterfaceMembers
import TypeGloss.Proofs.Checker.Simplifying

namespace TypeGloss

set_option autoImplicit false

open Answer (answer)

variable {s : State} {t : TypeId}

namespace Answer

theorem not_recalls_answer_zero {query : Query} {result : query.Answer} :
    ¬s.Recalls (answer 0 query) result := by
  rintro ⟨before, returned, -⟩
  cases returned

/-- What is remembered of a part is had with more questions nested. -/
theorem has_load_of_le {part : Part} {depth deeper : Nat} {result : Option part.Content}
    (recalled : s.Recalls ((answer depth).load? t part) result) (more : depth ≤ deeper) :
    s.Has ((answer deeper).load? t part) result := by
  cases depth with
  | zero => exact absurd recalled not_recalls_answer_zero
  | succ depth =>
      obtain ⟨other, rfl⟩ := Nat.exists_eq_add_of_le' (Nat.le_of_add_left_le more)
      exact has_load recalled other

end Answer

namespace Structure

open Answer

/-- What a type was simplified to is had with more questions nested. -/
theorem has_simplified_of_le {depth deeper : Nat} {result : Option TypeId}
    (recalled : s.Recalls ((answer depth).simplified t) result) (more : depth ≤ deeper) :
    s.Has ((answer deeper).simplified t) result := by
  match depth, deeper with
  | 0, _ => exact absurd recalled not_recalls_answer_zero
  | depth + 2, other + 2 => exact has_simplified recalled other
  | 1, other + 1 =>
      -- Without further questions only a type that is not computed can be simplified.
      change s.Recalls (simplifiedIn (answer 0) maxSteps t) result at recalled
      change s.Has (simplifiedIn (answer other) maxSteps t) result
      rw [maxSteps, simplifiedIn] at recalled ⊢
      have reliable := reliable_answer 0
      have onward := following_conservative reliable 15 t
      obtain ⟨category, sort, rest⟩ := recalled.bind fun category => by
        split
        · exact .pure _
        · exact (reliable.load? t .simplified).first.bind onward
      refine .bind (Check.has_category (sort.tells (Check.category_steady t))) ?_
      split at rest
      · next plain =>
          rw [if_pos plain, ← rest.pure]
          exact .pure _
      · obtain ⟨found, loaded, -⟩ := rest.bind onward
        exact absurd loaded not_recalls_answer_zero

/-- The properties of a type of a category: an intersection inherits those of its constituents. -/
def propertiesIn (ask : Ask) (t : TypeId) : Category → CheckM (List Symbol)
  | .object => return (← ask.load? t .properties).getD []
  | .classType => return ((← ask.load? t .classMembers).getD []).filter isReadable
  | .intersection => do
      return Members.inherit [] (← (← ask.members t).mapM ask.properties).flatten
  | _ => return []

/-- The properties of a type are those of what it simplifies to. -/
theorem properties_eq (ask : Ask) (t : TypeId) :
    properties ask t = ask.simplified t >>= fun simple =>
      simple.elim (pure []) fun u => Check.category u >>= propertiesIn ask u := by
  unfold properties
  refine bind_congr fun simple => ?_
  cases simple with
  | none => rfl
  | some u =>
      refine bind_congr fun category => ?_
      cases category <;> try rfl
      refine bind_congr fun constituents => ?_
      exact (Members.foldlM_inherit _ constituents []).trans (map_eq_pure_bind _ _)

theorem propertiesIn_conservative {ask : Ask} (reliable : Reliable ask) (t : TypeId)
    (category : Category) : Conservative (propertiesIn ask t category) := by
  cases category with
  | object => exact (reliable.load? t .properties).first.bind fun _ => .pure _
  | classType => exact (reliable.load? t .classMembers).first.bind fun _ => .pure _
  | intersection =>
      exact (reliable.members t).first.bind fun constituents =>
        (Conservative.mapM (fun c => (reliable.properties c).first) constituents).bind fun _ =>
          .pure _
  | _ => exact .pure _

/-- What is remembered of the properties of a type. -/
theorem recalls_properties {ask : Ask} (reliable : Reliable ask) {found : List Symbol}
    (recalled : s.Recalls (properties ask t) found) :
    ∃ simple, s.Recalls (ask.simplified t) simple ∧
      match simple with
      | none => found = []
      | some u => ∃ category, s.Recalls (Check.category u) category ∧
          s.Recalls (propertiesIn ask u category) found := by
  rw [properties_eq] at recalled
  have onward (u : TypeId) : Conservative (Check.category u >>= propertiesIn ask u) :=
    (Check.category_steady u).first.bind (propertiesIn_conservative reliable u)
  obtain ⟨simple, first, rest⟩ := recalled.bind fun simple => by
    cases simple with
    | none => exact .pure []
    | some u => exact onward u
  refine ⟨simple, first, ?_⟩
  cases simple with
  | none => exact rest.pure.symm
  | some u => exact rest.bind (propertiesIn_conservative reliable u)

/-- What is remembered of the properties of a type is had with more questions nested. -/
theorem has_properties {depth deeper : Nat} {found : List Symbol}
    (recalled : s.Recalls ((answer depth).properties t) found) (more : depth ≤ deeper) :
    s.Has ((answer deeper).properties t) found := by
  induction depth generalizing t found deeper with
  | zero => exact absurd recalled not_recalls_answer_zero
  | succ depth ih =>
      obtain ⟨other, rfl⟩ := Nat.exists_eq_add_of_le' (Nat.le_of_add_left_le more)
      have more : depth ≤ other := Nat.le_of_succ_le_succ more
      change s.Recalls (properties (answer depth) t) found at recalled
      change s.Has (properties (answer other) t) found
      obtain ⟨simple, first, rest⟩ := recalls_properties (reliable_answer depth) recalled
      rw [properties_eq]
      refine .bind (has_simplified_of_le first more) ?_
      cases simple with
      | none =>
          subst rest
          exact .pure []
      | some u =>
          obtain ⟨category, sort, rest⟩ := rest
          refine .bind (Check.has_category (sort.tells (Check.category_steady u))) ?_
          cases category with
          | object =>
              obtain ⟨part, loaded, last⟩ := rest.bind fun _ => .pure _
              exact .bind (has_load_of_le loaded more) (last.pure ▸ .pure _)
          | classType =>
              obtain ⟨part, loaded, last⟩ := rest.bind fun _ => .pure _
              exact .bind (has_load_of_le loaded more) (last.pure ▸ .pure _)
          | intersection =>
              have reliable := reliable_answer depth
              have each := Conservative.mapM fun c => (reliable.properties c).first
              obtain ⟨constituents, joined, rest⟩ := rest.bind fun constituents =>
                (each constituents).bind fun _ => .pure _
              obtain ⟨part, loaded, last⟩ := joined.bind fun _ => .pure _
              obtain rfl := last.pure
              obtain ⟨told, asked, last⟩ := rest.bind fun _ => .pure _
              obtain rfl := last.pure
              refine .bind (.bind (has_load_of_le loaded more) (.pure _)) ?_
              refine .bind (.mapM ?_) (.pure _)
              have own := forall₂_of_recalls_mapM (fun c => (reliable.properties c).first) asked
              exact own.imp fun c own known => ih known more
          | _ => exact rest.pure ▸ .pure _

section Found

variable {r : TypeRecord} (known : s.records[t]? = some r) (depth : Nat)

include known

/-- The properties of an object that have been found. -/
theorem has_properties_of_object (isObject : r.category = .object) {own : List Symbol}
    (kept : r.cache.properties = some own) : s.Has (properties (answer (depth + 2)) t) own := by
  rw [properties_eq]
  refine .bind (has_simplified_self known (by simp [isObject]) depth) ?_
  refine .bind (Check.has_category (isObject ▸ State.tells_category known)) ?_
  have loaded : s.Has ((answer (depth + 2)).load? t .properties) (some own) :=
    run_load_of_some known kept
  exact .bind loaded (.pure _)

/-- The properties of an intersection whose constituents have been found, and theirs. -/
theorem has_properties_of_intersection (isIntersection : r.category = .intersection)
    {constituents : List TypeId} {told : List (List Symbol)}
    (kept : r.cache.members = some constituents)
    (each : List.Forall₂ (fun c own => s.Has ((answer (depth + 2)).properties c) own) constituents
      told) :
    s.Has (properties (answer (depth + 2)) t) (Members.inherit [] told.flatten) := by
  rw [properties_eq]
  refine .bind (has_simplified_self known (by simp [isIntersection]) depth) ?_
  refine .bind (Check.has_category (isIntersection ▸ State.tells_category known)) ?_
  have loaded : s.Has ((answer (depth + 2)).load? t .members) (some constituents) :=
    run_load_of_some known kept
  exact .bind (.bind loaded (.pure _)) (.bind (.mapM each) (.pure _))

end Found

end Structure

/-- An intersection appears to have the properties of its constituents, which are found with it, of
two of one name the first. -/
theorem Checker.properties_of_intersection {constituents : List TypeId} {found : List Symbol}
    (sort : outcome (Checker.category t) s = .ok .intersection)
    (joined : outcome (Checker.intersectionMembers t) s = .ok constituents)
    (recalled : s.Recalls (Checker.properties t) found) :
    ∃ told, List.Forall₂ (fun c own => s.Has (Checker.properties c) own) constituents told ∧
      found = addNew Symbol.name [] told.flatten := by
  have reliable := Answer.reliable_answer 1199
  obtain ⟨r, known, isIntersection⟩ : ∃ r, s.records[t]? = some r ∧ r.category = .intersection := by
    obtain ⟨facts, found, last⟩ := outcome_bind_eq_ok sort
    obtain ⟨r, known, rfl⟩ := Check.outcome_facts_eq_ok.1 found
    exact ⟨r, known, Except.ok.inj last⟩
  obtain ⟨simple, first, rest⟩ := Structure.recalls_properties reliable recalled
  -- An intersection is not computed, and its constituents are those that it is documented with.
  obtain rfl : simple = some t := by
    have self := Structure.has_simplified_self known (by simp [isIntersection]) 1197
    have again := Structure.has_simplified_of_le first (Nat.le_refl 1199)
    exact Except.ok.inj (congrArg Prod.fst (again.symm.trans self))
  obtain ⟨category, sorted, rest⟩ := rest
  obtain rfl : category = .intersection :=
    (sorted.tells (Check.category_steady t)).unique (isIntersection ▸ State.tells_category known)
  obtain ⟨members, asked, rest⟩ := rest.bind fun members =>
    (Conservative.mapM (fun c => (reliable.properties c).first) members).bind fun _ => .pure _
  obtain rfl : constituents = members := by
    obtain ⟨part, loaded, last⟩ := asked.bind fun _ => .pure _
    obtain rfl := last.pure
    have loaded : s.Has (Answer.ask.load? t .members) part :=
      Answer.has_load_of_le loaded (Nat.le_succ 1199)
    have read : s.Has (Checker.intersectionMembers t) (part.getD []) := by
      refine .bind (.bind (Check.has_category (isIntersection ▸ State.tells_category known)) ?_)
        (.pure _)
      exact loaded
    exact Except.ok.inj (joined.symm.trans (congrArg Prod.fst read))
  obtain ⟨told, asked, last⟩ := rest.bind fun _ => .pure _
  refine ⟨told, ?_, last.pure.symm⟩
  have own := forall₂_of_recalls_mapM (fun c => (reliable.properties c).first) asked
  exact own.imp fun c own known => Structure.has_properties known (Nat.le_succ 1199)

end TypeGloss
