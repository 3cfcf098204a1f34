/-
# TypeGloss.Proofs.Matching — lists and options that match

Two lists match along a relation if they have equally many entries, each related to the one in
its place (`List.Forall₂`), and two options if both are empty or what they hold is related
(`Option.Rel`). What is computed from two that match matches again: what is found in them, what
is kept of them, and what is made of their entries.
-/
import Mathlib.Data.List.Forall2

namespace TypeGloss

set_option autoImplicit false

variable {α β γ : Type} {R : α → β → Prop} {as : List α} {bs : List β}

/-! ## Entries -/

/-- In lists of which the entries are related, every entry of the second has one of the first
that it is related to. -/
theorem exists_of_mem_right (aligned : List.Forall₂ R as bs) {b : β} (among : b ∈ bs) :
    ∃ a ∈ as, R a b := by
  induction aligned with
  | nil => cases among
  | cons related _ ih =>
      rcases List.mem_cons.1 among with rfl | later
      · exact ⟨_, List.mem_cons_self, related⟩
      · obtain ⟨a, member, related⟩ := ih later
        exact ⟨a, List.mem_cons_of_mem _ member, related⟩

/-- Every entry of the first has one of the second. -/
theorem exists_of_mem_left (aligned : List.Forall₂ R as bs) {a : α} (among : a ∈ as) :
    ∃ b ∈ bs, R a b :=
  exists_of_mem_right aligned.flip among

theorem forall_left_of_forall₂ {P : α → Prop} (aligned : List.Forall₂ R as bs)
    (each : ∀ {a b}, R a b → P a) : ∀ a ∈ as, P a :=
  ((List.forall₂_and_left _ _).1 (aligned.imp fun _ _ related => ⟨each related, related⟩)).1

/-- Lists are related if each item is, given that it stands in its list. -/
theorem forall₂_imp_of_mem {Q : α → β → Prop} (aligned : List.Forall₂ R as bs)
    (each : ∀ a ∈ as, ∀ b ∈ bs, R a b → Q a b) : List.Forall₂ Q as bs := by
  induction aligned with
  | nil => exact .nil
  | cons first _ ih =>
      refine .cons (each _ List.mem_cons_self _ List.mem_cons_self first) (ih ?_)
      intro a among b among'
      exact each a (List.mem_cons_of_mem _ among) b (List.mem_cons_of_mem _ among')

/-- Lists made of the entries of one list match if what is made of one entry does. -/
theorem forall₂_of_common {R : α → β → Prop} {R' : α → γ → Prop} {Q : β → γ → Prop}
    {items : List α} {bs : List β} {cs : List γ} (made : List.Forall₂ R items bs)
    (made' : List.Forall₂ R' items cs) (each : ∀ {a b c}, R a b → R' a c → Q b c) :
    List.Forall₂ Q bs cs := by
  induction made generalizing cs with
  | nil =>
      cases made'
      exact .nil
  | cons first _ ih =>
      cases made' with
      | cons first' rest' => exact .cons (each first first') (ih rest')

/-! ## Lists -/

variable {p : α → Bool} {q : β → Bool}

theorem forall₂_filter (aligned : List.Forall₂ R as bs) (same : ∀ {a b}, R a b → p a = q b) :
    List.Forall₂ R (as.filter p) (bs.filter q) := by
  refine List.rel_filter (fun a b related => ?_) aligned
  change p a = true ↔ q b = true
  rw [same related]

theorem forall₂_filterMap_id {as : List (Option α)} {bs : List (Option β)}
    (aligned : List.Forall₂ (Option.Rel R) as bs) :
    List.Forall₂ R (as.filterMap id) (bs.filterMap id) :=
  List.rel_filterMap (fun _ _ related => related) aligned

/-- Results that are all there match what each of them matches. -/
theorem forall₂_filterMap_of_some {results : List (Option β)}
    (aligned : List.Forall₂ (fun a result => ∃ b, result = some b ∧ R a b) as results) :
    List.Forall₂ R as (results.filterMap id) := by
  induction aligned with
  | nil => exact .nil
  | cons first _ ih =>
      obtain ⟨b, rfl, related⟩ := first
      exact .cons related ih

theorem rel_find? (aligned : List.Forall₂ R as bs) (same : ∀ {a b}, R a b → p a = q b) :
    Option.Rel R (as.find? p) (bs.find? q) := by
  induction aligned with
  | nil => exact .none
  | @cons a b as bs head _ ih =>
      rw [List.find?_cons, List.find?_cons, ← same head]
      split
      · exact .some head
      · exact ih

theorem rel_getLast? (aligned : List.Forall₂ R as bs) :
    Option.Rel R as.getLast? bs.getLast? := by
  induction aligned with
  | nil => exact .none
  | cons head tail ih =>
      cases tail with
      | nil => exact .some head
      | cons next rest =>
          rw [List.getLast?_cons_cons, List.getLast?_cons_cons]
          exact ih

theorem forall₂_toList {a : Option α} {b : Option β} (related : Option.Rel R a b) :
    List.Forall₂ R a.toList b.toList := by
  cases related with
  | some related => exact .cons related .nil
  | none => exact .nil

theorem forall₂_getD {as : Option (List α)} {bs : Option (List β)}
    (related : Option.Rel (List.Forall₂ R) as bs) : List.Forall₂ R (as.getD []) (bs.getD []) := by
  cases related with
  | some related => exact related
  | none => exact .nil

theorem rel_or {a a' : Option α} {b b' : Option β} (first : Option.Rel R a b)
    (second : Option.Rel R a' b') : Option.Rel R (a.or a') (b.or b') := by
  cases first with
  | none => exact second
  | some related => exact .some related

theorem rel_filter {a : Option α} {b : Option β} (related : Option.Rel R a b)
    (same : ∀ {a b}, R a b → p a = q b) : Option.Rel R (a.filter p) (b.filter q) := by
  cases related with
  | none => exact .none
  | some related =>
      rw [Option.filter_some, Option.filter_some, ← same related]
      split
      · exact .some related
      · exact .none

theorem exists_of_rel_some {a : α} {b : Option β} (related : Option.Rel R (some a) b) :
    ∃ found, b = some found ∧ R a found := by
  cases related with
  | some related => exact ⟨_, rfl, related⟩

theorem isSome_of_rel {a : Option α} {b : Option β} (related : Option.Rel R a b) :
    b.isSome = a.isSome := by
  cases related <;> rfl

end TypeGloss
