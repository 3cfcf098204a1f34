/-
# TypeGloss.Proofs.Enumeration — lists in the order of places

What a list is to hold, and in which order, is said by places: `R place item` says which items
there are at which places, and `precedes` orders the places. `Enumerates R precedes items` says of a
list that it holds all these items and no other, one after the other as their places are.

Such lists are put together from parts whose places come after each other (`Enumerates.append`,
`Enumerates.flatMap`). A search through one finds what is at the first place where there is
something to find (`Enumerates.findSome?_eq_some_iff`).
-/
import Mathlib.Data.List.Basic

namespace TypeGloss

set_option autoImplicit false

variable {ι κ α β γ : Type}

/-- A list holds what `R` has at each place, in the order of the places. -/
def Enumerates (R : ι → β → Prop) (precedes : ι → ι → Prop) (items : List β) : Prop :=
  ∃ entries : List (ι × β), entries.map Prod.snd = items ∧
    entries.Pairwise (fun first later => precedes first.1 later.1) ∧
    ∀ place item, (place, item) ∈ entries ↔ R place item

namespace Enumerates

variable {R S : ι → β → Prop} {precedes : ι → ι → Prop} {items more : List β}

theorem congr (listed : Enumerates R precedes items)
    (same : ∀ place item, R place item ↔ S place item) : Enumerates S precedes items := by
  obtain ⟨entries, rfl, ordered, all⟩ := listed
  exact ⟨entries, rfl, ordered, fun place item => (all place item).trans (same place item)⟩

theorem nil (nothing : ∀ place item, ¬ R place item) : Enumerates R precedes [] :=
  ⟨[], rfl, .nil, fun place item => by simp [nothing place item]⟩

theorem singleton (place : ι) (item : β) :
    Enumerates (fun p b => p = place ∧ b = item) precedes [item] :=
  ⟨[(place, item)], rfl, List.pairwise_singleton _ _, by simp⟩

/-- Two lists one after the other, where all places of the one come before those of the other. -/
theorem append (listed : Enumerates R precedes items) (later : Enumerates S precedes more)
    (apart : ∀ p b q c, R p b → S q c → precedes p q) :
    Enumerates (fun p b => R p b ∨ S p b) precedes (items ++ more) := by
  obtain ⟨entries, rfl, ordered, all⟩ := listed
  obtain ⟨entries', rfl, ordered', all'⟩ := later
  refine ⟨entries ++ entries', List.map_append, List.pairwise_append.2 ⟨ordered, ordered', ?_⟩, ?_⟩
  · rintro ⟨p, b⟩ here ⟨q, c⟩ there
    exact apart p b q c ((all p b).1 here) ((all' q c).1 there)
  · intro p b
    rw [List.mem_append, all, all']

/-- The same list by other places, in the same order. -/
theorem map {precedes' : κ → κ → Prop} (listed : Enumerates R precedes items) (move : ι → κ)
    (keeps : ∀ p q, precedes p q → precedes' (move p) (move q)) :
    Enumerates (fun k b => ∃ p, k = move p ∧ R p b) precedes' items := by
  obtain ⟨entries, rfl, ordered, all⟩ := listed
  refine ⟨entries.map (Prod.map move id), ?_, ?_, ?_⟩
  · rw [List.map_map]
    rfl
  · exact List.pairwise_map.2 (ordered.imp fun here => keeps _ _ here)
  · intro k b
    simp only [List.mem_map, Prod.map, Prod.exists, Prod.mk.injEq, id_eq]
    constructor
    · rintro ⟨p, _, among, rfl, rfl⟩
      exact ⟨p, rfl, (all p _).1 among⟩
    · rintro ⟨p, rfl, here⟩
      exact ⟨p, b, (all p b).2 here, rfl, rfl⟩

/-- What a list is mapped to, one part after the other. -/
theorem flatMap {f : α → List β} {as : List α} {T : Nat → α → ι → β → Prop}
    (each : ∀ k a, as[k]? = some a → Enumerates (T k a) precedes (f a))
    (apart : ∀ k a p b l c q d, k < l → T k a p b → T l c q d → precedes p q) :
    Enumerates (fun p b => ∃ (k : Nat) (a : α), as[k]? = some a ∧ T k a p b) precedes
      (as.flatMap f) := by
  induction as generalizing T with
  | nil => exact nil (by simp)
  | cons a rest ih =>
      have later : Enumerates
          (fun p b => ∃ (k : Nat) (c : α), rest[k]? = some c ∧ T (k + 1) c p b) precedes
          (rest.flatMap f) :=
        ih (fun k c at' => each (k + 1) c at')
          fun k c p b l d q e lt => apart (k + 1) c p b (l + 1) d q e (Nat.succ_lt_succ lt)
      refine ((each 0 a rfl).append later ?_).congr ?_
      · rintro p b q c here ⟨l, d, -, there⟩
        exact apart 0 a p b (l + 1) d q c l.succ_pos here there
      · intro p b
        constructor
        · rintro (here | ⟨k, c, at', there⟩)
          · exact ⟨0, a, rfl, here⟩
          · exact ⟨k + 1, c, at', there⟩
        · rintro ⟨_ | k, c, at', here⟩
          · obtain rfl : a = c := Option.some.inj at'
            exact .inl here
          · exact .inr ⟨k, c, at', here⟩

/-- What a list is mapped to item by item. -/
theorem mapped (f : α → β) (as : List α) (place : Nat → ι)
    (keeps : ∀ k l, k < l → precedes (place k) (place l)) :
    Enumerates (fun p b => ∃ (k : Nat) (a : α), as[k]? = some a ∧ p = place k ∧ b = f a)
      precedes (as.map f) := by
  rw [List.map_eq_flatMap]
  refine flatMap (fun k a _ => singleton (place k) (f a)) ?_
  rintro k a _ _ l c _ _ lt ⟨rfl, rfl⟩ ⟨rfl, rfl⟩
  exact keeps k l lt

/-! ## Searching -/

variable {f : β → Option γ}

theorem findSome?_eq_none_iff (listed : Enumerates R precedes items) :
    items.findSome? f = none ↔ ∀ place item, R place item → f item = none := by
  obtain ⟨entries, rfl, -, all⟩ := listed
  simp only [List.findSome?_eq_none_iff, List.mem_map, Prod.exists, exists_eq_right,
    forall_exists_index, all]
  exact forall_comm

/-- A search finds what is at the first place with something to find. -/
theorem findSome?_eq_some_iff (listed : Enumerates R precedes items)
    (asymm : ∀ p q, precedes p q → ¬ precedes q p) (found : γ) :
    items.findSome? f = some found ↔ ∃ place item, R place item ∧ f item = some found ∧
      ∀ earlier other, R earlier other → precedes earlier place → f other = none := by
  obtain ⟨entries, rfl, ordered, all⟩ := listed
  rw [List.findSome?_map, List.findSome?_eq_some_iff]
  constructor
  · rintro ⟨before, ⟨place, item⟩, after, rfl, here, nothing⟩
    refine ⟨place, item, (all place item).1 (by simp), here, fun earlier other there lt => ?_⟩
    obtain ⟨-, inner, -⟩ := List.pairwise_append.1 ordered
    rcases List.mem_append.1 ((all earlier other).2 there) with among | among
    · exact nothing _ among
    · rcases List.mem_cons.1 among with same | among
      · obtain ⟨rfl, rfl⟩ := Prod.mk.inj same
        exact absurd lt (asymm _ _ lt)
      · exact absurd lt (asymm _ _ ((List.pairwise_cons.1 inner).1 _ among))
  · rintro ⟨place, item, there, here, nothing⟩
    obtain ⟨before, after, rfl⟩ := List.append_of_mem ((all place item).2 there)
    refine ⟨before, (place, item), after, rfl, here, ?_⟩
    rintro ⟨earlier, other⟩ among
    exact nothing earlier other ((all earlier other).1 (List.mem_append_left _ among))
      ((List.pairwise_append.1 ordered).2.2 _ among _ List.mem_cons_self)

end Enumerates

end TypeGloss
