/-
# TypeGloss.Proofs.Entries — what is found in a table

A table is known by what it has under each name: writing a name changes what is found
under that name and nothing else, and what is found was written. A table in which every
entry has been changed in the same way (`mapEntries`) has the changed entries under the same
names, in the same order. Of two tables one after the other the first is searched first.
-/
import TypeGloss.Entries
import Mathlib.Data.List.Basic
import Mathlib.Data.List.Induction

namespace TypeGloss.Entries

set_option autoImplicit false

variable {α β : Type}

theorem find?_put_self (name : String) (entry : α) (table : Entries α) :
    find? name (put name entry table) = some entry := by
  induction table with
  | nil => simp [put, find?]
  | cons item rest ih =>
      obtain ⟨key, old⟩ := item
      by_cases same : key = name <;> simp [put, find?, same, ih]

theorem find?_put_of_ne {name other : String} (ne : other ≠ name) (entry : α)
    (table : Entries α) : find? other (put name entry table) = find? other table := by
  induction table with
  | nil => simp [put, find?, ne.symm]
  | cons item rest ih =>
      obtain ⟨key, old⟩ := item
      by_cases same : key = name
      · subst same
        simp [put, find?, ne.symm]
      · simp only [put, if_neg same, find?, ih]

/-- A name that is put into a table is found there; every other name is found as before. -/
theorem find?_put (name other : String) (entry : α) (table : Entries α) :
    find? other (put name entry table) = if other = name then some entry else find? other table := by
  split
  · next same => rw [same, find?_put_self]
  · next ne => exact find?_put_of_ne ne entry table

theorem find?_erase (name other : String) (table : Entries α) :
    find? other (erase name table) = if other = name then none else find? other table := by
  induction table with
  | nil => simp [erase, find?]
  | cons item rest ih =>
      obtain ⟨key, entry⟩ := item
      rw [erase] at ih
      rw [erase, List.filter_cons]
      by_cases same : key = name
      · subst same
        rw [if_neg (by simp), ih, find?]
        split
        · rfl
        · next ne => rw [if_neg (Ne.symm ne)]
      · rw [if_pos (by simpa using same), find?, ih, find?]
        by_cases here : key = other
        · rw [if_pos here, if_pos here, if_neg (here ▸ same)]
        · rw [if_neg here, if_neg here]

theorem mem_of_find?_eq_some {name : String} {entry : α} {table : Entries α}
    (found : find? name table = some entry) : (name, entry) ∈ table := by
  induction table with
  | nil => simp [find?] at found
  | cons item rest ih =>
      obtain ⟨key, old⟩ := item
      by_cases same : key = name
      · simp only [find?, if_pos same, Option.some.injEq] at found
        subst same found
        exact List.mem_cons_self
      · simp only [find?, if_neg same] at found
        exact List.mem_cons_of_mem _ (ih found)

theorem find?_eq_none_iff {name : String} {table : Entries α} :
    find? name table = none ↔ name ∉ names table := by
  induction table with
  | nil => simp [find?, names]
  | cons item rest ih =>
      by_cases same : item.1 = name
      · simp [find?, names, same]
      · have other : name ≠ item.1 := fun h => same h.symm
        simpa [find?, names, same, other] using ih

theorem find?_of_mem {table : Entries α} (nodup : (names table).Nodup) {item : String × α}
    (among : item ∈ table) : find? item.1 table = some item.2 := by
  induction table with
  | nil => simp at among
  | cons first rest ih =>
      obtain ⟨fresh, nodup⟩ := List.nodup_cons.1 nodup
      rcases List.mem_cons.1 among with rfl | later
      · simp [find?]
      · have ne : first.1 ≠ item.1 := fun same => fresh (same ▸ List.mem_map_of_mem later)
        simp [find?, ne, ih nodup later]

/-- A table without repeated names is known by its names in order and what it has under
each. -/
theorem ext_of_names {table other : Entries α} (nodup : (names table).Nodup)
    (same : names table = names other) (each : ∀ name, find? name table = find? name other) :
    table = other := by
  induction table generalizing other with
  | nil => exact (List.map_eq_nil_iff.1 same.symm).symm
  | cons item rest ih =>
      cases other with
      | nil => simp [names] at same
      | cons item' rest' =>
          obtain ⟨fresh, nodup⟩ := List.nodup_cons.1 nodup
          obtain ⟨sameName, sameNames⟩ := List.cons.inj same
          have sameEntry : item.2 = item'.2 := by simpa [find?, sameName] using each item'.1
          have rests : rest = rest' := by
            refine ih nodup sameNames fun name => ?_
            by_cases here : item.1 = name
            · have absent : name ∉ names rest := here ▸ fresh
              have absent' : name ∉ names rest' := by
                rw [names, ← sameNames]
                exact absent
              rw [find?_eq_none_iff.2 absent, find?_eq_none_iff.2 absent']
            · have there : item'.1 ≠ name := fun h => here (sameName.trans h)
              simpa [find?, here, there] using each name
          rw [rests, Prod.ext sameName sameEntry]

/-- What stands in a table after one entry was put there is that entry, or stood there before. -/
theorem mem_entries_put {name : String} {entry other : α} {table : Entries α}
    (among : other ∈ entries (put name entry table)) : other = entry ∨ other ∈ entries table := by
  induction table with
  | nil => exact .inl (List.mem_singleton.1 among)
  | cons item rest ih =>
      obtain ⟨key, old⟩ := item
      unfold put at among
      split at among
      · rcases List.mem_cons.1 among with written | later
        · exact .inl written
        · exact .inr (List.mem_cons_of_mem _ later)
      · rcases List.mem_cons.1 among with kept | later
        · exact .inr (kept ▸ List.mem_cons_self)
        · exact (ih later).imp_right (List.mem_cons_of_mem _)

/-- What holds of all entries of a table holds of all after others are written, if it holds
of these. -/
theorem entries_foldl_put {P : α → Prop} {key : α → String} {more : List α}
    {table : Entries α} (before : ∀ entry ∈ entries table, P entry)
    (written : ∀ entry ∈ more, P entry) :
    ∀ entry ∈ entries (more.foldl (fun found entry => put (key entry) entry found) table),
      P entry := by
  induction more generalizing table with
  | nil => exact before
  | cons item rest ih =>
      refine ih (fun entry among => ?_) fun entry among =>
        written entry (List.mem_cons_of_mem _ among)
      rcases mem_entries_put among with rfl | earlier
      · exact written _ List.mem_cons_self
      · exact before entry earlier

/-! ## Tables written entry by entry -/

theorem names_put (key : String) (entry : α) (table : Entries α) :
    names (put key entry table) =
      if key ∈ names table then names table else names table ++ [key] := by
  induction table with
  | nil => simp [put, names]
  | cons item rest ih =>
      obtain ⟨other, old⟩ := item
      by_cases same : other = key
      · simp [put, names, same]
      · have differs : key ≠ other := fun h => same h.symm
        simp only [names] at ih
        simp only [put, names, if_neg same, List.map_cons, ih, List.mem_cons, differs, false_or]
        split <;> simp_all

theorem ofList_concat (items : List (String × α)) (item : String × α) :
    ofList (items ++ [item]) = put item.1 item.2 (ofList items) := by
  simp [ofList, putAll]

/-- A new name is written at the end. -/
theorem put_of_not_mem {name : String} {table : Entries α} (new : name ∉ names table)
    (entry : α) : put name entry table = table ++ [(name, entry)] := by
  induction table with
  | nil => rfl
  | cons item rest ih =>
      obtain ⟨different, later⟩ := List.ne_and_not_mem_of_not_mem_cons new
      rw [put, if_neg different.symm, ih later, List.cons_append]

/-- A list without repeated names is the table that is made of it. -/
theorem ofList_of_nodup {items : List (String × α)} (nodup : (names items).Nodup) :
    ofList items = items := by
  induction items using List.reverseRecOn with
  | nil => rfl
  | append_singleton items item ih =>
      rw [names, List.map_append, List.nodup_append] at nodup
      obtain ⟨earlier, -, apart⟩ := nodup
      have new : item.1 ∉ names items := fun among =>
        apart item.1 among item.1 (List.mem_singleton_self _) rfl
      rw [ofList_concat, ih earlier, put_of_not_mem new]

theorem putAll_append (table more rest : Entries α) :
    putAll table (more ++ rest) = putAll (putAll table more) rest :=
  List.foldl_append

theorem nodup_names_put {table : Entries α} (nodup : (names table).Nodup) (name : String)
    (entry : α) : (names (put name entry table)).Nodup := by
  rw [names_put]
  split
  · exact nodup
  · next absent =>
    refine List.nodup_append.2 ⟨nodup, List.pairwise_singleton _ _, fun other among key last => ?_⟩
    rw [List.mem_singleton.1 last]
    exact ne_of_mem_of_not_mem among absent

theorem nodup_names_putAll {table : Entries α} (nodup : (names table).Nodup)
    (more : Entries α) : (names (putAll table more)).Nodup := by
  induction more generalizing table with
  | nil => exact nodup
  | cons item rest ih => exact ih (nodup_names_put nodup item.1 item.2)

theorem nodup_names_ofList (items : List (String × α)) : (names (ofList items)).Nodup := by
  have empty : (names ([] : Entries α)).Nodup := List.nodup_nil
  exact nodup_names_putAll empty items

/-- What is found after a table without repeated names has been written over another one. -/
theorem find?_putAll (name : String) (table : Entries α) {more : Entries α}
    (nodup : (names more).Nodup) :
    find? name (putAll table more) = (find? name more).or (find? name table) := by
  induction more generalizing table with
  | nil => rfl
  | cons item rest ih =>
      obtain ⟨key, entry⟩ := item
      obtain ⟨fresh, others⟩ := List.nodup_cons.1 nodup
      change find? name (putAll (put key entry table) rest) = _
      rw [ih _ others, find?_put, find?]
      by_cases same : key = name
      · subst same
        rw [find?_eq_none_iff.2 fresh, if_pos rfl, if_pos rfl]
        rfl
      · rw [if_neg same, if_neg fun h => same h.symm]

/-! ## Tables with changed entries -/

/-- A table with every entry changed. -/
def mapEntries (f : α → β) (table : Entries α) : Entries β :=
  table.map fun item => (item.1, f item.2)

@[simp] theorem mapEntries_nil (f : α → β) : mapEntries f [] = [] := rfl

@[simp] theorem mapEntries_cons (f : α → β) (item : String × α) (rest : Entries α) :
    mapEntries f (item :: rest) = (item.1, f item.2) :: mapEntries f rest := rfl

@[simp] theorem mapEntries_id (table : Entries α) : mapEntries id table = table :=
  List.map_id table

@[simp] theorem isEmpty_mapEntries (f : α → β) (table : Entries α) :
    (mapEntries f table).isEmpty = table.isEmpty := by
  simp [mapEntries]

@[simp] theorem find?_mapEntries (f : α → β) (name : String) (table : Entries α) :
    find? name (mapEntries f table) = (find? name table).map f := by
  induction table with
  | nil => rfl
  | cons item rest ih =>
      simp only [mapEntries_cons, find?, ih]
      split <;> rfl

@[simp] theorem has_mapEntries (f : α → β) (name : String) (table : Entries α) :
    has name (mapEntries f table) = has name table := by
  simp [has]

@[simp] theorem mapEntries_put (f : α → β) (name : String) (entry : α) (table : Entries α) :
    mapEntries f (put name entry table) = put name (f entry) (mapEntries f table) := by
  induction table with
  | nil => rfl
  | cons item rest ih =>
      obtain ⟨key, old⟩ := item
      by_cases same : key = name <;> simp [put, same, ih]

@[simp] theorem mapEntries_putAll (f : α → β) (table more : Entries α) :
    mapEntries f (putAll table more) = putAll (mapEntries f table) (mapEntries f more) := by
  induction more generalizing table with
  | nil => rfl
  | cons item rest ih =>
      have later := ih (put item.1 item.2 table)
      rw [mapEntries_put] at later
      exact later

@[simp] theorem mapEntries_erase (f : α → β) (name : String) (table : Entries α) :
    mapEntries f (erase name table) = erase name (mapEntries f table) := by
  simp only [erase, mapEntries, List.filter_map]
  rfl

@[simp] theorem mapEntries_ofList (f : α → β) (items : List (String × α)) :
    mapEntries f (ofList items) = ofList (mapEntries f items) :=
  mapEntries_putAll f [] items

@[simp] theorem entries_mapEntries (f : α → β) (table : Entries α) :
    entries (mapEntries f table) = (entries table).map f := by
  simp [mapEntries, entries]

theorem mapEntries_injective {f : α → β} (injective : Function.Injective f) :
    Function.Injective (mapEntries f) := by
  refine List.map_injective_iff.2 fun item other same => ?_
  obtain ⟨name, entry⟩ := item
  obtain ⟨sameName, sameEntry⟩ := Prod.mk.inj same
  exact Prod.ext sameName (injective sameEntry)

/-! ## Tables one after the other -/

@[simp] theorem names_append (table more : Entries α) :
    names (table ++ more) = names table ++ names more :=
  List.map_append

/-- The names of two tables, one after the other, stand in the order of both lists of keys. -/
theorem names_append_sublist {table more : Entries α} {keys others : List String}
    (within : (names table).Sublist keys) (within' : (names more).Sublist others) :
    (names (table ++ more)).Sublist (keys ++ others) :=
  names_append table more ▸ within.append within'

@[simp] theorem names_mapEntries (f : α → β) (table : Entries α) :
    names (mapEntries f table) = names table := by
  simp only [names, mapEntries, List.map_map]
  rfl

@[simp] theorem find?_append (name : String) (table more : Entries α) :
    find? name (table ++ more) = (find? name table).or (find? name more) := by
  induction table with
  | nil => rfl
  | cons item rest ih =>
      obtain ⟨key, entry⟩ := item
      by_cases same : key = name <;> simp [find?, same, ih]

/-- A name that is none of the keys in use is not found. -/
theorem find?_eq_none_of_sublist {table : Entries α} {keys : List String} {name : String}
    (within : (names table).Sublist keys) (other : name ∉ keys) : find? name table = none :=
  find?_eq_none_iff.2 fun among => other (within.subset among)

end TypeGloss.Entries
