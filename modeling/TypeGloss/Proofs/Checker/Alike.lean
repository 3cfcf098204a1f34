/-
# TypeGloss.Proofs.Checker.Alike — checkers that differ in their numbers

Two checkers are *alike* at an offset if the second knows what the first knows, under
numbers that are greater by the offset, and has the same sources. It may have been through
more: the records, slots and frames below the offset are left over from before, and no key
leads to them.

Two computations are *parallel* if from related states they come to related results, the
second to that of the first read over, or to the same fault, and leave related states. This
is kept by doing one thing after another, so it holds of a rule if it holds of what the rule
is made of. Here it is shown of what all rules are made of: types are found or made under
their keys, places and slots are numbered, and guards hold what is being done.
-/
import TypeGloss.Proofs.Checker.Offset
import TypeGloss.Proofs.Checker.Steady
import TypeGloss.Proofs.Lookup.Agreement

namespace TypeGloss

set_option autoImplicit false

/-! ## Parallel computations -/

/-- From related states the second comes to what the first comes to, read over, and related
states are left. -/
def Parallel {σ α β : Type} (R : σ → σ → Prop) (f : α → β) (x : Computation σ α)
    (y : Computation σ β) : Prop :=
  ∀ ⦃s s' : σ⦄, R s s' → outcome y s' = (outcome x s).map f ∧ R (after x s) (after y s')

namespace Parallel

variable {σ α β γ δ : Type} {R : σ → σ → Prop} {f : α → β} {x : Computation σ α}
  {y : Computation σ β}

theorem done {a : α} {b : β} (same : b = f a) : Parallel R f (pure a) (pure b) := by
  intro s s' related
  subst same
  exact ⟨rfl, related⟩

theorem failed (fault : Fault) : Parallel R f (throw fault) (throw fault) :=
  fun _ _ related => ⟨rfl, related⟩

/-- One computation after the other. -/
theorem bind {g : γ → δ} {k : α → Computation σ γ} {k' : β → Computation σ δ}
    (first : Parallel R f x y) (rest : ∀ a, Parallel R g (k a) (k' (f a))) :
    Parallel R g (x >>= k) (y >>= k') := by
  intro s s' related
  obtain ⟨result, left⟩ := first related
  cases returned : outcome x s with
  | error fault =>
      rw [returned] at result
      rw [outcome_bind_error returned, outcome_bind_error result, after_bind_error returned,
        after_bind_error result]
      exact ⟨rfl, left⟩
  | ok a =>
      rw [returned] at result
      rw [outcome_bind_ok returned, outcome_bind_ok result, after_bind_ok returned,
        after_bind_ok result]
      exact rest a left

theorem map {g : α → γ} {g' : β → δ} {h : γ → δ} (first : Parallel R f x y)
    (same : ∀ a, g' (f a) = h (g a)) : Parallel R h (g <$> x) (g' <$> y) := by
  rw [map_eq_pure_bind, map_eq_pure_bind]
  exact first.bind fun a => done (same a)

/-- What is read over need not be read over in steps. -/
theorem congr {g : α → β} (first : Parallel R f x y) (same : ∀ a, f a = g a) :
    Parallel R g x y :=
  (funext same : f = g) ▸ first

/-- A computation for each item, on items that are read over. -/
theorem mapM {g : γ → δ} {h : α → β} {k : α → Computation σ γ} {k' : β → Computation σ δ}
    (each : ∀ a, Parallel R g (k a) (k' (h a))) (items : List α) :
    Parallel R (List.map g) (items.mapM k) ((items.map h).mapM k') := by
  induction items with
  | nil =>
      rw [List.map_nil, List.mapM_nil, List.mapM_nil]
      exact done rfl
  | cons item rest ih =>
      rw [List.map_cons, List.mapM_cons, List.mapM_cons]
      exact (each item).bind fun c => ih.bind fun cs => done rfl

/-- Visits of the same items with parallel steps are parallel. -/
theorem mapM_same {g : γ → δ} {k : α → Computation σ γ} {k' : α → Computation σ δ}
    (each : ∀ a, Parallel R g (k a) (k' a)) (items : List α) :
    Parallel R (List.map g) (items.mapM k) (items.mapM k') := by
  have mapped := mapM (h := id) each items
  rwa [List.map_id] at mapped

/-- Folds over mapped items are parallel if their steps are. -/
theorem foldlM {g : γ → δ} {h : α → β} {k : γ → α → Computation σ γ}
    {k' : δ → β → Computation σ δ} (each : ∀ c a, Parallel R g (k c a) (k' (g c) (h a)))
    (items : List α) (start : γ) :
    Parallel R g (items.foldlM k start) ((items.map h).foldlM k' (g start)) := by
  induction items generalizing start with
  | nil => exact done rfl
  | cons item rest ih => exact (each start item).bind ih

theorem foldlM_same {g : γ → δ} {k : γ → α → Computation σ γ} {k' : δ → α → Computation σ δ}
    (each : ∀ c a, Parallel R g (k c a) (k' (g c) a)) (items : List α) (start : γ) :
    Parallel R g (items.foldlM k start) (items.foldlM k' (g start)) := by
  have folded := foldlM (h := id) each items start
  rwa [List.map_id] at folded

theorem option {g : γ → δ} {h : α → β} {k : α → Computation σ γ} {k' : β → Computation σ δ}
    (each : ∀ a, Parallel R g (k a) (k' (h a))) (item : Option α) :
    Parallel R (Option.map g) (item.mapM k) ((item.map h).mapM k') := by
  cases item with
  | none => exact done rfl
  | some a => exact (each a).map fun _ => rfl

theorem allM {h : α → β} {k : α → Computation σ Bool} {k' : β → Computation σ Bool}
    (each : ∀ a, Parallel R id (k a) (k' (h a))) (items : List α) :
    Parallel R id (items.allM k) ((items.map h).allM k') := by
  induction items with
  | nil => exact done rfl
  | cons item rest ih =>
      refine (each item).bind fun holds => ?_
      cases holds with
      | true => exact ih
      | false => exact done rfl

theorem anyM {h : α → β} {k : α → Computation σ Bool} {k' : β → Computation σ Bool}
    (each : ∀ a, Parallel R id (k a) (k' (h a))) (items : List α) :
    Parallel R id (items.anyM k) ((items.map h).anyM k') := by
  induction items with
  | nil => exact done rfl
  | cons item rest ih =>
      refine (each item).bind fun holds => ?_
      cases holds with
      | true => exact done rfl
      | false => exact ih

/-- A filter keeps the mapped items on the other side if the two tests agree. -/
theorem filterM {h : α → β} {k : α → Computation σ Bool} {k' : β → Computation σ Bool}
    (each : ∀ a, Parallel R id (k a) (k' (h a))) (items : List α) :
    Parallel R (List.map h) (items.filterM k) ((items.map h).filterM k') := by
  have kept : ∀ found : List α,
      Parallel R (List.map h) (items.filterAuxM k found)
        ((items.map h).filterAuxM k' (found.map h)) := by
    induction items with
    | nil => exact fun found => done rfl
    | cons item rest ih =>
        refine fun found => (each item).bind fun holds => ?_
        cases holds with
        | true => exact ih (item :: found)
        | false => exact ih found
  exact (kept []).bind fun found => done List.map_reverse.symm

end Parallel

/-! ## States that are alike -/

namespace Offset

/-- The second state has what the first has, under the other numbers. -/
structure Alike (o : Offset) (s s' : State) : Prop where
  program : s.toProgram.Agrees s'.toProgram
  interned : ∀ key, s'.interned[o.key key]? = s.interned[key]?.map o.type
  records : ∀ t, s'.records[o.type t]? = s.records[t]?.map o.record
  recordCount : s'.records.size = o.type s.records.size
  slots : ∀ slot, s'.slots[o.slot slot]? = s.slots[slot]?.map (Option.map o.type)
  slotCount : s'.slots.size = o.slot s.slots.size
  frames : ∀ frame, s'.frames[o.frame frame]? = s.frames[frame]?.map o.env
  frameCount : s'.frames.size = o.frame s.frames.size
  /-- In the first frame no type parameter is in view. -/
  bottom : s.frames[0]? = some []
  expanding : s'.expanding = s.expanding.map o.aliasKey
  inferring : s'.inferring = s.inferring

variable {o : Offset} {s s' : State}

namespace Alike

/-- There is always a first frame. -/
theorem frames_ne_zero (alike : o.Alike s s') : s.frames.size ≠ 0 := by
  have bottom := alike.bottom
  intro empty
  rw [Array.getElem?_eq_none (by omega)] at bottom
  cases bottom

theorem refl {s : State} (bottom : s.frames[0]? = some []) : zero.Alike s s where
  program := ⟨rfl, fun _ => rfl⟩
  interned key := by simp only [zero_key, zero_type, Option.map_id_fun, id]
  records t := by simp only [zero_record, zero_type, Option.map_id_fun, id]
  recordCount := rfl
  slots slot := by simp only [zero_slot, zero_type, Option.map_id_fun, id]
  slotCount := rfl
  frames frame := by simp only [zero_frame, zero_env, Option.map_id_fun, id]
  frameCount := by rw [zero_frame, id]
  bottom := bottom
  expanding := by rw [zero_aliasKey, List.map_id]
  inferring := rfl

/-- A record is changed in the same way in both. -/
theorem update (alike : o.Alike s s') (t : TypeId) {f f' : TypeRecord → TypeRecord}
    (same : ∀ r, f' (o.record r) = o.record (f r)) :
    o.Alike (s.update t f) (s'.update (o.type t) f') :=
  { alike with
    records := fun u => by
      simp only [State.update, Array.getElem?_modify, alike.records, type_inj]
      split
      · cases s.records[u]? with
        | none => rfl
        | some r => exact congrArg some (same r)
      · rfl
    recordCount := by simpa [State.update] using alike.recordCount }

end Alike

/-- Two changes of the state that keep states alike. -/
def Matched (o : Offset) (change change' : State → State) : Prop :=
  ∀ ⦃s s' : State⦄, o.Alike s s' → o.Alike (change s) (change' s')

namespace Matched

theorem mark (t : TypeId) (part : Part) : o.Matched (.mark t part) (.mark (o.type t) part) :=
  fun _ _ alike => alike.update t fun _ => rfl

theorem unmark (t : TypeId) (part : Part) :
    o.Matched (.unmark t part) (.unmark (o.type t) part) :=
  fun _ _ alike => alike.update t fun _ => rfl

theorem keepPart (t : TypeId) (part : Part) (content : part.Content) :
    o.Matched (.keepPart t part content) (.keepPart (o.type t) part (o.content part content)) :=
  fun _ _ alike => alike.update t fun r => by
    rw [record_cache, set_cache]
    rfl

theorem keepLabel (t : TypeId) (text : String) :
    o.Matched (.keepLabel t text) (.keepLabel (o.type t) text) :=
  fun _ _ alike => alike.update t fun _ => rfl

end Matched

end Offset

namespace Check

open Offset (Alike)

variable {o : Offset} {α β : Type}

/-! ## What the rules are made of -/

theorem ofResult_parallel (result : Result α) :
    Parallel o.Alike id (ofResult result) (ofResult result) := by
  cases result with
  | error fault => exact .failed fault
  | ok a => exact .done rfl

theorem need_parallel (f : α → β) (part : Option α) :
    Parallel o.Alike f (need part) (need (part.map f)) := by
  cases part with
  | none => exact .failed _
  | some a => exact .done rfl

theorem needFirst_parallel (f : α → β) (items : List α) :
    Parallel o.Alike f (needFirst items) (needFirst (items.map f)) := by
  cases items with
  | nil => exact .failed _
  | cons a rest => exact .done rfl

/-- A part of the syntax is the same in both. -/
theorem need_same (part : Option α) : Parallel o.Alike id (need part) (need part) := by
  cases part with
  | none => exact .failed _
  | some a => exact .done rfl

theorem needFirst_same (items : List α) :
    Parallel o.Alike id (needFirst items) (needFirst items) := by
  cases items with
  | nil => exact .failed _
  | cons a rest => exact .done rfl

theorem needLast_same (items : List α) :
    Parallel o.Alike id (needLast items) (needLast items) := by
  unfold needLast
  split
  · exact .done rfl
  · exact .failed _

theorem scopeOf_parallel (source : Source) :
    Parallel o.Alike id (scopeOf source) (scopeOf source) :=
  ofResult_parallel source.scope

theorem checkSyntax_parallel (node : Cursor) (source : Source) :
    Parallel o.Alike id (checkSyntax node source) (checkSyntax node source) := by
  unfold checkSyntax
  split
  · exact .done rfl
  · exact .failed _

/-- What follows is asked about programs that agree. -/
theorem program_bind {f : α → β} {k : Program → CheckM α} {k' : Program → CheckM β}
    (rest : ∀ program other, program.Agrees other → Parallel o.Alike f (k program) (k' other)) :
    Parallel o.Alike f (program >>= k) (program >>= k') :=
  fun s s' alike => rest s.toProgram s'.toProgram alike.program alike

/-- What is found in the program alone is found in both. -/
theorem program_ofResult {k : Program → Result α}
    (same : ∀ program other, program.Agrees other → k other = k program) :
    Parallel o.Alike id (do ofResult (k (← program))) (do ofResult (k (← program))) :=
  program_bind fun program other agrees => by
    rw [same program other agrees]
    exact ofResult_parallel _

theorem modify_parallel {change change' : State → State} (matched : o.Matched change change') :
    Parallel o.Alike id (modify change) (modify change') :=
  fun _ _ alike => ⟨rfl, matched alike⟩

theorem bracket_parallel {f : α → β} {enter leave enter' leave' : State → State}
    {body : CheckM α} {body' : CheckM β} (enters : o.Matched enter enter')
    (leaves : o.Matched leave leave') (inside : Parallel o.Alike f body body') :
    Parallel o.Alike f (bracket enter leave body) (bracket enter' leave' body') := by
  intro s s' alike
  obtain ⟨result, left⟩ := inside (enters alike)
  exact ⟨result, leaves left⟩

/-! ### Types -/

theorem record_parallel (t : TypeId) :
    Parallel o.Alike o.record (record t) (record (o.type t)) := by
  intro s s' alike
  rw [outcome_record, outcome_record, after_record, after_record, alike.records]
  refine ⟨?_, alike⟩
  cases s.records[t]? <;> rfl

theorem facts_parallel (t : TypeId) : Parallel o.Alike o.facts (facts t) (facts (o.type t)) :=
  (record_parallel t).bind fun _ => .done rfl

theorem category_parallel (t : TypeId) :
    Parallel o.Alike id (category t) (category (o.type t)) :=
  (facts_parallel t).bind fun _ => .done rfl

/-- What is made under a key is made under the other key, with the next number; what is
found under one is found under the other. -/
theorem intern_parallel {key key' : Key} {fresh fresh' : TypeRecord} (sameKey : key' = o.key key)
    (same : fresh' = o.record fresh) :
    Parallel o.Alike o.type (intern key fresh) (intern key' fresh') := by
  intro s s' alike
  subst sameKey same
  cases known : s.interned[key]? with
  | some t =>
      have knownToo : s'.interned[o.key key]? = some (o.type t) := by rw [alike.interned, known]; rfl
      rw [outcome, outcome, after, after, run_intern_of_some known, run_intern_of_some knownToo]
      exact ⟨rfl, alike⟩
  | none =>
      have newToo : s'.interned[o.key key]? = none := by rw [alike.interned, known]; rfl
      rw [outcome, outcome, after, after, run_intern_of_none known, run_intern_of_none newToo]
      refine ⟨congrArg Except.ok alike.recordCount, ?_⟩
      have interned (other : Key) :
          (s'.interned.insert (o.key key) s'.records.size)[o.key other]? =
            (s.interned.insert key s.records.size)[other]?.map o.type := by
        simp only [Std.HashMap.getElem?_insert, beq_iff_eq, o.key_injective.eq_iff,
          alike.recordCount, alike.interned]
        split <;> rfl
      have records (t : TypeId) :
          (s'.records.push (o.record fresh))[o.type t]? =
            (s.records.push fresh)[t]?.map o.record := by
        simp only [Array.getElem?_push, alike.recordCount, alike.records, Offset.type_inj]
        split <;> rfl
      exact { alike with
        interned := interned
        records := records
        recordCount := by
          change (s'.records.push _).size = o.type (s.records.push _).size
          simp only [Array.size_push, alike.recordCount, Offset.type]
          omega }

/-! ### Places -/

/-- A new frame gets the next number on both sides, which is never that of the first frame. -/
theorem newPlace_parallel_bind {f : α → β} {k : Place → CheckM α} {k' : Place → CheckM β}
    (rest : ∀ place, place.frame ≠ 0 → Parallel o.Alike f (k place) (k' (o.place place)))
    (source : Source) (env : Env) :
    Parallel o.Alike f (newPlace source env >>= k) (newPlace source (o.env env) >>= k') := by
  intro s s' alike
  have below : s.frames.size ≠ 0 := alike.frames_ne_zero
  have frames (frame : FrameId) :
      (s'.frames.push (o.env env))[o.frame frame]? = (s.frames.push env)[frame]?.map o.env := by
    simp only [Array.getElem?_push, alike.frameCount, alike.frames, Offset.frame_inj]
    split <;> rfl
  have pushed : o.Alike { s with frames := s.frames.push env }
      { s' with frames := s'.frames.push (o.env env) } :=
    { alike with
      frames := frames
      frameCount := by
        simp only [Array.size_push, alike.frameCount, o.frame_of_ne below,
          o.frame_of_ne (Nat.succ_ne_zero _)]
        omega
      bottom := by
        simp only [Array.getElem?_push, alike.bottom, if_neg (Ne.symm below)] }
  have next := rest { source, env, frame := s.frames.size } below pushed
  rw [Offset.place, ← alike.frameCount] at next
  exact next

theorem newPlace_parallel (source : Source) (env : Env) :
    Parallel o.Alike o.place (newPlace source env) (newPlace source (o.env env)) := by
  have returned : Parallel o.Alike o.place (newPlace source env >>= pure)
      (newPlace source (o.env env) >>= pure) :=
    newPlace_parallel_bind (fun place _ => .done rfl) source env
  rwa [bind_pure, bind_pure] at returned

theorem complete_parallel (place : Place) :
    Parallel o.Alike id (complete place) (complete (o.place place)) := by
  unfold complete
  rw [Offset.place_blanks]
  split
  · exact .done rfl
  · exact .failed _

/-- Type parameters come into view in frames of their own, never in the first. -/
theorem bindAt_parallel_bind {f : α → β} {k : Place → CheckM α} {k' : Place → CheckM β} {place : Place}
    (inside : place.frame ≠ 0)
    (rest : ∀ next, next.frame ≠ 0 → Parallel o.Alike f (k next) (k' (o.place next)))
    (name : String) (t : TypeId) :
    Parallel o.Alike f (bindAt place name t >>= k)
      (bindAt (o.place place) name (o.type t) >>= k') := by
  intro s s' alike
  have frames (frame : FrameId) :
      (s'.frames.modify (o.frame place.frame) (Entries.put name (o.type t)))[o.frame frame]? =
        (s.frames.modify place.frame (Entries.put name t))[frame]?.map o.env := by
    simp only [Array.getElem?_modify, alike.frames, Offset.frame_inj]
    split
    · cases s.frames[frame]? with
      | none => rfl
      | some bound => exact congrArg some (o.env_put name t bound).symm
    · rfl
  have bound : o.Alike
      { s with frames := s.frames.modify place.frame (Entries.put name t) }
      { s' with frames := s'.frames.modify (o.frame place.frame) (Entries.put name (o.type t)) } :=
    { alike with
      frames := frames
      frameCount := by simpa using alike.frameCount
      bottom := by simp only [Array.getElem?_modify, if_neg inside, alike.bottom] }
  have next := rest { place with env := Entries.put name t place.env } inside bound
  simp only [Offset.place, Offset.env_put] at next
  exact next

theorem upToDate_parallel (place : Place) :
    Parallel o.Alike o.place (upToDate place) (upToDate (o.place place)) := by
  intro s s' alike
  refine ⟨?_, alike⟩
  have frame : s'.frames.getD (o.frame place.frame) [] = o.env (s.frames.getD place.frame []) := by
    simp only [Array.getD_eq_getD_getElem?, alike.frames]
    cases s.frames[place.frame]? <;> rfl
  change Except.ok (s'.current (o.place place)) = .ok (o.place (s.current place))
  rw [State.current, Offset.place_frame, frame]
  rfl

/-! ### Guards -/

/-- What a guard holds is read over by a function. -/
structure Guard.Renamed {κ : Type} (guard : Guard κ) (o : Offset) (f : κ → κ) : Prop where
  injective : Function.Injective f
  held : ∀ {s s' : State}, o.Alike s s' → guard.held s' = (guard.held s).map f
  hold : ∀ {s s' : State}, o.Alike s s' → ∀ keys : List κ,
    o.Alike (guard.hold keys s) (guard.hold (keys.map f) s')

theorem Guard.aliases_renamed (o : Offset) : Guard.aliases.Renamed o o.aliasKey where
  injective := o.aliasKey_injective
  held alike := alike.expanding
  hold alike _ := { alike with expanding := rfl }

theorem Guard.values_renamed (o : Offset) : Guard.values.Renamed o id where
  injective := Function.injective_id
  held alike := alike.inferring.trans (List.map_id _).symm
  hold alike keys := { alike with inferring := List.map_id keys }

/-- What is being expanded on one side is being expanded on the other. -/
theorem guarded_parallel {κ : Type} [BEq κ] [LawfulBEq κ] {guard : Guard κ} {f : κ → κ}
    (renamed : guard.Renamed o f) (key : κ) {g : α → β} {circular body : CheckM α}
    {circular' body' : CheckM β} (outside : Parallel o.Alike g circular circular')
    (inside : Parallel o.Alike g body body') :
    Parallel o.Alike g (guarded guard key circular body)
      (guarded guard (f key) circular' body') := by
  intro s s' alike
  have held := renamed.held alike
  have same : (guard.held s').contains (f key) = (guard.held s).contains key := by
    rw [Bool.eq_iff_iff, List.contains_iff_mem, List.contains_iff_mem, held,
      List.mem_map_of_injective renamed.injective]
  simp only [outcome, after, run_guarded, same]
  split
  · exact outside alike
  · have entered := renamed.hold alike (key :: guard.held s)
    rw [List.map_cons, ← held] at entered
    obtain ⟨result, left⟩ := inside entered
    refine ⟨result, ?_⟩
    have closed := renamed.hold left
      ((guard.held (after body (guard.hold (key :: guard.held s) s))).erase key)
    rw [List.map_erase renamed.injective, ← renamed.held left] at closed
    exact closed

/-! ### Members -/

theorem newSlot_parallel (type : Option TypeId) :
    Parallel o.Alike o.slot (newSlot type) (newSlot (type.map o.type)) := by
  intro s s' alike
  refine ⟨congrArg Except.ok alike.slotCount, ?_⟩
  have slots (slot : Nat) :
      (s'.slots.push (type.map o.type))[o.slot slot]? =
        (s.slots.push type)[slot]?.map (Option.map o.type) := by
    simp only [Array.getElem?_push, alike.slotCount, alike.slots, Offset.slot_inj]
    split <;> rfl
  exact { alike with
    slots := slots
    slotCount := by
      change (s'.slots.push _).size = o.slot (s.slots.push _).size
      simp only [Array.size_push, alike.slotCount, Offset.slot]
      omega }

theorem run_slotType_of_some {slot : Nat} {s : State} {type : Option TypeId}
    (known : s.slots[slot]? = some type) : (slotType slot).run.run s = (.ok type, s) := by
  have read : outcome (get : CheckM State) s = .ok s := rfl
  rw [slotType, run_bind, read]
  simp only [known]
  rfl

theorem run_slotType_of_none {slot : Nat} {s : State} (unknown : s.slots[slot]? = none) :
    (slotType slot).run.run s = (.error .foreignHandle, s) := by
  have read : outcome (get : CheckM State) s = .ok s := rfl
  rw [slotType, run_bind, read]
  simp only [unknown]
  rfl

theorem slotType_parallel (slot : Nat) :
    Parallel o.Alike (Option.map o.type) (slotType slot) (slotType (o.slot slot)) := by
  intro s s' alike
  have slots := alike.slots slot
  cases known : s.slots[slot]? with
  | none =>
      rw [known] at slots
      rw [outcome, outcome, after, after, run_slotType_of_none known, run_slotType_of_none slots]
      exact ⟨rfl, alike⟩
  | some type =>
      rw [known] at slots
      rw [outcome, outcome, after, after, run_slotType_of_some known, run_slotType_of_some slots]
      exact ⟨rfl, alike⟩

theorem setSlot_parallel (slot : Nat) (t : TypeId) :
    Parallel o.Alike id (setSlot slot t) (setSlot (o.slot slot) (o.type t)) := by
  intro s s' alike
  refine ⟨rfl, ?_⟩
  have slots (other : Nat) :
      (s'.slots.setIfInBounds (o.slot slot) (some (o.type t)))[o.slot other]? =
        (s.slots.setIfInBounds slot (some t))[other]?.map (Option.map o.type) := by
    simp only [Array.getElem?_setIfInBounds, alike.slotCount, alike.slots, Offset.slot_inj,
      Offset.slot_lt]
    split
    · split <;> rfl
    · rfl
  exact { alike with
    slots := slots
    slotCount := by
      change (s'.slots.setIfInBounds _ _).size = o.slot (s.slots.setIfInBounds _ _).size
      simpa using alike.slotCount }

theorem newMember_parallel (place : Place) (nodes : List Cursor) (type : Option TypeId) :
    Parallel o.Alike o.member (newMember place nodes type)
      (newMember (o.place place) nodes (type.map o.type)) :=
  (newSlot_parallel type).bind fun _ => .done rfl

/-! ### Simple types -/

theorem primitive_parallel (p : Primitive) :
    Parallel o.Alike o.type (primitive p) (primitive p) :=
  intern_parallel rfl rfl

theorem any_parallel : Parallel o.Alike o.type any any := primitive_parallel .any

theorem literal_parallel (value : Value) (p : Primitive) :
    Parallel o.Alike o.type (literal value p) (literal value p) :=
  (ofResult_parallel _).bind fun _ => intern_parallel rfl rfl

theorem widen_parallel (t : TypeId) : Parallel o.Alike o.type (widen t) (widen (o.type t)) := by
  refine (facts_parallel t).bind fun r => ?_
  obtain ⟨category, name, node, place, via, bindings, args, keyword, value, file, symbol, shape⟩ := r
  cases category <;> cases symbol <;> cases keyword <;>
    first
      | exact .done rfl
      | exact primitive_parallel _

theorem keepLiteral_parallel (t : TypeId) (keep : Bool) :
    Parallel o.Alike o.type (keepLiteral t keep) (keepLiteral (o.type t) keep) := by
  unfold keepLiteral
  split
  · exact .done rfl
  · exact widen_parallel t

theorem arrayOf_parallel (element : TypeId) (readonly : Bool) :
    Parallel o.Alike o.type (arrayOf element readonly) (arrayOf (o.type element) readonly) :=
  intern_parallel rfl rfl

theorem genericOf_parallel (name file : String) (args : List TypeId) :
    Parallel o.Alike o.type (genericOf name file args) (genericOf name file (args.map o.type)) :=
  intern_parallel rfl rfl

theorem namedType_parallel (text : String) (file : Option String) :
    Parallel o.Alike o.type (namedType text file) (namedType text file) := by
  refine intern_parallel rfl ?_
  cases file <;> rfl

theorem stuckType_parallel (computed : TypeId) (text : String) :
    Parallel o.Alike o.type (stuckType computed text) (stuckType (o.type computed) text) :=
  intern_parallel rfl rfl

theorem typeParameter_parallel (name : String) (node : Cursor) (source : Source) :
    Parallel o.Alike o.type (typeParameter name node source) (typeParameter name node source) :=
  intern_parallel rfl rfl

theorem syntheticObject_parallel (computed : TypeId) (properties : List Symbol) (text : String) :
    Parallel o.Alike o.type (syntheticObject computed properties text)
      (syntheticObject (o.type computed) (properties.map o.symbol) text) :=
  (facts_parallel computed).bind fun _ => intern_parallel rfl rfl

end Check

end TypeGloss
