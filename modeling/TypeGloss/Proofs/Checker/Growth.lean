/-
# TypeGloss.Proofs.Checker.Growth — what a checker learns is not forgotten

A question may make types, find parts of types and find the types of members, and all of
it is kept. `State.Extends` says what may become of a state while questions are asked:
what is known stays, and what is being found is being found still. It also says what may
*not* be learned meanwhile: the content of a part that is being found, or that the type
does not have. So a question that came to nothing because of such a part comes to nothing
again.

Frames are left out. They grow while type parameters come into view, and syntax is read
with what a place says, not with what its frame says by then.

The rest of the module is about the few ways in which a state is changed: a new type
(`push`), marks that are set and taken away again (`of_loading`, `Guard.IsMark`), and what is
found at last (`setPart`, `setLabel`, `setSlot`).
-/
import TypeGloss.Checker.Answer

namespace TypeGloss

set_option autoImplicit false

/-! ## Parts that are there to be found -/

namespace Cache

variable (cache : Cache) {part other : Part}

theorem get?_set_self (content : part.Content) :
    (cache.set part content).get? part = some content := by
  cases part <;> rfl

theorem get?_set_of_ne (different : other ≠ part) (content : part.Content) :
    (cache.set part content).get? other = cache.get? other := by
  cases part <;> cases other <;> first | rfl | exact absurd rfl different

end Cache

namespace TypeRecord

/-- Can a part of the type be found? It does not matter how questions are answered. -/
def hasPart (r : TypeRecord) (part : Part) : Prop :=
  (Answer.loader? (fun _ => throw .exhausted) 0 r part).isSome = true

end TypeRecord

namespace Answer

variable (ask : Ask) (t : TypeId)

theorem isSome_written? (other : Ask) (u : TypeId) (r : TypeFacts) (part : Part) :
    (written? ask t r part).isSome = (written? other u r part).isSome := by
  cases part <;> simp only [written?] <;> (repeat' split) <;>
    simp only [Option.isSome_some, Option.isSome_none]

theorem isSome_declared? (other : Ask) (u : TypeId) (r : TypeFacts) (part : Part) :
    (declared? ask t r part).isSome = (declared? other u r part).isSome := by
  cases part <;> simp only [declared?] <;> (repeat' split) <;>
    simp only [Option.isSome_some, Option.isSome_none]

/-- Whether there is a way to find a part depends on the facts of the type alone. -/
theorem isSome_loader? (other : Ask) (u : TypeId) {r r' : TypeRecord}
    (facts : r'.toTypeFacts = r.toTypeFacts) (part : Part) :
    (loader? ask t r part).isSome = (loader? other u r' part).isSome := by
  obtain ⟨known, _, _, _⟩ := r
  obtain ⟨known', _, _, _⟩ := r'
  obtain rfl : known' = known := facts
  simp only [loader?]
  cases known'.shape with
  | written => exact isSome_written? ask t other u known' part
  | declared => exact isSome_declared? ask t other u known' part
  | _ => cases part <;> simp only [Option.isSome_some, Option.isSome_none]

end Answer

/-! ## Growth of a type -/

/-- What may become of a type while questions are asked. -/
structure TypeRecord.Grows (r r' : TypeRecord) : Prop where
  facts : r'.toTypeFacts = r.toTypeFacts
  loading : r'.loading = r.loading
  kept : ∀ {part content}, r.cache.get? part = some content → r'.cache.get? part = some content
  /-- A part that is being found, or that the type does not have, is not found meanwhile. -/
  settled : ∀ {part}, part ∈ r.loading ∨ ¬r.hasPart part →
    r'.cache.get? part = r.cache.get? part
  label : r'.label = r.label ∨ (r.label = none ∧ r'.label = r'.cache.text)

namespace TypeRecord.Grows

variable {r r' r'' : TypeRecord}

theorem hasPart_iff (facts : r'.toTypeFacts = r.toTypeFacts) (part : Part) :
    r'.hasPart part ↔ r.hasPart part := by
  rw [hasPart, hasPart, Answer.isSome_loader? _ 0 _ 0 facts part]

theorem labelled {text : String} (grows : r.Grows r') (known : r.label = some text) :
    r'.label = some text := by
  rcases grows.label with same | ⟨unset, -⟩
  · rw [same, known]
  · simp [known] at unset

theorem refl (r : TypeRecord) : r.Grows r :=
  ⟨rfl, rfl, fun known => known, fun _ => rfl, .inl rfl⟩

theorem trans (first : r.Grows r') (second : r'.Grows r'') : r.Grows r'' where
  facts := second.facts.trans first.facts
  loading := second.loading.trans first.loading
  kept known := second.kept (first.kept known)
  settled {part} idle := by
    have idle' : part ∈ r'.loading ∨ ¬r'.hasPart part := by
      rwa [first.loading, hasPart_iff first.facts]
    rw [second.settled idle', first.settled idle]
  label := by
    rcases second.label with same | ⟨unset, found⟩
    · rcases first.label with same' | ⟨unset', found'⟩
      · exact .inl (same.trans same')
      · -- A label that was found before is still the text that was found.
        cases text : r'.cache.text with
        | none => exact .inl (by rw [same, found', text, unset'])
        | some content =>
            have found : r'.cache.get? .text = some content := text
            have kept : r''.cache.text = some content := second.kept found
            exact .inr ⟨unset', by rw [same, found', text, kept]⟩
    · refine .inr ⟨?_, found⟩
      rcases first.label with same' | ⟨unset', -⟩
      · rw [← same', unset]
      · exact unset'

end TypeRecord.Grows

/-! ## Growth of a state -/

/-- What may become of a state while questions are asked. -/
structure State.Extends (s s' : State) : Prop where
  program : s'.toProgram = s.toProgram
  expanding : s'.expanding = s.expanding
  inferring : s'.inferring = s.inferring
  interned : ∀ {key : Key} {t : TypeId}, s.interned[key]? = some t → s'.interned[key]? = some t
  records : ∀ {t : TypeId} {r : TypeRecord}, s.records[t]? = some r →
    ∃ r', s'.records[t]? = some r' ∧ r.Grows r'
  /-- Nothing of a new type is being found. -/
  idle : ∀ {t : TypeId} {r' : TypeRecord}, s'.records[t]? = some r' → s.records[t]? = none →
    r'.loading = []
  slotCount : s.slots.size ≤ s'.slots.size
  slots : ∀ {slot : Nat} {t : TypeId}, s.slots[slot]? = some (some t) →
    s'.slots[slot]? = some (some t)

namespace State.Extends

variable {s s' s'' : State}

theorem refl (s : State) : s.Extends s where
  program := rfl
  expanding := rfl
  inferring := rfl
  interned known := known
  records {_ r} known := ⟨r, known, .refl r⟩
  idle known unknown := by simp [unknown] at known
  slotCount := Nat.le_refl _
  slots known := known

theorem trans (first : s.Extends s') (second : s'.Extends s'') : s.Extends s'' where
  program := second.program.trans first.program
  expanding := second.expanding.trans first.expanding
  inferring := second.inferring.trans first.inferring
  interned known := second.interned (first.interned known)
  records known := by
    obtain ⟨r', known', grows⟩ := first.records known
    obtain ⟨r'', known'', grows'⟩ := second.records known'
    exact ⟨r'', known'', grows.trans grows'⟩
  idle {t r''} known unknown := by
    cases middle : s'.records[t]? with
    | none => exact second.idle known middle
    | some r' =>
        obtain ⟨later, known', grows⟩ := second.records middle
        obtain rfl : later = r'' := Option.some.inj (known'.symm.trans known)
        rw [grows.loading, first.idle middle unknown]
  slotCount := Nat.le_trans first.slotCount second.slotCount
  slots known := second.slots (first.slots known)

end State.Extends

/-! ## Changes of a state -/

namespace State.Extends

variable {s s' : State}

/-- A type is made for a key that had none. -/
theorem push {key : Key} {fresh : TypeRecord} (absent : s.interned[key]? = none)
    (idle : fresh.loading = []) :
    s.Extends { s with
      interned := s.interned.insert key s.records.size, records := s.records.push fresh } where
  program := rfl
  expanding := rfl
  inferring := rfl
  interned {other t} known := by
    have different : key ≠ other := by
      rintro rfl
      simp [absent] at known
    simpa [Std.HashMap.getElem?_insert, different] using known
  records {t r} known := by
    obtain ⟨bound, -⟩ := Array.getElem?_eq_some_iff.1 known
    refine ⟨r, ?_, .refl r⟩
    rw [Array.getElem?_push, if_neg (Nat.ne_of_lt bound), known]
  idle {t r'} known unknown := by
    rw [Array.getElem?_push] at known
    split at known
    · cases known
      exact idle
    · simp [unknown] at known
  slotCount := Nat.le_refl _
  slots known := known

theorem frames (s : State) (frames : Array Env) : s.Extends { s with frames } :=
  { refl s with }

theorem pushSlot (s : State) (type : Option TypeId) :
    s.Extends { s with slots := s.slots.push type } :=
  { refl s with
    slotCount := by simp
    slots := by
      intro slot t known
      obtain ⟨bound, -⟩ := Array.getElem?_eq_some_iff.1 known
      rw [Array.getElem?_push, if_neg (Nat.ne_of_lt bound), known] }

/-- The type of a member is found that was not known before. -/
theorem setSlot {slot : Nat} (extended : s.Extends s') (unset : s.slots[slot]? = some none)
    (t : TypeId) : s.Extends { s' with slots := s'.slots.setIfInBounds slot (some t) } :=
  { extended with
    slotCount := by simpa using extended.slotCount
    slots := by
      intro other u known
      have different : slot ≠ other := by
        rintro rfl
        simp [unset] at known
      rw [Array.getElem?_setIfInBounds_ne different]
      exact extended.slots known }

/-! ### Changes of one type -/

theorem records_update (s : State) (t u : TypeId) (f : TypeRecord → TypeRecord) :
    (State.update t f s).records[u]? =
      if t = u then s.records[u]?.map f else s.records[u]? :=
  Array.getElem?_modify

/-- A type that is there changes in a way in which it may grow. -/
theorem update {t : TypeId} {r : TypeRecord} {f : TypeRecord → TypeRecord}
    (extended : s.Extends s') (known : s.records[t]? = some r)
    (each : ∀ r', s'.records[t]? = some r' → r.Grows r' → r.Grows (f r')) :
    s.Extends (State.update t f s') :=
  { extended with
    records := by
      intro u other known'
      obtain ⟨later, found, grows⟩ := extended.records known'
      by_cases same : t = u
      · subst same
        obtain rfl : r = other := Option.some.inj (known.symm.trans known')
        exact ⟨f later, by simp [records_update, found], each later found grows⟩
      · exact ⟨later, by simp [records_update, same, found], grows⟩
    idle := by
      intro u later found unknown
      have different : t ≠ u := by
        rintro rfl
        simp [known] at unknown
      rw [records_update, if_neg different] at found
      exact extended.idle found unknown }

/-- A part is being found, and no longer: the part itself has not been found meanwhile. -/
theorem of_loading {t : TypeId} {r : TypeRecord} {part : Part} (known : s.records[t]? = some r)
    (inside : (State.mark t part s).Extends s') :
    s.Extends (State.unmark t part s') ∧
      ∀ r', (State.unmark t part s').records[t]? = some r' →
        r'.cache.get? part = r.cache.get? part := by
  have marked : (State.mark t part s).records[t]? =
      some { r with loading := part :: r.loading } := by
    simp [State.mark, records_update, known]
  obtain ⟨r', known', grows⟩ := inside.records marked
  have unmarked : r.Grows { r' with loading := r'.loading.erase part } :=
    { facts := grows.facts
      loading := by simp [grows.loading]
      kept := grows.kept
      settled := fun {other} idle => grows.settled (idle.imp_left (List.mem_cons_of_mem part))
      label := grows.label }
  constructor
  · refine { inside with records := ?_, idle := ?_ }
    · intro u other known''
      by_cases same : t = u
      · subst same
        obtain rfl : r = other := Option.some.inj (known.symm.trans known'')
        exact ⟨_, by simp [State.unmark, records_update, known'], unmarked⟩
      · have untouched : (State.mark t part s).records[u]? = some other := by
          rw [State.mark, records_update, if_neg same, known'']
        obtain ⟨later, found, grows'⟩ := inside.records untouched
        exact ⟨later, by simp [State.unmark, records_update, same, found], grows'⟩
    · intro u later found unknown
      have different : t ≠ u := by
        rintro rfl
        simp [known] at unknown
      rw [State.unmark, records_update, if_neg different] at found
      exact inside.idle found (by simpa [State.mark, records_update, different] using unknown)
  · intro later found
    rw [State.unmark, records_update, if_pos rfl, known'] at found
    cases found
    exact grows.settled (.inl List.mem_cons_self)

end State.Extends

namespace TypeRecord.Grows

variable {r r' : TypeRecord}

/-- A part is found that was not known and was not being found. -/
theorem setPart {part : Part} (grows : r.Grows r') (unknown : r.cache.get? part = none)
    (unknown' : r'.cache.get? part = none) (has : r.hasPart part) (idle : part ∉ r.loading)
    (content : part.Content) : r.Grows { r' with cache := r'.cache.set part content } where
  facts := grows.facts
  loading := grows.loading
  kept {other found} known := by
    have different : other ≠ part := by
      rintro rfl
      simp [unknown] at known
    rw [Cache.get?_set_of_ne _ different, grows.kept known]
  settled {other} settled := by
    have different : other ≠ part := by
      rintro rfl
      exact settled.elim idle (absurd has)
    rw [Cache.get?_set_of_ne _ different, grows.settled settled]
  label := by
    rcases grows.label with same | ⟨unset, found⟩
    · exact .inl same
    · by_cases isText : part = .text
      · subst isText
        have unfound : r'.cache.text = none := unknown'
        exact .inl (by rw [found, unfound, unset])
      · have same : (r'.cache.set part content).text = r'.cache.text :=
          r'.cache.get?_set_of_ne (Ne.symm isText) content
        exact .inr ⟨unset, by rw [found, same]⟩

/-- A text that was found becomes the label. -/
theorem setLabel {text : String} (grows : r.Grows r') (unset : r.label = none)
    (found : r'.cache.text = some text) : r.Grows { r' with label := some text } :=
  { grows with label := .inr ⟨unset, found.symm⟩ }

end TypeRecord.Grows

/-! ## Guards -/

/-- A guard whose entries are marks on the state: nothing else depends on them, and they
are the same after a question as before. -/
structure Check.Guard.IsMark {κ : Type} [BEq κ] (guard : Check.Guard κ) : Prop where
  held : ∀ {s s' : State}, s.Extends s' → guard.held s' = guard.held s
  /-- A mark that is set and taken away leaves what was learned meanwhile. -/
  released : ∀ {s s' : State} {key : κ}, (guard.hold (key :: guard.held s) s).Extends s' →
    s.Extends (guard.hold ((guard.held s').erase key) s')
  /-- A state that extends what was left without the mark extends, with the mark, what was
  there before the mark was taken away. -/
  retaken : ∀ {s s' : State} {key : κ} {keys : List κ}, guard.held s = key :: keys →
    (guard.hold ((guard.held s).erase key) s).Extends s' →
      s.Extends (guard.hold (key :: keys) s')
  marked : ∀ (s : State) (keys : List κ), guard.held (guard.hold keys s) = keys

theorem Check.Guard.isMark_aliases : Check.Guard.aliases.IsMark where
  held extended := extended.expanding
  released inside := { inside with
    expanding := by simp [aliases, show _ = _ from inside.expanding] }
  retaken marked extended := { extended with expanding := marked.symm }
  marked _ _ := rfl

theorem Check.Guard.isMark_values : Check.Guard.values.IsMark where
  held extended := extended.inferring
  released inside := { inside with
    inferring := by simp [values, show _ = _ from inside.inferring] }
  retaken marked extended := { extended with inferring := marked.symm }
  marked _ _ := rfl

end TypeGloss
