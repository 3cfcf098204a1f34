/-
# TypeGloss.Proofs.Checker.Findings — what has been found, and what waits to be found

Parts of types and types of members are found when they are first asked for. A state *keeps* what
another has found (`State.Preserves`), whatever is being found in either. So a result that depends
on nothing but what has been found is told again in every such state, without a change
(`State.Remembers`).

A computed type *awaits* its computation (`State.Awaits`) as long as it has not been simplified,
is not being simplified, and nothing has been made for it. To find one thing may *leave* others as
they are (`State.Leaves`): what awaits its computation awaits it still. The types that are not left
alone are listed.

When a computed type is asked for at last, its rule is run while it is marked, and what the rule
makes is what the type is simplified to from then on (`State.Pending.ensures_leaving`).
-/
import TypeGloss.Proofs.Checker.Exclusion

namespace TypeGloss

set_option autoImplicit false

open Answer (answer)

variable {α β : Type}

/-! ## What is kept -/

/-- What was found of a type is still there. -/
structure TypeRecord.Preserves (r r' : TypeRecord) : Prop where
  facts : r'.toTypeFacts = r.toTypeFacts
  parts : ∀ {part : Part} {content : part.Content}, r.cache.get? part = some content →
    r'.cache.get? part = some content
  label : ∀ {label : String}, r.label = some label → r'.label = some label

/-- What was found is still there, whatever is being found. -/
structure State.Preserves (s later : State) : Prop where
  records : ∀ {t : TypeId} {r : TypeRecord}, s.records[t]? = some r →
    ∃ r', later.records[t]? = some r' ∧ r.Preserves r'
  slots : ∀ {slot : Nat} {t : TypeId}, s.slots[slot]? = some (some t) →
    later.slots[slot]? = some (some t)

theorem TypeRecord.Preserves.refl (r : TypeRecord) : r.Preserves r := ⟨rfl, id, id⟩

theorem TypeRecord.Preserves.trans {r r' r'' : TypeRecord} (first : r.Preserves r')
    (second : r'.Preserves r'') : r.Preserves r'' :=
  ⟨second.facts.trans first.facts, fun known => second.parts (first.parts known),
    fun known => second.label (first.label known)⟩

namespace State.Preserves

variable {s middle later : State} {t : TypeId}

theorem refl (s : State) : s.Preserves s := ⟨fun known => ⟨_, known, .refl _⟩, id⟩

theorem trans (first : s.Preserves middle) (second : middle.Preserves later) :
    s.Preserves later where
  records known := by
    obtain ⟨r', known', keeps⟩ := first.records known
    obtain ⟨r'', known'', keeps'⟩ := second.records known'
    exact ⟨r'', known'', keeps.trans keeps'⟩
  slots known := second.slots (first.slots known)

theorem ofExtends (extended : s.Extends later) : s.Preserves later where
  records known := by
    obtain ⟨r', known', grows⟩ := extended.records known
    exact ⟨r', known', grows.facts, grows.kept, grows.labelled⟩
  slots := extended.slots

/-- A type changes, but nothing is lost that was found of it. -/
theorem update {f : TypeRecord → TypeRecord}
    (each : ∀ r, s.records[t]? = some r → r.Preserves (f r)) : s.Preserves (s.update t f) where
  records {u r} known := by
    rw [State.Extends.records_update]
    split
    · next same =>
        subst same
        exact ⟨f r, by rw [known]; rfl, each r known⟩
    · exact ⟨r, known, .refl r⟩
  slots := id

/-- What is new later on was not there before. -/
theorem absent (kept : s.Preserves later) (new : later.records[t]? = none) :
    s.records[t]? = none := by
  cases known : s.records[t]? with
  | none => rfl
  | some r =>
      obtain ⟨r', known', -⟩ := kept.records known
      cases new.symm.trans known'

end State.Preserves

/-! ## What is remembered -/

/-- Whatever else has been found since, a rule comes to this result and finds nothing new. -/
def State.Remembers (s : State) (rule : Ask → CheckM α) (a : α) : Prop :=
  ∀ ⦃later : State⦄, s.Preserves later → Comes (· = later) rule a

namespace State.Remembers

variable {s later : State} {rule : Ask → CheckM α} {a b : α} {t u : TypeId} {r : TypeRecord}

theorem keeps (remembers : s.Remembers rule a) (kept : s.Preserves later) :
    later.Remembers rule a :=
  fun _ further => remembers (kept.trans further)

theorem now (remembers : s.Remembers rule a) : Comes (· = s) rule a := remembers (.refl s)

theorem unique (remembers : s.Remembers rule a) (again : s.Remembers rule b) : a = b :=
  Comes.unique remembers.now again.now rfl

theorem pure (a : α) : s.Remembers (fun _ => pure a) a := fun _ _ => .pure a

theorem bind {f : Ask → α → CheckM β} {b : β} (first : s.Remembers rule a)
    (rest : s.Remembers (fun ask => f ask a) b) : s.Remembers (fun ask => rule ask >>= f ask) b :=
  fun _ kept => (first kept).bind (rest kept)

theorem map (remembers : s.Remembers rule a) (f : α → β) :
    s.Remembers (fun ask => f <$> rule ask) (f a) := by
  simp only [map_eq_pure_bind]
  exact remembers.bind (.pure (f a))

theorem asked {q : Query} {a : q.Answer}
    (remembers : s.Remembers (fun ask => Answer.step ask q) a) :
    s.Remembers (fun ask => ask q) a :=
  fun _ kept => Ensures.asked (remembers kept)

theorem facts (known : s.records[t]? = some r) :
    s.Remembers (fun _ => Check.facts t) r.toTypeFacts := by
  intro later kept
  obtain ⟨r', known', keeps⟩ := kept.records known
  exact keeps.facts ▸ Comes.facts (fun _ same => same ▸ .refl later) known'

theorem category (known : s.records[t]? = some r) :
    s.Remembers (fun _ => Check.category t) r.category :=
  (facts known).bind (.pure _)

/-- A part that has been found. -/
theorem load (known : s.records[t]? = some r) {part : Part} {content : part.Content}
    (found : r.cache.get? part = some content) :
    s.Remembers (fun ask => ask.load? t part) (some content) := by
  intro later kept
  obtain ⟨r', known', keeps⟩ := kept.records known
  exact Comes.load (fun _ same => same ▸ .refl later) known' (keeps.parts found)

/-- The type of a member whose slot is filled. -/
theorem ofSymbol {p : Symbol} {member : Member} (isMember : p.member = some member)
    (filled : s.slots[member.slot]? = some (some t)) :
    s.Remembers (fun ask => ask.ofSymbol p) t := by
  refine asked fun later kept => Ensures.ofRun ?_
  rintro _ rfl
  exact ⟨t, _, fun _ => Inference.run_symbolType_of_some isMember (kept.slots filled), rfl, rfl⟩

/-- A text that is known. -/
theorem text (known : s.records[t]? = some r) {label : String} (labelled : r.label = some label) :
    s.Remembers (fun ask => ask.text t) label := by
  refine asked fun later kept => Ensures.ofRun ?_
  rintro _ rfl
  obtain ⟨r', known', keeps⟩ := kept.records known
  exact ⟨label, _, fun _ => Answer.run_text_of_some known' (keeps.label labelled), rfl, rfl⟩

/-! ### Simplified types -/

/-- A type that is not computed is simple. -/
theorem simplified_self (known : s.records[t]? = some r) (plain : r.category ≠ .computed) :
    s.Remembers (fun ask => ask.simplified t) (some t) := by
  refine asked ?_
  simp only [Answer.step, Structure.simplified, Structure.maxSteps, Structure.simplifiedIn]
  refine (category known).bind ?_
  simp only [if_pos plain]
  exact .pure _

/-- A computed type that came to one that is not computed. -/
theorem simplified_of_found {r' : TypeRecord} (known : s.records[t]? = some r)
    (computed : r.category = .computed) (found : r.cache.simplified = some (some u))
    (known' : s.records[u]? = some r') (plain : r'.category ≠ .computed) :
    s.Remembers (fun ask => ask.simplified t) (some u) := by
  have different : u ≠ t := by
    rintro rfl
    cases known.symm.trans known'
    exact plain computed
  have content : r.cache.get? .simplified = some (some u) := found
  refine asked ?_
  simp only [Answer.step, Structure.simplified, Structure.maxSteps]
  unfold Structure.simplifiedIn
  refine (category known).bind ?_
  simp only [computed, ne_eq, not_true_eq_false, if_false]
  refine (load known content).bind ?_
  simp only [Option.join_some, different, if_false]
  unfold Structure.simplifiedIn
  refine (category known').bind ?_
  simp only [ne_eq, plain, not_false_eq_true, if_true]
  exact .pure _

end State.Remembers

/-! ### Keys -/

/-- A literal type that stands for a key. -/
def State.IsKey (s : State) (m : TypeId) (key : String) : Prop :=
  ∃ r, s.records[m]? = some r ∧ r.category = .literal ∧
    (r.primitive = some .string ∨ r.primitive = some .number) ∧ r.value.keyText = key

namespace State.Remembers

variable {s : State} {t m : TypeId} {r : TypeRecord} {members : List TypeId} {key : String}
  {keys : List String}

theorem keysOf (each : List.Forall₂ s.IsKey members keys) :
    s.Remembers (fun _ => Structure.keysOf? members) (some keys) := by
  induction each with
  | nil => exact .pure _
  | cons isKey _ ih =>
      obtain ⟨r, known, category, primitive, rfl⟩ := isKey
      have accepted : (r.category = .literal &&
          (r.primitive == some .string || r.primitive == some .number)) = true := by
        simp [category, primitive]
      simp only [Structure.keysOf?]
      refine (facts known).bind ?_
      simp only [accepted, if_true]
      exact ih.bind (.pure _)

/-- A literal stands for one key. -/
theorem literalKeys_single (isKey : s.IsKey m key) :
    s.Remembers (fun ask => Structure.literalKeys? ask m) (some [key]) := by
  have single := keysOf (List.Forall₂.cons isKey .nil)
  obtain ⟨r, known, category, -⟩ := isKey
  simp only [Structure.literalKeys?, Ask.alternatives]
  refine (simplified_self known (by simp [category])).bind ?_
  refine State.Remembers.bind ((State.Remembers.category known).bind ?_) single
  rw [category]
  exact .pure [m]

end State.Remembers

/-! ## What waits to be found -/

/-- Nothing was made yet in place of a computed type. -/
def State.Unmade (s : State) (e : TypeId) : Prop :=
  s.interned[Key.simplified e]? = none

/-- A computed type has not been simplified and is not being simplified, and nothing was made in
its place. -/
structure State.Awaits (s : State) (e : TypeId) (r : TypeRecord) : Prop extends s.Pending e r where
  unmade : s.Unmade e

/-- Apart from those in a list, types that await their computation await it still; and what
stands for type parameters stands for them still. -/
structure State.Spares (es : List TypeId) (s later : State) : Prop where
  pending : ∀ {e : TypeId} {r : TypeRecord}, e ∉ es → s.Pending e r → ∃ r', later.Pending e r'
  unmade : ∀ {e : TypeId}, e ∉ es → s.Unmade e → later.Unmade e
  frames : ∀ {frame : Nat} {env : Env}, s.frames[frame]? = some env →
    later.frames[frame]? = some env

/-- What was found is still there, and apart from those in a list, what awaits its computation
awaits it still. -/
structure State.Leaves (es : List TypeId) (s later : State) : Prop
    extends s.Preserves later, State.Spares es s later

namespace State.Spares

variable {s middle later : State} {es more : List TypeId} {e : TypeId} {r : TypeRecord}

theorem refl (s : State) : State.Spares [] s s :=
  ⟨fun _ pending => ⟨_, pending⟩, fun _ => id, id⟩

theorem trans (first : Spares es s middle) (second : Spares more middle later) :
    Spares (es ++ more) s later where
  pending apart pending := by
    obtain ⟨notFirst, notSecond⟩ := not_or.1 (mt List.mem_append.2 apart)
    obtain ⟨r', pending'⟩ := first.pending notFirst pending
    exact second.pending notSecond pending'
  unmade apart unmade := by
    obtain ⟨notFirst, notSecond⟩ := not_or.1 (mt List.mem_append.2 apart)
    exact second.unmade notSecond (first.unmade notFirst unmade)
  frames known := second.frames (first.frames known)

theorem weaken (spares : Spares es s later) (within : ∀ e ∈ es, e ∈ more) :
    Spares more s later where
  pending apart := spares.pending (mt (within _) apart)
  unmade apart := spares.unmade (mt (within _) apart)
  frames := spares.frames

/-- One type changes. -/
theorem update (s : State) (e : TypeId) (f : TypeRecord → TypeRecord) :
    Spares [e] s (s.update e f) where
  pending {u r} apart pending := by
    have different : e ≠ u := fun same => apart (same ▸ List.mem_singleton_self e)
    refine ⟨r, ?_, pending.computed, pending.unknown, pending.idle⟩
    rw [State.Extends.records_update, if_neg different, pending.known]
  unmade _ unmade := unmade
  frames := id

/-- A type changes, but not in what it has been simplified to. -/
theorem update_apart {f : TypeRecord → TypeRecord}
    (each : ∀ r, (f r).toTypeFacts = r.toTypeFacts ∧
      (f r).cache.simplified = r.cache.simplified ∧
      (.simplified ∈ (f r).loading → .simplified ∈ r.loading)) : Spares [] s (s.update e f) where
  pending {u r} _ pending := by
    by_cases same : e = u
    · subst same
      obtain ⟨facts, cache, loading⟩ := each r
      refine ⟨f r, ?_, (congrArg TypeFacts.category facts).trans pending.computed,
        cache.trans pending.unknown, mt loading pending.idle⟩
      rw [State.Extends.records_update, if_pos rfl, pending.known]
      rfl
    · refine ⟨r, ?_, pending.computed, pending.unknown, pending.idle⟩
      rw [State.Extends.records_update, if_neg same, pending.known]
  unmade _ unmade := unmade
  frames := id

/-- A type is made. -/
theorem push {key : Key} {fresh : TypeRecord} (within : ∀ e, key = .simplified e → e ∈ es) :
    Spares es s { s with
      interned := s.interned.insert key s.records.size, records := s.records.push fresh } where
  pending {u r} _ pending := by
    obtain ⟨bound, -⟩ := Array.getElem?_eq_some_iff.1 pending.known
    refine ⟨r, ?_, pending.computed, pending.unknown, pending.idle⟩
    rw [Array.getElem?_push, if_neg (Nat.ne_of_lt bound), pending.known]
  unmade {u} apart unmade := by
    have different : key ≠ .simplified u := fun same => apart (within u same)
    rw [State.Unmade] at unmade
    simp [State.Unmade, Std.HashMap.getElem?_insert, different, unmade]
  frames := id

end State.Spares

namespace State.Leaves

variable {s middle later : State} {es more : List TypeId} {e : TypeId} {r : TypeRecord}

theorem refl (s : State) : s.Leaves [] s := ⟨.refl s, .refl s⟩

theorem trans (first : s.Leaves es middle) (second : middle.Leaves more later) :
    s.Leaves (es ++ more) later :=
  ⟨first.toPreserves.trans second.toPreserves, first.toSpares.trans second.toSpares⟩

theorem weaken (leaves : s.Leaves es later) (within : ∀ e ∈ es, e ∈ more) :
    s.Leaves more later :=
  ⟨leaves.toPreserves, leaves.toSpares.weaken within⟩

/-- What is left alone twice. -/
theorem then_ (first : s.Leaves es middle) (second : middle.Leaves [] later) :
    s.Leaves es later :=
  List.append_nil es ▸ first.trans second

theorem awaits (leaves : s.Leaves es later) (apart : e ∉ es) (awaits : s.Awaits e r) :
    ∃ r', later.Awaits e r' ∧ r.Preserves r' := by
  obtain ⟨r', pending⟩ := leaves.pending apart awaits.toPending
  obtain ⟨r'', known, keeps⟩ := leaves.records awaits.known
  cases pending.known.symm.trans known
  exact ⟨r', ⟨pending, leaves.unmade apart awaits.unmade⟩, keeps⟩

theorem mark (s : State) (e : TypeId) (part : Part) : s.Leaves [e] (s.mark e part) :=
  ⟨.update fun _ _ => ⟨rfl, id, id⟩, .update s e _⟩

/-- A member is made. -/
theorem pushSlot (s : State) (type : Option TypeId) :
    s.Leaves [] { s with slots := s.slots.push type } where
  toPreserves := .ofExtends (.pushSlot s type)
  pending _ pending := ⟨_, pending.known, pending.computed, pending.unknown, pending.idle⟩
  unmade _ := id
  frames := id

/-- There is a new frame. -/
theorem pushFrame (s : State) (env : Env) :
    s.Leaves [] { s with frames := s.frames.push env } where
  toPreserves := .ofExtends (.frames s _)
  pending _ pending := ⟨_, pending.known, pending.computed, pending.unknown, pending.idle⟩
  unmade _ := id
  frames known := by
    obtain ⟨bound, -⟩ := Array.getElem?_eq_some_iff.1 known
    rw [Array.getElem?_push, if_neg (Nat.ne_of_lt bound), known]

/-- A type is made for a key that had none. -/
theorem push {key : Key} {fresh : TypeRecord} (absent : s.interned[key]? = none)
    (idle : fresh.loading = []) (within : ∀ e, key = .simplified e → e ∈ es) :
    s.Leaves es { s with
      interned := s.interned.insert key s.records.size, records := s.records.push fresh } :=
  ⟨.ofExtends (.push absent idle), .push within⟩

end State.Leaves

/-! ## Texts -/

/-- The text of a type can be told, and telling it leaves alone whatever awaits its
computation. -/
def State.Spells (s : State) (t : TypeId) : Prop :=
  ∀ ⦃later : State⦄, s.Preserves later →
    Ensures (· = later) (fun ask => ask.text t) fun _ left => later.Leaves [] left

namespace State.Spells

variable {s later : State} {t : TypeId} {r : TypeRecord}

theorem keeps (spells : s.Spells t) (kept : s.Preserves later) : later.Spells t :=
  fun _ further => spells (kept.trans further)

theorem ofLabel (known : s.records[t]? = some r) {label : String}
    (labelled : r.label = some label) : s.Spells t := by
  intro later kept
  refine (Remembers.text known labelled kept).consequence (fun _ => id) ?_
  rintro _ left ⟨-, rfl⟩
  exact .refl left

/-- A list of types that can be spelled is put into words without touching the state. -/
theorem commaTexts {types : List TypeId} (each : ∀ t ∈ types, s.Spells t)
    (kept : s.Preserves later) :
    Ensures (· = later) (fun ask => ask.commaTexts types) fun _ left => later.Leaves [] left := by
  have texts : Ensures (· = later) (fun ask => types.mapM ask.text)
      fun _ left => later.Leaves [] left := by
    induction types generalizing later with
    | nil => exact .pure fun _ same => same ▸ .refl later
    | cons t rest ih =>
        obtain ⟨first, others⟩ := List.forall_mem_cons.1 each
        simp only [List.mapM_cons]
        refine (first kept).bind fun text => .ofEach fun middle there => ?_
        have kept' := kept.trans there.toPreserves
        refine (ih others kept').bind fun texts => .pure fun left here => ?_
        exact there.then_ here
  exact texts.bind fun _ => .pure fun _ => id

theorem applied (name : String) {types : List TypeId} (each : ∀ t ∈ types, s.Spells t)
    (kept : s.Preserves later) :
    Ensures (· = later) (fun ask => ask.applied name types)
      fun _ left => later.Leaves [] left := by
  cases types with
  | nil => exact .pure fun _ same => same ▸ .refl later
  | cons t rest =>
      exact (commaTexts each kept).bind fun _ => .pure fun _ => id

/-- A text that is found by a rule, as a part of a type: what awaits its computation awaits it
still if it does so after the rule. -/
theorem ensures_loadText (known : s.records[t]? = some r) {find : Ask → CheckM String}
    (found : ∀ ask, Answer.loader? ask t r .text = some (find ask))
    (ensures : Ensures (· = s.mark t .text) find fun _ left => (s.mark t .text).Leaves [] left) :
    Ensures (· = s) (fun ask => Answer.load ask t .text) fun _ left => Spares [] s left := by
  rcases Answer.load_cases (fun _ => throw .exhausted) t .text r with
    ⟨content, there⟩ | ⟨unknown, settled⟩ | ⟨find, unknown, -, -, idle⟩
  · refine Ensures.ofRun ?_
    rintro _ rfl
    exact ⟨_, _, fun _ => Answer.run_load_of_some known there, .refl _⟩
  · refine Ensures.ofRun ?_
    rintro _ rfl
    exact ⟨_, _, fun _ => Answer.run_load_of_settled known unknown settled, .refl _⟩
  · refine (Ensures.loaded known unknown idle found ensures).consequence (fun _ => id) ?_
    rintro _ left ⟨text, inside, rfl, leaves, rfl⟩
    have before : Spares [] s (s.mark t .text) :=
      .update_apart fun _ => ⟨rfl, rfl, List.mem_of_ne_of_mem (by simp)⟩
    have behind : Spares [] inside (inside.unmark t .text) :=
      .update_apart fun _ => ⟨rfl, rfl, List.mem_of_mem_erase⟩
    have kept : Spares [] (inside.unmark t .text)
        ((inside.unmark t .text).keepPart t .text text) :=
      .update_apart fun _ => ⟨rfl, rfl, id⟩
    exact ((before.trans leaves.toSpares).trans behind).trans kept

/-- To put a type into words leaves everything else as it is if to find the words does. -/
theorem ensures_text (known : s.records[t]? = some r) {find : Ask → CheckM String}
    (found : ∀ ask, Answer.loader? ask t r .text = some (find ask))
    (ensures : Ensures (· = s.mark t .text) find fun _ left => (s.mark t .text).Leaves [] left) :
    Ensures (· = s) (fun ask => ask.text t) fun _ left => s.Leaves [] left := by
  have read : Comes (· = s) (fun _ => Check.record t) r := by
    refine Ensures.ofRun ?_
    rintro _ rfl
    refine ⟨r, _, fun _ => ?_, rfl, rfl⟩
    exact Prod.ext (Check.outcome_record_eq_ok.2 known) (Check.after_record t _)
  have told : Ensures (· = s) (fun ask => ask.text t) fun _ left => Spares [] s left := by
    refine Ensures.asked ?_
    simp only [Answer.step, Answer.text]
    refine read.then_ ?_
    cases r.label with
    | some label => exact .pure fun _ same => same ▸ .refl s
    | none =>
        refine (ensures_loadText known found ensures).bind fun result => ?_
        cases result with
        | none => exact .pure fun _ => id
        | some text =>
            refine Ensures.ofRun fun left here => ⟨text, left.keepLabel t text, fun _ => rfl, ?_⟩
            exact here.trans (.update_apart fun _ => ⟨rfl, rfl, id⟩)
  refine (told.growing fun limit => ((Answer.reliable_answer limit).text t).first).consequence
    (fun _ => id) fun _ _ here => ?_
  exact ⟨.ofExtends here.2, here.1⟩

/-- A utility type is spelled with its arguments. -/
theorem utility (known : s.records[t]? = some r) {name : String} (shape : r.shape = .utility name)
    (each : ∀ a ∈ r.args, s.Spells a) : s.Spells t := by
  intro later kept
  obtain ⟨r', known', keeps⟩ := kept.records known
  refine ensures_text known' (fun ask => ?_)
    (applied name each (kept.trans (Leaves.mark later t .text).toPreserves))
  simp only [Answer.loader?, keeps.facts, shape]

end State.Spells

/-! ## Computation at last -/

/-- A computed type has been simplified, in one step. -/
structure State.Came (s : State) (e o : TypeId) (r : TypeRecord) : Prop where
  known : s.records[e]? = some r
  computed : r.category = .computed
  found : r.cache.simplified = some (some o)

namespace State

variable {s later inside left : State} {e o : TypeId} {es : List TypeId} {r : TypeRecord}

theorem Came.keeps (came : s.Came e o r) (kept : s.Preserves later) : ∃ r', later.Came e o r' := by
  obtain ⟨r', known, keeps⟩ := kept.records came.known
  have content : r.cache.get? .simplified = some (some o) := came.found
  exact ⟨r', known, (congrArg TypeFacts.category keeps.facts).trans came.computed,
    keeps.parts content⟩

/-- After a part has been found and kept, nothing is lost that was found meanwhile, and the part is
there. -/
theorem preserves_found (part : Part) (content : part.Content) (known : s.records[e]? = some r)
    (unknown : r.cache.get? part = none) (extended : (s.mark e part).Extends inside) :
    inside.Preserves ((inside.unmark e part).keepPart e part content) ∧
      ∃ r', ((inside.unmark e part).keepPart e part content).records[e]? = some r' ∧
        r'.toTypeFacts = r.toTypeFacts ∧ r'.cache.get? part = some content := by
  have marked : (s.mark e part).records[e]? = some { r with loading := part :: r.loading } := by
    rw [State.mark, Extends.records_update, if_pos rfl, known]
    rfl
  obtain ⟨r', known', grows⟩ := extended.records marked
  have unknown' : r'.cache.get? part = none :=
    (grows.settled (.inl List.mem_cons_self)).trans unknown
  have unmarked : (inside.unmark e part).records[e]? =
      some { r' with loading := r'.loading.erase part } := by
    rw [State.unmark, Extends.records_update, if_pos rfl, known']
    rfl
  have step : inside.Preserves (inside.unmark e part) := .update fun _ _ => ⟨rfl, id, id⟩
  have kept : (inside.unmark e part).Preserves
      ((inside.unmark e part).keepPart e part content) := by
    refine .update fun r'' known'' => ⟨rfl, fun {other found} there => ?_, id⟩
    cases unmarked.symm.trans known''
    have different : other ≠ part := by
      rintro rfl
      cases unknown'.symm.trans there
    rwa [Cache.get?_set_of_ne _ different]
  refine ⟨step.trans kept, { r' with
    cache := r'.cache.set part content, loading := r'.loading.erase part }, ?_, grows.facts,
    Cache.get?_set_self _ content⟩
  rw [State.keepPart, Extends.records_update, if_pos rfl, unmarked]
  rfl

/-- A part that is neither found nor being found is found by its rule while the type is marked, and
is there from then on; nothing is lost that was found meanwhile. -/
theorem ensures_found {part : Part} {find : Ask → CheckM part.Content}
    {inner : part.Content → State → Prop} (known : s.records[e]? = some r)
    (unknown : r.cache.get? part = none) (idle : part ∉ r.loading)
    (found : ∀ ask, Answer.loader? ask e r part = some (find ask))
    (ensures : Ensures (· = s.mark e part) find inner) :
    Ensures (· = s) (fun ask => ask.load? e part) fun result left =>
      ∃ content inside, result = some content ∧ inner content inside ∧
        left = (inside.unmark e part).keepPart e part content ∧ inside.Preserves left ∧
        ∃ r', left.records[e]? = some r' ∧ r'.toTypeFacts = r.toTypeFacts ∧
          r'.cache.get? part = some content := by
  have conservative (limit : Nat) : Conservative (find (answer limit)) :=
    Answer.loader?_isConservative (Answer.reliable_answer limit) e r part _ (found _)
  refine (Ensures.load known unknown idle found
    (ensures.growing conservative)).consequence (fun _ => id) ?_
  rintro _ _ ⟨content, inside, rfl, ⟨here, extended⟩, rfl⟩
  obtain ⟨kept, there⟩ := preserves_found part content known unknown extended
  exact ⟨content, inside, rfl, here, rfl, kept, there⟩

/-- After the step has been taken, apart from the type itself everything is as it was inside. -/
theorem Pending.closes (pending : s.Pending e r) (leaves : (s.mark e .simplified).Leaves es inside)
    (extended : (s.mark e .simplified).Extends inside)
    (after : left = (inside.unmark e .simplified).keepPart e .simplified (some o)) :
    inside.Leaves [e] left ∧ s.Leaves (e :: es) left ∧ ∃ r', left.Came e o r' := by
  subst after
  obtain ⟨kept, r', known, facts, found⟩ :=
    preserves_found .simplified (some o) pending.known pending.unknown extended
  have here : inside.Leaves [e]
      ((inside.unmark e .simplified).keepPart e .simplified (some o)) :=
    ⟨kept, ((Spares.update inside e _).trans (.update _ e _)).weaken (by simp)⟩
  refine ⟨here, (((Leaves.mark s e .simplified).trans leaves).trans here).weaken
    (by simp [or_comm]), ?_⟩
  exact ⟨r', known, (congrArg TypeFacts.category facts).trans pending.computed, found⟩

/-- What one step of computation comes to is what the type has been simplified to from then on. -/
theorem Pending.ensures_leaving (pending : s.Pending e r)
    {rule : Ask → CheckM (Option TypeId)}
    (found : ∀ ask, Answer.loader? ask e r .simplified = some (rule ask))
    (holds : TypeId → State → Prop)
    (stable : ∀ {o : TypeId} {s later : State}, s.Leaves [e] later → holds o s → holds o later)
    (plain : ∀ {o : TypeId} {s : State}, holds o s →
      ∃ r, s.records[o]? = some r ∧ r.category ≠ .computed)
    (ensures : Ensures (· = s.mark e .simplified) rule fun found inside =>
      ∃ o, found = some o ∧ (s.mark e .simplified).Leaves es inside ∧ holds o inside) :
    Ensures (· = s) (fun ask => ask.simplified e) fun found left =>
      ∃ o, found = some o ∧ holds o left ∧ s.Leaves (e :: es) left ∧ ∃ r', left.Came e o r' := by
  have conservative (limit : Nat) : Conservative (rule (answer limit)) :=
    Answer.loader?_isConservative (Answer.reliable_answer limit) e r .simplified _ (found _)
  refine pending.ensures_simplified found (fun here => plain here.1) ?_
  refine (ensures.growing conservative).consequence (fun _ => id) ?_
  rintro _ inside ⟨⟨o, rfl, leaves, there⟩, extended⟩
  obtain ⟨kept, leaves, came⟩ := pending.closes leaves extended rfl
  exact ⟨o, rfl, stable kept there, leaves, came⟩

end State

end TypeGloss
