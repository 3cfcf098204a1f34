/-
# TypeGloss.Proofs.Checker.Memory — what is kept, and every answer with it

Three answers are kept: a part of a type, the text of a type, and the type of a member.
Each is found by a rule that need not find the same again, so it is not by the rule that
the answer is steady. After the question has been answered, the answer is in the state,
and no state that extends this one has another.

If a question came to nothing because the part was being found already, then it is being
found again whenever the question is asked in a state that extends the one at that time.

`reliable_answer` ties the rules together: whatever number of questions may be nested,
every answer that is given is given again.
-/
import TypeGloss.Proofs.Checker.Parts

namespace TypeGloss

set_option autoImplicit false

namespace Answer

variable {ask : Ask} {t : TypeId} {part : Part} {s : State} {r : TypeRecord}

/-! ## Parts -/

/-- A part that is known is not loaded again. -/
theorem run_load_of_some {content : part.Content} (known : s.records[t]? = some r)
    (kept : r.cache.get? part = some content) :
    (load ask t part).run.run s = (.ok (some content), s) := by
  rw [load, run_bind, Check.outcome_record_eq_ok.2 known, Check.after_record]
  simp only [kept]
  rfl

/-- A part that the type does not have, or that is being found, comes to nothing. -/
theorem run_load_of_settled (known : s.records[t]? = some r) (unknown : r.cache.get? part = none)
    (settled : part ∈ r.loading ∨ ¬r.hasPart part) :
    (load ask t part).run.run s = (.ok none, s) := by
  rw [load, run_bind, Check.outcome_record_eq_ok.2 known, Check.after_record]
  simp only [unknown]
  split
  · rfl
  · rename_i find found
    have has : r.hasPart part := by
      rw [TypeRecord.hasPart, isSome_loader? _ 0 ask t rfl part, found]
      rfl
    have loading : r.loading.contains part = true := by
      simpa using settled.resolve_right (not_not_intro has)
    rw [if_pos loading]
    rfl

/-- A part that can be found and is not being found is found while it is marked, and then
kept. -/
theorem run_load_of_find (known : s.records[t]? = some r) (unknown : r.cache.get? part = none)
    {find : CheckM part.Content} (found : loader? ask t r part = some find)
    (idle : part ∉ r.loading) :
    (load ask t part).run.run s =
      match outcome find (s.mark t part) with
      | .ok content =>
          (.ok (some content),
            ((after find (s.mark t part)).unmark t part).keepPart t part content)
      | .error fault => (.error fault, (after find (s.mark t part)).unmark t part) := by
  rw [load, run_bind, Check.outcome_record_eq_ok.2 known, Check.after_record]
  simp only [unknown, found]
  have notLoading : ¬r.loading.contains part = true := by simpa using idle
  have inside : outcome (Check.bracket (.mark t part) (.unmark t part) find) s =
      outcome find (s.mark t part) := rfl
  rw [if_neg notLoading, run_bind, inside]
  cases outcome find (s.mark t part) <;> rfl

/-- Either a part is kept, or it comes to nothing, or it is found. -/
theorem load_cases (ask : Ask) (t : TypeId) (part : Part) (r : TypeRecord) :
    (∃ content, r.cache.get? part = some content) ∨
      (r.cache.get? part = none ∧ (part ∈ r.loading ∨ ¬r.hasPart part)) ∨
      ∃ find, r.cache.get? part = none ∧ loader? ask t r part = some find ∧
        r.hasPart part ∧ part ∉ r.loading := by
  cases kept : r.cache.get? part with
  | some content => exact .inl ⟨content, rfl⟩
  | none =>
      by_cases settled : part ∈ r.loading ∨ ¬r.hasPart part
      · exact .inr (.inl ⟨rfl, settled⟩)
      · obtain ⟨idle, has⟩ := not_or.1 settled
        have found : (loader? ask t r part).isSome = true := by
          rw [isSome_loader? ask t _ 0 rfl part]
          exact Classical.not_not.1 has
        obtain ⟨find, finds⟩ := Option.isSome_iff_exists.1 found
        exact .inr (.inr ⟨find, rfl, finds, Classical.not_not.1 has, idle⟩)

theorem load_conservative (finds : ∀ r, (loader? ask t r part).IsConservative) :
    Conservative (load ask t part) := by
  intro s
  cases known : s.records[t]? with
  | none =>
      rw [load, Check.after_bind_record_of_none known]
      exact .refl s
  | some r =>
      rcases load_cases ask t part r with
        ⟨content, kept⟩ | ⟨unknown, settled⟩ | ⟨find, unknown, found, has, idle⟩
      · rw [after, run_load_of_some known kept]
        exact .refl s
      · rw [after, run_load_of_settled known unknown settled]
        exact .refl s
      · obtain ⟨left, unfound⟩ := State.Extends.of_loading known (finds r find found _)
        rw [after, run_load_of_find known unknown found idle]
        split
        · refine left.update known fun r' known' grows => ?_
          exact grows.setPart unknown ((unfound r' known').trans unknown) has idle _
        · exact left

/-- What a part was found to hold is with the type afterwards. -/
theorem kept_of_load (finds : ∀ r, (loader? ask t r part).IsConservative)
    {content : part.Content} (returned : outcome (load ask t part) s = .ok (some content)) :
    ∃ r', (after (load ask t part) s).records[t]? = some r' ∧
      r'.cache.get? part = some content := by
  obtain ⟨r, recorded, -⟩ := outcome_bind_eq_ok returned
  have known := Check.outcome_record_eq_ok.1 recorded
  rcases load_cases ask t part r with
    ⟨found, kept⟩ | ⟨unknown, settled⟩ | ⟨find, unknown, found, has, idle⟩
  · rw [outcome, run_load_of_some known kept] at returned
    cases returned
    rw [after, run_load_of_some known kept]
    exact ⟨r, known, kept⟩
  · rw [outcome, run_load_of_settled known unknown settled] at returned
    cases returned
  · have inside : (s.mark t part).Extends (after find (s.mark t part)) := finds r find found _
    obtain ⟨r', known', -⟩ := (State.Extends.of_loading known inside).1.records known
    rw [outcome, run_load_of_find known unknown found idle] at returned
    rw [after, run_load_of_find known unknown found idle]
    split at returned
    · cases returned
      refine ⟨{ r' with cache := r'.cache.set part content }, ?_, r'.cache.get?_set_self content⟩
      simp [State.keepPart, State.Extends.records_update, known']
    · cases returned

/-- A part comes to nothing only if the type does not have it or it is being found. -/
theorem settled_of_load (known : s.records[t]? = some r)
    (returned : outcome (load ask t part) s = .ok none) :
    r.cache.get? part = none ∧ (part ∈ r.loading ∨ ¬r.hasPart part) := by
  rcases load_cases ask t part r with
    ⟨found, kept⟩ | ⟨unknown, settled⟩ | ⟨find, unknown, found, has, idle⟩
  · rw [outcome, run_load_of_some known kept] at returned
    cases returned
  · exact ⟨unknown, settled⟩
  · rw [outcome, run_load_of_find known unknown found idle] at returned
    split at returned <;> cases returned

/-- A part that comes to nothing does so again: it is being found still, or is still one
that the type does not have. -/
theorem run_load_of_grows {later : State} {r' : TypeRecord} (known : later.records[t]? = some r')
    (grows : r.Grows r') (unknown : r.cache.get? part = none)
    (settled : part ∈ r.loading ∨ ¬r.hasPart part) :
    (load ask t part).run.run later = (.ok none, later) := by
  refine run_load_of_settled known ((grows.settled settled).trans unknown) ?_
  rwa [grows.loading, TypeRecord.Grows.hasPart_iff grows.facts]

theorem load_steady (finds : ∀ r, (loader? ask t r part).IsConservative) :
    Steady (load ask t part) (load ask t part) where
  first := load_conservative finds
  second := load_conservative finds
  again {s later result} returned extended := by
    cases result with
    | some content =>
        obtain ⟨r', known, kept⟩ := kept_of_load finds returned
        obtain ⟨r'', known', grows⟩ := extended.records known
        rw [outcome, run_load_of_some known' (grows.kept kept)]
    | none =>
        obtain ⟨r, recorded, -⟩ := outcome_bind_eq_ok returned
        have known := Check.outcome_record_eq_ok.1 recorded
        obtain ⟨unknown, settled⟩ := settled_of_load known returned
        rw [after, run_load_of_settled known unknown settled] at extended
        obtain ⟨r', known', grows⟩ := extended.records known
        rw [outcome, run_load_of_grows known' grows unknown settled]

/-! ## Texts -/

theorem run_text_of_some {label : String} (known : s.records[t]? = some r)
    (labelled : r.label = some label) : (text ask t).run.run s = (.ok label, s) := by
  rw [text, run_bind, Check.outcome_record_eq_ok.2 known, Check.after_record]
  simp only [labelled]
  rfl

/-- The text of a type without a label is the part that is its text, which becomes the
label. -/
theorem run_text_of_none (known : s.records[t]? = some r) (unlabelled : r.label = none) :
    (text ask t).run.run s =
      match outcome (load ask t .text) s with
      | .ok (some found) => (.ok found, (after (load ask t .text) s).keepLabel t found)
      | .ok none => (.ok "", after (load ask t .text) s)
      | .error fault => (.error fault, after (load ask t .text) s) := by
  rw [text, run_bind, Check.outcome_record_eq_ok.2 known, Check.after_record]
  simp only [unlabelled]
  rw [run_bind]
  cases outcome (load ask t .text) s with
  | error fault => rfl
  | ok result => cases result <;> rfl

theorem text_conservative (finds : ∀ r, (loader? ask t r .text).IsConservative) :
    Conservative (text ask t) := by
  intro s
  cases known : s.records[t]? with
  | none =>
      rw [text, Check.after_bind_record_of_none known]
      exact .refl s
  | some r =>
      cases labelled : r.label with
      | some label =>
          rw [after, run_text_of_some known labelled]
          exact .refl s
      | none =>
          have loaded := load_conservative finds s
          rw [after, run_text_of_none known labelled]
          split
          · rename_i found returned
            obtain ⟨r', known', kept⟩ := kept_of_load finds returned
            refine loaded.update known fun other known'' grows => ?_
            obtain rfl : r' = other := Option.some.inj (known'.symm.trans known'')
            exact grows.setLabel labelled kept
          · exact loaded
          · exact loaded

/-- What the text of a type was found to be: it is the label, or there is no text to be found. -/
inductive IsText (r : TypeRecord) : String → Prop where
  | label {label : String} (labelled : r.label = some label) : IsText r label
  | absent (unlabelled : r.label = none) (unknown : r.cache.get? .text = none)
      (settled : Part.text ∈ r.loading ∨ ¬r.hasPart .text) : IsText r ""

theorem IsText.grows {r' : TypeRecord} {label : String} (found : IsText r label)
    (grows : r.Grows r') : IsText r' label := by
  cases found with
  | label labelled => exact .label (grows.labelled labelled)
  | absent unlabelled unknown settled =>
      have untold : r'.cache.get? .text = none := (grows.settled settled).trans unknown
      refine .absent ?_ untold ?_
      · -- There is no label, because there is no text that could have become one.
        rcases grows.label with same | ⟨-, found⟩
        · rw [same, unlabelled]
        · exact found.trans untold
      · rwa [grows.loading, TypeRecord.Grows.hasPart_iff grows.facts]

theorem run_text_of_isText {label : String} (known : s.records[t]? = some r)
    (found : IsText r label) : (text ask t).run.run s = (.ok label, s) := by
  cases found with
  | label labelled => exact run_text_of_some known labelled
  | absent unlabelled unknown settled =>
      rw [run_text_of_none known unlabelled, outcome, after,
        run_load_of_settled known unknown settled]

/-- A text that was returned is kept as the text of its type. -/
theorem isText_of_text (finds : ∀ r, (loader? ask t r .text).IsConservative) {label : String}
    (returned : outcome (text ask t) s = .ok label) :
    ∃ r', (after (text ask t) s).records[t]? = some r' ∧ IsText r' label := by
  obtain ⟨r, recorded, -⟩ := outcome_bind_eq_ok returned
  have known := Check.outcome_record_eq_ok.1 recorded
  cases labelled : r.label with
  | some old =>
      rw [outcome, run_text_of_some known labelled] at returned
      cases returned
      rw [after, run_text_of_some known labelled]
      exact ⟨r, known, .label labelled⟩
  | none =>
      rw [outcome, run_text_of_none known labelled] at returned
      rw [after, run_text_of_none known labelled]
      split at returned
      · rename_i found loaded
        cases returned
        obtain ⟨r', known', -⟩ := kept_of_load finds loaded
        refine ⟨{ r' with label := some label }, ?_, .label rfl⟩
        simp [State.keepLabel, State.Extends.records_update, known']
      · rename_i loaded
        cases returned
        obtain ⟨unknown, settled⟩ := settled_of_load known loaded
        rw [after, run_load_of_settled known unknown settled]
        exact ⟨r, known, .absent labelled unknown settled⟩
      · cases returned

theorem text_steady (finds : ∀ r, (loader? ask t r .text).IsConservative) :
    Steady (text ask t) (text ask t) where
  first := text_conservative finds
  second := text_conservative finds
  again {s later result} returned extended := by
    obtain ⟨r, known, found⟩ := isText_of_text finds returned
    obtain ⟨r', known', grows⟩ := extended.records known
    rw [outcome, run_text_of_isText known' (found.grows grows)]

end Answer

/-! ## Types of members -/

namespace Inference

variable {ask : Ask} {s : State}

theorem outcome_slotType (slot : Nat) (s : State) :
    outcome (Check.slotType slot) s =
      match s.slots[slot]? with
      | some known => .ok known
      | none => .error .foreignHandle := by
  change outcome (match s.slots[slot]? with
    | some type => pure type
    | none => throw .foreignHandle : CheckM (Option TypeId)) s = _
  split <;> rfl

theorem after_slotType (slot : Nat) (s : State) : after (Check.slotType slot) s = s := by
  change after (match s.slots[slot]? with
    | some type => pure type
    | none => throw .foreignHandle : CheckM (Option TypeId)) s = s
  split <;> rfl

theorem memberType_conservative (reliable : Reliable ask) (symbol : Symbol) (member : Member) :
    Conservative (memberType ask symbol member) :=
  (Check.upToDate_conservative member.place).bind fun place =>
    (memberAt_steady reliable symbol place 0 member.nodes).first

section Slots

variable {symbol : Symbol} {member : Member}

/-- The type of a symbol whose slot is of another checker is refused. -/
theorem run_symbolType_of_foreign (isMember : symbol.member = some member)
    (unknown : s.slots[member.slot]? = none) :
    (symbolType ask symbol).run.run s = (.error .foreignHandle, s) := by
  have foreign : outcome (Check.slotType member.slot) s = .error .foreignHandle := by
    rw [outcome_slotType, unknown]
  simp only [symbolType, isMember]
  rw [run_bind, foreign, after_slotType]

/-- The type of a symbol that was found is not asked for again. -/
theorem run_symbolType_of_some (isMember : symbol.member = some member) {t : TypeId}
    (known : s.slots[member.slot]? = some (some t)) :
    (symbolType ask symbol).run.run s = (.ok t, s) := by
  have found : outcome (Check.slotType member.slot) s = .ok (some t) := by
    rw [outcome_slotType, known]
  simp only [symbolType, isMember]
  rw [run_bind, found, after_slotType]
  rfl

/-- The type of a symbol is found once, and its slot keeps it. -/
theorem run_symbolType_of_none (isMember : symbol.member = some member)
    (unset : s.slots[member.slot]? = some none) :
    (symbolType ask symbol).run.run s =
      match outcome (memberType ask symbol member) s with
      | .ok t =>
          let found := after (memberType ask symbol member) s
          (.ok t, { found with slots := found.slots.setIfInBounds member.slot (some t) })
      | .error fault => (.error fault, after (memberType ask symbol member) s) := by
  have found : outcome (Check.slotType member.slot) s = .ok none := by
    rw [outcome_slotType, unset]
  simp only [symbolType, isMember]
  rw [run_bind, found, after_slotType]
  simp only
  rw [run_bind]
  cases outcome (memberType ask symbol member) s <;> rfl

theorem symbolType_conservative_of_member (reliable : Reliable ask)
    (isMember : symbol.member = some member) : Conservative (symbolType ask symbol) := by
  intro s
  cases slot : s.slots[member.slot]? with
  | none =>
      rw [after, run_symbolType_of_foreign isMember slot]
      exact .refl s
  | some known =>
      cases known with
      | some t =>
          rw [after, run_symbolType_of_some isMember slot]
          exact .refl s
      | none =>
          have found := memberType_conservative reliable symbol member s
          rw [after, run_symbolType_of_none isMember slot]
          split
          · exact found.setSlot slot _
          · exact found

/-- The type that was found for a member is in its slot afterwards. -/
theorem slot_of_symbolType (reliable : Reliable ask) (isMember : symbol.member = some member)
    {t : TypeId} (returned : outcome (symbolType ask symbol) s = .ok t) :
    (after (symbolType ask symbol) s).slots[member.slot]? = some (some t) := by
  cases slot : s.slots[member.slot]? with
  | none =>
      rw [outcome, run_symbolType_of_foreign isMember slot] at returned
      cases returned
  | some known =>
      cases known with
      | some u =>
          rw [outcome, run_symbolType_of_some isMember slot] at returned
          cases returned
          rw [after, run_symbolType_of_some isMember slot, slot]
      | none =>
          obtain ⟨bound, -⟩ := Array.getElem?_eq_some_iff.1 slot
          have grown := (memberType_conservative reliable symbol member s).slotCount
          rw [outcome, run_symbolType_of_none isMember slot] at returned
          rw [after, run_symbolType_of_none isMember slot]
          split at returned
          · rename_i found
            cases returned
            exact Array.getElem?_setIfInBounds_self_of_lt (Nat.lt_of_lt_of_le bound grown)
          · cases returned

end Slots

theorem symbolType_steady (reliable : Reliable ask) (symbol : Symbol) :
    Steady (symbolType ask symbol) (symbolType ask symbol) := by
  cases isMember : symbol.member with
  | some member =>
      refine ⟨symbolType_conservative_of_member reliable isMember,
        symbolType_conservative_of_member reliable isMember, fun returned extended => ?_⟩
      have kept := extended.slots (slot_of_symbolType reliable isMember returned)
      rw [outcome, run_symbolType_of_some isMember kept]
  | none =>
      simp only [symbolType, isMember]
      split
      · split
        · exact reliable.ofDeclaration _
        · exact Check.any_steady
      · exact Check.any_steady

end Inference

/-! ## All questions -/

namespace Answer

theorem step_reliable {ask : Ask} (reliable : Reliable ask) : Reliable (step ask) where
  steady query := by
    cases query with
    | typeAt node place via => exact TypeSyntax.ofNode_steady reliable node place place.frame via
    | declared source bindings args =>
        exact Reference.declared_steady reliable source bindings args
    | ofDeclaration declaration => exact Inference.declarationType_steady reliable declaration
    | ofSymbol symbol => exact Inference.symbolType_steady reliable symbol
    | ofExpression node place literal frozen =>
        exact Inference.expression_steady reliable node place place.frame literal frozen
    | text t => exact text_steady fun r => loader?_isConservative reliable t r .text
    | load t part => exact load_steady fun r => loader?_isConservative reliable t r part
    | simplified t => exact Structure.simplifiedIn_steady reliable Structure.maxSteps t
    | properties t => exact Structure.properties_steady reliable t
    | indexes t => exact Structure.indexes_steady reliable t
    | assignable source target => exact Assignability.assignable_steady reliable source target
    | fits candidate pattern place inferred =>
        exact Conditional.fits_steady reliable candidate pattern place place.frame inferred
  typeThrough via node place frame := TypeSyntax.ofNode_steady reliable node place frame via
  ofExpression node place frame literal frozen :=
    Inference.expression_steady reliable node place frame literal frozen
  fits candidate pattern place frame inferred :=
    Conditional.fits_steady reliable candidate pattern place frame inferred

/-- Every answer that is given is given again, however many questions may be nested. -/
theorem reliable_answer (depth : Nat) : Reliable (answer depth) := by
  induction depth with
  | zero =>
      exact ⟨fun _ => .throw _, fun _ _ _ _ => .throw _, fun _ _ _ _ _ => .throw _,
        fun _ _ _ _ _ => .throw _⟩
  | succ depth ih => exact step_reliable ih

theorem reliable_ask : Reliable ask := reliable_answer maxDepth

end Answer

end TypeGloss
