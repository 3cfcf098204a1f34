/-
# TypeGloss.Proofs.Checker.Settling — questions that nest finitely deep

A question is answered by a rule, the rule asks further questions, and nothing keeps these
from nesting without end. A rule *settles* if there is a depth such that, whatever would be
answered to questions that are nested deeper, it comes to the same result: so none of these
is ever asked. It then comes to this result with every greater limit on the nesting, and so
does a checker without any (`Settles.answer`).

Doing one thing after another settles if each of them does. Here this is shown of what all
rules are made of, and of texts: the text of a type is not asked for again while it is being
found, and as long as no type is a function or an object whose members have yet to be
inferred, finding it makes no types, so it can be asked for at most once for each type there
is.
-/
import TypeGloss.Proofs.Checker.Memory
import Mathlib.Data.List.Forall2

namespace TypeGloss

set_option autoImplicit false

namespace Answer

/-- The answers to queries in which fewer than the given number of queries are nested; those
that are nested deeper are answered by others. -/
def answerOver (beyond : Ask) : Nat → Ask
  | 0 => beyond
  | depth + 1 => step (answerOver beyond depth)

theorem answerOver_exhausted (depth : Nat) :
    answerOver (fun _ => throw .exhausted) depth = answer depth := by
  induction depth with
  | zero => rfl
  | succ depth ih => exact congrArg step ih

theorem answerOver_add (beyond : Ask) (depth more : Nat) :
    answerOver beyond (depth + more) = answerOver (answerOver beyond more) depth := by
  induction depth with
  | zero => rw [Nat.zero_add, answerOver]
  | succ depth ih => rw [Nat.succ_add, answerOver, answerOver, ih]

end Answer

open Answer (answerOver)

/-- Where a property of states holds, a rule comes to a result without asking anything that is
nested too deeply, and the property holds of the state that is left. -/
def Settles {α : Type} (I : State → Prop) (P : α → Prop) (rule : Ask → CheckM α) : Prop :=
  ∀ ⦃s : State⦄, I s → ∃ (depth : Nat) (result : Result α) (left : State), I left ∧
    (∀ a, result = .ok a → P a) ∧
      ∀ beyond, (rule (answerOver beyond depth)).run.run s = (result, left)

namespace Settles

variable {α β : Type} {I : State → Prop} {P : α → Prop} {Q : β → Prop} {rule : Ask → CheckM α}

/-- A rule that settles comes to its result with every limit that is great enough. -/
theorem answer (settles : Settles I P rule) {s : State} (holds : I s) :
    ∃ (depth : Nat) (result : Result α × State),
      (∀ beyond, (rule (answerOver beyond depth)).run.run s = result) ∧
        ∀ limit, depth ≤ limit → (rule (Answer.answer limit)).run.run s = result := by
  obtain ⟨depth, result, left, -, -, run⟩ := settles holds
  refine ⟨depth, (result, left), run, fun limit enough => ?_⟩
  obtain ⟨more, rfl⟩ := Nat.exists_eq_add_of_le enough
  rw [← Answer.answerOver_exhausted, Answer.answerOver_add]
  exact run _

theorem weaken {P' : α → Prop} (settles : Settles I P rule) (weaker : ∀ a, P a → P' a) :
    Settles I P' rule := by
  intro s holds
  obtain ⟨depth, result, left, kept, returned, run⟩ := settles holds
  exact ⟨depth, result, left, kept, fun a ok => weaker a (returned a ok), run⟩

/-- A computation that asks nothing. -/
theorem ofRun {x : CheckM α}
    (kept : ∀ s, I s → I (after x s) ∧ ∀ a, outcome x s = .ok a → P a) :
    Settles I P fun _ => x :=
  fun s holds => ⟨0, outcome x s, after x s, (kept s holds).1, (kept s holds).2, fun _ => rfl⟩

theorem done {a : α} (holds : P a) : Settles I P fun _ => pure a :=
  ofRun fun _ kept => ⟨kept, fun _ returned => Except.ok.inj returned ▸ holds⟩

theorem failed (fault : Fault) : Settles I P fun _ => throw fault :=
  ofRun fun _ kept => ⟨kept, fun _ returned => by cases returned⟩

theorem bind {f : Ask → α → CheckM β} (first : Settles I P rule)
    (rest : ∀ a, P a → Settles I Q fun ask => f ask a) :
    Settles I Q fun ask => rule ask >>= f ask := by
  intro s holds
  obtain ⟨depth, result, left, kept, returned, run⟩ := first holds
  cases result with
  | error fault =>
      refine ⟨depth, .error fault, left, kept, fun b ok => (by cases ok), fun beyond => ?_⟩
      rw [run_bind, outcome, after, run]
  | ok a =>
      obtain ⟨depth', result', left', kept', returned', run'⟩ := rest a (returned a rfl) kept
      refine ⟨depth + depth', result', left', kept', returned', fun beyond => ?_⟩
      have before := run (answerOver beyond depth')
      rw [← Answer.answerOver_add] at before
      have behind := run' (answerOver beyond depth)
      rw [← Answer.answerOver_add, Nat.add_comm] at behind
      rw [run_bind, outcome, after, before]
      exact behind

/-- A question settles if the rule does by which it is answered. -/
theorem asked {q : Query} {P : q.Answer → Prop}
    (settles : Settles I P fun ask => Answer.step ask q) : Settles I P fun ask => ask q := by
  intro s holds
  obtain ⟨depth, result, left, kept, returned, run⟩ := settles holds
  exact ⟨depth + 1, result, left, kept, returned, run⟩

/-- A list of questions settles if each does, and the answers are related to the items. -/
theorem mapM {R : α → β → Prop} {f : Ask → α → CheckM β} {items : List α}
    (each : ∀ a ∈ items, Settles I (R a) fun ask => f ask a) :
    Settles I (List.Forall₂ R items) fun ask => items.mapM (f ask) := by
  induction items with
  | nil =>
      simp only [List.mapM_nil]
      exact done .nil
  | cons item rest ih =>
      simp only [List.mapM_cons]
      refine (each item List.mem_cons_self).bind fun b first => ?_
      refine (ih fun a among => each a (List.mem_cons_of_mem _ among)).bind fun bs later => ?_
      exact done (.cons first later)

/-- A fold settles if each of its steps does, whatever it starts from. -/
theorem foldlM {f : Ask → β → α → CheckM β} {items : List α}
    (each : ∀ b, ∀ a ∈ items, Settles I (fun _ => True) fun ask => f ask b a) (start : β) :
    Settles I (fun _ => True) fun ask => items.foldlM (f ask) start := by
  induction items generalizing start with
  | nil => exact done trivial
  | cons item rest ih =>
      simp only [List.foldlM_cons]
      refine (each start item List.mem_cons_self).bind fun b _ => ?_
      exact ih (fun b a among => each b a (List.mem_cons_of_mem _ among)) b

/-- A choice settles if the branch that is taken does. -/
theorem ite {condition : Prop} [Decidable condition] {other : Ask → CheckM α}
    (yes : condition → Settles I P rule) (no : ¬condition → Settles I P other) :
    Settles I P fun ask => if condition then rule ask else other ask := by
  by_cases holds : condition
  · simp only [if_pos holds]
    exact yes holds
  · simp only [if_neg holds]
    exact no holds

end Settles

/-! ## What the rules are made of -/

namespace Check

variable {α : Type} {I : State → Prop}

theorem ofResult_settles (result : Result α) :
    Settles I (fun _ => True) fun _ => ofResult result := by
  cases result with
  | error fault => exact .failed fault
  | ok a => exact .done trivial

theorem need_settles (part : Option α) :
    Settles I (fun a => part = some a) fun _ => need part := by
  cases part with
  | none => exact .failed _
  | some a => exact .done rfl

theorem needFirst_settles (items : List α) :
    Settles I (fun a => a ∈ items.head?) fun _ => needFirst items := by
  cases items with
  | nil => exact .failed _
  | cons a rest => exact .done rfl

theorem complete_settles (place : Place) :
    Settles I (fun _ => place.blanks = []) fun _ => complete place := by
  unfold complete
  split
  · next empty => exact .done (List.isEmpty_iff.1 empty)
  · exact .failed _

theorem program_settles {program : Program} (same : ∀ s, I s → s.toProgram = program) :
    Settles I (fun read => read = program) fun _ => Check.program :=
  .ofRun fun s kept => ⟨kept, fun _ returned => (Except.ok.inj returned).symm.trans (same s kept)⟩

theorem scopeOf_settles (source : Source) :
    Settles I (fun scope => source.scope = .ok scope) fun _ => scopeOf source := by
  unfold scopeOf
  cases source.scope with
  | error fault => exact .failed fault
  | ok scope => exact .done rfl

theorem checkSyntax_settles (node : Cursor) (source : Source) :
    Settles I (fun _ => True) fun _ => checkSyntax node source := by
  unfold checkSyntax
  cases node.focus.findError with
  | none => exact .done trivial
  | some error => exact .failed _

theorem facts_settles (t : TypeId) : Settles I (fun _ => True) fun _ => facts t := by
  refine .ofRun fun s kept => ⟨?_, fun _ _ => trivial⟩
  have unchanged : after (facts t) s = s := by
    cases found : outcome (record t) s with
    | error fault => rw [facts, after_bind_error found, after_record]
    | ok r => rw [facts, after_bind_ok found, after_record]; rfl
  rwa [unchanged]

theorem upToDate_settles (place : Place) :
    Settles I (fun next => next.source = place.source) fun _ => upToDate place :=
  .ofRun fun _ kept => ⟨kept, fun _ returned => Except.ok.inj returned ▸ rfl⟩

end Check

/-! ## Texts -/

/-- Is a type one whose text is written from members that have yet to be inferred? -/
def Shape.isInferred : Shape → Bool
  | function _ => true
  | objectLiteral _ => true
  | _ => false

/-- No type is one whose members have yet to be inferred. -/
def State.IsWritten (s : State) : Prop :=
  ∀ ⦃t : TypeId⦄ ⦃r : TypeRecord⦄, s.records[t]? = some r → r.shape.isInferred = false

/-- What does not change when something is kept about a type. -/
def TypeRecord.marks (r : TypeRecord) : Shape × List Part := (r.shape, r.loading)

/-- Nothing but what is kept about types differs. -/
structure State.Reworded (s s' : State) : Prop where
  program : s'.toProgram = s.toProgram
  expanding : s'.expanding = s.expanding
  records : ∀ t : TypeId, s'.records[t]?.map TypeRecord.marks = s.records[t]?.map TypeRecord.marks

namespace State.Reworded

variable {s s' : State}

theorem refl (s : State) : s.Reworded s := ⟨rfl, rfl, fun _ => rfl⟩

/-- A record that was there is there, with the same shape and the same parts being found. -/
theorem record {t : TypeId} {r' : TypeRecord} (reworded : s.Reworded s')
    (known : s'.records[t]? = some r') :
    ∃ r, s.records[t]? = some r ∧ r'.shape = r.shape ∧ r'.loading = r.loading := by
  have same := reworded.records t
  rw [known, Option.map_some, eq_comm, Option.map_eq_some_iff] at same
  obtain ⟨r, found, marks⟩ := same
  exact ⟨r, found, (congrArg Prod.fst marks).symm, (congrArg Prod.snd marks).symm⟩

theorem isWritten (reworded : s.Reworded s') (written : s.IsWritten) : s'.IsWritten := by
  intro t r' known
  obtain ⟨r, found, shape, -⟩ := reworded.record known
  rw [shape]
  exact written found

theorem update (reworded : s.Reworded s') (t : TypeId) {f : TypeRecord → TypeRecord}
    (same : ∀ r, (f r).marks = r.marks) : s.Reworded (s'.update t f) where
  program := reworded.program
  expanding := reworded.expanding
  records u := by
    rw [← reworded.records u, State.Extends.records_update]
    split
    · cases s'.records[u]? with
      | none => rfl
      | some r => exact congrArg some (same r)
    · rfl

end State.Reworded

/-- The texts of all types can be found. -/
def TextsSettle (I : State → Prop) : Prop :=
  ∀ t, Settles I (fun _ => True) fun ask => ask.text t

namespace TextsSettle

variable {I : State → Prop} (texts : TextsSettle I)

include texts

theorem list (types : List TypeId) :
    Settles I (fun _ => True) fun ask => types.mapM ask.text :=
  (Settles.mapM fun t _ => texts t).weaken fun _ _ => trivial

theorem commaTexts (types : List TypeId) :
    Settles I (fun _ => True) fun ask => ask.commaTexts types :=
  (texts.list types).bind fun _ _ => .done trivial

theorem applied (name : String) (args : List TypeId) :
    Settles I (fun _ => True) fun ask => ask.applied name args := by
  unfold Ask.applied
  refine .ite (fun _ => .done trivial) fun _ => ?_
  exact (texts.commaTexts args).bind fun _ _ => .done trivial

theorem aliasText? (via : Option AliasRef) :
    Settles I (fun _ => True) fun ask => ask.aliasText? via := by
  cases via with
  | none => exact .done trivial
  | some ref =>
      unfold Ask.aliasText?
      simp only [Option.mapM_some, map_eq_pure_bind]
      exact (texts.applied ref.binding.name ref.args).bind fun _ _ => .done trivial

theorem joined (separator : String) (types : List TypeId) :
    Settles I (fun _ => True) fun ask => Answer.joined ask separator types :=
  (texts.list types).bind fun _ _ => .done trivial

theorem node (place : Place) (at_ : Cursor) :
    Settles I (fun _ => True) fun ask => Render.node ask place at_ := by
  have unfolded (ask : Ask) := Render.node.eq_1 ask place at_
  simp only [unfolded]
  refine .ite (fun _ => .done trivial) fun _ => ?_
  refine .ite (fun _ => (Check.ofResult_settles _).bind fun _ _ => .done trivial) fun _ => ?_
  refine .ite (fun _ => ?_) fun _ => .ite (fun _ => ?_) fun _ => .ite (fun _ => ?_) fun _ => ?_
  · cases Entries.find? at_.text place.env with
    | none => exact .done trivial
    | some bound => exact texts bound
  · have inner (element : Cursor) (isPart : element ∈ at_.parts) :
        Settles I (fun _ => True) fun ask => Render.node ask place element.unwrapParens := by
      have bound := Cursor.sizeOf_unwrapParens_le element
      have part := Cursor.sizeOf_lt_of_mem_parts isPart
      exact node place element.unwrapParens
    revert inner
    generalize at_.parts = parts
    intro inner
    cases parts with
    | nil => exact .failed _
    | cons element rest =>
        exact (inner element List.mem_cons_self).bind fun _ _ => .done trivial
  · refine (Settles.mapM (R := fun _ _ => True) fun member _ => ?_).bind fun _ _ => .done trivial
    obtain ⟨member, isPart⟩ := member
    have part := Cursor.sizeOf_lt_of_mem_parts isPart
    exact (node place member).bind fun _ _ => .done trivial
  · refine .ite (fun _ => .done trivial) fun _ => ?_
    refine (Settles.foldlM (fun written child _ => ?_) _).bind fun _ _ => .done trivial
    obtain ⟨child, isChild⟩ := child
    have part := Cursor.sizeOf_lt_of_mem_children isChild
    exact (node place child).bind fun _ _ => .done trivial
termination_by sizeOf at_.focus

theorem render (at_ : Cursor) (place : Place) :
    Settles I (fun _ => True) fun ask => Render.render ask at_ place :=
  (texts.node place at_).bind fun _ _ => .done trivial

end TextsSettle

/-! ### The text of a type -/

namespace Answer

variable {I : State → Prop}

theorem syntaxOf_settles (r : TypeFacts) :
    Settles I (fun read => ∃ place, r.place = some place ∧ read.2.source = place.source)
      fun _ => syntaxOf r := by
  refine (Check.need_settles r.node).bind fun node _ => ?_
  refine (Check.need_settles r.place).bind fun place placed => ?_
  exact (Check.upToDate_settles place).bind fun next same => .done ⟨place, placed, same⟩

/-- The text of a type is not told by a rule, or by one that settles where texts do. -/
theorem text_loader_settles (texts : TextsSettle I) (t : TypeId) (r : TypeRecord)
    (written : r.shape.isInferred = false) :
    (∀ ask, loader? ask t r .text = none) ∨
      ∃ rule, (∀ ask, loader? ask t r .text = some (rule ask)) ∧
        Settles I (fun _ => True) rule := by
  unfold loader?
  cases shape : r.shape with
  | plain => exact .inl fun _ => rfl
  | writtenArray => exact .inl fun _ => rfl
  | classExpression => exact .inl fun _ => rfl
  | function nodes => simp [shape, Shape.isInferred] at written
  | objectLiteral frozen => simp [shape, Shape.isInferred] at written
  | array =>
      refine .inr ⟨_, fun _ => rfl, ?_⟩
      refine (Check.need_settles r.cache.element).bind fun element _ => ?_
      exact (texts element).bind fun _ _ => .done trivial
  | generic => exact .inr ⟨_, fun _ => rfl, texts.applied _ r.args⟩
  | union => exact .inr ⟨_, fun _ => rfl, texts.joined " | " _⟩
  | written =>
      refine .inr ⟨_, fun _ => rfl, ?_⟩
      exact (syntaxOf_settles r.toTypeFacts).bind fun read _ => texts.render read.1 read.2
  | utility name => exact .inr ⟨_, fun _ => rfl, texts.applied name r.args⟩
  | declared => exact .inr ⟨_, fun _ => rfl, texts.applied _ r.args⟩
  | frozenTuple =>
      refine .inr ⟨_, fun _ => rfl, ?_⟩
      exact (texts.joined ", " _).bind fun _ _ => .done trivial

end Answer

/-- All types whose texts are not being found are among the given ones. -/
def State.TextsAmong (s : State) (types : List TypeId) : Prop :=
  ∀ ⦃t : TypeId⦄ ⦃r : TypeRecord⦄, s.records[t]? = some r → .text ∉ r.loading → t ∈ types

section Marking

variable {s s' : State} {t : TypeId} {r : TypeRecord}

theorem State.IsWritten.mark (written : s.IsWritten) (t : TypeId) (part : Part) :
    (s.mark t part).IsWritten := by
  intro u r' known
  rw [State.mark, State.Extends.records_update] at known
  split at known
  · obtain ⟨r, found, marked⟩ := Option.map_eq_some_iff.1 known
    have same : r'.shape = r.shape := by rw [← marked]
    rw [same]
    exact written found
  · exact written known

theorem State.TextsAmong.mark {types : List TypeId} (among : s.TextsAmong types) (t : TypeId) :
    (s.mark t .text).TextsAmong (types.erase t) := by
  intro u r' known idle
  rw [State.mark, State.Extends.records_update] at known
  split at known
  · obtain ⟨r, found, rfl⟩ := Option.map_eq_some_iff.1 known
    exact absurd List.mem_cons_self idle
  · next other => exact (List.mem_erase_of_ne (Ne.symm other)).2 (among known idle)

/-- What was found while a part was marked is kept when the mark is taken away. -/
theorem State.Reworded.unmark {part : Part} {left : State} (reworded : s.Reworded s')
    (inside : (s'.mark t part).Reworded left) : s.Reworded (left.unmark t part) where
  program := inside.program.trans reworded.program
  expanding := inside.expanding.trans reworded.expanding
  records u := by
    have same := inside.records u
    rw [State.mark, State.Extends.records_update] at same
    rw [← reworded.records u, State.unmark, State.Extends.records_update]
    split
    · next this =>
        rw [if_pos this] at same
        cases found : s'.records[u]? with
        | none =>
            rw [found] at same
            rw [Option.map_eq_none_iff.1 same]
            rfl
        | some r =>
            rw [found, Option.map_some, Option.map_some, Option.map_eq_some_iff] at same
            obtain ⟨r', found', marks⟩ := same
            have shape := congrArg Prod.fst marks
            have loading := congrArg Prod.snd marks
            simp only [TypeRecord.marks] at shape loading
            simp [found', TypeRecord.marks, shape, loading]
    · next other => rwa [if_neg other] at same

end Marking

namespace Answer

variable {s s' : State}

theorem run_load_of_unknown {t : TypeId} (unknown : s.records[t]? = none) (ask : Ask) (part : Part) :
    (load ask t part).run.run s = (.error .foreignHandle, s) := by
  have foreign : outcome (Check.record t) s = .error .foreignHandle := by
    rw [Check.outcome_record, unknown]
  rw [load, run_bind, foreign, Check.after_record]

/-- A part settles if the rule does by which it is found while it is marked. -/
theorem load_settles {t : TypeId} {part : Part}
    (finds : ∀ {s' r}, s.Reworded s' → s'.records[t]? = some r → part ∉ r.loading →
      (∀ ask, loader? ask t r part = none) ∨
        ∃ rule, (∀ ask, loader? ask t r part = some (rule ask)) ∧
          Settles (s'.mark t part).Reworded (fun _ => True) rule) :
    Settles s.Reworded (fun _ => True) fun ask => load ask t part := by
  intro s' reworded
  cases known : s'.records[t]? with
  | none =>
      exact ⟨0, _, s', reworded, fun _ _ => trivial, fun _ => run_load_of_unknown known _ part⟩
  | some r =>
      cases kept : r.cache.get? part with
      | some content =>
          exact ⟨0, _, s', reworded, fun _ _ => trivial, fun _ => run_load_of_some known kept⟩
      | none =>
          by_cases loading : part ∈ r.loading
          · exact ⟨0, _, s', reworded, fun _ _ => trivial,
              fun _ => run_load_of_settled known kept (.inl loading)⟩
          · rcases finds reworded known loading with missing | ⟨rule, found, settles⟩
            · have without : ¬r.hasPart part := by
                rw [TypeRecord.hasPart, isSome_loader? _ 0 (fun _ => throw .exhausted) t rfl part,
                  missing]
                exact Bool.false_ne_true
              exact ⟨0, _, s', reworded, fun _ _ => trivial,
                fun _ => run_load_of_settled known kept (.inr without)⟩
            · obtain ⟨depth, result, left, inside, -, run⟩ := settles (.refl _)
              have back := reworded.unmark inside
              have ends (beyond : Ask) :=
                run_load_of_find known kept (found (answerOver beyond depth)) loading
              simp only [outcome, after, run] at ends
              cases result with
              | error fault => exact ⟨depth, _, _, back, fun _ _ => trivial, ends⟩
              | ok content =>
                  have kept : s.Reworded ((left.unmark t part).keepPart t part content) :=
                    back.update t fun _ => rfl
                  exact ⟨depth, _, _, kept, fun _ _ => trivial, ends⟩

theorem run_text_of_unknown {t : TypeId} (unknown : s.records[t]? = none) (ask : Ask) :
    (text ask t).run.run s = (.error .foreignHandle, s) := by
  have foreign : outcome (Check.record t) s = .error .foreignHandle := by
    rw [Check.outcome_record, unknown]
  rw [text, run_bind, foreign, Check.after_record]

theorem text_settles {t : TypeId}
    (loads : Settles s.Reworded (fun _ => True) fun ask => load ask t .text) :
    Settles s.Reworded (fun _ => True) fun ask => text ask t := by
  intro s' reworded
  cases known : s'.records[t]? with
  | none => exact ⟨0, _, s', reworded, fun _ _ => trivial, fun _ => run_text_of_unknown known _⟩
  | some r =>
      cases label : r.label with
      | some label =>
          exact ⟨0, _, s', reworded, fun _ _ => trivial, fun _ => run_text_of_some known ‹_›⟩
      | none =>
          obtain ⟨depth, result, left, kept, -, run⟩ := loads reworded
          have ends (beyond : Ask) :=
            @run_text_of_none (answerOver beyond depth) t s' r known label
          simp only [outcome, after, run] at ends
          cases result with
          | error fault => exact ⟨depth, _, left, kept, fun _ _ => trivial, ends⟩
          | ok found =>
              cases found with
              | none => exact ⟨depth, _, left, kept, fun _ _ => trivial, ends⟩
              | some found =>
                  have labelled : s.Reworded (left.keepLabel t found) := kept.update t fun _ => rfl
                  exact ⟨depth, _, _, labelled, fun _ _ => trivial, ends⟩

/-- The texts of all types settle, because each is asked for at most once inside itself. -/
theorem texts_settle {s : State} (written : s.IsWritten) (types : List TypeId)
    (among : s.TextsAmong types) : TextsSettle s.Reworded := by
  intro t
  refine Settles.asked (q := .text t) ?_
  refine text_settles (load_settles fun {s' r} reworded known idle => ?_)
  -- While the text is being found, one type fewer is left whose text is not.
  have written' := reworded.isWritten written
  have among' : s'.TextsAmong types := by
    intro u r' known' idle'
    obtain ⟨r, found, -, loading⟩ := reworded.record known'
    exact among found (loading ▸ idle')
  have fewer : (types.erase t).length < types.length :=
    List.length_erase_of_mem (among' known idle) ▸
      Nat.sub_lt (List.length_pos_of_mem (among' known idle)) Nat.one_pos
  have inside := texts_settle (written'.mark t .text) (types.erase t) (among'.mark t)
  exact text_loader_settles inside t r (written' known)
termination_by types.length

/-- In every state without types that have yet to be inferred, texts settle. -/
theorem texts_settle_of_isWritten {s : State} (written : s.IsWritten) :
    TextsSettle s.Reworded :=
  texts_settle written (List.range s.records.size) fun _ _ known _ =>
    List.mem_range.2 (Array.getElem?_eq_some_iff.1 known).1

end Answer

end TypeGloss
