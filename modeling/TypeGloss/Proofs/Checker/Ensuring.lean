/-
# TypeGloss.Proofs.Checker.Ensuring — what a rule comes to from some states on

A rule is run with a limit on the nesting of questions. `Ensures pre rule post` says both
halves of what such a rule can be relied on for: from a state where `pre` holds it comes to
the same result with every limit that is great enough, and with whatever limit it comes to a
result, `post` holds of the result and of the state that is left.

`Comes` is the case in which the result can be told in advance and the property of states
is kept; `State.Foretells` that in which the states are those that extend a given one, so that
the rule comes to this result from there on, whatever else is asked before.
-/
import Mathlib.Data.List.Forall2
import Mathlib.Tactic.Choose
import TypeGloss.Proofs.Checker.Memory

namespace TypeGloss

set_option autoImplicit false

open Answer (answer)

variable {α β : Type}

/-- A rule comes to a result, and this is what holds then. -/
structure Ensures (pre : State → Prop) (rule : Ask → CheckM α) (post : α → State → Prop) : Prop
    where
  /-- The result and the state that is left do not depend on the limit if it is great enough. -/
  comes : ∀ ⦃s : State⦄, pre s → ∃ (depth : Nat) (a : α) (left : State), ∀ limit, depth ≤ limit →
    (rule (answer limit)).run.run s = (.ok a, left)
  /-- No limit makes the rule come to anything else. -/
  holds : ∀ ⦃s : State⦄, pre s → ∀ ⦃limit : Nat⦄ ⦃a : α⦄,
    outcome (rule (answer limit)) s = .ok a → post a (after (rule (answer limit)) s)

namespace Ensures

variable {pre : State → Prop} {rule : Ask → CheckM α} {post : α → State → Prop}

/-- What a rule comes to with a limit that is great enough is what holds. -/
theorem exists_run (ensures : Ensures pre rule post) {s : State} (here : pre s) :
    ∃ (depth : Nat) (a : α) (left : State), post a left ∧ ∀ limit, depth ≤ limit →
      (rule (answer limit)).run.run s = (.ok a, left) := by
  obtain ⟨depth, a, left, run⟩ := ensures.comes here
  have same := run depth (Nat.le_refl depth)
  have there := ensures.holds here (congrArg Prod.fst same)
  rw [after, same] at there
  exact ⟨depth, a, left, there, run⟩

/-- What holds before may be more, and what holds after may be less. -/
theorem consequence {pre' : State → Prop} {post' : α → State → Prop}
    (ensures : Ensures pre rule post) (stronger : ∀ s, pre' s → pre s)
    (weaker : ∀ a s, post a s → post' a s) : Ensures pre' rule post' where
  comes _ here := ensures.comes (stronger _ here)
  holds _ here _ _ returned := weaker _ _ (ensures.holds (stronger _ here) returned)

/-- A rule whose run does not depend on the limit. -/
theorem ofRun (runs : ∀ s, pre s → ∃ a left,
    (∀ limit, (rule (answer limit)).run.run s = (.ok a, left)) ∧ post a left) :
    Ensures pre rule post where
  comes s here := by
    obtain ⟨a, left, run, -⟩ := runs s here
    exact ⟨0, a, left, fun limit _ => run limit⟩
  holds s here limit a returned := by
    obtain ⟨b, left, run, there⟩ := runs s here
    rw [outcome, run] at returned
    cases returned
    rwa [after, run]

theorem pure {a : α} (here : ∀ s, pre s → post a s) : Ensures pre (fun _ => pure a) post :=
  ofRun fun s holds => ⟨a, s, fun _ => rfl, here s holds⟩

/-- Computations that come to something come to something one after the other. -/
theorem bind {f : Ask → α → CheckM β} {then_ : β → State → Prop} (first : Ensures pre rule post)
    (rest : ∀ a, Ensures (post a) (fun ask => f ask a) then_) :
    Ensures pre (fun ask => rule ask >>= f ask) then_ where
  comes s here := by
    obtain ⟨depth, a, middle, there, run⟩ := first.exists_run here
    obtain ⟨depth', b, left, run'⟩ := (rest a).comes there
    refine ⟨max depth depth', b, left, fun limit enough => ?_⟩
    rw [run_bind_ok (run limit (by omega))]
    exact run' limit (by omega)
  holds s here limit b returned := by
    obtain ⟨a, began, ended⟩ := outcome_bind_eq_ok returned
    rw [after_bind_ok began]
    exact (rest a).holds (first.holds here began) ended

/-- A rule that runs as another one does. -/
theorem congr {rule' : Ask → CheckM α} (ensures : Ensures pre rule post)
    (same : ∀ s, pre s → ∀ limit, (rule' (answer limit)).run.run s = (rule (answer limit)).run.run s) :
    Ensures pre rule' post where
  comes s here := by
    obtain ⟨depth, a, left, run⟩ := ensures.comes here
    exact ⟨depth, a, left, fun limit enough => (same s here limit).trans (run limit enough)⟩
  holds s here limit a returned := by
    rw [outcome, same s here limit] at returned
    rw [after, same s here limit]
    exact ensures.holds here returned

/-- What follows a run that does not depend on the limit. -/
theorem bind_run {x : CheckM α} {f : Ask → α → CheckM β} {s middle : State} {a : α}
    {post : β → State → Prop} (run : x.run.run s = (.ok a, middle))
    (rest : Ensures (· = middle) (fun ask => f ask a) post) :
    Ensures (· = s) (fun ask => x >>= f ask) post := by
  have first : Ensures (· = s) (fun _ => x) fun b left => b = a ∧ left = middle := by
    refine ofRun ?_
    rintro _ rfl
    exact ⟨a, middle, fun _ => run, rfl, rfl⟩
  refine first.bind fun b => ⟨?_, ?_⟩
  · rintro _ ⟨rfl, rfl⟩
    exact rest.comes rfl
  · rintro _ ⟨rfl, rfl⟩
    exact rest.holds rfl

/-- What can be said of each state by itself. -/
theorem ofEach (each : ∀ s, pre s → Ensures (· = s) rule post) : Ensures pre rule post where
  comes _ here := (each _ here).comes rfl
  holds _ here := (each _ here).holds rfl

/-- What stays true wherever a checker goes on is true after a rule that only goes on. -/
theorem frame {stays : State → Prop} (ensures : Ensures pre rule post)
    (conservative : ∀ limit, Conservative (rule (answer limit)))
    (stable : ∀ s later, s.Extends later → stays s → stays later) :
    Ensures (fun s => pre s ∧ stays s) rule fun a left => post a left ∧ stays left where
  comes _ here := ensures.comes here.1
  holds s here limit _ returned :=
    ⟨ensures.holds here.1 returned, stable s _ (conservative limit s) here.2⟩

/-- What a rule comes to from a state, and that the state has been gone on from. -/
theorem growing {s : State} (ensures : Ensures (· = s) rule post)
    (conservative : ∀ limit, Conservative (rule (answer limit))) :
    Ensures (· = s) rule fun a left => post a left ∧ s.Extends left :=
  (ensures.frame conservative fun _ _ further (extended : s.Extends _) =>
    extended.trans further).consequence (fun _ same => ⟨same, same ▸ .refl s⟩) fun _ _ => id

/-- What holds of the result for each item, if it stays true, holds of the list of results. -/
theorem mapM {f : Ask → α → CheckM β} {fares : α → β → State → Prop} {items : List α}
    (each : ∀ a ∈ items, Ensures pre (fun ask => f ask a) fun b left => pre left ∧ fares a b left)
    (conservative : ∀ limit a, Conservative (f (answer limit) a))
    (stable : ∀ a b s later, s.Extends later → fares a b s → fares a b later) :
    Ensures pre (fun ask => items.mapM (f ask)) fun results left =>
      pre left ∧ List.Forall₂ (fares · · left) items results := by
  induction items with
  | nil =>
      simp only [List.mapM_nil]
      exact .pure fun _ here => ⟨here, .nil⟩
  | cons item rest ih =>
      simp only [List.mapM_cons]
      refine (each item List.mem_cons_self).bind fun b => ?_
      have later := (ih fun a among => each a (List.mem_cons_of_mem _ among)).frame
        (fun limit => Conservative.mapM (conservative limit) rest) (stable item b)
      refine later.bind fun results => .pure ?_
      rintro _ ⟨⟨here, others⟩, first⟩
      exact ⟨here, .cons first others⟩

/-- A question comes to what the rule does by which it is answered. -/
theorem asked {q : Query} {post : q.Answer → State → Prop}
    (ensures : Ensures pre (fun ask => Answer.step ask q) post) :
    Ensures pre (fun ask => ask q) post where
  comes s here := by
    obtain ⟨depth, a, left, run⟩ := ensures.comes here
    refine ⟨depth + 1, a, left, fun limit enough => ?_⟩
    obtain ⟨limit, rfl⟩ : ∃ lower, limit = lower + 1 := ⟨limit - 1, by omega⟩
    exact run limit (by omega)
  holds s here limit a returned := by
    cases limit with
    | zero => cases returned
    | succ limit => exact ensures.holds here returned

/-- A part that is not known and is not being found is found by its rule, while it is marked,
and kept. -/
theorem loaded {t : TypeId} {part : Part} {s : State} {r : TypeRecord}
    {find : Ask → CheckM part.Content} {post : part.Content → State → Prop}
    (known : s.records[t]? = some r) (unknown : r.cache.get? part = none)
    (idle : part ∉ r.loading) (found : ∀ ask, Answer.loader? ask t r part = some (find ask))
    (ensures : Ensures (· = s.mark t part) find post) :
    Ensures (· = s) (fun ask => Answer.load ask t part) fun result left =>
      ∃ content inside, result = some content ∧ post content inside ∧
        left = (inside.unmark t part).keepPart t part content where
  comes := by
    rintro before rfl
    obtain ⟨depth, content, inside, run⟩ := ensures.comes rfl
    refine ⟨depth, some content, (inside.unmark t part).keepPart t part content, ?_⟩
    intro limit enough
    have same := run limit enough
    refine (Answer.run_load_of_find known unknown (found _) idle).trans ?_
    rw [outcome, after, same]
  holds := by
    rintro before rfl limit result returned
    have run := Answer.run_load_of_find known unknown (found (answer limit)) idle
    rw [outcome, run] at returned
    rw [after, run]
    split at returned
    · next content came =>
        cases returned
        exact ⟨content, _, rfl, ensures.holds rfl came, rfl⟩
    · cases returned

/-- A part that is not known is found in a state in which it is marked as being found. -/
theorem load {t : TypeId} {part : Part} {s : State} {r : TypeRecord}
    {find : Ask → CheckM part.Content} {post : part.Content → State → Prop}
    (known : s.records[t]? = some r) (unknown : r.cache.get? part = none)
    (idle : part ∉ r.loading) (found : ∀ ask, Answer.loader? ask t r part = some (find ask))
    (ensures : Ensures (· = s.mark t part) find post) :
    Ensures (· = s) (fun ask => ask.load? t part) fun result left =>
      ∃ content inside, result = some content ∧ post content inside ∧
        left = (inside.unmark t part).keepPart t part content :=
  asked (loaded known unknown idle found ensures)

/-- A text that is not known is found by its rule. -/
theorem text {t : TypeId} {s : State} {r : TypeRecord} {find : Ask → CheckM String} {w : String}
    (known : s.records[t]? = some r) (unlabelled : r.label = none)
    (unknown : r.cache.text = none) (idle : .text ∉ r.loading)
    (found : ∀ ask, Answer.loader? ask t r .text = some (find ask))
    (ensures : Ensures (· = s.mark t .text) find fun text _ => text = w) :
    Ensures (· = s) (fun ask => ask.text t) fun text _ => text = w := by
  have content : r.cache.get? .text = none := unknown
  have read : Ensures (· = s) (fun _ => Check.record t) fun r' left => r' = r ∧ left = s := by
    refine ofRun ?_
    rintro _ rfl
    refine ⟨r, _, fun _ => ?_, rfl, rfl⟩
    exact Prod.ext (Check.outcome_record_eq_ok.2 known) (Check.after_record t _)
  refine asked ?_
  simp only [Answer.step, Answer.text]
  refine read.bind fun r' => .ofEach fun _ there => ?_
  obtain ⟨rfl, rfl⟩ := there
  simp only [unlabelled]
  refine (loaded known content idle found ensures).bind fun result => .ofRun ?_
  rintro left ⟨text, inside, rfl, rfl, -⟩
  exact ⟨text, _, fun _ => rfl, rfl⟩

end Ensures

/-! ## Results that can be told in advance -/

/-- Where a property of states holds, a rule comes to this result, and the property holds
still. -/
def Comes (inv : State → Prop) (rule : Ask → CheckM α) (a : α) : Prop :=
  Ensures inv rule fun b left => b = a ∧ inv left

namespace Comes

variable {inv : State → Prop} {rule : Ask → CheckM α} {a : α}

theorem pure (a : α) : Comes inv (fun _ => pure a) a :=
  Ensures.pure fun _ here => ⟨rfl, here⟩

/-- What follows a result that can be told in advance. -/
theorem then_ {f : Ask → α → CheckM β} {post : β → State → Prop} (first : Comes inv rule a)
    (rest : Ensures inv (fun ask => f ask a) post) :
    Ensures inv (fun ask => rule ask >>= f ask) post := by
  refine Ensures.bind first fun _ => ⟨?_, ?_⟩
  · rintro later ⟨rfl, there⟩
    exact rest.comes there
  · rintro later ⟨rfl, there⟩
    exact rest.holds there

theorem bind {f : Ask → α → CheckM β} {b : β} (first : Comes inv rule a)
    (rest : Comes inv (fun ask => f ask a) b) : Comes inv (fun ask => rule ask >>= f ask) b :=
  first.then_ rest

theorem unique {b : α} {s : State} (first : Comes inv rule a) (again : Comes inv rule b)
    (here : inv s) : a = b := by
  obtain ⟨depth, c, left, run⟩ := Ensures.comes first here
  have same := run depth (Nat.le_refl depth)
  have returned : outcome (rule (answer depth)) s = .ok c := congrArg Prod.fst same
  exact (first.holds here returned).1.symm.trans (again.holds here returned).1

/-! ### Lists -/

variable {items : List α}

/-- Some item is accepted exactly if its verdict says so. -/
theorem anyM {f : Ask → α → CheckM Bool} {verdict : α → Bool}
    (each : ∀ a ∈ items, Comes inv (fun ask => f ask a) (verdict a)) :
    Comes inv (fun ask => items.anyM (f ask)) (items.any verdict) := by
  induction items with
  | nil => exact .pure false
  | cons item rest ih =>
      simp only [List.anyM, List.any_cons]
      refine (each item List.mem_cons_self).bind ?_
      cases verdict item with
      | true => exact .pure true
      | false => exact ih fun a among => each a (List.mem_cons_of_mem _ among)

/-- All items are accepted exactly if their verdicts say so. -/
theorem allM {f : Ask → α → CheckM Bool} {verdict : α → Bool}
    (each : ∀ a ∈ items, Comes inv (fun ask => f ask a) (verdict a)) :
    Comes inv (fun ask => items.allM (f ask)) (items.all verdict) := by
  induction items with
  | nil => exact .pure true
  | cons item rest ih =>
      simp only [List.allM, List.all_cons]
      refine (each item List.mem_cons_self).bind ?_
      cases verdict item with
      | true => exact ih fun a among => each a (List.mem_cons_of_mem _ among)
      | false => exact .pure false

/-! ### What a state knows -/

section Known

variable {s : State} (onward : ∀ later, inv later → s.Extends later) {t : TypeId} {r : TypeRecord}
  (known : s.records[t]? = some r)

include onward known

theorem facts : Comes inv (fun _ => Check.facts t) r.toTypeFacts := by
  refine Ensures.ofRun fun later here => ⟨_, later, fun _ => ?_, rfl, here⟩
  obtain ⟨r', known', grows⟩ := (onward later here).records known
  rw [← grows.facts]
  exact Check.run_facts known'

theorem category : Comes inv (fun _ => Check.category t) r.category :=
  (facts onward known).bind (.pure _)

/-- A part that is kept. -/
theorem load {part : Part} {content : part.Content} (kept : r.cache.get? part = some content) :
    Comes inv (fun ask => ask.load? t part) (some content) := by
  refine Ensures.asked (Ensures.ofRun fun later here => ⟨_, later, fun _ => ?_, rfl, here⟩)
  obtain ⟨r', known', grows⟩ := (onward later here).records known
  exact Answer.run_load_of_some known' (grows.kept kept)

theorem members {members : List TypeId} (kept : r.cache.members = some members) :
    Comes inv (fun ask => ask.members t) members := by
  have content : r.cache.get? .members = some members := kept
  exact (load onward known content).bind (.pure _)

end Known

end Comes

/-- From a state on, a rule comes to this result, whatever else is asked before. -/
def State.Foretells (s : State) (rule : Ask → CheckM α) (a : α) : Prop :=
  Comes s.Extends rule a

namespace State.Foretells

variable {s : State} {rule : Ask → CheckM α} {a b : α}

theorem unique (foretold : s.Foretells rule a) (again : s.Foretells rule b) : a = b :=
  Comes.unique foretold again (.refl s)

section Known

variable {t : TypeId} {r : TypeRecord} (known : s.records[t]? = some r)

include known

theorem load {part : Part} {content : part.Content} (kept : r.cache.get? part = some content) :
    s.Foretells (fun ask => ask.load? t part) (some content) :=
  Comes.load (fun _ => id) known kept

theorem members {members : List TypeId} (kept : r.cache.members = some members) :
    s.Foretells (fun ask => ask.members t) members :=
  Comes.members (fun _ => id) known kept

end Known

variable {items : List α} {f : Ask → α → CheckM Bool}

/-- If all tests have a verdict, whether some item passes is whether some verdict is yes. -/
theorem anyM (each : ∀ a ∈ items, ∃ verdict, s.Foretells (fun ask => f ask a) verdict) :
    ∃ verdict, s.Foretells (fun ask => items.anyM (f ask)) verdict ∧
      (verdict = true ↔ ∃ a ∈ items, s.Foretells (fun ask => f ask a) true) := by
  choose! verdict each using each
  refine ⟨items.any verdict, Comes.anyM each, List.any_eq_true.trans ?_⟩
  refine exists_congr fun a => and_congr_right fun among => ?_
  exact ⟨fun yes => yes ▸ each a among, (each a among).unique⟩

/-- If all tests have a verdict, whether every item passes is whether every verdict is yes. -/
theorem allM (each : ∀ a ∈ items, ∃ verdict, s.Foretells (fun ask => f ask a) verdict) :
    ∃ verdict, s.Foretells (fun ask => items.allM (f ask)) verdict ∧
      (verdict = true ↔ ∀ a ∈ items, s.Foretells (fun ask => f ask a) true) := by
  choose! verdict each using each
  refine ⟨items.all verdict, Comes.allM each, List.all_eq_true.trans ?_⟩
  refine forall_congr' fun a => forall_congr' fun among => ?_
  exact ⟨fun yes => yes ▸ each a among, (each a among).unique⟩

end State.Foretells

end TypeGloss
