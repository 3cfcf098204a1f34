/-
# TypeGloss.Proofs.Checker.Steady — an answer that is given is given again

Two things are said about the rules of the checker. A computation is *conservative* if
whatever state it starts from, and whether or not it fails, the state it leaves extends
the one it started from. And two computations are *steady* if, besides, whenever the first
returns something, the second returns the same from any state that extends the one the
first has left.

Most rules are steady with themselves: asked again they find the types they made, and the
parts and the types of members that were found, and where something was being found
already it is so again. Only rules that make a new slot are not, and these are reached
only through a part of a type, which is kept. Rules that look at the program alone are
*timeless*, which is more: they come to the same fault again, too.

Two computations are compared, not one, because the places in which syntax is read are
not the same the second time: type parameters come into view in a new frame. Places that
differ in nothing but the frame lead to the same answers.
-/
import TypeGloss.Proofs.Checker.Growth
import TypeGloss.Proofs.Run

namespace TypeGloss

set_option autoImplicit false

variable {α β : Type}

/-- Whatever is known before a run is known after it. -/
def Conservative (x : CheckM α) : Prop :=
  ∀ s : State, s.Extends (after x s)

/-- What a run of the first returns is returned by the second, also later on. -/
structure Steady (x y : CheckM α) : Prop where
  first : Conservative x
  second : Conservative y
  again : ∀ {s later : State} {a : α}, outcome x s = .ok a → (after x s).Extends later →
    outcome y later = .ok a

/-! ## Conservative computations -/

namespace Conservative

theorem pure (a : α) : Conservative (pure a) := State.Extends.refl

theorem throw (fault : Fault) : Conservative (throw fault : CheckM α) := State.Extends.refl

theorem bind {x : CheckM α} {f : α → CheckM β} (first : Conservative x)
    (rest : ∀ a, Conservative (f a)) : Conservative (x >>= f) := by
  intro s
  cases returned : outcome x s with
  | error fault =>
      rw [after_bind_error returned]
      exact first s
  | ok a =>
      rw [after_bind_ok returned]
      exact (first s).trans (rest a _)

theorem map {x : CheckM α} (f : α → β) (first : Conservative x) : Conservative (f <$> x) := by
  rw [map_eq_pure_bind]
  exact first.bind fun a => pure (f a)

theorem mapM {f : α → CheckM β} (each : ∀ a, Conservative (f a)) (items : List α) :
    Conservative (items.mapM f) := by
  induction items with
  | nil =>
      rw [List.mapM_nil]
      exact pure []
  | cons item rest ih =>
      rw [List.mapM_cons]
      exact (each item).bind fun b => ih.bind fun bs => pure (b :: bs)

theorem foldlM {f : β → α → CheckM β} (each : ∀ b a, Conservative (f b a)) (items : List α)
    (b : β) : Conservative (items.foldlM f b) := by
  induction items generalizing b with
  | nil => exact pure b
  | cons item rest ih => exact (each b item).bind ih

theorem option {f : α → CheckM β} (each : ∀ a, Conservative (f a)) (item : Option α) :
    Conservative (item.mapM f) := by
  cases item with
  | none => exact pure none
  | some a => exact (each a).map some

end Conservative

/-! ## Steady computations -/

namespace Steady

theorem pure (a : α) : Steady (pure a) (pure a) where
  first := .pure a
  second := .pure a
  again returned _ := returned

theorem throw (fault : Fault) : Steady (throw fault : CheckM α) (throw fault) where
  first := .throw fault
  second := .throw fault
  again returned _ := returned

/-- One thing after the other: when the first is done again, the state extends the one
that both have left. -/
theorem bind {x y : CheckM α} {f g : α → CheckM β} (first : Steady x y)
    (rest : ∀ a, Steady (f a) (g a)) : Steady (x >>= f) (y >>= g) where
  first := first.first.bind fun a => (rest a).first
  second := first.second.bind fun a => (rest a).second
  again {s later b} returned extended := by
    obtain ⟨a, before, last⟩ := outcome_bind_eq_ok returned
    rw [after_bind_ok before] at extended
    have since : (after x s).Extends later := ((rest a).first _).trans extended
    rw [outcome_bind_ok (first.again before since)]
    exact (rest a).again last (extended.trans (first.second later))

theorem map {x y : CheckM α} (f : α → β) (first : Steady x y) : Steady (f <$> x) (f <$> y) := by
  rw [map_eq_pure_bind, map_eq_pure_bind]
  exact first.bind fun a => pure (f a)

theorem mapM {f g : α → CheckM β} (each : ∀ a, Steady (f a) (g a)) (items : List α) :
    Steady (items.mapM f) (items.mapM g) := by
  induction items with
  | nil =>
      rw [List.mapM_nil, List.mapM_nil]
      exact pure []
  | cons item rest ih =>
      rw [List.mapM_cons, List.mapM_cons]
      exact (each item).bind fun b => ih.bind fun bs => pure (b :: bs)

theorem foldlM {f g : β → α → CheckM β} (each : ∀ b a, Steady (f b a) (g b a)) (items : List α)
    (b : β) : Steady (items.foldlM f b) (items.foldlM g b) := by
  induction items generalizing b with
  | nil => exact pure b
  | cons item rest ih => exact (each b item).bind ih

theorem option {f g : α → CheckM β} (each : ∀ a, Steady (f a) (g a)) (item : Option α) :
    Steady (item.mapM f) (item.mapM g) := by
  cases item with
  | none => exact pure none
  | some a => exact (each a).map some

theorem allM {f g : α → CheckM Bool} (each : ∀ a, Steady (f a) (g a)) (items : List α) :
    Steady (items.allM f) (items.allM g) := by
  induction items with
  | nil => exact pure true
  | cons item rest ih =>
      refine (each item).bind fun holds => ?_
      cases holds with
      | true => exact ih
      | false => exact pure false

theorem anyM {f g : α → CheckM Bool} (each : ∀ a, Steady (f a) (g a)) (items : List α) :
    Steady (items.anyM f) (items.anyM g) := by
  induction items with
  | nil => exact pure false
  | cons item rest ih =>
      refine (each item).bind fun holds => ?_
      cases holds with
      | true => exact pure true
      | false => exact ih

theorem filterM {f g : α → CheckM Bool} (each : ∀ a, Steady (f a) (g a)) (items : List α) :
    Steady (items.filterM f) (items.filterM g) := by
  have kept : ∀ found, Steady (items.filterAuxM f found) (items.filterAuxM g found) := by
    induction items with
    | nil => exact pure
    | cons item rest ih => exact fun found => (each item).bind fun _ => ih _
  exact (kept []).bind fun found => pure found.reverse

end Steady

/-! ## Timeless computations -/

/-- A computation that looks at the program alone. It learns nothing, and comes to the
same at any time, also to the same fault. -/
structure Timeless (x : CheckM α) : Prop where
  unchanged : ∀ s : State, after x s = s
  same : ∀ {s later : State}, later.toProgram = s.toProgram → outcome x later = outcome x s

namespace Timeless

theorem pure (a : α) : Timeless (pure a) := ⟨fun _ => rfl, fun _ => rfl⟩

theorem throw (fault : Fault) : Timeless (throw fault : CheckM α) := ⟨fun _ => rfl, fun _ => rfl⟩

theorem bind {x : CheckM α} {f : α → CheckM β} (first : Timeless x)
    (rest : ∀ a, Timeless (f a)) : Timeless (x >>= f) where
  unchanged s := by
    cases returned : outcome x s with
    | error fault => rw [after_bind_error returned, first.unchanged]
    | ok a => rw [after_bind_ok returned, first.unchanged, (rest a).unchanged]
  same {s later} program := by
    cases returned : outcome x s with
    | error fault =>
        have again := (first.same program).trans returned
        rw [outcome_bind_error returned, outcome_bind_error again]
    | ok a =>
        have again := (first.same program).trans returned
        rw [outcome_bind_ok returned, outcome_bind_ok again, first.unchanged, first.unchanged]
        exact (rest a).same program

theorem steady {x : CheckM α} (timeless : Timeless x) : Steady x x := by
  have conservative : Conservative x := fun s => by
    rw [timeless.unchanged]
    exact .refl s
  refine ⟨conservative, conservative, fun {s later a} returned extended => ?_⟩
  rw [timeless.unchanged] at extended
  rw [timeless.same extended.program, returned]

theorem foldlM {f : β → α → CheckM β} (each : ∀ b a, Timeless (f b a)) (items : List α) (b : β) :
    Timeless (items.foldlM f b) := by
  induction items generalizing b with
  | nil => exact .pure b
  | cons item rest ih => exact (each b item).bind ih

/-- What follows is run in the same state. -/
theorem outcome_bind_iff {x : CheckM α} (first : Timeless x) {f : α → CheckM β} {s : State}
    {b : β} :
    outcome (x >>= f) s = .ok b ↔ ∃ a, outcome x s = .ok a ∧ outcome (f a) s = .ok b := by
  constructor
  · intro returned
    obtain ⟨a, before, rest⟩ := outcome_bind_eq_ok returned
    exact ⟨a, before, first.unchanged s ▸ rest⟩
  · rintro ⟨a, before, rest⟩
    rw [outcome_bind_ok before, first.unchanged]
    exact rest

end Timeless

/-! ## What the rules are made of -/

/-- The same place in another frame. -/
def Place.inFrame (place : Place) (frame : FrameId) : Place :=
  { place with frame }

@[simp] theorem Place.inFrame_blanks (place : Place) (frame : FrameId) :
    (place.inFrame frame).blanks = place.blanks := rfl

@[simp] theorem Place.inFrame_env (place : Place) (frame : FrameId) :
    (place.inFrame frame).env = place.env := rfl

namespace Check

theorem outcome_ofResult (result : Result α) (s : State) :
    outcome (ofResult result) s = result := by
  cases result <;> rfl

theorem ofResult_timeless (result : Result α) : Timeless (ofResult result) := by
  cases result with
  | error fault => exact .throw fault
  | ok a => exact .pure a

theorem ofResult_steady (result : Result α) : Steady (ofResult result) (ofResult result) :=
  (ofResult_timeless result).steady

theorem need_steady (part : Option α) : Steady (need part) (need part) := by
  cases part with
  | none => exact .throw _
  | some a => exact .pure a

theorem needFirst_steady (items : List α) : Steady (needFirst items) (needFirst items) := by
  cases items with
  | nil => exact .throw _
  | cons a rest => exact .pure a

theorem needLast_steady (items : List α) : Steady (needLast items) (needLast items) := by
  unfold needLast
  split
  · exact .pure _
  · exact .throw _

theorem program_timeless : Timeless program :=
  ⟨fun _ => rfl, fun program => congrArg Except.ok program⟩

theorem program_steady : Steady program program := program_timeless.steady

theorem scopeOf_timeless (source : Source) : Timeless (scopeOf source) :=
  ofResult_timeless source.scope

theorem scopeOf_steady (source : Source) : Steady (scopeOf source) (scopeOf source) :=
  (scopeOf_timeless source).steady

theorem checkSyntax_timeless (node : Cursor) (source : Source) :
    Timeless (checkSyntax node source) := by
  unfold checkSyntax
  split
  · exact .pure ()
  · exact .throw _

/-! ### Types -/

theorem outcome_record (t : TypeId) (s : State) :
    outcome (record t) s =
      match s.records[t]? with
      | some r => .ok r
      | none => .error .foreignHandle := by
  change outcome (match s.records[t]? with
    | some r => pure r
    | none => throw .foreignHandle : CheckM TypeRecord) s = _
  split <;> rfl

theorem after_record (t : TypeId) (s : State) : after (record t) s = s := by
  change after (match s.records[t]? with
    | some r => pure r
    | none => throw .foreignHandle : CheckM TypeRecord) s = s
  split <;> rfl

theorem outcome_record_eq_ok {t : TypeId} {s : State} {r : TypeRecord} :
    outcome (record t) s = .ok r ↔ s.records[t]? = some r := by
  rw [outcome_record]
  cases s.records[t]? <;> simp

theorem after_bind_record_of_none {t : TypeId} {s : State} (unknown : s.records[t]? = none)
    (f : TypeRecord → CheckM α) : after (record t >>= f) s = s := by
  have foreign : outcome (record t) s = .error .foreignHandle := by
    rw [outcome_record, unknown]
  rw [after_bind_error foreign, after_record]

theorem after_facts (t : TypeId) (s : State) : after (facts t) s = s := by
  cases known : s.records[t]? with
  | none => exact after_bind_record_of_none known _
  | some r =>
      rw [facts, after_bind_ok (outcome_record_eq_ok.2 known)]
      exact after_record t s

theorem outcome_facts_eq_ok {t : TypeId} {s : State} {known : TypeFacts} :
    outcome (facts t) s = .ok known ↔ ∃ r, s.records[t]? = some r ∧ r.toTypeFacts = known := by
  constructor
  · intro returned
    obtain ⟨r, found, last⟩ := outcome_bind_eq_ok returned
    cases last
    exact ⟨r, outcome_record_eq_ok.1 found, rfl⟩
  · rintro ⟨r, found, rfl⟩
    rw [facts, outcome_bind_ok (outcome_record_eq_ok.2 found)]
    rfl

theorem run_facts {t : TypeId} {s : State} {r : TypeRecord} (known : s.records[t]? = some r) :
    (facts t).run.run s = (.ok r.toTypeFacts, s) :=
  Prod.ext (outcome_facts_eq_ok.2 ⟨r, known, rfl⟩) (after_facts t s)

theorem run_category {t : TypeId} {s : State} {r : TypeRecord} (known : s.records[t]? = some r) :
    (category t).run.run s = (.ok r.category, s) := by
  rw [category, run_bind_ok (run_facts known)]
  rfl

theorem record_conservative (t : TypeId) : Conservative (record t) := by
  intro s
  rw [after_record]
  exact .refl s

theorem facts_steady (t : TypeId) : Steady (facts t) (facts t) where
  first := (record_conservative t).bind fun r => .pure r.toTypeFacts
  second := (record_conservative t).bind fun r => .pure r.toTypeFacts
  again {s later a} returned extended := by
    obtain ⟨r, found, rfl⟩ := outcome_facts_eq_ok.1 returned
    rw [after_facts] at extended
    obtain ⟨r', known, grows⟩ := extended.records found
    exact outcome_facts_eq_ok.2 ⟨r', known, grows.facts⟩

theorem category_steady (t : TypeId) : Steady (category t) (category t) :=
  (facts_steady t).bind fun _ => .pure _

theorem run_intern_of_some {key : Key} {t : TypeId} {s : State} (known : s.interned[key]? = some t)
    (fresh : TypeRecord) : (intern key fresh).run.run s = (.ok t, s) := by
  have read : outcome (get : CheckM State) s = .ok s := rfl
  rw [intern, run_bind, read]
  simp only [known]
  rfl

/-- Under a new key a type is made, with the next number. -/
theorem run_intern_of_none {key : Key} {s : State} (unknown : s.interned[key]? = none)
    (fresh : TypeRecord) :
    (intern key fresh).run.run s =
      (.ok s.records.size, { s with
        interned := s.interned.insert key s.records.size, records := s.records.push fresh }) := by
  have read : outcome (get : CheckM State) s = .ok s := rfl
  rw [intern, run_bind, read]
  simp only [unknown]
  rfl

theorem intern_conservative (key : Key) {fresh : TypeRecord} (idle : fresh.loading = []) :
    Conservative (intern key fresh) := by
  intro s
  cases known : s.interned[key]? with
  | some t =>
      rw [after, run_intern_of_some known]
      exact .refl s
  | none =>
      rw [after, run_intern_of_none known]
      exact .push known idle

/-- The type of a key is the same later on, whatever would be made for the key then. -/
theorem intern_steady (key : Key) (fresh other : TypeRecord) (idle : fresh.loading = [])
    (idle' : other.loading = []) : Steady (intern key fresh) (intern key other) where
  first := intern_conservative key idle
  second := intern_conservative key idle'
  again {s later t} returned extended := by
    have known : (after (intern key fresh) s).interned[key]? = some t := by
      cases before : s.interned[key]? with
      | some u =>
          rw [outcome, run_intern_of_some before] at returned
          cases returned
          rw [after, run_intern_of_some before, before]
      | none =>
          rw [outcome, run_intern_of_none before] at returned
          cases returned
          rw [after, run_intern_of_none before]
          exact Std.HashMap.getElem?_insert_self
    rw [outcome, run_intern_of_some (extended.interned known)]

/-! ### Places -/

theorem newPlace_conservative (source : Source) (env : Env) :
    Conservative (newPlace source env) :=
  fun s => .frames s _

theorem bindAt_conservative (place : Place) (name : String) (t : TypeId) :
    Conservative (bindAt place name t) :=
  fun s => .frames s _

theorem upToDate_conservative (place : Place) : Conservative (upToDate place) :=
  State.Extends.refl

theorem complete_of_none {place : Place} (none : place.blanks = []) :
    complete place = pure () := by
  rw [complete, none, List.isEmpty_nil, if_pos rfl]

theorem blanks_of_complete {place : Place} {s : State} {u : Unit}
    (returned : outcome (complete place) s = .ok u) : place.blanks = [] := by
  rw [complete] at returned
  split at returned
  · next none => exact List.isEmpty_iff.1 none
  · cases returned

theorem complete_timeless (place : Place) : Timeless (complete place) := by
  unfold complete
  split
  · exact .pure ()
  · exact .throw _

theorem complete_steady (place : Place) (frame : FrameId) :
    Steady (complete place) (complete (place.inFrame frame)) :=
  (complete_timeless place).steady

/-- What follows in a new place does not depend on its frame. -/
theorem newPlace_bind {f g : Place → CheckM α}
    (rest : ∀ place frame, Steady (f place) (g (place.inFrame frame))) (source : Source)
    (env : Env) : Steady (newPlace source env >>= f) (newPlace source env >>= g) where
  first := (newPlace_conservative source env).bind fun place => (rest place 0).first
  second := (newPlace_conservative source env).bind fun place => (rest place place.frame).second
  again {s later a} returned extended := by
    have inside := rest { source, env, frame := s.frames.size } later.frames.size
    exact inside.again returned (extended.trans (newPlace_conservative source env later))

/-- What follows where a type parameter has come into view does not depend on the frame. -/
theorem bindAt_bind {f g : Place → CheckM α}
    (rest : ∀ place frame, Steady (f place) (g (place.inFrame frame))) (place : Place)
    (frame : FrameId) (name : String) (t : TypeId) :
    Steady (bindAt place name t >>= f) (bindAt (place.inFrame frame) name t >>= g) where
  first := (bindAt_conservative place name t).bind fun place => (rest place 0).first
  second := (bindAt_conservative _ name t).bind fun place => (rest place place.frame).second
  again {s later a} returned extended := by
    have inside := rest { place with env := Entries.put name t place.env } frame
    exact inside.again returned (extended.trans (bindAt_conservative _ name t later))

/-! ### Guards -/

section Guards

variable {κ : Type} [BEq κ] {guard : Guard κ}

/-- Inside a guard the key is held, and it is let go afterwards. -/
theorem run_guarded (guard : Guard κ) (key : κ) (circular body : CheckM α) (s : State) :
    (guarded guard key circular body).run.run s =
      if (guard.held s).contains key then circular.run.run s
      else
        (outcome body (guard.hold (key :: guard.held s) s),
          let inside := after body (guard.hold (key :: guard.held s) s)
          guard.hold ((guard.held inside).erase key) inside) := by
  change (if (guard.held s).contains key then circular else _ : CheckM α).run.run s = _
  split <;> rfl

theorem guarded_conservative (mark : guard.IsMark) (key : κ) {circular body : CheckM α}
    (outside : Conservative circular) (inside : Conservative body) :
    Conservative (guarded guard key circular body) := by
  intro s
  rw [after, run_guarded]
  split
  · exact outside s
  · exact mark.released (inside _)

/-- What is being expanded in a run was being expanded when it was done first. -/
theorem guarded_steady (mark : guard.IsMark) (key : κ) {circular circular' body body' : CheckM α}
    (outside : Steady circular circular') (inside : Steady body body') :
    Steady (guarded guard key circular body) (guarded guard key circular' body') where
  first := guarded_conservative mark key outside.first inside.first
  second := guarded_conservative mark key outside.second inside.second
  again {s later a} returned extended := by
    -- What the guard holds is the same both times, and so is the choice.
    have sameGuard : guard.held later = guard.held s := by
      rw [mark.held extended,
        mark.held (guarded_conservative mark key outside.first inside.first s)]
    rw [outcome, run_guarded] at returned ⊢
    rw [after, run_guarded] at extended
    rw [sameGuard]
    split at returned
    · rename_i circle
      rw [if_pos circle] at extended ⊢
      exact outside.again returned extended
    · rename_i uncircular
      rw [if_neg uncircular] at extended ⊢
      have held : guard.held (after body (guard.hold (key :: guard.held s) s)) =
          key :: guard.held s :=
        (mark.held (inside.first _)).trans (mark.marked s _)
      exact inside.again returned (mark.retaken held extended)

end Guards

/-! ### Members -/

theorem newSlot_conservative (type : Option TypeId) : Conservative (newSlot type) :=
  fun s => .pushSlot s type

theorem newMember_conservative (place : Place) (nodes : List Cursor) (type : Option TypeId) :
    Conservative (newMember place nodes type) :=
  (newSlot_conservative type).bind fun _ => .pure _

/-! ### Simple types -/

theorem primitive_steady (p : Primitive) : Steady (primitive p) (primitive p) :=
  intern_steady _ _ _ rfl rfl

theorem any_steady : Steady any any := primitive_steady .any

theorem literal_steady (value : Value) (p : Primitive) :
    Steady (literal value p) (literal value p) :=
  (ofResult_steady _).bind fun _ => intern_steady _ _ _ rfl rfl

theorem widen_steady (t : TypeId) : Steady (widen t) (widen t) := by
  refine (facts_steady t).bind fun r => ?_
  split
  · exact primitive_steady _
  · exact .pure t

theorem keepLiteral_steady (t : TypeId) (keep : Bool) :
    Steady (keepLiteral t keep) (keepLiteral t keep) := by
  unfold keepLiteral
  split
  · exact .pure t
  · exact widen_steady t

theorem arrayOf_steady (element : TypeId) (readonly : Bool) :
    Steady (arrayOf element readonly) (arrayOf element readonly) :=
  intern_steady _ _ _ rfl rfl

theorem genericOf_steady (name file : String) (args : List TypeId) :
    Steady (genericOf name file args) (genericOf name file args) :=
  intern_steady _ _ _ rfl rfl

theorem namedType_steady (text : String) (file : Option String) :
    Steady (namedType text file) (namedType text file) :=
  intern_steady _ _ _ rfl rfl

theorem stuckType_steady (computed : TypeId) (text : String) :
    Steady (stuckType computed text) (stuckType computed text) :=
  intern_steady _ _ _ rfl rfl

theorem typeParameter_steady (name : String) (node : Cursor) (source : Source) :
    Steady (typeParameter name node source) (typeParameter name node source) :=
  intern_steady _ _ _ rfl rfl

theorem syntheticObject_steady (computed : TypeId) (properties : List Symbol) (text : String) :
    Steady (syntheticObject computed properties text) (syntheticObject computed properties text) :=
  (facts_steady computed).bind fun _ => intern_steady _ _ _ rfl rfl

theorem checkSyntax_steady (node : Cursor) (source : Source) :
    Steady (checkSyntax node source) (checkSyntax node source) :=
  (checkSyntax_timeless node source).steady

end Check

end TypeGloss
