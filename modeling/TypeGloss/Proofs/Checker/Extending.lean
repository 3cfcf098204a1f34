/-
# TypeGloss.Proofs.Checker.Extending — an interface that only extends another

An interface whose bodies declare nothing and that has one base (`State.Extension`) asks its base
for everything, and takes from it what it does not have yet: of members of one name the first, and
of index signatures with keys of one text the first (`Extension.ensures_properties`,
`Extension.ensures_indexes`). If the base has no two members of one name, the members are the same.

Call signatures are not taken from the base. Such an interface has none, whatever its base has
(`Extension.ensures_calls`).
-/
import TypeGloss.Proofs.Checker.InterfaceMembers

namespace TypeGloss

set_option autoImplicit false

open Answer (answer)

/-! ## Bodies that declare nothing -/

namespace Members

/-- A body declares no member, no index signature and no way to be called. -/
def DeclaresNothing (body : Cursor) : Prop :=
  ∀ part ∈ body.named, part.kind ∉
    ["property_signature", "method_signature", "index_signature", "call_signature"]

instance (body : Cursor) : Decidable (DeclaresNothing body) :=
  inferInstanceAs (Decidable (∀ part ∈ body.named, _))

namespace DeclaresNothing

variable {body : Cursor} (nothing : DeclaresNothing body)

include nothing

theorem ofKinds_eq_nil {kind : String} (among : kind ∈
    ["property_signature", "method_signature", "index_signature", "call_signature"]) :
    body.ofKinds [kind] = [] := by
  refine List.filter_eq_nil_iff.2 fun part there same => nothing part there ?_
  have isKind : part.kind = kind := by simpa using same
  exact isKind ▸ among

theorem ofBody_eq (place : Place) : ofBody place body = pure [] := by
  have declares : BodyDeclares place.source.path body [] := by
    refine ⟨body.named.map fun _ => [], by simp, ?_⟩
    refine List.forall₂_map_right_iff.2 (List.forall₂_same.2 fun part there => .none ?_)
    have other := nothing part there
    simp only [List.mem_cons, not_or] at other
    exact ⟨other.1, other.2.1⟩
  rw [ofBody, declares.eq_pure]
  rfl

theorem indexesOfBody_eq (ask : Ask) (place : Place) : indexesOfBody ask place body = pure [] := by
  rw [indexesOfBody, nothing.ofKinds_eq_nil (by simp)]
  rfl

theorem callsOfBody_eq (ask : Ask) (place : Place) : callsOfBody ask place body = pure [] := by
  rw [callsOfBody, nothing.ofKinds_eq_nil (by simp)]
  rfl

end DeclaresNothing

/-- Bodies that have nothing of a kind have nothing of it together. -/
theorem exists_mapM_of_nil {α : Type} {read : Cursor → CheckM (List α)} {bodies : List Cursor}
    (each : ∀ body ∈ bodies, read body = pure []) :
    ∃ parts, bodies.mapM read = pure parts ∧ parts.flatten = [] := by
  induction bodies with
  | nil => exact ⟨[], rfl, rfl⟩
  | cons body rest ih =>
      obtain ⟨first, others⟩ := List.forall_mem_cons.1 each
      obtain ⟨parts, read, empty⟩ := ih others
      refine ⟨[] :: parts, ?_, by simp [empty]⟩
      rw [List.mapM_cons, first, pure_bind, read, pure_bind]

/-! ## What the base tells -/

/-- The index signatures of a type, each with the text of its key. -/
def keyedIndexes (ask : Ask) (t : TypeId) : CheckM (List (IndexEntry × String)) := do
  (← ask.indexes t).mapM fun entry => do return (entry, ← ask.text entry.keyType)

/-- Index signatures are inherited by the texts of their keys. -/
theorem inheritIndexes_eq (ask : Ask) (found : List (IndexEntry × String))
    (entries : List IndexEntry) :
    inheritIndexes ask (found.map Prod.fst, found.map Prod.snd) entries =
      (fun told => ((addNew Prod.snd found told).map Prod.fst,
        (addNew Prod.snd found told).map Prod.snd)) <$>
        entries.mapM fun entry => do return (entry, ← ask.text entry.keyType) := by
  induction entries generalizing found with
  | nil => rfl
  | cons entry rest ih =>
      simp only [inheritIndexes, List.mapM_cons, map_eq_pure_bind, bind_assoc, pure_bind]
      refine bind_congr fun text => ?_
      simp only [addNew_cons]
      by_cases known : text ∈ found.map Prod.snd
      · simp only [List.contains_iff_mem.2 known, if_true, if_pos known, ih, map_eq_pure_bind]
      · have new : (found.map Prod.snd).contains text = false := by simpa using known
        have longer := ih (found ++ [(entry, text)])
        rw [List.map_append, List.map_append, List.map_singleton, List.map_singleton] at longer
        simp only [new, Bool.false_eq_true, if_false, if_neg known]
        simpa only [map_eq_pure_bind, bind_assoc, pure_bind] using longer

section Rules

variable {bindings : List Module.Binding} {node : Cursor}
  (nothing : ∀ body ∈ bodies bindings, DeclaresNothing body)

include nothing

/-- An interface with one base and no members of its own has the properties of the base. -/
theorem ofInterface_of_nothing (base : bases bindings = [node]) (ask : Ask) (place : Place) :
    ofInterface ask place bindings =
      addNew Symbol.name [] <$> (ask.typeAt node place >>= ask.properties) := by
  obtain ⟨parts, read, empty⟩ := exists_mapM_of_nil fun body among =>
    (nothing body among).ofBody_eq place
  rw [ofInterface_eq, read, pure_bind, base, empty]
  simp only [ofBases, List.mapM_cons, List.mapM_nil, map_eq_pure_bind, bind_assoc, pure_bind,
    List.flatten_cons, List.flatten_nil, List.append_nil]
  rfl

/-- An interface with one base and no index signatures of its own has those of the base. -/
theorem indexesOfInterface_of_nothing (base : bases bindings = [node]) (ask : Ask)
    (place : Place) :
    indexesOfInterface ask place bindings = (fun told => (addNew Prod.snd [] told).map Prod.fst) <$>
      (ask.typeAt node place >>= keyedIndexes ask) := by
  obtain ⟨parts, read, empty⟩ := exists_mapM_of_nil fun body among =>
    (nothing body among).indexesOfBody_eq ask place
  have inherited (entries : List IndexEntry) := inheritIndexes_eq ask [] entries
  simp only [List.map_nil] at inherited
  rw [indexesOfInterface, read, pure_bind, base]
  simp only [keyedIndexes, empty, List.mapM_nil, List.foldlM_cons, List.foldlM_nil,
    map_eq_pure_bind, bind_assoc, pure_bind, inherited]

theorem callsOfInterface_of_nothing (ask : Ask) (place : Place) :
    callsOfInterface ask place bindings = pure [] := by
  obtain ⟨parts, read, empty⟩ := exists_mapM_of_nil fun body among =>
    (nothing body among).callsOfBody_eq ask place
  rw [callsOfInterface, read, pure_bind, empty]

end Rules

end Members

/-! ## Runs -/

section Objects

variable {s : State} {t : TypeId} {r : TypeRecord}

/-- An object is asked for its index signatures. -/
theorem State.ensures_indexes_of_object (known : s.records[t]? = some r)
    (isObject : r.category = .object) {post : List IndexEntry → State → Prop}
    (ensures : Ensures (· = s) (fun ask => ask.load? t .indexes) fun found left =>
      post (found.getD []) left) :
    Ensures (· = s) (fun ask => ask.indexes t) post := by
  refine Ensures.asked ?_
  simp only [Answer.step, Structure.indexes]
  refine (Remembers.simplified_self known (by simp [isObject])).now.then_ ?_
  refine (Remembers.category known).now.then_ ?_
  simp only [isObject]
  exact ensures.bind fun _ => .pure fun _ => id

/-- An object whose index signatures have been found. -/
theorem State.Remembers.indexes (known : s.records[t]? = some r) (isObject : r.category = .object)
    {found : List IndexEntry} (kept : r.cache.indexes = some found) :
    s.Remembers (fun ask => ask.indexes t) found := by
  have content : r.cache.get? .indexes = some found := kept
  refine asked ?_
  simp only [Answer.step, Structure.indexes]
  refine (simplified_self known (by simp [isObject])).bind ?_
  refine (category known).bind ?_
  simp only [isObject]
  exact (load known content).bind (.pure _)

/-- The index signatures of a type have been found, and so have the texts of their keys. -/
structure State.KnowsIndexes (s : State) (t : TypeId) (told : List (IndexEntry × String)) : Prop
    where
  entries : s.Remembers (fun ask => ask.indexes t) (told.map Prod.fst)
  texts : ∀ p ∈ told, s.Remembers (fun ask => ask.text p.1.keyType) p.2

/-- What is known is told again. -/
theorem State.KnowsIndexes.remembers {told : List (IndexEntry × String)}
    (knows : s.KnowsIndexes t told) :
    s.Remembers (fun ask => Members.keyedIndexes ask t) told := by
  obtain ⟨entries, texts⟩ := knows
  refine entries.bind ?_
  clear entries
  induction told with
  | nil => exact .pure _
  | cons p rest ih =>
      obtain ⟨first, others⟩ := List.forall_mem_cons.1 texts
      simp only [List.map_cons, List.mapM_cons, bind_assoc, pure_bind]
      exact first.bind ((ih others).bind (.pure _))

end Objects

/-- A type is an interface whose bodies declare nothing, and a node is the only base of it. -/
structure State.Extension (s : State) (t : TypeId) (r : TypeRecord) (place : Place)
    (node : Cursor) : Prop extends s.IsInterface t r place where
  nothing : ∀ body ∈ Members.bodies r.bindings, Members.DeclaresNothing body
  base : Members.bases r.bindings = [node]

/-- The type that is written at a node is `b`, and when it is asked something, this holds. -/
def State.BaseTells {α : Type} (s : State) (node : Cursor) (place : Place) (b : TypeId)
    (asks : Ask → TypeId → CheckM α) (holds : α → State → Prop) : Prop :=
  Ensures (· = s) (fun ask => ask.typeAt node place) fun base left =>
    base = b ∧ Ensures (· = left) (fun ask => asks ask b) holds

namespace State

variable {s : State} {t b : TypeId} {r : TypeRecord} {place : Place} {node : Cursor}

/-- What a base tells is told where the base is read. -/
theorem BaseTells.ensures {α : Type} {asks : Ask → TypeId → CheckM α} {holds : α → State → Prop}
    (tells : s.BaseTells node place b asks holds) :
    Ensures (· = s) (fun ask => ask.typeAt node place >>= asks ask) holds :=
  Ensures.bind tells fun _ => .ofEach fun _ ⟨same, asked⟩ => same ▸ asked

namespace Extension

/-- The members are those of the base, of each name the first. -/
theorem ensures_properties (extension : s.Extension t r place node)
    (unknown : r.cache.properties = none) (idle : .properties ∉ r.loading)
    (tells : (s.mark t .properties).BaseTells node place b (fun ask t => ask.properties t)
      fun told left => left.Remembers (fun ask => ask.properties b) told) :
    Ensures (· = s) (fun ask => ask.properties t) fun found left =>
      ∃ told, found = addNew Symbol.name [] told ∧
        left.Remembers (fun ask => ask.properties b) told ∧
        left.Remembers (fun ask => ask.properties t) found := by
  have rule : Ensures (· = s.mark t .properties)
      (fun ask => Members.ofInterface ask place r.bindings) fun found inside =>
      ∃ told, found = addNew Symbol.name [] told ∧
        inside.Remembers (fun ask => ask.properties b) told := by
    simp only [Members.ofInterface_of_nothing extension.nothing extension.base, map_eq_pure_bind]
    exact tells.ensures.bind fun told => .pure fun _ here => ⟨told, rfl, here⟩
  refine (extension.toIsInterface.ensures_properties unknown idle rule).consequence (fun _ => id) ?_
  rintro found left ⟨inside, ⟨told, rfl, here⟩, -, kept, remembers⟩
  exact ⟨told, rfl, here.keeps kept, remembers⟩

/-- The index signatures are those of the base, for each text of a key the first. -/
theorem ensures_indexes (extension : s.Extension t r place node)
    (unknown : r.cache.indexes = none) (idle : .indexes ∉ r.loading)
    (tells : (s.mark t .indexes).BaseTells node place b Members.keyedIndexes fun told left =>
      left.KnowsIndexes b told) :
    Ensures (· = s) (fun ask => ask.indexes t) fun found left =>
      ∃ told, found = (addNew Prod.snd [] told).map Prod.fst ∧ left.KnowsIndexes b told ∧
        left.KnowsIndexes t (addNew Prod.snd [] told) := by
  have rule (ask : Ask) : Answer.loader? ask t r .indexes =
      some (Answer.syntaxOf r.toTypeFacts >>= fun found =>
        Members.indexesOfInterface ask found.2 r.bindings) := by
    simp only [Answer.loader?, extension.isDeclared, Answer.declared?, extension.isObject,
      ne_eq, not_true_eq_false, if_false]
  have taken : Ensures (· = s.mark t .indexes)
      (fun ask => Members.indexesOfInterface ask place r.bindings) fun found inside =>
      ∃ told, found = (addNew Prod.snd [] told).map Prod.fst ∧ inside.KnowsIndexes b told := by
    simp only [Members.indexesOfInterface_of_nothing extension.nothing extension.base,
      map_eq_pure_bind]
    exact tells.ensures.bind fun told => .pure fun _ here => ⟨told, rfl, here⟩
  have absent : r.cache.get? .indexes = none := unknown
  refine ensures_indexes_of_object extension.known extension.isObject ?_
  refine (extension.toIsInterface.ensures_load .indexes
    (fun ask place => Members.indexesOfInterface ask place r.bindings) rule absent idle
    taken).consequence (fun _ => id) ?_
  rintro _ left ⟨found, inside, rfl, ⟨told, rfl, here⟩, -, kept, r', known, facts, content⟩
  have isObject : r'.category = .object :=
    (congrArg TypeFacts.category facts).trans extension.isObject
  have texts : ∀ p ∈ told, left.Remembers (fun ask => ask.text p.1.keyType) p.2 :=
    fun p among => (here.texts p among).keeps kept
  refine ⟨told, rfl, ⟨here.entries.keeps kept, texts⟩, .indexes known isObject content, ?_⟩
  exact fun p among =>
    texts p (List.mem_of_find?_eq_some (find?_of_mem_addNew_nil Prod.snd told p among))

/-- There are no call signatures, whatever the base has. -/
theorem ensures_calls (extension : s.Extension t r place node)
    (unanswered : ∀ calls, r.cache.calls = some calls → calls = []) :
    Ensures (· = s) (fun ask => ask.calls t) fun found _ => found = [] := by
  have rule (ask : Ask) : Answer.loader? ask t r .calls =
      some (Answer.syntaxOf r.toTypeFacts >>= fun found =>
        Members.callsOfInterface ask found.2 r.bindings) := by
    simp only [Answer.loader?, extension.isDeclared, Answer.declared?, extension.isObject,
      ne_eq, not_true_eq_false, if_false]
  suffices loaded : Ensures (· = s) (fun ask => ask.load? t .calls)
      fun found _ => found.getD [] = [] from loaded.bind fun _ => .pure fun _ => id
  rcases Answer.load_cases (fun _ => throw .exhausted) t .calls r with
    ⟨calls, there⟩ | ⟨unknown, settled⟩ | ⟨_, unknown, -, -, idle⟩
  · have empty : calls = [] := unanswered calls there
    subst empty
    refine (Remembers.load extension.known there).now.consequence (fun _ => id) ?_
    rintro _ left ⟨rfl, -⟩
    rfl
  · refine Ensures.asked (.ofRun ?_)
    rintro _ rfl
    exact ⟨none, _, fun _ => Answer.run_load_of_settled extension.known unknown settled, rfl⟩
  · have none : Ensures (· = s.mark t .calls)
        (fun ask => Members.callsOfInterface ask place r.bindings) fun found _ => found = [] := by
      simp only [Members.callsOfInterface_of_nothing extension.nothing]
      exact .pure fun _ _ => rfl
    refine (extension.toIsInterface.ensures_load .calls
      (fun ask place => Members.callsOfInterface ask place r.bindings) rule unknown idle
      none).consequence (fun _ => id) ?_
    rintro _ left ⟨_, inside, rfl, rfl, -⟩
    rfl

end Extension

end State

end TypeGloss
