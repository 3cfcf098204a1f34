/-
# TypeGloss.Proofs.Resolution.History — what becomes of a checker in the course of time

A checker is given sources and asked questions, in any order, and each question is
answered or comes to a fault. A *history* is a list of such events, and a state is
reachable if some history leads to it from a new checker.

* `through_stable`: in every reachable state nothing is being found, expanded or inferred;
  whatever has been found is the same in every state that the checker comes to later; and
  a documentation tree that was made is made again if it is asked for again. A fault in
  the declaration itself arises again, too. A fault that arises elsewhere need not: what
  was learned on the way to it is kept, and may lead the second attempt past it.
* `document_settled`: between two changes of the sources, the first tree that is made of
  a declaration is the one that is made ever after, whatever is asked meanwhile; which
  declaration is meant, and so what is said of it at the root of the tree, does not
  depend on the history at all. What stands further down may depend on what was asked
  before the first time.
-/
import TypeGloss.Proofs.Resolution.Stability

namespace TypeGloss

set_option autoImplicit false

/-! ## Histories -/

/-- What can be asked of a checker: a question, or a documentation tree. -/
inductive Operation : {α : Type} → CheckM α → Prop where
  | inquiry {α : Type} {question : CheckM α} (asked : Inquiry question) : Operation question
  | resolveType (plan : Plan) (t : TypeId) (declaration : Option Declaration) :
      Operation (Resolution.resolveType plan t declaration)
  | resolveProperties (plan : Plan) (t : TypeId) (declaration : Option Declaration) :
      Operation (Resolution.resolveProperties plan t declaration)
  | resolveDeclaration (plan : Plan) (path name : String) :
      Operation (Resolution.resolveDeclaration plan path name)

theorem Operation.steady {α : Type} {x : CheckM α} (operation : Operation x) : Steady x x := by
  cases operation with
  | inquiry asked => exact asked.steady
  | resolveType plan t declaration => exact Resolution.resolveType_steady plan t declaration
  | resolveProperties plan t declaration =>
      exact Resolution.resolveProperties_steady plan t declaration
  | resolveDeclaration plan path name =>
      exact Resolution.resolveDeclaration_steady plan path name

/-- What happens to a checker. -/
inductive Event where
  /-- Something is asked, and answered or not. -/
  | asked {α : Type} (x : CheckM α) (operation : Operation x)
  /-- A source is registered. -/
  | added (path : String) (root : Tree)

namespace Event

/-- The state after an event. -/
def apply (s : State) : Event → State
  | asked x _ => after x s
  | added path root => (Checker.addSource path root s).2

/-- Does an event leave the sources as they are? -/
def isQuestion : Event → Bool
  | asked _ _ => true
  | added _ _ => false

end Event

/-- The state that a history leads to. -/
def State.through (s : State) (history : List Event) : State :=
  history.foldl Event.apply s

/-! ## Rest -/

/-- Nothing is being expanded, inferred or loaded. -/
structure State.IsQuiescent (s : State) : Prop where
  expanding : s.expanding = []
  inferring : s.inferring = []
  loading : ∀ {t : TypeId} {r : TypeRecord}, s.records[t]? = some r → r.loading = []

namespace State.IsQuiescent

theorem start (identity : Nat) (settings : SourceSettings) :
    State.IsQuiescent { identity, settings } where
  expanding := rfl
  inferring := rfl
  loading known := by simp at known

theorem of_extends {s s' : State} (quiescent : s.IsQuiescent) (extended : s.Extends s') :
    s'.IsQuiescent where
  expanding := extended.expanding.trans quiescent.expanding
  inferring := extended.inferring.trans quiescent.inferring
  loading {t r'} known := by
    cases before : s.records[t]? with
    | none => exact extended.idle known before
    | some r =>
        obtain ⟨later, found, grows⟩ := extended.records before
        obtain rfl : later = r' := Option.some.inj (found.symm.trans known)
        rw [grows.loading, quiescent.loading before]

theorem apply {s : State} (quiescent : s.IsQuiescent) (event : Event) :
    (event.apply s).IsQuiescent := by
  cases event with
  | asked x operation => exact quiescent.of_extends (operation.steady.first s)
  | added path root => exact ⟨quiescent.expanding, quiescent.inferring, quiescent.loading⟩

theorem through {s : State} (quiescent : s.IsQuiescent) (history : List Event) :
    (s.through history).IsQuiescent := by
  induction history generalizing s with
  | nil => exact quiescent
  | cons event rest ih => exact ih (quiescent.apply event)

end State.IsQuiescent

/-! ## Memory -/

/-- Everything that has been found stays as it was found: the parts and the texts of
types, and the types of members. -/
structure State.Keeps (s s' : State) : Prop where
  types : ∀ {t : TypeId} {r : TypeRecord}, s.records[t]? = some r →
    ∃ r', s'.records[t]? = some r' ∧
      (∀ {part content}, r.cache.get? part = some content →
        r'.cache.get? part = some content) ∧
      ∀ {text}, r.label = some text → r'.label = some text
  slots : ∀ {slot : Nat} {t : TypeId}, s.slots[slot]? = some (some t) →
    s'.slots[slot]? = some (some t)

namespace State.Keeps

theorem refl (s : State) : s.Keeps s where
  types {_ r} known := ⟨r, known, fun kept => kept, fun kept => kept⟩
  slots known := known

theorem trans {s s' s'' : State} (first : s.Keeps s') (second : s'.Keeps s'') :
    s.Keeps s'' where
  types known := by
    obtain ⟨r', known', parts, labels⟩ := first.types known
    obtain ⟨r'', known'', parts', labels'⟩ := second.types known'
    exact ⟨r'', known'', fun kept => parts' (parts kept), fun kept => labels' (labels kept)⟩
  slots known := second.slots (first.slots known)

theorem of_extends {s s' : State} (extended : s.Extends s') : s.Keeps s' where
  types known := by
    obtain ⟨r', known', grows⟩ := extended.records known
    exact ⟨r', known', grows.kept, grows.labelled⟩
  slots := extended.slots

theorem apply (s : State) (event : Event) : s.Keeps (event.apply s) := by
  cases event with
  | asked x operation => exact of_extends (operation.steady.first s)
  | added path root => exact ⟨(refl s).types, (refl s).slots⟩

theorem through (s : State) (history : List Event) : s.Keeps (s.through history) := by
  induction history generalizing s with
  | nil => exact refl s
  | cons event rest ih => exact (apply s event).trans (ih _)

end State.Keeps

/-- While nothing but questions are asked, a state is extended. -/
theorem State.Extends.through (s : State) (history : List Event)
    (questions : ∀ event ∈ history, event.isQuestion = true) :
    s.Extends (s.through history) := by
  induction history generalizing s with
  | nil => exact .refl s
  | cons event rest ih =>
      have others := ih (event.apply s) fun event later =>
        questions event (List.mem_cons_of_mem _ later)
      have question := questions event List.mem_cons_self
      cases event with
      | asked x operation => exact (operation.steady.first s).trans others
      | added path root => simp [Event.isQuestion] at question

/-! ## Faults of a declaration -/

namespace Checker

/-- The declaration of a name must be there, and without a syntax error of its own. -/
def wellDeclared (path name : String) : CheckM Unit := do
  let declaration ← declarationByName path name
  let source ← Inference.presentSource declaration
  let node ← Inference.syntaxOf declaration
  Check.checkSyntax node source

theorem wellDeclared_timeless (path name : String) : Timeless (wellDeclared path name) := by
  refine (declarationByName_timeless path name).bind fun declaration => ?_
  refine (Inference.presentSource_timeless declaration).bind fun source => ?_
  refine (Inference.syntaxOf_timeless declaration).bind fun node => ?_
  exact Check.checkSyntax_timeless node source

/-- A fault of the declaration is the fault that its documentation comes to. -/
theorem resolveDeclaration_of_fault {path name : String} {s : State} {fault : Fault}
    (failed : outcome (wellDeclared path name) s = .error fault) (plan : Plan) :
    outcome (Resolution.resolveDeclaration plan path name) s = .error fault := by
  refine outcome_bind_error_of (fun declaration s failed => ?_) failed
  refine outcome_bind_error (outcome_bind_error_of (fun source s failed => ?_) failed)
  refine outcome_bind_error_of (fun node s failed => ?_) failed
  exact outcome_bind_error failed

end Checker

/-! ## The root of a tree -/

/-- A declaration that is found by its name has a name. -/
theorem Checker.name_of_declarationByName {path name : String} {s : State}
    {declaration : Declaration}
    (found : outcome (declarationByName path name) s = .ok declaration) :
    ∃ known, declaration.name = some known := by
  obtain ⟨program, -, found⟩ := outcome_bind_eq_ok found
  split at found
  · cases found
  · obtain ⟨meaning, -, found⟩ := outcome_bind_eq_ok found
    split at found
    · cases found
      exact ⟨_, rfl⟩
    · cases found

/-- The root of a tree bears the declaration that the name means. -/
theorem Resolution.root_of_resolveDeclaration {plan : Plan} {path name : String} {s : State}
    {tree : Node} (returned : outcome (resolveDeclaration plan path name) s = .ok (some tree)) :
    ∃ declaration header, outcome (Checker.declarationByName path name) s = .ok declaration ∧
      tree.header = rootHeader declaration header := by
  obtain ⟨declaration, found, returned⟩ := outcome_bind_eq_ok returned
  obtain ⟨t, -, returned⟩ := outcome_bind_eq_ok returned
  obtain ⟨node, -, rooted⟩ := outcome_bind_eq_ok returned
  cases node with
  | none => cases rooted
  | some node =>
      cases rooted
      exact ⟨declaration, node.header, found, Node.header_mapHeader _ node⟩

/-! ## A checker that knows one alias -/

namespace AliasOfString

def word (kind text : String) (start stop : Nat) (field : Option String) : Tree :=
  .node ⟨kind, text, start, stop, ⟨0, start⟩, ⟨0, stop⟩, true, false, field⟩ []

def statement : Tree :=
  .node ⟨"type_alias_declaration", "type A = string", 0, 15, ⟨0, 0⟩, ⟨0, 15⟩, true, false, none⟩
    [word "type_identifier" "A" 5 6 (some "name"),
      word "predefined_type" "string" 9 15 (some "value")]

/-- The source `type A = string`. -/
def source : Tree :=
  .node ⟨"program", "type A = string", 0, 15, ⟨0, 0⟩, ⟨0, 15⟩, true, false, none⟩ [statement]

def declaration : Declaration :=
  ⟨.typeAlias, some "A", "a.ts", some ⟨statement, [⟨source, 0⟩]⟩⟩

def registered : State := State.through {} [.added "a.ts" source]

/-- The state in which the one type of the source has been made. -/
def learned : State :=
  { registered with
    interned := registered.interned.insert (.primitive .string) 0
    records := #[
      { category := .primitive, label := some "string", name := some "string",
        primitive := some .string }] }

def plan : Plan := ⟨{}, fun _ => true⟩

def document : CheckM (Option Node) := Resolution.resolveDeclaration plan "a.ts" "A"

def tree : Node :=
  .primitive
    { kind := .string, type := "string", name := some "A", filePath := some "a.ts",
      position := some ⟨⟨1, 1⟩, ⟨1, 16⟩⟩ }
    .null

theorem run_declarationByName :
    (Checker.declarationByName "a.ts" "A").run.run registered = (.ok declaration, registered) := by
  with_unfolding_all rfl

theorem run_typeOfDeclaration :
    (Checker.typeOfDeclaration declaration).run.run registered = (.ok 0, learned) := by
  -- The alias is being expanded while its right-hand side is read.
  have expanded : (Checker.typeOfDeclaration declaration).run.run registered =
      ((Check.primitive .string).run.run { registered with expanding := [⟨"a.ts", 0, []⟩] }).map
        id fun s => { s with expanding := s.expanding.erase ⟨"a.ts", 0, []⟩ } := by
    with_unfolding_all rfl
  rw [expanded, Check.primitive, Check.run_intern_of_none Std.HashMap.getElem?_empty]
  rfl

theorem run_resolveType :
    (Resolution.resolveType plan 0 (some declaration)).run.run learned =
      (.ok (some tree), learned) := by
  with_unfolding_all rfl

theorem outcome_document : outcome document registered = .ok (some tree) := by
  have named : outcome (Checker.declarationByName "a.ts" "A") registered = .ok declaration := by
    rw [outcome, run_declarationByName]
  have typed : outcome (Checker.typeOfDeclaration declaration) registered = .ok 0 := by
    rw [outcome, run_typeOfDeclaration]
  rw [document, Resolution.resolveDeclaration, outcome_bind_ok named, after, run_declarationByName,
    outcome_bind_ok typed, after, run_typeOfDeclaration, outcome, run_resolveType]

theorem outcome_undeclared :
    outcome (Checker.wellDeclared "a.ts" "B") registered = .error (.undeclared "a.ts" "B") := by
  with_unfolding_all rfl

end AliasOfString

open AliasOfString

/-! ## Stability -/

/-- In every state that a checker can come to, nothing is being found, and what was found
stays; a documentation tree that was made is made again, and a fault of the declaration
arises again. -/
theorem State.through_stable (identity : Nat) (settings : SourceSettings)
    (history : List Event) :
    let s := State.through { identity, settings } history
    s.IsQuiescent ∧ (∀ later : List Event, s.Keeps (s.through later)) ∧
      ∀ (plan : Plan) (path name : String),
        let document := Resolution.resolveDeclaration plan path name
        (∀ tree, outcome document s = .ok tree →
          outcome document (after document s) = .ok tree) ∧
        ∀ fault, outcome (Checker.wellDeclared path name) s = .error fault →
          outcome document s = .error fault ∧
            outcome document (after document s) = .error fault := by
  intro s
  refine ⟨(IsQuiescent.start identity settings).through history, Keeps.through s, ?_⟩
  intro plan path name document
  have steady : Steady document document := Resolution.resolveDeclaration_steady plan path name
  constructor
  · intro tree returned
    exact steady.again returned (.refl _)
  · intro fault failed
    have program := (steady.first s).program
    have failedAgain := ((Checker.wellDeclared_timeless path name).same program).trans failed
    exact ⟨Checker.resolveDeclaration_of_fault failed plan,
      Checker.resolveDeclaration_of_fault failedAgain plan⟩

/-- The alias is documented twice in the same way, and a name that nothing declares is
missed twice. -/
theorem State.through_stable_aliasOfString :
    let s := State.through {} [.added "a.ts" source]
    s.IsQuiescent ∧ outcome document s = .ok (some tree) ∧
      outcome document (after document s) = .ok (some tree) ∧
      let missing := Resolution.resolveDeclaration plan "a.ts" "B"
      outcome (Checker.wellDeclared "a.ts" "B") s = .error (.undeclared "a.ts" "B") ∧
        outcome missing (after missing s) = .error (.undeclared "a.ts" "B") := by
  obtain ⟨quiescent, -, documents⟩ := State.through_stable 0 {} [.added "a.ts" source]
  have repeated := (documents plan "a.ts" "A").1 _ outcome_document
  have missed := (documents plan "a.ts" "B").2 _ outcome_undeclared
  exact ⟨quiescent, outcome_document, repeated, outcome_undeclared, missed.2⟩

/-- As long as the sources stay as they are, the first tree that is made of a declaration
is the one that is made ever after. Faults of the declaration, and what the root says
about it, are the same after any questions as before them. -/
theorem State.document_settled (s : State) (history later : List Event)
    (questions : ∀ event ∈ history ++ later, event.isQuestion = true) (plan : Plan)
    (path name : String) :
    let document := Resolution.resolveDeclaration plan path name
    let reached := s.through history
    (∀ result, outcome document reached = .ok result →
      outcome document ((after document reached).through later) = .ok result) ∧
    (∀ fault, outcome (Checker.wellDeclared path name) s = .error fault →
      outcome document reached = .error fault) ∧
    ∀ early late : Node, outcome document s = .ok (some early) →
      outcome document reached = .ok (some late) →
        late.header.name = early.header.name ∧
          late.header.filePath = early.header.filePath ∧
            late.header.position = early.header.position := by
  intro document reached
  have before : s.Extends reached :=
    .through s history fun event asked => questions event (List.mem_append_left _ asked)
  refine ⟨fun result returned => ?_, fun fault failed => ?_, fun early late first second => ?_⟩
  · have after : (after document reached).Extends ((after document reached).through later) :=
      .through _ later fun event asked => questions event (List.mem_append_right _ asked)
    exact (Resolution.resolveDeclaration_steady plan path name).again returned after
  · have failedAgain :=
      ((Checker.wellDeclared_timeless path name).same before.program).trans failed
    exact Checker.resolveDeclaration_of_fault failedAgain plan
  · obtain ⟨declaration, header, found, root⟩ := Resolution.root_of_resolveDeclaration first
    obtain ⟨declaration', header', found', root'⟩ :=
      Resolution.root_of_resolveDeclaration second
    have same := (Checker.declarationByName_timeless path name).same before.program
    obtain rfl : declaration' = declaration :=
      Except.ok.inj (found'.symm.trans (same.trans found))
    obtain ⟨known, named⟩ := Checker.name_of_declarationByName found
    simp [root, root', Resolution.rootHeader, named]

/-- The tree of the alias is the same after a question, after its own making, and after
another question. -/
theorem State.document_settled_aliasOfString :
    let question := Event.asked _ (.inquiry (.declarationByName "a.ts" "B"))
    let reached := registered.through [question]
    outcome document registered = .ok (some tree) ∧ outcome document reached = .ok (some tree) ∧
      outcome document ((after document reached).through [question]) = .ok (some tree) := by
  intro question reached
  have unchanged : reached = registered :=
    (Checker.declarationByName_timeless "a.ts" "B").unchanged registered
  have returned : outcome document reached = .ok (some tree) := by
    rw [unchanged, outcome_document]
  have questions : ∀ event ∈ [question] ++ [question], event.isQuestion = true := by
    simp [question, Event.isQuestion]
  have settled := State.document_settled registered [question] [question] questions plan "a.ts" "A"
  exact ⟨outcome_document, returned, settled.1 _ returned⟩

end TypeGloss
