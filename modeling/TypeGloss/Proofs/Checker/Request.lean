/-
# TypeGloss.Proofs.Checker.Request — questions that keep a checker lawful

A reader of types hands declarations and symbols back to the checker that it was given
before. A *request* is a question, or several, that hands in nothing but what obeys a law; it
leaves a lawful checker lawful (`Request.safe`).

Each question comes with what a lawful checker says in answer to it.
-/
import TypeGloss.Proofs.Checker.Inquiry
import TypeGloss.Proofs.Checker.SoundParts
import TypeGloss.Proofs.Module.Induction

namespace TypeGloss

set_option autoImplicit false

variable {law : Tree.Law}

/-! ## Sources -/

namespace Module.Scope

/-- Everything that a table declares obeys a law. -/
def TableObeys (law : Tree.Law) (table : Entries (List Binding)) : Prop :=
  ∀ (name : String) (bindings : List Binding), Entries.find? name table = some bindings →
    ∀ binding ∈ bindings, binding.node.Obeys law

theorem TableObeys.append {table : Entries (List Binding)} (before : TableObeys law table)
    {binding : Binding} (obeys : binding.node.Obeys law) :
    TableObeys law (Entries.append binding.name binding table) := by
  intro name bindings found other among
  rw [Entries.append, Entries.find?_put] at found
  split at found
  · cases found
    rcases List.mem_append.1 among with earlier | new
    · cases known : Entries.find? binding.name table with
      | none => simp [known] at earlier
      | some bindings =>
          rw [known] at earlier
          exact before binding.name bindings known other earlier
    · exact List.mem_singleton.1 new ▸ obeys
  · exact before name bindings found other among

theorem obeys_iff_tables {scope : Scope} :
    scope.Obeys law ↔ TableObeys law scope.types ∧ TableObeys law scope.values := by
  constructor
  · intro obeys
    exact ⟨fun name bindings found => obeys name .types bindings found,
      fun name bindings found => obeys name .values bindings found⟩
  · intro tables name space bindings found
    cases space with
    | types => exact tables.1 name bindings found
    | values => exact tables.2 name bindings found

theorem kept_obeys : Kept law (fun scope => scope.Obeys law) where
  empty := obeys_iff_tables.2 <| by constructor <;> intro name bindings found <;> cases found
  bind obeys before := by
    obtain ⟨types, values⟩ := obeys_iff_tables.1 before
    exact obeys_iff_tables.2
      (tables_bind (TableObeys law) (fun table => table.append obeys) types values)
  listed _ _ _ before := obeys_iff_tables.2 (obeys_iff_tables.1 before)

end Module.Scope

/-- Everything that is declared in a lawful tree is lawful. -/
theorem Source.obeys_ofTree {root : Tree} (lawful : law.holds root) (path : String) :
    Source.Obeys law ⟨path, root, Module.Scope.ofTree root⟩ := fun _ read =>
  Module.Scope.kept_obeys.ofTree lawful read

namespace State.Lawful

theorem start (identity : Nat) (settings : SourceSettings) :
    State.Lawful law { identity, settings } where
  sources found := by simp [Entries.find?] at found
  records known := by simp at known

theorem addSource {s : State} (lawful : s.Lawful law) (path : String) {root : Tree}
    (obeys : law.holds root) : (Checker.addSource path root s).2.Lawful law where
  sources {name source} found := by
    simp only [Checker.addSource, Entries.find?_put] at found
    split at found
    · cases found
      exact Source.obeys_ofTree obeys _
    · exact lawful.sources found
  records := lawful.records

end State.Lawful

namespace State.Keyed

theorem start (identity : Nat) (settings : SourceSettings) :
    State.Keyed { identity, settings } where
  made there := by simp at there

/-- A checker that is given a source has forgotten its keys. -/
theorem addSource (path : String) (root : Tree) (s : State) :
    (Checker.addSource path root s).2.Keyed where
  made there := by simp [Checker.addSource] at there

end State.Keyed

/-! ## Questions -/

namespace Checker

open Answer (careful_ask)

theorem text_safe (t : TypeId) : Safe law (text t) := (careful_ask law).text t

theorem simplified_safe (t : TypeId) : Safe law (simplified t) := (careful_ask law).simplified t

theorem properties_sound (t : TypeId) :
    Sound law (fun symbols => ∀ symbol ∈ symbols, symbol.IsDeclared law) (properties t) :=
  (careful_ask law).properties t

theorem indexes_safe (t : TypeId) : Safe law (indexes t) := (careful_ask law).indexes t

theorem partOf?_sound (categories : List Category) (t : TypeId) (part : Part) :
    Sound law (fun found => ∀ content ∈ found, part.Lawful law content)
      (partOf? categories t part) := by
  refine (Check.category_safe t).bind fun category => ?_
  split
  · exact (careful_ask law).load? t part
  · exact .pure (by simp)

/-- What holds of the content of a part holds of the list that stands for it. -/
theorem getD_sound {α : Type} {x : CheckM (Option (List α))} {P : List α → Prop}
    (empty : P []) (sound : Sound law (fun found => ∀ items ∈ found, P items) x) :
    Sound law P (do return (← x).getD []) := by
  refine sound.bind fun found known => .pure ?_
  cases found with
  | none => exact empty
  | some items => exact known items rfl

theorem classMembers_sound (t : TypeId) :
    Sound law (fun symbols => ∀ symbol ∈ symbols, symbol.IsDeclared law) (classMembers t) :=
  getD_sound (by simp) (partOf?_sound _ t .classMembers)

theorem calls_sound (t : TypeId) :
    Sound law (fun calls => ∀ call ∈ calls, call.IsDeclared law) (calls t) :=
  getD_sound (by simp) (partOf?_sound _ t .calls)

theorem constructs_sound (t : TypeId) :
    Sound law (fun calls => ∀ call ∈ calls, call.IsDeclared law) (constructs t) :=
  getD_sound (by simp) (partOf?_sound _ t .constructs)

theorem typeOfSymbol_safe {symbol : Symbol} (obeys : symbol.Obeys law) :
    Safe law (typeOfSymbol symbol) :=
  (careful_ask law).ofSymbol obeys

theorem typeOfDeclaration_safe {declaration : Declaration} (obeys : declaration.Obeys law) :
    Safe law (typeOfDeclaration declaration) :=
  (careful_ask law).ofDeclaration obeys

/-- What a name means in a lawful module is declared at lawful syntax. -/
theorem declarationByName_sound (path name : String) :
    Sound law (fun declaration => declaration.Obeys law) (declarationByName path name) := by
  have visible {source : Source} (home : source.Obeys law) (space : Lookup.Space) :
      Sound law (fun result => ∀ found ∈ result, found.Obeys law)
        (visible? source name space) := by
    refine (Lookup.lookup_sound home name space).bind fun result known => ?_
    split
    · exact .pure known
    · exact Lookup.lookupExport_sound home name space
  have meaning {source : Source} (home : source.Obeys law) :
      Sound law (fun result => ∀ found ∈ result, found.Obeys law) (meaning? source name) := by
    refine (visible home .types).bind fun result known => ?_
    split
    · exact .pure known
    · exact visible home .values
  refine Check.program_sound.bind fun program sources => ?_
  split
  · exact .throw _
  · next present =>
      refine (meaning (sources present)).bind fun result known => ?_
      split
      · next binding _ =>
          have obeys := (known _ rfl).bindings binding List.mem_cons_self
          exact .pure (Declaration.obeys_of_node rfl obeys)
      · exact .throw _

end Checker

/-! ## Requests -/

/-- A question, or several, that hands in nothing but what obeys a law. -/
inductive Request (law : Tree.Law) : {α : Type} → CheckM α → Prop where
  /-- A question to which the answer is known already. -/
  | reading {α : Type} {question : CheckM α} (still : ∀ s, after question s = s) :
      Request law question
  | text (t : TypeId) : Request law (Checker.text t)
  | simplified (t : TypeId) : Request law (Checker.simplified t)
  | properties (t : TypeId) : Request law (Checker.properties t)
  | indexes (t : TypeId) : Request law (Checker.indexes t)
  | part (categories : List Category) (t : TypeId) (part : Part) :
      Request law (Checker.partOf? categories t part)
  | typeOfSymbol {symbol : Symbol} (obeys : symbol.Obeys law) :
      Request law (Checker.typeOfSymbol symbol)
  | typeOfDeclaration {declaration : Declaration} (obeys : declaration.Obeys law) :
      Request law (Checker.typeOfDeclaration declaration)
  | andThen {α β : Type} {question : CheckM α} {next : α → CheckM β}
      (first : Request law question) (rest : ∀ a, Request law (next a)) :
      Request law (question >>= next)

/-- A lawful checker is lawful after a request. -/
theorem Request.safe {α : Type} {question : CheckM α} (request : Request law question) :
    Safe law question := by
  induction request with
  | reading still =>
      exact ⟨fun {s} start => by rwa [still s], fun {s} _ keyed => by rwa [still s],
        fun _ _ => trivial⟩
  | text t => exact Checker.text_safe t
  | simplified t => exact Checker.simplified_safe t
  | properties t => exact (Checker.properties_sound t).safe
  | indexes t => exact Checker.indexes_safe t
  | part categories t part => exact (Checker.partOf?_sound categories t part).safe
  | typeOfSymbol obeys => exact Checker.typeOfSymbol_safe obeys
  | typeOfDeclaration obeys => exact Checker.typeOfDeclaration_safe obeys
  | andThen first rest ih ihs => exact ih.bind ihs

end TypeGloss
