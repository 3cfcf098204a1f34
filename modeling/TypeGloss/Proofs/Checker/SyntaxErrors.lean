/-
# TypeGloss.Proofs.Checker.SyntaxErrors — declarations whose syntax has an error

The type of a declaration is asked of the present version of its source, and before anything is
read its tree is searched for syntax errors. So a declaration that holds one is refused with the
place of the first, and nothing is learned from it (`Checker.run_typeOfDeclaration_of_error`).

What a name means stands in a source of the checker (`Checker.has_of_declarationByName`), and a
path that has a source keeps one, whatever is registered later (`State.present_through`). So a
declaration that was found by its name is refused for its syntax and never because its source is
missing (`Checker.typeOfDeclaration_malformed`).
-/
import TypeGloss.Proofs.Checker.Sources
import TypeGloss.Proofs.Lookup.Reachability
import TypeGloss.Proofs.Path.Canonical
import TypeGloss.Proofs.Tree.Errors

namespace TypeGloss

set_option autoImplicit false

/-! ## Sources of declarations -/

namespace Checker

variable {s : State} {source : Source} {name : String} {found : Lookup.Found}

/-- What a search finds stands in a source of the program. -/
theorem has_of_search {space : Lookup.Space} (question : Lookup.Question)
    (registered : s.toProgram.IsRegistered) (has : s.toProgram.Has question.source)
    (finds : (Lookup.search s.toProgram Lookup.maxSteps space question []).map Prod.fst =
      .ok (some found)) : s.toProgram.Has found.source := by
  cases searched : Lookup.search s.toProgram Lookup.maxSteps space question [] with
  | error fault => simp [searched, Except.map] at finds
  | ok trail =>
      obtain ⟨result, visited⟩ := trail
      obtain rfl : result = some found := by simpa [searched, Except.map] using finds
      obtain ⟨goal, reached, declares⟩ := Lookup.declares_of_search searched
      have hasGoal := Lookup.has_of_reaches registered reached has
      cases declares
      exact hasGoal

/-- What is visible in a file of the program is found in such a file. -/
theorem has_of_visible? {space : Lookup.Space} (registered : s.toProgram.IsRegistered)
    (has : s.toProgram.Has source)
    (finds : outcome (visible? source name space) s = .ok (some found)) :
    s.toProgram.Has found.source := by
  obtain ⟨inside, looked, finds⟩ := outcome_bind_eq_ok finds
  rw [(Lookup.lookup_timeless source name space).unchanged s] at finds
  cases inside with
  | some known =>
      cases finds
      exact has_of_search (.within source name) registered has
        ((Lookup.outcome_lookup source name space s).symm.trans looked)
  | none =>
      exact has_of_search (.exported source name) registered has
        ((Lookup.outcome_lookupExport source name space s).symm.trans finds)

/-- What a name means is found in a file of the program. -/
theorem has_of_meaning? (registered : s.toProgram.IsRegistered) (has : s.toProgram.Has source)
    (finds : outcome (meaning? source name) s = .ok (some found)) :
    s.toProgram.Has found.source := by
  obtain ⟨typed, looked, finds⟩ := outcome_bind_eq_ok finds
  rw [(visible?_timeless source name .types).unchanged s] at finds
  cases typed with
  | some known =>
      cases finds
      exact has_of_visible? registered has looked
  | none => exact has_of_visible? registered has finds

/-- A declaration that is found by its name stands in a source of the checker. -/
theorem has_of_declarationByName {path : String} {declaration : Declaration}
    (registered : s.toProgram.IsRegistered)
    (finds : outcome (declarationByName path name) s = .ok declaration) :
    ∃ source, Entries.find? declaration.path s.sources = some source := by
  obtain ⟨program, read, finds⟩ := outcome_bind_eq_ok finds
  obtain rfl : program = s.toProgram := (Except.ok.inj read).symm
  change outcome _ s = _ at finds
  split at finds
  · cases finds
  · next source present =>
      have has : s.toProgram.Has source := by
        rw [Program.Has, registered.path present]
        exact present
      obtain ⟨meaning, means, finds⟩ := outcome_bind_eq_ok finds
      split at finds
      · next target binding others =>
          cases finds
          exact ⟨target, has_of_meaning? registered has means⟩
      · cases finds

end Checker

/-! ## Sources that stay -/

/-- All sources stand under canonical paths. -/
def State.IsCanonical (s : State) : Prop :=
  ∀ {path : String} {source : Source}, Entries.find? path s.sources = some source →
    Path.normalize path = path

theorem State.IsCanonical.apply {s : State} (canonical : s.IsCanonical) (event : Event) :
    (event.apply s).IsCanonical := by
  intro path source found
  cases event with
  | asked x operation =>
      rw [Event.apply, show (after x s).sources = s.sources from
        congrArg Program.sources (operation.steady.first s).program] at found
      exact canonical found
  | added other root =>
      simp only [Event.apply, Checker.addSource, Entries.find?_put] at found
      split at found
      · next same => rw [same, Path.normalize_eq_iff_ofPath, Path.ofPath_normalize]
      · exact canonical found

theorem State.IsCanonical.through {s : State} (canonical : s.IsCanonical) (history : List Event) :
    (s.through history).IsCanonical := by
  induction history generalizing s with
  | nil => exact canonical
  | cons event rest ih => exact ih (canonical.apply event)

/-- A path that has a source keeps one, perhaps a newer one. -/
theorem State.present_through {s : State} {path : String} (history : List Event)
    (present : (Entries.find? path s.sources).isSome = true) :
    (Entries.find? path (s.through history).sources).isSome = true := by
  induction history generalizing s with
  | nil => exact present
  | cons event rest ih =>
      refine ih ?_
      have root := Event.root_apply s event path
      rw [← Option.isSome_map (f := Source.root), root, Option.isSome_or, Option.isSome_map,
        present, Bool.or_true]

/-- What was found by its name stands under a path that has a source from then on. -/
theorem State.present_of_declarationByName {identity : Nat} {settings : SourceSettings}
    {history : List Event} {path name : String} {declaration : Declaration}
    (finds : outcome (Checker.declarationByName path name)
      (State.through { identity, settings } history) = .ok declaration) (later : List Event) :
    ∃ source, Entries.find? (Path.normalize declaration.path)
        (State.through { identity, settings } (history ++ later)).sources = some source ∧
      source.path = declaration.path := by
  obtain ⟨known, found⟩ :=
    Checker.has_of_declarationByName (State.registered identity settings history) finds
  have empty : State.IsCanonical { identity, settings } := by
    intro path source found
    simp [Entries.find?] at found
  rw [empty.through history found]
  have joined : State.through { identity, settings } (history ++ later) =
      (State.through { identity, settings } history).through later := List.foldl_append
  have present := State.present_through later (by rw [found]; rfl)
  rw [← joined] at present
  obtain ⟨source, found'⟩ := Option.isSome_iff_exists.1 present
  exact ⟨source, found', (State.registered identity settings (history ++ later)).path found'⟩

/-! ## The fault of a declaration -/

/-- The fault of a file in which this is the first syntax error: its line and its column in
bytes, both from one, and the beginning of its text. -/
def Fault.ofError (path : String) (error : Tree) : Fault :=
  .malformed path (error.mark.first.row + 1) (error.mark.first.column + 1)
    (String.ofList (error.text.toList.take 80))

namespace Checker

variable {s : State} {declaration : Declaration}

/-- A declaration whose tree holds a syntax error has no type, and nothing is learned from it. -/
theorem run_typeOfDeclaration_of_error {node : Cursor} {error : Tree}
    (written : declaration.node = some node)
    (first : node.focus.preorder.find? Tree.isError = some error) :
    (typeOfDeclaration declaration).run.run s =
      (.error ((Entries.find? (Path.normalize declaration.path) s.sources).elim
        (.unknownSource declaration.path) (Fault.ofError ·.path error)), s) := by
  have stated : Inference.syntaxOf declaration = pure node := by
    rw [Inference.syntaxOf, written]
  have refused (source : Source) :
      Check.checkSyntax node source = throw (Fault.ofError source.path error) := by
    rw [Check.checkSyntax, Tree.findError_eq, first]
    rfl
  change (Inference.declarationType _ declaration).run.run s = _
  rw [Inference.declarationType, run_bind, outcome, after, Inference.run_presentSource]
  cases Entries.find? (Path.normalize declaration.path) s.sources with
  | none => rfl
  | some source =>
      simp only [Option.elim, stated, pure_bind, refused]
      rfl

/-- The first syntax error of a tree is the first of its preorder. A declaration whose tree holds
one is refused with the line and the column of the first, in every state in which its source is
there: in all that follow, if it was found by its name. -/
theorem typeOfDeclaration_malformed :
    (∀ t : Tree, (t.hasError = true ↔ ∃ u ∈ t.preorder, u.isError = true) ∧
      (t.findError = none ↔ ∀ u ∈ t.preorder, u.isError = false) ∧
      t.findError = t.preorder.find? Tree.isError ∧
      (t.hasError = true → t.isError = false →
        ∃ error, Tree.firstError t.children = some error)) ∧
    (∀ (text : String) (outline : Outline), ∀ error ∈ (Tree.ofOutline text outline).preorder,
      ∀ before, before = text.toUTF8.toList.take error.mark.start → ∀ path,
        Fault.ofError path error = .malformed path (before.count 10 + 1)
          ((before.reverse.takeWhile (· ≠ 10)).length + 1)
          (String.ofList (error.text.toList.take 80))) ∧
    ∀ (declaration : Declaration) (node : Cursor), declaration.node = some node →
      node.focus.hasError = true →
        ∃ error, node.focus.preorder.find? Tree.isError = some error ∧
          (∀ s, (typeOfDeclaration declaration).run.run s =
            (.error ((Entries.find? (Path.normalize declaration.path) s.sources).elim
              (.unknownSource declaration.path) (Fault.ofError ·.path error)), s)) ∧
          ∀ identity settings history path name,
            outcome (declarationByName path name) (State.through { identity, settings } history) =
                .ok declaration →
              ∀ later, outcome (typeOfDeclaration declaration)
                  (State.through { identity, settings } (history ++ later)) =
                .error (Fault.ofError declaration.path error) := by
  refine ⟨fun t => ⟨Tree.hasError_iff, Tree.findError_eq_none_iff, Tree.findError_eq t,
    Tree.exists_firstError⟩, ?_, ?_⟩
  · rintro text outline error inside before rfl path
    rw [Fault.ofError, Tree.first_ofOutline text outline error inside]
    rfl
  · intro declaration node written held
    obtain ⟨error, first⟩ := Option.isSome_iff_exists.1
      (List.find?_isSome.2 (Tree.hasError_iff.1 held))
    have refused (s : State) := run_typeOfDeclaration_of_error (s := s) written first
    refine ⟨error, first, refused, fun identity settings history path name finds later => ?_⟩
    obtain ⟨source, present, same⟩ := State.present_of_declarationByName finds later
    rw [outcome, refused, present, Option.elim, same]

end Checker

namespace MissingType

/-- The second line declares a type with two errors. The type of the property is missing, behind a
name of two bytes, and the sign behind it cannot be read. -/
def text : String := "\ntype A = { é: ; @ }"

def named (kind : String) (start stop : Nat) (field : Option String) (children : List Outline) :
    Outline :=
  .node kind start stop true false field children

/-- What a parser reports. -/
def outline : Outline :=
  named "program" 1 21 none
    [named "type_alias_declaration" 1 21 none
      [named "type_identifier" 6 7 (some "name") [],
       named "object_type" 10 21 (some "value")
        [named "property_signature" 12 15 none
          [named "property_identifier" 12 14 (some "name") [],
           named "type_annotation" 14 15 (some "type")
            [.node "type_identifier" 15 15 true true none []]],
         named "ERROR" 18 19 none []]]]

def root : Tree := Tree.ofOutline text outline

def statement : Tree := root.children.headD root

def declaration : Declaration :=
  ⟨.typeAlias, some "A", "a.ts", some ⟨statement, [⟨root, 0⟩]⟩⟩

def history : List Event := [.added "a.ts" root]

theorem outcome_declarationByName :
    outcome (Checker.declarationByName "a.ts" "A") (State.through {} history) =
      .ok declaration := by
  with_unfolding_all rfl

/-- The place of the missing type comes first. -/
theorem find?_isError : ∃ error, statement.preorder.find? Tree.isError = some error ∧
    Fault.ofError "a.ts" error = .malformed "a.ts" 2 15 "" := by
  refine ⟨.node ⟨"type_identifier", "", 15, 15, ⟨1, 14⟩, ⟨1, 14⟩, true, true, none⟩ [], ?_, ?_⟩
  · with_unfolding_all rfl
  · rfl

end MissingType

open MissingType in
/-- The type is missing on the second line, behind fourteen bytes of it. -/
theorem Checker.typeOfDeclaration_malformed_missing :
    outcome (declarationByName "a.ts" "A") (State.through {} history) = .ok declaration ∧
      ∀ later, outcome (typeOfDeclaration declaration) (State.through {} (history ++ later)) =
        .error (.malformed "a.ts" 2 15 "") := by
  obtain ⟨missing, found, fault⟩ := find?_isError
  have held : statement.hasError = true :=
    Tree.hasError_iff.2 (List.find?_isSome.1 (Option.isSome_iff_exists.2 ⟨missing, found⟩))
  obtain ⟨error, first, -, refused⟩ := typeOfDeclaration_malformed.2.2 declaration _ rfl held
  obtain rfl : missing = error := Option.some.inj (found.symm.trans first)
  refine ⟨outcome_declarationByName, fun later => ?_⟩
  rw [← fault]
  exact refused 0 {} history "a.ts" "A" outcome_declarationByName later

end TypeGloss
