/-
# TypeGloss.Proofs.Checker.Recursion — recursive types that come to an end, and some that do not

A new checker that has been given some files is asked for the type of a declaration.

* If the nodes that the declaration reads unwind, it has an answer that takes finitely many
  nested questions, however its aliases refer to themselves and to each other: without
  parameters, or with arguments that they hand on.
* If the declaration is an alias that refers to itself with an array of its own parameter, in a
  place that is read before anything else, there is no limit on the nesting that is great
  enough: the checker fails.

So the guard of aliases that are being read through ends the first kind of recursion and not
the second.
-/
import TypeGloss.Proofs.Checker.Expansion
import TypeGloss.Proofs.Checker.Growing
import TypeGloss.Proofs.Checker.Sources

namespace TypeGloss

set_option autoImplicit false

/-! ## New checkers -/

/-- A new checker that has been given files, one after the other. -/
def State.ofFiles (identity : Nat) (settings : SourceSettings) (files : List (String × Tree)) :
    State :=
  State.through { identity, settings } (files.map fun file => .added file.1 file.2)

namespace State

/-- A new checker has made no types. -/
theorem ofFiles_eq (identity : Nat) (settings : SourceSettings) (files : List (String × Tree)) :
    ofFiles identity settings files = { toProgram := (ofFiles identity settings files).toProgram } := by
  have onwards (program : Program) :
      State.through { toProgram := program } (files.map fun file => .added file.1 file.2) =
        { toProgram := (State.through { toProgram := program }
            (files.map fun file => .added file.1 file.2)).toProgram } := by
    induction files generalizing program with
    | nil => rfl
    | cons file rest ih => exact ih _
  exact onwards { identity, settings }

/-- A checker that was just made is amid no expansion. -/
theorem amid_ofFiles (identity : Nat) (settings : SourceSettings) (files : List (String × Tree)) :
    Amid (ofFiles identity settings files).toProgram [] (ofFiles identity settings files) := by
  rw [ofFiles_eq]
  refine ⟨rfl, rfl, fun t r found => ?_⟩
  simp at found

/-- A checker that was just made is below every bound. -/
theorem rising_ofFiles (identity : Nat) (settings : SourceSettings) (files : List (String × Tree)) :
    Rising (ofFiles identity settings files).toProgram 0 (ofFiles identity settings files) := by
  rw [ofFiles_eq]
  refine ⟨rfl, fun key t found => ?_, fun element readonly t found => ?_, fun key held => ?_, ?_⟩
  · simp at found
  · simp at found
  · cases held
  · exact Nat.zero_le _

end State

/-! ## Three declarations -/

namespace Boxes

/-- A piece of syntax on the first line. -/
def piece (kind text : String) (start : Nat) (field : Option String) (children : List Tree) : Tree :=
  .node ⟨kind, text, start, start + text.length, ⟨0, start⟩, ⟨0, start + text.length⟩, true, false,
    field⟩ children

def identifier (text : String) (start : Nat) (field : Option String) : Tree :=
  piece "type_identifier" text start field []

/-- The type parameter `<T>`. -/
def parameter (start : Nat) : Tree :=
  piece "type_parameters" "<T>" start (some "type_parameters")
    [piece "type_parameter" "T" (start + 1) none [identifier "T" (start + 1) (some "name")]]

/-- A name with one argument. -/
def generic (name args : String) (start : Nat) (field : Option String) (argument : Tree) : Tree :=
  piece "generic_type" (name ++ args) start field
    [identifier name start (some "name"),
      piece "type_arguments" args (start + name.length) (some "type_arguments") [argument]]

/-- `type … <T> = …` -/
def aliasOf (name text : String) (start : Nat) (value : Tree) : Tree :=
  piece "type_alias_declaration" text start none
    [identifier name (start + 5) (some "name"), parameter (start + 6), value]

def box : Tree :=
  piece "interface_declaration" "interface Box<T> { v: T }" 0 none
    [identifier "Box" 10 (some "name"), parameter 13,
      piece "interface_body" "{ v: T }" 17 (some "body")
        [piece "property_signature" "v: T" 19 none
          [piece "property_identifier" "v" 19 (some "name") [],
            piece "type_annotation" ": T" 20 (some "type") [identifier "T" 22 none]]]]

def steady : Tree :=
  aliasOf "L" "type L<T> = Box<L<T>>" 26
    (generic "Box" "<L<T>>" 38 (some "value")
      (generic "L" "<T>" 42 none (identifier "T" 44 none)))

def growing : Tree :=
  aliasOf "A" "type A<T> = Box<A<T[]>>" 49
    (generic "Box" "<A<T[]>>" 61 (some "value")
      (generic "A" "<T[]>" 65 none (piece "array_type" "T[]" 67 none [identifier "T" 67 none])))

/-- The source `interface Box<T> { v: T } type L<T> = Box<L<T>>; type A<T> = Box<A<T[]>>`. -/
def root : Tree :=
  piece "program" "interface Box<T> { v: T } type L<T> = Box<L<T>>; type A<T> = Box<A<T[]>>" 0 none
    [box, steady, growing]

def files : List (String × Tree) := [("a.ts", root)]

def checker : State := State.ofFiles 0 {} files

def source : Source := ⟨"a.ts", root, Module.Scope.ofTree root⟩

/-- The child of a node at an index. -/
def down (node : Cursor) (index : Nat) : Cursor :=
  ⟨node.focus.children.getD index default, ⟨node.focus, index⟩ :: node.above⟩

/-- The right side of the statement at an index, and what is inside its arguments. -/
def valueOf (index : Nat) : Cursor := down (down (.ofTree root) index) 2

def useIn (index : Nat) : Cursor := down (down (valueOf index) 1) 0

def argumentIn (index : Nat) : Cursor := down (down (useIn index) 1) 0

def bindingOf (name : String) (kind : DeclarationKind) (index : Nat) : Module.Binding :=
  ⟨name, kind, down (.ofTree root) index, false⟩

def scope : Module.Scope :=
  { types := [("Box", [bindingOf "Box" .interface 0]), ("L", [bindingOf "L" .typeAlias 1]),
      ("A", [bindingOf "A" .typeAlias 2])] }

theorem sources_checker : checker.sources = [("a.ts", source)] := by
  with_unfolding_all rfl

theorem read_source : source.scope = .ok scope := by
  with_unfolding_all rfl

theorem find_source {path : String} {found : Source}
    (present : Entries.find? path checker.sources = some found) : found = source := by
  have listed := Entries.mem_of_find?_eq_some present
  rw [sources_checker, List.mem_singleton] at listed
  exact congrArg Prod.snd listed

/-- The only declaration of a name is found in one step. -/
theorem finds {name : String} {bindings : List Module.Binding}
    (declared : Entries.find? name scope.types = some bindings) :
    Lookup.search checker.toProgram Lookup.maxSteps .types (.within source name) [] =
      .ok (some ⟨source, bindings⟩, [("a.ts", name, .types)]) :=
  Lookup.search_of_declared read_source declared

/-! ### The steady alias -/

def steadyDeclaration : Declaration := ⟨.typeAlias, some "L", "a.ts", some (down (.ofTree root) 1)⟩

theorem form_value : Form.ofNode (valueOf 1) = .simple "Box" [useIn 1] := by
  with_unfolding_all rfl

theorem form_use : Form.ofNode (useIn 1) = .simple "L" [argumentIn 1] := by
  with_unfolding_all rfl

theorem form_argument : Form.ofNode (argumentIn 1) = .simple "T" [] := by
  with_unfolding_all rfl

theorem parameters_steady : (bindingOf "L" .typeAlias 1).parameters =
    [⟨"T", none, down (down (down (.ofTree root) 1) 1) 0⟩] := by
  with_unfolding_all rfl

/-- The nodes that the right side leads to. -/
def Inside (site : Site) : Prop :=
  site.source = source ∧ site.view = ["T"] ∧ site.node ∈ [valueOf 1, useIn 1, argumentIn 1]

/-- What a name without dots names in the source, if it is declared there. -/
theorem names_eq {view : List String} {name : String} {args argNodes : List Cursor} {target : Source}
    {binding only : Module.Binding} {rest : List Module.Binding}
    (declared : Entries.find? name scope.types = some [only])
    (names : Names checker.toProgram source view (.simple name args) argNodes ⟨target, binding :: rest⟩) :
    argNodes = args ∧ target = source ∧ binding = only := by
  obtain ⟨same, -, visited, found⟩ := names.of_simple
  rw [finds declared] at found
  cases found
  exact ⟨same, rfl, rfl⟩

/-- From the right side, reads lead back to it, and no new types come into view. -/
theorem inside_closed {site inner : Site} {passage : Passage} (inside : Inside site)
    (reads : Reads checker.toProgram site passage inner) : Inside inner ∧ passage ≠ .renewed := by
  obtain ⟨site, view, node⟩ := site
  obtain ⟨rfl, rfl, listed⟩ := inside
  simp only [List.mem_cons, List.not_mem_nil, or_false] at listed
  rcases listed with rfl | rfl | rfl
  · cases reads with
    | operand isOperand =>
        rw [form_value] at isOperand
        obtain rfl := List.mem_singleton.1 isOperand
        exact ⟨⟨rfl, rfl, by simp⟩, Passage.noConfusion⟩
    | fallback names isParameter isFallback =>
        rw [form_value] at names
        obtain ⟨rfl, rfl, rfl⟩ := names_eq (by with_unfolding_all rfl) names
        cases isParameter
    | value names isAlias isValue =>
        rw [form_value] at names
        obtain ⟨rfl, rfl, rfl⟩ := names_eq (by with_unfolding_all rfl) names
        cases isAlias
  · cases reads with
    | operand isOperand =>
        rw [form_use] at isOperand
        obtain rfl := List.mem_singleton.1 isOperand
        exact ⟨⟨rfl, rfl, by simp⟩, Passage.noConfusion⟩
    | fallback names isParameter isFallback =>
        rw [form_use] at names
        obtain ⟨rfl, rfl, rfl⟩ := names_eq (by with_unfolding_all rfl) names
        cases isParameter
    | value names isAlias isValue =>
        rw [form_use] at names
        obtain ⟨rfl, rfl, rfl⟩ := names_eq (by with_unfolding_all rfl) names
        have right : (bindingOf "L" .typeAlias 1).value? = some (valueOf 1) := by with_unfolding_all rfl
        obtain rfl := Option.some.inj (right.symm.trans isValue)
        have handedOn : Passage.through ["T"] (bindingOf "L" .typeAlias 1).parameters [argumentIn 1] =
            .handedOn := by
          with_unfolding_all rfl
        rw [handedOn, parameters_steady]
        exact ⟨⟨rfl, rfl, by simp⟩, Passage.noConfusion⟩
  · cases reads with
    | operand isOperand =>
        rw [form_argument] at isOperand
        cases isOperand
    | fallback names isParameter isFallback =>
        rw [form_argument] at names
        cases names.of_simple.2.1
    | value names isAlias isValue =>
        rw [form_argument] at names
        cases names.of_simple.2.1

theorem unwinds_steady (site : Site) (opens : Opens checker.toProgram steadyDeclaration site) :
    Unwinds checker.toProgram site := by
  have only : Inference.bindingsOf steadyDeclaration.name scope.types ++
      Inference.bindingsOf steadyDeclaration.name scope.values = [bindingOf "L" .typeAlias 1] := by
    with_unfolding_all rfl
  cases opens with
  | fallback found read listed isParameter isFallback =>
      obtain rfl := find_source found
      cases read_source.symm.trans read
      rw [only] at listed
      obtain rfl := List.mem_singleton.1 listed
      rw [parameters_steady] at isParameter
      obtain rfl := List.mem_singleton.1 isParameter
      cases isFallback
  | value found read listed isAlias isValue =>
      obtain rfl := find_source found
      cases read_source.symm.trans read
      rw [only] at listed
      obtain rfl := List.mem_singleton.1 listed
      have right : (bindingOf "L" .typeAlias 1).value? = some (valueOf 1) := by with_unfolding_all rfl
      obtain rfl := Option.some.inj (right.symm.trans isValue)
      rw [parameters_steady]
      have begins : Inside ⟨source, ["T"], valueOf 1⟩ := ⟨rfl, rfl, List.mem_cons_self⟩
      refine .of_closed begins (fun _ _ _ inside => inside_closed inside) ?_
      rintro ⟨source, view, node⟩ ⟨-, -, listed⟩ target
      simp only [List.mem_cons, List.not_mem_nil, or_false] at listed
      rcases listed with rfl | rfl | rfl
      · rw [form_value]
        exact Form.noConfusion
      · rw [form_use]
        exact Form.noConfusion
      · rw [form_argument]
        exact Form.noConfusion

/-! ### The growing alias -/

def growingDeclaration : Declaration := ⟨.typeAlias, some "A", "a.ts", some (down (.ofTree root) 2)⟩

def grows : GrowingDeclaration checker.toProgram growingDeclaration where
  source := source
  node := down (.ofTree root) 2
  scope := scope
  binding := bindingOf "A" .typeAlias 2
  others := []
  isAlias := rfl
  hasNode := rfl
  isSound := by with_unfolding_all rfl
  found := by with_unfolding_all rfl
  read := read_source
  listed := by with_unfolding_all rfl
  growing :=
    { parameter := ⟨"T", none, down (down (down (.ofTree root) 2) 1) 0⟩
      value := valueOf 2
      use := useIn 2
      name := "A"
      argument := argumentIn 2
      others := []
      visited := [("a.ts", "A", .types)]
      isAlias := rfl
      isSound := by with_unfolding_all rfl
      parameters := by with_unfolding_all rfl
      unapplied := rfl
      isValue := by with_unfolding_all rfl
      begins := .single (by with_unfolding_all rfl)
      isUse := by with_unfolding_all rfl
      grows := .name (by with_unfolding_all rfl)
        (show (argumentIn 2).parts = [down (argumentIn 2) 0] by with_unfolding_all rfl)
        (by with_unfolding_all rfl)
      finds := finds (by with_unfolding_all rfl) }

end Boxes

open Boxes

/-- Of a new checker with any files: the type of a declaration takes finitely many nested
questions if what the declaration reads unwinds. It cannot be found with any limit on the nesting
if the declaration is that of a growing alias. -/
theorem State.ofDeclaration_ends (identity : Nat) (settings : SourceSettings)
    (files : List (String × Tree)) (declaration : Declaration) :
    let s := State.ofFiles identity settings files
    (declaration.kind.bindsType = true →
      (∀ site, Opens s.toProgram declaration site → Unwinds s.toProgram site) →
        ∃ (depth : Nat) (result : Result TypeId × State),
          (∀ beyond, ((Answer.answerOver beyond depth).ofDeclaration declaration).run.run s = result) ∧
          (∀ limit, depth ≤ limit →
            ((Answer.answer limit).ofDeclaration declaration).run.run s = result) ∧
          (depth ≤ Answer.maxDepth →
            (Checker.typeOfDeclaration declaration).run.run s = result)) ∧
    (GrowingDeclaration s.toProgram declaration →
      (∀ limit, outcome ((Answer.answer limit).ofDeclaration declaration) s = .error .exhausted) ∧
        outcome (Checker.typeOfDeclaration declaration) s = .error .exhausted) := by
  intro s
  constructor
  · intro isType unwinds
    have registered := State.registered identity settings (files.map fun file => .added file.1 file.2)
    have settles : Settles (State.Amid s.toProgram []) (fun _ => True) fun ask =>
        ask.ofDeclaration declaration := Inference.ofDeclaration_settles registered isType unwinds
    obtain ⟨depth, result, bounded, stable⟩ := settles.answer (State.amid_ofFiles identity settings files)
    exact ⟨depth, result, bounded, stable, stable Answer.maxDepth⟩
  · intro growing
    have exhausted := growing.exhausted (State.rising_ofFiles identity settings files)
    exact ⟨exhausted, exhausted Answer.maxDepth⟩

/-- The alias `L<T>`, which is a box of `L<T>`, comes to an end, and the alias `A<T>`, which is a
box of `A<T[]>`, does not. -/
theorem State.ofDeclaration_ends_boxes :
    let s := State.ofFiles 0 {} Boxes.files
    (∃ (depth : Nat) (result : Result TypeId × State),
      (∀ beyond, ((Answer.answerOver beyond depth).ofDeclaration steadyDeclaration).run.run s = result) ∧
      (∀ limit, depth ≤ limit →
        ((Answer.answer limit).ofDeclaration steadyDeclaration).run.run s = result) ∧
      (depth ≤ Answer.maxDepth →
        (Checker.typeOfDeclaration steadyDeclaration).run.run s = result)) ∧
    (∀ limit, outcome ((Answer.answer limit).ofDeclaration growingDeclaration) s = .error .exhausted) ∧
      outcome (Checker.typeOfDeclaration growingDeclaration) s = .error .exhausted := by
  obtain ⟨ends, -⟩ := State.ofDeclaration_ends 0 {} Boxes.files steadyDeclaration
  obtain ⟨-, endless⟩ := State.ofDeclaration_ends 0 {} Boxes.files growingDeclaration
  exact ⟨ends rfl unwinds_steady, endless grows⟩

end TypeGloss
