/-
# TypeGloss.Proofs.Module.Induction — what holds of every scope that is read

A module is read statement by statement. Each statement declares something at a node of the
module's tree, or it changes what is imported, exported or passed on. So a property of scopes
that new declarations at nodes of a lawful tree keep, and that does not depend on imports and
exports, stays while statements of such a tree are read (`Scope.Stays.bindStatement`).
`Scope.Kept.ofTree` is the induction over all statements: if the property holds before the first
statement, it holds of every scope that is read from such a tree.
-/
import TypeGloss.Checker.Lookup
import TypeGloss.Proofs.Tree.Law

namespace TypeGloss.Module.Scope

set_option autoImplicit false

/-- A property that scopes do not lose while the statements of a module are read. -/
structure Stays (law : Tree.Law) (I : Scope → Prop) : Prop where
  bind : ∀ {scope : Scope} {binding : Binding}, binding.node.Obeys law → I scope →
    I (scope.bind binding)
  listed : ∀ {scope : Scope} (imports : Entries Import) (exports : Entries String)
    (reexports : List Reexport), I scope → I { scope with imports, exports, reexports }

/-- A property of scopes that is kept while the statements of a module are read. -/
structure Kept (law : Tree.Law) (I : Scope → Prop) : Prop extends Stays law I where
  empty : I {}

/-- A property of both tables that a new declaration keeps. -/
theorem tables_bind (T : Entries (List Binding) → Prop) {binding : Binding} {scope : Scope}
    (append : ∀ {table}, T table → T (Entries.append binding.name binding table))
    (types : T scope.types) (values : T scope.values) :
    T (scope.bind binding).types ∧ T (scope.bind binding).values := by
  unfold Scope.bind
  dsimp only
  split <;> split
  · exact ⟨append types, append values⟩
  · exact ⟨types, append values⟩
  · exact ⟨append types, values⟩
  · exact ⟨types, values⟩

namespace Stays

variable {law : Tree.Law} {I : Scope → Prop} (stays : Stays law I) {scope bound : Scope}
  {node : Cursor}

include stays

theorem addExport (exported localName : String) (holds : I scope) :
    I (scope.addExport exported localName) :=
  stays.listed scope.imports _ scope.reexports holds

theorem importAs (localName specifier : String) (imported : Option String) (holds : I scope) :
    I (scope.importAs localName specifier imported) :=
  stays.listed _ scope.exports scope.reexports holds

theorem bindAs (exported : Bool) (kind : DeclarationKind) (name : String)
    (obeys : node.Obeys law) (holds : I scope) : I (scope.bindAs exported kind name node) := by
  have bound : I (scope.bind ⟨name, kind, node, exported⟩) := stays.bind obeys holds
  unfold Scope.bindAs
  dsimp only
  split
  · exact stays.addExport name name bound
  · exact bound

theorem bindDeclaration (exported : Bool) (kind : DeclarationKind) (obeys : node.Obeys law)
    (holds : I scope) : I (scope.bindDeclaration exported kind node) := by
  unfold Scope.bindDeclaration
  split
  · exact stays.bindAs exported kind _ obeys holds
  · exact holds

theorem exportDefault (obeys : node.Obeys law) (holds : I scope) :
    I (scope.exportDefault node) := by
  unfold Scope.exportDefault
  split
  · exact stays.addExport _ _ holds
  · have bound : I (scope.bind ⟨"default", .variableDecl, node, true⟩) := stays.bind obeys holds
    exact stays.addExport _ _ bound

omit stays in
/-- What every step of a fold keeps is kept by the fold. -/
theorem foldl {α : Type} {f : Scope → α → Scope} {items : List α}
    (each : ∀ {scope : Scope}, ∀ a ∈ items, I scope → I (f scope a)) (holds : I scope) :
    I (items.foldl f scope) := by
  induction items generalizing scope with
  | nil => exact holds
  | cons a rest ih =>
      exact ih (fun b later => each b (List.mem_cons_of_mem _ later))
        (each a List.mem_cons_self holds)

theorem bindVariables (exported : Bool) (obeys : node.Obeys law) (holds : I scope) :
    I (scope.bindVariables exported node) := by
  refine foldl (fun {scope} declarator among holds => ?_) holds
  split
  · split
    · exact stays.bindAs _ _ _ (obeys.ofKinds among) holds
    · exact holds
  · exact holds

theorem bindImportPart (specifier : String) (part : Cursor) (holds : I scope) :
    I (scope.bindImportPart specifier part) := by
  unfold Scope.bindImportPart
  split
  · exact stays.importAs _ _ _ holds
  · split
    · split
      · exact stays.importAs _ _ _ holds
      · exact holds
    · split
      · refine foldl (fun {scope} entry _ holds => ?_) holds
        split
        · exact stays.importAs _ _ _ holds
        · exact holds
      · exact holds

/-- An export that declares nothing, or only a default. -/
theorem bindExportClause (obeys : node.Obeys law) (holds : I scope)
    (read : scope.bindExportClause node = .ok bound) : I bound := by
  unfold Scope.bindExportClause at read
  dsimp only at read
  split at read
  · next value _ found =>
      cases read
      exact stays.exportDefault (obeys.field? found) holds
  · split at read
    · cases specifier : Literal.stringValue _ with
      | error fault =>
          rw [specifier] at read
          cases read
      | ok text =>
          rw [specifier] at read
          simp only [Bind.bind, Except.bind] at read
          split at read
          · cases read
            exact stays.listed scope.imports scope.exports _ holds
          · split at read
            · cases read
              exact holds
            · cases read
              exact stays.listed scope.imports scope.exports _ holds
    · split at read
      · cases read
        exact stays.listed scope.imports _ scope.reexports holds
      · cases read
        exact holds

theorem bindImport (holds : I scope) (read : scope.bindImport node = .ok bound) : I bound := by
  unfold Scope.bindImport at read
  split at read
  · cases read
    exact holds
  · cases specifier : Literal.stringValue _ with
    | error fault =>
        rw [specifier] at read
        cases read
    | ok text =>
        rw [specifier] at read
        simp only [Bind.bind, Except.bind] at read
        split at read
        · cases read
          exact holds
        · cases read
          exact foldl (fun part _ holds => stays.bindImportPart text part holds) holds

omit stays in
/-- What every step of a fold that may fail keeps is kept by the fold. -/
theorem foldlM {α : Type} {f : Scope → α → Result Scope} {items : List α}
    (each : ∀ {scope bound : Scope}, ∀ a ∈ items, I scope → f scope a = .ok bound → I bound)
    (holds : I scope) (read : items.foldlM f scope = .ok bound) : I bound := by
  induction items generalizing scope with
  | nil =>
      cases read
      exact holds
  | cons a rest ih =>
      rw [List.foldlM_cons] at read
      cases first : f scope a with
      | error fault =>
          rw [first] at read
          cases read
      | ok next =>
          rw [first] at read
          exact ih (fun b later => each b (List.mem_cons_of_mem _ later))
            (each a List.mem_cons_self holds first) read

omit stays in
/-- What one step of a fold brings about, and every step keeps, holds in the end. -/
theorem foldlM_of_mem {α : Type} {f : Scope → α → Result Scope} {items : List α} {a : α}
    (among : a ∈ items) (here : ∀ {scope bound : Scope}, f scope a = .ok bound → I bound)
    (each : ∀ {scope bound : Scope}, ∀ b ∈ items, I scope → f scope b = .ok bound → I bound)
    (read : items.foldlM f scope = .ok bound) : I bound := by
  induction items generalizing scope with
  | nil => cases among
  | cons b rest ih =>
      rw [List.foldlM_cons] at read
      cases first : f scope b with
      | error fault =>
          rw [first] at read
          cases read
      | ok next =>
          rw [first] at read
          rcases List.mem_cons.1 among with rfl | later
          · exact foldlM (fun c later => each c (List.mem_cons_of_mem _ later)) (here first) read
          · exact ih later (fun c later => each c (List.mem_cons_of_mem _ later)) read

theorem bindStatement {exported : Bool} (obeys : node.Obeys law) (holds : I scope)
    (read : scope.bindStatement exported node = .ok bound) : I bound := by
  fun_induction Scope.bindStatement exported node scope generalizing bound with
  | case1 exported node scope kind known =>
      cases read
      exact stays.bindDeclaration _ _ obeys holds
  | case2 exported node scope _ _ declaration found ih =>
      cases inner : Scope.bindStatement true declaration scope with
      | error fault =>
          rw [inner] at read
          cases read
      | ok result =>
          have inside := ih (obeys.field? found) holds inner
          rw [inner] at read
          simp only [Bind.bind, Except.bind] at read
          split at read
          · cases read
            exact stays.addExport _ _ inside
          · cases read
            exact inside
  | case3 exported node scope => exact stays.bindExportClause obeys holds read
  | case4 exported node scope _ _ _ ih =>
      exact foldlM (fun child _ holds read => ih _ child (obeys.named child.2) holds read)
        holds read
  | case5 exported node scope =>
      cases read
      exact stays.bindVariables exported obeys holds
  | case6 exported node scope => exact stays.bindImport holds read
  | case7 exported node scope =>
      cases read
      exact holds

end Stays

/-- What is kept while statements are read holds of the scope of every module whose tree
obeys the law. -/
theorem Kept.ofTree {law : Tree.Law} {I : Scope → Prop} (kept : Kept law I) {root : Tree}
    (lawful : law.holds root) {scope : Scope} (read : Scope.ofTree root = .ok scope) : I scope := by
  refine Stays.foldlM (fun node among holds read => ?_) kept.empty read
  exact kept.bindStatement ((Cursor.obeys_ofTree lawful).named among) holds read

end TypeGloss.Module.Scope
