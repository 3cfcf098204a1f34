/-
# TypeGloss.Proofs.Module.Declared — a function at the top of a module is one of its values

A name is found in two ways where it is used: outward through the blocks of the text, up to the
statements at the top of the module, or in the table of values that was made when the module was
read. What stands in the table under a name was declared under that name (`named_of_ofTree`). A
function that is found among the statements at the top stands in the table
(`mem_values_of_scopeDeclaration?`), but not the other way around: only a declaration with a body
is a statement that declares a function, and the table has the overloads too.
-/
import TypeGloss.Proofs.Entries
import TypeGloss.Proofs.Module.Induction

namespace TypeGloss

set_option autoImplicit false

/-- A list in a table grows by the item that is appended under its name, and by nothing else. -/
theorem Entries.mem_find?_append {α : Type} {name other : String} {item new : α}
    {table : Entries (List α)} :
    item ∈ (Entries.find? name (Entries.append other new table)).getD [] ↔
      item ∈ (Entries.find? name table).getD [] ∨ name = other ∧ item = new := by
  rw [Entries.append, Entries.find?_put]
  by_cases same : name = other <;> simp [same]

namespace Module.Scope

variable {scope bound : Scope} {name : String}

/-- The values that a scope has under a name. -/
def valuesOf (name : String) (scope : Scope) : List Binding :=
  (Entries.find? name scope.values).getD []

/-- A declaration is added to those of its name. -/
theorem mem_valuesOf_bind {binding other : Binding} :
    other ∈ (scope.bind binding).valuesOf name ↔ other ∈ scope.valuesOf name ∨
      binding.kind.bindsValue = true ∧ name = binding.name ∧ other = binding := by
  have values : (scope.bind binding).values =
      if binding.kind.bindsValue then Entries.append binding.name binding scope.values
      else scope.values := by
    unfold Scope.bind
    dsimp only
    split <;> split <;> rfl
  rw [valuesOf, values]
  split
  · next isValue => simp [Entries.mem_find?_append, isValue, valuesOf]
  · next noValue => simp [noValue, valuesOf]

/-- What a scope has under a name was declared under that name. -/
theorem kept_named : Kept .free fun scope =>
    ∀ (name : String), ∀ binding ∈ scope.valuesOf name, binding.name = name where
  empty _ _ among := absurd among List.not_mem_nil
  bind _ named name other among := by
    rcases mem_valuesOf_bind.1 among with before | ⟨-, rfl, rfl⟩
    · exact named name other before
    · rfl
  listed _ _ _ named := named

theorem named_of_ofTree {root : Tree} (read : ofTree root = .ok scope) {binding : Binding}
    (among : binding ∈ scope.valuesOf name) : binding.name = name :=
  kept_named.ofTree trivial read name binding among

/-- A scope has a function under a name that a node declares. -/
def HasFunction (name : String) (node : Cursor) (scope : Scope) : Prop :=
  ∃ binding ∈ scope.valuesOf name, binding.kind = .function ∧ binding.node = node

theorem stays_hasFunction (name : String) (node : Cursor) :
    Stays .free (HasFunction name node) where
  bind _ := fun ⟨binding, among, declares⟩ =>
    ⟨binding, mem_valuesOf_bind.2 (.inl among), declares⟩
  listed _ _ _ has := has

/-! ## Functions at the top -/

variable {node declaration : Cursor} {exported : Bool}

/-- A function that is bound under its own name is known under it. -/
theorem hasFunction_bindDeclaration (named : textOf (node.field? "name") = name)
    (nonempty : name ≠ "") :
    (scope.bindDeclaration exported .function node).HasFunction name node := by
  unfold bindDeclaration
  cases found : node.field? "name" with
  | none =>
      rw [found] at named
      exact absurd named.symm nonempty
  | some nameNode =>
      rw [found] at named
      obtain rfl : nameNode.text = name := named
      have bound : (scope.bind ⟨nameNode.text, .function, node, exported⟩).HasFunction
          nameNode.text node :=
        ⟨_, mem_valuesOf_bind.2 (.inr ⟨rfl, rfl, rfl⟩), rfl, rfl⟩
      dsimp only
      unfold bindAs
      dsimp only
      split
      · exact (stays_hasFunction _ _).addExport _ _ bound
      · exact bound

/-- A statement that declares a function under a name is the declaration, or exports it. -/
theorem function_of_declaredIn? (declares : Lookup.declaredIn? name node = some declaration)
    (isFunction : declaration.kind ∈ Grammar.functionDeclarations) :
    Lookup.exportedStatement? node = some declaration ∧
      textOf (declaration.field? "name") = name := by
  obtain ⟨inner, exported, found⟩ := Option.bind_eq_some_iff.1 declares
  split at found
  · have kind := (List.mem_filter.1 (List.mem_of_find?_eq_some found)).2
    simp only [List.contains_cons, List.contains_nil, Bool.or_false, beq_iff_eq] at kind
    rw [kind] at isFunction
    exact absurd isFunction (by decide)
  · split at found
    · split at found
      · next named =>
          cases found
          exact ⟨exported, beq_iff_eq.1 named⟩
      · cases found
    · cases found

/-- A function is bound as a declaration. -/
theorem bindStatement_function (isFunction : node.kind ∈ Grammar.functionDeclarations) :
    scope.bindStatement exported node = .ok (scope.bindDeclaration exported .function node) := by
  have function : DeclarationKind.ofStatement? node.kind = some .function := by
    rcases List.mem_cons.1 isFunction with same | same
    · rw [same]
      rfl
    · rw [List.mem_singleton.1 same]
      rfl
  rw [bindStatement, function]
  rfl

/-- A statement that declares a function under a name puts it into the scope. -/
theorem hasFunction_bindStatement (declares : Lookup.declaredIn? name node = some declaration)
    (isFunction : declaration.kind ∈ Grammar.functionDeclarations) (nonempty : name ≠ "")
    (read : scope.bindStatement exported node = .ok bound) :
    bound.HasFunction name declaration := by
  obtain ⟨isExported, named⟩ := function_of_declaredIn? declares isFunction
  have inside (exported : Bool) :
      (scope.bindDeclaration exported .function declaration).HasFunction name declaration :=
    hasFunction_bindDeclaration named nonempty
  unfold Lookup.exportedStatement? at isExported
  split at isExported
  · next isExport =>
      have other : DeclarationKind.ofStatement? node.kind = none := by
        rw [beq_iff_eq.1 isExport]
        rfl
      unfold bindStatement at read
      rw [other] at read
      simp only [isExport, if_true] at read
      split at read
      · next found =>
          obtain rfl := Option.some.inj (found.symm.trans isExported)
          rw [bindStatement_function isFunction] at read
          simp only [Bind.bind, Except.bind] at read
          split at read
          · cases read
            exact (stays_hasFunction _ _).addExport _ _ (inside true)
          · cases read
            exact inside true
      · next absent => cases absent.symm.trans isExported
  · cases isExported
    rw [bindStatement_function isFunction] at read
    cases read
    exact inside exported

/-- A function that is found among the statements at the top of a module is one of its values. -/
theorem hasFunction_of_scopeDeclaration? {root : Tree} (read : ofTree root = .ok scope)
    (found : Lookup.scopeDeclaration? (.ofTree root) name = some declaration)
    (isFunction : declaration.kind ∈ Grammar.functionDeclarations) (nonempty : name ≠ "") :
    scope.HasFunction name declaration := by
  obtain ⟨statement, among, declares⟩ := List.exists_of_findSome?_eq_some found
  -- The statement puts the function into the scope, and all other statements leave it there.
  refine Stays.foldlM_of_mem among (hasFunction_bindStatement declares isFunction nonempty)
    (fun node _ holds read => ?_) read
  exact (stays_hasFunction name declaration).bindStatement node.obeys_free holds read

end Module.Scope

end TypeGloss
