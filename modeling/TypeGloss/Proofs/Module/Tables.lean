/-
# TypeGloss.Proofs.Module.Tables — a declared name has a declaration

The tables of a module are filled statement by statement, and a name comes into a table
only together with a declaration of it. So a name that is found in the table of types or
of values of a module that was read has at least one declaration (`ofTree_filled`).
-/
import TypeGloss.Proofs.Entries
import TypeGloss.Proofs.Module.Induction

namespace TypeGloss

set_option autoImplicit false

/-- Every name of a table has something under it. -/
def Entries.Filled {α : Type} (table : Entries (List α)) : Prop :=
  ∀ (name : String) (items : List α), Entries.find? name table = some items → items ≠ []

theorem Entries.Filled.append {α : Type} {table : Entries (List α)} (filled : table.Filled)
    (name : String) (item : α) : (Entries.append name item table).Filled := by
  intro other items found
  rw [Entries.append, Entries.find?_put] at found
  split at found
  · cases found
    exact List.append_ne_nil_of_right_ne_nil _ (List.cons_ne_nil item [])
  · exact filled other items found

namespace Module.Scope

/-- Every name that a module declares has a declaration. -/
structure Filled (scope : Scope) : Prop where
  types : scope.types.Filled
  values : scope.values.Filled

theorem kept_filled : Kept .free Filled where
  empty := by constructor <;> intro name items found <;> simp [Entries.find?] at found
  bind {scope binding} _ filled := by
    obtain ⟨types, values⟩ := tables_bind Entries.Filled
      (fun filled => filled.append binding.name binding) filled.types filled.values
    exact ⟨types, values⟩
  listed _ _ _ filled := ⟨filled.types, filled.values⟩

/-- Every name that a module declares has a declaration. -/
theorem ofTree_filled {root : Tree} {scope : Scope} (read : ofTree root = .ok scope) :
    scope.Filled :=
  kept_filled.ofTree trivial read

end Module.Scope

/-- A name that is declared has a binding. -/
theorem Lookup.ne_nil_of_declarations? {scope : Module.Scope} (filled : scope.Filled)
    {name : String} {space : Space} {bindings : List Module.Binding}
    (found : declarations? scope name space = some bindings) : bindings ≠ [] := by
  cases space with
  | types => exact filled.types name bindings found
  | values => exact filled.values name bindings found

end TypeGloss
