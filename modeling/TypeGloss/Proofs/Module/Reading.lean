/-
# TypeGloss.Proofs.Module.Reading — reading a module ends

The names of a module are read off its tree, statement by statement. That may fail, because
the specifier of an import may have an escape that denotes no character, but it never runs
out of steps: there are none to run out of (`ofTree_ends`). So a look-up that runs out of
steps has done so by itself.
-/
import TypeGloss.Module.Scope

namespace TypeGloss

set_option autoImplicit false

variable {α β : Type}

/-- A computation does not run out of steps. -/
def Ends (result : Result α) : Prop := result ≠ .error .exhausted

namespace Ends

theorem ok (a : α) : Ends (.ok a) := by simp [Ends]

theorem error {fault : Fault} (other : fault ≠ .exhausted) : Ends (.error fault : Result α) := by
  simpa [Ends] using other

theorem bind {x : Result α} {f : α → Result β} (first : Ends x) (rest : ∀ a, Ends (f a)) :
    Ends (x >>= f) := by
  cases x with
  | error fault => exact error fun same => first (congrArg Except.error same)
  | ok a => exact rest a

theorem map {x : Result α} (f : α → β) (first : Ends x) : Ends (x.map f) := by
  cases x with
  | error fault => exact error fun same => first (congrArg Except.error same)
  | ok a => exact ok (f a)

theorem mapM {f : α → Result β} (each : ∀ a, Ends (f a)) (items : List α) :
    Ends (items.mapM f) := by
  induction items with
  | nil =>
      rw [List.mapM_nil]
      exact ok []
  | cons a rest ih =>
      rw [List.mapM_cons]
      exact (each a).bind fun b => ih.bind fun bs => ok (b :: bs)

theorem foldlM {f : β → α → Result β} (items : List α)
    (each : ∀ b, ∀ a ∈ items, Ends (f b a)) (b : β) : Ends (items.foldlM f b) := by
  induction items generalizing b with
  | nil => exact ok b
  | cons a rest ih =>
      rw [List.foldlM_cons]
      exact (each b a List.mem_cons_self).bind fun next =>
        ih (fun b a member => each b a (List.mem_cons_of_mem _ member)) next

end Ends

namespace Literal

theorem readInteger_ends (base : Nat) (text : String) : Ends (Number.readInteger base text) := by
  unfold Number.readInteger
  dsimp only
  split
  · exact .error (by simp)
  · split
    · exact .error (by simp)
    · split
      · exact .error (by simp)
      · exact .ok _

theorem ofCodePoint_ends (n : Int) : Ends (ofCodePoint n) := by
  unfold ofCodePoint
  split
  · split <;> exact .error (by simp)
  · split
    · split <;> exact .error (by simp)
    · exact .ok _

theorem decodeEscape_ends (sequence : String) : Ends (decodeEscape sequence) := by
  refine .map _ ?_
  unfold decodeEscapeChars
  dsimp only
  split
  · exact .ok _
  · split
    · exact (readInteger_ends 16 _).bind fun point => (ofCodePoint_ends point).bind fun _ => .ok _
    · exact .ok _

theorem stringValue_ends (t : Tree) : Ends (stringValue t) := by
  unfold stringValue
  split
  · exact .ok _
  · refine (Ends.mapM (fun fragment => ?_) _).bind fun _ => .ok _
    unfold fragmentValue
    split
    · exact decodeEscape_ends _
    · exact .ok _

end Literal

namespace Module.Scope

theorem bindExportClause_ends (node : Cursor) (scope : Scope) :
    Ends (scope.bindExportClause node) := by
  unfold bindExportClause
  dsimp only
  split
  · exact .ok _
  · split
    · refine (Literal.stringValue_ends _).bind fun specifier => ?_
      split
      · exact .ok _
      · split <;> exact .ok _
    · split <;> exact .ok _

theorem bindImport_ends (node : Cursor) (scope : Scope) : Ends (scope.bindImport node) := by
  unfold bindImport
  split
  · exact .ok _
  · refine (Literal.stringValue_ends _).bind fun specifier => ?_
    split <;> exact .ok _

theorem bindStatement_ends (exported : Bool) (node : Cursor) (scope : Scope) :
    Ends (scope.bindStatement exported node) := by
  fun_induction bindStatement exported node scope with
  | case1 => exact .ok _
  | case2 exported node scope _ _ declaration _ ih =>
      refine ih.bind fun bound => ?_
      split <;> exact .ok _
  | case3 exported node scope => exact bindExportClause_ends node scope
  | case4 exported node scope _ _ _ ih => exact .foldlM _ (fun result child _ => ih result child) _
  | case5 => exact .ok _
  | case6 exported node scope => exact bindImport_ends node scope
  | case7 => exact .ok _

theorem ofTree_ends (root : Tree) : Ends (ofTree root) :=
  .foldlM _ (fun scope node _ => bindStatement_ends false node scope) _

end Module.Scope

end TypeGloss
