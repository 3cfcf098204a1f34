/-
# TypeGloss.Proofs.Tree.Law — what holds of a tree and of everything in it

A *law* is a property that the children of a tree have if the tree has it. A cursor obeys a
law if the tree it stands at and all trees above have the property, so wherever one gets from
a cursor that obeys a law, up or down, one stands at a cursor that obeys it.
-/
import TypeGloss.Tree.Cursor

namespace TypeGloss

set_option autoImplicit false

/-- A property of trees that children inherit. -/
structure Tree.Law where
  holds : Tree → Prop
  inherited : ∀ {t u : Tree}, holds t → u ∈ t.children → holds u

/-- The law that every tree obeys. -/
def Tree.Law.free : Tree.Law := ⟨fun _ => True, fun _ _ => trivial⟩

namespace Cursor

/-- The tree at a cursor and all trees above have the property. -/
structure Obeys (law : Tree.Law) (c : Cursor) : Prop where
  focus : law.holds c.focus
  above : ∀ step ∈ c.above, law.holds step.parent

variable {law : Tree.Law} {c d : Cursor}

theorem obeys_free (c : Cursor) : c.Obeys .free := ⟨trivial, fun _ _ => trivial⟩

theorem obeys_ofTree {t : Tree} (holds : law.holds t) : (ofTree t).Obeys law :=
  ⟨holds, by simp [ofTree]⟩

/-- The children of a node have it above them. -/
theorem above_of_mem_childrenFrom {parent : Tree} {above : List Step} {index : Nat}
    {trees : List Tree} (member : c ∈ childrenFrom parent above index trees) :
    ∃ place, c.above = ⟨parent, place⟩ :: above := by
  induction trees generalizing index with
  | nil => simp [childrenFrom] at member
  | cons t rest ih =>
      rcases List.mem_cons.1 member with rfl | later
      · exact ⟨index, rfl⟩
      · exact ih later

/-- Nodes that are listed inside a node that may be absent. -/
theorem obeys_inside {holder : Option Cursor} {inside : Cursor → List Cursor}
    (each : ∀ c ∈ holder, ∀ d ∈ inside c, d.Obeys law)
    (member : d ∈ (holder.map inside).getD []) : d.Obeys law := by
  cases holder with
  | none => simp at member
  | some c => exact each c rfl d member

namespace Obeys

variable (obeys : c.Obeys law)

include obeys

/-! ## Downward -/

theorem child (member : d ∈ c.children) : d.Obeys law where
  focus := law.inherited obeys.focus (focus_mem_of_mem_childrenFrom member)
  above step among := by
    obtain ⟨place, above⟩ := above_of_mem_childrenFrom member
    rw [above] at among
    rcases List.mem_cons.1 among with rfl | higher
    · exact obeys.focus
    · exact obeys.above step higher

theorem named (member : d ∈ c.named) : d.Obeys law :=
  obeys.child (List.mem_filter.1 member).1

theorem part (member : d ∈ c.parts) : d.Obeys law :=
  obeys.named (List.mem_filter.1 member).1

theorem firstPart {rest : List Cursor} (parts : c.parts = d :: rest) : d.Obeys law :=
  obeys.part (parts ▸ List.mem_cons_self)

theorem lastPart? (last : c.lastPart? = some d) : d.Obeys law :=
  obeys.part (List.mem_of_getLast? last)

theorem field? {name : String} (found : c.field? name = some d) : d.Obeys law :=
  obeys.child (List.mem_of_find?_eq_some found)

theorem first? {kinds : List String} (found : c.first? kinds = some d) : d.Obeys law :=
  obeys.named (List.mem_of_find?_eq_some found)

theorem fieldOr? {name : String} {kinds : List String} (found : c.fieldOr? name kinds = some d) :
    d.Obeys law := by
  rcases Option.or_eq_some_iff.1 found with field | ⟨-, first⟩
  · exact obeys.field? field
  · exact obeys.first? first

theorem ofKinds {kinds : List String} (member : d ∈ c.ofKinds kinds) : d.Obeys law :=
  obeys.named (List.mem_filter.1 member).1

theorem unwrapParens : c.unwrapParens.Obeys law := by
  fun_induction Cursor.unwrapParens c with
  | case1 => exact obeys
  | case2 c _ inner rest inside ih => exact ih (obeys.firstPart inside)
  | case3 => exact obeys

/-! ## Upward -/

omit obeys in
theorem along {steps : List Step} (holds : ∀ step ∈ steps, law.holds step.parent)
    (member : d ∈ Cursor.along steps) : d.Obeys law := by
  induction steps with
  | nil => simp [Cursor.along] at member
  | cons step rest ih =>
      have higher : ∀ step' ∈ rest, law.holds step'.parent := fun step' among =>
        holds step' (List.mem_cons_of_mem _ among)
      rcases List.mem_cons.1 member with rfl | later
      · exact ⟨holds step List.mem_cons_self, higher⟩
      · exact ih higher later

theorem ancestor (member : d ∈ c.ancestors) : d.Obeys law :=
  along obeys.above member

end Obeys

end Cursor

end TypeGloss
