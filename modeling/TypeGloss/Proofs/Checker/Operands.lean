/-
# TypeGloss.Proofs.Checker.Operands — the leaves of a union, from left to right

Unions and intersections are written with any nesting of operators and parentheses. The *leaves* of
one are the operands that are not of the same kind themselves, after all parentheses around them are
taken off (`Cursor.HasLeaf`). One node stands before another in the text if, where the ways to them
part, the way to it goes through an earlier child (`Cursor.StandsBefore`).

The operands that are listed are the leaves (`TypeSyntax.mem_operands_iff`), each after those that
stand before it (`TypeSyntax.operands_pairwise`).
-/
import TypeGloss.Proofs.Checker.Renaming

namespace TypeGloss

set_option autoImplicit false

namespace Cursor

variable {c d c' d' : Cursor} {kind : String}

/-! ## Places in a tree -/

/-- The way to a node, from the root on, by the indices of children. -/
def path (c : Cursor) : List Nat :=
  (c.above.map Step.index).reverse

/-- One node stands before another: where the ways to them part, the way to it goes through an
earlier child. -/
def StandsBefore (c d : Cursor) : Prop :=
  ∃ (shared : List Nat) (i j : Nat) (rest others : List Nat), i < j ∧
    c.path = shared ++ i :: rest ∧ d.path = shared ++ j :: others

/-- What is inside a node that stands before another stands before what is inside the other. -/
theorem StandsBefore.inside (before : c.StandsBefore d) (inside : c.path <+: c'.path)
    (inside' : d.path <+: d'.path) : c'.StandsBefore d' := by
  obtain ⟨shared, i, j, rest, others, lt, first, second⟩ := before
  obtain ⟨more, way⟩ := inside
  obtain ⟨more', way'⟩ := inside'
  refine ⟨shared, i, j, rest ++ more, others ++ more', lt, ?_, ?_⟩
  · rw [← way, first, List.append_assoc, List.cons_append]
  · rw [← way', second, List.append_assoc, List.cons_append]

/-- The way to a child that is listed from an index on. -/
theorem path_of_mem_childrenFrom {parent : Tree} {above : List Step} {index : Nat}
    {trees : List Tree} (among : c ∈ childrenFrom parent above index trees) :
    ∃ i, index ≤ i ∧ c.path = (above.map Step.index).reverse ++ [i] := by
  induction trees generalizing index with
  | nil => exact absurd among List.not_mem_nil
  | cons t rest ih =>
      rcases List.mem_cons.1 among with rfl | later
      · exact ⟨index, Nat.le_refl _, by simp [path]⟩
      · obtain ⟨i, ge, way⟩ := ih later
        exact ⟨i, Nat.le_of_succ_le ge, way⟩

theorem path_prefix_of_mem_children (among : d ∈ c.children) : c.path <+: d.path := by
  obtain ⟨i, -, way⟩ := path_of_mem_childrenFrom among
  exact ⟨[i], way.symm⟩

theorem childrenFrom_pairwise (parent : Tree) (above : List Step) (index : Nat)
    (trees : List Tree) : (childrenFrom parent above index trees).Pairwise StandsBefore := by
  induction trees generalizing index with
  | nil => exact .nil
  | cons t rest ih =>
      refine .cons (fun d later => ?_) (ih (index + 1))
      obtain ⟨j, ge, way⟩ := path_of_mem_childrenFrom later
      exact ⟨(above.map Step.index).reverse, index, j, [], [], ge, by simp [path], way⟩

/-- The parts of a node stand one after the other. -/
theorem parts_pairwise (c : Cursor) : c.parts.Pairwise StandsBefore :=
  ((childrenFrom_pairwise c.focus c.above 0 c.focus.children).filter _).filter _

theorem path_prefix_of_mem_parts (among : d ∈ c.parts) : c.path <+: d.path :=
  path_prefix_of_mem_children (List.mem_filter.1 (List.mem_filter.1 among).1).1

/-! ## Parentheses and leaves -/

/-- What a type is with all parentheses around it taken off. -/
inductive Encloses : Cursor → Cursor → Prop where
  | bare {c : Cursor} (plain : c.kind ≠ "parenthesized_type") : Encloses c c
  | empty {c : Cursor} (nothing : c.parts = []) : Encloses c c
  | wrapped {c inner core : Cursor} {rest : List Cursor} (parens : c.kind = "parenthesized_type")
      (inside : c.parts = inner :: rest) (encloses : Encloses inner core) : Encloses c core

/-- A leaf of a union or an intersection: an operand that is not of the same kind itself, or a leaf
of an operand that is. -/
inductive HasLeaf (kind : String) : Cursor → Cursor → Prop where
  | operand {node leaf core : Cursor} (part : leaf ∈ node.parts) (encloses : leaf.Encloses core)
      (other : core.kind ≠ kind) : HasLeaf kind node leaf
  | nested {node operand core leaf : Cursor} (part : operand ∈ node.parts)
      (encloses : operand.Encloses core) (same : core.kind = kind)
      (inside : HasLeaf kind core leaf) : HasLeaf kind node leaf

theorem encloses_unwrapParens (c : Cursor) : c.Encloses c.unwrapParens := by
  fun_induction unwrapParens c with
  | case1 c _ nothing => exact .empty nothing
  | case2 c parens inner rest inside ih => exact .wrapped (beq_iff_eq.1 parens) inside ih
  | case3 c plain => exact .bare fun parens => plain (beq_iff_eq.2 parens)

theorem Encloses.eq_unwrapParens (encloses : c.Encloses d) : c.unwrapParens = d := by
  induction encloses with
  | bare plain => rw [unwrapParens, if_neg (by simpa using plain)]
  | empty nothing => exact unwrapParens_of_nil nothing
  | wrapped parens inside _ ih => rw [unwrapParens_of_cons parens inside, ih]

theorem Encloses.isPrefix_path (encloses : c.Encloses d) : c.path <+: d.path := by
  induction encloses with
  | bare => exact List.prefix_rfl
  | empty => exact List.prefix_rfl
  | wrapped _ inside _ ih =>
      exact (path_prefix_of_mem_parts (inside ▸ List.mem_cons_self)).trans ih

theorem HasLeaf.isPrefix_path {leaf : Cursor} (has : HasLeaf kind c leaf) :
    c.path <+: leaf.path := by
  induction has with
  | operand part _ _ => exact path_prefix_of_mem_parts part
  | nested part encloses _ _ ih =>
      exact ((path_prefix_of_mem_parts part).trans encloses.isPrefix_path).trans ih

end Cursor

namespace TypeSyntax

open Cursor (HasLeaf StandsBefore)

variable {kind : String}

/-- What holds of a node where it holds of the operands of the same kind holds of every node. -/
theorem operands_induction {P : Cursor → Prop}
    (step : ∀ node : Cursor,
      (∀ child ∈ node.parts, child.unwrapParens.kind = kind → P child.unwrapParens) → P node)
    (node : Cursor) : P node :=
  step node fun child _ _ => operands_induction step child.unwrapParens
termination_by sizeOf node.focus
decreasing_by
  rename_i part _
  have bound := Cursor.sizeOf_unwrapParens_le child
  have less := Cursor.sizeOf_lt_of_mem_parts part
  omega

/-- The operands that are listed are the leaves. -/
theorem mem_operands_iff (node : Cursor) {leaf : Cursor} :
    leaf ∈ operands kind node ↔ HasLeaf kind node leaf := by
  constructor
  · intro among
    induction node using @operands_induction kind with
    | step node ih =>
        rw [operands_eq, List.mem_flatMap] at among
        obtain ⟨child, part, among⟩ := among
        split at among
        · next same =>
            exact .nested part child.encloses_unwrapParens (beq_iff_eq.1 same)
              (ih child part (beq_iff_eq.1 same) among)
        · next other =>
            rw [List.mem_singleton.1 among]
            exact .operand part child.encloses_unwrapParens fun same => other (beq_iff_eq.2 same)
  · intro has
    induction has with
    | @operand node leaf core part encloses other =>
        rw [operands_eq, List.mem_flatMap]
        refine ⟨leaf, part, ?_⟩
        rw [if_neg (by simpa [encloses.eq_unwrapParens] using other)]
        exact List.mem_singleton_self leaf
    | @nested node operand core leaf part encloses same _ ih =>
        rw [operands_eq, List.mem_flatMap]
        refine ⟨operand, part, ?_⟩
        rwa [if_pos (by simpa [encloses.eq_unwrapParens] using same), encloses.eq_unwrapParens]

/-- Each operand is listed after those that stand before it. -/
theorem operands_pairwise (kind : String) (node : Cursor) :
    (operands kind node).Pairwise StandsBefore := by
  induction node using @operands_induction kind with
  | step node ih =>
      -- What a part contributes is inside it.
      have inside {child leaf : Cursor}
          (among : leaf ∈ if child.unwrapParens.kind == kind then operands kind child.unwrapParens
            else [child]) : child.path <+: leaf.path := by
        split at among
        · exact child.encloses_unwrapParens.isPrefix_path.trans
            ((mem_operands_iff _).1 among).isPrefix_path
        · exact List.mem_singleton.1 among ▸ List.prefix_rfl
      rw [operands_eq, List.pairwise_flatMap]
      refine ⟨fun child part => ?_, node.parts_pairwise.imp ?_⟩
      · split
        · next same => exact ih child part (beq_iff_eq.1 same)
        · exact List.pairwise_singleton _ child
      · intro child other before leaf among leaf' there
        exact before.inside (inside among) (inside there)

end TypeSyntax

end TypeGloss
