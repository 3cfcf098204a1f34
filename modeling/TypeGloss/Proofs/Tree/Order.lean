/-
# TypeGloss.Proofs.Tree.Order — no node ends before it starts

A parser reports byte offsets, and rows and columns are read off the text. Points are ordered
as one reads, by rows and within a row by columns, and a point does not move back when the
offset moves on (`Canvas.point_mono`). So if no node of an outline stops before it starts, no
node of the tree ends before it starts as one reads, whatever the text is
(`Tree.ordered_ofOutline`).
-/
import Mathlib.Data.List.GetD
import TypeGloss.Proofs.Tree.Law

namespace TypeGloss

set_option autoImplicit false

/-! ## Points -/

/-- The order of reading: by rows, and within a row by columns. -/
instance : LE Point := ⟨fun p q => p.row < q.row ∨ p.row = q.row ∧ p.column ≤ q.column⟩

namespace Point

theorem le_def {p q : Point} :
    p ≤ q ↔ p.row < q.row ∨ p.row = q.row ∧ p.column ≤ q.column := Iff.rfl

theorem le_refl (p : Point) : p ≤ p := .inr ⟨rfl, Nat.le_refl _⟩

theorem le_trans {p q r : Point} (first : p ≤ q) (second : q ≤ r) : p ≤ r := by
  rw [le_def] at *
  omega

end Point

/-- A point is before all points behind it. -/
theorem le_of_mem_pointsFrom {here p : Point} {bytes : List UInt8}
    (member : p ∈ pointsFrom here bytes) : here ≤ p := by
  induction bytes generalizing here with
  | nil =>
      obtain rfl := List.mem_singleton.1 member
      exact p.le_refl
  | cons byte rest ih =>
      rcases List.mem_cons.1 member with rfl | later
      · exact p.le_refl
      · refine Point.le_trans ?_ (ih later)
        split
        · exact .inl (Nat.lt_succ_self _)
        · exact .inr ⟨rfl, Nat.le_succ _⟩

theorem pairwise_pointsFrom (here : Point) (bytes : List UInt8) :
    (pointsFrom here bytes).Pairwise (· ≤ ·) := by
  induction bytes generalizing here with
  | nil => simp [pointsFrom]
  | cons byte rest ih =>
      refine .cons (fun p later => ?_) (ih _)
      have behind : p ∈ pointsFrom here (byte :: rest) := List.mem_cons_of_mem _ later
      exact le_of_mem_pointsFrom behind

theorem pointsFrom_ne_nil (here : Point) (bytes : List UInt8) : pointsFrom here bytes ≠ [] := by
  cases bytes <;> simp [pointsFrom]

/-- Entries of a list in order, of which the last stands for all offsets behind the end. -/
theorem getD_le_getD {points : List Point} (ordered : points.Pairwise (· ≤ ·))
    (filled : points ≠ []) {i j : Nat} (before : i ≤ j) :
    points.getD i (points.getD (points.length - 1) ⟨0, 0⟩) ≤
      points.getD j (points.getD (points.length - 1) ⟨0, 0⟩) := by
  have positive : 0 < points.length := List.length_pos_iff.2 filled
  -- An offset behind the end counts as the last one.
  have clamped (k : Nat) : points.getD k (points.getD (points.length - 1) ⟨0, 0⟩) =
      points.getD (min k (points.length - 1)) ⟨0, 0⟩ := by
    rcases Nat.lt_or_ge k points.length with inside | behind
    · rw [List.getD_eq_getElem _ _ inside, List.getD_eq_getElem _ _ (by omega)]
      congr 1
      omega
    · rw [List.getD_eq_default _ _ behind]
      congr 1
      omega
  rw [clamped, clamped, List.getD_eq_getElem _ _ (by omega), List.getD_eq_getElem _ _ (by omega)]
  rcases Nat.lt_or_ge (min i (points.length - 1)) (min j (points.length - 1)) with less | same
  · exact List.pairwise_iff_getElem.1 ordered _ _ _ _ less
  · have equal : min i (points.length - 1) = min j (points.length - 1) := by omega
    simp only [equal]
    exact Point.le_refl _

/-- A later offset is not an earlier point. -/
theorem Canvas.point_mono (text : String) {start stop : Nat} (before : start ≤ stop) :
    (Canvas.ofText text).point start ≤ (Canvas.ofText text).point stop := by
  have ordered := getD_le_getD (pairwise_pointsFrom ⟨0, 0⟩ text.toUTF8.toList)
    (pointsFrom_ne_nil _ _) before
  simpa [Canvas.point, Canvas.ofText] using ordered

/-! ## Trees -/

mutual

/-- No node stops before it starts. -/
def Outline.IsOrdered : Outline → Prop
  | .node _ start stop _ _ _ children => start ≤ stop ∧ Outline.AllOrdered children

/-- No node of several outlines stops before it starts. -/
def Outline.AllOrdered : List Outline → Prop
  | [] => True
  | outline :: rest => outline.IsOrdered ∧ Outline.AllOrdered rest

end

namespace Tree

theorem mem_preorderAll {t u : Tree} {trees : List Tree} (member : t ∈ trees)
    (inside : u ∈ t.preorder) : u ∈ preorderAll trees := by
  induction trees with
  | nil => simp at member
  | cons first rest ih =>
      rw [preorderAll, List.mem_append]
      rcases List.mem_cons.1 member with rfl | later
      · exact .inl inside
      · exact .inr (ih later)

/-- No node ends before it starts. -/
def Law.ordered : Law where
  holds t := ∀ u ∈ t.preorder, u.mark.first ≤ u.mark.last
  inherited {t u} holds child v inside := by
    cases t with
    | node mark children =>
        exact holds v (List.mem_cons_of_mem _ (mem_preorderAll child inside))

mutual

/-- Nodes in a text end behind where they begin. -/
theorem ordered_onCanvas (text : String) : ∀ outline : Outline, outline.IsOrdered →
    Law.ordered.holds (outline.onCanvas (.ofText text))
  | .node kind start stop named missing field children, ordered => by
      obtain ⟨before, below⟩ := ordered
      intro u inside
      rcases List.mem_cons.1 inside with rfl | deeper
      · exact Canvas.point_mono text before
      · exact ordered_allOnCanvas text children below u deeper

theorem ordered_allOnCanvas (text : String) : ∀ outlines : List Outline,
    Outline.AllOrdered outlines →
      ∀ u ∈ preorderAll (Outline.allOnCanvas (.ofText text) outlines),
        u.mark.first ≤ u.mark.last
  | [], _ => by simp [Outline.allOnCanvas, preorderAll]
  | outline :: rest, ordered => by
      obtain ⟨first, others⟩ := ordered
      intro u inside
      rcases List.mem_append.1 inside with here | later
      · exact ordered_onCanvas text outline first u here
      · exact ordered_allOnCanvas text rest others u later

end

/-- The tree of an outline in which no node stops before it starts. -/
theorem ordered_ofOutline (text : String) {outline : Outline} (ordered : outline.IsOrdered) :
    Law.ordered.holds (ofOutline text outline) :=
  ordered_onCanvas text outline ordered

theorem Law.ordered.first_le_last {c : Cursor} (obeys : c.Obeys .ordered) :
    c.mark.first ≤ c.mark.last := by
  refine obeys.focus c.focus ?_
  cases c.focus
  exact List.mem_cons_self

end Tree

end TypeGloss
