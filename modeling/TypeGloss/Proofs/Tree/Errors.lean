/-
# TypeGloss.Proofs.Tree.Errors — the first syntax error of a tree

A search for the first syntax error goes into a tree only if the tree holds one, and it has a
value to fall back on if it then finds none. A tree holds an error exactly if one stands in its
preorder (`Tree.hasError_eq`), so the two never disagree: the search comes to the first error of
the preorder (`Tree.findError_eq`) and never to what it would fall back on
(`Tree.exists_firstError`).

A node starts at a byte offset. Its row counts the line feeds before the offset, and its column
the bytes behind the last of them (`Tree.first_ofOutline`).
-/
import TypeGloss.Proofs.Tree.Order

namespace TypeGloss

set_option autoImplicit false

namespace Tree

/-! ## Errors in the order of the text -/

mutual

/-- A tree holds an error if there is one in its preorder. -/
theorem hasError_eq : ∀ t : Tree, t.hasError = t.preorder.any isError
  | node mark children => by
      rw [hasError, preorder, List.any_cons, anyError_eq children]
      rfl

/-- An error is looked for in preorder. -/
theorem anyError_eq : ∀ trees : List Tree, anyError trees = (preorderAll trees).any isError
  | [] => rfl
  | t :: rest => by
      rw [anyError, preorderAll, List.any_append, hasError_eq t, anyError_eq rest]

end

theorem hasError_iff {t : Tree} : t.hasError = true ↔ ∃ u ∈ t.preorder, u.isError = true := by
  rw [hasError_eq, List.any_eq_true]

mutual

/-- The search comes to the first error of the preorder. -/
theorem findError_eq : ∀ t : Tree, t.findError = t.preorder.find? isError
  | node mark children => by
      have below := firstError_eq children
      have among : (preorderAll children).any isError = (firstError children).isSome := by
        rw [below, List.isSome_find?]
      rw [findError, hasError_eq, preorder, List.any_cons, List.find?_cons, among, ← below]
      cases (node mark children).isError with
      | true => rfl
      | false => cases firstError children <;> rfl

/-- The first error is the first in preorder. -/
theorem firstError_eq : ∀ trees : List Tree, firstError trees = (preorderAll trees).find? isError
  | [] => rfl
  | t :: rest => by
      rw [firstError, findError_eq t, firstError_eq rest, preorderAll, List.find?_append]
      cases t.preorder.find? isError <;> rfl

end

theorem findError_eq_none_iff {t : Tree} :
    t.findError = none ↔ ∀ u ∈ t.preorder, u.isError = false := by
  rw [findError_eq, List.find?_eq_none]
  simp

/-- If a tree that is no error holds one, there is one among its children. -/
theorem exists_firstError {t : Tree} (held : t.hasError = true) (sound : t.isError = false) :
    ∃ error, firstError t.children = some error := by
  cases t with
  | node mark below =>
      obtain ⟨error, member, isError⟩ := hasError_iff.1 held
      rcases List.mem_cons.1 member with rfl | inside
      · rw [sound] at isError
        cases isError
      · rw [children, firstError_eq, ← Option.isSome_iff_exists, List.find?_isSome]
        exact ⟨error, inside, isError⟩

end Tree

/-! ## Rows and columns -/

/-- The point behind some bytes: a row for each line feed, and a column for each byte behind the
last one. -/
def Point.behind (bytes : List UInt8) : Point :=
  ⟨bytes.count 10, (bytes.reverse.takeWhile (· ≠ 10)).length⟩

/-- A line break begins a new row; every other byte is one column. -/
theorem Point.behind_append (before : List UInt8) (byte : UInt8) :
    Point.behind (before ++ [byte]) =
      if byte = 10 then ⟨(behind before).row + 1, 0⟩
      else ⟨(behind before).row, (behind before).column + 1⟩ := by
  by_cases feed : byte = 10 <;> simp [behind, feed]

theorem length_pointsFrom (here : Point) (bytes : List UInt8) :
    (pointsFrom here bytes).length = bytes.length + 1 := by
  induction bytes generalizing here with
  | nil => rfl
  | cons byte rest ih => rw [pointsFrom, List.length_cons, ih, List.length_cons]

/-- Each offset has the point behind the bytes before it. -/
theorem getElem?_pointsFrom (before bytes : List UInt8) {offset : Nat}
    (inside : offset ≤ bytes.length) :
    (pointsFrom (.behind before) bytes)[offset]? =
      some (.behind (before ++ bytes.take offset)) := by
  induction bytes generalizing before offset with
  | nil =>
      obtain rfl := Nat.le_zero.1 inside
      simp [pointsFrom]
  | cons byte rest ih =>
      cases offset with
      | zero => simp [pointsFrom]
      | succ offset =>
          rw [pointsFrom, ← Point.behind_append, List.getElem?_cons_succ,
            ih (before ++ [byte]) (Nat.le_of_succ_le_succ inside)]
          simp

/-- An offset is the point behind the bytes before it. One that is beyond the text is its end. -/
theorem Canvas.point_eq (text : String) (offset : Nat) :
    (Canvas.ofText text).point offset = .behind (text.toUTF8.toList.take offset) := by
  have start : (⟨0, 0⟩ : Point) = .behind [] := rfl
  simp only [Canvas.point, Canvas.ofText, start, Array.getD_eq_getD_getElem?, List.getElem?_toArray,
    List.size_toArray, length_pointsFrom, Nat.add_sub_cancel]
  rcases Nat.lt_or_ge text.toUTF8.toList.length offset with beyond | inside
  · rw [List.getElem?_eq_none (by rw [length_pointsFrom]; exact beyond),
      getElem?_pointsFrom _ _ (Nat.le_refl _), List.take_length,
      List.take_of_length_le (Nat.le_of_lt beyond)]
    rfl
  · rw [getElem?_pointsFrom _ _ inside]
    rfl

namespace Tree

mutual

/-- Nodes begin at the points of their offsets. -/
theorem first_onCanvas (canvas : Canvas) : ∀ outline : Outline,
    ∀ u ∈ (outline.onCanvas canvas).preorder, u.mark.first = canvas.point u.mark.start
  | .node kind start stop named missing field children => by
      intro u inside
      rcases List.mem_cons.1 inside with rfl | deeper
      · rfl
      · exact first_allOnCanvas canvas children u deeper

theorem first_allOnCanvas (canvas : Canvas) : ∀ outlines : List Outline,
    ∀ u ∈ preorderAll (Outline.allOnCanvas canvas outlines),
      u.mark.first = canvas.point u.mark.start
  | [] => by simp [Outline.allOnCanvas, preorderAll]
  | outline :: rest => by
      intro u inside
      rcases List.mem_append.1 inside with here | later
      · exact first_onCanvas canvas outline u here
      · exact first_allOnCanvas canvas rest u later

end

/-- Every node of the tree of a text starts behind the bytes before it. -/
theorem first_ofOutline (text : String) (outline : Outline) :
    ∀ u ∈ (ofOutline text outline).preorder,
      u.mark.first = .behind (text.toUTF8.toList.take u.mark.start) := by
  intro u inside
  rw [first_onCanvas _ outline u inside, Canvas.point_eq]

end Tree

end TypeGloss
