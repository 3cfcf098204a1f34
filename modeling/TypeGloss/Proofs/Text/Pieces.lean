/-
# TypeGloss.Proofs.Text.Pieces — pieces between separators

`splitAt` takes a list apart at the occurrences of a separator. The pieces hold what the list holds,
but for the separator (`mem_of_mem_splitAt`), and two lists with a separator in between are taken
apart each by itself (`splitAt_append`).
-/
import TypeGloss.Text.Blank

namespace TypeGloss.Text

set_option autoImplicit false

variable {α : Type} [BEq α] {separator c : α} {cs piece : List α}

theorem splitAt_ne_nil (separator : α) (cs : List α) : splitAt separator cs ≠ [] := by
  fun_cases splitAt separator cs <;> simp [*]

theorem splitAt_cons_of_beq (ends : (c == separator) = true) (cs : List α) :
    splitAt separator (c :: cs) = [] :: splitAt separator cs := by
  rw [splitAt, if_pos ends]

/-- What is no separator comes to the first piece. -/
theorem splitAt_cons_of_not_beq (other : (c == separator) = false) (cs : List α) :
    ∃ first rest, splitAt separator cs = first :: rest ∧
      splitAt separator (c :: cs) = (c :: first) :: rest := by
  obtain ⟨first, rest, same⟩ := List.exists_cons_of_ne_nil (splitAt_ne_nil separator cs)
  refine ⟨first, rest, same, ?_⟩
  rw [splitAt, other, if_neg Bool.false_ne_true, same]

/-- The pieces of a list hold what the list holds, but for separators. -/
theorem mem_of_mem_splitAt (among : piece ∈ splitAt separator cs) (here : c ∈ piece) :
    c ∈ cs ∧ (c == separator) = false := by
  induction cs generalizing piece with
  | nil =>
      rw [List.mem_singleton.1 among] at here
      exact absurd here List.not_mem_nil
  | cons d rest ih =>
      have later {piece : List α} (among : piece ∈ splitAt separator rest) (here : c ∈ piece) :
          c ∈ d :: rest ∧ (c == separator) = false :=
        (ih among here).imp (List.mem_cons_of_mem d) id
      cases other : d == separator with
      | true =>
          rw [splitAt_cons_of_beq other] at among
          rcases List.mem_cons.1 among with rfl | among
          · exact absurd here List.not_mem_nil
          · exact later among here
      | false =>
          obtain ⟨first, others, same, split⟩ := splitAt_cons_of_not_beq other rest
          rw [split] at among
          rcases List.mem_cons.1 among with rfl | among
          · rcases List.mem_cons.1 here with rfl | here
            · exact ⟨List.mem_cons_self, other⟩
            · exact later (same ▸ List.mem_cons_self) here
          · exact later (same ▸ List.mem_cons_of_mem first among) here

variable [LawfulBEq α]

theorem not_mem_of_mem_splitAt (among : piece ∈ splitAt separator cs) : separator ∉ piece :=
  fun here => absurd (mem_of_mem_splitAt among here).2 (by simp)

/-- Two lists with a separator in between are taken apart each by itself. -/
theorem splitAt_append (cs more : List α) :
    splitAt separator (cs ++ separator :: more) =
      splitAt separator cs ++ splitAt separator more := by
  induction cs with
  | nil => exact splitAt_cons_of_beq (BEq.refl separator) more
  | cons c rest ih =>
      rw [List.cons_append]
      cases other : c == separator with
      | true => rw [splitAt_cons_of_beq other, splitAt_cons_of_beq other, ih, List.cons_append]
      | false =>
          obtain ⟨first, later, same, split⟩ := splitAt_cons_of_not_beq other rest
          obtain ⟨first', later', same', split'⟩ :=
            splitAt_cons_of_not_beq other (rest ++ separator :: more)
          rw [ih, same, List.cons_append] at same'
          obtain ⟨rfl, rfl⟩ := List.cons.inj same'
          rw [split, split', List.cons_append]

theorem splitAt_of_not_mem (whole : separator ∉ cs) : splitAt separator cs = [cs] := by
  induction cs with
  | nil => rfl
  | cons c rest ih =>
      rw [List.mem_cons, not_or] at whole
      obtain ⟨first, later, same, split⟩ :=
        splitAt_cons_of_not_beq (beq_false_of_ne (Ne.symm whole.1)) rest
      rw [ih whole.2] at same
      obtain ⟨rfl, rfl⟩ := List.cons.inj same
      exact split

end TypeGloss.Text
