/-
# TypeGloss.Proofs.Text.Lines — lines that are put together and taken apart

Lines that are put together with line feeds are taken apart into the same lines
(`splitLines_joinLines`), if none of them holds a line break and the last one is not empty: an
empty last line leaves no trace. What is trimmed away around a text is what was put around it
(`strip_between`), if the text itself starts and ends with characters that are not blank. And a
text of which one line is not indented keeps all its indentation (`dedent_joinLines`).

Nothing that is done to a text here brings characters into it, but for the line feeds that stand
for its breaks (`mem_joinLines_splitLines`). A text whose breaks are line feeds already
(`IsLined`) only loses characters (`joinLines_splitLines_sublist`, `dedent_sublist`).
-/
import TypeGloss.Text.Blank
import Mathlib.Data.List.DropRight

namespace TypeGloss.Text

set_option autoImplicit false

variable {cs line : List Char} {lines : List (List Char)}

/-! ## Lines -/

/-- No character of the text ends a line. -/
def IsUnbroken (cs : List Char) : Prop := ∀ c ∈ cs, isLineBreak c = false

instance (cs : List Char) : Decidable (IsUnbroken cs) := List.decidableBAll _ cs

theorem splitLinesFrom_unbroken (unbroken : IsUnbroken cs) (read rest : List Char) :
    splitLinesFrom read (cs ++ rest) = splitLinesFrom (cs.reverse ++ read) rest := by
  induction cs generalizing read with
  | nil => rfl
  | cons c more ih =>
      obtain ⟨here, later⟩ := List.forall_mem_cons.1 unbroken
      have noReturn : c ≠ '\r' := by
        rintro rfl
        exact absurd here (by decide)
      rw [List.cons_append, splitLinesFrom.eq_3 _ _ _ fun _ same _ => noReturn same, here,
        if_neg Bool.false_ne_true, ih later, List.reverse_cons, List.append_assoc,
        List.singleton_append]

theorem splitLinesFrom_lineFeed (read rest : List Char) :
    splitLinesFrom read ('\n' :: rest) = read.reverse :: splitLines rest := rfl

theorem joinLines_cons (more : lines ≠ []) :
    joinLines (line :: lines) = line ++ '\n' :: joinLines lines := by
  cases lines with
  | nil => exact absurd rfl more
  | cons next rest => rfl

/-- What is put to the end of the last line comes to the end of the text. -/
theorem joinLines_concat (lines : List (List Char)) (cs : List Char) :
    joinLines (lines ++ [cs]) = joinLines (lines ++ [[]]) ++ cs := by
  induction lines with
  | nil => rfl
  | cons first rest ih =>
      have more (cs : List Char) : rest ++ [cs] ≠ [] := by simp
      rw [List.cons_append, List.cons_append, joinLines_cons (more cs), joinLines_cons (more []),
        ih, List.append_assoc, List.cons_append]

theorem joinLines_concat_nil (some : lines ≠ []) :
    joinLines (lines ++ [[]]) = joinLines lines ++ ['\n'] := by
  induction lines with
  | nil => exact absurd rfl some
  | cons first rest ih =>
      cases rest with
      | nil => rfl
      | cons next more =>
          have rest : next :: more ≠ [] := List.cons_ne_nil _ _
          rw [List.cons_append, joinLines_cons (by simp), joinLines_cons rest, ih rest,
            List.append_assoc, List.cons_append]

/-- Lines that were put together are taken apart again. -/
theorem splitLines_joinLines (unbroken : ∀ line ∈ lines, IsUnbroken line)
    (last : lines.getLast? ≠ some []) : splitLines (joinLines lines) = lines := by
  induction lines with
  | nil => rfl
  | cons first rest ih =>
      obtain ⟨here, later⟩ := List.forall_mem_cons.1 unbroken
      cases rest with
      | nil =>
          have filled : first ≠ [] := fun empty => last (by rw [empty]; rfl)
          change splitLinesFrom [] first = [first]
          rw [← List.append_nil first, splitLinesFrom_unbroken here, splitLinesFrom,
            List.append_nil, List.append_nil, List.reverse_reverse,
            if_neg (by simpa using filled)]
      | cons next more =>
          rw [joinLines_cons (List.cons_ne_nil _ _), splitLines, splitLinesFrom_unbroken here,
            splitLinesFrom_lineFeed, ih later (by simpa using last), List.append_nil,
            List.reverse_reverse]

/-! ### Characters of a text and of its lines -/

/-- The lines of a text hold its characters, but for those that end a line. -/
theorem mem_splitLinesFrom {read : List Char} {c : Char} (among : line ∈ splitLinesFrom read cs)
    (here : c ∈ line) : c ∈ read ∨ c ∈ cs ∧ isLineBreak c = false := by
  fun_induction splitLinesFrom read cs with
  | case1 read empty => exact absurd among List.not_mem_nil
  | case2 read some =>
      obtain rfl := List.mem_singleton.1 among
      exact .inl (List.mem_reverse.1 here)
  | case3 read rest ih =>
      rcases List.mem_cons.1 among with rfl | later
      · exact .inl (List.mem_reverse.1 here)
      · obtain ⟨there, plain⟩ := (ih later).resolve_left List.not_mem_nil
        exact .inr ⟨List.mem_cons_of_mem _ (List.mem_cons_of_mem _ there), plain⟩
  | case4 read b rest _ ends ih =>
      rcases List.mem_cons.1 among with rfl | later
      · exact .inl (List.mem_reverse.1 here)
      · obtain ⟨there, plain⟩ := (ih later).resolve_left List.not_mem_nil
        exact .inr ⟨List.mem_cons_of_mem _ there, plain⟩
  | case5 read b rest _ plain ih =>
      rcases ih among with among | ⟨there, plain'⟩
      · rcases List.mem_cons.1 among with rfl | earlier
        · exact .inr ⟨List.mem_cons_self, Bool.eq_false_iff.2 plain⟩
        · exact .inl earlier
      · exact .inr ⟨List.mem_cons_of_mem _ there, plain'⟩

theorem mem_splitLines {c : Char} (among : line ∈ splitLines cs) (here : c ∈ line) :
    c ∈ cs ∧ isLineBreak c = false :=
  (mem_splitLinesFrom among here).resolve_left List.not_mem_nil

theorem unbroken_of_mem_splitLines (among : line ∈ splitLines cs) : IsUnbroken line :=
  fun _ here => (mem_splitLines among here).2

/-- A text without line breaks is one line, or none. -/
theorem length_splitLines_le (unbroken : IsUnbroken cs) : (splitLines cs).length ≤ 1 := by
  rw [← List.append_nil cs, splitLines, splitLinesFrom_unbroken unbroken, splitLinesFrom]
  split
  · exact Nat.zero_le 1
  · exact Nat.le_refl 1

theorem mem_joinLines {c : Char} (here : c ∈ joinLines lines) :
    (∃ line ∈ lines, c ∈ line) ∨ c = '\n' ∧ 1 < lines.length := by
  fun_induction joinLines lines with
  | case1 => exact absurd here List.not_mem_nil
  | case2 line => exact .inl ⟨line, List.mem_singleton_self line, here⟩
  | case3 line rest some ih =>
      have several : 1 < (line :: rest).length :=
        Nat.succ_lt_succ (List.length_pos_of_ne_nil some)
      rcases List.mem_append.1 here with here | later
      · exact .inl ⟨line, List.mem_cons_self, here⟩
      · rcases List.mem_cons.1 later with rfl | later
        · exact .inr ⟨rfl, several⟩
        · refine (ih later).imp (fun ⟨line', among, here⟩ => ?_) fun ⟨feed, _⟩ => ⟨feed, several⟩
          exact ⟨line', List.mem_cons_of_mem _ among, here⟩

/-- Lines that are put together again hold the characters of the text, and line feeds where the
text has breaks. -/
theorem mem_joinLines_splitLines {c : Char} (here : c ∈ joinLines (splitLines cs)) :
    c ∈ cs ∨ c = '\n' ∧ ∃ b ∈ cs, isLineBreak b = true := by
  rcases mem_joinLines here with ⟨line, among, here⟩ | ⟨feed, several⟩
  · exact .inl (mem_splitLines among here).1
  · refine .inr ⟨feed, ?_⟩
    by_contra unbroken
    push Not at unbroken
    exact absurd (length_splitLines_le fun b among => Bool.eq_false_iff.2 (unbroken b among))
      (Nat.not_le_of_lt several)

/-- Lines that lose characters, joined, have lost the same. -/
theorem joinLines_map_sublist {f : List Char → List Char} (fewer : ∀ line, (f line).Sublist line)
    (lines : List (List Char)) : (joinLines (lines.map f)).Sublist (joinLines lines) := by
  fun_induction joinLines lines with
  | case1 => exact .slnil
  | case2 line => exact fewer line
  | case3 line rest some ih =>
      rw [List.map_cons, joinLines_cons (mt List.map_eq_nil_iff.1 some)]
      exact (fewer line).append (ih.cons_cons '\n')

/-! ### Texts with line feeds only -/

/-- Only line feeds end a line of the text. -/
def IsLined (cs : List Char) : Prop := ∀ c ∈ cs, isLineBreak c = true → c = '\n'

theorem IsLined.sublist {more : List Char} (lined : IsLined more) (part : cs.Sublist more) :
    IsLined cs := fun c here => lined c (part.mem here)

theorem isLined_joinLines (unbroken : ∀ line ∈ lines, IsUnbroken line) :
    IsLined (joinLines lines) := by
  intro c here ends
  rcases mem_joinLines here with ⟨line, among, here⟩ | ⟨feed, -⟩
  · exact absurd (ends.symm.trans (unbroken line among c here)) (by decide)
  · exact feed

/-- Taken apart and put together again, such a text has lost a line feed at its end, or nothing. -/
theorem joinLines_splitLinesFrom_sublist (lined : IsLined cs) (read : List Char) :
    (joinLines (splitLinesFrom read cs)).Sublist (read.reverse ++ cs) := by
  fun_induction splitLinesFrom read cs with
  | case1 read empty => exact List.nil_sublist _
  | case2 read some => exact List.sublist_append_left _ _
  | case3 read rest ih => exact absurd (lined '\r' List.mem_cons_self rfl) (by decide)
  | case4 read c rest _ ends ih =>
      obtain rfl := lined c List.mem_cons_self ends
      have later := ih fun b among => lined b (List.mem_cons_of_mem _ among)
      rw [List.reverse_nil, List.nil_append] at later
      cases more : splitLinesFrom [] rest with
      | nil => exact List.sublist_append_left _ _
      | cons next last =>
          rw [joinLines_cons (List.cons_ne_nil next last)]
          exact (List.Sublist.refl _).append ((more ▸ later).cons_cons '\n')
  | case5 read c rest _ plain ih =>
      have later := ih fun b among => lined b (List.mem_cons_of_mem _ among)
      rwa [List.reverse_cons, List.append_assoc, List.singleton_append] at later

theorem joinLines_splitLines_sublist (lined : IsLined cs) :
    (joinLines (splitLines cs)).Sublist cs :=
  joinLines_splitLinesFrom_sublist lined []

/-! ## Blanks around a text -/

/-- All characters of the text are blank. -/
def AreBlank (cs : List Char) : Prop := ∀ c ∈ cs, isBlank c = true

instance (cs : List Char) : Decidable (AreBlank cs) := List.decidableBAll _ cs

/-- The text starts with a character that is not blank. -/
def Starts (cs : List Char) : Prop := ∃ c rest, cs = c :: rest ∧ isBlank c = false

/-- The text ends with a character that is not blank. -/
def Ends (cs : List Char) : Prop := ∃ rest c, cs = rest ++ [c] ∧ isBlank c = false

theorem stripLeft_of_starts (starts : Starts cs) : stripLeft cs = cs := by
  obtain ⟨c, rest, rfl, dark⟩ := starts
  rw [stripLeft, List.dropWhile_cons, dark, if_neg Bool.false_ne_true]

theorem dropTail_of_ends (ends : Ends cs) : dropTail isBlank cs = cs := by
  obtain ⟨rest, c, rfl, dark⟩ := ends
  exact (List.rdropWhile_concat_neg _ _ _ (by rw [dark]; exact Bool.false_ne_true))

theorem Starts.ne_nil (starts : Starts cs) : cs ≠ [] := by
  obtain ⟨c, rest, rfl, -⟩ := starts
  exact List.cons_ne_nil c rest

theorem Starts.append (starts : Starts cs) (more : List Char) : Starts (cs ++ more) := by
  obtain ⟨c, rest, rfl, dark⟩ := starts
  exact ⟨c, rest ++ more, rfl, dark⟩

theorem Ends.prepend (ends : Ends cs) (before : List Char) : Ends (before ++ cs) := by
  obtain ⟨rest, c, rfl, dark⟩ := ends
  exact ⟨before ++ rest, c, (List.append_assoc _ _ _).symm, dark⟩

/-- Blanks around a text are trimmed away. -/
theorem strip_between {before after : List Char} (blank : AreBlank before)
    (starts : Starts cs) (ends : Ends cs) (blank' : AreBlank after) :
    strip (before ++ cs ++ after) = cs := by
  have left : stripLeft (before ++ cs ++ after) = cs ++ after := by
    rw [stripLeft, List.append_assoc, List.dropWhile_append_of_pos blank]
    exact stripLeft_of_starts (starts.append after)
  have right : (after.reverse ++ cs.reverse).dropWhile isBlank = cs.reverse.dropWhile isBlank :=
    List.dropWhile_append_of_pos fun c among => blank' c (List.mem_reverse.1 among)
  rw [strip, left, dropTail, List.reverse_append, right]
  exact dropTail_of_ends ends

theorem strip_of_starts_of_ends (starts : Starts cs) (ends : Ends cs) : strip cs = cs := by
  have stripped : strip ([] ++ cs ++ []) = cs := strip_between nofun starts ends nofun
  rwa [List.nil_append, List.append_nil] at stripped

/-- Every character that ends a line is blank. -/
theorem isBlank_of_isLineBreak {c : Char} (ends : isLineBreak c = true) : isBlank c = true := by
  simp only [isBlank, isLineBreak, inRanges, blankRanges, lineBreakRanges, List.any_cons,
    List.any_nil, Bool.or_false, Bool.or_eq_true, Bool.and_eq_true, decide_eq_true_eq] at ends ⊢
  omega

theorem starts_strip (some : strip cs ≠ []) : Starts (strip cs) := by
  obtain ⟨c, rest, same⟩ := List.exists_cons_of_ne_nil some
  obtain ⟨more, whole⟩ : strip cs <+: stripLeft cs := List.rdropWhile_prefix isBlank _
  have dark := List.head?_dropWhile_not isBlank cs
  rw [← stripLeft, ← whole, same, List.cons_append, List.head?_cons] at dark
  exact ⟨c, rest, same, dark⟩

theorem ends_strip (some : strip cs ≠ []) : Ends (strip cs) := by
  have dark : ¬ isBlank ((strip cs).getLast some) := List.rdropWhile_last_not isBlank _ some
  exact ⟨_, _, (List.dropLast_append_getLast some).symm, Bool.eq_false_iff.2 dark⟩

theorem starts_joinLines {first : List Char} {rest : List (List Char)} (starts : Starts first) :
    Starts (joinLines (first :: rest)) := by
  cases rest with
  | nil => exact starts
  | cons next more => exact starts.append _

theorem ends_joinLines {last : List Char} (ends : Ends last) (lines : List (List Char)) :
    Ends (joinLines (lines ++ [last])) := by
  rw [joinLines_concat]
  exact ends.prepend _

theorem stripLeft_sublist (cs : List Char) : (stripLeft cs).Sublist cs :=
  (List.dropWhile_suffix _).sublist

theorem strip_sublist (cs : List Char) : (strip cs).Sublist cs :=
  (List.rdropWhile_prefix isBlank _).sublist.trans (stripLeft_sublist cs)

/-! ## Indentation -/

theorem indent?_of_starts (starts : Starts line) : indent? line = some 0 := by
  obtain ⟨c, rest, rfl, dark⟩ := starts
  rw [indent?, stripLeft_of_starts ⟨c, rest, rfl, dark⟩]
  exact congrArg some (Nat.sub_self _)

/-- Nothing is taken from lines of which one is not indented. -/
theorem dedent_joinLines (unbroken : ∀ line ∈ lines, IsUnbroken line)
    (last : lines.getLast? ≠ some []) (among : line ∈ lines) (starts : Starts line) :
    dedent (joinLines lines) = joinLines lines := by
  have shared : sharedIndent? lines = some 0 :=
    List.min?_eq_some_iff.2
      ⟨List.mem_filterMap.2 ⟨line, among, indent?_of_starts starts⟩, fun _ _ => Nat.zero_le _⟩
  have kept : lines.map (List.drop 0) = lines := List.map_id'' (fun _ => rfl) lines
  rw [dedent, splitLines_joinLines unbroken last]
  simp only [shared, kept]

theorem dedent_sublist (lined : IsLined cs) : (dedent cs).Sublist cs := by
  have whole := joinLines_splitLines_sublist lined
  rw [dedent]
  split
  · exact whole
  · exact (joinLines_map_sublist (fun line => List.drop_sublist _ line) _).trans whole

end TypeGloss.Text
