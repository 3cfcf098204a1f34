/-
# TypeGloss.Proofs.Path.Parts — directory, file name and extension

The directory part of a path is a start of it (`dirnameChars_isPrefix`), so going from a directory
to the one above either shortens it or changes nothing (`length_dirnameChars_lt`).

An extension is the last dot of the file name and what follows, where the file name has more
than dots in front of it: that is what `splitExtension` takes off (`splitExtension_append`), and it
takes nothing else off (`of_splitExtension`).
-/
import TypeGloss.Path
import Mathlib.Data.List.DropRight

namespace TypeGloss.Path

set_option autoImplicit false

variable {cs more stem extension : List Char}

/-! ## Directories -/

theorem dirnameChars_isPrefix (cs : List Char) : dirnameChars cs <+: cs := by
  have head : cs.rdropWhile (· != '/') <+: cs := cs.rdropWhile_prefix _
  rw [dirnameChars]
  split
  · exact head
  · exact (List.rdropWhile_prefix (· == '/') _).trans head

/-- The directory above a directory is shorter, unless it is the directory itself. -/
theorem length_dirnameChars_lt (changed : dirnameChars cs ≠ cs) :
    (dirnameChars cs).length < cs.length :=
  lt_of_le_of_ne (dirnameChars_isPrefix cs).length_le
    fun same => changed ((dirnameChars_isPrefix cs).eq_of_length same)

/-- A path below no directory is the path itself. -/
theorem join_empty (path : String) : join "" path = path := by
  simp [join, joinChars]

/-! ## File names -/

theorem not_mem_basenameChars (cs : List Char) : '/' ∉ basenameChars cs := by
  intro here
  have other := List.mem_takeWhile_imp (List.mem_reverse.1 here)
  simp at other

theorem basenameChars_suffix (cs : List Char) : basenameChars cs <:+ cs :=
  cs.rtakeWhile_suffix _

/-- What has no slash comes to the file name. -/
theorem basenameChars_append (whole : '/' ∉ more) (cs : List Char) :
    basenameChars (cs ++ more) = basenameChars cs ++ more := by
  have all : ∀ c ∈ more.reverse, (c != '/') = true := by
    intro c here
    exact bne_iff_ne.2 fun same => whole (same ▸ List.mem_reverse.1 here)
  rw [basenameChars, List.reverse_append, List.takeWhile_append_of_pos all, List.reverse_append,
    List.reverse_reverse, basenameChars]

/-! ## Extensions -/

/-- The file name has more than dots. -/
def IsNamed (stem : List Char) : Prop :=
  ∃ c ∈ basenameChars stem, c ≠ '.'

/-- What follows the last dot of a text. -/
theorem reverse_takeWhile_ne_dot (plain : '.' ∉ extension) (cs : List Char) :
    ((cs ++ '.' :: extension).reverse.takeWhile (· != '.')).reverse = extension := by
  have all : ∀ c ∈ extension.reverse, (c != '.') = true := by
    intro c here
    exact bne_iff_ne.2 fun same => plain (same ▸ List.mem_reverse.1 here)
  rw [List.reverse_append, List.reverse_cons, List.append_assoc, List.singleton_append,
    List.takeWhile_append_of_pos all, List.takeWhile_cons_of_neg (by simp), List.append_nil,
    List.reverse_reverse]

/-- The last dot and what follows are taken off a file name that has more in front of them. -/
theorem splitExtension_append (named : IsNamed stem) (plain : '.' ∉ extension)
    (whole : '/' ∉ extension) :
    splitExtension (stem ++ '.' :: extension) = (stem, '.' :: extension) := by
  have name : basenameChars (stem ++ '.' :: extension) = basenameChars stem ++ '.' :: extension :=
    basenameChars_append (by simpa using whole) stem
  have some : (basenameChars stem).dropWhile (· == '.') ≠ [] := by
    obtain ⟨c, here, other⟩ := named
    exact fun none => other (beq_iff_eq.1 (List.dropWhile_eq_nil_iff.1 none c here))
  have parts : (basenameChars stem).takeWhile (· == '.') ++
      (basenameChars stem).dropWhile (· == '.') = basenameChars stem :=
    List.takeWhile_append_dropWhile
  have leading : (basenameChars stem ++ '.' :: extension).takeWhile (· == '.') =
      (basenameChars stem).takeWhile (· == '.') := by
    rw [List.takeWhile_append, if_neg]
    intro same
    rw [(List.takeWhile_prefix _).eq_of_length same, List.append_right_eq_self] at parts
    exact some parts
  have rest : (basenameChars stem ++ '.' :: extension).dropWhile (· == '.') =
      (basenameChars stem).dropWhile (· == '.') ++ '.' :: extension := by
    rw [List.dropWhile_append, if_neg (by simpa using some)]
  have inside : (basenameChars stem).length ≤ stem.length :=
    (basenameChars_suffix stem).length_le
  have total := congrArg List.length parts
  rw [List.length_append] at total
  simp only [splitExtension, name, leading, rest, reverse_takeWhile_ne_dot plain]
  rw [if_neg (by simp; omega), List.take_left' (by simp; omega)]

/-- A text with a dot is what stands before its last dot, the dot, and what follows. -/
theorem exists_eq_append_dot (dotted : (cs.rtakeWhile (· != '.')).length ≠ cs.length) :
    ∃ front, cs = front ++ '.' :: cs.rtakeWhile (· != '.') := by
  have parts : cs.rdropWhile (· != '.') ++ cs.rtakeWhile (· != '.') = cs :=
    List.rdropWhile_append_rtakeWhile
  have some : cs.rdropWhile (· != '.') ≠ [] := by
    intro none
    rw [none, List.nil_append] at parts
    exact dotted (congrArg List.length parts)
  have last := List.rdropWhile_last_not (· != '.') cs some
  rw [bne_iff_ne, not_not] at last
  refine ⟨(cs.rdropWhile (· != '.')).dropLast, ?_⟩
  calc
    cs = ((cs.rdropWhile (· != '.')).dropLast ++ [(cs.rdropWhile (· != '.')).getLast some]) ++
          cs.rtakeWhile (· != '.') := by rw [List.dropLast_concat_getLast, parts]
    _ = (cs.rdropWhile (· != '.')).dropLast ++ '.' :: cs.rtakeWhile (· != '.') := by
          rw [last, List.append_assoc, List.singleton_append]

/-- Where something is taken off as an extension, the file name has a dot with more than dots in
front of it. -/
theorem exists_of_splitExtension (some : (splitExtension cs).2 ≠ []) :
    ∃ stem extension, cs = stem ++ '.' :: extension ∧ IsNamed stem ∧ '.' ∉ extension ∧
      '/' ∉ extension := by
  let leading := (basenameChars cs).takeWhile (· == '.')
  let rest := (basenameChars cs).dropWhile (· == '.')
  let extension := rest.rtakeWhile (· != '.')
  have dotted : extension.length ≠ rest.length := by
    intro none
    exact some (by rw [splitExtension]; exact congrArg Prod.snd (if_pos none))
  obtain ⟨front, parts⟩ := exists_eq_append_dot dotted
  obtain ⟨directory, inDirectory⟩ := basenameChars_suffix cs
  have name : basenameChars cs = (leading ++ front) ++ '.' :: extension := by
    rw [List.append_assoc, ← parts, List.takeWhile_append_dropWhile]
  have whole : '/' ∉ '.' :: extension := fun here =>
    not_mem_basenameChars cs (name ▸ List.mem_append_right _ here)
  have same : cs = (directory ++ (leading ++ front)) ++ '.' :: extension := by
    rw [List.append_assoc, ← name, inDirectory]
  refine ⟨directory ++ (leading ++ front), extension, same, ?_, fun here => ?_,
    fun here => whole (List.mem_cons_of_mem _ here)⟩
  · have stemName : basenameChars (directory ++ (leading ++ front)) = leading ++ front := by
      have both := basenameChars_append whole (directory ++ (leading ++ front))
      rw [← same, name] at both
      exact (List.append_cancel_right both).symm
    have first : ∀ c behind, rest = c :: behind → c ≠ '.' := by
      intro c behind here
      have other := List.head?_dropWhile_not (· == '.') (basenameChars cs)
      rw [show (basenameChars cs).dropWhile (· == '.') = c :: behind from here] at other
      exact beq_eq_false_iff_ne.1 other
    -- The first character of `rest` is no dot, so it stands before the last dot.
    cases front with
    | nil => exact absurd rfl (first '.' extension parts)
    | cons c behind =>
        refine ⟨c, ?_, first c (behind ++ '.' :: extension) parts⟩
        rw [stemName]
        exact List.mem_append_right _ List.mem_cons_self
  · have other := List.mem_rtakeWhile_imp here
    simp at other

/-- What is taken off a path as its extension follows a file name that has more than dots. -/
theorem of_splitExtension (split : splitExtension cs = (stem, extension))
    (some : extension ≠ []) : cs = stem ++ extension ∧ IsNamed stem := by
  obtain ⟨front, behind, same, named, plain, whole⟩ :=
    @exists_of_splitExtension cs (by rwa [split])
  rw [same, splitExtension_append named plain whole] at split
  obtain ⟨rfl, rfl⟩ := Prod.mk.inj split
  exact ⟨same, named⟩

end TypeGloss.Path
