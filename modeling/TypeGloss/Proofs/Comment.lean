/-
# TypeGloss.Proofs.Comment — comments that are written and read again

A description and block tags are written as a documentation comment (`print`): every line behind
a gutter, the first line of a tag's text after its name. What is read from that comment is what
was written (`parse_print`), whatever stars, braces and blanks the lines hold, if the description
has no blanks around it and no line that opens a tag (`IsDescription`) and the tags are named and
trimmed (`OpenTag.IsWritable`).

Reading is five passes over the text. The first four take away what `print` puts around the lines
(`stripChars_enclosed`): the delimiters, the gutters, no indentation, since the first line has
none, and the blanks at both ends. The last goes over the lines, and each tag adds itself to what
has been read (`foldl_written`).
-/
import TypeGloss.Comment
import TypeGloss.Proofs.Text.Lines

namespace TypeGloss.Comment

set_option autoImplicit false

variable {lines more description : List (List Char)} {tag : OpenTag} {tags earlier : List OpenTag}

/-! ## Writing -/

/-- The lines of a block tag: the first line of its text stands after its name. -/
def OpenTag.written (tag : OpenTag) : List (List Char) :=
  match tag.lines with
  | [] => ['@' :: tag.name]
  | first :: rest => ('@' :: tag.name ++ ' ' :: first) :: rest

/-- The lines of a comment: those of the description, and those of the tags. -/
def written (description : List (List Char)) (tags : List OpenTag) : List (List Char) :=
  description ++ tags.flatMap OpenTag.written

/-- What stands before a line in a comment. -/
def gutter : List Char := [' ', '*', ' ']

/-- Lines as they stand in a comment: each behind its gutter, between the delimiters. -/
def enclosed (lines : List (List Char)) : List (List Char) :=
  ['/', '*', '*'] :: lines.map (gutter ++ ·) ++ [[' ', '*', '/']]

/-- The comment with a description and block tags. -/
def print (description : List (List Char)) (tags : List OpenTag) : String :=
  String.ofList (Text.joinLines (enclosed (written description tags)))

/-- Lines as one text; no line at all is no text. -/
def joined? : List (List Char) → Option String
  | [] => none
  | lines => some (String.ofList (Text.joinLines lines))

/-! ## What can be written -/

/-- The line does not open a tag. -/
def IsPlain (line : List Char) : Prop := openTag? (Text.strip line) = none

instance (line : List Char) : Decidable (IsPlain line) :=
  inferInstanceAs (Decidable (openTag? (Text.strip line) = none))

/-- Lines that are no text, or one that neither starts nor ends with a blank. -/
structure IsTrim (lines : List (List Char)) : Prop where
  unbroken : ∀ line ∈ lines, Text.IsUnbroken line
  starts : ∀ line ∈ lines.head?, Text.Starts line
  ends : ∀ line ∈ lines.getLast?, Text.Ends line

/-- A description: a trimmed text without a line that opens a tag. -/
structure IsDescription (lines : List (List Char)) : Prop extends IsTrim lines where
  plain : ∀ line ∈ lines, IsPlain line

/-- A character of a tag's name is one of ASCII. -/
def IsNameChar (c : Char) : Prop := isTagChar c = true ∧ c.toNat < 0x80

/-- All characters of the text may stand in the name of a tag. -/
def AreNameChars (cs : List Char) : Prop := ∀ c ∈ cs, IsNameChar c

instance (c : Char) : Decidable (IsNameChar c) :=
  inferInstanceAs (Decidable (isTagChar c = true ∧ c.toNat < 0x80))

instance (cs : List Char) : Decidable (AreNameChars cs) := List.decidableBAll _ cs

/-- A tag that starts with a letter, with a text of trimmed lines of which only the first could
be taken for another tag. -/
structure OpenTag.IsWritable (tag : OpenTag) : Prop where
  named : ∃ first rest, tag.name = first :: rest ∧ Text.isAsciiLetter first = true ∧
    AreNameChars rest
  unbroken : ∀ line ∈ tag.lines, Text.IsUnbroken line
  trimmed : ∀ line ∈ tag.lines, Text.strip line = line
  plain : ∀ line ∈ tag.lines.tail, IsPlain line
  first : tag.lines.head? ≠ some []
  last : tag.lines.getLast? ≠ some []

theorem IsTrim.append (trim : IsTrim lines) (trim' : IsTrim more) : IsTrim (lines ++ more) where
  unbroken line among := (List.mem_append.1 among).elim (trim.unbroken line) (trim'.unbroken line)
  starts line is := by
    rw [List.head?_append] at is
    cases found : lines.head? with
    | none => exact trim'.starts line (by rwa [found] at is)
    | some first => exact trim.starts line (by rwa [found] at is ⊢)
  ends line is := by
    rw [List.getLast?_append] at is
    cases found : more.getLast? with
    | none => exact trim.ends line (by rwa [found] at is)
    | some last => exact trim'.ends line (by rwa [found] at is ⊢)

/-- A line that starts with a word may have more in front of it. -/
theorem IsTrim.prepend {before first : List Char} (trim : IsTrim (first :: lines))
    (unbroken : Text.IsUnbroken before) (starts : Text.Starts before) :
    IsTrim ((before ++ first) :: lines) := by
  obtain ⟨here, later⟩ := List.forall_mem_cons.1 trim.unbroken
  refine ⟨List.forall_mem_cons.2 ⟨List.forall_mem_append.2 ⟨unbroken, here⟩, later⟩, ?_, ?_⟩
  · rintro _ ⟨⟩
    exact starts.append first
  · cases lines with
    | nil =>
        rintro _ ⟨⟩
        exact (trim.ends first rfl).prepend before
    | cons next more => exact fun line is => trim.ends line (by simpa using is)

theorem IsTrim.getLast?_ne (trim : IsTrim lines) : lines.getLast? ≠ some [] := by
  intro empty
  obtain ⟨rest, c, same, -⟩ := trim.ends [] empty
  exact List.append_ne_nil_of_right_ne_nil rest (List.cons_ne_nil c []) same.symm

/-- What is trimmed is one text without blanks around it. -/
theorem IsTrim.starts_ends (trim : IsTrim lines) (some : lines ≠ []) :
    Text.Starts (Text.joinLines lines) ∧ Text.Ends (Text.joinLines lines) := by
  constructor
  · obtain ⟨first, rest, rfl⟩ := List.exists_cons_of_ne_nil some
    exact Text.starts_joinLines (trim.starts first rfl)
  · obtain rfl | ⟨init, last, rfl⟩ := List.eq_nil_or_concat' lines
    · exact absurd rfl some
    · exact Text.ends_joinLines (trim.ends last List.getLast?_concat) init

theorem textOf?_of_isTrim (trim : IsTrim lines) : textOf? lines = joined? lines := by
  cases lines with
  | nil => rfl
  | cons first rest =>
      obtain ⟨starts, ends⟩ := trim.starts_ends (List.cons_ne_nil first rest)
      rw [textOf?, Text.strip_of_starts_of_ends starts ends]
      obtain ⟨c, text, same, -⟩ := starts
      rw [joined?, same]
      exact List.cons_ne_nil first rest

/-! ## Delimiters, gutters and blanks -/

theorem dropOpening_joinLines (some : lines ≠ []) :
    dropOpening (Text.joinLines (['/', '*', '*'] :: lines)) = Text.joinLines ([] :: lines) := by
  rw [Text.joinLines_cons some, Text.joinLines_cons some]
  rfl

theorem dropClosing_joinLines (lines : List (List Char)) :
    dropClosing (Text.joinLines (lines ++ [[' ', '*', '/']])) =
      Text.joinLines (lines ++ [[' ']]) := by
  rw [Text.joinLines_concat, Text.joinLines_concat lines [' '], dropClosing, List.reverse_append]
  change (' ' :: (Text.joinLines (lines ++ [[]])).reverse).reverse = _
  rw [List.reverse_cons, List.reverse_reverse]

theorem dropGutter_gutter (line : List Char) : dropGutter (gutter ++ line) = line := rfl

/-- Lines between what the delimiters leave of their own lines. -/
def framed (lines : List (List Char)) : List (List Char) := [] :: lines ++ [[' ']]

theorem framed_unbroken (unbroken : ∀ line ∈ lines, Text.IsUnbroken line) :
    ∀ line ∈ framed lines, Text.IsUnbroken line := by
  have opening : Text.IsUnbroken [] := by decide
  have closing : Text.IsUnbroken [' '] := by decide
  simp only [framed, List.forall_mem_append, List.forall_mem_cons]
  exact ⟨⟨opening, unbroken⟩, closing, nofun⟩

theorem framed_getLast? (lines : List (List Char)) : (framed lines).getLast? ≠ some [] := by
  rw [framed, List.getLast?_concat]
  decide

theorem gutters_unbroken (unbroken : ∀ line ∈ lines, Text.IsUnbroken line) :
    ∀ line ∈ lines.map (gutter ++ ·), Text.IsUnbroken line := by
  have before : Text.IsUnbroken gutter := by decide
  exact List.forall_mem_map.2 fun line among =>
    List.forall_mem_append.2 ⟨before, unbroken line among⟩

theorem map_dropGutter_framed (lines : List (List Char)) :
    (framed (lines.map (gutter ++ ·))).map dropGutter = framed lines := by
  rw [framed, List.map_append, List.map_cons, List.map_map]
  exact congrArg ([] :: · ++ [[' ']]) (List.map_id'' dropGutter_gutter lines)

theorem joinLines_framed (some : lines ≠ []) :
    Text.joinLines (framed lines) = ['\n'] ++ Text.joinLines lines ++ ['\n', ' '] := by
  rw [framed, List.cons_append, Text.joinLines_cons (by simp), Text.joinLines_concat,
    Text.joinLines_concat_nil some]
  simp

/-- The first line is not indented, and what the delimiters leave is blank. -/
theorem strip_dedent_framed (trim : IsTrim lines) :
    Text.strip (Text.dedent (Text.joinLines (framed lines))) = Text.joinLines lines := by
  cases lines with
  | nil => rfl
  | cons first rest =>
      have some : first :: rest ≠ [] := List.cons_ne_nil first rest
      have among : first ∈ framed (first :: rest) := by simp [framed]
      obtain ⟨starts, ends⟩ := trim.starts_ends some
      rw [Text.dedent_joinLines (framed_unbroken trim.unbroken) (framed_getLast? _) among
        (trim.starts first rfl), joinLines_framed some]
      exact Text.strip_between (by decide) starts ends (by decide)

theorem starts_enclosed (lines : List (List Char)) :
    Text.Starts (Text.joinLines (enclosed lines)) :=
  Text.starts_joinLines ⟨'/', ['*', '*'], rfl, by decide⟩

/-- What stands around the lines of a comment is taken away, and nothing else. -/
theorem stripChars_enclosed (trim : IsTrim lines) :
    stripChars (Text.joinLines (enclosed lines)) = Text.joinLines lines := by
  have ends : Text.Ends [' ', '*', '/'] := ⟨[' ', '*'], '/', rfl, by decide⟩
  have bare : Text.strip (Text.joinLines (enclosed lines)) = Text.joinLines (enclosed lines) :=
    Text.strip_of_starts_of_ends (starts_enclosed lines) (Text.ends_joinLines ends _)
  have body : dropClosing (dropOpening (Text.joinLines (enclosed lines))) =
      Text.joinLines (framed (lines.map (gutter ++ ·))) := by
    rw [enclosed, List.cons_append, dropOpening_joinLines (by simp), ← List.cons_append,
      dropClosing_joinLines, framed]
  rw [stripChars, bare, body,
    Text.splitLines_joinLines (framed_unbroken (gutters_unbroken trim.unbroken))
      (framed_getLast? _), map_dropGutter_framed]
  exact strip_dedent_framed trim

/-! ## Names -/

theorem isNameChar_of_isAsciiLetter {c : Char} (letter : Text.isAsciiLetter c = true) :
    IsNameChar c := by
  simp only [Text.isAsciiLetter, Text.inRanges, List.any_cons, List.any_nil, Bool.or_false,
    Bool.or_eq_true, Bool.and_eq_true, decide_eq_true_eq] at letter
  have ascii : c.toNat < 0x80 := by omega
  refine ⟨?_, ascii⟩
  simp only [isTagChar, Text.isWord, if_pos ascii, Text.inRanges, List.any_cons, List.any_nil,
    Bool.or_false, Bool.or_eq_true, Bool.and_eq_true, decide_eq_true_eq]
  omega

theorem isBlank_of_isNameChar {c : Char} (name : IsNameChar c) : Text.isBlank c = false := by
  obtain ⟨tagChar, ascii⟩ := name
  rw [isTagChar, Bool.or_eq_true, decide_eq_true_eq] at tagChar
  obtain word | rfl := tagChar
  · simp only [Text.isWord, if_pos ascii, Text.inRanges, List.any_cons, List.any_nil,
      Bool.or_false, Bool.or_eq_true, Bool.and_eq_true, decide_eq_true_eq] at word
    simp only [Text.isBlank, Text.inRanges, Text.blankRanges, List.any_cons, List.any_nil,
      Bool.or_false, Bool.or_eq_false_iff, Bool.and_eq_false_iff, decide_eq_false_iff_not]
    omega
  · decide

theorem isLineBreak_of_isNameChar {c : Char} (name : IsNameChar c) :
    Text.isLineBreak c = false := by
  cases isBreak : Text.isLineBreak c with
  | false => rfl
  | true =>
      have blank := Text.isBlank_of_isLineBreak isBreak
      rw [isBlank_of_isNameChar name] at blank
      contradiction

theorem OpenTag.IsWritable.areNameChars (writable : tag.IsWritable) :
    AreNameChars tag.name := by
  obtain ⟨first, rest, same, letter, chars⟩ := writable.named
  rw [same]
  exact List.forall_mem_cons.2 ⟨isNameChar_of_isAsciiLetter letter, chars⟩

/-- A name at the start of a line opens a tag; what follows the name is its text. -/
theorem openTag?_name (writable : tag.IsWritable) (text : List Char)
    (stops : ∀ c ∈ text.head?, isTagChar c = false) :
    openTag? ('@' :: tag.name ++ text) =
      some ⟨tag.name, if (Text.stripLeft text).isEmpty then [] else [Text.stripLeft text]⟩ := by
  obtain ⟨first, rest, same, letter, chars⟩ := writable.named
  have tagChars : ∀ c ∈ rest, isTagChar c = true := fun c among => (chars c among).1
  have nothing : text.takeWhile isTagChar = [] ∧ text.dropWhile isTagChar = text := by
    cases text with
    | nil => exact ⟨rfl, rfl⟩
    | cons c more =>
        have stop : ¬ isTagChar c = true := by
          rw [stops c rfl]
          exact Bool.false_ne_true
        exact ⟨List.takeWhile_cons_of_neg stop, List.dropWhile_cons_of_neg stop⟩
  rw [same, List.cons_append, List.cons_append, openTag?, if_pos letter,
    List.takeWhile_append_of_pos tagChars, List.dropWhile_append_of_pos tagChars, nothing.1,
    nothing.2, List.append_nil]

/-! ## Lines that are read -/

theorem foldl_plain (plain : ∀ line ∈ lines, IsPlain line) (before : List (List Char)) :
    lines.foldl Reading.line ⟨before, []⟩ = ⟨before ++ lines, []⟩ := by
  induction lines generalizing before with
  | nil => rw [List.foldl_nil, List.append_nil]
  | cons line rest ih =>
      obtain ⟨here, later⟩ := List.forall_mem_cons.1 plain
      have step : Reading.line ⟨before, []⟩ line = ⟨before ++ [line], []⟩ := by
        rw [Reading.line, here]
      rw [List.foldl_cons, step, ih later, List.append_assoc, List.singleton_append]

/-- Plain lines are gathered under the tag that is open. -/
theorem foldl_text (plain : ∀ line ∈ lines, IsPlain line)
    (trimmed : ∀ line ∈ lines, Text.strip line = line) (tag : OpenTag) :
    lines.foldl Reading.line ⟨description, tag :: earlier⟩ =
      ⟨description, ⟨tag.name, tag.lines ++ lines⟩ :: earlier⟩ := by
  induction lines generalizing tag with
  | nil => rw [List.foldl_nil, List.append_nil]
  | cons line rest ih =>
      obtain ⟨here, later⟩ := List.forall_mem_cons.1 plain
      obtain ⟨same, same'⟩ := List.forall_mem_cons.1 trimmed
      have step : Reading.line ⟨description, tag :: earlier⟩ line =
          ⟨description, ⟨tag.name, tag.lines ++ [line]⟩ :: earlier⟩ := by
        rw [Reading.line, here, same]
      rw [List.foldl_cons, step, ih later same', List.append_assoc, List.singleton_append]

/-! ## Tags that are read -/

theorem OpenTag.IsWritable.isTrim_lines (writable : tag.IsWritable) : IsTrim tag.lines where
  unbroken := writable.unbroken
  starts line is := by
    have some : line ≠ [] := by
      rintro rfl
      exact writable.first is
    rw [← writable.trimmed line (List.mem_of_head? is)] at some ⊢
    exact Text.starts_strip some
  ends line is := by
    have some : line ≠ [] := by
      rintro rfl
      exact writable.last is
    rw [← writable.trimmed line (List.mem_of_getLast? is)] at some ⊢
    exact Text.ends_strip some

theorem OpenTag.IsWritable.unbroken_name (writable : tag.IsWritable) :
    Text.IsUnbroken ('@' :: tag.name) :=
  List.forall_mem_cons.2
    ⟨by decide, fun c among => isLineBreak_of_isNameChar (writable.areNameChars c among)⟩

theorem starts_name (name : List Char) : Text.Starts ('@' :: name) :=
  ⟨'@', name, rfl, by decide⟩

theorem OpenTag.IsWritable.ends_name (writable : tag.IsWritable) :
    Text.Ends ('@' :: tag.name) := by
  obtain ⟨first, rest, same, -⟩ := writable.named
  obtain nil | ⟨init, last, concat⟩ := List.eq_nil_or_concat' tag.name
  · exact absurd (same.symm.trans nil) (List.cons_ne_nil first rest)
  · have among : last ∈ tag.name := by
      rw [concat]
      exact List.mem_concat_self
    refine ⟨'@' :: init, last, ?_, isBlank_of_isNameChar (writable.areNameChars last among)⟩
    rw [concat, List.cons_append]

theorem OpenTag.IsWritable.isTrim_written (writable : tag.IsWritable) : IsTrim tag.written := by
  have lines := writable.isTrim_lines
  rw [OpenTag.written]
  cases same : tag.lines with
  | nil =>
      refine ⟨List.forall_mem_singleton.2 writable.unbroken_name, ?_, ?_⟩
      · rintro _ ⟨⟩
        exact starts_name tag.name
      · rintro _ ⟨⟩
        exact writable.ends_name
  | cons first rest =>
      rw [same] at lines
      have space : Text.IsUnbroken [' '] := by decide
      have before : Text.IsUnbroken ('@' :: tag.name ++ [' ']) :=
        List.forall_mem_append.2 ⟨writable.unbroken_name, space⟩
      have written := lines.prepend before ((starts_name tag.name).append [' '])
      rwa [List.append_assoc, List.singleton_append] at written

theorem openTag?_written (writable : tag.IsWritable) :
    openTag? (Text.strip ('@' :: tag.name)) = some ⟨tag.name, []⟩ := by
  have opened := openTag?_name writable [] nofun
  rw [List.append_nil] at opened
  rw [Text.strip_of_starts_of_ends (starts_name tag.name) writable.ends_name, opened]
  rfl

/-- The first line of a written tag opens that tag again. -/
theorem openTag?_written_text (writable : tag.IsWritable) {first : List Char}
    (starts : Text.Starts first) (ends : Text.Ends first) :
    openTag? (Text.strip ('@' :: tag.name ++ ' ' :: first)) = some ⟨tag.name, [first]⟩ := by
  have bare : Text.strip ('@' :: tag.name ++ ' ' :: first) = '@' :: tag.name ++ ' ' :: first :=
    Text.strip_of_starts_of_ends ((starts_name tag.name).append _)
      ((ends.prepend [' ']).prepend ('@' :: tag.name))
  have text : Text.stripLeft (' ' :: first) = first := Text.stripLeft_of_starts starts
  have opened := openTag?_name writable (' ' :: first) (by
    rintro _ ⟨⟩
    decide)
  obtain ⟨c, rest, rfl, -⟩ := starts
  rw [bare, opened, text]
  rfl

/-- A written tag is opened by its first line, and takes the others. -/
theorem foldl_written (writable : tag.IsWritable) :
    tag.written.foldl Reading.line ⟨description, earlier⟩ = ⟨description, tag :: earlier⟩ := by
  have opening {line : List Char} {opened : OpenTag}
      (opens : openTag? (Text.strip line) = some opened) :
      Reading.line ⟨description, earlier⟩ line = ⟨description, opened :: earlier⟩ := by
    rw [Reading.line, opens]
  obtain ⟨name, lines⟩ := tag
  cases lines with
  | nil => exact opening (openTag?_written writable)
  | cons first rest =>
      have ends : Text.Ends first := by
        have trimmed := writable.trimmed first List.mem_cons_self
        rw [← trimmed]
        exact Text.ends_strip fun empty => writable.first (by rw [← trimmed, empty]; rfl)
      have starts : Text.Starts first := writable.isTrim_lines.starts first rfl
      have plain : ∀ line ∈ rest, IsPlain line := writable.plain
      have trimmed line (among : line ∈ rest) : Text.strip line = line :=
        writable.trimmed line (List.mem_cons_of_mem first among)
      rw [OpenTag.written, List.foldl_cons, opening (openTag?_written_text writable starts ends),
        foldl_text plain trimmed, List.singleton_append]

/-- Written tags are read back one after the other, the last one first. -/
theorem foldl_tags (writable : ∀ tag ∈ tags, tag.IsWritable) (earlier : List OpenTag) :
    (tags.flatMap OpenTag.written).foldl Reading.line ⟨description, earlier⟩ =
      ⟨description, tags.reverse ++ earlier⟩ := by
  induction tags generalizing earlier with
  | nil => rfl
  | cons tag rest ih =>
      obtain ⟨here, later⟩ := List.forall_mem_cons.1 writable
      rw [List.flatMap_cons, List.foldl_append, foldl_written here, ih later, List.reverse_cons,
        List.append_assoc, List.singleton_append]

theorem isTrim_written (trim : IsTrim description) (writable : ∀ tag ∈ tags, tag.IsWritable) :
    IsTrim (written description tags) := by
  refine trim.append ?_
  induction tags with
  | nil => exact ⟨nofun, nofun, nofun⟩
  | cons tag rest ih =>
      obtain ⟨here, later⟩ := List.forall_mem_cons.1 writable
      exact here.isTrim_written.append (ih later)

/-! ## Reading what was written -/

/-- A comment that is written and read again has the description and the tags it was written
with, the tags in their order. -/
theorem parse_print (described : IsDescription description)
    (writable : ∀ tag ∈ tags, tag.IsWritable) :
    parse (print description tags) =
      ⟨joined? description,
        tags.map fun tag => ⟨String.ofList tag.name, joined? tag.lines⟩⟩ := by
  have trim := isTrim_written described.toIsTrim writable
  have some : print description tags ≠ "" := by
    intro empty
    have chars := congrArg String.toList empty
    rw [print, String.toList_ofList] at chars
    exact (starts_enclosed _).ne_nil chars
  have read : (written description tags).foldl Reading.line {} =
      ⟨description, tags.reverse⟩ := by
    rw [written, List.foldl_append, foldl_plain described.plain, foldl_tags writable,
      List.append_nil]
    rfl
  have closed : ∀ tag ∈ tags, tag.close = ⟨String.ofList tag.name, joined? tag.lines⟩ := by
    intro tag among
    rw [OpenTag.close, textOf?_of_isTrim (writable tag among).isTrim_lines]
  rw [parse, if_neg some, print, String.toList_ofList, stripChars_enclosed trim,
    Text.splitLines_joinLines trim.unbroken trim.getLast?_ne]
  simp only [read, textOf?_of_isTrim described.toIsTrim, List.map_reverse, List.reverse_reverse,
    List.map_congr_left closed]

/-- Lines with stars, an inline tag, the end of a comment and their own indentation. -/
def starredDescription : List (List Char) :=
  ["* see \x7b@link X\x7d */".toList, [], "  @ two".toList]

/-- A tag with a text of several lines, and one without a text. -/
def starredTags : List OpenTag :=
  [⟨"param-2".toList, ["@x  y".toList, [], "*/".toList]⟩, ⟨"internal".toList, []⟩]

theorem parse_print_starred :
    IsDescription starredDescription ∧ (∀ tag ∈ starredTags, tag.IsWritable) ∧
      print starredDescription starredTags =
        "/**\n * * see \x7b@link X\x7d */\n * \n *   @ two\n" ++
          " * @param-2 @x  y\n * \n * */\n * @internal\n */" ∧
      parse (print starredDescription starredTags) =
        ⟨some "* see \x7b@link X\x7d */\n\n  @ two",
          [⟨"param-2", some "@x  y\n\n*/"⟩, ⟨"internal", none⟩]⟩ := by
  have described : IsDescription starredDescription := {
    unbroken := by decide
    starts := by
      rintro _ ⟨⟩
      exact ⟨_, _, rfl, by decide⟩
    ends := by
      rintro _ ⟨⟩
      exact ⟨"  @ tw".toList, 'o', rfl, by decide⟩
    plain := by decide }
  have texted : OpenTag.IsWritable ⟨"param-2".toList, ["@x  y".toList, [], "*/".toList]⟩ := {
    named := ⟨'p', "aram-2".toList, rfl, rfl, by decide⟩
    unbroken := by decide
    trimmed := by decide
    plain := by decide
    first := by decide
    last := by decide }
  have bare : OpenTag.IsWritable ⟨"internal".toList, []⟩ := {
    named := ⟨'i', "nternal".toList, rfl, rfl, by decide⟩
    unbroken := nofun
    trimmed := nofun
    plain := nofun
    first := nofun
    last := nofun }
  have writable : ∀ tag ∈ starredTags, tag.IsWritable :=
    List.forall_mem_cons.2 ⟨texted, List.forall_mem_singleton.2 bare⟩
  exact ⟨described, writable, rfl, parse_print described writable⟩

end TypeGloss.Comment
