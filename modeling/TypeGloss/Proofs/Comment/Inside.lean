/-
# TypeGloss.Proofs.Comment.Inside — what is read from a comment stands inside it

A documentation comment opens with a slash and its stars and closes with its stars and a slash. What
stands strictly between is its *inside*. What is read from a comment, the description and the tags
one behind the other, is found in the inside, in this order, where every line break of the inside
counts as a line feed (`content_sublist`): blanks, gutters and indentation are only taken away. So
no character of a delimiter is ever documented, if there is an inside.

The opening and the closing may share their stars, and then nothing stands between. The opening is
taken away first, with all stars, and the slash that is left is no closing any more. It is read as
the description (`body_of_inside_eq_nil`).
-/
import TypeGloss.Checker
import TypeGloss.Proofs.Text.Lines

namespace TypeGloss.Comment

set_option autoImplicit false

variable {cs line : List Char} {lines : List (List Char)} {reading : Reading} {comment : Comment}

/-! ## Delimiters -/

/-- The text opens as a documentation comment does and closes as a comment does. -/
structure IsDelimited (text : List Char) : Prop where
  opens : ['/', '*', '*'] <+: text
  closes : ['*', '/'] <:+ text

/-- What stands strictly between the slash that opens a comment with its stars and the stars that
close it with their slash. -/
def inside (text : List Char) : List Char :=
  Text.dropTail (· == '*') ((text.drop 1).dropLast.dropWhile (· == '*'))

/-- After the two stars of the opening comes the slash of the closing, or a star comes right before
it. -/
theorem IsDelimited.exists_between (delimited : IsDelimited cs) :
    ∃ between, cs = '/' :: '*' :: '*' :: (between ++ ['/']) ∧
      (between = [] ∨ ∃ rest, between = rest ++ ['*']) := by
  obtain ⟨⟨after, rfl⟩, before, closed⟩ := delimited
  have closed : (before ++ ['*']) ++ ['/'] = ['/', '*', '*'] ++ after := by
    rw [← closed, List.append_assoc]
    rfl
  obtain rfl | ⟨between, last, rfl⟩ := List.eq_nil_or_concat' after
  · have closed : (before ++ ['*']) ++ ['/'] = ['/', '*'] ++ ['*'] := closed
    exact absurd (List.append_inj' closed rfl).2 (by decide)
  · rw [← List.append_assoc] at closed
    obtain ⟨opened, slash⟩ := List.append_inj' closed rfl
    obtain rfl : '/' = last := List.head_eq_of_cons_eq slash
    refine ⟨between, rfl, ?_⟩
    obtain rfl | ⟨rest, star, rfl⟩ := List.eq_nil_or_concat' between
    · exact .inl rfl
    · rw [← List.append_assoc] at opened
      obtain rfl : '*' = star := List.head_eq_of_cons_eq (List.append_inj' opened rfl).2
      exact .inr ⟨rest, rfl⟩

section Between

variable {between : List Char}

theorem inside_between (between : List Char) :
    inside ('/' :: '*' :: '*' :: (between ++ ['/'])) =
      Text.dropTail (· == '*') (between.dropWhile (· == '*')) := by
  have middle : ('*' :: '*' :: (between ++ ['/'])).dropLast = '*' :: '*' :: between := by
    rw [← List.cons_append, ← List.cons_append, List.dropLast_concat]
  rw [inside, List.drop_one, List.tail_cons, middle]
  rfl

theorem dropOpening_between (between : List Char) :
    dropOpening ('/' :: '*' :: '*' :: (between ++ ['/'])) =
      between.dropWhile (· == '*') ++ ['/'] := by
  change (between ++ ['/']).dropWhile (· == '*') = _
  rw [List.dropWhile_append]
  split
  · next empty =>
      rw [List.isEmpty_iff.1 empty]
      rfl
  · rfl

theorem dropTail_dropWhile_eq_nil_iff {p : Char → Bool} :
    Text.dropTail p (cs.dropWhile p) = [] ↔ cs.dropWhile p = [] := by
  refine ⟨fun nothing => ?_, fun nothing => by rw [nothing]; rfl⟩
  have all : ∀ c ∈ cs.dropWhile p, p c = true := List.rdropWhile_eq_nil_iff.1 nothing
  cases rest : cs.dropWhile p with
  | nil => rfl
  | cons c more =>
      have first := List.head?_dropWhile_not p cs
      rw [rest] at first all
      exact absurd (all c List.mem_cons_self) (by simpa using first)

/-- The delimiters are taken away up to the inside, if there is one. -/
theorem body_of_inside_ne_nil (delimited : IsDelimited cs) (some : inside cs ≠ []) :
    dropClosing (dropOpening cs) = inside cs := by
  obtain ⟨between, rfl, ends⟩ := delimited.exists_between
  rw [inside_between] at some ⊢
  rw [dropOpening_between]
  have left : between.dropWhile (· == '*') ≠ [] := mt dropTail_dropWhile_eq_nil_iff.2 some
  obtain ⟨before, whole⟩ := List.dropWhile_suffix (· == '*') (l := between)
  -- What is left between the stars of the opening and the slash still ends with a star.
  obtain ⟨rest, last⟩ : ∃ rest, between.dropWhile (· == '*') = rest ++ ['*'] := by
    obtain rfl | ⟨rest', rfl⟩ := ends
    · exact absurd rfl left
    · obtain ⟨rest, last, same⟩ := (List.eq_nil_or_concat' _).resolve_left left
      rw [same, ← List.append_assoc] at whole
      obtain rfl : last = '*' := List.head_eq_of_cons_eq (List.append_inj' whole rfl).2
      exact ⟨rest, same⟩
  rw [last, dropClosing, List.append_assoc, List.reverse_append, Text.dropTail,
    List.reverse_append, List.reverse_append]
  rfl

/-- If there is no inside, a slash is left. -/
theorem body_of_inside_eq_nil (delimited : IsDelimited cs) (nothing : inside cs = []) :
    dropClosing (dropOpening cs) = ['/'] := by
  obtain ⟨between, rfl, -⟩ := delimited.exists_between
  rw [inside_between] at nothing
  rw [dropOpening_between, dropTail_dropWhile_eq_nil_iff.1 nothing]
  rfl

end Between

theorem IsDelimited.strip (delimited : IsDelimited cs) : Text.strip cs = cs := by
  obtain ⟨between, rfl, -⟩ := delimited.exists_between
  exact Text.strip_of_starts_of_ends ⟨'/', _, rfl, by decide⟩
    ⟨'/' :: '*' :: '*' :: between, '/', rfl, by decide⟩

/-! ## Lines -/

theorem dropGutter_sublist (line : List Char) : (dropGutter line).Sublist line := by
  have stripped := Text.stripLeft_sublist line
  rw [dropGutter]
  split
  · next same => exact (((List.Sublist.refl _).cons ' ').cons '*').trans (same ▸ stripped)
  · next same => exact ((List.Sublist.refl _).cons '*').trans (same ▸ stripped)
  · exact .refl line

/-- Gutters, indentation and blanks are only taken away. -/
theorem stripChars_sublist {body : List Char}
    (same : dropClosing (dropOpening (Text.strip cs)) = body) :
    (stripChars cs).Sublist (Text.joinLines (Text.splitLines body)) := by
  subst same
  set split := Text.splitLines (dropClosing (dropOpening (Text.strip cs)))
  have bare : (Text.joinLines (split.map dropGutter)).Sublist (Text.joinLines split) :=
    Text.joinLines_map_sublist dropGutter_sublist split
  have lined : Text.IsLined (Text.joinLines split) :=
    Text.isLined_joinLines fun _ among => Text.unbroken_of_mem_splitLines among
  exact ((Text.strip_sublist _).trans (Text.dedent_sublist (lined.sublist bare))).trans bare

/-! ## Tags -/

/-- A tag as it stands in a text: its sign, its name and its lines. -/
def OpenTag.content (tag : OpenTag) : List Char :=
  '@' :: tag.name ++ Text.joinLines tag.lines

/-- What has been read, the description and the tags on end. -/
def Reading.content (reading : Reading) : List Char :=
  Text.joinLines reading.description ++ reading.tags.reverse.flatMap OpenTag.content

/-- What was read from a comment, the description and the tags on end. -/
def content (comment : Comment) : List Char :=
  (comment.description.getD "").toList ++
    comment.tags.flatMap fun tag => '@' :: tag.name.toList ++ (tag.text.getD "").toList

theorem content_openTag? {tag : OpenTag} (opens : openTag? line = some tag) :
    tag.content.Sublist line := by
  fun_cases openTag? line with
  | case1 first rest letter text =>
      rw [openTag?, if_pos letter] at opens
      cases opens
      have text' : (Text.joinLines (if text.isEmpty then [] else [text])).Sublist text := by
        split
        · exact List.nil_sublist _
        · exact .refl _
      have behind : text.Sublist (rest.dropWhile isTagChar) := Text.stripLeft_sublist _
      have whole : (rest.takeWhile isTagChar ++ rest.dropWhile isTagChar).Sublist rest := by
        rw [List.takeWhile_append_dropWhile]
      have kept := (List.Sublist.refl (rest.takeWhile isTagChar)).append (text'.trans behind)
      exact .cons_cons '@' (.cons_cons first (kept.trans whole))
  | case2 first rest other =>
      rw [openTag?, if_neg other] at opens
      cases opens
  | case3 _ other =>
      rw [openTag?.eq_2 line other] at opens
      cases opens

theorem joinLines_concat_sublist (lines : List (List Char)) (line : List Char) :
    (Text.joinLines (lines ++ [line])).Sublist (Text.joinLines lines ++ '\n' :: line) := by
  cases lines with
  | nil => exact .cons '\n' (.refl line)
  | cons first rest =>
      rw [Text.joinLines_concat, Text.joinLines_concat_nil (List.cons_ne_nil first rest),
        List.append_assoc, List.singleton_append]

/-- One more line adds nothing that does not stand in it. -/
theorem Reading.content_line (reading : Reading) (line : List Char) :
    (reading.line line).content.Sublist (reading.content ++ '\n' :: line) := by
  have trimmed := Text.strip_sublist line
  rw [Reading.line]
  split
  · next tag opens =>
      rw [Reading.content, Reading.content, List.reverse_cons, List.flatMap_append,
        ← List.append_assoc, List.flatMap_singleton]
      exact .append (.refl _) (.cons '\n' ((content_openTag? opens).trans trimmed))
  · split
    · next tag earlier tags =>
        simp only [Reading.content, OpenTag.content, tags, List.reverse_cons, List.flatMap_append,
          List.flatMap_singleton, List.append_assoc]
        refine .append (.refl _) (.append (.refl _) (.append (.refl _) ?_))
        have added := joinLines_concat_sublist tag.lines (Text.strip line)
        exact added.trans (.append (.refl _) (.cons_cons '\n' trimmed))
    · next tags =>
        simp only [Reading.content, tags, List.reverse_nil, List.flatMap_nil, List.append_nil]
        exact joinLines_concat_sublist reading.description line

/-- The first line is read as it stands. -/
theorem Reading.content_first (line : List Char) : (Reading.line {} line).content.Sublist line := by
  rw [Reading.line]
  split
  · next tag opens =>
      have opened := (content_openTag? opens).trans (Text.strip_sublist line)
      simpa only [Reading.content, List.reverse_singleton, List.flatMap_singleton, Text.joinLines,
        List.nil_append] using opened
  · simp only [Reading.content, List.reverse_nil, List.flatMap_nil, List.append_nil,
      List.nil_append, Text.joinLines]
    exact .refl line

/-- What is read from lines is found in them, in their order. -/
theorem Reading.content_foldl (lines : List (List Char)) :
    (lines.foldl Reading.line {}).content.Sublist (Text.joinLines lines) := by
  induction lines using List.reverseRecOn with
  | nil => exact .refl _
  | append_singleton lines line ih =>
      rw [List.foldl_append, List.foldl_cons, List.foldl_nil]
      cases lines with
      | nil => exact Reading.content_first line
      | cons first rest =>
          rw [Text.joinLines_concat, Text.joinLines_concat_nil (List.cons_ne_nil first rest),
            List.append_assoc, List.singleton_append]
          exact (Reading.content_line _ line).trans (.append ih (.refl _))

theorem textOf?_sublist (lines : List (List Char)) :
    ((textOf? lines).getD "").toList.Sublist (Text.joinLines lines) := by
  have stripped := Text.strip_sublist (Text.joinLines lines)
  rw [textOf?]
  split
  · exact List.nil_sublist _
  · rwa [Option.getD_some, String.toList_ofList]

theorem content_close (reading : Reading) :
    (content ⟨textOf? reading.description, (reading.tags.map OpenTag.close).reverse⟩).Sublist
      reading.content := by
  rw [content, Reading.content, ← List.map_reverse]
  refine .append (textOf?_sublist _) ?_
  induction reading.tags.reverse with
  | nil => exact .refl _
  | cons tag rest ih =>
      rw [List.map_cons, List.flatMap_cons, List.flatMap_cons, OpenTag.close, OpenTag.content,
        String.toList_ofList]
      exact .append (.append (.refl _) (textOf?_sublist _)) ih

/-- What is read from a comment is found in what the delimiters leave, in its order. -/
theorem content_sublist {text : String} {body : List Char}
    (same : dropClosing (dropOpening (Text.strip text.toList)) = body) :
    (parse text).content.Sublist (Text.joinLines (Text.splitLines body)) := by
  have stripped := stripChars_sublist same
  have lined : Text.IsLined (stripChars text.toList) :=
    (Text.isLined_joinLines fun _ among => Text.unbroken_of_mem_splitLines among).sublist stripped
  rw [parse]
  split
  · exact List.nil_sublist _
  · exact (((content_close _).trans (Reading.content_foldl _)).trans
      (Text.joinLines_splitLines_sublist lined)).trans stripped

/-! ## Comments before a node -/

/-- Comments that open as documentation comments are closed. -/
def AreClosed (siblings : List Tree) : Prop :=
  ∀ t ∈ siblings, t.kind = "comment" → ['/', '*', '*'] <+: t.text.toList →
    ['*', '/'] <:+ t.text.toList

instance (siblings : List Tree) : Decidable (AreClosed siblings) := List.decidableBAll _ siblings

/-- A comment found before a node is delimited, if the comments there are closed. -/
theorem isDelimited_of_leadingComment? {node : Cursor} {text : String}
    (closed : AreClosed node.before) (found : Checker.leadingComment? node = some text) :
    IsDelimited text.toList := by
  obtain ⟨t, first, rfl⟩ := Option.map_eq_some_iff.1 found
  have isComment := List.mem_takeWhile_imp (List.mem_of_find?_eq_some first)
  have among := (List.takeWhile_prefix _).subset (List.mem_of_find?_eq_some first)
  have starts := List.find?_some first
  have opens : ['/', '*', '*'] <+: t.text.toList := List.isPrefixOf_iff_prefix.1 starts
  exact ⟨opens, closed t among (beq_iff_eq.1 isComment) opens⟩

theorem parse_of_inside_eq_nil {text : String} (delimited : IsDelimited text.toList)
    (nothing : inside text.toList = []) : parse text = ⟨some "/", []⟩ := by
  have stripped : stripChars text.toList = ['/'] := by
    rw [stripChars, delimited.strip, body_of_inside_eq_nil delimited nothing]
    rfl
  have some : text ≠ "" := by
    rintro rfl
    exact absurd delimited.opens (by decide)
  rw [parse, if_neg some, stripped]
  rfl

/-- A comment with nothing but blanks inside documents nothing. -/
theorem parse_of_areBlank {text : String} {body : List Char}
    (same : dropClosing (dropOpening (Text.strip text.toList)) = body)
    (blank : Text.AreBlank body) : parse text = {} := by
  have stripped : stripChars text.toList = [] := by
    by_contra some
    -- What is left starts with a character that is not blank, and has none but those of the body.
    obtain ⟨c, rest, first, dark⟩ := Text.starts_strip some
    have here : c ∈ stripChars text.toList := by
      rw [stripChars, first]
      exact List.mem_cons_self
    have isBlank : Text.isBlank c = true := by
      rcases Text.mem_joinLines_splitLines ((stripChars_sublist same).mem here) with
        among | ⟨rfl, -⟩
      · exact blank c among
      · decide
    exact absurd (dark.symm.trans isBlank) (by decide)
  rw [parse, stripped]
  split <;> rfl

/-- What is read from the documentation comment before a node stands inside the comment, if there
is anything between its delimiters: it is found there in the same order, with line feeds for line
breaks, so that each of its characters is one of the inside or stands for a line break there. If all
between the delimiters is blank, nothing is read. If there is nothing at all between them, which is
so for comments of stars only, then the slash of the closing is read as a description. -/
theorem leadingComment_content {node : Cursor} {text : String} (closed : AreClosed node.before)
    (found : Checker.leadingComment? node = some text) :
    (inside text.toList = [] → parse text = ⟨some "/", []⟩) ∧
      (inside text.toList ≠ [] →
        (parse text).content.Sublist (Text.joinLines (Text.splitLines (inside text.toList))) ∧
          (∀ c ∈ (parse text).content, c ∈ inside text.toList ∨
            c = '\n' ∧ ∃ b ∈ inside text.toList, Text.isLineBreak b = true) ∧
          (Text.AreBlank (inside text.toList) → parse text = {})) := by
  have delimited := isDelimited_of_leadingComment? closed found
  refine ⟨parse_of_inside_eq_nil delimited, fun some => ?_⟩
  have body : dropClosing (dropOpening (Text.strip text.toList)) = inside text.toList := by
    rw [delimited.strip, body_of_inside_ne_nil delimited some]
  have found := content_sublist body
  exact ⟨found, fun c here => Text.mem_joinLines_splitLines (found.mem here),
    parse_of_areBlank body⟩

/-! ### A comment that ends with more stars than it has to -/

/-- A node of which only kind and text matter. -/
def bare (kind text : String) : Tree :=
  .node ⟨kind, text, 0, text.utf8ByteSize, ⟨0, 0⟩, ⟨0, text.utf8ByteSize⟩, true, false, none⟩ []

/-- A declaration behind a comment, with another comment in between. -/
def behind (comment : String) : Cursor :=
  let siblings := [bare "comment" comment, bare "comment" "// aside", bare "class_declaration" ""]
  ⟨bare "class_declaration" "",
    [⟨.node ⟨"program", "", 0, 0, ⟨0, 0⟩, ⟨0, 0⟩, true, false, none⟩ siblings, 2⟩]⟩

theorem leadingComment_content_starred :
    AreClosed (behind "/*** a/*b\r * @c d* \r\n ****/").before ∧
      Checker.leadingComment? (behind "/*** a/*b\r * @c d* \r\n ****/") =
        some "/*** a/*b\r * @c d* \r\n ****/" ∧
      inside "/*** a/*b\r * @c d* \r\n ****/".toList = " a/*b\r * @c d* \r\n ".toList ∧
      parse "/*** a/*b\r * @c d* \r\n ****/" = ⟨some "a/*b", [⟨"c", some "d*"⟩]⟩ ∧
      "a/*b@cd*".toList.Sublist " a/*b\n * @c d* \n ".toList ∧
      AreClosed (behind "/***/").before ∧
      Checker.leadingComment? (behind "/***/") = some "/***/" ∧
      inside "/***/".toList = [] ∧ parse "/***/" = ⟨some "/", []⟩ := by
  have closed : AreClosed (behind "/*** a/*b\r * @c d* \r\n ****/").before := by decide
  have found : Checker.leadingComment? (behind "/*** a/*b\r * @c d* \r\n ****/") =
    some "/*** a/*b\r * @c d* \r\n ****/" := rfl
  have closed' : AreClosed (behind "/***/").before := by decide
  have found' : Checker.leadingComment? (behind "/***/") = some "/***/" := rfl
  have kept := ((leadingComment_content closed found).2 (by decide)).1
  exact ⟨closed, found, rfl, rfl, kept, closed', found', rfl,
    (leadingComment_content closed' found').1 rfl⟩

end TypeGloss.Comment
