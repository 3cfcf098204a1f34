/-
# TypeGloss.Proofs.Checker.Spelling — one type in two layouts

The text of a type that is written is made from its syntax: comments are left out, strings are
put in double quotes, members of object types are written between semicolons, and in the end
every run of blanks becomes one space. Whatever else stands between two words is copied.

Two nodes are spellings of one type (`Cursor.Respelled`) if they have the same words in the same
structure. `Cursor.Respelled.comeAlike` says that their words are put together to texts that are
alike, in any sense of likeness that goes through the steps by which texts are made
(`IsLikeness`). There are two of these: to have the same characters but for blanks and
separators (`SameLetters`), and to be the same but for the length of runs of blanks (`SameRuns`).

So a text depends on the layout in one way (`text_respelled`): it has a blank between two words
if there is one in the source. And to make runs of blanks one space is not for what is between
words alone: a run inside a string goes too.
-/
import Mathlib.Data.List.DropRight
import TypeGloss.Proofs.Checker.Ensuring
import TypeGloss.Proofs.Checker.Renaming

namespace TypeGloss

set_option autoImplicit false

open Answer (answer)

/-! ## Runs of blanks -/

namespace Text

variable {cs ds : List Char} {p : Char → Bool}

theorem isBlank_space : isBlank ' ' = true := by decide

/-- Does a text end with a blank? `inside` says so of what is before it. -/
def endsBlank (inside : Bool) : List Char → Bool
  | [] => inside
  | c :: rest => endsBlank (isBlank c) rest

theorem endsBlank_concat (inside : Bool) (c : Char) :
    endsBlank inside (cs ++ [c]) = isBlank c := by
  induction cs generalizing inside with
  | nil => rfl
  | cons d rest ih => exact ih (isBlank d)

theorem collapseFrom_append (inside : Bool) :
    collapseFrom inside (cs ++ ds) =
      collapseFrom inside cs ++ collapseFrom (endsBlank inside cs) ds := by
  induction cs generalizing inside with
  | nil => rfl
  | cons c rest ih =>
      cases blank : isBlank c <;> cases inside <;>
        simp [collapseFrom, endsBlank, blank, ih]

theorem endsBlank_collapseFrom (inside : Bool) :
    endsBlank inside (collapseFrom inside cs) = endsBlank inside cs := by
  induction cs generalizing inside with
  | nil => rfl
  | cons c rest ih =>
      cases blank : isBlank c <;> cases inside <;>
        simp [collapseFrom, endsBlank, blank, ih, isBlank_space]

theorem collapseFrom_collapseFrom (inside before : Bool) :
    collapseFrom inside (collapseFrom before cs) = collapseFrom (inside || before) cs := by
  induction cs generalizing inside before with
  | nil => rfl
  | cons c rest ih =>
      cases blank : isBlank c <;> cases inside <;> cases before <;>
        simp [collapseFrom, blank, ih, isBlank_space]

/-- What becomes of a text does not depend on how long the runs of blanks in its parts are. -/
theorem collapse_append :
    collapse (cs ++ ds) =
      collapse cs ++ collapseFrom (endsBlank false (collapse cs)) (collapse ds) := by
  rw [collapse, collapseFrom_append, collapse, collapse, collapseFrom_collapseFrom,
    endsBlank_collapseFrom, Bool.or_false]

theorem collapse_concat (c : Char) :
    collapse (cs ++ [c]) = collapse cs ++
      if isBlank c = true then if endsBlank false cs = true then [] else [' '] else [c] := by
  rw [collapse, collapseFrom_append]
  cases blank : isBlank c <;> cases before : endsBlank false cs <;>
    simp [collapseFrom, blank, collapse]

/-! ### Ends of texts -/

theorem dropTail_eq_rdropWhile (p : Char → Bool) (cs : List Char) :
    dropTail p cs = cs.rdropWhile p := rfl

/-- Characters are dropped from the end before or after runs of blanks become one, if all
blanks are dropped or none. -/
theorem collapse_dropTail (uniform : ∀ c, isBlank c = true → p c = p ' ') :
    collapse (dropTail p cs) = dropTail p (collapse cs) := by
  simp only [dropTail_eq_rdropWhile]
  induction cs using List.reverseRecOn with
  | nil => rfl
  | append_singleton cs c ih =>
      rw [List.rdropWhile_concat, collapse_concat]
      cases blank : isBlank c with
      | false =>
          simp only [Bool.false_eq_true, if_false, List.rdropWhile_concat]
          split
          · exact ih
          · simp [collapse_concat, blank]
      | true =>
          have same := uniform c blank
          rw [same]
          cases before : endsBlank false cs with
          | false =>
              simp only [if_true, Bool.false_eq_true, if_false, List.rdropWhile_concat]
              split
              · exact ih
              · simp [collapse_concat, blank, before]
          | true =>
              simp only [if_true, List.append_nil]
              split
              · exact ih
              · -- The text ended with a blank before, and that stays.
                next kept =>
                  have unchanged : cs.rdropWhile p = cs := by
                    induction cs using List.reverseRecOn with
                    | nil => rfl
                    | append_singleton cs d _ =>
                        rw [endsBlank_concat] at before
                        rw [← uniform d before] at kept
                        exact List.rdropWhile_concat_neg _ _ _ kept
                  rw [← ih, unchanged]
                  simp [collapse_concat, blank, before]

theorem stripLeft_collapseFrom_true :
    stripLeft (collapseFrom true cs) = collapseFrom true cs := by
  induction cs with
  | nil => rfl
  | cons c rest ih =>
      cases blank : isBlank c with
      | true => simpa [collapseFrom, blank] using ih
      | false => simp [collapseFrom, blank, stripLeft]

theorem collapse_stripLeft : collapse (stripLeft cs) = stripLeft (collapse cs) := by
  have inside : ∀ cs, collapse (stripLeft cs) = collapseFrom true cs := by
    intro cs
    induction cs with
    | nil => rfl
    | cons c rest ih =>
        cases blank : isBlank c with
        | true => simpa [stripLeft, collapseFrom, blank] using ih
        | false => simp [stripLeft, collapse, collapseFrom, blank]
  cases cs with
  | nil => rfl
  | cons c rest =>
      cases blank : isBlank c with
      | true =>
          rw [inside]
          have rest := @stripLeft_collapseFrom_true rest
          simpa [collapse, collapseFrom, blank, stripLeft, isBlank_space] using rest.symm
      | false => simp [stripLeft, collapse, collapseFrom, blank]

theorem collapse_strip : collapse (strip cs) = strip (collapse cs) := by
  rw [strip, collapse_dropTail (fun c blank => by rw [blank, isBlank_space]), collapse_stripLeft]
  rfl

theorem collapse_collapse : collapse (collapse cs) = collapse cs :=
  collapseFrom_collapseFrom false false

/-! ### Texts that differ in blanks -/

/-- What is left of a text without its blanks and the separators of members. -/
def letters (cs : List Char) : List Char :=
  cs.filter fun c => !(isBlank c || c = ';' || c = ',')

theorem letters_append : letters (cs ++ ds) = letters cs ++ letters ds :=
  List.filter_append ..

theorem letters_dropTail (dropped : ∀ c, p c = true → letters [c] = []) :
    letters (dropTail p cs) = letters cs := by
  rw [dropTail_eq_rdropWhile]
  induction cs using List.reverseRecOn with
  | nil => rfl
  | append_singleton cs c ih =>
      rw [List.rdropWhile_concat]
      split
      · next gone => rw [ih, letters_append, dropped c gone, List.append_nil]
      · rfl

theorem letters_of_isBlank {c : Char} (blank : isBlank c = true) : letters [c] = [] := by
  simp [letters, blank]

theorem letters_cons (c : Char) (cs : List Char) :
    letters (c :: cs) = letters [c] ++ letters cs :=
  List.filter_append [c] cs

theorem letters_stripLeft : letters (stripLeft cs) = letters cs := by
  induction cs with
  | nil => rfl
  | cons c rest ih =>
      rw [stripLeft, List.dropWhile_cons]
      split
      · next blank =>
          rw [letters_cons, letters_of_isBlank blank, List.nil_append]
          exact ih
      · rfl

theorem letters_strip : letters (strip cs) = letters cs := by
  rw [strip, letters_dropTail fun _ => letters_of_isBlank, letters_stripLeft]

theorem letters_collapse : letters (collapse cs) = letters cs := by
  have from_ (inside : Bool) : letters (collapseFrom inside cs) = letters cs := by
    induction cs generalizing inside with
    | nil => rfl
    | cons c rest ih =>
        rw [letters_cons]
        cases blank : isBlank c with
        | false => simp [collapseFrom, blank, letters_cons c (collapseFrom _ _), ih]
        | true =>
            rw [letters_of_isBlank blank, List.nil_append]
            cases inside with
            | true => simpa [collapseFrom, blank] using ih true
            | false =>
                have space := letters_of_isBlank isBlank_space
                simpa [collapseFrom, blank, letters_cons ' ' (collapseFrom _ _), space]
                  using ih true
  exact from_ false

end Text

/-- A likeness of texts that texts put together have if their parts have it, and that what is
left of a member of an object type has if the members have it. -/
structure IsLikeness (R : String → String → Prop) : Prop where
  refl : ∀ text, R text text
  append : ∀ {a b c d}, R a b → R c d → R (a ++ c) (b ++ d)
  member : ∀ {a b}, R a b → R (Render.dropSeparators (Text.onChars Text.strip a))
    (Render.dropSeparators (Text.onChars Text.strip b))

/-- Two texts are the same but for blanks and separators. -/
def SameLetters (a b : String) : Prop :=
  Text.letters a.toList = Text.letters b.toList

/-- Two texts are the same but for the length of runs of blanks. -/
def SameRuns (a b : String) : Prop :=
  Text.collapse a.toList = Text.collapse b.toList

theorem isLikeness_sameLetters : IsLikeness SameLetters where
  refl _ := rfl
  append first second := by
    simp only [SameLetters, String.toList_append, Text.letters_append] at *
    rw [first, second]
  member same := by
    have separators (c : Char) (dropped : (c = ';' || c = ',') = true) :
        Text.letters [c] = [] := by
      rcases Bool.or_eq_true_iff.1 dropped with found | found <;>
        rw [of_decide_eq_true found] <;> rfl
    simp only [SameLetters, Render.dropSeparators, Text.onChars, String.toList_ofList,
      Text.letters_dropTail separators, Text.letters_strip]
    exact same

theorem isLikeness_sameRuns : IsLikeness SameRuns where
  refl _ := rfl
  append first second := by
    simp only [SameRuns, String.toList_append, Text.collapse_append] at *
    rw [first, second]
  member same := by
    have uniform (c : Char) (blank : Text.isBlank c = true) :
        (decide (c = ';') || decide (c = ',')) = (decide (' ' = ';') || decide (' ' = ',')) := by
      have semicolon : c ≠ ';' := by
        rintro rfl
        exact absurd blank (by decide)
      have comma : c ≠ ',' := by
        rintro rfl
        exact absurd blank (by decide)
      simp [semicolon, comma]
    simp only [SameRuns, Render.dropSeparators, Text.onChars, String.toList_ofList,
      Text.collapse_dropTail uniform, Text.collapse_strip] at same ⊢
    rw [same]

namespace IsLikeness

variable {R : String → String → Prop} (likeness : IsLikeness R) {as bs : List String}

include likeness

theorem joinWith (separator : String) (alike : List.Forall₂ R as bs) :
    R (Text.joinWith separator as) (Text.joinWith separator bs) := by
  induction alike with
  | nil => exact likeness.refl ""
  | @cons a b as bs first rest ih =>
      cases rest with
      | nil => exact first
      | cons second rest =>
          exact likeness.append (likeness.append first (likeness.refl separator)) ih

theorem braced (alike : List.Forall₂ R as bs) : R (Render.braced as) (Render.braced bs) := by
  cases alike with
  | nil => exact likeness.refl _
  | cons first rest =>
      have joined := likeness.joinWith "; " (List.Forall₂.cons first rest)
      exact likeness.append (likeness.append (likeness.refl _) joined) (likeness.refl _)

end IsLikeness

/-! ## What a node is written with -/

/-- The nodes among some that are no comments, each with what is written before it and after
the one before, and what is written after the last. Offsets are those of `text`, which starts at
`start`. -/
def Cursor.piecesFrom (text : String) (start stop : Nat) (gap : String) (position : Nat) :
    List Cursor → List (String × Cursor) × String
  | [] => ([], gap ++ Render.sliceBytes text (position - start) (stop - start))
  | child :: rest =>
      let gap := gap ++ Render.sliceBytes text (position - start) (child.mark.start - start)
      if child.kind = "comment" then piecesFrom text start stop gap child.mark.stop rest
      else
        let (pieces, last) := piecesFrom text start stop "" child.mark.stop rest
        ((gap, child) :: pieces, last)

/-- The children of a node that are no comments, each with what is written before it, and what is
written after the last. -/
def Cursor.pieces (n : Cursor) : List (String × Cursor) × String :=
  piecesFrom n.text n.mark.start n.mark.stop "" n.mark.start n.children

/-- The pieces of a node are its children apart from comments. -/
theorem Cursor.piecesFrom_map_snd (text : String) (start stop : Nat) (gap : String)
    (position : Nat) (nodes : List Cursor) :
    (piecesFrom text start stop gap position nodes).1.map Prod.snd =
      nodes.filter fun c => c.kind != "comment" := by
  induction nodes generalizing gap position with
  | nil => rfl
  | cons child rest ih =>
      rw [piecesFrom]
      split
      · next comment => rw [ih, List.filter_cons_of_neg (by simp [comment])]
      · next other =>
          rw [List.map_cons, ih, List.filter_cons_of_pos (by simpa using other)]

theorem Cursor.sizeOf_lt_of_mem_pieces {n : Cursor} {piece : String × Cursor}
    (among : piece ∈ n.pieces.1) : sizeOf piece.2.focus < sizeOf n.focus := by
  have child : piece.2 ∈ n.pieces.1.map Prod.snd := List.mem_map_of_mem among
  rw [pieces, piecesFrom_map_snd] at child
  exact sizeOf_lt_of_mem_children (List.mem_filter.1 child).1

theorem Cursor.pieces_parts (n : Cursor) :
    (n.pieces.1.map Prod.snd).filter (·.mark.named) = n.parts := by
  rw [pieces, piecesFrom_map_snd, parts, named, List.filter_filter, List.filter_filter]
  simp only [Bool.and_comm]

namespace Render

variable {ask : Ask} {place : Place} {n : Cursor}

theorem node_of_comment (comment : n.kind = "comment") : node ask place n = pure "" := by
  rw [node]
  simp [comment]

theorem node_of_string (string : n.kind = "string") (named : n.mark.named = true) :
    node ask place n = Text.quote <$> Check.ofResult (Literal.stringValue n.focus) := by
  rw [node]
  simp [string, named]

/-- A name is put into words as the type that it is bound to, or as it stands. -/
theorem node_of_name (name : n.kind = "type_identifier") :
    node ask place n =
      match Entries.find? n.text place.env with
      | some bound => ask.text bound
      | none => pure n.text := by
  cases stands : Entries.find? n.text place.env <;>
    rw [node] <;> simp [name, stands]

/-- An array is put into words as a library type. -/
theorem node_of_array (array : n.kind = "array_type") {element : Cursor} {rest : List Cursor}
    (parts : n.parts = element :: rest) :
    node ask place n = (do return "Array<" ++ (← node ask place element.unwrapParens) ++ ">") := by
  rw [node]
  simp only [array, String.reduceBEq, Bool.false_and, Bool.false_eq_true, if_false, if_true]
  split
  · next empty => cases parts.symm.trans empty
  · next found =>
      cases parts.symm.trans found
      rfl

/-- An object type is put into words as its members between braces. -/
theorem node_of_object (object : n.kind = "object_type") :
    node ask place n = (do
      return braced (← n.parts.mapM fun member => do
        return dropSeparators (Text.onChars Text.strip (← node ask place member)))) := by
  rw [node]
  simp only [object, String.reduceBEq, Bool.false_and, Bool.false_eq_true, if_false, if_true,
    List.mapM_subtype, List.unattach_attach]

/-- A node whose text is that of its children, with what is written between them. -/
def Composes (n : Cursor) : Prop :=
  ["comment", "type_identifier", "array_type", "object_type"].contains n.kind = false ∧
    (n.kind = "string" → n.mark.named = false)

/-- What was written, and one more piece. -/
def withPiece (ask : Ask) (place : Place) (written : String) (piece : String × Cursor) :
    CheckM String := do
  return written ++ piece.1 ++ (← node ask place piece.2)

/-- Comments leave nothing but what is written around them. -/
theorem foldlM_pieces (text : String) (start stop : Nat) (written gap : String) (position : Nat)
    (nodes : List Cursor) :
    (do
      let (written, position) ← nodes.foldlM
        (fun (written, position) (child : Cursor) => do
          let gap := sliceBytes text (position - start) (child.mark.start - start)
          return (written ++ gap ++ (← node ask place child), child.mark.stop))
        (written ++ gap, position)
      return written ++ sliceBytes text (position - start) (stop - start)) = (do
      let pieces := Cursor.piecesFrom text start stop gap position nodes
      return (← pieces.1.foldlM (withPiece ask place) written) ++ pieces.2) := by
  induction nodes generalizing written gap position with
  | nil => simp [Cursor.piecesFrom, String.append_assoc]
  | cons child rest ih =>
      simp only [List.foldlM_cons, bind_assoc, pure_bind]
      rw [Cursor.piecesFrom]
      split
      · next comment =>
          rw [node_of_comment comment, pure_bind, String.append_empty, String.append_assoc]
          exact ih written _ _
      · simp only [List.foldlM_cons, withPiece, bind_assoc, pure_bind]
        congr 1
        funext inner
        have later := ih (written ++ (gap ++ sliceBytes text (position - start)
          (child.mark.start - start)) ++ inner) "" child.mark.stop
        simpa only [String.append_empty, String.append_assoc] using later

/-- Any other node is put into words as its pieces, with what is written between them. -/
theorem node_of_composes (plain : Composes n) :
    node ask place n =
      if n.focus.children.isEmpty then pure n.text
      else do return (← n.pieces.1.foldlM (withPiece ask place) "") ++ n.pieces.2 := by
  obtain ⟨kinds, unnamed⟩ := plain
  simp only [List.contains_cons, List.contains_nil, Bool.or_false, Bool.or_eq_false_iff] at kinds
  have string : (n.kind == "string" && n.mark.named) = false := by
    by_cases string : n.kind = "string"
    · simp [unnamed string]
    · simp [string]
  rw [node]
  simp only [kinds, string, Bool.false_eq_true, if_false, List.foldlM_subtype,
    List.unattach_attach]
  congr 1
  exact foldlM_pieces n.text n.mark.start n.mark.stop "" "" n.mark.start n.children

end Render

/-! ## Spellings of one type -/

/-- Two nodes are spellings of the same type: they have the same words, in the same order and in
the same structure. What is written between the words is related by `gaps`, comments apart.
Strings have the same value, in whatever quotes, and what is written between the members of an
object type does not matter. -/
inductive Cursor.Respelled (gaps : String → String → Prop) : Cursor → Cursor → Prop where
  | string {n n' : Cursor} {value : String} (kind : n.kind = "string") (kind' : n'.kind = "string")
      (named : n.mark.named = true) (named' : n'.mark.named = true)
      (reads : Literal.stringValue n.focus = .ok value)
      (reads' : Literal.stringValue n'.focus = .ok value) : Respelled gaps n n'
  | word {n n' : Cursor} (kind : n'.kind = n.kind) (named : n'.mark.named = n.mark.named)
      (text : n'.text = n.text) (bare : n.focus.children = []) (bare' : n'.focus.children = [])
      (plain : n.kind = "type_identifier" ∨ Render.Composes n) : Respelled gaps n n'
  | object {n n' : Cursor} (kind : n.kind = "object_type") (kind' : n'.kind = "object_type")
      (named : n'.mark.named = n.mark.named) (count : n.parts.length = n'.parts.length)
      (members : ∀ {m m' : Cursor}, (m, m') ∈ n.parts.zip n'.parts → Respelled gaps m m') :
      Respelled gaps n n'
  | node {n n' : Cursor} (kind : n'.kind = n.kind) (named : n'.mark.named = n.mark.named)
      (inhabited : n.focus.children ≠ []) (inhabited' : n'.focus.children ≠ [])
      (plain : n.kind = "array_type" ∧ n.parts ≠ [] ∨ Render.Composes n)
      (count : n.pieces.1.length = n'.pieces.1.length)
      (between : ∀ {piece piece' : String × Cursor},
        (piece, piece') ∈ n.pieces.1.zip n'.pieces.1 → gaps piece.1 piece'.1)
      (last : gaps n.pieces.2 n'.pieces.2)
      (inside : ∀ {piece piece' : String × Cursor},
        (piece, piece') ∈ n.pieces.1.zip n'.pieces.1 → Respelled gaps piece.2 piece'.2) :
      Respelled gaps n n'

namespace Cursor.Respelled

variable {gaps : String → String → Prop} {n n' : Cursor}

/-- What is written between the words is alike piece by piece. -/
theorem ofPieces (kind : n'.kind = n.kind) (named : n'.mark.named = n.mark.named)
    (inhabited : n.focus.children ≠ []) (inhabited' : n'.focus.children ≠ [])
    (plain : Render.Composes n)
    (pieces : List.Forall₂ (fun p p' => gaps p.1 p'.1 ∧ Respelled gaps p.2 p'.2) n.pieces.1
      n'.pieces.1) (last : gaps n.pieces.2 n'.pieces.2) : Respelled gaps n n' := by
  obtain ⟨count, each⟩ := List.forall₂_iff_zip.1 pieces
  exact .node kind named inhabited inhabited' (.inr plain) count (fun among => (each among).1) last
    fun among => (each among).2

theorem kind (respelled : Respelled gaps n n') : n'.kind = n.kind := by
  cases respelled with
  | string kind kind' => rw [kind, kind']
  | word kind => exact kind
  | object kind kind' => rw [kind, kind']
  | node kind => exact kind

theorem named (respelled : Respelled gaps n n') : n'.mark.named = n.mark.named := by
  cases respelled with
  | string _ _ named named' => rw [named, named']
  | word _ named => exact named
  | object _ _ named => exact named
  | node _ named => exact named

/-- The parts of spellings of one type are spellings of its parts, if they are not strings. -/
theorem parts (respelled : Respelled gaps n n') (other : n.kind ≠ "string") :
    List.Forall₂ (Respelled gaps) n.parts n'.parts := by
  cases respelled with
  | string kind => exact absurd kind other
  | word _ _ _ bare bare' =>
      have empty {c : Cursor} (bare : c.focus.children = []) : c.parts = [] := by
        simp [Cursor.parts, Cursor.named, Cursor.children, bare, Cursor.childrenFrom]
      rw [empty bare, empty bare']
      exact .nil
  | object _ _ _ count members => exact List.forall₂_iff_zip.2 ⟨count, members⟩
  | node _ _ _ _ _ count _ _ inside =>
      have pieces : List.Forall₂ (fun p p' => Respelled gaps p.2 p'.2) n.pieces.1 n'.pieces.1 :=
        List.forall₂_iff_zip.2 ⟨count, inside⟩
      rw [← Cursor.pieces_parts, ← Cursor.pieces_parts]
      refine forall₂_filter ?_ fun respelled => respelled.named.symm
      exact List.forall₂_map_left_iff.2 (List.forall₂_map_right_iff.2 pieces)

theorem unwrapParens (respelled : Respelled gaps n n') :
    Respelled gaps n.unwrapParens n'.unwrapParens :=
  Cursor.rel_unwrapParens (fun related => related.kind)
    (fun related wrapped => related.parts (by rw [wrapped]; decide)) respelled

end Cursor.Respelled

/-! ## What spellings are put into -/

/-- Names stand for types with these texts, and other names for nothing. -/
def StandFor (labels : String → Option String) (inv : State → Prop) (env : Env) : Prop :=
  ∀ name, match labels name with
    | some label => ∃ bound, Entries.find? name env = some bound ∧
        Comes inv (fun ask => ask.text bound) label
    | none => Entries.find? name env = none

/-- A name is put into words as what stands for it, or as itself. -/
theorem StandFor.comes {labels : String → Option String} {inv : State → Prop} {place : Place}
    (names : StandFor labels inv place.env) {n : Cursor} (isName : n.kind = "type_identifier") :
    Comes inv (fun ask => Render.node ask place n) ((labels n.text).getD n.text) := by
  simp only [Render.node_of_name isName]
  have named := names n.text
  cases label : labels n.text with
  | some label =>
      rw [label] at named
      obtain ⟨bound, found, text⟩ := named
      rw [found]
      exact text
  | none =>
      rw [label] at named
      rw [named]
      exact .pure _

section Spelled

variable {R gaps : String → String → Prop} (likeness : IsLikeness R)
  {inv inv' : State → Prop}

include likeness

/-- Two rules come to texts that are alike. -/
def ComeAlike (R : String → String → Prop) (inv inv' : State → Prop)
    (rule rule' : Ask → CheckM String) : Prop :=
  ∃ w w', Comes inv rule w ∧ Comes inv' rule' w' ∧ R w w'

omit likeness in
/-- Rules that come alike do so under any change of words that keeps the relation. -/
theorem ComeAlike.map {rule rule' : Ask → CheckM String} (alike : ComeAlike R inv inv' rule rule')
    {f g : String → String} (keeps : ∀ {a b}, R a b → R (f a) (g b)) :
    ComeAlike R inv inv' (fun ask => do return f (← rule ask)) fun ask => do
      return g (← rule' ask) := by
  obtain ⟨w, w', first, second, related⟩ := alike
  exact ⟨f w, g w', first.bind (.pure _), second.bind (.pure _), keeps related⟩

omit likeness in
/-- Lists of rules that come to related texts one by one come to lists of related texts. -/
theorem ComeAlike.mapM {α : Type} {as bs : List α} {f g : Ask → α → CheckM String}
    (each : List.Forall₂ (fun a b => ComeAlike R inv inv' (fun ask => f ask a) fun ask => g ask b)
      as bs) :
    ∃ ws ws', Comes inv (fun ask => as.mapM (f ask)) ws ∧
      Comes inv' (fun ask => bs.mapM (g ask)) ws' ∧ List.Forall₂ R ws ws' := by
  induction each with
  | nil =>
      simp only [List.mapM_nil]
      exact ⟨[], [], .pure _, .pure _, .nil⟩
  | cons first _ ih =>
      obtain ⟨w, w', here, here', related⟩ := first
      obtain ⟨ws, ws', there, there', others⟩ := ih
      simp only [List.mapM_cons]
      refine ⟨w :: ws, w' :: ws', here.bind ?_, here'.bind ?_, .cons related others⟩
      · exact there.bind (.pure _)
      · exact there'.bind (.pure _)

/-- Pieces that are alike make texts that are alike. -/
theorem comeAlike_pieces {place place' : Place} {pieces pieces' : List (String × Cursor)}
    (each : List.Forall₂ (fun p p' => R p.1 p'.1 ∧ ComeAlike R inv inv'
      (fun ask => Render.node ask place p.2) fun ask => Render.node ask place' p'.2)
      pieces pieces') {written written' : String} (start : R written written') :
    ComeAlike R inv inv' (fun ask => pieces.foldlM (Render.withPiece ask place) written)
      fun ask => pieces'.foldlM (Render.withPiece ask place') written' := by
  induction each generalizing written written' with
  | nil => exact ⟨_, _, .pure _, .pure _, start⟩
  | cons first _ ih =>
      obtain ⟨gap, w, w', here, here', related⟩ := first
      obtain ⟨rest, rest', there, there', last⟩ :=
        ih (likeness.append (likeness.append start gap) related)
      simp only [List.foldlM_cons, Render.withPiece]
      refine ⟨rest, rest', Comes.bind ?_ there, Comes.bind ?_ there', last⟩
      · exact here.bind (.pure _)
      · exact here'.bind (.pure _)

/-- Two spellings of one type are put into texts that are alike, if what stands between the words
is alike. -/
theorem Cursor.Respelled.comeAlike (between : ∀ {g g'}, gaps g g' → R g g')
    {labels : String → Option String} {place place' : Place}
    (names : StandFor labels inv place.env) (names' : StandFor labels inv' place'.env)
    (n n' : Cursor) (respelled : n.Respelled gaps n') :
    ComeAlike R inv inv' (fun ask => Render.node ask place n)
      fun ask => Render.node ask place' n' := by
  have parts := respelled.parts
  cases respelled with
  | string kind kind' named named' reads reads' =>
      simp only [Render.node_of_string kind named, Render.node_of_string kind' named', reads,
        reads', Check.ofResult, map_pure]
      exact ⟨_, _, .pure _, .pure _, likeness.refl _⟩
  | word kind named text bare bare' plain =>
      rcases plain with isName | plain
      · refine ⟨_, _, names.comes isName, names'.comes (kind.trans isName), ?_⟩
        rw [text]
        exact likeness.refl _
      · have plain' : Render.Composes n' := by rwa [Render.Composes, kind, named]
        simp only [Render.node_of_composes plain, Render.node_of_composes plain', bare, bare',
          List.isEmpty_nil, if_true, text]
        exact ⟨_, _, .pure _, .pure _, likeness.refl _⟩
  | object kind kind' named count members =>
      have each : List.Forall₂ (fun m m' => ComeAlike R inv inv'
          (fun ask => do
            return Render.dropSeparators (Text.onChars Text.strip (← Render.node ask place m)))
          fun ask => do
            return Render.dropSeparators (Text.onChars Text.strip (← Render.node ask place' m')))
          n.parts n'.parts := by
        refine List.forall₂_iff_zip.2 ⟨count, fun {m m'} among => ?_⟩
        have smaller := Cursor.sizeOf_lt_of_mem_parts (List.of_mem_zip among).1
        exact (comeAlike between names names' m m' (members among)).map likeness.member
      obtain ⟨ws, ws', here, here', alike⟩ := ComeAlike.mapM each
      simp only [Render.node_of_object kind, Render.node_of_object kind']
      exact ⟨_, _, here.bind (.pure _), here'.bind (.pure _), likeness.braced alike⟩
  | node kind named inhabited inhabited' plain count gap last inside =>
      rcases plain with ⟨array, some⟩ | plain
      · specialize parts (by rw [array]; decide)
        obtain ⟨element, rest, listed⟩ := List.exists_cons_of_ne_nil some
        rw [listed] at parts
        obtain ⟨element', rest', first, -, listed'⟩ := List.forall₂_cons_left_iff.1 parts
        simp only [Render.node_of_array array listed,
          Render.node_of_array (kind.trans array) listed']
        have smaller := Cursor.sizeOf_lt_of_mem_parts (listed ▸ List.mem_cons_self)
        have bound := Cursor.sizeOf_unwrapParens_le element
        have inner := comeAlike between names names' _ _ first.unwrapParens
        exact inner.map fun related =>
          likeness.append (likeness.append (likeness.refl _) related) (likeness.refl _)
      · have plain' : Render.Composes n' := by rwa [Render.Composes, kind, named]
        have each : List.Forall₂ (fun p p' => R p.1 p'.1 ∧ ComeAlike R inv inv'
            (fun ask => Render.node ask place p.2) fun ask => Render.node ask place' p'.2)
            n.pieces.1 n'.pieces.1 := by
          refine List.forall₂_iff_zip.2 ⟨count, fun {p p'} among => ⟨between (gap among), ?_⟩⟩
          have smaller := Cursor.sizeOf_lt_of_mem_pieces (List.of_mem_zip among).1
          exact comeAlike between names names' _ _ (inside among)
        simp only [Render.node_of_composes plain, Render.node_of_composes plain',
          List.isEmpty_eq_false_iff.2 inhabited, List.isEmpty_eq_false_iff.2 inhabited',
          Bool.false_eq_true, if_false]
        exact (comeAlike_pieces likeness each (likeness.refl "")).map fun related =>
          likeness.append related (between last)
termination_by sizeOf n.focus

end Spelled

/-! ## Texts of types -/

/-- What is written between words is blank in both spellings. -/
def BlankGaps (g g' : String) : Prop :=
  (∀ c ∈ g.toList, Text.isBlank c = true) ∧ ∀ c ∈ g'.toList, Text.isBlank c = true

/-- Between words there are blanks in both spellings or in neither. -/
def SameGaps (g g' : String) : Prop :=
  BlankGaps g g' ∧ (g = "" ↔ g' = "")

theorem BlankGaps.sameLetters {g g' : String} (blank : BlankGaps g g') : SameLetters g g' := by
  have empty {cs : List Char} (blank : ∀ c ∈ cs, Text.isBlank c = true) :
      Text.letters cs = [] :=
    List.filter_eq_nil_iff.2 fun c among => by simp [blank c among]
  rw [SameLetters, empty blank.1, empty blank.2]

theorem SameGaps.sameRuns {g g' : String} (same : SameGaps g g') : SameRuns g g' := by
  have inside {cs : List Char} (blank : ∀ c ∈ cs, Text.isBlank c = true) :
      Text.collapseFrom true cs = [] := by
    induction cs with
    | nil => rfl
    | cons c rest ih =>
        obtain ⟨first, others⟩ := List.forall_mem_cons.1 blank
        simpa [Text.collapseFrom, first] using ih others
  have one {cs : List Char} (blank : ∀ c ∈ cs, Text.isBlank c = true) :
      Text.collapse cs = if cs = [] then [] else [' '] := by
    cases cs with
    | nil => rfl
    | cons c rest =>
        obtain ⟨first, others⟩ := List.forall_mem_cons.1 blank
        simp [Text.collapse, Text.collapseFrom, first, inside others]
  obtain ⟨⟨blank, blank'⟩, both⟩ := same
  rw [SameRuns, one blank, one blank']
  simp only [String.toList_eq_nil_iff, both]

/-- Gaps may be related more loosely. -/
theorem Cursor.Respelled.mono {gaps gaps' : String → String → Prop}
    (weaker : ∀ {g g'}, gaps g g' → gaps' g g') {n n' : Cursor} (respelled : n.Respelled gaps n') :
    n.Respelled gaps' n' := by
  induction respelled with
  | string kind kind' named named' reads reads' =>
      exact .string kind kind' named named' reads reads'
  | word kind named text bare bare' plain => exact .word kind named text bare bare' plain
  | object kind kind' named count _ ih => exact .object kind kind' named count ih
  | node kind named inhabited inhabited' plain count between last _ ih =>
      exact .node kind named inhabited inhabited' plain count
        (fun among => weaker (between among)) (weaker last) ih

/-- A type that is written at a node has not been put into words. Where the node is read, names
stand for types with these texts. -/
def State.IsSpelled (s : State) (t : TypeId) (n : Cursor) (labels : String → Option String) :
    Prop :=
  ∃ r place, s.records[t]? = some r ∧ r.shape = .written ∧ r.node = some n ∧
    r.place = some place ∧ r.label = none ∧ r.cache.text = none ∧ .text ∉ r.loading ∧
    ∀ name, match labels name with
      | some label => ∃ bound r, Entries.find? name (s.frames.getD place.frame []) = some bound ∧
          s.records[bound]? = some r ∧ r.label = some label
      | none => Entries.find? name (s.frames.getD place.frame []) = none

namespace Render

/-- What becomes of the words of a type in the end: every run of blanks is one space, and there
are none at the ends. -/
def tidy (text : String) : String :=
  Text.onChars (fun cs => Text.strip (Text.collapse cs)) text

/-- A rendered node is its words with the blanks made tidy. -/
theorem comes_render {inv : State → Prop} {n : Cursor} {place : Place} {w : String}
    (node : Comes inv (fun ask => node ask place n) w) :
    Comes inv (fun ask => render ask n place) (tidy w) :=
  node.bind (.pure _)

theorem tidy_of_sameRuns {w w' : String} (same : SameRuns w w') : tidy w = tidy w' := by
  rw [tidy, tidy, Text.onChars, Text.onChars, same]

theorem sameLetters_tidy (w : String) : SameLetters (tidy w) w := by
  simp only [SameLetters, tidy, Text.onChars, String.toList_ofList, Text.letters_strip,
    Text.letters_collapse]

theorem collapse_tidy (w : String) : Text.collapse (tidy w).toList = (tidy w).toList := by
  simp only [tidy, Text.onChars, String.toList_ofList, Text.collapse_strip, Text.collapse_collapse]

end Render

/-- A type that is written at a node is put into words as the node is, tidied. -/
theorem State.IsSpelled.ensures_text {s : State} {t : TypeId} {n : Cursor}
    {labels : String → Option String} (spelled : s.IsSpelled t n labels) :
    ∃ place, StandFor labels (· = s.mark t .text) place.env ∧
      ∀ w, Comes (· = s.mark t .text) (fun ask => Render.node ask place n) w →
        Ensures (· = s) (fun ask => ask.text t) fun text _ => text = Render.tidy w := by
  obtain ⟨r, place, known, shape, at_, in_, unlabelled, unknown, idle, stands⟩ := spelled
  refine ⟨s.current place, fun name => ?_, fun w comes => ?_⟩
  · have stands := stands name
    cases named : labels name with
    | none => rwa [named] at stands
    | some label =>
        rw [named] at stands
        obtain ⟨bound, r', found, known', labelled⟩ := stands
        refine ⟨bound, found, Ensures.asked (Ensures.ofRun ?_)⟩
        rintro _ rfl
        have marked : ∃ r, (s.mark t .text).records[bound]? = some r ∧ r.label = some label := by
          rw [State.mark, State.Extends.records_update, known']
          split
          · exact ⟨_, rfl, labelled⟩
          · exact ⟨_, rfl, labelled⟩
        obtain ⟨r'', known'', labelled''⟩ := marked
        exact ⟨label, _, fun _ => Answer.run_text_of_some known'' labelled'', rfl, rfl⟩
  · have loader (ask : Ask) : Answer.loader? ask t r .text =
        some (Check.upToDate place >>= Render.render ask n) := by
      simp [Answer.loader?, shape, Answer.written?, Answer.syntaxOf, at_, in_, Check.need]
    have read : Comes (· = s.mark t .text) (fun _ => Check.upToDate place) (s.current place) := by
      refine Ensures.ofRun ?_
      rintro _ rfl
      exact ⟨_, _, fun _ => rfl, rfl, rfl⟩
    refine Ensures.text known unlabelled unknown idle loader ?_
    exact (read.bind (Render.comes_render comes)).consequence (fun _ => id) fun _ _ came => came.1

/-! ## String literals -/

/-- A node that is read as the literal of a string with this value. -/
structure Cursor.IsStringLiteral (n : Cursor) (value : String) : Prop where
  form : Form.ofNode n = .literal
  string : ∃ child rest, n.parts = child :: rest ∧ child.kind = "string" ∧
    Literal.stringValue child.focus = .ok value

/-- A string literal that is a type by itself is put into words as its value between double
quotes. -/
theorem Cursor.IsStringLiteral.ensures_text {n : Cursor} {value : String}
    (isLiteral : n.IsStringLiteral value) (place : Place) :
    Ensures (fun s => ∀ t, s.interned[Key.literal .string (.text value)]? = some t →
        ∃ r, s.records[t]? = some r ∧ r.label = some (Text.quote value))
      (fun ask => do ask.text (← ask.typeAt n place)) fun text _ => text = Text.quote value := by
  have labelled {s : State} {t : TypeId}
      (here : ∃ r, s.records[t]? = some r ∧ r.label = some (Text.quote value)) (limit : Nat) :
      (Answer.text (answer limit) t).run.run s = (.ok (Text.quote value), s) := by
    obtain ⟨r, known, labelled⟩ := here
    exact Answer.run_text_of_some known labelled
  obtain ⟨form, child, rest, parts, string, reads⟩ := isLiteral
  have literal : TypeSyntax.literal n = Check.literal (.text value) .string := by
    simp [TypeSyntax.literal, parts, string, reads, Check.ofResult]
  have made : Ensures (fun s => ∀ t, s.interned[Key.literal .string (.text value)]? = some t →
        ∃ r, s.records[t]? = some r ∧ r.label = some (Text.quote value))
      (fun ask => ask.typeAt n place) fun t left =>
        ∃ r, left.records[t]? = some r ∧ r.label = some (Text.quote value) := by
    refine Ensures.asked ?_
    simp only [Answer.step, Form.read_ofNode, form, Form.read, literal, Check.literal,
      Check.literalText, Check.ofResult, pure_bind]
    refine Ensures.ofRun fun s kept => ?_
    cases known : s.interned[Key.literal .string (.text value)]? with
    | some t => exact ⟨t, s, fun _ => Check.run_intern_of_some known _, kept t known⟩
    | none =>
        exact ⟨_, _, fun _ => Check.run_intern_of_none known _, _, Array.getElem?_push_size, rfl⟩
  refine made.bind fun t => Ensures.asked (Ensures.ofRun fun s here => ?_)
  exact ⟨_, s, labelled here, rfl⟩

/-- Between the quotes, everything but quotes, backslashes and control characters stands for
itself. -/
theorem Text.quote_of_plain {value : String}
    (plain : ∀ c ∈ value.toList, c ≠ '"' ∧ c ≠ '\\' ∧ 0x20 ≤ c.toNat) :
    Text.quote value = "\"" ++ value ++ "\"" := by
  have itself (c : Char) (among : c ∈ value.toList) : Text.quoteChar c = [c] := by
    obtain ⟨quote, backslash, printed⟩ := plain c among
    have other {d : Char} (control : d.toNat < 0x20) : c ≠ d := by
      rintro rfl
      omega
    have visible : ¬c.toNat < 0x20 := by omega
    simp [Text.quoteChar, quote, backslash, visible, other (d := '\n') (by decide),
      other (d := '\r') (by decide), other (d := '\t') (by decide), other (d := '\x08') (by decide),
      other (d := '\x0c') (by decide)]
  have same : value.toList.flatMap Text.quoteChar = value.toList := by
    rw [List.flatMap_congr itself]
    simp
  apply String.ext
  simp [Text.quote, Text.onChars, Text.quoteChars, same]

/-! ## One type in two layouts -/

/-- Let a type be written in two ways that differ in white space and comments between words, in
the quotes of strings and in the separators of members. Then both ways are put into words. The
two texts differ in nothing but blanks and separators; and they are the same if there are blanks
between words in both ways or in neither. No run of blanks is left in them, not even in a
string; but a string literal that is a type by itself is kept as it is. -/
theorem text_respelled {s s' : State} {t t' : TypeId} {n n' : Cursor}
    {labels : String → Option String} (spelled : s.IsSpelled t n labels)
    (spelled' : s'.IsSpelled t' n' labels) (respelled : n.Respelled BlankGaps n') :
    (∃ w w', Ensures (· = s) (fun ask => ask.text t) (fun text _ => text = w) ∧
      Ensures (· = s') (fun ask => ask.text t') (fun text _ => text = w') ∧ SameLetters w w' ∧
      (n.Respelled SameGaps n' → w = w') ∧ Text.collapse w.toList = w.toList) ∧
    ∀ {literal : Cursor} {value : String}, literal.IsStringLiteral value → ∀ place,
      Ensures (fun s => ∀ t, s.interned[Key.literal .string (.text value)]? = some t →
          ∃ r, s.records[t]? = some r ∧ r.label = some (Text.quote value))
        (fun ask => do ask.text (← ask.typeAt literal place))
        (fun text _ => text = Text.quote value) ∧
      ((∀ c ∈ value.toList, c ≠ '"' ∧ c ≠ '\\' ∧ 0x20 ≤ c.toNat) →
        Text.quote value = "\"" ++ value ++ "\"") := by
  obtain ⟨place, names, text⟩ := spelled.ensures_text
  obtain ⟨place', names', text'⟩ := spelled'.ensures_text
  refine ⟨?_, fun isLiteral place => ⟨isLiteral.ensures_text place, Text.quote_of_plain⟩⟩
  obtain ⟨w, w', comes, comes', letters⟩ :=
    Cursor.Respelled.comeAlike isLikeness_sameLetters BlankGaps.sameLetters names names' n n'
      respelled
  refine ⟨Render.tidy w, Render.tidy w', text w comes, text' w' comes', ?_, fun same => ?_,
    Render.collapse_tidy w⟩
  · exact (Render.sameLetters_tidy w).trans (letters.trans (Render.sameLetters_tidy w').symm)
  · obtain ⟨v, v', again, again', runs⟩ :=
      Cursor.Respelled.comeAlike isLikeness_sameRuns SameGaps.sameRuns names names' n n' same
    rw [comes.unique again rfl, comes'.unique again' rfl]
    exact Render.tidy_of_sameRuns runs

/-! ### Two texts in two layouts -/

namespace TwoLayouts

def mark (kind text : String) (start stop : Nat) (named : Bool) : Mark :=
  { (default : Mark) with kind, text, start, stop, named }

/-- A string of one character in quotes of some kind. -/
def string (quote value : String) (start : Nat) : Tree :=
  .node (mark "string" (quote ++ value ++ quote) start (start + 3) true)
    [.node (mark quote quote start (start + 1) false) [],
      .node (mark "string_fragment" value (start + 1) (start + 2) true) [],
      .node (mark quote quote (start + 2) (start + 3) false) []]

def literal (quote value : String) (start : Nat) : Tree :=
  .node (mark "literal_type" (quote ++ value ++ quote) start (start + 3) true)
    [string quote value start]

def bar (start : Nat) : Tree :=
  .node (mark "|" "|" start (start + 1) false) []

/-- A union of two texts. -/
def plain : Tree :=
  .node (mark "union_type" "'a' | 'b'" 0 9 true) [literal "'" "a" 0, bar 4, literal "'" "b" 6]

/-- The same in other quotes, with more blanks and a comment. -/
def loose : Tree :=
  .node (mark "union_type" "\"a\"  | /**/ \"b\"" 0 15 true)
    [literal "\"" "a" 0, bar 5, .node (mark "comment" "/**/" 7 11 true) [], literal "\"" "b" 12]

/-- A child of the root of a tree. -/
def child (tree : Tree) (index : Nat) : Cursor :=
  ⟨tree.children.getD index tree, [⟨tree, index⟩]⟩

/-- A literal type is respelled with the literal inside it. -/
theorem respelled_literal {gaps : String → String → Prop} (none : gaps "" "") {c c' : Cursor}
    {inner inner' : Cursor} (kinds : c.kind = "literal_type" ∧ c'.kind = c.kind)
    (named : c'.mark.named = c.mark.named)
    (pieces : c.pieces = ([("", inner)], "")) (pieces' : c'.pieces = ([("", inner')], ""))
    (inside : inner.Respelled gaps inner')
    (inhabited : c.focus.children ≠ []) (inhabited' : c'.focus.children ≠ []) :
    c.Respelled gaps c' := by
  have composes : Render.Composes c := ⟨by rw [kinds.1]; rfl, by simp [kinds.1]⟩
  refine .ofPieces kinds.2 named inhabited inhabited' composes ?_ ?_
  · rw [pieces, pieces']
    exact .cons ⟨none, inside⟩ .nil
  · rwa [pieces, pieces']

theorem plain_loose : (Cursor.ofTree plain).Respelled SameGaps (.ofTree loose) := by
  have pieces : (Cursor.ofTree plain).pieces =
      ([("", child plain 0), (" ", child plain 1), (" ", child plain 2)], "") := rfl
  have pieces' : (Cursor.ofTree loose).pieces =
      ([("", child loose 0), ("  ", child loose 1), ("  ", child loose 3)], "") := rfl
  have none : SameGaps "" "" := by simp [SameGaps, BlankGaps]
  have some : SameGaps " " "  " := by simp [SameGaps, BlankGaps, Text.isBlank_space]
  have a : (child plain 0).Respelled SameGaps (child loose 0) :=
    respelled_literal none ⟨rfl, rfl⟩ rfl rfl rfl (.string rfl rfl rfl rfl rfl rfl) (by decide)
      (by decide)
  have or : (child plain 1).Respelled SameGaps (child loose 1) :=
    .word rfl rfl rfl rfl rfl (.inr ⟨rfl, by decide⟩)
  have b : (child plain 2).Respelled SameGaps (child loose 3) :=
    respelled_literal none ⟨rfl, rfl⟩ rfl rfl rfl (.string rfl rfl rfl rfl rfl rfl) (by decide)
      (by decide)
  refine .ofPieces rfl rfl (by decide) (by decide) ⟨rfl, by decide⟩ ?_ none
  rw [pieces, pieces']
  exact .cons ⟨none, a⟩ (.cons ⟨some, or⟩ (.cons ⟨some, b⟩ .nil))

def written (tree : Tree) : TypeRecord :=
  { category := .union, shape := .written, node := some (.ofTree tree), place := some default }

def state : State :=
  { records := #[written plain, written loose] }

theorem isSpelled {t : TypeId} {tree : Tree} (known : state.records[t]? = some (written tree)) :
    state.IsSpelled t (.ofTree tree) fun _ => none :=
  ⟨_, default, known, rfl, rfl, rfl, rfl, rfl, List.not_mem_nil, fun _ => rfl⟩

/-- A string with a run of blanks. -/
def spaced : Cursor :=
  .ofTree (.node (mark "literal_type" "'x  y'" 0 6 true)
    [.node (mark "string" "'x  y'" 0 6 true)
      [.node (mark "string_fragment" "x  y" 1 5 true) []]])

end TwoLayouts

open TwoLayouts in
/-- Both unions are put into the same words, and the string keeps its blanks. -/
theorem text_respelled_twoLayouts :
    (∃ w, Ensures (· = state) (fun ask => ask.text 0) (fun text _ => text = w) ∧
      Ensures (· = state) (fun ask => ask.text 1) (fun text _ => text = w)) ∧
    Ensures (· = state) (fun ask => do ask.text (← ask.typeAt spaced default))
      fun text _ => text = "\"x  y\"" := by
  have first : state.IsSpelled 0 (.ofTree plain) fun _ => none := isSpelled rfl
  have second : state.IsSpelled 1 (.ofTree loose) fun _ => none := isSpelled rfl
  obtain ⟨⟨w, w', text, text', -, same, -⟩, literals⟩ :=
    text_respelled first second (plain_loose.mono And.left)
  have isLiteral : spaced.IsStringLiteral "x  y" := ⟨rfl, _, _, rfl, rfl, rfl⟩
  obtain ⟨kept, quoted⟩ := literals isLiteral default
  refine ⟨⟨w, text, same plain_loose ▸ text'⟩, kept.consequence ?_ fun text _ came => ?_⟩
  · rintro _ rfl t made
    simp [state] at made
  · rw [came, quoted (by simp)]
    rfl

end TypeGloss
