/-
# TypeGloss.Proofs.Checker.Quoting — the text of a string literal type is read as its value

The text of a string literal type is a string literal. A parser takes such a literal apart into
pieces (`pieces?`): fragments, which are as long as they can be and hold no quote, no backslash
and no end of a line, and escape sequences, which are a backslash with four hexadecimal digits
behind a `u`, or else with one character. Its tree has a node for each piece (`IsStringOf`).

Every character is written as itself or as an escape that denotes it (`written_quoteChar`), and
no escape runs into the character that follows. So reading the pieces one after the other gives
the characters back, however long the text is (`exists_pieces`), and the texts of different
types differ (`literalText_reads_back`).
-/
import TypeGloss.Checker.Store
import TypeGloss.Proofs.Evaluation.Values

namespace TypeGloss

set_option autoImplicit false

namespace Literal

/-! ## Pieces of a string literal -/

/-- A piece of what stands between the quotes of a string literal. -/
inductive Piece where
  | fragment (cs : List Char)
  | escape (cs : List Char)

namespace Piece

/-- The kind of the node of a piece. -/
def kind : Piece → String
  | fragment _ => "string_fragment"
  | escape _ => "escape_sequence"

/-- The characters of a piece. -/
def chars : Piece → List Char
  | fragment cs => cs
  | escape cs => cs

/-- Pieces with one more character in front. A fragment goes on as long as it can. -/
def extend (c : Char) : List Piece → List Piece
  | fragment cs :: rest => fragment (c :: cs) :: rest
  | pieces => fragment [c] :: pieces

/-- The piece stands for these characters. -/
inductive Means : Piece → List Char → Prop where
  | fragment {cs : List Char} (noReturn : '\r' ∉ cs) : Means (fragment cs) cs
  | escape {cs : List Char} {c : Char} (denotes : Denotes cs c) : Means (escape cs) [c]

/-- The node of a piece. -/
def IsNode (p : Piece) (t : Tree) : Prop :=
  t.kind = p.kind ∧ t.text.toList = p.chars

end Piece

/-- Hexadecimal digits. -/
def isHexDigit (c : Char) : Bool :=
  "0123456789abcdefABCDEF".toList.contains c

/-- Characters that no fragment of a literal between double quotes holds. -/
def breaks : List Char := ['"', '\\', '\n', '\r']

/-- The pieces of a string literal whose opening quote is read, if its closing quote is the end
of the text. -/
def piecesBehind? : List Char → Option (List Piece)
  | [] => none
  | ['"'] => some []
  | '\\' :: 'u' :: a :: b :: c :: d :: rest =>
      if [a, b, c, d].all isHexDigit then
        (piecesBehind? rest).map (.escape ['\\', 'u', a, b, c, d] :: ·)
      else (piecesBehind? (a :: b :: c :: d :: rest)).map (.escape ['\\', 'u'] :: ·)
  | '\\' :: c :: rest => (piecesBehind? rest).map (.escape ['\\', c] :: ·)
  | c :: rest => if breaks.contains c then none else (piecesBehind? rest).map (Piece.extend c)

/-- The pieces of a string literal between double quotes. -/
def pieces? : List Char → Option (List Piece)
  | '"' :: rest => piecesBehind? rest
  | _ => none

theorem flatMap_chars_extend (c : Char) (pieces : List Piece) :
    (Piece.extend c pieces).flatMap Piece.chars = c :: pieces.flatMap Piece.chars := by
  unfold Piece.extend
  split <;> rfl

/-- The pieces of a literal are all that stands before its closing quote. -/
theorem chars_of_piecesBehind? {cs : List Char} {pieces : List Piece}
    (read : piecesBehind? cs = some pieces) : pieces.flatMap Piece.chars ++ ['"'] = cs := by
  fun_induction piecesBehind? cs generalizing pieces with
  | case1 => cases read
  | case2 =>
      cases read
      rfl
  | case3 a b c d rest _ ih | case4 a b c d rest _ ih | case5 c rest _ ih =>
      obtain ⟨others, below, rfl⟩ := Option.map_eq_some_iff.1 read
      rw [← ih below]
      rfl
  | case6 => cases read
  | case7 c rest _ _ _ _ ih =>
      obtain ⟨others, below, rfl⟩ := Option.map_eq_some_iff.1 read
      rw [flatMap_chars_extend, List.cons_append, ih below]

/-- The tree is what a parser makes of a string literal: it has a node for each piece. -/
structure IsStringOf (label : String) (t : Tree) : Prop where
  kind : t.kind = "string"
  text : t.text = label
  pieces : ∃ pieces, pieces? label.toList = some pieces ∧
    List.Forall₂ Piece.IsNode pieces t.named

/-- The characters of a literal are those of its pieces, in order. -/
theorem Piece.chars_of_areNodes {pieces : List Piece} {trees : List Tree}
    (nodes : List.Forall₂ IsNode pieces trees) :
    trees.flatMap (·.text.toList) = pieces.flatMap chars := by
  induction nodes with
  | nil => rfl
  | cons node _ ih => rw [List.flatMap_cons, List.flatMap_cons, node.2, ih]

/-- The nodes of a literal are all that stands between its quotes. -/
theorem IsStringOf.chars_named {label : String} {t : Tree} (parsed : IsStringOf label t) :
    '"' :: t.named.flatMap (·.text.toList) ++ ['"'] = label.toList := by
  obtain ⟨pieces, read, nodes⟩ := parsed.pieces
  generalize label.toList = cs at read
  unfold pieces? at read
  split at read
  · rw [Piece.chars_of_areNodes nodes, List.cons_append, chars_of_piecesBehind? read]
  · cases read

/-! ## Quoted characters -/

/-- How a character is written inside a string literal. -/
inductive Written : Char → List Char → Prop where
  | itself {c : Char} (unbroken : c ∉ breaks) : Written c [c]
  | letter {c letter : Char} (short : letter ≠ 'u') (denotes : Denotes ['\\', letter] c) :
      Written c ['\\', letter]
  | digits {c : Char} {cs : List Char} (hexadecimal : ∀ digit ∈ cs, isHexDigit digit = true)
      (four : cs.length = 4) (denotes : Denotes ('\\' :: 'u' :: cs) c) :
      Written c ('\\' :: 'u' :: cs)

theorem isHexDigit_of_isDigit {c : Char} {d : Nat} (digit : IsDigit 16 c d) :
    isHexDigit c = true := by
  have all : ∀ d < 16, ∀ c ∈ [Nat.digitChar d, (Nat.digitChar d).toUpper], isHexDigit c = true :=
    forall_digitChars (by decide) (by decide)
  exact all d digit.1 c digit.mem

theorem hexDigit_eq : ∀ d < 16, Text.hexDigit d = Nat.digitChar d := by
  decide

/-- Hexadecimal digits of a fixed width denote the number, less what is too high for them. -/
theorem exists_hexDigits (width n : Nat) :
    ∃ ds, List.Forall₂ (IsDigit 16) (Text.hexDigits width n) ds ∧ ds.length = width ∧
      Nat.ofDigits 16 ds.reverse = n % 16 ^ width := by
  induction width generalizing n with
  | zero => exact ⟨[], .nil, rfl, by simp [Nat.mod_one]⟩
  | succ width ih =>
      obtain ⟨ds, digits, length, value⟩ := ih (n / 16)
      have small : n % 16 < 16 := Nat.mod_lt n (by decide)
      have last : IsDigit 16 (Text.hexDigit (n % 16)) (n % 16) :=
        ⟨small, .inl (hexDigit_eq _ small)⟩
      refine ⟨ds ++ [n % 16], List.rel_append digits (.cons last .nil), by simp [length], ?_⟩
      rw [List.reverse_append, List.reverse_singleton, List.singleton_append, Nat.ofDigits_cons,
        value, Nat.pow_succ, Nat.mul_comm (16 ^ width), Nat.mod_mul]

/-- What would end a literal or begin an escape stands for itself behind a backslash. -/
theorem standsForItself_quote : StandsForItself '"' ∧ StandsForItself '\\' := by
  unfold StandsForItself
  decide

/-- Every character is written so that it can be read. -/
theorem written_quoteChar (c : Char) : Written c (Text.quoteChar c) := by
  have listed {letter : Char} (short : letter ≠ 'u') (pair : (letter, c) ∈ controls) :
      Written c ['\\', letter] := .letter short (.control pair)
  unfold Text.quoteChar
  split
  · next same =>
      subst same
      exact .letter (by decide) (.itself standsForItself_quote.1)
  split
  · next same =>
      subst same
      exact .letter (by decide) (.itself standsForItself_quote.2)
  iterate 5
    split
    · next same => exact listed (by decide) (by simp [controls, same])
  split
  · next low =>
      obtain ⟨ds, digits, length, value⟩ := exists_hexDigits 4 c.toNat
      have whole : Nat.ofDigits 16 ds.reverse = c.toNat := by
        rw [value]
        exact Nat.mod_eq_of_lt (by omega)
      have valid : IsCharacter (Nat.ofDigits 16 ds.reverse) := by
        rw [whole]
        have below : ¬ Text.surrogateStart ≤ c.toNat := by
          rw [Text.surrogateStart]
          omega
        exact ⟨by omega, by simp [Text.isSurrogate, below]⟩
      have four : (Text.hexDigits 4 c.toNat).length = 4 := digits.length_eq.trans length
      have denotes := Denotes.four digits four valid
      rw [whole, Char.ofNat_toNat] at denotes
      exact .digits (forall_digits digits isHexDigit_of_isDigit) four denotes
  · exact .itself (by simp_all [breaks])

/-! ## Reading the pieces -/

/-- An escape of one letter is cut off as a piece of its own. -/
theorem piecesBehind?_letter {letter : Char} (short : letter ≠ 'u') (rest : List Char) :
    piecesBehind? ('\\' :: letter :: rest) =
      (piecesBehind? rest).map (.escape ['\\', letter] :: ·) := by
  rw [piecesBehind?]
  simp_all

/-- An escape of four hexadecimal digits is cut off as a piece of its own. -/
theorem piecesBehind?_digits {cs : List Char} (hexadecimal : ∀ digit ∈ cs, isHexDigit digit = true)
    (four : cs.length = 4) (rest : List Char) :
    piecesBehind? ('\\' :: 'u' :: (cs ++ rest)) =
      (piecesBehind? rest).map (.escape ('\\' :: 'u' :: cs) :: ·) := by
  match cs, four with
  | [a, b, c, d], _ =>
      have all : [a, b, c, d].all isHexDigit = true := List.all_eq_true.2 hexadecimal
      simp only [List.cons_append, List.nil_append, piecesBehind?, all, if_true]

theorem piecesBehind?_itself {c : Char} (unbroken : c ∉ breaks) (rest : List Char) :
    piecesBehind? (c :: rest) = (piecesBehind? rest).map (Piece.extend c) := by
  have notQuote : c ≠ '"' := by
    rintro rfl
    exact unbroken (by decide)
  have notEscape : c ≠ '\\' := by
    rintro rfl
    exact unbroken (by decide)
  rw [piecesBehind?]
  · simp [unbroken]
  · simp [notQuote]
  · simp [notEscape]
  · simp [notEscape]

/-- One more character in front of a fragment is one more in front of what the pieces mean. -/
theorem exists_extend {c : Char} (unbroken : c ∉ breaks) {pieces : List Piece}
    {texts : List (List Char)} (means : List.Forall₂ Piece.Means pieces texts) :
    ∃ texts', List.Forall₂ Piece.Means (Piece.extend c pieces) texts' ∧
      texts'.flatten = c :: texts.flatten := by
  have noReturn : c ≠ '\r' := by
    rintro rfl
    exact unbroken (by decide)
  cases means with
  | nil => exact ⟨[[c]], .cons (.fragment (by simpa using noReturn.symm)) .nil, rfl⟩
  | cons first others =>
      cases first with
      | fragment free =>
          exact ⟨(c :: _) :: _, .cons (.fragment (by simp [free, noReturn.symm])) others, rfl⟩
      | escape denotes =>
          exact ⟨[c] :: _, .cons (.fragment (by simpa using noReturn.symm))
            (.cons (.escape denotes) others), rfl⟩

/-- A quoted text has pieces, and they stand for the text. -/
theorem exists_pieces (cs : List Char) :
    ∃ pieces texts, pieces? (Text.quoteChars cs) = some pieces ∧
      List.Forall₂ Piece.Means pieces texts ∧ texts.flatten = cs := by
  change ∃ pieces texts, piecesBehind? (cs.flatMap Text.quoteChar ++ ['"']) = some pieces ∧ _
  induction cs with
  | nil => exact ⟨[], [], rfl, .nil, rfl⟩
  | cons c rest ih =>
      obtain ⟨pieces, texts, read, means, whole⟩ := ih
      rw [List.flatMap_cons, List.append_assoc]
      have written := written_quoteChar c
      generalize Text.quoteChar c = quoted at written
      cases written with
      | itself unbroken =>
          obtain ⟨texts', means', flat⟩ := exists_extend unbroken means
          refine ⟨_, texts', ?_, means', by rw [flat, whole]⟩
          exact (piecesBehind?_itself unbroken _).trans (congrArg _ read)
      | letter short denotes =>
          refine ⟨_, [c] :: texts, ?_, .cons (.escape denotes) means, by simp [whole]⟩
          exact (piecesBehind?_letter short _).trans (congrArg _ read)
      | digits hexadecimal four denotes =>
          refine ⟨_, [c] :: texts, ?_, .cons (.escape denotes) means, by simp [whole]⟩
          exact (piecesBehind?_digits hexadecimal four _).trans (congrArg _ read)

/-! ## The tree of a literal -/

theorem spellsPiece_of_isNode {p : Piece} {cs : List Char} (means : p.Means cs) {t : Tree}
    (node : p.IsNode t) : Script.SpellsPiece t (String.ofList cs) := by
  obtain ⟨kind, text⟩ := node
  cases means with
  | fragment noReturn =>
      have spelled := Script.SpellsPiece.fragment kind (text.symm ▸ noReturn)
      rwa [← String.ofList_toList (s := t.text), text] at spelled
  | escape denotes => exact .escape kind (text.symm ▸ denotes)

/-- The nodes of the pieces spell what the pieces mean. -/
theorem spellsPieces_of_isNodes {pieces : List Piece} {texts : List (List Char)}
    (means : List.Forall₂ Piece.Means pieces texts) {trees : List Tree}
    (nodes : List.Forall₂ Piece.IsNode pieces trees) :
    List.Forall₂ Script.SpellsPiece trees (texts.map String.ofList) := by
  induction means generalizing trees with
  | nil =>
      cases nodes
      exact .nil
  | cons first _ ih =>
      cases nodes with
      | cons node others => exact .cons (spellsPiece_of_isNode first node) (ih others)

theorem join_ofList (texts : List (List Char)) :
    String.join (texts.map String.ofList) = String.ofList texts.flatten := by
  induction texts with
  | nil => rfl
  | cons text rest ih =>
      rw [List.map_cons, String.join_cons, ih, List.flatten_cons, String.ofList_append]

/-- The tree of a quoted text is read as the text. -/
theorem IsStringOf.stringValue_quote {s : String} {t : Tree}
    (parsed : IsStringOf (Text.quote s) t) : stringValue t = .ok s := by
  obtain ⟨kind, text, pieces, read, nodes⟩ := parsed
  obtain ⟨expected, texts, quoted, means, whole⟩ := exists_pieces s.toList
  obtain rfl : pieces = expected := by
    rw [Text.quote, Text.onChars, String.toList_ofList, quoted] at read
    exact (Option.some.inj read).symm
  have each := spellsPieces_of_isNodes means nodes
  have value : String.join (texts.map String.ofList) = s := by
    rw [join_ofList, whole, String.ofList_toList]
  refine Script.stringValue_text ?_
  by_cases bare : t.named = []
  · obtain rfl : texts = [] := by simpa [bare] using each
    subst value
    exact .empty kind bare (.inl text)
  · exact value ▸ Script.SpellsText.pieces kind bare each

/-- A tree with nothing but kinds and texts. -/
def bareTree (kind text : String) (children : List Tree) : Tree :=
  .node { kind, text, start := 0, stop := 0, first := ⟨0, 0⟩, last := ⟨0, 0⟩, named := true,
          missing := false, field := none } children

/-- The tree of a literal with these pieces. -/
def treeOf (label : String) (pieces : List Piece) : Tree :=
  bareTree "string" label (pieces.map fun p => bareTree p.kind (String.ofList p.chars) [])

theorem isStringOf_treeOf {label : String} {pieces : List Piece}
    (read : pieces? label.toList = some pieces) : IsStringOf label (treeOf label pieces) := by
  refine ⟨rfl, rfl, pieces, read, ?_⟩
  have named : (treeOf label pieces).named =
      pieces.map fun p => bareTree p.kind (String.ofList p.chars) [] :=
    List.filter_eq_self.2 fun t listed => by
      obtain ⟨p, _, rfl⟩ := List.mem_map.1 listed
      rfl
  rw [named, List.forall₂_map_right_iff, List.forall₂_same]
  exact fun p _ => ⟨rfl, String.toList_ofList⟩

end Literal

namespace Check

open Literal

/-- The text of a string literal type is a string literal with the type's value, and with no
other: each of its trees has the text between the quotes in pieces and is read as the value, and
no other string has the same text. -/
theorem literalText_reads_back (s : String) :
    ∃ label, literalText .string (.text s) = .ok label ∧ (∃ t, IsStringOf label t) ∧
      (∀ t, IsStringOf label t →
        '"' :: t.named.flatMap (·.text.toList) ++ ['"'] = label.toList ∧ stringValue t = .ok s) ∧
      ∀ s', literalText .string (.text s') = .ok label → s' = s := by
  obtain ⟨pieces, _, quoted, _⟩ := exists_pieces s.toList
  have read : pieces? (Text.quote s).toList = some pieces := by
    rw [Text.quote, Text.onChars, String.toList_ofList, quoted]
  have parsed := isStringOf_treeOf read
  refine ⟨Text.quote s, rfl, ⟨_, parsed⟩,
    fun t parsed => ⟨parsed.chars_named, parsed.stringValue_quote⟩, fun s' same => ?_⟩
  -- one tree, read in two ways
  have label : Text.quote s' = Text.quote s := Except.ok.inj same
  have other : stringValue (treeOf (Text.quote s) pieces) = .ok s' :=
    IsStringOf.stringValue_quote (label.symm ▸ parsed)
  exact Except.ok.inj (other.symm.trans parsed.stringValue_quote)

/-- Quotes, a backslash, controls with and without a letter, and characters beyond them. -/
def quotable : String :=
  "a\"\\\n\x01ué😀"

/-- What a parser makes of the quoted text. -/
def quotableTree : Tree :=
  bareTree "string" "\"a\\\"\\\\\\n\\u0001ué😀\""
    [bareTree "string_fragment" "a" [], bareTree "escape_sequence" "\\\"" [],
     bareTree "escape_sequence" "\\\\" [], bareTree "escape_sequence" "\\n" [],
     bareTree "escape_sequence" "\\u0001" [], bareTree "string_fragment" "ué😀" []]

theorem literalText_reads_back_quotable :
    literalText .string (.text quotable) = .ok quotableTree.text ∧
      stringValue quotableTree = .ok quotable := by
  obtain ⟨label, written, _, reads, _⟩ := literalText_reads_back quotable
  have text : label = quotableTree.text := by
    have quoted : Text.quote quotable = quotableTree.text := by decide
    exact (Except.ok.inj written).symm.trans quoted
  subst text
  refine ⟨written, (reads quotableTree ⟨rfl, rfl, _, rfl, ?_⟩).2⟩
  refine .cons ?_ (.cons ?_ (.cons ?_ (.cons ?_ (.cons ?_ (.cons ?_ .nil)))))
  all_goals exact ⟨rfl, by decide⟩

end Check

end TypeGloss
