/-
# TypeGloss.Text.Blank — blanks, line breaks and indentation

Text is handled as a list of characters, so that every function here is a
structural recursion; `String` appears only at the edges (`onChars`).

* `isBlank` is the set of characters that trimming removes: the ASCII blanks,
  the four information separators, and the blanks of the Unicode standard.
* `isLineBreak` is the set of characters that end a line. A carriage return
  followed by a line feed is one break.
* `splitLines` drops the empty line after a final break, so a text that ends
  with a break has no extra line and the empty text has no line at all.
* `dedent` removes the indentation that all lines with text share.
-/

namespace TypeGloss.Text

set_option autoImplicit false

/-- Lift a function on characters to strings. -/
def onChars (f : List Char → List Char) (s : String) : String :=
  String.ofList (f s.toList)

/-- Is `n` in one of the ranges of a table, ends included? -/
def inRanges (table : List (Nat × Nat)) (n : Nat) : Bool :=
  table.any fun range => range.1 ≤ n && n ≤ range.2

/-! ## Blanks -/

/-- Ranges of the characters that trimming removes. -/
def blankRanges : List (Nat × Nat) := [
  (0x09, 0x0D), (0x1C, 0x20), (0x85, 0x85), (0xA0, 0xA0), (0x1680, 0x1680),
  (0x2000, 0x200A), (0x2028, 0x2029), (0x202F, 0x202F), (0x205F, 0x205F),
  (0x3000, 0x3000)]

def isBlank (c : Char) : Bool :=
  inRanges blankRanges c.toNat

/-- Text without its leading blanks. -/
def stripLeft (cs : List Char) : List Char :=
  cs.dropWhile isBlank

/-- Text without the characters of its tail that satisfy `drop`. -/
def dropTail (drop : Char → Bool) (cs : List Char) : List Char :=
  (cs.reverse.dropWhile drop).reverse

def strip (cs : List Char) : List Char :=
  dropTail isBlank (stripLeft cs)

/-- Every run of blanks becomes one space. `inside` says that the run the
current character may continue has already been written. -/
def collapseFrom (inside : Bool) : List Char → List Char
  | [] => []
  | c :: rest =>
      if isBlank c then
        if inside then collapseFrom true rest else ' ' :: collapseFrom true rest
      else c :: collapseFrom false rest

/-- Every run of blanks becomes one space. -/
def collapse (cs : List Char) : List Char :=
  collapseFrom false cs

/-! ## Lines -/

/-- Ranges of the characters that end a line. -/
def lineBreakRanges : List (Nat × Nat) := [
  (0x0A, 0x0D), (0x1C, 0x1E), (0x85, 0x85), (0x2028, 0x2029)]

def isLineBreak (c : Char) : Bool :=
  inRanges lineBreakRanges c.toNat

/-- A text in which every line ends with a line feed, whichever of the three common
ways it was written with. -/
def unifyLineEnds : List Char → List Char
  | [] => []
  | '\r' :: '\n' :: rest => '\n' :: unifyLineEnds rest
  | c :: rest => (if c = '\r' then '\n' else c) :: unifyLineEnds rest

/-- The lines of a text whose current line already holds `line`, reversed. -/
def splitLinesFrom (line : List Char) : List Char → List (List Char)
  | [] => if line.isEmpty then [] else [line.reverse]
  | '\r' :: '\n' :: rest => line.reverse :: splitLinesFrom [] rest
  | c :: rest =>
      if isLineBreak c then line.reverse :: splitLinesFrom [] rest
      else splitLinesFrom (c :: line) rest

/-- The lines of a text, without their breaks. -/
def splitLines (cs : List Char) : List (List Char) :=
  splitLinesFrom [] cs

/-- Lines put together with a line feed between two of them. -/
def joinLines : List (List Char) → List Char
  | [] => []
  | [line] => line
  | line :: rest => line ++ '\n' :: joinLines rest

/-! ## Indentation -/

/-- The number of leading blanks of a line that holds text. -/
def indent? (line : List Char) : Option Nat :=
  match stripLeft line with
  | [] => none
  | text => some (line.length - text.length)

/-- The least indentation of the lines that hold text. -/
def sharedIndent? (lines : List (List Char)) : Option Nat :=
  (lines.filterMap indent?).min?

/-- Remove the indentation that all lines with text share. -/
def dedent (cs : List Char) : List Char :=
  let lines := splitLines cs
  match sharedIndent? lines with
  | none => joinLines lines
  | some width => joinLines (lines.map (List.drop width))

/-! ## Pieces -/

/-- The pieces of a list between the occurrences of a separator. There is always
one piece more than there are separators. -/
def splitAt {α : Type} [BEq α] (separator : α) : List α → List (List α)
  | [] => [[]]
  | c :: rest =>
      if c == separator then [] :: splitAt separator rest
      else
        match splitAt separator rest with
        | [] => [[c]]
        | piece :: pieces => (c :: piece) :: pieces

def pieces (separator : Char) (s : String) : List String :=
  (splitAt separator s.toList).map String.ofList

def startsWith (lead : String) (s : String) : Bool :=
  lead.toList.isPrefixOf s.toList

def endsWith (tail : String) (s : String) : Bool :=
  tail.toList.isSuffixOf s.toList

/-- Strings put together with a separator between two of them. -/
def joinWith (separator : String) : List String → String
  | [] => ""
  | [s] => s
  | s :: rest => s ++ separator ++ joinWith separator rest

end TypeGloss.Text
