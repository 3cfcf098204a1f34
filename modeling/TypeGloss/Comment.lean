/-
# TypeGloss.Comment — documentation comments

A documentation comment is a block that opens with a slash and two stars or more.
`strip` takes away the opening, the closing stars and slash, the star gutter of
every line and the indentation that the lines share. `parse` divides what is left:
the text before the first block tag is the description, a line that starts with
`@name` opens a tag, and the lines after it belong to it up to the next one. A tag
inside braces does not start its line and stays text.
-/
import TypeGloss.Text.Letter

namespace TypeGloss

set_option autoImplicit false

/-- A block tag of a documentation comment. -/
structure Tag where
  name : String
  text : Option String
  deriving Repr, DecidableEq, Inhabited

/-- A documentation comment taken apart. -/
structure Comment where
  description : Option String := none
  tags : List Tag := []
  deriving Repr, DecidableEq, Inhabited

namespace Comment

/-! ## Delimiters -/

/-- Text without the slash and stars that open a documentation comment. -/
def dropOpening : List Char → List Char
  | '/' :: '*' :: '*' :: rest => rest.dropWhile (· == '*')
  | cs => cs

/-- Reversed text without the slash and stars that close a comment. -/
def dropClosingReversed : List Char → List Char
  | '/' :: '*' :: rest => rest.dropWhile (· == '*')
  | cs => cs

/-- Text without the stars and slash that close a comment. -/
def dropClosing (cs : List Char) : List Char :=
  (dropClosingReversed cs.reverse).reverse

/-- A line without its star gutter: blanks, one star and at most one space. -/
def dropGutter (line : List Char) : List Char :=
  match Text.stripLeft line with
  | '*' :: ' ' :: rest => rest
  | '*' :: rest => rest
  | _ => line

/-- The text of a comment without delimiters, gutters and shared indentation. -/
def stripChars (comment : List Char) : List Char :=
  let body := dropClosing (dropOpening (Text.strip comment))
  Text.strip (Text.dedent (Text.joinLines ((Text.splitLines body).map dropGutter)))

/-- The text of a comment without delimiters, gutters and shared indentation. -/
def strip (comment : String) : String :=
  Text.onChars stripChars comment

/-! ## Tags -/

/-- A tag being read: its name and its lines so far. -/
structure OpenTag where
  name : List Char
  lines : List (List Char)

/-- A character of a tag's name after the first. -/
def isTagChar (c : Char) : Bool := Text.isWord c || c = '-'

/-- The tag that a line without blanks around it opens. -/
def openTag? : List Char → Option OpenTag
  | '@' :: first :: rest =>
      if Text.isAsciiLetter first then
        let text := Text.stripLeft (rest.dropWhile isTagChar)
        some ⟨first :: rest.takeWhile isTagChar, if text.isEmpty then [] else [text]⟩
      else none
  | _ => none

/-- Description lines and tags read so far; tags stand in reverse order. -/
structure Reading where
  description : List (List Char) := []
  tags : List OpenTag := []

def Reading.line (reading : Reading) (line : List Char) : Reading :=
  let trimmed := Text.strip line
  match openTag? trimmed with
  | some tag => { reading with tags := tag :: reading.tags }
  | none =>
      match reading.tags with
      | tag :: earlier =>
          { reading with tags := { tag with lines := tag.lines ++ [trimmed] } :: earlier }
      | [] => { reading with description := reading.description ++ [line] }

/-- Lines as one text without blanks around it, if any is left. -/
def textOf? (lines : List (List Char)) : Option String :=
  match Text.strip (Text.joinLines lines) with
  | [] => none
  | text => some (String.ofList text)

/-- A tag that has been read. -/
def OpenTag.close (tag : OpenTag) : Tag :=
  ⟨String.ofList tag.name, textOf? tag.lines⟩

def parse (comment : String) : Comment :=
  if comment = "" then {}
  else
    let lines := Text.splitLines (stripChars comment.toList)
    let reading := lines.foldl Reading.line {}
    ⟨textOf? reading.description, (reading.tags.map OpenTag.close).reverse⟩

/-- The description and the tags of a comment that may be absent. -/
def parse? : Option String → Comment
  | some comment => parse comment
  | none => {}

end Comment

end TypeGloss
