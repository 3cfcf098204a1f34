/-
# TypeGloss.Text.Letter — classes of characters

The classes that names, comments and shown text are read with. Each is decided
by a comparison inside ASCII and by a table of the Unicode standard beyond it:

* `isWord`: letters, numerals and the underscore;
* `isCapital`: capital letters (a titlecase letter is none);
* `digitValue?`: the value of a decimal digit of any script;
* `isPrintable`: characters that stand for themselves in shown text.
-/
import TypeGloss.Text.Blank
import TypeGloss.Text.WordTable
import TypeGloss.Text.HiddenTable
import TypeGloss.Text.CapitalTable

namespace TypeGloss.Text

set_option autoImplicit false

def isAsciiLetter (c : Char) : Bool :=
  inRanges [(0x41, 0x5A), (0x61, 0x7A)] c.toNat

/-- Letters, numerals and the underscore. -/
def isWord (c : Char) : Bool :=
  if c.toNat < 0x80 then inRanges [(0x30, 0x39), (0x41, 0x5A), (0x5F, 0x5F), (0x61, 0x7A)] c.toNat
  else inRanges wordRanges c.toNat

def isCapital (c : Char) : Bool :=
  let n := c.toNat
  if n < 0x80 then inRanges [(0x41, 0x5A)] n
  else capitalRuns.any fun (first, last, step) => first ≤ n && n ≤ last && (n - first) % step == 0

def digitValue? (c : Char) : Option Nat :=
  let n := c.toNat
  (0x30 :: zeroPoints).findSome? fun start =>
    if start ≤ n && n ≤ start + 9 then some (n - start) else none

/-- Characters that stand for themselves in shown text. -/
def isPrintable (c : Char) : Bool :=
  if c.toNat < 0x80 then inRanges [(0x20, 0x7E)] c.toNat
  else !inRanges hiddenRanges c.toNat

end TypeGloss.Text
