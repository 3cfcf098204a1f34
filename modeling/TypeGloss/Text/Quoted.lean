/-
# TypeGloss.Text.Quoted — two quoted forms of a text

* `quote` writes a string literal between double quotes: the quote and the
  backslash are escaped, five controls have short escapes, the other characters
  below the space are written with four hexadecimal digits, and everything else,
  beyond ASCII included, stands for itself.
* `shown` writes a text inside an error message. The quote is single unless the
  text holds a single quote and no double one; backslash, quote, line feed,
  carriage return and tabulator are escaped, and an unprintable character is
  written as its code point in two, four or eight hexadecimal digits.
-/
import TypeGloss.Text.Letter

namespace TypeGloss.Text

set_option autoImplicit false

/-- One hexadecimal digit, in lower case. -/
def hexDigit (n : Nat) : Char :=
  Char.ofNat (if n < 10 then 0x30 + n else 0x57 + n)

/-- The last `width` hexadecimal digits of a number. -/
def hexDigits : Nat → Nat → List Char
  | 0, _ => []
  | width + 1, n => hexDigits width (n / 16) ++ [hexDigit (n % 16)]

/-! ## String literals -/

def quoteChar (c : Char) : List Char :=
  if c = '"' then ['\\', '"']
  else if c = '\\' then ['\\', '\\']
  else if c = '\n' then ['\\', 'n']
  else if c = '\r' then ['\\', 'r']
  else if c = '\t' then ['\\', 't']
  else if c = '\x08' then ['\\', 'b']
  else if c = '\x0c' then ['\\', 'f']
  else if c.toNat < 0x20 then '\\' :: 'u' :: hexDigits 4 c.toNat
  else [c]

def quoteChars (cs : List Char) : List Char :=
  '"' :: cs.flatMap quoteChar ++ ['"']

def quote (s : String) : String :=
  onChars quoteChars s

/-! ## Shown text -/

/-- The quote a shown text stands between. -/
def shownMark (cs : List Char) : Char :=
  if cs.contains '\'' && !cs.contains '"' then '"' else '\''

def shownChar (mark : Char) (c : Char) : List Char :=
  if c = mark || c = '\\' then ['\\', c]
  else if c = '\n' then ['\\', 'n']
  else if c = '\r' then ['\\', 'r']
  else if c = '\t' then ['\\', 't']
  else if isPrintable c then [c]
  else if c.toNat < 0x100 then '\\' :: 'x' :: hexDigits 2 c.toNat
  else if c.toNat < 0x10000 then '\\' :: 'u' :: hexDigits 4 c.toNat
  else '\\' :: 'U' :: hexDigits 8 c.toNat

def shownChars (cs : List Char) : List Char :=
  let mark := shownMark cs
  mark :: cs.flatMap (shownChar mark) ++ [mark]

def shown (s : String) : String :=
  onChars shownChars s

end TypeGloss.Text
