/-
# TypeGloss.Text.CodePoint — characters by their numbers

Half of a surrogate pair is a code point but no character. A text in which one stands
alone still has a length and is compared with other texts, so every half has a stand-in
of its own: a character for private use in the last plane. Halves are told apart from one
another and from all other characters; only a source that writes a stand-in itself, as a
character, writes the same text as one that escapes the half.
-/

namespace TypeGloss.Text

set_option autoImplicit false

/-- The first code point that is half of a surrogate pair. -/
def surrogateStart : Nat := 0xD800

/-- Is a code point half of a surrogate pair? -/
def isSurrogate (n : Nat) : Bool := surrogateStart ≤ n && n ≤ 0xDFFF

/-- The stand-in of the first surrogate; those of the others follow it. -/
def standInStart : Nat := 0x10F000

/-- The character of a code point, or what stands in for it. -/
def ofCodePoint (n : Nat) : Char :=
  Char.ofNat (if isSurrogate n then n - surrogateStart + standInStart else n)

end TypeGloss.Text
