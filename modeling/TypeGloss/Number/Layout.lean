/-
# TypeGloss.Number.Layout — how a floating-point number is written

The digits are those of `TypeGloss.Number.Shortest`. A `Layout` says the rest:
between which decimal exponents the number is written out, how an exponent is
written, and the texts of what is not finite. A number that is written out has at
least one digit on either side of its point.

Two layouts are used: `Layout.plain` for type texts and evaluated text, and
`Layout.json` inside JSON.
-/
import TypeGloss.Number.Shortest

namespace TypeGloss.Number

set_option autoImplicit false

/-- The decisions that a way of writing numbers makes. -/
structure Layout where
  /-- The least decimal exponent that is written out. -/
  least : Int
  /-- The first decimal exponent that is written as such again. -/
  limit : Int
  /-- The least number of digits of an exponent. -/
  exponentWidth : Nat
  /-- The text of what is not a number. -/
  nan : String
  /-- The text of positive infinity. -/
  infinity : String

/-- Type texts and evaluated text: written out from 0.0001 up to below 10 ^ 16,
and exponents have two digits at least. -/
def Layout.plain : Layout := ⟨-4, 16, 2, "nan", "inf"⟩

/-- JSON: written out from 0.00001 up to below 10 ^ 16, and exponents are as short
as they can be. What is not finite has no place in JSON. -/
def Layout.json : Layout := ⟨-5, 16, 1, "null", "null"⟩

def digitChar (d : Nat) : Char := Char.ofNat (0x30 + d)

def digitChars (ds : List Nat) : List Char := ds.map digitChar

def natChars (n : Nat) : List Char := Nat.toDigits 10 n

def integerText (n : Int) : String :=
  if n < 0 then String.ofList ('-' :: natChars n.natAbs) else String.ofList (natChars n.natAbs)

/-- A text filled with zeros on the left up to a width. -/
def padLeft (width : Nat) (cs : List Char) : List Char :=
  List.replicate (width - cs.length) '0' ++ cs

/-- Digits written out, with the point at its place. -/
def positional (d : Digits) : List Char :=
  let cs := digitChars d.digits
  if d.point ≤ 0 then '0' :: '.' :: List.replicate (-d.point).toNat '0' ++ cs
  else
    let whole := d.point.toNat
    let filled := cs ++ List.replicate (whole - cs.length) '0'
    let fraction := filled.drop whole
    filled.take whole ++ '.' :: (if fraction.isEmpty then ['0'] else fraction)

/-- Digits with an exponent: one digit, the others behind a point, the exponent
with its sign. -/
def scientific (layout : Layout) (d : Digits) : List Char :=
  let exponent := d.point - 1
  let sign := if exponent < 0 then '-' else '+'
  let tail := 'e' :: sign :: padLeft layout.exponentWidth (natChars exponent.natAbs)
  match digitChars d.digits with
  | [] => '0' :: tail
  | [c] => c :: tail
  | c :: rest => c :: '.' :: rest ++ tail

/-- The text of a finite number without its sign. -/
def Layout.magnitude (layout : Layout) (b : Binary) : List Char :=
  if b.mantissa = 0 then ['0', '.', '0']
  else
    let d := b.shortest
    if layout.least ≤ d.point - 1 && d.point - 1 < layout.limit then positional d
    else scientific layout d

def Layout.render (layout : Layout) (x : Float) : String :=
  match decode x with
  | some b =>
      String.ofList ((if b.negative then ['-'] else []) ++ layout.magnitude b)
  | none =>
      if x.isNaN then layout.nan
      else if isNegative x then "-" ++ layout.infinity
      else layout.infinity

end TypeGloss.Number
