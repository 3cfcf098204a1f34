/-
# TypeGloss.Number.Reader — reading integers and decimals

Integers are read in a base; base zero takes the base from a leading `0x`, `0o`
or `0b` and is ten otherwise, where a number other than zero may not start with
a zero. Blanks around the number, one sign, a mark that agrees with the base and
single underscores between digits are accepted, and digits of every script count
as digits. A decimal integer of more than 4300 digits is refused.

Decimals have a sign, digits with at most one point among them, and an exponent.
They are rounded to the nearest floating-point number.
-/
import TypeGloss.Number.Binary

namespace TypeGloss.Number

set_option autoImplicit false

/-! ## Characters of a numeral -/

/-- Blanks that may stand around a numeral. -/
def isPadding (c : Char) : Bool :=
  Text.inRanges [(0x09, 0x0D), (0x20, 0x20)] c.toNat || (0x80 ≤ c.toNat && Text.isBlank c)

/-- A numeral without the blanks around it. -/
def trimPadding (cs : List Char) : List Char :=
  Text.dropTail isPadding (cs.dropWhile isPadding)

/-- The value of a digit, letters included. -/
def digit? (c : Char) : Option Nat :=
  match Text.digitValue? c with
  | some d => some d
  | none =>
      let n := c.toNat
      if 0x61 ≤ n && n ≤ 0x7A then some (n - 0x57)
      else if 0x41 ≤ n && n ≤ 0x5A then some (n - 0x37)
      else none

def digitIn? (base : Nat) (c : Char) : Option Nat :=
  (digit? c).bind fun d => if d < base then some d else none

/-- A sign, and what follows it. -/
def takeSign : List Char → Bool × List Char
  | '-' :: rest => (true, rest)
  | '+' :: rest => (false, rest)
  | cs => (false, cs)

/-! ## Integers -/

/-- The base that a letter after a leading zero marks. -/
def markedBase? (c : Char) : Option Nat :=
  if c = 'x' || c = 'X' then some 16
  else if c = 'o' || c = 'O' then some 8
  else if c = 'b' || c = 'B' then some 2
  else none

/-- A digit in front of the digits that were read. -/
def consDigit (d : Nat) (read : List Nat × List Char) : List Nat × List Char :=
  (d :: read.1, read.2)

/-- The digits of a numeral and what follows them. An underscore counts only
between two digits; `inside` says that a digit was read just before. -/
def takeDigits (base : Nat) (inside : Bool) : List Char → List Nat × List Char
  | [] => ([], [])
  | '_' :: [] => ([], ['_'])
  | '_' :: c :: rest =>
      match inside, digitIn? base c with
      | true, some d => consDigit d (takeDigits base true rest)
      | _, _ => ([], '_' :: c :: rest)
  | c :: rest =>
      match digitIn? base c with
      | some d => consDigit d (takeDigits base true rest)
      | none => ([], c :: rest)

/-- The number that digits denote in a base. -/
def ofDigits (base : Nat) (ds : List Nat) : Nat :=
  ds.foldl (fun n d => n * base + d) 0

/-- The base, the digits' text, and whether only zero is allowed: a mark that
agrees with the base is dropped, with one underscore after it. -/
def takeMark (base : Nat) (cs : List Char) : Nat × List Char × Bool :=
  match cs with
  | '0' :: mark :: rest =>
      match markedBase? mark with
      | some marked =>
          if base = 0 || base = marked then
            (marked, (match rest with | '_' :: more => more | _ => rest), false)
          else (base, cs, false)
      | none => (if base = 0 then 10 else base, cs, base = 0)
  | '0' :: [] => (if base = 0 then 10 else base, cs, base = 0)
  | _ => (if base = 0 then 10 else base, cs, false)

/-- Bases whose numerals have no limit on their length. -/
def isUnlimited (base : Nat) : Bool := base = 2 || base = 8 || base = 16

def readInteger (base : Nat) (text : String) : Result Int :=
  let refuse : Result Int := .error (.notAnInteger base text)
  let (negative, unsigned) := takeSign (trimPadding text.toList)
  let (actual, numeral, onlyZero) := takeMark base unsigned
  let (ds, rest) := takeDigits actual false numeral
  if !isUnlimited actual && ds.length > Fault.digitLimit then .error (.tooManyDigits ds.length)
  else if ds.isEmpty || !rest.isEmpty then refuse
  else
    let n := ofDigits actual ds
    if onlyZero && n != 0 then refuse else .ok (signed negative n)

/-! ## Decimals -/

/-- The decimal digits at the start of a text, and what follows them. -/
def takeDecimals (cs : List Char) : List Nat × List Char :=
  (cs.takeWhile (fun c => (Text.digitValue? c).isSome) |>.filterMap Text.digitValue?,
    cs.dropWhile fun c => (Text.digitValue? c).isSome)

/-- Digits behind a point, if there is one. -/
def takeFraction : List Char → List Nat × List Char
  | '.' :: rest => takeDecimals rest
  | cs => ([], cs)

/-- The exponent at the end of a decimal; `none` if something else is there. -/
def exponent? : List Char → Option Int
  | [] => some 0
  | mark :: rest =>
      if mark = 'e' || mark = 'E' then
        let (negative, unsigned) := takeSign rest
        let (ds, tail) := takeDecimals unsigned
        if ds.isEmpty || !tail.isEmpty then none else some (signed negative (ofDigits 10 ds))
      else none

/-- The nearest floating-point number to `n · 10 ^ e`. Beyond the reach of the
format the exponent does not matter, so it is not raised to that power. -/
def ofDecimal (n : Nat) (e : Int) : Float :=
  let size : Int := (natLength n : Int) + e
  if n = 0 || size < -400 then 0.0
  else if size > 400 then 1.0 / 0.0
  else Float.ofScientific n (e < 0) e.natAbs
where
  /-- The number of decimal digits. -/
  natLength (n : Nat) : Nat := (Nat.toDigits 10 n).length

def readDecimal (text : String) : Result Float :=
  let (negative, unsigned) := takeSign (trimPadding text.toList)
  let (whole, afterWhole) := takeDecimals unsigned
  let (fraction, afterFraction) := takeFraction afterWhole
  match exponent? afterFraction with
  | some e =>
      if whole.isEmpty && fraction.isEmpty then .error (.notANumber text)
      else
        let x := ofDecimal (ofDigits 10 (whole ++ fraction)) (e - fraction.length)
        .ok (if negative then -x else x)
  | none => .error (.notANumber text)

end TypeGloss.Number
