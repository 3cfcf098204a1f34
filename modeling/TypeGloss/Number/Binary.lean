/-
# TypeGloss.Number.Binary — floating-point numbers as exact integers

A finite number is `± mantissa · 2 ^ power` with a natural mantissa. `decode`
reads the three parts off the bits, so everything exact that is asked of a
number here is integer arithmetic:

* `toInteger?`: the integer a number is, if it is one;
* `compareInteger`: the order of an integer and a finite number, with no rounding;
* `remainder`: what is left of a number after taking away a whole multiple of
  another, with the sign of the first;
* `ofInteger?`: the nearest number to an integer, unless that is infinite.
-/
import TypeGloss.Fault

namespace TypeGloss.Number

set_option autoImplicit false

/-- The parts of a finite number `± mantissa · 2 ^ power`. -/
structure Binary where
  negative : Bool
  mantissa : Nat
  power : Int
  deriving Repr, DecidableEq

/-- The least power of two, which the numbers next to zero have. -/
def leastPower : Int := -1074

/-- The parts of a finite number; `none` for the infinities and for what is not
a number. -/
def decode (x : Float) : Option Binary :=
  let bits := x.toBits.toNat
  let negative := bits / Nat.pow 2 63 = 1
  let power : Nat := bits / Nat.pow 2 52 % Nat.pow 2 11
  let fraction := bits % Nat.pow 2 52
  if power = 2047 then none
  else if power = 0 then some ⟨negative, fraction, leastPower⟩
  else some ⟨negative, Nat.pow 2 52 + fraction, leastPower + ((power : Int) - 1)⟩

/-- The sign bit; also of zero, of the infinities and of what is not a number. -/
def isNegative (x : Float) : Bool :=
  x.toBits.toNat / Nat.pow 2 63 = 1

def signed (negative : Bool) (n : Nat) : Int :=
  if negative then -(n : Int) else n

namespace Binary

/-- Twice scaled: the numerator over the denominator `2 ^ max (-power) 0`. -/
def numerator (b : Binary) : Nat := b.mantissa * Nat.pow 2 b.power.toNat

/-- The power of two under `numerator`. -/
def denominator (b : Binary) : Nat := Nat.pow 2 (-b.power).toNat

/-- The integer a number is, if it is one. -/
def toInteger? (b : Binary) : Option Int :=
  if b.numerator % b.denominator = 0 then
    some (signed b.negative (b.numerator / b.denominator))
  else none

end Binary

/-- The integer a number is, if it is finite and has no fraction. -/
def toInteger? (x : Float) : Option Int :=
  (decode x).bind Binary.toInteger?

/-- The nearest number to an integer; an integer that is rounded to infinity has
none. -/
def ofInteger? (n : Int) : Option Float :=
  let x := Float.ofScientific n.natAbs false 0
  if x.isInf then none else some (if n < 0 then -x else x)

/-- The order of an integer and a number, with no rounding; `none` if the second
is not a number. -/
def compareInteger (n : Int) (x : Float) : Option Ordering :=
  match decode x with
  | some b =>
      some (compare (n * b.denominator) (signed b.negative b.numerator))
  | none =>
      if x.isNaN then none else some (if isNegative x then .gt else .lt)

/-- The finite number with the given parts, exactly, if the mantissa has at most
53 digits. -/
def Binary.toFloat (b : Binary) : Float :=
  let magnitude := Float.scaleB (Float.ofNat b.mantissa) b.power
  if b.negative then -magnitude else magnitude

/-- What is left of `x` after taking away a whole multiple of `y` toward zero,
with the sign of `x`. There is nothing to take away for an infinite `y`, and no
answer for an infinite `x`, for a zero `y` and for what is not a number. -/
def remainder (x y : Float) : Float :=
  match decode x, decode y with
  | some a, some b =>
      if b.mantissa = 0 then 0.0 / 0.0
      else
        let power := min a.power b.power
        let left := a.mantissa * Nat.pow 2 (a.power - power).toNat
        let right := b.mantissa * Nat.pow 2 (b.power - power).toNat
        Binary.toFloat ⟨a.negative, left % right, power⟩
  | some _, none => if y.isNaN then 0.0 / 0.0 else x
  | none, _ => 0.0 / 0.0

end TypeGloss.Number
