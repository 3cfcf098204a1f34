/-
# TypeGloss.Number.Shortest — the fewest digits that read back

A finite number is the nearest one to every real of an interval around it, and
any decimal in that interval reads back as the number. `shortest` looks for the
decimal with the fewest digits: on the grids of one, two, … seventeen digits it
tests the two grid points around the number, and the first grid with a hit wins.
Of two hits the nearer is taken, and of two equally near the even one.

All arithmetic is exact: the number is `num / den`, and the interval has the ends
`low / (4 · den)` and `high / (4 · den)`, which belong to it when the mantissa is
even. Below a power of two the gap is half as wide, so `low` is nearer there.

The result is a digit string without trailing zeros and the place of the point:
`digits = [1, 2, 5]` and `point = 1` is 1.25.
-/
import TypeGloss.Number.Binary

namespace TypeGloss.Number

set_option autoImplicit false

/-- A positive decimal `0.d₁d₂… · 10 ^ point`. -/
structure Digits where
  digits : List Nat
  point : Int
  deriving Repr, DecidableEq

/-- The decimal digits of a natural number, first the most significant. `steps`
bounds their number. -/
def digitsOf : Nat → Nat → List Nat
  | 0, _ => []
  | steps + 1, n => if n < 10 then [n] else digitsOf steps (n / 10) ++ [n % 10]

/-- A fraction of natural numbers. -/
structure Ratio where
  num : Nat
  den : Nat

/-- The least `k ≥ start` with `ratio < 10 ^ k`, tried upward. -/
def placesUp (ratio : Ratio) : Nat → Nat → Nat
  | 0, k => k
  | steps + 1, k => if ratio.num < ratio.den * Nat.pow 10 k then k else placesUp ratio steps (k + 1)

/-- The greatest `j` with `ratio · 10 ^ j < 1`, tried upward. -/
def placesDown (ratio : Ratio) : Nat → Nat → Nat
  | 0, j => j
  | steps + 1, j =>
      if ratio.num * Nat.pow 10 (j + 1) < ratio.den then placesDown ratio steps (j + 1) else j

/-- The place of the point: `10 ^ (k - 1) ≤ ratio < 10 ^ k`. No finite number is
beyond 400 places on either side. -/
def pointOf (ratio : Ratio) : Int :=
  if ratio.num < ratio.den then -(placesDown ratio 400 0 : Int)
  else placesUp ratio 400 0

/-- The interval of the reals that round to a number, scaled by four times the
denominator. -/
structure Interval where
  low : Nat
  high : Nat
  closed : Bool

/-- Does the fraction `n / d` lie in the interval over the denominator `4 · den`? -/
def Interval.contains (i : Interval) (den n d : Nat) : Bool :=
  if i.closed then i.low * d ≤ 4 * den * n && 4 * den * n ≤ i.high * d
  else i.low * d < 4 * den * n && 4 * den * n < i.high * d

/-- The reals that round to a positive number. -/
def Binary.interval (b : Binary) : Interval :=
  let unit := Nat.pow 2 b.power.toNat
  let narrow := b.mantissa = Nat.pow 2 52 && b.power != leastPower
  ⟨(4 * b.mantissa - (if narrow then 1 else 2)) * unit, (4 * b.mantissa + 2) * unit,
    b.mantissa % 2 = 0⟩

/-- Of the two points `n` and `n + 1` of the grid `1 / d`, the one to write: a hit
of the interval, the nearer of two hits, and the even one of two equally near. -/
def pick (i : Interval) (ratio : Ratio) (n d : Nat) : Option Nat :=
  match i.contains ratio.den n d, i.contains ratio.den (n + 1) d with
  | true, false => some n
  | false, true => some (n + 1)
  | false, false => none
  | true, true =>
      let below := ratio.num * d - n * ratio.den
      let above := (n + 1) * ratio.den - ratio.num * d
      if below < above then some n
      else if above < below then some (n + 1)
      else some (if n % 2 = 0 then n else n + 1)

def trimZeros (digits : List Nat) : List Nat :=
  (digits.reverse.dropWhile (· == 0)).reverse

/-- The hit on the grid of `count` digits. The grid point is `n · 10 ^ (point -
count)`; the two powers of ten keep everything natural. -/
def onGrid (b : Binary) (ratio : Ratio) (point : Int) (count : Nat) : Option Digits :=
  let shift := point - count
  let up := Nat.pow 10 (-shift).toNat
  let down := Nat.pow 10 shift.toNat
  let scaled : Ratio := ⟨ratio.num * up, ratio.den * down⟩
  let base := b.interval
  let interval : Interval := ⟨base.low * up, base.high * up, base.closed⟩
  (pick interval scaled (scaled.num / scaled.den) 1).map fun n =>
    let written := digitsOf 40 n
    ⟨trimZeros written, point + (written.length - count : Int)⟩

/-- The first grid with a hit among those of `count`, `count + 1`, … digits. -/
def firstHit (b : Binary) (ratio : Ratio) (point : Int) : Nat → Nat → Digits
  | 0, _ => ⟨[], point⟩
  | steps + 1, count =>
      match onGrid b ratio point count with
      | some found => found
      | none => firstHit b ratio point steps (count + 1)

/-- The fewest digits that read back as a finite number other than zero. -/
def Binary.shortest (b : Binary) : Digits :=
  let ratio : Ratio := ⟨b.numerator, b.denominator⟩
  firstHit b ratio (pointOf ratio) 20 1

end TypeGloss.Number
