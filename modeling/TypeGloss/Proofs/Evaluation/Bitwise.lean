/-
# TypeGloss.Proofs.Evaluation.Bitwise — operators on the bits of integers

What the language says about its bitwise operators, and that the evaluator computes it. Operands
are integers of any sign. Each is read as a word of 32 bits first (`int32`): it is reduced modulo
`2 ^ 32`, and the upper half counts as negative. Of the operand that says how far to shift only
the remainder modulo 32 counts, and that is never negative.

* A shift to the left multiplies by a power of two and reads the product as a word again; a shift
  to the right divides by one, rounding down.
* The other operators combine two words bit by bit, in two's complement, and the last of the 32
  bits is the sign.

The evaluator works on bit vectors and so has to find the bits, the sign and the multiples of
`2 ^ 32` in them (`toInt_word`, `testBit_word`).
-/
import Mathlib.Data.Int.Bitwise
import TypeGloss.Proofs.Evaluation.Failure
import TypeGloss.Proofs.Number.Finite

namespace TypeGloss

set_option autoImplicit false

/-! ## What the language says -/

namespace Script

/-- The integer that the last 32 bits of an integer are read as. -/
def int32 (n : Int) : Int :=
  let rest := n % 2 ^ 32
  if rest < 2 ^ 31 then rest else rest - 2 ^ 32

/-- How far an operand says to shift. -/
def shiftCount (n : Int) : Nat := (n % 2 ^ 32 % 32).toNat

/-- Operators on bits. -/
inductive Bitwise where
  | shiftLeft
  | shiftRight
  | and
  | or
  | xor

namespace Bitwise

/-- The sign of an operator. -/
def sign : Bitwise → String
  | shiftLeft => "<<"
  | shiftRight => ">>"
  | and => "&"
  | or => "|"
  | xor => "^"

/-- Two words combined bit by bit. -/
def combine (f : Bool → Bool → Bool) (m n : Int) : Int :=
  Int.ofBits fun i : Fin 32 => f ((int32 m).testBit i) ((int32 n).testBit i)

/-- What an operator makes of two integers. -/
def result (operator : Bitwise) (m n : Int) : Int :=
  match operator with
  | shiftLeft => int32 (int32 m * 2 ^ shiftCount n)
  | shiftRight => int32 m / 2 ^ shiftCount n
  | and => combine Bool.and m n
  | or => combine Bool.or m n
  | xor => combine Bool.xor m n

end Bitwise

end Script

/-! ## Words -/

namespace Operators

open Script

theorem int32_eq_bmod (n : Int) : int32 n = n.bmod (2 ^ 32) := rfl

theorem toInt_word (n : Int) : (word n).toInt = int32 n :=
  BitVec.toInt_ofInt n

theorem toNat_word (n : Int) : (word n).toNat = (n % 2 ^ 32).toNat :=
  BitVec.toNat_ofInt n

theorem shiftCount_word (n : Int) : shiftCount (word n) = Script.shiftCount n := by
  rw [shiftCount, toNat_word, Script.shiftCount]
  omega

/-- A word is the integer with its bits. -/
theorem toInt_eq_ofBits (b : BitVec 32) : b.toInt = Int.ofBits b.getLsb := by
  have bits : Nat.ofBits b.getLsb = b.toNat :=
    (Nat.ofBits_testBit b.toNat 32).trans (Nat.mod_eq_of_lt b.isLt)
  rw [Int.ofBits, bits, Int.subNatNat_eq_coe]
  rfl

theorem testBit_int32 (n : Int) (i : Fin 32) : (int32 n).testBit i = (word n).getLsb i := by
  rw [← toInt_word, toInt_eq_ofBits, Int.testBit_ofBits_lt i.isLt]

/-- Bit vectors are combined as the integers that they are. -/
theorem toInt_combined {f : Bool → Bool → Bool} {b : BitVec 32} {m n : Int}
    (each : ∀ i, b.getLsb i = f ((word m).getLsb i) ((word n).getLsb i)) :
    b.toInt = Bitwise.combine f m n := by
  rw [toInt_eq_ofBits, Bitwise.combine]
  congr 1
  funext i
  rw [each, testBit_int32, testBit_int32]

theorem toInt_shiftLeft (m : Int) (k : Nat) : (word m <<< k).toInt = int32 (int32 m * 2 ^ k) := by
  have shifted : (((word m).toNat <<< k : Nat) : Int) = m % (2 ^ 32 : Nat) * 2 ^ k := by
    rw [Nat.shiftLeft_eq, toNat_word, Int.natCast_mul, Int.natCast_pow,
      Int.toNat_of_nonneg (Int.emod_nonneg m (by decide))]
    rfl
  rw [BitVec.toInt_shiftLeft, shifted, Int.emod_mul_bmod, int32_eq_bmod, int32_eq_bmod,
    Int.bmod_mul_bmod]

theorem toInt_shiftRight (m : Int) (k : Nat) :
    ((word m).sshiftRight k).toInt = int32 m / 2 ^ k := by
  rw [BitVec.toInt_sshiftRight, toInt_word, Int.shiftRight_eq_div_pow]
  push_cast
  rfl

/-- Every bitwise operator makes of two words what the language says. -/
theorem exists_bitwise? (operator : Bitwise) : ∃ f, bitwise? operator.sign = some f ∧
    ∀ m n, (f (word m) (word n)).toInt = operator.result m n := by
  cases operator with
  | shiftLeft =>
      refine ⟨_, rfl, fun m n => ?_⟩
      rw [shiftCount_word, toInt_shiftLeft]
      rfl
  | shiftRight =>
      refine ⟨_, rfl, fun m n => ?_⟩
      rw [shiftCount_word, toInt_shiftRight]
      rfl
  | and => exact ⟨_, rfl, fun m n => toInt_combined fun i => BitVec.getLsbD_and⟩
  | or => exact ⟨_, rfl, fun m n => toInt_combined fun i => BitVec.getLsbD_or⟩
  | xor => exact ⟨_, rfl, fun m n => toInt_combined fun i => BitVec.getLsbD_xor⟩

/-! ## Evaluation -/

open Evaluation

theorem wholeOf_integer {n : Int} (safe : Value.isSafe n = true) :
    Gives (wholeOf (.integer n)) n := by
  have small : n.natAbs < 2 ^ 53 := by
    rw [Value.isSafe, decide_eq_true_eq, Value.maxSafeInteger] at safe
    exact Nat.lt_of_le_of_lt safe (by decide)
  obtain ⟨x, nearest⟩ := Number.exists_ofInteger? small
  simp only [wholeOf, toFloat, nearest, gives_bind, gives_pure]
  exact ⟨x, rfl, trivial⟩

/-- An operator on safe integers gives the result of the 32-bit specification. -/
theorem binary_bitwise (operator : Bitwise) {m n : Int} (safe : Value.isSafe m = true)
    (safe' : Value.isSafe n = true) :
    Gives (Operators.binary operator.sign (.integer m) (.integer n))
      (.integer (operator.result m n)) := by
  obtain ⟨f, found, makes⟩ := exists_bitwise? operator
  have applied : Operators.binary operator.sign (.integer m) (.integer n) =
      numeric operator.sign (.integer m) (.integer n) := by
    cases operator <;> rfl
  have plain : arithmetic? operator.sign = none ∧ comparison? operator.sign = none := by
    cases operator <;> exact ⟨rfl, rfl⟩
  rw [applied, numeric, plain.1, plain.2, found]
  simp only [gives_bind, gives_pure]
  exact ⟨m, wholeOf_integer safe, n, wholeOf_integer safe', by rw [makes]⟩

end Operators

namespace Expression

open Evaluation

/-- Bitwise operators on integers are exact: an expression with such an operator, whose operands
evaluate to integers of the range in which all integers are numbers, evaluates to the integer that
the language says, and that is an integer of 32 bits. -/
theorem evaluate_bitwise {context : Context} {depth : Nat} {resolving : List String} {t : Tree}
    {m n : Int} (operator : Script.Bitwise)
    (applies : Applies context depth resolving t (.integer m) (.integer n))
    (sign : operatorOf t = operator.sign) (safe : Value.isSafe m = true)
    (safe' : Value.isSafe n = true) :
    Gives (evaluate context (depth + 1) resolving t) (.integer (operator.result m n)) ∧
      -2 ^ 31 ≤ operator.result m n ∧ operator.result m n < 2 ^ 31 := by
  refine ⟨applies.gives ?_, ?_⟩
  · rw [sign]
    exact Operators.binary_bitwise operator safe safe'
  · obtain ⟨f, -, makes⟩ := Operators.exists_bitwise? operator
    rw [← makes]
    exact ⟨BitVec.le_toInt _, BitVec.toInt_lt⟩

namespace Masked

/-- A named node that may play a field. -/
def node (kind text : String) (field : Option String := none) (children : List Tree := []) : Tree :=
  .node { kind, text, start := 0, stop := 0, first := ⟨0, 0⟩, last := ⟨0, 0⟩, named := true,
          missing := false, field } children

/-- All bits of the largest integer that is a number, up to the sign of a word. -/
def masked : Tree :=
  node "binary_expression" "9007199254740991 & 2147483648" none
    [node "number" "9007199254740991" (some "left"), node "&" "&" (some "operator"),
      node "number" "2147483648" (some "right")]

theorem applies : Applies {} 1 [] masked (.integer 9007199254740991) (.integer 2147483648) :=
  ⟨⟨rfl, ⟨_, rfl, rfl⟩, nofun⟩, ⟨_, rfl, rfl⟩, rfl⟩

end Masked

open Masked in
/-- Both operands are longer than 32 bits, and the bit that is left is the sign. -/
theorem evaluate_bitwise_masked :
    Value.isSafe 9007199254740991 = true ∧ Value.isSafe 2147483648 = true ∧
      Gives (evaluate {} 2 [] masked) (.integer (-2147483648)) := by
  have exact := evaluate_bitwise .and applies rfl (by decide) (by decide)
  have sign : Script.Bitwise.and.result 9007199254740991 2147483648 = -2147483648 := by
    decide +kernel
  rw [sign] at exact
  exact ⟨by decide, by decide, exact.1⟩

end Expression

end TypeGloss
