/-
# TypeGloss.Proofs.Number.Finite — integers that are nearest to a finite number

The nearest number to an integer is infinite only for large integers. For an integer below
`2 ^ 53` it is finite (`exists_ofInteger?`), so whatever is done with such an integer as a number
does not fail for its size.

Numbers are packed in 64 bits, and a number that is out of reach of the format is packed as an
infinity. `InReach k e x` bounds the digits of the mantissa and the exponent of an unpacked number.
The bounds here are generous: each operation adds to them at most once, and the format has room
for exponents up to 971.
-/
import Mathlib
import TypeGloss.Number.Binary

namespace TypeGloss.Number

set_option autoImplicit false

open Float.Model Float.Model.UnpackedFloat

/-! ## Rounding -/

theorem log2_lt_of_lt_two_pow {k m : Nat} (positive : 0 < k) (small : m < 2 ^ k) : m.log2 < k := by
  rcases Nat.eq_zero_or_pos m with rfl | inside
  · simpa using positive
  · exact (Nat.log2_lt (Nat.pos_iff_ne_zero.1 inside)).2 small

theorem mantissa_shiftRight_le (m : ExtendedMantissa) (n : Nat) :
    (m >>> n).mantissa ≤ m.mantissa := by
  change (n.repeat ExtendedMantissa.shiftRightOne m).mantissa ≤ m.mantissa
  induction n with
  | zero => exact Nat.le_refl _
  | succ n ih => exact Nat.le_trans (Nat.div_le_self _ 2) ih

theorem roundedMantissa_le (m : ExtendedMantissa) : m.roundedMantissa ≤ m.mantissa + 1 := by
  have rounded (n : Nat) (accuracy : Accuracy) : accuracy.roundToNearestEven n ≤ n + 1 := by
    unfold Accuracy.roundToNearestEven
    split <;> omega
  exact rounded _ _

theorem mantissa_ofMantissaAndAccuracy (m : Nat) (accuracy : Accuracy) :
    (ExtendedMantissa.ofMantissaAndAccuracy m accuracy).mantissa = m := by
  unfold ExtendedMantissa.ofMantissaAndAccuracy
  split <;> rfl

/-- A shift to the exponent of the format makes the mantissa no longer, and the exponent larger
only where the mantissa is too long. -/
theorem shiftToTargetExponent_le {k m : Nat} {e : Int} (accuracy : Accuracy) (positive : 0 < k)
    (small : m < 2 ^ k) :
    (shiftToTargetExponent .binary64 m e accuracy).1.mantissa ≤ m ∧
      (shiftToTargetExponent .binary64 m e accuracy).2 ≤ max (e + k) (-1074) := by
  have digits := log2_lt_of_lt_two_pow positive small
  constructor
  · exact Nat.le_trans (mantissa_shiftRight_le _ _)
      (Nat.le_of_eq (mantissa_ofMantissaAndAccuracy m accuracy))
  · change e + ((max (totalExponent m e - 53) (-1074) - e).toNat : Int) ≤ _
    unfold totalExponent
    omega

/-! ## Unpacked numbers -/

/-- Not infinite, with a mantissa of at most so many digits and an exponent of at most so much. -/
def InReach (k : Nat) (e : Int) : UnpackedFloat → Prop
  | .infinity _ => False
  | .finite _ m e' _ => m < 2 ^ k ∧ e' ≤ e
  | _ => True

variable {k k' : Nat} {e e' : Int} {x y : UnpackedFloat}

theorem InReach.isInf_eq_false (reach : InReach k e x) : x.isInf = false := by
  cases x with
  | infinity => exact reach.elim
  | _ => rfl

/-- Rounding keeps within the reach of the format. -/
theorem inReach_roundWithAccuracy {m : Nat} {e' : Int} (s : Sign) (positive : 0 < k)
    (small : m < 2 ^ k) (low : e' ≤ e) (above : -1074 ≤ e) (accuracy : Accuracy) :
    InReach (k + 1) (e + (2 * k + 1)) (roundWithAccuracy .binary64 s m e' accuracy) := by
  obtain ⟨first, shifted⟩ := shiftToTargetExponent_le (e := e') accuracy positive small
  unfold roundWithAccuracy
  generalize shiftToTargetExponent .binary64 m e' accuracy = once at *
  obtain ⟨m₁, e₁⟩ := once
  dsimp only at first shifted ⊢
  have longer : m₁.roundedMantissa < 2 ^ (k + 1) := by
    have rounded := roundedMantissa_le m₁
    have doubled : 2 ^ (k + 1) = 2 ^ k * 2 := Nat.pow_succ 2 k
    omega
  -- Rounding up may have made one digit more, so the mantissa is shifted once again.
  obtain ⟨second, shifted'⟩ :=
    shiftToTargetExponent_le (e := e₁) .exact (Nat.succ_pos k) longer
  split
  · trivial
  · exact ⟨Nat.lt_of_le_of_lt second longer, by push_cast at shifted'; omega⟩

/-- The product of two numbers in reach is in reach of a wider bound. -/
theorem inReach_mul (reach : InReach k e x) (reach' : InReach k' e' y) (positive : 0 < k)
    (above : -1074 ≤ e + e') :
    InReach (k + k' + 1) (e + e' + (2 * ↑(k + k') + 1)) (mul .binary64 x y) := by
  cases x with
  | infinity => exact reach.elim
  | finite s m d positive₁ =>
      cases y with
      | infinity => exact reach'.elim
      | finite s' m' d' positive₂ =>
          have product : m * m' < 2 ^ (k + k') := by
            rw [Nat.pow_add]
            exact Nat.mul_lt_mul'' reach.1 reach'.1
          exact inReach_roundWithAccuracy _ (Nat.add_pos_left positive k') product
            (Int.add_le_add reach.2 reach'.2) above _
      | _ => trivial
  | _ => cases y <;> trivial

theorem inReach_ofNat {n : Nat} (small : n < 2 ^ 53) :
    InReach 106 211 (UnpackedFloat.ofNat .binary64 n) := by
  rcases Nat.eq_zero_or_pos n with rfl | positive
  · trivial
  · have above : compare (n : Int) 0 = .gt := Int.compare_eq_gt.2 (Int.natCast_pos.2 positive)
    change InReach 106 211 (UnpackedFloat.normalize .binary64 n 0 .positive)
    unfold UnpackedFloat.normalize
    rw [above]
    change InReach 106 211 (roundWithAccuracy .binary64 .positive
      (n <<< (0 - max (totalExponent n 0 - 53) (-1074)).toNat)
      (0 - ((0 - max (totalExponent n 0 - 53) (-1074)).toNat : Int)) .exact)
    have shift : (0 - max (totalExponent n 0 - 53) (-1074)).toNat ≤ 52 := by
      unfold totalExponent
      omega
    generalize (0 - max (totalExponent n 0 - 53) (-1074)).toNat = shifted at *
    have wide : n <<< shifted < 2 ^ 105 := by
      rw [Nat.shiftLeft_eq]
      calc n * 2 ^ shifted ≤ n * 2 ^ 52 :=
            Nat.mul_le_mul_left n (Nat.pow_le_pow_right (by decide) shift)
        _ < 2 ^ 53 * 2 ^ 52 := (Nat.mul_lt_mul_right (by decide)).2 small
        _ = 2 ^ 105 := by decide
    exact inReach_roundWithAccuracy (k := 105) (e := 0) .positive (by decide) wide (by omega)
      (by decide) .exact

/-! ## Packed numbers -/

/-- What is packed with an exponent that is not the one of the infinities is finite. -/
theorem inReach_unpack {s : Sign} {exponent : BitVec 11} {m : BitVec 52}
    (finite : exponent ≠ -1#11) (low : -1074 ≤ e) (high : (exponent.toNat : Int) - 1075 ≤ e) :
    InReach 53 e (UnpackedFloat.unpack .binary64 (packComponents .binary64 s exponent m)) := by
  unfold UnpackedFloat.unpack
  simp only [unpackExponent_packComponents, unpackMantissa_packComponents, if_neg finite]
  split
  · next zero =>
    split
    · trivial
    · subst zero
      exact ⟨Nat.lt_trans m.isLt (by decide), low⟩
  · exact ⟨BitVec.isLt _, high⟩

/-- Packing keeps what is in reach of the format. -/
theorem InReach.pack (reach : InReach k e x) (low : -1074 ≤ e) (high : e ≤ 971) :
    InReach 53 e (Float.Model.pack x).unpack := by
  change InReach 53 e (UnpackedFloat.unpack .binary64 (UnpackedFloat.pack .binary64 x))
  cases x with
  | infinity => exact reach.elim
  | notANumber => trivial
  | zero s => exact inReach_unpack (by decide) low (Int.le_trans (by decide) low)
  | finite s m d positive =>
      have exponent : d ≤ e := reach.2
      have bias : ((Format.exponentBias .binary64 : Nat) : Int) = 1023 := by decide
      unfold UnpackedFloat.pack
      simp only [bias]
      generalize biased : (d + 1023 + (52 : Nat)).toNat = b
      have inRange : b < 2 ^ 11 - 1 := by omega
      rw [if_neg (by omega)]
      split
      · have packed : (BitVec.ofNat 11 b).toNat = b := by
          rw [BitVec.toNat_ofNat, Nat.mod_eq_of_lt (by omega)]
        refine inReach_unpack (fun same => ?_) low (by omega)
        rw [same] at packed
        exact absurd packed (by rw [show (-1#11).toNat = 2 ^ 11 - 1 from rfl]; omega)
      · exact inReach_unpack (by decide) low (Int.le_trans (by decide) low)

/-- The nearest number to an integer below `2 ^ 53` is finite. -/
theorem exists_ofInteger? {n : Int} (small : n.natAbs < 2 ^ 53) : ∃ x, ofInteger? n = some x := by
  have one : InReach 53 0 (Float.ofBits 0x3FF0000000000000).toModel.unpack := by
    change InReach 53 0 (.finite .positive (2 ^ 52) (-52) (by decide))
    exact ⟨by decide, by decide⟩
  have word : n.natAbs.toUInt64.toNat = n.natAbs := by
    rw [Nat.toUInt64, UInt64.toNat_ofNat', Nat.mod_eq_of_lt (by omega)]
  have number : InReach 53 211 n.natAbs.toUInt64.toFloat.toModel.unpack := by
    refine InReach.pack (k := 106) ?_ (by decide) (by decide)
    change InReach 106 211 (UnpackedFloat.ofNat .binary64 n.natAbs.toUInt64.toNat)
    rw [word]
    exact inReach_ofNat small
  have finite : (Float.ofScientific n.natAbs false 0).isInf = false := by
    rw [Float.ofScientific, dif_pos ⟨small, by decide⟩]
    have product := (inReach_mul number one (by decide) (by decide)).pack (by decide) (by decide)
    exact product.isInf_eq_false
  rw [ofInteger?]
  exact ⟨_, if_neg (by rw [finite]; decide)⟩

end TypeGloss.Number
