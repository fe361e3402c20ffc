import Mathlib
import RestService.Decimal.Binary

set_option autoImplicit false

namespace RestService.Decimal

open Float.Model Float.Model.UnpackedFloat

theorem isFinite_unpack {bits : BitVec Format.binary64.numBits}
    (inner : @unpackExponent Format.binary64 bits ≠ -1#_) :
    (UnpackedFloat.unpack Format.binary64 bits).isFinite = true := by
  unfold UnpackedFloat.unpack
  simp only
  rw [if_neg inner]
  split
  · split <;> rfl
  · rfl

/-- A number whose exponent is far from the largest one stays finite in 64 bits. -/
theorem isFinite_pack {sign : Sign} {mantissa : Nat} {exponent : Int} (positive : 0 < mantissa)
    (range : exponent < 900) :
    (UnpackedFloat.unpack Format.binary64
      (UnpackedFloat.pack Format.binary64 (.finite sign mantissa exponent positive))).isFinite
      = true := by
  have bias : Format.binary64.exponentBias = 1023 := by decide
  have biased : (exponent + 1023 + 52).toNat + 1 < 2048 := by omega
  have outside : ¬2048 ≤ (exponent + 1023 + 52).toNat + 1 := by omega
  apply isFinite_unpack
  unfold UnpackedFloat.pack
  simp only [bias]
  rw [if_neg (by exact outside)]
  split
  · rw [unpackExponent_packComponents]
    intro same
    have number := congrArg BitVec.toNat same
    have small : (exponent + 1023 + 52).toNat < 2048 := by omega
    simp only [BitVec.toNat_ofNat, BitVec.neg_one_eq_allOnes, BitVec.toNat_allOnes] at number
    change (exponent + 1023 + 52).toNat % 2048 = 2047 at number
    rw [Nat.mod_eq_of_lt small] at number
    omega
  · rw [unpackExponent_packComponents]
    decide

theorem mantissa_shiftRight_le (em : ExtendedMantissa) (n : Nat) :
    (em >>> n).mantissa ≤ em.mantissa := by
  change (n.repeat ExtendedMantissa.shiftRightOne em).mantissa ≤ em.mantissa
  induction n with
  | zero => exact Nat.le_refl _
  | succ n ih =>
    rw [Nat.repeat]
    have halved : (n.repeat ExtendedMantissa.shiftRightOne em).mantissa / 2
        ≤ (n.repeat ExtendedMantissa.shiftRightOne em).mantissa := Nat.div_le_self _ _
    exact Nat.le_trans halved ih

theorem roundedMantissa_le (em : ExtendedMantissa) : em.roundedMantissa ≤ em.mantissa + 1 := by
  unfold ExtendedMantissa.roundedMantissa
  cases em.accuracy with
  | exact => exact Nat.le_succ _
  | inexact order =>
    cases order with
    | lt => exact Nat.le_succ _
    | eq =>
      have bit : em.mantissa % 2 < 2 := Nat.mod_lt _ (by decide)
      change em.mantissa + em.mantissa % 2 ≤ em.mantissa + 1
      omega
    | gt => exact Nat.le_refl _

theorem log2_le {m bits : Nat} (small : m < Nat.pow 2 (bits + 1)) : m.log2 ≤ bits := by
  by_cases zero : m = 0
  · rw [zero, Nat.log2_zero]
    exact Nat.zero_le bits
  · have below : m.log2 < bits + 1 := (Nat.log2_lt zero).2 small
    omega

/-- A shift to the exponent that the format wants for a number of few digits. -/
theorem shift_bounds (bits : Nat) (limit : Int) {mantissa : Nat} {exponent : Int}
    (accuracy : Accuracy) (small : mantissa.log2 ≤ bits) (start : exponent ≤ limit)
    (wanted : bits + exponent - 52 ≤ limit) (least : -1074 ≤ limit) :
    (shiftToTargetExponent Format.binary64 mantissa exponent accuracy).1.mantissa ≤ mantissa
      ∧ (shiftToTargetExponent Format.binary64 mantissa exponent accuracy).2 ≤ limit := by
  have digits : Format.binary64.mantissaBits = 53 := by decide
  have lowest : Format.binary64.minExponent = -1074 := by decide
  unfold shiftToTargetExponent shiftToExponent
  simp only [Format.targetExponent, totalExponent, digits, lowest]
  constructor
  · have first :
        (ExtendedMantissa.ofMantissaAndAccuracy mantissa accuracy).mantissa = mantissa := by
      cases accuracy with
      | exact => rfl
      | inexact order => cases order <;> rfl
    exact Nat.le_trans (mantissa_shiftRight_le _ _) (Nat.le_of_eq first)
  · have bound : max ((mantissa.log2 : Int) + 1 + exponent - (53 : Nat)) (-1074) ≤ limit := by
      refine Int.max_le.2 ⟨?_, least⟩
      omega
    omega

/-- Rounding takes a number of at most 117 binary digits nowhere near infinity. -/
theorem isFinite_round {sign : Sign} {mantissa : Nat} {start : Int}
    (small : mantissa < Nat.pow 2 117) (same : start = -53) :
    (UnpackedFloat.unpack Format.binary64 (UnpackedFloat.pack Format.binary64
      (roundWithAccuracy Format.binary64 sign mantissa start .exact))).isFinite = true := by
  subst same
  unfold roundWithAccuracy
  have first := shift_bounds 116 12 .exact (log2_le small) (show (-53 : Int) ≤ 12 by decide)
    (by decide) (by decide)
  rcases shifted : shiftToTargetExponent Format.binary64 mantissa (-53) .exact with ⟨em, exponent⟩
  rw [shifted] at first
  have rounded : em.roundedMantissa < Nat.pow 2 118 := by
    have le := roundedMantissa_le em
    have room : Nat.pow 2 117 + 1 < Nat.pow 2 118 := by decide
    have low : em.mantissa ≤ mantissa := first.1
    omega
  have low : exponent ≤ 12 := first.2
  have second := shift_bounds 117 78 .exact (log2_le rounded) (show exponent ≤ 78 by omega)
    (by omega) (by decide)
  rcases again : shiftToTargetExponent Format.binary64 em.roundedMantissa exponent .exact
    with ⟨last, exponent'⟩
  rw [again] at second
  simp only [again]
  split
  · apply isFinite_unpack
    rw [UnpackedFloat.pack, packedZero, unpackExponent_packComponents]
    decide
  · have range : exponent' ≤ 78 := second.2
    exact isFinite_pack _ (by omega)

/-- Numbers that fit 64 bits, but not with a sign, are finite. -/
theorem isFinite_ofInt {n : Nat} (large : twoTo 63 ≤ n) (small : n < twoTo 64) :
    (ofInt n).isFinite = true := by
  have slow : ¬(n < 2 ^ 53 ∧ 0 ≤ 22) := by
    have order : 2 ^ 53 ≤ twoTo 63 := by decide
    omega
  have nonzero : n ≠ 0 := by
    have order : 0 < twoTo 63 := by decide
    omega
  have range : (2 ^ Format.binary64.exponentBits : Int) = 2048 := by decide
  have digits : Format.binary64.mantissaBits = 53 := by decide
  have product : n <<< 53 * 10 ^ (0 : Int).toNat < Nat.pow 2 117 := by
    have power : Nat.pow 2 117 = twoTo 64 * 2 ^ 53 := by decide
    rw [Nat.shiftLeft_eq, Int.toNat_zero, Nat.pow_zero, Nat.mul_one, power]
    exact Nat.mul_lt_mul_of_pos_right small (by decide)
  change (Float.ofScientific n false 0).isFinite = true
  unfold Float.ofScientific
  rw [dif_neg slow]
  change (Float.Model.ofScientific n 0).isFinite = true
  unfold Float.Model.ofScientific Float.Model.isFinite Float.Model.unpack Float.Model.pack
  unfold UnpackedFloat.ofScientific
  rw [dif_neg nonzero, if_neg (by rw [range]; decide), if_neg (by rw [range]; omega),
    if_pos (by decide), UnpackedFloat.mul]
  simp only [digits]
  exact isFinite_round product (by decide)

end RestService.Decimal
