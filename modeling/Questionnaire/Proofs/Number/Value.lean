import Mathlib.Algebra.Order.Field.Power
import Mathlib.Algebra.Order.Field.Rat
import Questionnaire.Number.Typed

/-! # Numbers by value

An integer and a double are equal by value when they are the same rational number. Then they have
the same key, as long as the integer is one of the signed 64-bit integers
(`Number.keyText_of_toRat`). -/

namespace Questionnaire.Number

/-! ### Doubles -/

namespace Binary64

/-- The value of a double. -/
def toRat (x : Binary64) : ℚ :=
  (if x.negative then -1 else 1) * (x.mantissa * 2 ^ x.exponent)

theorem zpow_eq_div {a : ℚ} (ha : a ≠ 0) (e : ℤ) : a ^ e = a ^ e.toNat / a ^ (-e).toNat := by
  rw [← zpow_natCast, ← zpow_natCast, ← zpow_sub₀ ha, Int.toNat_sub_toNat_neg]

theorem two_zpow_eq_div (e : ℤ) : (2 : ℚ) ^ e = 2 ^ e.toNat / 2 ^ (-e).toNat :=
  zpow_eq_div two_ne_zero e

/-- A double with a whole value, without fractions. -/
theorem scaled_of_toRat {x : Binary64} {n : ℤ} (h : x.toRat = n) :
    (if x.negative then -1 else 1) * ((x.mantissa * 2 ^ x.exponent.toNat : ℕ) : ℤ) =
      n * (2 ^ (-x.exponent).toNat : ℕ) := by
  unfold toRat at h
  rw [two_zpow_eq_div, ← mul_div_assoc, ← mul_div_assoc,
    div_eq_iff (pow_ne_zero _ two_ne_zero)] at h
  exact_mod_cast h

theorem natAbs_of_toRat {x : Binary64} {n : ℤ} (h : x.toRat = n) :
    x.mantissa * 2 ^ x.exponent.toNat = n.natAbs * 2 ^ (-x.exponent).toNat := by
  have hscaled := congrArg Int.natAbs (scaled_of_toRat h)
  rw [Int.natAbs_mul, Int.natAbs_mul, Int.natAbs_natCast, Int.natAbs_natCast] at hscaled
  split at hscaled <;> simpa using hscaled

theorem wholePart_of_toRat {x : Binary64} {n : ℤ} (h : x.toRat = n) :
    x.wholePart = n.natAbs := by
  unfold wholePart
  rw [Nat.shiftLeft_eq, Nat.shiftRight_eq_div_pow, natAbs_of_toRat h]
  exact Nat.mul_div_cancel _ (Nat.two_pow_pos _)

theorem isIntegral_of_toRat {x : Binary64} {n : ℤ} (h : x.toRat = n) : x.isIntegral = true := by
  unfold isIntegral
  rw [Nat.shiftLeft_eq, one_mul, beq_iff_eq]
  rcases Int.le_total 0 x.exponent with he | he
  · rw [Int.toNat_of_nonpos (Int.neg_nonpos_of_nonneg he), pow_zero, Nat.mod_one]
  · have hmantissa := natAbs_of_toRat h
    rw [Int.toNat_of_nonpos he, pow_zero, mul_one] at hmantissa
    rw [hmantissa, Nat.mul_mod_left]

/-- **A double with a whole value is converted to it.** -/
theorem toInt_of_toRat {x : Binary64} {n : ℤ} (h : x.toRat = n) : x.toInt = n := by
  have hscaled := scaled_of_toRat h
  have hpos : (0 : ℤ) < (2 ^ (-x.exponent).toNat : ℕ) :=
    Int.natCast_pos.mpr (Nat.two_pow_pos _)
  unfold toInt
  rw [wholePart_of_toRat h]
  split
  · next hnegative =>
    rw [if_pos hnegative] at hscaled
    have hle : n ≤ 0 := by
      by_contra hlt
      have := mul_pos (Int.not_le.mp hlt) hpos
      omega
    omega
  · next hnegative =>
    rw [if_neg hnegative, one_mul] at hscaled
    have hle : 0 ≤ n := by
      by_contra hlt
      have := mul_neg_of_neg_of_pos (Int.not_le.mp hlt) hpos
      omega
    omega

theorem keyText_of_toRat {x : Binary64} {n : ℤ} (h : x.toRat = n) (hlow : -(1 <<< 63) ≤ n)
    (hhigh : n ≤ 1 <<< 63 - 1) : x.keyText = toString n := by
  unfold keyText
  rw [toInt_of_toRat h, if_pos ⟨isIntegral_of_toRat h, hlow, by omega⟩, min_eq_left hhigh]

/-- The least number above the signed integers has the key of the greatest of them. -/
theorem keyText_of_bound {x : Binary64} {n : ℤ} (h : x.toRat = n) (hn : n = 2 ^ 63) :
    x.keyText = toString (n - 1) := by
  unfold keyText
  rw [toInt_of_toRat h, hn]
  exact if_pos ⟨isIntegral_of_toRat h, by decide, by decide⟩

end Binary64

/-! ### Numbers -/

/-- The value of a number. -/
def toRat : Number → ℚ
  | .integer n _ => n
  | .double x => x.toRat

/-- **Numbers that equal an integer have its key.** -/
theorem keyText_of_toRat {x : Number} {n : ℤ} (h : x.toRat = n) (hlow : -(1 <<< 63) ≤ n)
    (hhigh : n ≤ 1 <<< 63 - 1) : x.keyText = toString n := by
  cases x with
  | integer m _ => exact congrArg toString (Rat.intCast_inj.mp h)
  | double x => exact Binary64.keyText_of_toRat h hlow hhigh

end Questionnaire.Number
