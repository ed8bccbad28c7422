import Mathlib.Data.Int.Log
import Mathlib.Data.Rat.Floor
import Mathlib.Tactic.Linarith
import Mathlib.Tactic.NormNum
import Mathlib.Tactic.Positivity

/-!
# The nearest double

The value of a number that is not negative in the binary format of 53 bits: the multiple of
its unit in the last place that is nearest to it, of two the one with an even significand,
and infinity where that is too large.  Integers below `2 ^ 53` are values of the format.
-/

namespace MandatePlane.NearestDouble

/-- The nearest integer, and of two the even one. -/
def roundHalfEven (x : ℚ) : ℤ :=
  if x - ⌊x⌋ < 1 / 2 then ⌊x⌋
  else if 1 / 2 < x - ⌊x⌋ then ⌊x⌋ + 1
  else if ⌊x⌋ % 2 = 0 then ⌊x⌋
  else ⌊x⌋ + 1

/-- The exponent of the unit in the last place. -/
def ulpExponent (x : ℚ) : ℤ := max (-1074) (Int.log 2 x - 52)

/-- The double nearest to a number that is not negative, which may be infinite. -/
def nearestDouble (x : ℚ) : WithTop ℚ :=
  let ulp : ℚ := 2 ^ ulpExponent x
  let y : ℚ := roundHalfEven (x / ulp) * ulp
  if 2 ^ 1024 ≤ y then ⊤ else y

@[simp] theorem roundHalfEven_intCast (m : ℤ) : roundHalfEven m = m := by
  unfold roundHalfEven
  rw [Int.floor_intCast, sub_self, if_pos (by norm_num)]

/-- The unit in the last place divides the integers below `2 ^ 53`. -/
theorem ulpExponent_nonpos {n : ℕ} (h : n < 2 ^ 53) : ulpExponent n ≤ 0 := by
  have hlog : Nat.log 2 n ≤ 52 := by
    rcases Nat.eq_zero_or_pos n with rfl | hpos
    · exact Nat.zero_le 52
    · exact Nat.le_of_lt_succ (Nat.log_lt_of_lt_pow hpos.ne' h)
  unfold ulpExponent
  rw [Int.log_natCast]
  exact max_le (by decide) (by omega)

/-- **An integer below `2 ^ 53` is its own nearest double.** -/
theorem nearestDouble_natCast {n : ℕ} (h : n < 2 ^ 53) :
    nearestDouble n = ((n : ℚ) : WithTop ℚ) := by
  obtain ⟨k, hk⟩ := Int.exists_eq_neg_ofNat (ulpExponent_nonpos h)
  have hdivided : (n : ℚ) / 2 ^ ulpExponent n = ((n * 2 ^ k : ℕ) : ℤ) := by
    rw [hk, zpow_neg, div_inv_eq_mul, zpow_natCast]
    push_cast
    rfl
  have hback : (((n * 2 ^ k : ℕ) : ℤ) : ℚ) * 2 ^ ulpExponent n = n := by
    rw [← hdivided]
    exact div_mul_cancel₀ _ (zpow_ne_zero _ two_ne_zero)
  have hsmall : ¬ (2 : ℚ) ^ 1024 ≤ n := by
    rw [not_le]
    calc (n : ℚ) < 2 ^ 53 := by exact_mod_cast h
      _ ≤ 2 ^ 1024 := by gcongr <;> norm_num
  unfold nearestDouble
  simp only [hdivided, roundHalfEven_intCast, hback, if_neg hsmall]

end MandatePlane.NearestDouble
