import Mathlib.Data.Nat.Bitwise
import Mathlib.Tactic.Common

/-!
# Bit fields of a number

A mask takes a field out of a number, and fields that do not overlap are put together by
adding them.
-/

namespace BitFields

/-- A mask of the bits from `k` on. -/
theorem and_field (x j k : Nat) :
    x &&& (2 ^ j - 1) * 2 ^ k = x / 2 ^ k % 2 ^ j * 2 ^ k := by
  apply Nat.eq_of_testBit_eq
  intro i
  rw [Nat.testBit_and, Nat.testBit_mul_two_pow, Nat.testBit_mul_two_pow,
    Nat.testBit_two_pow_sub_one, Nat.testBit_mod_two_pow, Nat.testBit_div_two_pow]
  by_cases hlow : k ≤ i
  · have hback : i - k + k = i := by omega
    rw [hback, Bool.and_left_comm]
    cases x.testBit i with
    | true => simp [hlow]
    | false => simp
  · simp [hlow]

/-- The bits below `k` are free. -/
theorem or_field (a : Nat) {b k : Nat} (h : b < 2 ^ k) : a * 2 ^ k ||| b = a * 2 ^ k + b := by
  rw [Nat.mul_comm]
  exact (Nat.two_pow_add_eq_or_of_lt h a).symm

/-- Four bytes in their places. -/
theorem or_bytes {a b c d : Nat} (hb : b < 256) (hc : c < 256) (hd : d < 256) :
    a * 2 ^ 24 ||| b * 2 ^ 16 ||| c * 2 ^ 8 ||| d = ((a * 256 + b) * 256 + c) * 256 + d := by
  have hfirst : a * 2 ^ 24 ||| b * 2 ^ 16 = (a * 256 + b) * 2 ^ 16 := by
    rw [or_field a (by omega)]
    omega
  have hsecond : (a * 256 + b) * 2 ^ 16 ||| c * 2 ^ 8 = ((a * 256 + b) * 256 + c) * 2 ^ 8 := by
    rw [or_field (a * 256 + b) (by omega)]
    omega
  rw [hfirst, hsecond, or_field _ (by omega)]
  rfl

end BitFields
