import Mathlib.Data.List.Induction
import Mathlib.Data.Nat.Bitwise
import Mathlib.Tactic.Common

/-!
# Big endian integers

`bigEndian` is the number that some bytes stand for, with the highest first, and
`byteAbove` takes one of its bytes out. The bits of the number are those of the bytes, in
their places.
-/

namespace BigEndian

/-- The number that some bytes stand for, with the highest first. -/
def bigEndian (bytes : List UInt8) : Nat := bytes.foldl (fun n b => n * 256 + b.toNat) 0

/-- The byte of a number that `i` bytes follow. -/
def byteAbove (n i : Nat) : UInt8 := UInt8.ofNat (n / 256 ^ i)

theorem bigEndian_concat (bytes : List UInt8) (b : UInt8) :
    bigEndian (bytes ++ [b]) = bigEndian bytes * 256 + b.toNat := by
  unfold bigEndian
  rw [List.foldl_append]
  rfl

/-- Byte `j / 8` from the end has bit `j`. -/
theorem testBit_bigEndian (bytes : List UInt8) (j : Nat) :
    (bigEndian bytes).testBit j = (bytes.reverse.getD (j / 8) 0).toNat.testBit (j % 8) := by
  induction bytes using List.reverseRecOn generalizing j with
  | nil =>
    rw [List.reverse_nil, List.getD_nil]
    exact (Nat.zero_testBit j).trans (Nat.zero_testBit (j % 8)).symm
  | append_singleton bytes b ih =>
    have hbyte : b.toNat < 2 ^ 8 := b.toNat_lt
    rw [bigEndian_concat, Nat.mul_comm, Nat.testBit_two_pow_mul_add _ hbyte, List.reverse_append]
    by_cases hj : j < 8
    · rw [if_pos hj, Nat.div_eq_of_lt hj, Nat.mod_eq_of_lt hj]
      rfl
    · have hdiv : j / 8 = (j - 8) / 8 + 1 := by omega
      have hmod : j % 8 = (j - 8) % 8 := by omega
      rw [if_neg hj, ih, hdiv, hmod]
      rfl

theorem testBit_byteAbove (n i : Nat) {k : Nat} (hk : k < 8) :
    (byteAbove n i).toNat.testBit k = n.testBit (8 * i + k) := by
  have hpow : 256 ^ i = 2 ^ (8 * i) := by
    rw [Nat.pow_mul]
  unfold byteAbove
  rw [UInt8.toNat_ofNat', Nat.testBit_mod_two_pow, hpow, Nat.testBit_div_two_pow,
    Nat.add_comm]
  simp [hk]

end BigEndian
