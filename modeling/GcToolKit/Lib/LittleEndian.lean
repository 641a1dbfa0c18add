import Mathlib.Algebra.Group.Nat.Defs
import Mathlib.Tactic.Common

/-!
# Little endian integers

`le k n` is `n` in `k` bytes, lowest first; `ofLe` reads such bytes back. The
round trip loses exactly what does not fit.
-/

namespace LittleEndian

/-- The lowest `k` bytes of `n`, lowest first. -/
def le : (k : Nat) → Nat → List UInt8
  | 0, _ => []
  | k + 1, n => UInt8.ofNat n :: le k (n / 256)

/-- The number a list of bytes stands for. -/
def ofLe : List UInt8 → Nat
  | [] => 0
  | b :: bs => b.toNat + 256 * ofLe bs

/-- The number in `len` bytes of a list. -/
def ofLeAt (bs : List UInt8) (off len : Nat) : Nat := ofLe ((bs.drop off).take len)

@[simp] theorem length_le (k n : Nat) : (le k n).length = k := by
  induction k generalizing n with
  | zero => rfl
  | succ k ih => simp [le, ih]

theorem ofLe_le (k n : Nat) : ofLe (le k n) = n % 256 ^ k := by
  induction k generalizing n with
  | zero => simp [le, ofLe, Nat.mod_one]
  | succ k ih =>
    have hb : (UInt8.ofNat n).toNat = n % 256 := by simp
    rw [le, ofLe, ih, hb, Nat.pow_succ', Nat.mod_mul]

theorem ofLe_le_of_lt {k n : Nat} (h : n < 256 ^ k) : ofLe (le k n) = n := by
  rw [ofLe_le, Nat.mod_eq_of_lt h]

/-- `le` as a buffer of fixed size. -/
def leVec (k n : Nat) : Vector UInt8 k := ⟨(le k n).toArray, by simp⟩

@[simp] theorem toList_leVec (k n : Nat) : (leVec k n).toList = le k n := by
  simp [leVec, Vector.toList]

end LittleEndian
