import GcToolKit.Lib.ByteBuf

/-!
# Cipher block chaining, in place

CBC over a range of a buffer, for any block size and any element type. The
block transformations `E` and `D` and the mixing operation `mix` are
parameters; the only facts used are that `D` undoes `E` and that mixing twice
with the same block changes nothing.

* `cbcEncrypt`, `cbcDecrypt` — the loops, one block per iteration;
* `cbcDecrypt_cbcEncrypt` — decryption undoes encryption;
* `cbcEncrypt_splice`, `cbcDecrypt_splice` — frame rules: a write outside the
  range commutes with the loop;
* `splice_cbcEncrypt_last` — a block that is overwritten afterwards need not
  have been encrypted;
* `cbcDecrypt_eq_self_iff` — which buffers decryption leaves as they are.
-/

namespace Cbc

open ByteBuf

variable {α : Type} {n bs : Nat}

/-- A block of `bs` elements. -/
abbrev Block (α : Type) (bs : Nat) := Vector α bs

section Loops

variable (mix : Block α bs → Block α bs → Block α bs)

/-- Encrypt `k` blocks of `b` from `off` on: each block is mixed with the
previous ciphertext block, the first one with `iv`. -/
def cbcEncrypt (E : Block α bs → Block α bs) :
    (k : Nat) → (b : Vector α n) → (iv : Block α bs) → (off : Nat) → off + bs * k ≤ n →
      Vector α n
  | 0, b, _, _, _ => b
  | k + 1, b, iv, off, h =>
      have hk : off + bs + bs * k ≤ n := by rw [Nat.mul_succ] at h; omega
      let c := E (mix (slice b off bs (by omega)) iv)
      cbcEncrypt E k (splice b off c (by omega)) c (off + bs) hk

/-- Decrypt `k` blocks of `b` from `off` on: each block is mixed with the
previous ciphertext block after the inverse transformation. -/
def cbcDecrypt (D : Block α bs → Block α bs) :
    (k : Nat) → (b : Vector α n) → (iv : Block α bs) → (off : Nat) → off + bs * k ≤ n →
      Vector α n
  | 0, b, _, _, _ => b
  | k + 1, b, iv, off, h =>
      have hk : off + bs + bs * k ≤ n := by rw [Nat.mul_succ] at h; omega
      let next := slice b off bs (by omega)
      cbcDecrypt D k (splice b off (mix (D next) iv) (by omega)) next (off + bs) hk

variable {mix}

/-! ## Frame rules -/

/-- The encryption loop writes its own range only. -/
theorem getElem_cbcEncrypt_outside {E : Block α bs → Block α bs} (k : Nat) (b : Vector α n)
    (iv : Block α bs) (off : Nat) (h : off + bs * k ≤ n) (i : Nat) (hi : i < n)
    (hout : i < off ∨ off + bs * k ≤ i) : (cbcEncrypt mix E k b iv off h)[i] = b[i] := by
  induction k generalizing b iv off with
  | zero => rfl
  | succ k ih =>
    have hmul : bs * (k + 1) = bs * k + bs := Nat.mul_succ bs k
    have hr : ¬ (off ≤ i ∧ i < off + bs) := by omega
    rw [cbcEncrypt, ih _ _ _ _ (by omega), getElem_splice, dif_neg hr]

theorem slice_cbcEncrypt_outside {E : Block α bs → Block α bs} (k : Nat) (b : Vector α n)
    (iv : Block α bs) (off : Nat) (h : off + bs * k ≤ n) (off' len : Nat)
    (h' : off' + len ≤ n) (hd : off' + len ≤ off ∨ off + bs * k ≤ off') :
    slice (cbcEncrypt mix E k b iv off h) off' len h' = slice b off' len h' := by
  ext i hi
  simp only [getElem_slice]
  exact getElem_cbcEncrypt_outside k b iv off h (off' + i) (by omega) (by omega)

/-- A write outside the range commutes with encryption. -/
theorem cbcEncrypt_splice {E : Block α bs → Block α bs} {m : Nat} (k : Nat) (b : Vector α n)
    (iv : Block α bs) (off : Nat) (h : off + bs * k ≤ n) (off' : Nat) (v : Vector α m)
    (h' : off' + m ≤ n) (hd : off' + m ≤ off ∨ off + bs * k ≤ off') :
    cbcEncrypt mix E k (splice b off' v h') iv off h =
      splice (cbcEncrypt mix E k b iv off h) off' v h' := by
  induction k generalizing b iv off with
  | zero => rfl
  | succ k ih =>
    have hmul : bs * (k + 1) = bs * k + bs := Nat.mul_succ bs k
    have hs : slice (splice b off' v h') off bs (by omega) = slice b off bs (by omega) :=
      slice_splice_disjoint _ _ _ _ _ _ _ (by omega)
    rw [cbcEncrypt, cbcEncrypt]
    simp only [hs]
    rw [splice_comm _ _ _ _ _ _ _ (by omega), ih _ _ _ _ (by omega)]

/-- A write outside the range commutes with decryption. -/
theorem cbcDecrypt_splice {D : Block α bs → Block α bs} {m : Nat} (k : Nat) (b : Vector α n)
    (iv : Block α bs) (off : Nat) (h : off + bs * k ≤ n) (off' : Nat) (v : Vector α m)
    (h' : off' + m ≤ n) (hd : off' + m ≤ off ∨ off + bs * k ≤ off') :
    cbcDecrypt mix D k (splice b off' v h') iv off h =
      splice (cbcDecrypt mix D k b iv off h) off' v h' := by
  induction k generalizing b iv off with
  | zero => rfl
  | succ k ih =>
    have hmul : bs * (k + 1) = bs * k + bs := Nat.mul_succ bs k
    have hs : slice (splice b off' v h') off bs (by omega) = slice b off bs (by omega) :=
      slice_splice_disjoint _ _ _ _ _ _ _ (by omega)
    rw [cbcDecrypt, cbcDecrypt]
    simp only [hs]
    rw [splice_comm _ _ _ _ _ _ _ (by omega), ih _ _ _ _ (by omega)]

/-! ## Round trip -/

/-- Decryption undoes encryption. The induction follows the loop: the block
encrypted first is read back unchanged, because the rest of the loop writes
behind it, and restoring it commutes with that rest. -/
theorem cbcDecrypt_cbcEncrypt {E D : Block α bs → Block α bs} (hinv : ∀ x, D (E x) = x)
    (hmix : ∀ x y, mix (mix x y) y = x) (k : Nat) (b : Vector α n) (iv : Block α bs)
    (off : Nat) (h : off + bs * k ≤ n) :
    cbcDecrypt mix D k (cbcEncrypt mix E k b iv off h) iv off h = b := by
  induction k generalizing b iv off with
  | zero => rfl
  | succ k ih =>
    have hmul : bs * (k + 1) = bs * k + bs := Nat.mul_succ bs k
    rw [cbcEncrypt, cbcDecrypt]
    generalize hc : E (mix (slice b off bs (by omega)) iv) = c
    have hread : slice (cbcEncrypt mix E k (splice b off c (by omega)) c (off + bs) (by omega))
        off bs (by omega) = c := by
      rw [slice_cbcEncrypt_outside _ _ _ _ _ _ _ _ (by omega), slice_splice_same]
    have hplain : mix (D c) iv = slice b off bs (by omega) := by
      rw [← hc, hinv, hmix]
    rw [hread, hplain, ← cbcEncrypt_splice _ _ _ _ _ _ _ _ (by omega), splice_splice_same,
      splice_slice_self]
    exact ih b c (off + bs) (by omega)

/-- Overwriting the last block forgets that it was encrypted. -/
theorem splice_cbcEncrypt_last {E : Block α bs → Block α bs} (k : Nat) (b : Vector α n)
    (iv : Block α bs) (off : Nat) (h : off + bs * (k + 1) ≤ n) (v : Block α bs)
    (hlast : off + bs * k + bs ≤ n) :
    splice (cbcEncrypt mix E (k + 1) b iv off h) (off + bs * k) v hlast =
      splice (cbcEncrypt mix E k b iv off (by omega)) (off + bs * k) v hlast := by
  induction k generalizing b iv off with
  | zero =>
    rw [cbcEncrypt]
    exact splice_splice_same _ _ _ _ _
  | succ k ih =>
    have hmul : bs * (k + 1) = bs * k + bs := Nat.mul_succ bs k
    have hidx : off + bs * (k + 1) = off + bs + bs * k := by omega
    rw [cbcEncrypt]
    conv_rhs => rw [cbcEncrypt]
    simp only [hidx]
    exact ih _ _ _ _ (by omega)

/-! ## Fixed points -/

/-- Each of the `k` blocks from `off` on comes out of the decryption as it went
in. -/
def FixedBlocks (mix : Block α bs → Block α bs → Block α bs) (D : Block α bs → Block α bs) :
    (k : Nat) → (b : Vector α n) → (iv : Block α bs) → (off : Nat) → off + bs * k ≤ n → Prop
  | 0, _, _, _, _ => True
  | k + 1, b, iv, off, h =>
      have hk : off + bs + bs * k ≤ n := by rw [Nat.mul_succ] at h; omega
      let next := slice b off bs (by omega)
      mix (D next) iv = next ∧ FixedBlocks mix D k b next (off + bs) hk

/-- The induction follows the loop: the block decrypted first is not written
again, so it has to be right at once. -/
theorem cbcDecrypt_eq_self_iff {D : Block α bs → Block α bs} (k : Nat) (b : Vector α n)
    (iv : Block α bs) (off : Nat) (h : off + bs * k ≤ n) :
    cbcDecrypt mix D k b iv off h = b ↔ FixedBlocks mix D k b iv off h := by
  induction k generalizing iv off with
  | zero => exact iff_of_true rfl trivial
  | succ k ih =>
    have hmul : bs * (k + 1) = bs * k + bs := Nat.mul_succ bs k
    have hself : splice (cbcDecrypt mix D k b (slice b off bs (by omega)) (off + bs) (by omega)) off
        (slice b off bs (by omega)) (by omega) =
          cbcDecrypt mix D k b (slice b off bs (by omega)) (off + bs) (by omega) := by
      rw [← cbcDecrypt_splice _ _ _ _ _ _ _ _ (by omega), splice_slice_self]
    rw [cbcDecrypt, FixedBlocks, cbcDecrypt_splice _ _ _ _ _ _ _ _ (by omega), ← ih]
    constructor
    · intro heq
      have hfirst : mix (D (slice b off bs (by omega))) iv = slice b off bs (by omega) := by
        have hread := congrArg (fun c => slice c off bs (by omega)) heq
        rw [slice_splice_same] at hread
        exact hread
      refine ⟨hfirst, ?_⟩
      rw [hfirst, hself] at heq
      exact heq
    · rintro ⟨hfirst, hrest⟩
      rw [hfirst, hself, hrest]

end Loops

end Cbc
