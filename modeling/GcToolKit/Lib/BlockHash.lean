import Mathlib.Algebra.GroupWithZero.Nat
import Mathlib.Data.List.GetD
import GcToolKit.Lib.ForLoop

/-!
# Hash functions over blocks

A compression function takes the blocks of a message one after the other. A stream is given
the message element by element: it keeps those of a block that is not full yet, and
compresses the block with its last element.

* `compressBlocks_congr` — only the blocks that are taken count;
* `Holds.absorb`, `Holds.foldl` — what a stream has in it after a message.
-/

namespace BlockHash

variable {α σ : Type} [Inhabited α] {bs : Nat}

/-- The block of a message with this number. -/
def blockAt (bs : Nat) (message : List α) (k : Nat) : Vector α bs :=
  Vector.ofFn fun i => message.getD (k * bs + i) default

variable (compress : σ → Vector α bs → σ)

/-- The state after the first `k` blocks. -/
def compressBlocks (k : Nat) (state : σ) (message : List α) : σ :=
  (List.range k).foldl (fun state i => compress state (blockAt bs message i)) state

/-- The state after a message of whole blocks. -/
def compressAll (state : σ) (message : List α) : σ :=
  compressBlocks compress (message.length / bs) state message

/-- The elements of the block that is not full, and the state after those that were. -/
structure Stream (α σ : Type) (bs : Nat) where
  buffer : Vector α bs
  fill : Fin bs
  state : σ

/-- Take one more element. -/
def Stream.absorb [NeZero bs] (s : Stream α σ bs) (a : α) : Stream α σ bs :=
  let buffer := s.buffer.set s.fill a
  if h : s.fill.val + 1 < bs then { s with buffer := buffer, fill := ⟨s.fill.val + 1, h⟩ }
  else { buffer := buffer, fill := 0, state := compress s.state buffer }

section Blocks

variable {compress}

theorem compressBlocks_succ (k : Nat) (state : σ) (message : List α) :
    compressBlocks compress (k + 1) state message =
      compress (compressBlocks compress k state message) (blockAt bs message k) :=
  ForLoop.foldl_range_succ _ state k

theorem compressBlocks_congr {k : Nat} {message message' : List α}
    (h : ∀ i < k * bs, message.getD i default = message'.getD i default) (state : σ) :
    compressBlocks compress k state message = compressBlocks compress k state message' := by
  apply ForLoop.foldl_range_congr
  intro i hi state
  congr 1
  unfold blockAt
  congr 1
  funext j
  have hlast : (i + 1) * bs ≤ k * bs := Nat.mul_le_mul_right bs hi
  rw [Nat.add_mul, Nat.one_mul] at hlast
  exact h (i * bs + j) (by omega)

/-- Whole blocks are not changed by what stands behind them. -/
theorem compressBlocks_append {k : Nat} {message : List α} (h : k * bs ≤ message.length)
    (rest : List α) (state : σ) :
    compressBlocks compress k state (message ++ rest) = compressBlocks compress k state message := by
  apply compressBlocks_congr
  intro i hi
  rw [List.getD_append _ _ _ _ (Nat.lt_of_lt_of_le hi h)]

end Blocks

/-! ## What a stream has in it -/

/-- A stream that was given the message, of which it has compressed `k` blocks. -/
structure Stream.Holds (iv : σ) (s : Stream α σ bs) (k : Nat) (message : List α) : Prop where
  length : message.length = k * bs + s.fill
  buffer : ∀ i (hi : i < bs), i < s.fill.val → s.buffer[i] = message.getD (k * bs + i) default
  state : s.state = compressBlocks compress k iv message

namespace Stream.Holds

variable {compress} {iv : σ} {s : Stream α σ bs} {k : Nat} {message : List α}

/-- The buffer with one more element. -/
theorem getElem_set (h : s.Holds compress iv k message) (a : α) {i : Nat} (hi : i < bs)
    (hle : i ≤ s.fill.val) :
    (s.buffer.set s.fill a)[i] = (message ++ [a]).getD (k * bs + i) default := by
  have hlength := h.length
  rw [Vector.getElem_set]
  split
  · next heq =>
    rw [List.getD_append_right _ _ _ _ (by omega)]
    have hfirst : k * bs + i - message.length = 0 := by omega
    rw [hfirst]
    rfl
  · next hne =>
    have hlt : i < s.fill.val := by omega
    rw [h.buffer i hi hlt, List.getD_append _ _ _ _ (by omega)]

variable [NeZero bs]

theorem absorb (h : s.Holds compress iv k message) (a : α) :
    ∃ k', (s.absorb compress a).Holds compress iv k' (message ++ [a]) := by
  have hlength := h.length
  have hmore : (message ++ [a]).length = message.length + 1 := List.length_append
  have hwhole : k * bs ≤ message.length := by omega
  have hstate : s.state = compressBlocks compress k iv (message ++ [a]) := by
    rw [compressBlocks_append hwhole]
    exact h.state
  unfold Stream.absorb
  dsimp only
  by_cases hroom : s.fill.val + 1 < bs
  · rw [dif_pos hroom]
    refine ⟨k, ?_, ?_, hstate⟩
    · dsimp only
      omega
    · intro i hi hle
      exact h.getElem_set a hi (Nat.le_of_lt_succ hle)
  · -- the element completes a block
    have hlt := s.fill.isLt
    have hfull : s.fill.val + 1 = bs := by omega
    have hblock : s.buffer.set s.fill a = blockAt bs (message ++ [a]) k := by
      apply Vector.ext
      intro i hi
      unfold blockAt
      rw [Vector.getElem_ofFn]
      exact h.getElem_set a hi (by omega)
    rw [dif_neg hroom]
    refine ⟨k + 1, ?_, ?_, ?_⟩
    · rw [hmore, hlength, Nat.add_mul, Nat.one_mul]
      change _ = k * bs + bs + 0
      omega
    · intro i _ hnone
      exact absurd hnone (Nat.not_lt_zero i)
    · rw [compressBlocks_succ, ← hstate, ← hblock]

theorem foldl (h : s.Holds compress iv k message) (data : List α) :
    ∃ k', (data.foldl (Stream.absorb compress) s).Holds compress iv k' (message ++ data) := by
  induction data generalizing s k message with
  | nil =>
    rw [List.append_nil]
    exact ⟨k, h⟩
  | cons a data ih =>
    rcases h.absorb a with ⟨k', hnext⟩
    rcases ih hnext with ⟨k'', hlast⟩
    rw [List.append_assoc] at hlast
    exact ⟨k'', hlast⟩

end Stream.Holds

end BlockHash
