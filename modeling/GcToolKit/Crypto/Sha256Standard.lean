import GcToolKit.Lib.BigEndian
import GcToolKit.Lib.BitFields
import GcToolKit.Lib.BlockHash
import GcToolKit.Crypto.Sha256

/-!
# The hash of app/sha256.c is SHA-256

The definition of the standard takes the whole message, padded to blocks of 64 bytes, and
speaks of rotations, big endian numbers and words that are made of earlier ones. The code is
given the message in pieces, keeps what does not fill a block, and overwrites arrays.

* `stdWord`, `stdCompress`, `stdPadding`, `stdSha256` — the definition;
* `sha256K_cubeRoots`, `sha256Init_squareRoots` — the constants are those that it names;
* `sha256Schedule_eq`, `sha256Transform_state` — a block is compressed as it says;
* `sha256Final_eq` — the last one or two blocks are those of the padded message;
* `sha256_standard` — the digest of a message, however it is cut into pieces.
-/

namespace GcToolKit.Crypto

open BigEndian BitFields BlockHash

/-! ## The definition -/

/-- `x` rotated by `n` bits to the right. -/
def stdRotr (n : Nat) (x : UInt32) : UInt32 := .ofBitVec (x.toBitVec.rotateRight n)

def stdSigma0 (x : UInt32) : UInt32 := stdRotr 2 x ^^^ stdRotr 13 x ^^^ stdRotr 22 x

def stdSigma1 (x : UInt32) : UInt32 := stdRotr 6 x ^^^ stdRotr 11 x ^^^ stdRotr 25 x

def stdSmallSigma0 (x : UInt32) : UInt32 := stdRotr 7 x ^^^ stdRotr 18 x ^^^ (x >>> 3)

def stdSmallSigma1 (x : UInt32) : UInt32 := stdRotr 17 x ^^^ stdRotr 19 x ^^^ (x >>> 10)

/-- The words that the rounds use: those of the block, and others made of four earlier ones. -/
def stdWord (block : Vector UInt8 64) (t : Nat) : UInt32 :=
  if h : t < 16 then
    UInt32.ofNat (bigEndian
      [block[4 * t], block[4 * t + 1], block[4 * t + 2], block[4 * t + 3]])
  else
    stdSmallSigma1 (stdWord block (t - 2)) + stdWord block (t - 7) +
      stdSmallSigma0 (stdWord block (t - 15)) + stdWord block (t - 16)

/-- The eight working variables. -/
structure StdWorking where
  a : UInt32
  b : UInt32
  c : UInt32
  d : UInt32
  e : UInt32
  f : UInt32
  g : UInt32
  h : UInt32

def stdRound (w : Nat → UInt32) (v : StdWorking) (t : Fin 64) : StdWorking :=
  let t1 := v.h + stdSigma1 v.e + ch v.e v.f v.g + sha256K.get t + w t
  let t2 := stdSigma0 v.a + maj v.a v.b v.c
  { a := t1 + t2, b := v.a, c := v.b, d := v.c, e := v.d + t1, f := v.e, g := v.f, h := v.g }

/-- The working variables are added to the state they began with. -/
def stdCompress (state : StdWorking) (block : Vector UInt8 64) : StdWorking :=
  let v := (List.finRange 64).foldl (stdRound (stdWord block)) state
  { a := state.a + v.a, b := state.b + v.b, c := state.c + v.c, d := state.d + v.d,
    e := state.e + v.e, f := state.f + v.f, g := state.g + v.g, h := state.h + v.h }

def stdInit : StdWorking where
  a := 0x6a09e667
  b := 0xbb67ae85
  c := 0x3c6ef372
  d := 0xa54ff53a
  e := 0x510e527f
  f := 0x9b05688c
  g := 0x1f83d9ab
  h := 0x5be0cd19

/-- The zeros between the first byte of the padding and the length. -/
def stdZeros (n : Nat) : Nat := (119 - n % 64) % 64

/-- What is put behind a message of `n` bytes: a one, zeros, and the number of its bits. -/
def stdPadding (n : Nat) : List UInt8 :=
  0x80 :: List.replicate (stdZeros n) 0 ++ (List.range 8).map fun i => byteAbove (8 * n) (7 - i)

/-- The words of the state, each with its highest byte first. -/
def stdOutput (state : StdWorking) : Bytes 0x20 :=
  let words : Vector UInt32 8 := #v[state.a, state.b, state.c, state.d, state.e, state.f,
    state.g, state.h]
  Vector.ofFn fun i => byteAbove words[i.val / 4]!.toNat (3 - i.val % 4)

/-- The digest of a message of less than 2^64 bits. -/
def stdSha256 (message : List UInt8) : Bytes 0x20 :=
  stdOutput (compressAll stdCompress stdInit (message ++ stdPadding message.length))

/-! ## The constants -/

/-- The primes below 312, of which there are 64. A divisor of another number is found below 18. -/
def firstPrimes : List Nat :=
  (List.range 312).filter fun n =>
    2 ≤ n && (List.range 18).all fun d => d < 2 || n ≤ d || n % d != 0

/-- `k` is what stands in the 32 places behind the point of the cube root of `p`. -/
def IsCubeRootOf (p k : Nat) : Prop :=
  ∃ whole < 7, (whole * 2 ^ 32 + k) ^ 3 ≤ p * 2 ^ 96 ∧ p * 2 ^ 96 < (whole * 2 ^ 32 + k + 1) ^ 3

/-- The same for the square root. -/
def IsSquareRootOf (p k : Nat) : Prop :=
  ∃ whole < 5, (whole * 2 ^ 32 + k) ^ 2 ≤ p * 2 ^ 64 ∧ p * 2 ^ 64 < (whole * 2 ^ 32 + k + 1) ^ 2

instance (p k : Nat) : Decidable (IsCubeRootOf p k) :=
  inferInstanceAs (Decidable (∃ whole < 7, _ ∧ _))

instance (p k : Nat) : Decidable (IsSquareRootOf p k) :=
  inferInstanceAs (Decidable (∃ whole < 5, _ ∧ _))

theorem sha256K_cubeRoots :
    List.Forall₂ IsCubeRootOf firstPrimes (sha256K.toList.map UInt32.toNat) := by
  decide +kernel

theorem sha256Init_squareRoots :
    List.Forall₂ IsSquareRootOf (firstPrimes.take 8) (sha256Init.state.toList.map UInt32.toNat) := by
  decide +kernel

/-! ## One block -/

/-- The state in the array of the context. -/
def workingOf (v : Vector UInt32 8) : StdWorking :=
  ⟨v.get 0, v.get 1, v.get 2, v.get 3, v.get 4, v.get 5, v.get 6, v.get 7⟩

theorem ep0_eq (x : UInt32) : ep0 x = stdSigma0 x := by
  unfold stdSigma0 stdRotr
  rw [BitVec.rotateRight_def, BitVec.rotateRight_def, BitVec.rotateRight_def]
  rfl

theorem ep1_eq (x : UInt32) : ep1 x = stdSigma1 x := by
  unfold stdSigma1 stdRotr
  rw [BitVec.rotateRight_def, BitVec.rotateRight_def, BitVec.rotateRight_def]
  rfl

theorem sig0_eq (x : UInt32) : sig0 x = stdSmallSigma0 x := by
  unfold stdSmallSigma0 stdRotr
  rw [BitVec.rotateRight_def, BitVec.rotateRight_def]
  rfl

theorem sig1_eq (x : UInt32) : sig1 x = stdSmallSigma1 x := by
  unfold stdSmallSigma1 stdRotr
  rw [BitVec.rotateRight_def, BitVec.rotateRight_def]
  rfl

/-- Bytes that are shifted to their places make the number they stand for. -/
theorem wordOf_bytes (b0 b1 b2 b3 : UInt8) :
    (b0.toUInt32 <<< 24) ||| (b1.toUInt32 <<< 16) ||| (b2.toUInt32 <<< 8) ||| b3.toUInt32 =
      UInt32.ofNat (bigEndian [b0, b1, b2, b3]) := by
  have h0 := b0.toNat_lt
  have h1 := b1.toNat_lt
  have h2 := b2.toNat_lt
  have h3 := b3.toNat_lt
  have hbytes : bigEndian [b0, b1, b2, b3] =
      ((b0.toNat * 256 + b1.toNat) * 256 + b2.toNat) * 256 + b3.toNat := by
    simp [bigEndian]
  have hshift0 : (b0.toUInt32 <<< 24).toNat = b0.toNat * 2 ^ 24 := by
    rw [UInt32.toNat_shiftLeft, UInt8.toNat_toUInt32, Nat.shiftLeft_eq]
    exact Nat.mod_eq_of_lt (by change b0.toNat * 2 ^ 24 < 2 ^ 32; omega)
  have hshift1 : (b1.toUInt32 <<< 16).toNat = b1.toNat * 2 ^ 16 := by
    rw [UInt32.toNat_shiftLeft, UInt8.toNat_toUInt32, Nat.shiftLeft_eq]
    exact Nat.mod_eq_of_lt (by change b1.toNat * 2 ^ 16 < 2 ^ 32; omega)
  have hshift2 : (b2.toUInt32 <<< 8).toNat = b2.toNat * 2 ^ 8 := by
    rw [UInt32.toNat_shiftLeft, UInt8.toNat_toUInt32, Nat.shiftLeft_eq]
    exact Nat.mod_eq_of_lt (by change b2.toNat * 2 ^ 8 < 2 ^ 32; omega)
  have hlt : ((b0.toNat * 256 + b1.toNat) * 256 + b2.toNat) * 256 + b3.toNat < 2 ^ 32 := by omega
  apply UInt32.toNat_inj.mp
  rw [hbytes, UInt32.toNat_or, UInt32.toNat_or, UInt32.toNat_or, hshift0, hshift1, hshift2,
    UInt8.toNat_toUInt32, or_bytes h1 h2 h3, UInt32.toNat_ofNat', Nat.mod_eq_of_lt hlt]

/-- The array has the words that are defined one after the other. -/
theorem sha256Schedule_eq (block : Vector UInt8 64) (t : Nat) (ht : t < 64) :
    (sha256Schedule block)[t] = stdWord block t := by
  -- the words in front of the next one are done
  have hloop := ForLoop.foldl_finRange_induction (n := 48)
    (f := fun (m : Vector UInt32 64) i => m.set (i.val + 16)
      (sig1 m[i.val + 14] + m[i.val + 9] + sig0 m[i.val + 1] + m[i.val]))
    (P := fun k m => ∀ t (ht : t < 64), t < k + 16 → m[t] = stdWord block t)
    (b := Vector.ofFn fun i =>
      if h : i.val < 16 then
        (block[4 * i.val].toUInt32 <<< 24) ||| (block[4 * i.val + 1].toUInt32 <<< 16) |||
          (block[4 * i.val + 2].toUInt32 <<< 8) ||| block[4 * i.val + 3].toUInt32
      else 0) ?_ ?_
  · exact hloop t ht (by omega)
  · intro t ht hlt
    have hfirst : t < 16 := by omega
    rw [Vector.getElem_ofFn, stdWord, dif_pos hfirst, dif_pos hfirst, wordOf_bytes]
  · intro i m hm t ht hlt
    have hi := i.isLt
    rw [Vector.getElem_set]
    split
    · next heq =>
      subst heq
      have hlater : ¬ i.val + 16 < 16 := by omega
      rw [stdWord, dif_neg hlater, hm (i + 14) (by omega) (by omega),
        hm (i + 9) (by omega) (by omega), hm (i + 1) (by omega) (by omega),
        hm i (by omega) (by omega), sig0_eq, sig1_eq]
      rfl
    · next hne => exact hm t ht (by omega)

theorem workingOf_round (m : Vector UInt32 64) (w : Nat → UInt32) (v : Vector UInt32 8) (i : Fin 64)
    (h : m.get i = w i) : workingOf (sha256Round m v i) = stdRound w (workingOf v) i := by
  have hm : m[i] = w i := h
  unfold stdRound
  rw [← ep0_eq, ← ep1_eq, ← hm]
  rfl

/-- `sha256_transform` compresses the block as it is defined. -/
theorem sha256Transform_state (ctx : Sha256Ctx) :
    workingOf (sha256Transform ctx).state = stdCompress (workingOf ctx.state) ctx.data := by
  have hrounds : workingOf ((List.finRange 64).foldl (sha256Round (sha256Schedule ctx.data)) ctx.state) =
      (List.finRange 64).foldl (stdRound (stdWord ctx.data)) (workingOf ctx.state) := by
    generalize ctx.state = v
    induction List.finRange 64 generalizing v with
    | nil => rfl
    | cons i l ih =>
      rw [List.foldl_cons, List.foldl_cons, ih,
        workingOf_round _ _ v i (sha256Schedule_eq ctx.data i i.isLt)]
  unfold stdCompress
  rw [← hrounds]
  unfold sha256Transform workingOf
  change StdWorking.mk (Vector.zipWith _ _ _)[0] (Vector.zipWith _ _ _)[1] (Vector.zipWith _ _ _)[2]
    (Vector.zipWith _ _ _)[3] (Vector.zipWith _ _ _)[4] (Vector.zipWith _ _ _)[5]
    (Vector.zipWith _ _ _)[6] (Vector.zipWith _ _ _)[7] = _
  simp only [Vector.getElem_zipWith]
  rfl

/-! ## The stream of bytes -/

def streamOf (ctx : Sha256Ctx) : Stream UInt8 StdWorking 64 where
  buffer := ctx.data
  fill := ctx.datalen
  state := workingOf ctx.state

theorem streamOf_absorb (ctx : Sha256Ctx) (b : UInt8) :
    streamOf (sha256Absorb ctx b) = (streamOf ctx).absorb stdCompress b := by
  unfold sha256Absorb Stream.absorb
  by_cases hroom : ctx.datalen.val + 1 < 64
  · have hroom' : (streamOf ctx).fill.val + 1 < 64 := hroom
    rw [dif_pos hroom, dif_pos hroom']
    rfl
  · have hroom' : ¬ (streamOf ctx).fill.val + 1 < 64 := hroom
    rw [dif_neg hroom, dif_neg hroom']
    unfold streamOf
    dsimp only
    rw [sha256Transform_state]
    rfl

theorem streamOf_foldl (ctx : Sha256Ctx) (data : List UInt8) :
    streamOf (data.foldl sha256Absorb ctx) = data.foldl (Stream.absorb stdCompress) (streamOf ctx) := by
  induction data generalizing ctx with
  | nil => rfl
  | cons b data ih => rw [List.foldl_cons, List.foldl_cons, ih, streamOf_absorb]

/-- The bits of what was taken, as `sha256_final` counts them. -/
def bitsTaken (ctx : Sha256Ctx) : UInt64 := ctx.bitlen + ctx.datalen.val.toUInt64 * 8

theorem bitsTaken_absorb (ctx : Sha256Ctx) (b : UInt8) :
    bitsTaken (sha256Absorb ctx b) = bitsTaken ctx + 8 := by
  have hlt := ctx.datalen.isLt
  unfold sha256Absorb bitsTaken
  dsimp only
  by_cases hroom : ctx.datalen.val + 1 < 64
  · rw [dif_pos hroom]
    have hnext : (ctx.datalen.val + 1).toUInt64 = ctx.datalen.val.toUInt64 + 1 :=
      UInt64.ofNat_add _ _
    dsimp only
    rw [hnext, UInt64.add_mul, UInt64.add_assoc]
    rfl
  · have hlast : ctx.datalen.val = 63 := by omega
    rw [dif_neg hroom]
    change ctx.bitlen + 512 + 0 = ctx.bitlen + ctx.datalen.val.toUInt64 * 8 + 8
    rw [hlast, UInt64.add_assoc, UInt64.add_assoc]
    rfl

theorem bitsTaken_foldl (ctx : Sha256Ctx) (data : List UInt8) :
    bitsTaken (data.foldl sha256Absorb ctx) = bitsTaken ctx + UInt64.ofNat (8 * data.length) := by
  induction data generalizing ctx with
  | nil => exact (UInt64.add_zero _).symm
  | cons b data ih =>
    have hmore : 8 * (b :: data).length = 8 + 8 * data.length := by
      rw [List.length_cons]
      omega
    rw [List.foldl_cons, ih, bitsTaken_absorb, hmore, UInt64.ofNat_add, UInt64.add_assoc]
    rfl

/-! ## The padding -/

section Padding

variable {message : List UInt8} {k r : Nat}

theorem length_padded (message : List UInt8) :
    (message ++ stdPadding message.length).length = message.length + stdZeros message.length + 9 := by
  unfold stdPadding
  rw [List.length_append, List.cons_append, List.length_cons, List.length_append,
    List.length_replicate, List.length_map, List.length_range]
  omega

theorem getD_zeros {j : Nat} (hgt : message.length < j)
    (hlt : j < message.length + stdZeros message.length + 1) :
    (message ++ stdPadding message.length).getD j default = 0 := by
  obtain ⟨i, rfl⟩ : ∃ i, j = message.length + (i + 1) := ⟨j - message.length - 1, by omega⟩
  have hbehind : message.length + (i + 1) - message.length = i + 1 := by omega
  rw [List.getD_append_right _ _ _ _ (by omega), hbehind]
  unfold stdPadding
  rw [List.cons_append, List.getD_cons_succ,
    List.getD_append _ _ _ _ (by rw [List.length_replicate]; omega), List.getD_replicate]
  omega

theorem getD_one :
    (message ++ stdPadding message.length).getD message.length default = 0x80 := by
  rw [List.getD_append_right _ _ _ _ (Nat.le_refl _), Nat.sub_self]
  rfl

theorem getD_length {i : Nat} (hi : i < 8) :
    (message ++ stdPadding message.length).getD
        (message.length + stdZeros message.length + 1 + i) default =
      byteAbove (8 * message.length) (7 - i) := by
  have hbehind : message.length + stdZeros message.length + 1 + i - message.length =
      stdZeros message.length + i + 1 := by omega
  have hlast : stdZeros message.length + i -
      (List.replicate (stdZeros message.length) (0 : UInt8)).length = i := by
    rw [List.length_replicate]
    omega
  rw [List.getD_append_right _ _ _ _ (by omega), hbehind]
  unfold stdPadding
  rw [List.cons_append, List.getD_cons_succ,
    List.getD_append_right _ _ _ _ (by rw [List.length_replicate]; omega), hlast,
    List.getD_eq_getElem _ _ (by rw [List.length_map, List.length_range]; exact hi),
    List.getElem_map, List.getElem_range]

end Padding

/-! ## The last blocks -/

/-- A word is written with its highest byte first. -/
theorem byte_of_word (x : UInt32) {i : Nat} (hi : i < 4) :
    (x >>> (24 - 8 * i).toUInt32).toUInt8 = byteAbove x.toNat (3 - i) := by
  have hshift : (24 - 8 * i).toUInt32.toNat % 32 = 8 * (3 - i) := by
    change (24 - 8 * i) % 2 ^ 32 % 32 = 8 * (3 - i)
    omega
  unfold byteAbove
  apply UInt8.toNat_inj.mp
  rw [UInt32.toNat_toUInt8, UInt32.toNat_shiftRight, hshift, Nat.shiftRight_eq_div_pow,
    Nat.pow_mul, UInt8.toNat_ofNat']

/-- The number of bits is written so too, as far as it fits. -/
theorem byte_of_bits (n : Nat) {i : Nat} (hi : i < 8) :
    (UInt64.ofNat n >>> (8 * i).toUInt64).toUInt8 = byteAbove n i := by
  have hshift : (8 * i).toUInt64.toNat % 64 = 8 * i := by
    change 8 * i % 2 ^ 64 % 64 = 8 * i
    omega
  have hsplit : (2 : Nat) ^ 64 = 256 ^ i * 256 ^ (8 - i) := by
    rw [← Nat.pow_add, Nat.add_sub_cancel' (Nat.le_of_lt hi)]
    rfl
  have hdvd : 256 ∣ 256 ^ (8 - i) := dvd_pow_self 256 (by omega)
  unfold byteAbove
  apply UInt8.toNat_inj.mp
  rw [UInt64.toNat_toUInt8, UInt64.toNat_shiftRight, hshift, Nat.shiftRight_eq_div_pow,
    Nat.pow_mul, UInt8.toNat_ofNat', UInt64.toNat_ofNat', hsplit]
  change n % (256 ^ i * 256 ^ (8 - i)) / 256 ^ i % 256 = n / 256 ^ i % 256
  rw [Nat.mod_mul_right_div_self, Nat.mod_mod_of_dvd _ hdvd]

/-- A byte of the output is one of a word of the state. -/
theorem getElem_output (state : Vector UInt32 8) {i : Nat} (hi : i < 0x20) (hword : i / 4 < 8) :
    (state[i / 4] >>> (24 - 8 * (i % 4)).toUInt32).toUInt8 =
      (stdOutput (workingOf state))[i] := by
  have hwords : ∀ j : Fin 8, (#v[state.get 0, state.get 1, state.get 2, state.get 3, state.get 4,
      state.get 5, state.get 6, state.get 7] : Vector UInt32 8)[j.val]! = state[j.val] := by
    intro j
    fin_cases j <;> rfl
  unfold stdOutput workingOf
  rw [Vector.getElem_ofFn]
  dsimp only
  rw [hwords ⟨i / 4, hword⟩]
  exact byte_of_word _ (Nat.mod_lt _ (by decide))

/-- The block that ends with the number of bits. -/
def withLength (block : Vector UInt8 64) (bitlen : UInt64) : Vector UInt8 64 :=
  Vector.ofFn fun i =>
    if i.val < 56 then block.get i else (bitlen >>> (8 * (63 - i.val)).toUInt64).toUInt8

theorem sha256Final_state (ctx : Sha256Ctx) :
    sha256Final ctx = stdOutput (stdCompress (workingOf (sha256Pad ctx).state)
      (withLength (sha256Pad ctx).data (bitsTaken (sha256Pad ctx)))) := by
  unfold sha256Final
  generalize sha256Pad ctx = padded
  have hstate := sha256Transform_state
    { padded with data := withLength padded.data (bitsTaken padded) }
  dsimp only at hstate
  rw [← hstate]
  apply Vector.ext
  intro i hi
  rw [← getElem_output _ hi (by omega), Vector.getElem_ofFn]
  rfl

/-- What `sha256_final` fills the block with. -/
def filledBlock (ctx : Sha256Ctx) : Vector UInt8 64 :=
  Vector.ofFn fun i =>
    if i < ctx.datalen then ctx.data.get i else if i = ctx.datalen then 0x80
    else if i.val < 56 ∨ ctx.datalen.val ≥ 56 then 0 else ctx.data.get i

theorem sha256Pad_roomy {ctx : Sha256Ctx} (hroom : ctx.datalen.val < 56) :
    sha256Pad ctx = { ctx with data := filledBlock ctx } := if_pos hroom

theorem sha256Pad_crowded {ctx : Sha256Ctx} (hcrowded : ¬ ctx.datalen.val < 56) :
    sha256Pad ctx =
      { sha256Transform { ctx with data := filledBlock ctx } with
        data := Vector.ofFn fun i => if i.val < 56 then 0 else (filledBlock ctx)[i] } :=
  if_neg hcrowded

theorem sha256Pad_state {ctx : Sha256Ctx} (hcrowded : ¬ ctx.datalen.val < 56) :
    (sha256Pad ctx).state = (sha256Transform { ctx with data := filledBlock ctx }).state := by
  rw [sha256Pad_crowded hcrowded]

theorem getElem_filledBlock (ctx : Sha256Ctx) {i : Nat} (hi : i < 64)
    (hzero : i < 56 ∨ 56 ≤ ctx.datalen.val) :
    (filledBlock ctx)[i] =
      if i < ctx.datalen.val then ctx.data[i] else if i = ctx.datalen.val then 0x80 else 0 := by
  unfold filledBlock
  rw [Vector.getElem_ofFn]
  by_cases hold : i < ctx.datalen.val
  · have hold' : (⟨i, hi⟩ : Fin 64) < ctx.datalen := hold
    rw [if_pos hold, if_pos hold']
    rfl
  · have hold' : ¬ (⟨i, hi⟩ : Fin 64) < ctx.datalen := hold
    rw [if_neg hold, if_neg hold']
    by_cases hone : i = ctx.datalen.val
    · have hone' : (⟨i, hi⟩ : Fin 64) = ctx.datalen := Fin.ext hone
      rw [if_pos hone, if_pos hone']
    · have hone' : ¬ (⟨i, hi⟩ : Fin 64) = ctx.datalen := fun heq => hone (congrArg Fin.val heq)
      rw [if_neg hone, if_neg hone', if_pos hzero]

/-- The fields around the state are left alone. -/
theorem sha256Transform_rest (ctx : Sha256Ctx) :
    (sha256Transform ctx).datalen = ctx.datalen ∧ (sha256Transform ctx).bitlen = ctx.bitlen :=
  ⟨rfl, rfl⟩

theorem bitsTaken_pad (ctx : Sha256Ctx) : bitsTaken (sha256Pad ctx) = bitsTaken ctx := by
  unfold bitsTaken
  by_cases hroom : ctx.datalen.val < 56
  · rw [sha256Pad_roomy hroom]
  · rw [sha256Pad_crowded hroom]
    dsimp only
    rw [(sha256Transform_rest _).1, (sha256Transform_rest _).2]

section Final

variable {ctx : Sha256Ctx} {message : List UInt8} {k : Nat}
  (h : (streamOf ctx).Holds stdCompress stdInit k message)

include h

theorem length_mod : message.length % 64 = ctx.datalen.val := by
  have hlength := h.length
  have hlt := ctx.datalen.isLt
  change message.length = k * 64 + ctx.datalen.val at hlength
  omega

theorem compressBlocks_padded :
    compressBlocks stdCompress k stdInit (message ++ stdPadding message.length) =
      workingOf ctx.state := by
  have hlength := h.length
  rw [compressBlocks_append (by omega)]
  exact h.state.symm

/-- The first byte behind the message and zeros, up to the number of bits. -/
theorem getD_filled {i : Nat} (hi : i < 64)
    (hlt : k * 64 + i < message.length + stdZeros message.length + 1) :
    (message ++ stdPadding message.length).getD (k * 64 + i) default =
      if i < ctx.datalen.val then ctx.data[i] else if i = ctx.datalen.val then 0x80 else 0 := by
  have hlength := h.length
  change message.length = k * 64 + ctx.datalen.val at hlength
  by_cases hold : i < ctx.datalen.val
  · rw [if_pos hold, List.getD_append _ _ _ _ (by omega)]
    exact (h.buffer i hi hold).symm
  · rw [if_neg hold]
    by_cases hone : i = ctx.datalen.val
    · rw [if_pos hone, hone, ← hlength]
      exact getD_one
    · rw [if_neg hone]
      exact getD_zeros (by omega) hlt

/-- The message and its padding end with the block that has room for the number of bits. -/
theorem final_roomy (hroom : ctx.datalen.val < 56) :
    blockAt 64 (message ++ stdPadding message.length) k =
      withLength (sha256Pad ctx).data (UInt64.ofNat (8 * message.length)) := by
  have hlength := h.length
  have hmod := length_mod h
  have hzeros : stdZeros message.length = 55 - ctx.datalen.val := by
    unfold stdZeros
    omega
  change message.length = k * 64 + ctx.datalen.val at hlength
  apply Vector.ext
  intro i hi
  unfold blockAt withLength
  rw [sha256Pad_roomy hroom, Vector.getElem_ofFn, Vector.getElem_ofFn]
  dsimp only
  by_cases hfront : i < 56
  · rw [if_pos hfront, getD_filled h hi (by omega)]
    exact (getElem_filledBlock ctx hi (Or.inl hfront)).symm
  · obtain ⟨j, rfl⟩ : ∃ j, i = 56 + j := ⟨i - 56, by omega⟩
    have hplace : k * 64 + (56 + j) =
        message.length + stdZeros message.length + 1 + j := by omega
    have hback : 63 - (56 + j) = 7 - j := by omega
    rw [if_neg hfront, hplace, getD_length (by omega), hback, byte_of_bits _ (by omega)]

/-- Without that room the padding goes on in a block of its own. -/
theorem final_crowded (hcrowded : ¬ ctx.datalen.val < 56) :
    workingOf (sha256Pad ctx).state =
        compressBlocks stdCompress (k + 1) stdInit (message ++ stdPadding message.length) ∧
      blockAt 64 (message ++ stdPadding message.length) (k + 1) =
        withLength (sha256Pad ctx).data (UInt64.ofNat (8 * message.length)) := by
  have hlength := h.length
  have hmod := length_mod h
  have hlt := ctx.datalen.isLt
  have hzeros : stdZeros message.length = 119 - ctx.datalen.val := by
    unfold stdZeros
    omega
  change message.length = k * 64 + ctx.datalen.val at hlength
  constructor
  · -- the block that is filled up goes through the compression first
    have hblock : blockAt 64 (message ++ stdPadding message.length) k = filledBlock ctx := by
      apply Vector.ext
      intro i hi
      unfold blockAt
      rw [getElem_filledBlock ctx hi (Or.inr (Nat.not_lt.mp hcrowded)), Vector.getElem_ofFn]
      exact getD_filled h hi (by omega)
    rw [sha256Pad_state hcrowded, compressBlocks_succ, compressBlocks_padded h, hblock,
      sha256Transform_state]
  · apply Vector.ext
    intro i hi
    unfold blockAt withLength
    rw [sha256Pad_crowded hcrowded, Vector.getElem_ofFn, Vector.getElem_ofFn]
    dsimp only
    by_cases hfront : i < 56
    · rw [if_pos hfront, getD_zeros (by omega) (by omega)]
      change 0 = (Vector.ofFn _)[i]
      rw [Vector.getElem_ofFn, if_pos hfront]
    · obtain ⟨j, rfl⟩ : ∃ j, i = 56 + j := ⟨i - 56, by omega⟩
      have hplace : (k + 1) * 64 + (56 + j) =
          message.length + stdZeros message.length + 1 + j := by omega
      have hback : 63 - (56 + j) = 7 - j := by omega
      rw [if_neg hfront, hplace, getD_length (by omega), hback, byte_of_bits _ (by omega)]

theorem sha256Final_eq (hbits : bitsTaken ctx = UInt64.ofNat (8 * message.length)) :
    sha256Final ctx = stdSha256 message := by
  have hlength := h.length
  have hmod := length_mod h
  have hlt := ctx.datalen.isLt
  have hpadded := length_padded message
  change message.length = k * 64 + ctx.datalen.val at hlength
  rw [sha256Final_state, bitsTaken_pad, hbits]
  unfold stdSha256 compressAll
  congr 1
  by_cases hroom : ctx.datalen.val < 56
  · have hblocks : (message ++ stdPadding message.length).length / 64 = k + 1 := by
      rw [hpadded]
      unfold stdZeros
      omega
    rw [hblocks, compressBlocks_succ, compressBlocks_padded h, final_roomy h hroom,
      sha256Pad_roomy hroom]
  · have hblocks : (message ++ stdPadding message.length).length / 64 = k + 2 := by
      rw [hpadded]
      unfold stdZeros
      omega
    rcases final_crowded h hroom with ⟨hstate, hblock⟩
    rw [hblocks, compressBlocks_succ, hblock, hstate]

end Final

/-- `sha256_init`, any calls of `sha256_update` and `sha256_final` make the digest of all
that was handed over. -/
theorem sha256_standard (pieces : List (List UInt8)) :
    sha256.final (pieces.foldl sha256.update sha256.init) = stdSha256 pieces.flatten := by
  have hflat : pieces.foldl sha256.update sha256.init =
      pieces.flatten.foldl sha256Absorb sha256Init := by
    have hpieces (ctx : Sha256Ctx) :
        pieces.foldl sha256.update ctx = pieces.flatten.foldl sha256Absorb ctx := by
      induction pieces generalizing ctx with
      | nil => rfl
      | cons piece pieces ih =>
        rw [List.foldl_cons, ih, List.flatten_cons, List.foldl_append]
        rfl
    exact hpieces sha256Init
  have hstart : (streamOf sha256Init).Holds stdCompress stdInit 0 [] :=
    ⟨rfl, fun i _ hnone => absurd hnone (Nat.not_lt_zero i), rfl⟩
  rcases hstart.foldl pieces.flatten with ⟨k, hall⟩
  rw [← streamOf_foldl, List.nil_append] at hall
  have hbits := bitsTaken_foldl sha256Init pieces.flatten
  have hnone : bitsTaken sha256Init = 0 := rfl
  rw [hnone, UInt64.zero_add] at hbits
  rw [hflat]
  exact sha256Final_eq hall hbits

end GcToolKit.Crypto
