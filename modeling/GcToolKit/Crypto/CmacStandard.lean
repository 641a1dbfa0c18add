import GcToolKit.Crypto.Modes
import GcToolKit.Lib.BigEndian
import GcToolKit.Lib.BitFields
import GcToolKit.Lib.BlockHash

/-!
# The MAC of crypto/aes_cmac.c is CMAC, up to the chain in a last block that is not full

The definition of the standard takes the whole message, doubles numbers for the two subkeys,
and pads a last block that is not full before anything is added to it. The code shifts bytes,
and pads the block that it has already mixed with the one before.

* `blockNumber`, `stdDouble`, `stdLast`, `stdCmac` — the definition;
* `subkeyStep_double` — the subkeys are those that it names;
* `cmacLoop_whole` — all blocks but the last are chained as it says;
* `aesCmacBuffer_standard` — when the MAC is the one that it gives.
-/

namespace GcToolKit.Crypto

open BigEndian BitFields BlockHash ByteBuf

/-! ## The definition -/

/-- The number that a block stands for. -/
def blockNumber (b : AesBlock) : BitVec 128 := BitVec.ofNat 128 (bigEndian b.toList)

def blockOf (v : BitVec 128) : AesBlock := Vector.ofFn fun i => byteAbove v.toNat (15 - i)

/-- Times two in the field of 2^128 elements. -/
def stdDouble (v : BitVec 128) : BitVec 128 := if v.msb then (v <<< 1) ^^^ 0x87 else v <<< 1

section Definition

variable (E : AesBlock → AesBlock)

/-- The subkey for a last block that is full. -/
def stdSubkey1 : BitVec 128 := stdDouble (blockNumber (E (Vector.replicate 16 0)))

/-- The one for a last block that is not. -/
def stdSubkey2 : BitVec 128 := stdDouble (stdSubkey1 E)

/-- Whole blocks in front of the last one. -/
def blocksBefore (length : Nat) : Nat := (length - 1) / 16

def stdChain (chain block : AesBlock) : AesBlock := E (blockXorTriple block chain)

/-- The last block with its padding and its subkey. -/
def stdLast (message : List UInt8) : AesBlock :=
  let k := blocksBefore message.length
  if message.length = 16 * (k + 1) then
    blockXorTriple (blockAt 16 message k) (blockOf (stdSubkey1 E))
  else blockXorTriple (blockAt 16 (message ++ [0x80]) k) (blockOf (stdSubkey2 E))

/-- What the blocks in front of the last leave. -/
def stdFront (message : List UInt8) : AesBlock :=
  compressBlocks (stdChain E) (blocksBefore message.length) (Vector.replicate 16 0) message

def stdCmac (message : List UInt8) : AesBlock := stdChain E (stdFront E message) (stdLast E message)

end Definition

/-! ## Bits of a block -/

theorem block_ext {a b : AesBlock}
    (h : ∀ i (hi : i < 16), ∀ k < 8, a[i].toNat.testBit k = b[i].toNat.testBit k) : a = b := by
  apply Vector.ext
  intro i hi
  apply UInt8.toNat.inj
  apply Nat.eq_of_testBit_eq
  intro k
  by_cases hk : k < 8
  · exact h i hi k hk
  · have hpow : 2 ^ 8 ≤ 2 ^ k := Nat.pow_le_pow_right (by decide) (by omega)
    have ha : a[i].toNat < 2 ^ k := Nat.lt_of_lt_of_le a[i].toNat_lt hpow
    have hb : b[i].toNat < 2 ^ k := Nat.lt_of_lt_of_le b[i].toNat_lt hpow
    rw [Nat.testBit_lt_two_pow ha, Nat.testBit_lt_two_pow hb]

theorem getLsbD_blockNumber (b : AesBlock) {i k : Nat} (hi : i < 16) (hk : k < 8) :
    (blockNumber b).getLsbD (8 * (15 - i) + k) = b[i].toNat.testBit k := by
  have hbit : 8 * (15 - i) + k < 128 := by omega
  have hdiv : (8 * (15 - i) + k) / 8 = 15 - i := by omega
  have hmod : (8 * (15 - i) + k) % 8 = k := by omega
  have hback : 16 - 1 - (15 - i) = i := by omega
  have hbyte : b.toList.reverse.getD (15 - i) 0 = b[i] := by
    have hlt : 15 - i < b.toList.reverse.length := by
      rw [List.length_reverse, Vector.length_toList]
      omega
    rw [List.getD_eq_getElem _ _ hlt, List.getElem_reverse]
    simp [hback]
  unfold blockNumber
  rw [BitVec.getLsbD_ofNat, testBit_bigEndian, hdiv, hmod, hbyte]
  simp [hbit]

theorem testBit_blockOf (v : BitVec 128) {i k : Nat} (hi : i < 16) (hk : k < 8) :
    (blockOf v)[i].toNat.testBit k = v.getLsbD (8 * (15 - i) + k) := by
  unfold blockOf
  rw [Vector.getElem_ofFn, testBit_byteAbove _ _ hk, BitVec.testBit_toNat]

theorem blockOf_blockNumber (b : AesBlock) : blockOf (blockNumber b) = b := by
  apply block_ext
  intro i hi k hk
  rw [testBit_blockOf _ hi hk, getLsbD_blockNumber b hi hk]

/-- Two numbers with the same bits in every byte. -/
theorem number_ext {v w : BitVec 128}
    (h : ∀ i < 16, ∀ k < 8, v.getLsbD (8 * (15 - i) + k) = w.getLsbD (8 * (15 - i) + k)) :
    v = w := by
  apply BitVec.eq_of_getLsbD_eq
  intro j hj
  have hplace : 8 * (15 - (15 - j / 8)) + j % 8 = j := by omega
  have hbit := h (15 - j / 8) (by omega) (j % 8) (by omega)
  rw [hplace] at hbit
  exact hbit

/-! ## The subkeys -/

theorem testBit_shifted (b : UInt8) {k : Nat} (hk : k < 8) :
    (b <<< 1).toNat.testBit k = (decide (0 < k) && b.toNat.testBit (k - 1)) := by
  rw [UInt8.toNat_shiftLeft]
  change (b.toNat <<< 1 % 2 ^ 8).testBit k = _
  rw [Nat.testBit_mod_two_pow, Nat.testBit_shiftLeft]
  simp [hk, Nat.one_le_iff_ne_zero, Nat.pos_iff_ne_zero]

theorem testBit_carry (b : UInt8) (k : Nat) :
    ((b >>> 7) &&& 1).toNat.testBit k = (decide (k = 0) && b.toNat.testBit 7) := by
  rw [UInt8.toNat_and, UInt8.toNat_shiftRight]
  change (b.toNat >>> 7 &&& (2 ^ 1 - 1)).testBit k = _
  rw [Nat.testBit_and, Nat.testBit_shiftRight, Nat.testBit_two_pow_sub_one, Bool.and_comm]
  by_cases hk : k = 0
  · rw [hk]
    rfl
  · have hpos : ¬ k < 1 := by omega
    simp [hk, hpos]

/-- The bytes that are shifted stand for twice the number. -/
theorem leftShift_double (b : AesBlock) : blockNumber (leftShift b) = blockNumber b <<< 1 := by
  apply number_ext
  intro i hi k hk
  have hbit : 8 * (15 - i) + k < 128 := by omega
  rw [getLsbD_blockNumber _ hi hk, BitVec.getLsbD_shiftLeft]
  unfold leftShift
  rw [Vector.getElem_ofFn, UInt8.toNat_or, Nat.testBit_or]
  change ((b[i] <<< 1).toNat.testBit k || _) = _
  rw [testBit_shifted b[i] hk]
  by_cases hk0 : k = 0
  · by_cases hlast : i + 1 < 16
    · -- the lowest bit of a byte is the highest of the next
      have hplace : 8 * (15 - i) + k - 1 = 8 * (15 - (i + 1)) + 7 := by omega
      have hcarry : ¬ 8 * (15 - i) + k < 1 := by omega
      rw [dif_pos hlast, testBit_carry, hplace, getLsbD_blockNumber b hlast (by decide),
        decide_eq_true hbit, decide_eq_false hcarry]
      simp [hk0]
    · have hi15 : i = 15 := by omega
      rw [dif_neg hlast]
      simp [hk0, hi15]
  · have hplace : 8 * (15 - i) + k - 1 = 8 * (15 - i) + (k - 1) := by omega
    have hinside : ¬ 8 * (15 - i) + k < 1 := by omega
    have hpos : 0 < k := Nat.pos_of_ne_zero hk0
    rw [hplace, getLsbD_blockNumber b hi (by omega)]
    split
    · rw [testBit_carry]
      simp [hk0, hpos, hbit, hinside]
    · simp [hpos, hbit, hinside]

theorem topBit_iff (b : UInt8) : b &&& 0x80 ≠ 0 ↔ b.toNat.testBit 7 = true := by
  have hmask : (b &&& 0x80).toNat = b.toNat / 2 ^ 7 % 2 ^ 1 * 2 ^ 7 := and_field b.toNat 1 7
  have hbit : b.toNat / 2 ^ 7 % 2 < 2 := Nat.mod_lt _ (by decide)
  rw [Nat.testBit_eq_decide_div_mod_eq, decide_eq_true_iff, Ne, ← UInt8.toNat_inj, hmask]
  change ¬ b.toNat / 2 ^ 7 % 2 * 128 = 0 ↔ _
  omega

/-- What is added to the last byte is added to the number. -/
theorem blockNumber_setLast (b : AesBlock) (c : UInt8) :
    blockNumber (setLast b (last b ^^^ c)) = blockNumber b ^^^ BitVec.ofNat 128 c.toNat := by
  apply number_ext
  intro i hi k hk
  have hbit : 8 * (15 - i) + k < 128 := by omega
  rw [BitVec.getLsbD_xor, getLsbD_blockNumber _ hi hk, getLsbD_blockNumber _ hi hk,
    BitVec.getLsbD_ofNat, decide_eq_true hbit, Bool.true_and]
  unfold setLast last
  rw [Vector.getElem_set]
  by_cases hlast : i = 15
  · subst hlast
    rw [if_pos rfl, UInt8.toNat_xor, Nat.testBit_xor]
    simp
  · have hhigh : c.toNat < 2 ^ (8 * (15 - i) + k) :=
      Nat.lt_of_lt_of_le c.toNat_lt (Nat.pow_le_pow_right (by decide) (by omega))
    rw [if_neg (Ne.symm hlast), Nat.testBit_lt_two_pow hhigh, Bool.xor_false]

theorem subkeyStep_double (b : AesBlock) :
    blockNumber (subkeyStep b) = stdDouble (blockNumber b) := by
  have htop : (blockNumber b).msb = b[0].toNat.testBit 7 := by
    have hzero := getLsbD_blockNumber b (show 0 < 16 by decide) (show 7 < 8 by decide)
    rw [BitVec.msb_eq_getLsbD_last]
    exact hzero
  unfold subkeyStep stdDouble
  dsimp only
  rw [htop]
  by_cases hbit : b[0].toNat.testBit 7 = true
  · have hfirst : first b &&& 0x80 ≠ 0 := (topBit_iff b[0]).mpr hbit
    rw [if_pos hfirst, if_pos hbit, blockNumber_setLast, leftShift_double]
    rfl
  · have hfirst : ¬ first b &&& 0x80 ≠ 0 := fun h => hbit ((topBit_iff b[0]).mp h)
    rw [if_neg hfirst, if_neg hbit, leftShift_double]

/-- The subkeys of the code are those of the definition. -/
theorem genSubkey_standard (aes : BlockCipher) (ctx : AesCtx) :
    genSubkey aes ctx =
      (blockOf (stdSubkey1 (aes.cipher ctx.roundKey)),
        blockOf (stdSubkey2 (aes.cipher ctx.roundKey))) := by
  unfold genSubkey stdSubkey2 stdSubkey1 aesEcbEncrypt
  dsimp only
  rw [← subkeyStep_double, ← subkeyStep_double, blockOf_blockNumber, blockOf_blockNumber]

/-! ## The blocks -/

/-- The bytes that a MAC is taken of. -/
def messageOf {n : Nat} (input : Bytes n) (length : Nat) : List UInt8 := input.toList.take length

section Blocks

variable {n : Nat}

theorem length_messageOf (input : Bytes n) {length : Nat} (h : length ≤ n) :
    (messageOf input length).length = length := by
  unfold messageOf
  rw [List.length_take, Vector.length_toList, Nat.min_eq_left h]

theorem getD_messageOf (input : Bytes n) {length i : Nat} (hi : i < length) (hn : i < n) :
    (messageOf input length).getD i default = input[i] := by
  unfold messageOf
  have hlt : i < (input.toList.take length).length := by
    rw [List.length_take, Vector.length_toList]
    omega
  rw [List.getD_eq_getElem _ _ hlt, List.getElem_take, Vector.getElem_toList]

theorem slice_eq_blockAt (input : Bytes n) {length k : Nat} (hk : 16 * k + 16 ≤ length)
    (h : 16 * k + 16 ≤ n) : slice input (16 * k) 16 h = blockAt 16 (messageOf input length) k := by
  apply Vector.ext
  intro i hi
  unfold blockAt
  rw [getElem_slice, Vector.getElem_ofFn, Nat.mul_comm k 16,
    getD_messageOf input (by omega) (by omega)]

variable (aes : BlockCipher) (ctx : AesCtx)

/-- All blocks but the last are chained without a subkey. -/
theorem cmacLoop_whole (input : Bytes n) {length j last : Nat} (k : Nat) (hk : j + k = last)
    (hlength : 16 * last < length) (h : 16 * j + 16 * (k + 1) ≤ n) (hlast : 16 * last + 16 * 1 ≤ n) :
    cmacLoop aes ctx input length (k + 1) (16 * j)
        (compressBlocks (stdChain (aes.cipher ctx.roundKey)) j zeroIv (messageOf input length)) h =
      cmacLoop aes ctx input length 1 (16 * last)
        (compressBlocks (stdChain (aes.cipher ctx.roundKey)) last zeroIv
          (messageOf input length)) hlast := by
  induction k generalizing j with
  | zero =>
    subst hk
    rfl
  | succ k ih =>
    have hmiddle : ¬ 16 * j + 16 = length := by omega
    have hlong : ¬ length < 16 * j + 16 := by omega
    have hnext := ih (j := j + 1) (by omega) (by omega)
    have hblock := slice_eq_blockAt input (show 16 * j + 16 ≤ length by omega) (by omega)
    rw [← hnext, compressBlocks_succ, cmacLoop, if_neg hmiddle, if_neg hlong, hblock]
    rfl

/-- The block that the code gives to the cipher last. -/
def lastMixed (input : Bytes n) (length k : Nat) (prev : AesBlock) (h : 16 * k + 16 ≤ n) :
    AesBlock :=
  let temp := blockXorTriple (slice input (16 * k) 16 h) prev
  if 16 * k + 16 = length then blockXorTriple temp (genSubkey aes ctx).1
  else blockXorTriple (addPadding temp (length - 16 * k)) (genSubkey aes ctx).2

theorem aesCmacBuffer_eq (input : Bytes n) (length : Nat) (h : 0 + 16 * blocks length ≤ n)
    (hpos : 0 < length) (hlast : 16 * blocksBefore length + 16 ≤ n) :
    aesCmacBuffer aes ctx input length h =
      aes.cipher ctx.roundKey
        (lastMixed aes ctx input length (blocksBefore length)
          (stdFront (aes.cipher ctx.roundKey) (messageOf input length)) hlast) := by
  have hblocks : blocks length = blocksBefore length + 1 := by
    unfold blocks blocksBefore
    omega
  have hfull : length ≤ n := by
    unfold blocks at h
    omega
  have hbefore : 16 * blocksBefore length < length := by
    unfold blocksBefore
    omega
  have hend : length ≤ 16 * blocksBefore length + 16 := by
    unfold blocksBefore
    omega
  have hwhole := cmacLoop_whole aes ctx input (blocksBefore length) (Nat.zero_add _) hbefore
    (by omega) hlast
  unfold aesCmacBuffer stdFront
  simp only [hblocks]
  rw [length_messageOf input hfull]
  refine hwhole.trans ?_
  unfold lastMixed
  rw [cmacLoop, cmacLoop]
  dsimp only
  by_cases hwhole : 16 * blocksBefore length + 16 = length
  · rw [if_pos hwhole, if_pos hwhole]
    rfl
  · have hshort : length < 16 * blocksBefore length + 16 := by omega
    rw [if_neg hwhole, if_pos hshort, if_neg hwhole]
    rfl

/-! ## The last block -/

theorem cipher_injective : Function.Injective (aes.cipher ctx.roundKey) :=
  Function.LeftInverse.injective (aes.invCipher_cipher ctx.roundKey)

theorem xorTriple_right_comm (a b c : AesBlock) :
    blockXorTriple (blockXorTriple a b) c = blockXorTriple (blockXorTriple a c) b := by
  apply Vector.ext
  intro i hi
  unfold blockXorTriple
  simp only [Vector.getElem_zipWith]
  rw [UInt8.xor_assoc, UInt8.xor_comm b[i], ← UInt8.xor_assoc]

theorem xorTriple_left_inj {a b c : AesBlock} : blockXorTriple a c = blockXorTriple b c ↔ a = b := by
  constructor
  · intro h
    have hback := congrArg (blockXorTriple · c) h
    dsimp only [blockXorTriple] at hback
    rwa [xorBytes_cancel, xorBytes_cancel] at hback
  · intro h
    rw [h]

/-- The last block of a message, as the definition pads it. -/
theorem blockAt_padded (input : Bytes n) {length k i : Nat} (hi : i < 16) (hn : length ≤ n)
    (hlast : 16 * k + 16 ≤ n) :
    (blockAt 16 (messageOf input length ++ [0x80]) k)[i] =
      if 16 * k + i < length then input[16 * k + i]
      else if 16 * k + i = length then 0x80 else 0 := by
  have hlength := length_messageOf input hn
  unfold blockAt
  rw [Vector.getElem_ofFn, Nat.mul_comm k 16]
  change (messageOf input length ++ [0x80]).getD (16 * k + i) default = _
  by_cases hinside : 16 * k + i < length
  · rw [if_pos hinside, List.getD_append _ _ _ _ (by omega), getD_messageOf input hinside]
  · rw [if_neg hinside, List.getD_append_right _ _ _ _ (by omega), hlength]
    by_cases hfirst : 16 * k + i = length
    · rw [if_pos hfirst, hfirst, Nat.sub_self]
      rfl
    · have hbehind : [0x80].length ≤ 16 * k + i - length := by
        rw [List.length_singleton]
        omega
      rw [if_neg hfirst]
      exact List.getD_eq_default _ _ hbehind

theorem eq_xor_self_iff (a b : UInt8) : a = a ^^^ b ↔ b = 0 := by
  constructor
  · intro h
    have hzero : a ^^^ 0 = a ^^^ b := UInt8.xor_zero.trans h
    exact ((UInt8.xor_right_inj a).mp hzero).symm
  · intro h
    rw [h, UInt8.xor_zero]

/-- The code pads the chain too: a byte comes out right if it is one of the message, or
that of the chain is zero. -/
theorem getElem_addPadding_mixed (input : Bytes n) {length k : Nat} (prev : AesBlock)
    (hn : length ≤ n) (hk : 16 * k < length) (hlast : 16 * k + 16 ≤ n) {i : Nat} (hi : i < 16) :
    (addPadding (blockXorTriple (slice input (16 * k) 16 hlast) prev) (length - 16 * k))[i] =
        (blockXorTriple (blockAt 16 (messageOf input length ++ [0x80]) k) prev)[i] ↔
      (length - 16 * k ≤ i → prev[i] = 0) := by
  have hmixed : (blockXorTriple (slice input (16 * k) 16 hlast) prev).get ⟨i, hi⟩ =
      input[16 * k + i] ^^^ prev[i] := by
    change (blockXorTriple (slice input (16 * k) 16 hlast) prev)[i] = _
    unfold blockXorTriple
    rw [Vector.getElem_zipWith, getElem_slice]
  have hpadded : (blockXorTriple (blockAt 16 (messageOf input length ++ [0x80]) k) prev)[i] =
      (if 16 * k + i < length then input[16 * k + i]
        else if 16 * k + i = length then 0x80 else 0) ^^^ prev[i] := by
    unfold blockXorTriple
    rw [Vector.getElem_zipWith, blockAt_padded input hi hn hlast]
  unfold addPadding
  rw [Vector.getElem_ofFn, hpadded]
  dsimp only
  rw [hmixed]
  by_cases hinside : 16 * k + i < length
  · have hne : ¬ i = length - 16 * k := by omega
    have hlt : ¬ length - 16 * k ≤ i := by omega
    rw [if_neg hne, if_neg hlt, if_pos hinside]
    exact ⟨fun _ h => absurd h hlt, fun _ => rfl⟩
  · have hle : length - 16 * k ≤ i := by omega
    rw [if_neg hinside, if_pos hle]
    by_cases hfirst : i = length - 16 * k
    · have hend : 16 * k + i = length := by omega
      rw [if_pos hfirst, if_pos hend, eq_xor_self_iff]
      exact ⟨fun h _ => h, fun h => h hle⟩
    · have hend : ¬ 16 * k + i = length := by omega
      rw [if_neg hfirst, if_neg hend, eq_xor_self_iff]
      exact ⟨fun h _ => h, fun h => h hle⟩

theorem addPadding_mixed (input : Bytes n) {length k : Nat} (prev : AesBlock) (hn : length ≤ n)
    (hk : 16 * k < length) (hlast : 16 * k + 16 ≤ n) :
    addPadding (blockXorTriple (slice input (16 * k) 16 hlast) prev) (length - 16 * k) =
        blockXorTriple (blockAt 16 (messageOf input length ++ [0x80]) k) prev ↔
      ∀ i (hi : i < 16), length - 16 * k ≤ i → prev[i] = 0 := by
  constructor
  · intro h i hi
    rw [← getElem_addPadding_mixed input prev hn hk hlast hi, h]
  · intro h
    apply Vector.ext
    intro i hi
    exact (getElem_addPadding_mixed input prev hn hk hlast hi).mpr (h i hi)

/-- A message of whole blocks has no padding. -/
theorem aesCmacBuffer_whole (input : Bytes n) (length : Nat) (h : 0 + 16 * blocks length ≤ n)
    (hpos : 0 < length) (hwhole : length % 16 = 0) :
    aesCmacBuffer aes ctx input length h =
      stdCmac (aes.cipher ctx.roundKey) (messageOf input length) := by
  have hn : length ≤ n := by
    unfold blocks at h
    omega
  have hlast : 16 * blocksBefore length + 16 = length := by
    unfold blocksBefore
    omega
  have hlength : length = 16 * (blocksBefore length + 1) := by omega
  rw [aesCmacBuffer_eq aes ctx input length h hpos (by omega)]
  unfold stdCmac stdChain stdLast lastMixed
  rw [length_messageOf input hn, genSubkey_standard]
  dsimp only
  rw [if_pos hlast, if_pos hlength, xorTriple_right_comm,
    slice_eq_blockAt input (Nat.le_of_eq hlast)]

end Blocks

/-- The MAC of the code is CMAC of the message when its length is a multiple of the block
size, and otherwise only where the chain happens to be zero behind the bytes of the last
block: they are padded after the chain was added to them. -/
theorem aesCmacBuffer_standard {n : Nat} (aes : BlockCipher) (ctx : AesCtx) (input : Bytes n)
    (length : Nat) (h : 0 + 16 * blocks length ≤ n) (hpos : 0 < length) :
    aesCmacBuffer aes ctx input length h =
        stdCmac (aes.cipher ctx.roundKey) (messageOf input length) ↔
      length % 16 = 0 ∨ ∀ i (hi : i < 16), length % 16 ≤ i →
        (stdFront (aes.cipher ctx.roundKey) (messageOf input length))[i] = 0 := by
  have hn : length ≤ n := by
    unfold blocks at h
    omega
  have hlast : 16 * blocksBefore length + 16 ≤ n := by
    unfold blocks at h
    unfold blocksBefore
    omega
  have hbefore : 16 * blocksBefore length < length := by
    unfold blocksBefore
    omega
  by_cases hwhole : length % 16 = 0
  · exact ⟨fun _ => Or.inl hwhole, fun _ => aesCmacBuffer_whole aes ctx input length h hpos hwhole⟩
  · have hpartial : ¬ 16 * blocksBefore length + 16 = length := by omega
    have hlength : ¬ length = 16 * (blocksBefore length + 1) := by omega
    have hrest : length - 16 * blocksBefore length = length % 16 := by
      unfold blocksBefore at hpartial ⊢
      omega
    rw [aesCmacBuffer_eq aes ctx input length h hpos hlast]
    unfold stdCmac stdChain
    rw [(cipher_injective aes ctx).eq_iff]
    unfold stdLast lastMixed
    rw [length_messageOf input hn, genSubkey_standard]
    dsimp only
    rw [if_neg hpartial, if_neg hlength, xorTriple_right_comm, xorTriple_left_inj,
      addPadding_mixed input _ hn hbefore hlast, hrest]
    exact ⟨Or.inr, fun hor => hor.resolve_left hwhole⟩

/-- Seventeen bytes are a case of the condition. -/
theorem aesCmacBuffer_standard_seventeen :
    aesCmacBuffer tinyAes AesCtx.zero (Vector.replicate 32 0) 17 =
        stdCmac (cipher AesCtx.zero.roundKey) (messageOf (Vector.replicate 32 0) 17) ↔
      17 % 16 = 0 ∨ ∀ i (hi : i < 16), 17 % 16 ≤ i →
        (stdFront (cipher AesCtx.zero.roundKey) (messageOf (Vector.replicate 32 0) 17))[i] = 0 :=
  aesCmacBuffer_standard tinyAes AesCtx.zero (Vector.replicate 32 0) 17 (by decide) (by decide)

end GcToolKit.Crypto
