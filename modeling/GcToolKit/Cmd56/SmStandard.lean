import Mathlib.Data.Finite.Prod
import Mathlib.Data.Fintype.EquivFin
import GcToolKit.Cmd56.Sm
import GcToolKit.Crypto.AesStandard
import GcToolKit.Crypto.CmacStandard

/-!
# Keys and MACs of the protocol, in terms of the standards

What `cmd56_sm.c` computes with the two crypto files, said with AES-128 and its CMAC.

* `cipher_invCipher` — the inverse cipher is one on both sides;
* `doCmd56CmacHash_standard` — the MAC of a header and some blocks of data;
* `deriveSessionKey_standard` — the session key for a key id and what the cart announced.
-/

namespace GcToolKit.Cmd56

open ByteBuf GcToolKit.Crypto

/-! ## The inverse cipher -/

instance finite_byte : Finite UInt8 := Finite.of_injective UInt8.toFin fun _ _ => UInt8.toFin_inj.mp

instance {n : Nat} : Finite (Bytes n) :=
  Finite.of_injective (fun (v : Bytes n) (i : Fin n) => v.get i) fun v w h => by
    apply Vector.ext
    intro i hi
    exact congrFun h ⟨i, hi⟩

/-- There are finitely many blocks, and the cipher keeps them apart. -/
theorem cipher_invCipher (key b : AesBlock) :
    stdAes key (invCipher (keyExpansion key) b) = b := by
  have hinj : Function.Injective (stdAes key) :=
    Function.LeftInverse.injective fun x => (cipher_standard key x).2
  rcases Finite.injective_iff_surjective.mp hinj b with ⟨x, rfl⟩
  rw [(cipher_standard key x).2]

theorem cipher_eq_stdAes (key : AesBlock) :
    tinyAes.cipher (aesInitCtx tinyAes key).roundKey = stdAes key :=
  funext fun b => (cipher_standard key b).1

/-! ## MACs -/

/-- A block with three bytes of the header, and the data. -/
def cmacMessage {n : Nat} (data : Bytes n) (header : UInt32) (size : Nat) : List UInt8 :=
  (u32Bytes header).toList.take 3 ++ List.replicate 13 0 ++ data.toList.take size

theorem cmacInput_message {n : Nat} (data : Bytes n) (header : UInt32) (size : Nat)
    (h : 0 + size ≤ n) (hmax : 0x10 + size ≤ 0x50) :
    messageOf
        (splice (splice (Vector.replicate 0x50 0) 0 (slice (u32Bytes header) 0 3)) 0x10
          (slice data 0 size h) hmax) (size + 0x10) =
      cmacMessage data header size := by
  have hsize : size ≤ n := by omega
  have hheader : ((u32Bytes header).toList.take 3).length = 3 := by
    rw [List.length_take, Vector.length_toList]
    rfl
  have hlength : (cmacMessage data header size).length = size + 0x10 := by
    unfold cmacMessage
    rw [List.length_append, List.length_append, hheader, List.length_replicate, List.length_take,
      Vector.length_toList, Nat.min_eq_left hsize]
    omega
  unfold messageOf
  unfold cmacMessage at hlength ⊢
  apply List.ext_getElem
  · rw [hlength, List.length_take, Vector.length_toList]
    omega
  · intro i hi hi'
    rw [hlength] at hi'
    simp only [List.getElem_take, Vector.getElem_toList, getElem_splice, getElem_slice,
      List.getElem_append, List.length_append, hheader, List.length_replicate,
      List.getElem_replicate, Vector.getElem_replicate]
    -- the data, the three bytes of the header, or the zeros between them
    by_cases hdata : 16 ≤ i
    · have hin : 16 ≤ i ∧ i < 16 + size := by omega
      have hout : ¬ i < 3 + 13 := by omega
      rw [dif_pos hin, dif_neg hout]
      congr 1
      omega
    · have hin : ¬ (16 ≤ i ∧ i < 16 + size) := by omega
      have hfront : i < 3 + 13 := by omega
      rw [dif_neg hin, dif_pos hfront]
      by_cases hhead : i < 3
      · have hbytes : 0 ≤ i ∧ i < 0 + 3 := by omega
        rw [dif_pos hbytes, dif_pos hhead]
        congr 1
        omega
      · have hzeros : ¬ (0 ≤ i ∧ i < 0 + 3) := by omega
        rw [dif_neg hzeros, dif_neg hhead]

theorem doCmd56CmacHash_standard {n : Nat} (key : AesBlock) (data : Bytes n) (header : UInt32)
    (size : Nat) (h : 0 + size ≤ n) (hmax : 0x10 + size ≤ 0x50) (hsize : size % 16 = 0) :
    doCmd56CmacHash tinyAes (aesInitCtx tinyAes key) data header size h hmax =
      stdCmac (stdAes key) (cmacMessage data header size) := by
  unfold doCmd56CmacHash
  dsimp only
  rw [aesCmacBuffer_whole _ _ _ _ _ (by omega) (by omega), cipher_eq_stdAes,
    cmacInput_message data header size h hmax]

/-! ## Session keys -/

/-- One block that is decrypted. -/
theorem aesCbcDecryptBufferKey_block (key mac iv : AesBlock) :
    aesCbcDecryptBufferKey tinyAes key mac 0x10 iv =
      xorWithIv (invCipher (keyExpansion key) mac) iv := by
  have hall : slice mac 0 16 (by decide) = mac := by
    apply Vector.ext
    intro i hi
    rw [getElem_slice]
    congr 1
    omega
  have hone : aesCbcDecryptBufferKey tinyAes key mac 0x10 iv =
      splice mac 0 (xorWithIv (invCipher (keyExpansion key) (slice mac 0 16 (by decide))) iv)
        (by decide) := rfl
  rw [hone, splice_whole, hall]

theorem messageOf_whole (input : Bytes 0x20) : messageOf input 0x20 = input.toList := by
  unfold messageOf
  rw [List.take_of_length_le]
  rw [Vector.length_toList]

theorem deriveSessionKey_standard (cartRandom : Bytes 0x20) (keyId : UInt16) (k : AesBlock) :
    deriveSessionKey tinyAes cartRandom keyId = some k ↔
      ∃ keyseed, keySeed keyId = some keyseed ∧
        (if keyId = retailKeyId then
            stdAes (slice bigmacKey0x348 0 16 bigmacKey_le) (xorWithIv k gcauthmgr0x1Iv)
          else k) = stdCmac (stdAes keyseed) cartRandom.toList := by
  have hmac : ∀ keyseed, aesCmacBufferKey tinyAes keyseed cartRandom 0x20 =
      stdCmac (stdAes keyseed) cartRandom.toList := by
    intro keyseed
    unfold aesCmacBufferKey
    rw [aesCmacBuffer_whole _ _ _ _ _ (by decide) (by decide), cipher_eq_stdAes, messageOf_whole]
  unfold deriveSessionKey
  rw [Option.map_eq_some_iff]
  dsimp only
  simp only [hmac]
  apply exists_congr
  intro keyseed
  apply and_congr_right
  intro _
  by_cases hretail : keyId = retailKeyId
  · -- the key is the MAC, decrypted and mixed with a constant
    rw [if_pos hretail, if_pos hretail, aesCbcDecryptBufferKey_block]
    constructor
    · rintro rfl
      rw [xorWithIv_xorWithIv, cipher_invCipher]
    · intro henc
      rw [← henc, (cipher_standard _ _).2, xorWithIv_xorWithIv]
  · rw [if_neg hretail, if_neg hretail]
    exact eq_comm

end GcToolKit.Cmd56
