import GcToolKit.Lib.Cbc
import GcToolKit.Crypto.Aes

/-!
# Modes of operation (crypto/aes.c, crypto/aes_cmac.c)

The public functions of the two crypto files, over a `BlockCipher`: the three
private functions of `aes.c` they call, with the one law the protocol needs.
`tinyAes` is the vendored instance. Buffers are passed whole; every caller
points at their first byte, so the range is always a prefix.
-/

namespace GcToolKit.Crypto

open ByteBuf

/-- `KeyExpansion`, `Cipher` and `InvCipher`, with block decryption inverting
block encryption under the same round keys. -/
structure BlockCipher where
  keyExpansion : AesBlock → Bytes 176
  cipher : Bytes 176 → AesBlock → AesBlock
  invCipher : Bytes 176 → AesBlock → AesBlock
  invCipher_cipher : ∀ roundKey b, invCipher roundKey (cipher roundKey b) = b

/-- The AES the repository ships. -/
def tinyAes : BlockCipher where
  keyExpansion := keyExpansion
  cipher := cipher
  invCipher := invCipher
  invCipher_cipher := invCipher_cipher

structure AesCtx where
  roundKey : Bytes 176
deriving DecidableEq

/-- A context after `memset(ctx, 0, sizeof(AES_ctx))`. -/
def AesCtx.zero : AesCtx := ⟨Vector.replicate 176 0⟩

variable (aes : BlockCipher) {n : Nat}

def aesInitCtx (key : AesBlock) : AesCtx := ⟨aes.keyExpansion key⟩

def aesEcbEncrypt (ctx : AesCtx) (buf : AesBlock) : AesBlock := aes.cipher ctx.roundKey buf

/-! ## CBC -/

def xorWithIv (buf iv : AesBlock) : AesBlock := Vector.zipWith (· ^^^ ·) buf iv

/-- Iterations of `for (i = 0; i < length; i += AES_BLOCKLEN)`. -/
def blocks (length : Nat) : Nat := (length + 15) / 16

def zeroIv : AesBlock := Vector.replicate 16 0

def aesCbcEncryptBuffer (ctx : AesCtx) (buf : Bytes n) (length : Nat) (iv : AesBlock)
    (h : 0 + 16 * blocks length ≤ n := by decide) : Bytes n :=
  Cbc.cbcEncrypt xorWithIv (aes.cipher ctx.roundKey) (blocks length) buf iv 0 h

def aesCbcDecryptBuffer (ctx : AesCtx) (buf : Bytes n) (length : Nat) (iv : AesBlock)
    (h : 0 + 16 * blocks length ≤ n := by decide) : Bytes n :=
  Cbc.cbcDecrypt xorWithIv (aes.invCipher ctx.roundKey) (blocks length) buf iv 0 h

def aesCbcDecryptBufferKey (key : AesBlock) (buf : Bytes n) (length : Nat) (iv : AesBlock)
    (h : 0 + 16 * blocks length ≤ n := by decide) : Bytes n :=
  aesCbcDecryptBuffer aes (aesInitCtx aes key) buf length iv h

def aesCbcEncryptBufferKey (key : AesBlock) (buf : Bytes n) (length : Nat) (iv : AesBlock)
    (h : 0 + 16 * blocks length ≤ n := by decide) : Bytes n :=
  aesCbcEncryptBuffer aes (aesInitCtx aes key) buf length iv h

/-- The macros `encrypt_cbc_zero_iv` and `decrypt_cbc_zero_iv`. -/
def encryptCbcZeroIv (ctx : AesCtx) (buf : Bytes n) (length : Nat)
    (h : 0 + 16 * blocks length ≤ n := by decide) : Bytes n :=
  aesCbcEncryptBuffer aes ctx buf length zeroIv h

def decryptCbcZeroIv (ctx : AesCtx) (buf : Bytes n) (length : Nat)
    (h : 0 + 16 * blocks length ≤ n := by decide) : Bytes n :=
  aesCbcDecryptBuffer aes ctx buf length zeroIv h

/-! ## CMAC -/

/-- `left_shift`: one bit to the left across the sixteen bytes; the carry into
byte `i` is the top bit of byte `i + 1`. -/
def leftShift (src : AesBlock) : AesBlock :=
  Vector.ofFn fun i =>
    (src.get i <<< 1) ||| (if h : i.val + 1 < 16 then (src[i.val + 1] >>> 7) &&& 1 else 0)

/-- `0x80, 0x00, ...` after the first `len` bytes of the block. -/
def addPadding (block : AesBlock) (len : Nat) : AesBlock :=
  Vector.ofFn fun i =>
    if i.val = len then 0x80 else if len ≤ i.val then 0 else block.get i

def blockXorTriple (a b : AesBlock) : AesBlock := Vector.zipWith (· ^^^ ·) a b

/-- Shift, and reduce when the top bit was set. -/
def subkeyStep (l : AesBlock) : AesBlock :=
  let shifted := leftShift l
  if first l &&& 0x80 ≠ 0 then setLast shifted (last shifted ^^^ 0x87) else shifted

/-- `gen_subkey`: the pair of subkeys. -/
def genSubkey (ctx : AesCtx) : AesBlock × AesBlock :=
  let l := aesEcbEncrypt aes ctx (Vector.replicate 16 0)
  let subkey1 := subkeyStep l
  (subkey1, subkeyStep subkey1)

/-- The loop of `AES_CMAC_buffer`, from byte `i` on, with `k` blocks to go. -/
def cmacLoop (ctx : AesCtx) (input : Bytes n) (length : Nat) :
    (k i : Nat) → (prev : AesBlock) → i + 16 * k ≤ n → AesBlock
  | 0, _, prev, _ => prev
  | k + 1, i, prev, h =>
      let temp := blockXorTriple (slice input i 16 (by omega)) prev
      let temp :=
        if i + 16 = length then blockXorTriple temp (genSubkey aes ctx).1
        else if length < i + 16 then
          blockXorTriple (addPadding temp (length - i)) (genSubkey aes ctx).2
        else temp
      cmacLoop ctx input length k (i + 16) (aesEcbEncrypt aes ctx temp) (by omega)

def aesCmacBuffer (ctx : AesCtx) (input : Bytes n) (length : Nat)
    (h : 0 + 16 * blocks length ≤ n := by decide) : AesBlock :=
  cmacLoop aes ctx input length (blocks length) 0 (Vector.replicate 16 0) h

def aesCmacBufferKey (key : AesBlock) (input : Bytes n) (length : Nat)
    (h : 0 + 16 * blocks length ≤ n := by decide) : AesBlock :=
  aesCmacBuffer aes (aesInitCtx aes key) input length h

/-! ## What callers use -/

theorem xorWithIv_xorWithIv (x iv : AesBlock) : xorWithIv (xorWithIv x iv) iv = x :=
  xorBytes_cancel x iv

/-- Decrypting what was encrypted under the same context gives the buffer back. -/
@[simp] theorem decrypt_encrypt (ctx : AesCtx) (buf : Bytes n) (length : Nat)
    (h : 0 + 16 * blocks length ≤ n) :
    decryptCbcZeroIv aes ctx (encryptCbcZeroIv aes ctx buf length h) length h = buf :=
  Cbc.cbcDecrypt_cbcEncrypt (aes.invCipher_cipher ctx.roundKey) xorWithIv_xorWithIv _ _ _ _ _

/-- A write behind the decrypted prefix commutes with decryption. -/
theorem decrypt_splice {m : Nat} (ctx : AesCtx) (buf : Bytes n) (length : Nat)
    (h : 0 + 16 * blocks length ≤ n) (off : Nat) (v : Bytes m) (hv : off + m ≤ n)
    (hoff : 0 + 16 * blocks length ≤ off) :
    decryptCbcZeroIv aes ctx (splice buf off v hv) length h =
      splice (decryptCbcZeroIv aes ctx buf length h) off v hv :=
  Cbc.cbcDecrypt_splice _ _ _ _ _ _ _ _ (Or.inr hoff)

/-- A field behind the decrypted range does not take part. -/
theorem decrypt_put (ctx : AesCtx) {m : Nat} (data : Bytes n) (length : Nat)
    (h : 0 + 16 * blocks length ≤ n) (f : Field n m) (v : Bytes m)
    (hf : 0 + 16 * blocks length ≤ f.off) :
    decryptCbcZeroIv aes ctx (f.put data v) length h =
      f.put (decryptCbcZeroIv aes ctx data length h) v :=
  decrypt_splice _ _ _ _ _ _ _ _ hf

end GcToolKit.Crypto
