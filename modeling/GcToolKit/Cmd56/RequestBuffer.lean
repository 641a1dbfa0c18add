import GcToolKit.Cmd56.Gc

/-!
# What becomes of the request buffer

`gc_cmd56_run` takes a `const` buffer and casts the qualifier away. Two handlers
decrypt the data of the request where it is: the proof of the session always,
a packet 18 request once its CMAC has been verified.

* `requestKept_iff` — the buffer is as before when none of them runs, or when
  the blocks they decrypt happen to be their own decryption.
-/

namespace GcToolKit.Cmd56

open ByteBuf GcToolKit.Crypto

variable {ρ : Type} (aes : BlockCipher) (rng : Rng ρ) (stack : AesBlock)

/-! ## Data that decrypts to itself -/

/-- The first `length` bytes are left as they are by `decrypt_cbc_zero_iv`: the
inverse cipher of each block is the block mixed with the one before it. -/
def FixedData {n : Nat} (ctx : AesCtx) (data : Bytes n) (length : Nat)
    (h : 0 + 16 * blocks length ≤ n := by decide) : Prop :=
  Cbc.FixedBlocks xorWithIv (aes.invCipher ctx.roundKey) (blocks length) data zeroIv 0 h

theorem decryptCbcZeroIv_eq_self_iff {n : Nat} (ctx : AesCtx) (data : Bytes n) (length : Nat)
    (h : 0 + 16 * blocks length ≤ n) :
    decryptCbcZeroIv aes ctx data length h = data ↔ FixedData aes ctx data length h :=
  Cbc.cbcDecrypt_eq_self_iff _ _ _ _ _

/-! ## The handlers -/

/-- The CMAC in a packet 18 request verifies. -/
def P18Signed (ctx : AesCtx) (request : Cmd56Request) : Prop :=
  doCmd56CmacHash aes ctx request.data
      (makeInt24 request.command 0x0 request.additionalDataSize) 0x20
      GetP18KeyAndCmacSignatureRequest.signed_le GetP18KeyAndCmacSignatureRequest.cmacInput_le =
    GetP18KeyAndCmacSignatureRequest.cmacSignature.get request.data

/-- What is decrypted of the request, if anything, is its own decryption. -/
def DecryptsToItself (state : GcCmd56State) (request : Cmd56Request) : Prop :=
  match Cmd56Command.ofCode request.command with
  | some .exchangeSecondaryKeyAndVerifySession =>
    FixedData aes state.sessionKey request.data ExchangeSecondaryKeyAndVerifySessionRequest.size
      ExchangeSecondaryKeyAndVerifySessionRequest.blocks_le
  | some .getP18KeyAndCmacSignature =>
    P18Signed aes state.secondaryKey request →
      FixedData aes state.secondaryKey request.data 0x20
        GetP18KeyAndCmacSignatureRequest.blocks_le
  | _ => True

theorem request_withData_eq_iff (request : Cmd56Request) (data : Bytes 0x1d1) :
    { request with data := data } = request ↔ data = request.data := by
  constructor
  · intro heq
    exact congrArg Cmd56Request.data heq
  · rintro rfl
    rfl

variable (x : CartStep ρ)

theorem handleGenerateSessionKey_request :
    (handleGenerateSessionKey aes rng stack x).request = x.request := by
  unfold handleGenerateSessionKey
  cases rng.randBytes 0x20 x.rand
  rfl

theorem handleExchangeSharedRandom_request :
    (handleExchangeSharedRandom aes rng x).request = x.request := by
  unfold handleExchangeSharedRandom
  dsimp only
  split <;> rfl

theorem handleExchangeSecondaryKeyAndVerifySession_request :
    (handleExchangeSecondaryKeyAndVerifySession aes x).request = x.request ↔
      FixedData aes x.state.sessionKey x.request.data
        ExchangeSecondaryKeyAndVerifySessionRequest.size
        ExchangeSecondaryKeyAndVerifySessionRequest.blocks_le := by
  rw [← decryptCbcZeroIv_eq_self_iff]
  unfold handleExchangeSecondaryKeyAndVerifySession
  dsimp only
  split
  · exact request_withData_eq_iff x.request _
  · exact request_withData_eq_iff x.request _

theorem handleP18keyAndCmacSignature_request :
    (handleP18keyAndCmacSignature aes x).request = x.request ↔
      (P18Signed aes x.state.secondaryKey x.request →
        FixedData aes x.state.secondaryKey x.request.data 0x20
          GetP18KeyAndCmacSignatureRequest.blocks_le) := by
  rw [← decryptCbcZeroIv_eq_self_iff]
  unfold handleP18keyAndCmacSignature
  dsimp only
  split
  · next hcmac =>
    have hsigned : P18Signed aes x.state.secondaryKey x.request := (memcmp_eq_zero _ _).mp hcmac
    have hiff := (request_withData_eq_iff x.request
      (decryptCbcZeroIv aes x.state.secondaryKey x.request.data 0x20)).trans
      (imp_iff_right hsigned).symm
    -- the decryption comes before the test of the plaintext
    split
    · exact hiff
    · exact hiff
  · next hcmac =>
    refine iff_of_true rfl ?_
    intro hsigned
    exact absurd ((memcmp_eq_zero _ _).mpr hsigned) hcmac

/-- One case for each command. -/
theorem handleRequest_request :
    (handleRequest aes rng stack x).request = x.request ↔
      DecryptsToItself aes x.state x.request := by
  unfold handleRequest DecryptsToItself
  cases Cmd56Command.ofCode x.request.command with
  | none => exact iff_of_true rfl trivial
  | some command =>
    cases command with
    | start => exact iff_of_true rfl trivial
    | getStatus => exact iff_of_true rfl trivial
    | generateSessionKey =>
      exact iff_of_true (handleGenerateSessionKey_request aes rng stack x) trivial
    | exchangeSharedRandom =>
      exact iff_of_true (handleExchangeSharedRandom_request aes rng x) trivial
    | exchangeSecondaryKeyAndVerifySession =>
      exact handleExchangeSecondaryKeyAndVerifySession_request aes x
    | verifySecondaryKey => exact iff_of_true rfl trivial
    | getP18KeyAndCmacSignature => exact handleP18keyAndCmacSignature_request aes x
    | getP20KeyAndCmacSignature => exact iff_of_true rfl trivial

/-! ## The const buffer -/

section Run

variable (state : GcCmd56State) (rand : ρ) (buffer : Cmd56Request) (response : Cmd56Response)

/-- The buffer is the same after the call. -/
def RequestKept : Prop :=
  (gcCmd56Run aes rng stack state rand buffer response).request = buffer

theorem requestKept_iff :
    RequestKept aes rng stack state rand buffer response ↔
      (buffer.magic = cmd56Magic → DecryptsToItself aes state buffer) := by
  unfold RequestKept
  by_cases hmagic : buffer.magic = cmd56Magic
  · rw [gcCmd56Run_of_magic aes rng hmagic, handleRequest_request]
    exact (imp_iff_right hmagic).symm
  · -- traffic for somebody else is not touched
    rw [gcCmd56Run_of_other_magic aes rng hmagic]
    exact iff_of_true rfl (fun heq => absurd heq hmagic)

end Run

/-! ## A proof of ones -/

/-- Equal blocks that decrypt to themselves are zero: the second one is mixed
with the first. -/
theorem not_fixedData_ones (ctx : AesCtx) :
    ¬ FixedData aes ctx (Vector.replicate 0x1d1 (1 : UInt8))
      ExchangeSecondaryKeyAndVerifySessionRequest.size
      ExchangeSecondaryKeyAndVerifySessionRequest.blocks_le := by
  have hslice : ∀ off (h : off + 16 ≤ 0x1d1),
      slice (Vector.replicate 0x1d1 (1 : UInt8)) off 16 h = Vector.replicate 16 1 := by
    intro off h
    ext i hi
    simp
  rintro ⟨hfirst, hsecond, -⟩
  rw [hslice] at hfirst hsecond
  -- the inverse cipher leaves the block alone, then the mixing clears it
  have hinv : aes.invCipher ctx.roundKey (Vector.replicate 16 1) = Vector.replicate 16 1 := by
    have hcancel := congrArg (xorWithIv · zeroIv) hfirst
    rw [xorWithIv_xorWithIv] at hcancel
    rw [hcancel]
    ext i hi
    simp [xorWithIv, zeroIv]
  rw [hslice, hinv] at hsecond
  have hbyte := congrArg (fun b : AesBlock => b[0]) hsecond
  simp [xorWithIv] at hbyte

/-- The proof of a session with ones for data. -/
def onesRequest : Cmd56Request :=
  { Cmd56Request.zero with
    magic := cmd56Magic
    command := Cmd56Command.exchangeSecondaryKeyAndVerifySession.code
    data := Vector.replicate 0x1d1 1 }

theorem not_requestKept_ones :
    ¬ RequestKept tinyAes (libRng tinyAes) (Vector.replicate 16 0) GcCmd56State.zero randStateInit
      onesRequest Cmd56Response.zero := by
  intro hkept
  have hcommand : Cmd56Command.ofCode onesRequest.command =
      some .exchangeSecondaryKeyAndVerifySession := by decide
  unfold RequestKept at hkept
  rw [gcCmd56Run_of_magic _ _ rfl, handleRequest_request] at hkept
  unfold DecryptsToItself at hkept
  rw [hcommand] at hkept
  exact not_fixedData_ones tinyAes GcCmd56State.zero.sessionKey hkept

end GcToolKit.Cmd56
