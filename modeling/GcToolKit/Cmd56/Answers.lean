import GcToolKit.Cmd56.Gc
import GcToolKit.Cmd56.Vita

/-!
# What the cart answers

One lemma for each handler: the state it leaves and what can be read from its
response. The first definitions say what it means for an answer to carry a key.
-/

namespace GcToolKit.Cmd56

open ByteBuf GcToolKit.Crypto

variable {ρ : Type} (aes : BlockCipher) (rng : Rng ρ) (stack : AesBlock)

/-! ## Signed answers -/

/-- A signed answer of the cart: the CMAC of its first `size` bytes verifies,
and they decrypt to `plain`. -/
structure SignedUnder (ctx : AesCtx) (response : Cmd56Response) (size : Nat)
    (cmac : Field 0x1f5 0x10) (plain : Bytes 0x1f5)
    (h : 0 + size ≤ 0x1f5 := by decide) (hmax : 0x10 + size ≤ 0x50 := by decide)
    (hb : 0 + 16 * blocks size ≤ 0x1f5 := by decide) : Prop where
  cmac : doCmd56CmacHash aes ctx response.data response.responseSize.toUInt32 size h hmax =
    cmac.get response.data
  plain : decryptCbcZeroIv aes ctx response.data size hb = plain

/-- An answer to a packet 18 request that carries `key`. -/
def CarriesP18Key (ctx : AesCtx) (challenge : AesBlock) (response : Cmd56Response)
    (key : Bytes 0x20) : Prop :=
  ∃ plain, SignedUnder aes ctx response 0x30
    GetP18KeyAndCmacSignatureResponse.cmacSignature plain
    GetP18KeyAndCmacSignatureResponse.signed_le GetP18KeyAndCmacSignatureResponse.cmacInput_le
    GetP18KeyAndCmacSignatureResponse.blocks_le ∧
    afterFirst.get (GetP18KeyAndCmacSignatureResponse.challengeBytes.get plain) =
      afterFirst.get challenge ∧
    GetP18KeyAndCmacSignatureResponse.p18Key.get plain = key

/-- An answer to a packet 20 request that carries `key`. -/
def CarriesP20Key (ctx : AesCtx) (challenge : AesBlock) (response : Cmd56Response)
    (key : Bytes 0x20) : Prop :=
  ∃ plain, SignedUnder aes ctx response 0x40
    GetP20KeyAndCmacSignatureResponse.cmacSignature plain
    GetP20KeyAndCmacSignatureResponse.signed_le GetP20KeyAndCmacSignatureResponse.cmacInput_le
    GetP20KeyAndCmacSignatureResponse.blocks_le ∧
    afterFirst.get (GetP20KeyAndCmacSignatureResponse.challengeBytes.get plain) =
      afterFirst.get challenge ∧
    GetP20KeyAndCmacSignatureResponse.p20Key.get plain = key

/-! ## Handlers without keys -/

/-- The cart announces its key id and the random part it goes on to use. -/
theorem handleGenerateSessionKey_announces (x : CartStep ρ) :
    let y := handleGenerateSessionKey aes rng stack x
    y.response.errorCode = 0 ∧ announcedKeyId y.response = x.state.keyId ∧
      ∃ cartRandom, announcedCartRandom y.response = cartRandom ∧
        y.state = { x.state with
          cartRandom
          sessionKey := aesInitCtx aes
            ((deriveSessionKey aes cartRandom x.state.keyId).getD stack) } := by
  refine ⟨?_, ?_, _, ?_, rfl⟩
  · simp [handleGenerateSessionKey, cmd56ResponseStart, Cmd56Response.zero]
  · rw [handleGenerateSessionKey, announcedKeyId]
    dsimp only
    rw [Field.get_put_apart _ _ _ _ (by decide), Field.get_put_apart _ _ _ _ (by decide),
      Field.get_put_apart _ _ _ _ (by decide), Field.get_put_same, u16OfBytes_u16Bytes,
      endianSwap_endianSwap]
  · exact Field.get_put_same _ _ _

/-- A request with the right key id is answered with both masked parts. -/
theorem handleExchangeSharedRandom_answers (x : CartStep ρ)
    (h : endianSwap (u16OfBytes (ExchangeSharedRandomRequest.keyId.get x.request.data)) =
      x.state.keyId) :
    let y := handleExchangeSharedRandom aes rng x
    let vitaPart := orW80 (ExchangeSharedRandomRequest.sharedRandVita.get x.request.data)
    let plain := decryptCbcZeroIv aes x.state.sessionKey y.response.data
      ExchangeSharedRandomResponse.size
    y.response.errorCode = 0 ∧
      ExchangeSharedRandomResponse.sharedRandVita.get plain = vitaPart ∧
      ∃ random, ExchangeSharedRandomResponse.sharedRandCart.get plain = orW80 random ∧
        y.state = { x.state with
          sharedRandom := SharedRandom.cartPart.put
            (SharedRandom.vitaPart.put x.state.sharedRandom vitaPart) (orW80 random) } := by
  rw [handleExchangeSharedRandom, if_pos h]
  dsimp only
  rw [decrypt_encrypt]
  refine ⟨?_, Field.get_put_same _ _ _, _, ?_, rfl⟩
  · simp [cmd56ResponseStart, Cmd56Response.zero]
  · rw [Field.get_put_apart _ _ _ _ (by decide), Field.get_put_same]

/-- A request with another key id changes nothing. -/
theorem handleExchangeSharedRandom_refuses (x : CartStep ρ)
    (h : ¬ endianSwap (u16OfBytes (ExchangeSharedRandomRequest.keyId.get x.request.data)) =
      x.state.keyId) :
    let y := handleExchangeSharedRandom aes rng x
    y.response.errorCode ≠ 0 ∧ y.state = x.state := by
  rw [handleExchangeSharedRandom, if_neg h]
  exact ⟨show (0x11 : UInt8) ≠ 0 by decide, rfl⟩

/-- Whatever the proof is worth, its key becomes the secondary key. -/
theorem handleExchangeSecondaryKeyAndVerifySession_state (x : CartStep ρ) :
    let plain := decryptCbcZeroIv aes x.state.sessionKey x.request.data
      ExchangeSecondaryKeyAndVerifySessionRequest.size
    ∃ lockStatus,
      (handleExchangeSecondaryKeyAndVerifySession aes x).state = { x.state with
        secondaryKey := aesInitCtx aes
          (ExchangeSecondaryKeyAndVerifySessionRequest.secondaryKey.get plain)
        lockStatus } ∧
      (lockStatus = gcUnlocked ↔
        ExchangeSecondaryKeyAndVerifySessionRequest.challengeBytes.get plain =
          x.state.sharedRandom) := by
  simp only [handleExchangeSecondaryKeyAndVerifySession, memcmp_eq_zero]
  split
  · next h => exact ⟨gcUnlocked, rfl, fun _ => h, fun _ => rfl⟩
  · next h => exact ⟨gcLocked, rfl, fun hlock => absurd hlock (by decide), fun hc => absurd hc h⟩

/-- Exactly the request that encrypts the shared random unlocks the cart. -/
theorem handleExchangeSecondaryKeyAndVerifySession_accepts (x : CartStep ρ) (key : AesBlock)
    (h : x.request =
      secondaryKeyRequest aes x.state.sessionKey key x.state.sharedRandom) :
    let y := handleExchangeSecondaryKeyAndVerifySession aes x
    y.response.errorCode = 0 ∧
      y.state = { x.state with
        secondaryKey := aesInitCtx aes key, lockStatus := gcUnlocked } := by
  have hdata : decryptCbcZeroIv aes x.state.sessionKey x.request.data
      ExchangeSecondaryKeyAndVerifySessionRequest.size =
      ExchangeSecondaryKeyAndVerifySessionRequest.challengeBytes.put
        (ExchangeSecondaryKeyAndVerifySessionRequest.secondaryKey.put
          (Vector.replicate 0x1d1 0) key) x.state.sharedRandom := by
    rw [h, secondaryKeyRequest, decrypt_encrypt]
    rfl
  rw [handleExchangeSecondaryKeyAndVerifySession]
  dsimp only
  rw [hdata, Field.get_put_same, Field.get_put_apart _ _ _ _ (by decide), Field.get_put_same,
    if_pos ((memcmp_eq_zero _ _).mpr rfl)]
  refine ⟨?_, rfl⟩
  simp [cmd56ResponseStart, Cmd56Response.zero]

/-- The masked challenge comes back next to the cart's random part. -/
theorem handleVerifySecondaryKey_answers (x : CartStep ρ) :
    let y := handleVerifySecondaryKey aes rng x
    let plain := decryptCbcZeroIv aes x.state.secondaryKey y.response.data
      VerifySecondaryKeyResponse.size
    y.response.errorCode = 0 ∧
      VerifySecondaryKeyResponse.challengeBytes.get plain =
        orW80 (VerifySecondaryKeyRequest.challengeBytes.get x.request.data) ∧
      VerifySecondaryKeyResponse.cartRandom.get plain = x.state.cartRandom ∧
      y.state = x.state := by
  rw [handleVerifySecondaryKey]
  dsimp only
  rw [decrypt_encrypt]
  refine ⟨?_, ?_, Field.get_put_same _ _ _, rfl⟩
  · simp [cmd56ResponseStart, Cmd56Response.zero]
  · rw [Field.get_put_apart _ _ _ _ (by decide), Field.get_put_same]

/-! ## Packet 18 -/

/-- The two conditions under which a packet 18 request is answered. -/
structure P18RequestValid (ctx : AesCtx) (request : Cmd56Request) : Prop where
  cmac : doCmd56CmacHash aes ctx request.data
      (makeInt24 request.command 0x0 request.additionalDataSize) 0x20 =
    GetP18KeyAndCmacSignatureRequest.cmacSignature.get request.data
  challenge :
    let challenge := GetP18KeyAndCmacSignatureRequest.challengeBytes.get
      (decryptCbcZeroIv aes ctx request.data 0x20)
    first challenge ||| 0x80 = first challenge

/-- The `type` byte takes no part in the test. -/
theorem p18RequestInvalid_iff (req : Bytes 0x1d1) :
    p18RequestInvalid req = true ↔
      first (GetP18KeyAndCmacSignatureRequest.challengeBytes.get req) ||| 0x80 ≠
        first (GetP18KeyAndCmacSignatureRequest.challengeBytes.get req) := by
  have hneither : ∀ type : UInt8, (type != 0x2 || type != 0x3) = true := by
    intro type
    by_cases h : type = 0x2
    · subst h; rfl
    · simp [h]
  simp only [p18RequestInvalid, hneither, Bool.true_and, bne_iff_ne]

/-- A valid request is answered with the key, encrypted and signed. -/
theorem handleP18keyAndCmacSignature_answers (x : CartStep ρ)
    (h : P18RequestValid aes x.state.secondaryKey x.request) :
    let y := handleP18keyAndCmacSignature aes x
    y.response.errorCode = 0 ∧
      CarriesP18Key aes x.state.secondaryKey
        (GetP18KeyAndCmacSignatureRequest.challengeBytes.get
          (decryptCbcZeroIv aes x.state.secondaryKey x.request.data 0x20))
        y.response x.state.perCartKeys.packet18Key ∧
      y.state = x.state := by
  have hvalid : ¬ p18RequestInvalid (decryptCbcZeroIv aes x.state.secondaryKey
      x.request.data 0x20) = true := by
    rw [p18RequestInvalid_iff, not_not]
    exact h.challenge
  rw [handleP18keyAndCmacSignature]
  dsimp only
  rw [if_pos ((memcmp_eq_zero _ _).mpr h.cmac), if_neg hvalid]
  refine ⟨?_, ⟨_, ⟨?_, rfl⟩, ?_, ?_⟩, rfl⟩
  · simp [cmd56ResponseStart, Cmd56Response.zero]
  · rw [cmac_put aes _ _ _ _ _ _ _ (by decide), Field.get_put_same]
  · rw [decrypt_put _ _ _ _ _ _ _ (by decide), decrypt_encrypt,
      Field.get_put_apart _ _ _ _ (by decide), Field.get_put_apart _ _ _ _ (by decide),
      Field.get_put_same]
  · rw [decrypt_put _ _ _ _ _ _ _ (by decide), decrypt_encrypt,
      Field.get_put_apart _ _ _ _ (by decide), Field.get_put_same]

/-- Every other request is refused. -/
theorem handleP18keyAndCmacSignature_refuses (x : CartStep ρ)
    (h : ¬ P18RequestValid aes x.state.secondaryKey x.request) :
    let y := handleP18keyAndCmacSignature aes x
    y.response.errorCode ≠ 0 ∧ y.state = x.state := by
  rw [handleP18keyAndCmacSignature]
  dsimp only
  split
  · next hcmac =>
    split
    · exact ⟨show (0x11 : UInt8) ≠ 0 by decide, rfl⟩
    · next hvalid =>
      rw [p18RequestInvalid_iff, not_not] at hvalid
      exact absurd ⟨(memcmp_eq_zero _ _).mp hcmac, hvalid⟩ h
  · exact ⟨show (0xF4 : UInt8) ≠ 0 by decide, rfl⟩

theorem handleP18keyAndCmacSignature_state (x : CartStep ρ) :
    (handleP18keyAndCmacSignature aes x).state = x.state := by
  by_cases h : P18RequestValid aes x.state.secondaryKey x.request
  · exact (handleP18keyAndCmacSignature_answers aes x h).2.2
  · exact (handleP18keyAndCmacSignature_refuses aes x h).2

/-! ## Packet 20 -/

/-- The packet 20 key comes with the masked challenge, encrypted and signed. -/
theorem handleP20keyAndCmacSignature_answers (x : CartStep ρ) :
    let y := handleP20keyAndCmacSignature aes rng x
    y.response.errorCode = 0 ∧
      CarriesP20Key aes x.state.secondaryKey
        (GetP20KeyAndCmacSignatureRequest.challengeBytes.get x.request.data)
        y.response x.state.perCartKeys.packet20Key ∧
      y.state = x.state := by
  rw [handleP20keyAndCmacSignature]
  refine ⟨?_, ⟨_, ⟨?_, rfl⟩, ?_, ?_⟩, rfl⟩
  · simp [cmd56ResponseStart, Cmd56Response.zero]
  · rw [cmac_put aes _ _ _ _ _ _ _ (by decide), Field.get_put_same]
  · rw [decrypt_put _ _ _ _ _ _ _ (by decide), decrypt_encrypt,
      Field.get_put_apart _ _ _ _ (by decide), Field.get_put_apart _ _ _ _ (by decide),
      Field.get_put_same, afterFirst_orW80]
  · rw [decrypt_put _ _ _ _ _ _ _ (by decide), decrypt_encrypt,
      Field.get_put_apart _ _ _ _ (by decide), Field.get_put_same]

end GcToolKit.Cmd56
