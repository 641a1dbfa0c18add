import GcToolKit.Cmd56.Answers
import GcToolKit.Cmd56.Steps

/-!
# The console against an honest cart

`cartTransport` answers every packet with `gcCmd56Run`. One lemma for each step
of the handshake says that the step succeeds and what it does to the two
states; chained, they give completeness and key agreement from every leftover
state of both parties.
-/

namespace GcToolKit.Cmd56

open ByteBuf GcToolKit.Crypto

/-- The cart at the other end, with the packet it was sent. -/
structure CartBus (ρ : Type) where
  gc : GcCmd56State
  rand : ρ
  pending : Cmd56Request

variable {ρ ρ' : Type} (aes : BlockCipher) (rng : Rng ρ) (cartRng : Rng ρ') (stack : AesBlock)

/-- Every sent request is answered by `gc_cmd56_run`. -/
def cartTransport : Transport (CartBus ρ') where
  send request bus := { bus with pending := request }
  recv buffer bus :=
    let y := gcCmd56Run aes cartRng stack bus.gc bus.rand bus.pending buffer
    (y.response, ⟨y.state, y.rand, y.request⟩)

/-! ## One exchange -/

variable (x : VitaRun (CartBus ρ') ρ)

/-- What the cart does with `request`, as seen from the run `x`. -/
def cartAnswer (request : Cmd56Request) (x : VitaRun (CartBus ρ') ρ) : CartStep ρ' :=
  handleRequest aes cartRng stack ⟨x.bus.gc, request, x.response, x.bus.rand⟩

section Exchange

variable (request : Cmd56Request) (h : request.magic = cmd56Magic)
include h

/-- A request with the right magic reaches its handler. -/
theorem exchange_cart :
    (exchange (cartTransport aes cartRng stack) request x).response =
        (cartAnswer aes cartRng stack request x).response ∧
      (exchange (cartTransport aes cartRng stack) request x).bus.gc =
        (cartAnswer aes cartRng stack request x).state := by
  simp [exchange, sendPacket, cartTransport, gcCmd56Run, cartAnswer, h]

theorem exchangeDrawn_cart :
    (exchangeDrawn rng (cartTransport aes cartRng stack) request x).response =
        (cartAnswer aes cartRng stack request x).response ∧
      (exchangeDrawn rng (cartTransport aes cartRng stack) request x).bus.gc =
        (cartAnswer aes cartRng stack request x).state := by
  simp [exchangeDrawn, sendPacket, cartTransport, gcCmd56Run, cartAnswer, h]

end Exchange

/-! ## The steps -/

theorem startRequest_cart :
    ∃ y, startRequest (cartTransport aes cartRng stack) x = (.ok, y) ∧
      y.state = x.state ∧ y.bus.gc = { x.bus.gc with lockStatus := gcLocked } := by
  rcases exchange_cart aes cartRng stack x startPacket rfl with ⟨hresp, hgc⟩
  have hans : cartAnswer aes cartRng stack startPacket x =
      handleCmdStart ⟨x.bus.gc, startPacket, x.response, x.bus.rand⟩ := rfl
  refine ⟨_, (startRequest_eq_ok _).mpr ⟨?_, ?_, rfl⟩, rfl, ?_⟩
  · rw [hresp, hans]
    simp [handleCmdStart, cmd56ResponseStart, Cmd56Response.zero, Field.get, first, second]
  · rw [hresp, hans]
    simp [handleCmdStart, cmd56ResponseStart, Cmd56Response.zero]
  · exact hgc.trans (by rw [hans, handleCmdStart])

theorem getStatus_cart :
    ∃ y, getStatus (cartTransport aes cartRng stack) x = (.ok, y) ∧
      y.state = { x.state with lockStatus := x.bus.gc.lockStatus } ∧ y.bus.gc = x.bus.gc := by
  rcases exchange_cart aes cartRng stack x statusPacket rfl with ⟨hresp, hgc⟩
  have hans : cartAnswer aes cartRng stack statusPacket x =
      handleCmdStatus ⟨x.bus.gc, statusPacket, x.response, x.bus.rand⟩ := rfl
  have hstatus : reportedStatus (cartAnswer aes cartRng stack statusPacket x).response =
      x.bus.gc.lockStatus := by
    simp [hans, handleCmdStatus, reportedStatus]
  refine ⟨_, (getStatus_eq_ok _).mpr ⟨?_, rfl⟩, ?_, ?_⟩
  · rw [hresp, hans]
    simp [handleCmdStatus, cmd56ResponseStart, Cmd56Response.zero]
  · rw [hresp, hstatus]
  · exact hgc.trans (by rw [hans, handleCmdStatus])

theorem getSessionKey_cart (hsupported : (keySeed x.bus.gc.keyId).isSome)
    (hpolicy : ¬ (x.state.allowPrototypeKeys = 1 ∧ x.bus.gc.keyId > prototypeKeyId1)) :
    ∃ y cartRandom sessionKey,
      getSessionKey aes (cartTransport aes cartRng stack) x = (.ok, y) ∧
      y.state = { x.state with keyId := x.bus.gc.keyId, cartRandom, sessionKey } ∧
      y.bus.gc = { x.bus.gc with cartRandom, sessionKey } := by
  rcases exchange_cart aes cartRng stack x sessionKeyPacket rfl with ⟨hresp, hgc⟩
  obtain ⟨herr, hid, cartRandom, hrandom, hstate⟩ := handleGenerateSessionKey_announces aes
    cartRng stack ⟨x.bus.gc, sessionKeyPacket, x.response, x.bus.rand⟩
  have hans : cartAnswer aes cartRng stack sessionKeyPacket x =
      handleGenerateSessionKey aes cartRng stack
        ⟨x.bus.gc, sessionKeyPacket, x.response, x.bus.rand⟩ := rfl
  obtain ⟨key, hkey⟩ : ∃ key, deriveSessionKey aes cartRandom x.bus.gc.keyId = some key := by
    rw [← Option.isSome_iff_exists]
    simpa [deriveSessionKey] using hsupported
  rw [← hans] at herr hid hrandom hstate
  refine ⟨_, cartRandom, aesInitCtx aes key,
    (getSessionKey_eq_ok _ _).mpr ⟨?_, ?_, key, ?_, rfl⟩, ?_, ?_⟩
  · rw [hresp, hid]
    exact hpolicy
  · rw [hresp, herr]
  · rw [hresp, hid, hrandom, hkey]
  · rw [hresp, hid, hrandom]
  · rw [hkey] at hstate
    exact hgc.trans hstate

/-- The key id a request carries. -/
theorem sharedRandomRequest_keyId (keyId : UInt16) (random : AesBlock) :
    endianSwap (u16OfBytes (ExchangeSharedRandomRequest.keyId.get
      (sharedRandomRequest keyId random).data)) = keyId := by
  rw [sharedRandomRequest, Field.get_put_apart _ _ _ _ (by decide), Field.get_put_same,
    u16OfBytes_u16Bytes, endianSwap_endianSwap]

/-- Masking the parts one by one masks the whole. -/
theorem orW80_halves (b b' : Bytes 0x20) (v c : AesBlock) :
    orW80 (SharedRandom.cartPart.put (SharedRandom.vitaPart.put b v) c) =
      SharedRandom.cartPart.put (SharedRandom.vitaPart.put b' (orW80 v)) (orW80 c) := by
  rw [orW80_put _ _ _ (by decide), orW80_put _ _ _ (by decide)]
  exact sharedRandom_covered _ _ _ _

/-- Both halves of the shared random are masked by the cart; the console masks
its own copy in the next step. -/
theorem exchangeSharedRandom_cart (hid : x.state.keyId = x.bus.gc.keyId)
    (hkey : x.state.sessionKey = x.bus.gc.sessionKey) :
    ∃ y sharedRandom,
      exchangeSharedRandom aes rng (cartTransport aes cartRng stack) x = (.ok, y) ∧
      y.state = { x.state with sharedRandom } ∧
      y.bus.gc = { x.bus.gc with sharedRandom := orW80 sharedRandom } := by
  let random := drawn rng x.rand
  let request := sharedRandomRequest x.state.keyId random
  let z := { x with state := { x.state with
    sharedRandom := SharedRandom.vitaPart.put x.state.sharedRandom random } }
  rcases exchangeDrawn_cart aes rng cartRng stack z request rfl with ⟨hresp, hgc⟩
  have hans : cartAnswer aes cartRng stack request z =
      handleExchangeSharedRandom aes cartRng ⟨x.bus.gc, request, x.response, x.bus.rand⟩ := rfl
  have hreqid : endianSwap (u16OfBytes (ExchangeSharedRandomRequest.keyId.get request.data)) =
      x.bus.gc.keyId := (sharedRandomRequest_keyId _ _).trans hid
  have hreqvita : ExchangeSharedRandomRequest.sharedRandVita.get request.data = random :=
    Field.get_put_same _ _ _
  obtain ⟨herr, hvita, cart, hcart, hstate⟩ := handleExchangeSharedRandom_answers aes cartRng
    ⟨x.bus.gc, request, x.response, x.bus.rand⟩ hreqid
  dsimp only at herr hvita hcart hstate
  rw [← hans, hreqvita] at hvita hstate
  rw [← hans] at herr hcart
  refine ⟨_, _, (exchangeSharedRandom_eq_ok _ _ _).mpr ⟨?_, ?_, rfl⟩, rfl, ?_⟩
  · rw [hresp, herr]
  · rw [hresp, hkey, hvita, afterFirst_orW80]
  · refine hgc.trans (hstate.trans ?_)
    rw [hresp, hkey, hcart, orW80_halves _ x.bus.gc.sharedRandom, orW80_orW80]

/-- The console's proof is accepted: the cart unlocks and takes over the key. -/
theorem generateSecondaryKeyAndVerifySession_cart
    (hkey : x.state.sessionKey = x.bus.gc.sessionKey)
    (hshared : x.bus.gc.sharedRandom = orW80 x.state.sharedRandom) :
    ∃ y secondaryKey,
      generateSecondaryKeyAndVerifySession aes rng (cartTransport aes cartRng stack) x =
        (.ok, y) ∧
      y.state = { x.state with secondaryKey, sharedRandom := orW80 x.state.sharedRandom } ∧
      y.bus.gc = { x.bus.gc with secondaryKey, lockStatus := gcUnlocked } := by
  let random := drawn rng x.rand
  let request := secondaryKeyRequest aes x.state.sessionKey random (orW80 x.state.sharedRandom)
  let z := { x with state := { x.state with
    secondaryKey := aesInitCtx aes random, sharedRandom := orW80 x.state.sharedRandom } }
  rcases exchangeDrawn_cart aes rng cartRng stack z request rfl with ⟨hresp, hgc⟩
  have hans : cartAnswer aes cartRng stack request z =
      handleExchangeSecondaryKeyAndVerifySession aes
        ⟨x.bus.gc, request, x.response, x.bus.rand⟩ := rfl
  have hreq : request = secondaryKeyRequest aes x.bus.gc.sessionKey random
      x.bus.gc.sharedRandom := by rw [hshared, ← hkey]
  obtain ⟨herr, hstate⟩ := handleExchangeSecondaryKeyAndVerifySession_accepts aes
    ⟨x.bus.gc, request, x.response, x.bus.rand⟩ random hreq
  rw [← hans] at herr hstate
  refine ⟨_, aesInitCtx aes random, (generateSecondaryKeyAndVerifySession_eq_ok _ _ _).mpr
    ⟨?_, rfl⟩, rfl, ?_⟩
  · rw [hresp, herr]
  · exact hgc.trans hstate

theorem verifySecondaryKey_cart (hkey : x.state.secondaryKey = x.bus.gc.secondaryKey)
    (hrandom : x.state.cartRandom = x.bus.gc.cartRandom) :
    ∃ y, verifySecondaryKey aes rng (cartTransport aes cartRng stack) x = (.ok, y) ∧
      y.state = x.state ∧ y.bus.gc = x.bus.gc := by
  let challenge := orW80 (drawn rng x.rand)
  let request := verifyRequest challenge
  rcases exchangeDrawn_cart aes rng cartRng stack x request rfl with ⟨hresp, hgc⟩
  have hans : cartAnswer aes cartRng stack request x =
      handleVerifySecondaryKey aes cartRng ⟨x.bus.gc, request, x.response, x.bus.rand⟩ := rfl
  have hreq : VerifySecondaryKeyRequest.challengeBytes.get request.data = challenge :=
    Field.get_put_same _ _ _
  obtain ⟨herr, hchallenge, hcart, hstate⟩ := handleVerifySecondaryKey_answers aes cartRng
    ⟨x.bus.gc, request, x.response, x.bus.rand⟩
  dsimp only at herr hchallenge hcart hstate
  rw [← hans] at herr hcart hstate
  rw [← hans, hreq] at hchallenge
  refine ⟨_, (verifySecondaryKey_eq_ok _ _ _).mpr ⟨?_, ?_, ?_, rfl⟩, rfl, ?_⟩
  · rw [hresp, hkey, hchallenge, afterFirst_orW80]
  · rw [hresp, hkey, hcart, hrandom]
  · rw [hresp, herr]
  · exact hgc.trans hstate

/-- The cart's view of the console's request: the signature was written over the
last encrypted block, and the two blocks before it decrypt. -/
theorem plain_p18Request (ctx : AesCtx) (challenge : AesBlock) (type : UInt8) :
    ∃ cmac, decryptCbcZeroIv aes ctx (p18Request aes ctx challenge type).data 0x20 =
      GetP18KeyAndCmacSignatureRequest.cmacSignature.put
        (GetP18KeyAndCmacSignatureRequest.type.put
          (GetP18KeyAndCmacSignatureRequest.pad0.put
            (GetP18KeyAndCmacSignatureRequest.challengeBytes.put (Vector.replicate 0x1d1 0)
              challenge) (Vector.replicate 0xF 0x00)) #v[type]) cmac := by
  have hlast : ∀ (data : Bytes 0x1d1) (cmac : AesBlock),
      GetP18KeyAndCmacSignatureRequest.cmacSignature.put
          (encryptCbcZeroIv aes ctx data GetP18KeyAndCmacSignatureRequest.size) cmac =
        GetP18KeyAndCmacSignatureRequest.cmacSignature.put
          (encryptCbcZeroIv aes ctx data 0x20) cmac := fun data cmac =>
    Cbc.splice_cbcEncrypt_last 2 data zeroIv 0 (by decide) cmac (by decide)
  refine ⟨GetP18KeyAndCmacSignatureRequest.cmacSignature.get
    (p18Request aes ctx challenge type).data, ?_⟩
  simp only [p18Request, hlast]
  rw [decrypt_put _ _ _ _ _ _ _ (by decide), decrypt_encrypt, Field.get_put_same]
  rfl

theorem decrypt_p18Request (ctx : AesCtx) (challenge : AesBlock) (type : UInt8) :
    GetP18KeyAndCmacSignatureRequest.challengeBytes.get
      (decryptCbcZeroIv aes ctx (p18Request aes ctx challenge type).data 0x20) = challenge := by
  rcases plain_p18Request aes ctx challenge type with ⟨cmac, hplain⟩
  rw [hplain, Field.get_put_apart _ _ _ _ (by decide), Field.get_put_apart _ _ _ _ (by decide),
    Field.get_put_apart _ _ _ _ (by decide), Field.get_put_same]

/-- The signature in the console's request verifies on the cart's side. -/
theorem cmac_p18Request (ctx : AesCtx) (challenge : AesBlock) (type : UInt8) :
    let request := p18Request aes ctx challenge type
    doCmd56CmacHash aes ctx request.data
        (makeInt24 request.command 0x0 request.additionalDataSize) 0x20 =
      GetP18KeyAndCmacSignatureRequest.cmacSignature.get request.data := by
  dsimp only [p18Request]
  rw [cmac_put aes _ _ _ _ _ _ _ (by decide), Field.get_put_same]

/-- The cart accepts every packet 18 request of the console. -/
theorem p18Request_valid (ctx : AesCtx) (random : AesBlock) (type : UInt8) :
    P18RequestValid aes ctx (p18Request aes ctx (orW80 random) type) where
  cmac := cmac_p18Request aes ctx (orW80 random) type
  challenge := by
    rw [decrypt_p18Request]
    simp [first, UInt8.or_assoc]

theorem getPacket18Key_cart (type : UInt8) (hkey : x.state.secondaryKey = x.bus.gc.secondaryKey) :
    ∃ y, getPacket18Key aes rng (cartTransport aes cartRng stack) type x = (.ok, y) ∧
      y.state = { x.state with perCartKeys := { x.state.perCartKeys with
        packet18Key := x.bus.gc.perCartKeys.packet18Key } } ∧
      y.bus.gc = x.bus.gc := by
  let random := drawn rng x.rand
  let request := p18Request aes x.state.secondaryKey (orW80 random) type
  rcases exchangeDrawn_cart aes rng cartRng stack x request rfl with ⟨hresp, hgc⟩
  have hans : cartAnswer aes cartRng stack request x =
      handleP18keyAndCmacSignature aes ⟨x.bus.gc, request, x.response, x.bus.rand⟩ := rfl
  have hvalid : P18RequestValid aes x.bus.gc.secondaryKey request := by
    rw [← hkey]
    exact p18Request_valid aes x.state.secondaryKey random type
  obtain ⟨herr, ⟨plain, ⟨hcmac, hplain⟩, hchallenge, hp18⟩, hstate⟩ :=
    handleP18keyAndCmacSignature_answers aes ⟨x.bus.gc, request, x.response, x.bus.rand⟩ hvalid
  dsimp only at herr hcmac hplain hchallenge hp18 hstate
  rw [← hans, ← hkey] at hcmac hplain
  rw [← hkey, decrypt_p18Request] at hchallenge
  rw [← hans] at herr hstate
  refine ⟨_, (getPacket18Key_eq_ok _ _ _ _).mpr ⟨?_, ?_, ?_, rfl⟩, ?_, ?_⟩
  · rw [hresp, herr]
  · rw [hresp, hcmac]
  · rw [hresp, hplain, hchallenge]
  · rw [hresp, hplain, hp18]
  · exact hgc.trans hstate

theorem getPacket20Key_cart (hkey : x.state.secondaryKey = x.bus.gc.secondaryKey) :
    ∃ y, getPacket20Key aes rng (cartTransport aes cartRng stack) x = (.ok, y) ∧
      y.state = { x.state with perCartKeys := { x.state.perCartKeys with
        packet20Key := x.bus.gc.perCartKeys.packet20Key } } ∧
      y.bus.gc = x.bus.gc := by
  let challenge := orW80 (drawn rng x.rand)
  let request := p20Request challenge
  rcases exchangeDrawn_cart aes rng cartRng stack x request rfl with ⟨hresp, hgc⟩
  have hans : cartAnswer aes cartRng stack request x =
      handleP20keyAndCmacSignature aes cartRng ⟨x.bus.gc, request, x.response, x.bus.rand⟩ := rfl
  have hreq : GetP20KeyAndCmacSignatureRequest.challengeBytes.get request.data = challenge :=
    Field.get_put_same _ _ _
  obtain ⟨herr, ⟨plain, ⟨hcmac, hplain⟩, hchallenge, hp20⟩, hstate⟩ :=
    handleP20keyAndCmacSignature_answers aes cartRng
      ⟨x.bus.gc, request, x.response, x.bus.rand⟩
  dsimp only at herr hcmac hplain hchallenge hp20 hstate
  rw [← hans, ← hkey] at hcmac hplain
  rw [hreq] at hchallenge
  rw [← hans] at herr hstate
  refine ⟨_, (getPacket20Key_eq_ok _ _ _).mpr ⟨?_, ?_, ?_, rfl⟩, ?_, ?_⟩
  · rw [hresp, herr]
  · rw [hresp, hcmac]
  · rw [hresp, hplain, hchallenge]
  · rw [hresp, hplain, hp20]
  · exact hgc.trans hstate

/-! ## The whole handshake -/

/-- What a completed handshake leaves behind on the two sides. -/
structure KeysAgree (state : VitaCmd56State) (gc : GcCmd56State) : Prop where
  packet18Key : state.perCartKeys.packet18Key = gc.perCartKeys.packet18Key
  packet20Key : state.perCartKeys.packet20Key = gc.perCartKeys.packet20Key
  keyId : state.keyId = gc.keyId
  cartRandom : state.cartRandom = gc.cartRandom

/-- The handshake from the first status on. -/
def afterStart {σ : Type} (t : Transport σ) (x : VitaRun σ ρ) : VitaErrorCode × VitaRun σ ρ :=
  checkSuccess (getStatus t x) fun x =>
  if x.state.lockStatus ≠ gcLocked then (.unlocked, x) else
  checkSuccess (getSessionKey aes t x) fun x =>
  checkSuccess (exchangeSharedRandom aes rng t x) fun x =>
  checkSuccess (generateSecondaryKeyAndVerifySession aes rng t x) fun x =>
  checkSuccess (getStatus t x) fun x =>
  if x.state.lockStatus ≠ gcUnlocked then (.locked, x) else
  checkSuccess (verifySecondaryKey aes rng t x) fun x =>
  checkSuccess (getPacket18Key aes rng t 0x2 x) fun x =>
  checkSuccess (getPacket18Key aes rng t 0x3 x) fun x =>
  checkSuccess (getPacket20Key aes rng t x) fun x =>
  (.ok, x)

theorem vitaCmd56Steps_eq {σ : Type} (t : Transport σ) (x : VitaRun σ ρ) :
    vitaCmd56Steps aes rng t x = checkSuccess (startRequest t x) (afterStart aes rng t) := rfl

/-- A locked cart with a supported key id that the console's policy lets pass
goes through the rest of the handshake, whatever either side had left over. -/
theorem afterStart_cart (hlock : x.bus.gc.lockStatus = gcLocked)
    (hsupported : (keySeed x.bus.gc.keyId).isSome)
    (hpolicy : ¬ (x.state.allowPrototypeKeys = 1 ∧ x.bus.gc.keyId > prototypeKeyId1)) :
    ∃ y, afterStart aes rng (cartTransport aes cartRng stack) x = (.ok, y) ∧
      y.bus.gc.lockStatus = gcUnlocked ∧ KeysAgree y.state y.bus.gc ∧
      y.bus.gc.perCartKeys = x.bus.gc.perCartKeys ∧ y.bus.gc.keyId = x.bus.gc.keyId := by
  rcases getStatus_cart aes cartRng stack x with ⟨x₂, h₂, hs₂, hg₂⟩
  have hlocked : x₂.state.lockStatus = gcLocked := by rw [hs₂, hlock]
  obtain ⟨x₃, random, sessionKey, h₃, hs₃, hg₃⟩ := getSessionKey_cart aes cartRng stack x₂
    (by rw [hg₂]; exact hsupported) (by rw [hs₂, hg₂]; exact hpolicy)
  obtain ⟨x₄, shared, h₄, hs₄, hg₄⟩ := exchangeSharedRandom_cart aes rng cartRng stack x₃
    (by rw [hs₃, hg₃]) (by rw [hs₃, hg₃])
  obtain ⟨x₅, secondaryKey, h₅, hs₅, hg₅⟩ :=
    generateSecondaryKeyAndVerifySession_cart aes rng cartRng stack x₄
      (by rw [hs₄, hg₄, hs₃, hg₃]) (by rw [hs₄, hg₄])
  rcases getStatus_cart aes cartRng stack x₅ with ⟨x₆, h₆, hs₆, hg₆⟩
  have hunlocked : x₆.state.lockStatus = gcUnlocked := by rw [hs₆, hg₅]
  obtain ⟨x₇, h₇, hs₇, hg₇⟩ := verifySecondaryKey_cart aes rng cartRng stack x₆
    (by rw [hs₆, hg₆, hs₅, hg₅]) (by rw [hs₆, hg₆, hs₅, hg₅, hs₄, hg₄, hs₃, hg₃])
  obtain ⟨x₈, h₈, hs₈, hg₈⟩ := getPacket18Key_cart aes rng cartRng stack x₇ 0x2
    (by rw [hs₇, hg₇, hs₆, hg₆, hs₅, hg₅])
  obtain ⟨x₉, h₉, hs₉, hg₉⟩ := getPacket18Key_cart aes rng cartRng stack x₈ 0x3
    (by rw [hs₈, hg₈, hs₇, hg₇, hs₆, hg₆, hs₅, hg₅])
  obtain ⟨y, h₁₀, hs₁₀, hg₁₀⟩ := getPacket20Key_cart aes rng cartRng stack x₉
    (by rw [hs₉, hg₉, hs₈, hg₈, hs₇, hg₇, hs₆, hg₆, hs₅, hg₅])
  -- from the secondary key on the cart only answers
  have hgc : y.bus.gc = { x₄.bus.gc with secondaryKey, lockStatus := gcUnlocked } := by
    rw [hg₁₀, hg₉, hg₈, hg₇, hg₆, hg₅]
  refine ⟨y, ?_, ?_, ⟨?_, ?_, ?_, ?_⟩, ?_, ?_⟩
  · simp [afterStart, h₂, hlocked, h₃, h₄, h₅, h₆, hunlocked, h₇, h₈, h₉, h₁₀]
  · rw [hgc]
  · rw [hs₁₀, hs₉, hg₁₀, hg₉]
  · rw [hs₁₀, hg₁₀]
  · rw [hs₁₀, hs₉, hs₈, hs₇, hs₆, hs₅, hs₄, hs₃, hgc, hg₄, hg₃]
  · rw [hs₁₀, hs₉, hs₈, hs₇, hs₆, hs₅, hs₄, hs₃, hgc, hg₄, hg₃]
  · rw [hgc, hg₄, hg₃, hg₂]
  · rw [hgc, hg₄, hg₃, hg₂]

/-- The whole handshake completes with such a cart: its first request locks it. -/
theorem vitaCmd56Steps_cart (hsupported : (keySeed x.bus.gc.keyId).isSome)
    (hpolicy : ¬ (x.state.allowPrototypeKeys = 1 ∧ x.bus.gc.keyId > prototypeKeyId1)) :
    ∃ y, vitaCmd56Steps aes rng (cartTransport aes cartRng stack) x = (.ok, y) ∧
      y.bus.gc.lockStatus = gcUnlocked ∧ KeysAgree y.state y.bus.gc ∧
      y.bus.gc.perCartKeys = x.bus.gc.perCartKeys ∧ y.bus.gc.keyId = x.bus.gc.keyId := by
  rcases startRequest_cart aes cartRng stack x with ⟨x₁, h₁, hs₁, hg₁⟩
  obtain ⟨y, hrun, hlock, hagree, hkeys, hkeyId⟩ := afterStart_cart aes rng cartRng stack x₁
    (by rw [hg₁]) (by rw [hg₁]; exact hsupported) (by rw [hs₁, hg₁]; exact hpolicy)
  refine ⟨y, ?_, hlock, hagree, ?_, ?_⟩
  · rw [vitaCmd56Steps_eq, h₁, checkSuccess_ok, hrun]
  · rw [hkeys, hg₁]
  · rw [hkeyId, hg₁]

/-- Where the console's test strikes, it does so against an honest cart too. -/
theorem vitaCmd56Steps_cart_refused
    (hpolicy : x.state.allowPrototypeKeys = 1 ∧ x.bus.gc.keyId > prototypeKeyId1) :
    (vitaCmd56Steps aes rng (cartTransport aes cartRng stack) x).1 ≠ .ok := by
  intro hok
  have hrun : vitaCmd56Steps aes rng (cartTransport aes cartRng stack) x =
      (.ok, (vitaCmd56Steps aes rng (cartTransport aes cartRng stack) x).2) := by rw [← hok]
  rcases startRequest_cart aes cartRng stack x with ⟨x₁, h₁, hs₁, hg₁⟩
  rcases getStatus_cart aes cartRng stack x₁ with ⟨x₂, h₂, hs₂, hg₂⟩
  have hlocked : x₂.state.lockStatus = gcLocked := by rw [hs₂, hg₁]
  conv_lhs at hrun =>
    rw [vitaCmd56Steps, h₁, checkSuccess_ok, h₂, checkSuccess_ok, if_neg (not_not.mpr hlocked)]
  rcases checkSuccess_eq_ok hrun with ⟨x₃, h₃, -⟩
  rcases (getSessionKey_eq_ok _ _).mp h₃ with ⟨htest, -⟩
  have hid : announcedKeyId
      (exchange (cartTransport aes cartRng stack) sessionKeyPacket x₂).response =
      x₂.bus.gc.keyId := by
    rw [(exchange_cart aes cartRng stack x₂ sessionKeyPacket rfl).1]
    exact (handleGenerateSessionKey_announces aes cartRng stack
      ⟨x₂.bus.gc, sessionKeyPacket, x₂.response, x₂.bus.rand⟩).2.1
  rw [hid, hs₂, hs₁, hg₂, hg₁] at htest
  exact htest hpolicy

/-- Completion for a run from cleared packet buffers. -/
theorem vitaCmd56Run_cart (state : VitaCmd56State) (bus : CartBus ρ') (rand : ρ)
    (hsupported : (keySeed bus.gc.keyId).isSome)
    (hpolicy : ¬ (state.allowPrototypeKeys = 1 ∧ bus.gc.keyId > prototypeKeyId1)) :
    let r := vitaCmd56Run aes rng (cartTransport aes cartRng stack) state bus rand
    r.1 = .ok ∧ r.2.bus.gc.lockStatus = gcUnlocked ∧ KeysAgree r.2.state r.2.bus.gc ∧
      r.2.bus.gc.perCartKeys = bus.gc.perCartKeys ∧ r.2.bus.gc.keyId = bus.gc.keyId := by
  obtain ⟨y, hy, h⟩ := vitaCmd56Steps_cart aes rng cartRng stack
    ⟨state, Cmd56Request.zero, Cmd56Response.zero, bus, rand, []⟩ hsupported hpolicy
  simp only [vitaCmd56Run, hy]
  exact ⟨trivial, h⟩

/-- Completeness and key agreement for the key ids in use. -/
theorem vitaCmd56Run_completes (state : VitaCmd56State) (bus : CartBus ρ') (rand : ρ)
    (hkey : bus.gc.keyId = retailKeyId ∨ bus.gc.keyId = prototypeKeyId1) :
    let r := vitaCmd56Run aes rng (cartTransport aes cartRng stack) state bus rand
    r.1 = .ok ∧ r.2.bus.gc.lockStatus = gcUnlocked ∧ KeysAgree r.2.state r.2.bus.gc ∧
      r.2.bus.gc.perCartKeys = bus.gc.perCartKeys ∧ r.2.bus.gc.keyId = bus.gc.keyId := by
  have hsupported : (keySeed bus.gc.keyId).isSome := by
    rcases hkey with h | h <;> rw [h] <;> rfl
  have hpolicy : ¬ (state.allowPrototypeKeys = 1 ∧ bus.gc.keyId > prototypeKeyId1) := by
    rintro ⟨-, hgt⟩
    rcases hkey with h | h <;> rw [h] at hgt <;> exact absurd hgt (by decide)
  exact vitaCmd56Run_cart aes rng cartRng stack state bus rand hsupported hpolicy

/-- The repository's own two sides, with its AES and its generator. -/
theorem vitaCmd56Run_completes_retail :
    (vitaCmd56Run tinyAes (libRng tinyAes)
      (cartTransport tinyAes (libRng tinyAes) zeroIv) (vitaCmd56Init 1 2)
      ⟨(gcCmd56Init randStateInit (some Cmd56Keys.zero)).state, randStateInit,
        Cmd56Request.zero⟩ randStateInit).1 = .ok :=
  (vitaCmd56Run_completes tinyAes (libRng tinyAes) (libRng tinyAes) zeroIv (vitaCmd56Init 1 2)
    ⟨(gcCmd56Init randStateInit (some Cmd56Keys.zero)).state, randStateInit,
      Cmd56Request.zero⟩ randStateInit (Or.inl rfl)).1

end GcToolKit.Cmd56
