import GcToolKit.Cmd56.Sm

/-!
# The cart side of CMD56 (cmd56/gc.c)

`gcCmd56Run` answers one request. A handler reads and writes a `CartStep`: the
cart's state, the request buffer (some handlers decrypt it in place), the
response buffer and the random source.
-/

namespace GcToolKit.Cmd56

open ByteBuf GcToolKit.Crypto

structure GcCmd56State where
  lockStatus : UInt16
  keyId : UInt16
  perCartKeys : Cmd56Keys
  cartRandom : Bytes 0x20
  /-- `vita_part`, then `cart_part`. -/
  sharedRandom : Bytes 0x20
  sessionKey : AesCtx
  secondaryKey : AesCtx
deriving DecidableEq

structure CartStep (ρ : Type) where
  state : GcCmd56State
  request : Cmd56Request
  response : Cmd56Response
  rand : ρ

variable {ρ : Type} (aes : BlockCipher) (rng : Rng ρ)

/-! ## Handlers -/

def handleCmdStart (x : CartStep ρ) : CartStep ρ :=
  let response := cmd56ResponseStart x.request
  { x with
    state := { x.state with lockStatus := gcLocked }
    response := { response with
      data := ((response.data.set 0xD 0x1).set 0xE 0x1).set 0xF 0x4 } }

def handleCmdStatus (x : CartStep ρ) : CartStep ρ :=
  let response := cmd56ResponseStart x.request
  { x with
    response := { response with
      data := GetStatusResponse.status.put response.data (u16Bytes x.state.lockStatus) } }

/-- The first thirteen bytes of every `cart_random`. -/
def cartRandomFixed : Bytes 0xD :=
  #v[0x00, 0x01, 0x00, 0x01, 0x00, 0x00, 0x00, 0x00, 0x00, 0x00, 0x00, 0x04, 0x00]

/-- `stack` stands for the uninitialised local that holds the session key when
the key id has no seed: the result of `derive_session_key` is not looked at. -/
def handleGenerateSessionKey (stack : AesBlock) (x : CartStep ρ) : CartStep ρ :=
  let response := cmd56ResponseStart x.request
  let data := GenerateSessionKeyResponse.unk0.put response.data (u16Bytes (endianSwap 0xE000))
  let data := GenerateSessionKeyResponse.keyId.put data (u16Bytes (endianSwap x.state.keyId))
  let data := GenerateSessionKeyResponse.unk1.put data (u16Bytes (endianSwap 0x2))
  let data := GenerateSessionKeyResponse.unk2.put data (u16Bytes (endianSwap 0x3))
  let (random, rand) := rng.randBytes 0x20 x.rand
  let cartRandom : Bytes 0x20 := splice random 0 cartRandomFixed
  let data := GenerateSessionKeyResponse.cartRandom.put data cartRandom
  let sessionKey := (deriveSessionKey aes cartRandom x.state.keyId).getD stack
  { x with
    state := { x.state with cartRandom, sessionKey := aesInitCtx aes sessionKey }
    response := { response with data }
    rand }

def handleExchangeSharedRandom (x : CartStep ρ) : CartStep ρ :=
  let response := cmd56ResponseStart x.request
  let reqKeyId := u16OfBytes (ExchangeSharedRandomRequest.keyId.get x.request.data)
  if endianSwap reqKeyId = x.state.keyId then
    let vitaPart := orW80 (ExchangeSharedRandomRequest.sharedRandVita.get x.request.data)
    let (random, rand) := rng.randBytes 0x10 x.rand
    let cartPart := orW80 random
    let sharedRandom := SharedRandom.cartPart.put
      (SharedRandom.vitaPart.put x.state.sharedRandom vitaPart) cartPart
    -- sent back in reverse order
    let data := ExchangeSharedRandomResponse.sharedRandCart.put response.data cartPart
    let data := ExchangeSharedRandomResponse.sharedRandVita.put data vitaPart
    let data := encryptCbcZeroIv aes x.state.sessionKey data ExchangeSharedRandomResponse.size
      ExchangeSharedRandomResponse.blocks_le
    { x with
      state := { x.state with sharedRandom }
      response := { response with data }
      rand }
  else
    { x with response := cmd56ResponseError response 0x11 }

def handleExchangeSecondaryKeyAndVerifySession (x : CartStep ρ) : CartStep ρ :=
  let response := cmd56ResponseStart x.request
  let req := decryptCbcZeroIv aes x.state.sessionKey x.request.data
    ExchangeSecondaryKeyAndVerifySessionRequest.size
    ExchangeSecondaryKeyAndVerifySessionRequest.blocks_le
  let request := { x.request with data := req }
  let secondaryKey := aesInitCtx aes
    (ExchangeSecondaryKeyAndVerifySessionRequest.secondaryKey.get req)
  if memcmp (ExchangeSecondaryKeyAndVerifySessionRequest.challengeBytes.get req)
      x.state.sharedRandom = 0 then
    { x with
      state := { x.state with secondaryKey, lockStatus := gcUnlocked }
      request, response }
  else
    { x with
      state := { x.state with secondaryKey, lockStatus := gcLocked }
      request
      response := cmd56ResponseError response 0xF1 }

def handleVerifySecondaryKey (x : CartStep ρ) : CartStep ρ :=
  let response := cmd56ResponseStart x.request
  -- the padding is random, so the whole structure is randomised first
  let (random, rand) := rng.randBytes VerifySecondaryKeyResponse.size x.rand
  let data := VerifySecondaryKeyResponse.whole.put response.data random
  let challenge := orW80 (VerifySecondaryKeyRequest.challengeBytes.get x.request.data)
  let data := VerifySecondaryKeyResponse.challengeBytes.put data challenge
  let data := VerifySecondaryKeyResponse.cartRandom.put data x.state.cartRandom
  let data := encryptCbcZeroIv aes x.state.secondaryKey data 0x40
    VerifySecondaryKeyResponse.blocks_le
  { x with response := { response with data }, rand }

/-- The first two operands of the type test can not both be false, so only the
challenge decides. -/
def p18RequestInvalid (req : Bytes 0x1d1) : Bool :=
  let type := first (GetP18KeyAndCmacSignatureRequest.type.get req)
  let challenge := first (GetP18KeyAndCmacSignatureRequest.challengeBytes.get req)
  (type != 0x2 || type != 0x3) && (challenge ||| 0x80) != challenge

def handleP18keyAndCmacSignature (x : CartStep ρ) : CartStep ρ :=
  let response := cmd56ResponseStart x.request
  let gotCmac := doCmd56CmacHash aes x.state.secondaryKey x.request.data
    (makeInt24 x.request.command 0x0 x.request.additionalDataSize) 0x20
    GetP18KeyAndCmacSignatureRequest.signed_le GetP18KeyAndCmacSignatureRequest.cmacInput_le
  if memcmp gotCmac (GetP18KeyAndCmacSignatureRequest.cmacSignature.get x.request.data) = 0 then
    let req := decryptCbcZeroIv aes x.state.secondaryKey x.request.data 0x20
    let request := { x.request with data := req }
    if p18RequestInvalid req then
      { x with request, response := cmd56ResponseError response 0x11 }
    else
      let challenge := GetP18KeyAndCmacSignatureRequest.challengeBytes.get req
      let data := GetP18KeyAndCmacSignatureResponse.challengeBytes.put response.data challenge
      let data := GetP18KeyAndCmacSignatureResponse.p18Key.put data x.state.perCartKeys.packet18Key
      let data := encryptCbcZeroIv aes x.state.secondaryKey data 0x30
        GetP18KeyAndCmacSignatureResponse.blocks_le
      let cmac := doCmd56CmacHash aes x.state.secondaryKey data
        response.responseSize.toUInt32 0x30
        GetP18KeyAndCmacSignatureResponse.signed_le GetP18KeyAndCmacSignatureResponse.cmacInput_le
      let data := GetP18KeyAndCmacSignatureResponse.cmacSignature.put data cmac
      { x with request, response := { response with data } }
  else
    { x with response := cmd56ResponseError response 0xF4 }

def handleP20keyAndCmacSignature (x : CartStep ρ) : CartStep ρ :=
  let response := cmd56ResponseStart x.request
  -- the padding is random, so the whole structure is randomised first
  let (random, rand) := rng.randBytes GetP20KeyAndCmacSignatureResponse.size x.rand
  let data := GetP20KeyAndCmacSignatureResponse.whole.put response.data random
  let challenge := orW80 (GetP20KeyAndCmacSignatureRequest.challengeBytes.get x.request.data)
  let data := GetP20KeyAndCmacSignatureResponse.challengeBytes.put data challenge
  let data := GetP20KeyAndCmacSignatureResponse.p20Key.put data x.state.perCartKeys.packet20Key
  let data := encryptCbcZeroIv aes x.state.secondaryKey data 0x40
    GetP20KeyAndCmacSignatureResponse.blocks_le
  let cmac := doCmd56CmacHash aes x.state.secondaryKey data response.responseSize.toUInt32 0x40
    GetP20KeyAndCmacSignatureResponse.signed_le GetP20KeyAndCmacSignatureResponse.cmacInput_le
  let data := GetP20KeyAndCmacSignatureResponse.cmacSignature.put data cmac
  { x with response := { response with data }, rand }

def handleUnknownRequest (x : CartStep ρ) : CartStep ρ :=
  { x with response := cmd56ResponseError (cmd56ResponseStart x.request) 0x11 }

def handleRequest (stack : AesBlock) (x : CartStep ρ) : CartStep ρ :=
  match Cmd56Command.ofCode x.request.command with
  | some .start => handleCmdStart x
  | some .getStatus => handleCmdStatus x
  | some .generateSessionKey => handleGenerateSessionKey aes rng stack x
  | some .exchangeSharedRandom => handleExchangeSharedRandom aes rng x
  | some .exchangeSecondaryKeyAndVerifySession =>
      handleExchangeSecondaryKeyAndVerifySession aes x
  | some .verifySecondaryKey => handleVerifySecondaryKey aes rng x
  | some .getP18KeyAndCmacSignature => handleP18keyAndCmacSignature aes x
  | some .getP20KeyAndCmacSignature => handleP20keyAndCmacSignature aes rng x
  | none => handleUnknownRequest x

/-! ## Exposed functions -/

/-- `buffer` is the request, `response` the buffer the answer goes to, which
stays as it was when the magic does not match. -/
def gcCmd56Run (stack : AesBlock) (state : GcCmd56State) (rand : ρ) (buffer : Cmd56Request)
    (response : Cmd56Response) : CartStep ρ :=
  let x : CartStep ρ := ⟨state, buffer, response, rand⟩
  if memcmp buffer.magic cmd56Magic ≠ 0 then x else handleRequest aes rng stack x

section Magic

variable {stack : AesBlock} {state : GcCmd56State} {rand : ρ} {buffer : Cmd56Request}
  {response : Cmd56Response}

theorem gcCmd56Run_of_magic (h : buffer.magic = cmd56Magic) :
    gcCmd56Run aes rng stack state rand buffer response =
      handleRequest aes rng stack ⟨state, buffer, response, rand⟩ :=
  if_neg (not_not.mpr ((memcmp_eq_zero _ _).mpr h))

/-- Other traffic is left alone. -/
theorem gcCmd56Run_of_other_magic (h : buffer.magic ≠ cmd56Magic) :
    gcCmd56Run aes rng stack state rand buffer response = ⟨state, buffer, response, rand⟩ :=
  if_pos (mt (memcmp_eq_zero _ _).mp h)

end Magic

/-- The seeding of the generator done by the initialisation functions. -/
structure CartInit where
  state : GcCmd56State
  randState : AesBlock

def gcCmd56UpdateKeyid (x : CartInit) (keyId : UInt16) : CartInit :=
  { state := { x.state with keyId }
    randState := randSeed x.randState (u16Bytes keyId).toList }

/-- Both key pointers present; the two `NULL` cases skip their half. -/
def gcCmd56UpdateKeysEx (x : CartInit) (p20Key p18Key : Option (Bytes 0x20)) : CartInit :=
  let keys := x.state.perCartKeys
  let keys := match p20Key with
    | some k => { keys with packet20Key := k }
    | none => keys
  let keys := match p18Key with
    | some k => { keys with packet18Key := k }
    | none => keys
  let seeded := match p20Key with
    | some k => randSeed x.randState k.toList
    | none => x.randState
  let seeded := match p18Key with
    | some k => randSeed seeded k.toList
    | none => seeded
  { state := { x.state with perCartKeys := keys }, randState := seeded }

def gcCmd56UpdateKeys (x : CartInit) (perCartKeys : Option Cmd56Keys) : CartInit :=
  match perCartKeys with
  | some keys => gcCmd56UpdateKeysEx x (some keys.packet20Key) (some keys.packet18Key)
  | none => x

/-- The state after `memset(state, 0, sizeof(gc_cmd56_state))`. -/
def GcCmd56State.zero : GcCmd56State where
  lockStatus := 0
  keyId := 0
  perCartKeys := Cmd56Keys.zero
  cartRandom := Vector.replicate 0x20 0
  sharedRandom := Vector.replicate 0x20 0
  sessionKey := AesCtx.zero
  secondaryKey := AesCtx.zero

def gcCmd56Init (randState : AesBlock) (perCartKeys : Option Cmd56Keys) : CartInit :=
  let x : CartInit := ⟨{ GcCmd56State.zero with lockStatus := gcLocked }, randState⟩
  gcCmd56UpdateKeys (gcCmd56UpdateKeyid x retailKeyId) perCartKeys

end GcToolKit.Cmd56
