import GcToolKit.Cmd56.Sm

/-!
# The console side of CMD56 (cmd56/vita.c)

`vitaCmd56Run` authenticates the cart behind a `Transport`. A `VitaRun` is what
the function works on: the console's state, its two packet buffers, what is
behind the callbacks, and the random source. The packets exchanged are logged,
so that results can speak about them.
-/

namespace GcToolKit.Cmd56

open ByteBuf GcToolKit.Crypto

inductive VitaErrorCode where
  | ok
  | invalidArgument
  | startFail
  | invalidKeyid
  | verifySharedRandomFail
  | verifySharedRandomInvalid
  | verifyVitaAuthProofFail
  | verifyCartRandomFail
  | verifyCartRandomChallengeInvalid
  | verifyCartRandomInvalidCartRandom
  | p18KeyChallangeFail
  | p18KeyInvalidCmac
  | p20KeyChallangeFail
  | p20KeyInvalidCmac
  | locked
  | unlocked
  | reported
deriving DecidableEq, Repr

/-- The value of the enumerator. -/
def VitaErrorCode.code : VitaErrorCode → Nat
  | ok => 0x00
  | invalidArgument => 0x8001000
  | startFail => 0x8001001
  | invalidKeyid => 0x8002001
  | verifySharedRandomFail => 0x8003001
  | verifySharedRandomInvalid => 0x8003002
  | verifyVitaAuthProofFail => 0x8004001
  | verifyCartRandomFail => 0x8005001
  | verifyCartRandomChallengeInvalid => 0x8005002
  | verifyCartRandomInvalidCartRandom => 0x8005003
  | p18KeyChallangeFail => 0x8006001
  | p18KeyInvalidCmac => 0x8006002
  | p20KeyChallangeFail => 0x8007001
  | p20KeyInvalidCmac => 0x8007002
  | locked => 0x8008001
  | unlocked => 0x8008002
  | reported => 0x800F001

/-- `send` and `recv` are the values of the callback pointers; `vita_part` of
`shared_random` comes first, then `cart_part`. -/
structure VitaCmd56State where
  send : UInt32
  recv : UInt32
  lockStatus : UInt16
  allowPrototypeKeys : UInt32
  keyId : UInt16
  perCartKeys : Cmd56Keys
  cartRandom : Bytes 0x20
  sharedRandom : Bytes 0x20
  sessionKey : AesCtx
  secondaryKey : AesCtx
deriving DecidableEq

/-- The state after `memset(state, 0x00, sizeof(vita_cmd56_state))`. -/
def VitaCmd56State.zero : VitaCmd56State where
  send := 0
  recv := 0
  lockStatus := 0
  allowPrototypeKeys := 0
  keyId := 0
  perCartKeys := Cmd56Keys.zero
  cartRandom := Vector.replicate 0x20 0
  sharedRandom := Vector.replicate 0x20 0
  sessionKey := AesCtx.zero
  secondaryKey := AesCtx.zero

abbrev ctrue : UInt32 := 1
abbrev cfalse : UInt32 := 0

/-! ## Callbacks -/

/-- What is behind `send` and `recv`, with state `σ`. `recv` is given the
buffer as it was, which a failing callback may leave alone. -/
structure Transport (σ : Type) where
  send : Cmd56Request → σ → σ
  recv : Cmd56Response → σ → Cmd56Response × σ

structure Exchange where
  request : Cmd56Request
  response : Cmd56Response
deriving DecidableEq

structure VitaRun (σ ρ : Type) where
  state : VitaCmd56State
  request : Cmd56Request
  response : Cmd56Response
  bus : σ
  rand : ρ
  log : List Exchange

variable {σ ρ : Type} (aes : BlockCipher) (rng : Rng ρ) (t : Transport σ)

/-- `send_packet`. -/
def sendPacket (x : VitaRun σ ρ) : VitaRun σ ρ :=
  let (response, bus) := t.recv x.response (t.send x.request x.bus)
  { x with response, bus, log := x.log ++ [⟨x.request, response⟩] }

/-- `GC_AUTH_RETURN_STATUS`. -/
def authReturnStatus (response : Cmd56Response) : VitaErrorCode :=
  if response.errorCode ≠ 0x0 then .reported else .ok

/-- `check_success(code)`, with the statements after it. -/
def checkSuccess (r : VitaErrorCode × VitaRun σ ρ)
    (next : VitaRun σ ρ → VitaErrorCode × VitaRun σ ρ) : VitaErrorCode × VitaRun σ ρ :=
  if r.1 ≠ .ok then r else next r.2

/-! ## Steps -/

def startRequest (x : VitaRun σ ρ) : VitaErrorCode × VitaRun σ ρ :=
  let x := { x with
    request := cmd56RequestStart .start 0x3 (calcSize StartResponse.size).toUInt32 0x31 }
  let x := sendPacket t x
  let start := StartResponse.start.get x.response.data
  if first start = 0x00 ∧ second start = 0x00 then (authReturnStatus x.response, x)
  else (.startFail, x)

def getStatus (x : VitaRun σ ρ) : VitaErrorCode × VitaRun σ ρ :=
  let x := { x with
    request := cmd56RequestStart .getStatus 0x3 (calcSize GetStatusResponse.size).toUInt32 0x23 }
  let x := sendPacket t x
  let x := { x with state := { x.state with
    lockStatus := u16OfBytes (GetStatusResponse.status.get x.response.data) } }
  (authReturnStatus x.response, x)

/-- The first test compares with `PROTOTYPE_KEY_ID1` when the flag is 1. -/
def getSessionKey (x : VitaRun σ ρ) : VitaErrorCode × VitaRun σ ρ :=
  let x := { x with
    request := cmd56RequestStart .generateSessionKey 0x3
      (calcSize GenerateSessionKeyResponse.size).toUInt32 0x2 }
  let x := sendPacket t x
  let keyId := endianSwap (u16OfBytes (GenerateSessionKeyResponse.keyId.get x.response.data))
  let cartRandom := GenerateSessionKeyResponse.cartRandom.get x.response.data
  let x := { x with state := { x.state with keyId, cartRandom } }
  if x.state.allowPrototypeKeys = 1 ∧ x.state.keyId > prototypeKeyId1 then (.invalidKeyid, x)
  else
    match deriveSessionKey aes x.state.cartRandom x.state.keyId with
    | none => (.invalidKeyid, x)
    | some sessionKey =>
        let x := { x with state := { x.state with sessionKey := aesInitCtx aes sessionKey } }
        (authReturnStatus x.response, x)

/-- The request of `exchange_shared_random`. -/
def sharedRandomRequest (keyId : UInt16) (random : AesBlock) : Cmd56Request :=
  let request := cmd56RequestStart .exchangeSharedRandom
    (calcSize ExchangeSharedRandomRequest.size).toUInt8
    (calcSize ExchangeSharedRandomResponse.size).toUInt32 0x3
  let data := ExchangeSharedRandomRequest.keyId.put request.data (u16Bytes (endianSwap keyId))
  { request with data := ExchangeSharedRandomRequest.sharedRandVita.put data random }

def exchangeSharedRandom (x : VitaRun σ ρ) : VitaErrorCode × VitaRun σ ρ :=
  let (random, rand) := rng.randBytes 0x10 x.rand
  let sharedRandom := SharedRandom.vitaPart.put x.state.sharedRandom random
  let x := { x with
    request := sharedRandomRequest x.state.keyId random
    state := { x.state with sharedRandom }
    rand }
  let x := sendPacket t x
  if x.response.errorCode = 0 then
    let resp := decryptCbcZeroIv aes x.state.sessionKey x.response.data
      ExchangeSharedRandomResponse.size ExchangeSharedRandomResponse.blocks_le
    let x := { x with response := { x.response with data := resp } }
    let vita := ExchangeSharedRandomResponse.sharedRandVita.get resp
    if memcmp (afterFirst.get vita)
        (afterFirst.get (SharedRandom.vitaPart.get x.state.sharedRandom)) = 0 then
      let sharedRandom := SharedRandom.cartPart.put x.state.sharedRandom
        (ExchangeSharedRandomResponse.sharedRandCart.get resp)
      (.ok, { x with state := { x.state with sharedRandom } })
    else (.verifySharedRandomInvalid, x)
  else (.reported, x)

/-- The request of `generate_secondary_key_and_verify_session`. -/
def secondaryKeyRequest (sessionKey : AesCtx) (secondaryKey : AesBlock) (challenge : Bytes 0x20) :
    Cmd56Request :=
  let request := cmd56RequestStart .exchangeSecondaryKeyAndVerifySession
    (calcSize ExchangeSecondaryKeyAndVerifySessionRequest.size).toUInt8 0x3 0x5
  let data := ExchangeSecondaryKeyAndVerifySessionRequest.secondaryKey.put request.data secondaryKey
  let data := ExchangeSecondaryKeyAndVerifySessionRequest.challengeBytes.put data challenge
  { request with
    data := encryptCbcZeroIv aes sessionKey data
      ExchangeSecondaryKeyAndVerifySessionRequest.size
      ExchangeSecondaryKeyAndVerifySessionRequest.blocks_le }

def generateSecondaryKeyAndVerifySession (x : VitaRun σ ρ) : VitaErrorCode × VitaRun σ ρ :=
  let (random, rand) := rng.randBytes 0x10 x.rand
  let state := { x.state with
    secondaryKey := aesInitCtx aes random
    sharedRandom := orW80 x.state.sharedRandom }
  let x := { x with
    request := secondaryKeyRequest aes state.sessionKey random state.sharedRandom
    state, rand }
  let x := sendPacket t x
  if x.response.errorCode ≠ 0 then (.reported, x) else (.ok, x)

/-- The request of `verify_secondary_key`. -/
def verifyRequest (challenge : AesBlock) : Cmd56Request :=
  let request := cmd56RequestStart .verifySecondaryKey
    (calcSize VerifySecondaryKeyRequest.size).toUInt8
    (calcSize VerifySecondaryKeyResponse.size).toUInt32 0x7
  { request with data := VerifySecondaryKeyRequest.challengeBytes.put request.data challenge }

def verifySecondaryKey (x : VitaRun σ ρ) : VitaErrorCode × VitaRun σ ρ :=
  let (random, rand) := rng.randBytes 0x10 x.rand
  let x := { x with request := verifyRequest (orW80 random), rand }
  let x := sendPacket t x
  let resp := decryptCbcZeroIv aes x.state.secondaryKey x.response.data
    VerifySecondaryKeyResponse.size VerifySecondaryKeyResponse.blocks_le
  let x := { x with response := { x.response with data := resp } }
  let challenge := VerifySecondaryKeyRequest.challengeBytes.get x.request.data
  if memcmp (afterFirst.get (VerifySecondaryKeyResponse.challengeBytes.get resp))
      (afterFirst.get challenge) = 0 then
    if memcmp (VerifySecondaryKeyResponse.cartRandom.get resp) x.state.cartRandom = 0 then
      (authReturnStatus x.response, x)
    else (.verifyCartRandomInvalidCartRandom, x)
  else (.verifyCartRandomChallengeInvalid, x)

/-- The request of `get_packet18_key`: everything is encrypted, then the CMAC
of the first 0x20 bytes overwrites the rest. -/
def p18Request (secondaryKey : AesCtx) (challenge : AesBlock) (type : UInt8) : Cmd56Request :=
  let request := cmd56RequestStart .getP18KeyAndCmacSignature
    (calcSize GetP18KeyAndCmacSignatureRequest.size).toUInt8
    (calcSize GetP18KeyAndCmacSignatureResponse.size).toUInt32 0x11
  let data := GetP18KeyAndCmacSignatureRequest.challengeBytes.put request.data challenge
  let data := GetP18KeyAndCmacSignatureRequest.pad0.put data (Vector.replicate 0xF 0x00)
  let data := GetP18KeyAndCmacSignatureRequest.type.put data #v[type]
  let data := encryptCbcZeroIv aes secondaryKey data GetP18KeyAndCmacSignatureRequest.size
  let cmac := doCmd56CmacHash aes secondaryKey data
    (makeInt24 request.command 0x00 request.additionalDataSize) 0x20
    GetP18KeyAndCmacSignatureRequest.signed_le GetP18KeyAndCmacSignatureRequest.cmacInput_le
  { request with data := GetP18KeyAndCmacSignatureRequest.cmacSignature.put data cmac }

def getPacket18Key (type : UInt8) (x : VitaRun σ ρ) : VitaErrorCode × VitaRun σ ρ :=
  let (random, rand) := rng.randBytes 0x10 x.rand
  let expectedChallenge := orW80 random
  let x := { x with request := p18Request aes x.state.secondaryKey expectedChallenge type, rand }
  let x := sendPacket t x
  if x.response.errorCode = 0 then
    let expectedCmac := doCmd56CmacHash aes x.state.secondaryKey x.response.data
      x.response.responseSize.toUInt32 0x30
      GetP18KeyAndCmacSignatureResponse.signed_le GetP18KeyAndCmacSignatureResponse.cmacInput_le
    if memcmp expectedCmac
        (GetP18KeyAndCmacSignatureResponse.cmacSignature.get x.response.data) = 0 then
      let resp := decryptCbcZeroIv aes x.state.secondaryKey x.response.data 0x30
        GetP18KeyAndCmacSignatureResponse.blocks_le
      let x := { x with response := { x.response with data := resp } }
      if memcmp (afterFirst.get expectedChallenge)
          (afterFirst.get (GetP18KeyAndCmacSignatureResponse.challengeBytes.get resp)) = 0 then
        let perCartKeys := { x.state.perCartKeys with
          packet18Key := GetP18KeyAndCmacSignatureResponse.p18Key.get resp }
        (.ok, { x with state := { x.state with perCartKeys } })
      else (.p18KeyChallangeFail, x)
    else (.p18KeyInvalidCmac, x)
  else (.reported, x)

/-- The request of `get_packet20_key`. -/
def p20Request (challenge : AesBlock) : Cmd56Request :=
  let request := cmd56RequestStart .getP20KeyAndCmacSignature
    (calcSize GetP20KeyAndCmacSignatureRequest.size).toUInt8
    (calcSize GetP20KeyAndCmacSignatureResponse.size).toUInt32 0x19
  { request with
    data := GetP20KeyAndCmacSignatureRequest.challengeBytes.put request.data challenge }

def getPacket20Key (x : VitaRun σ ρ) : VitaErrorCode × VitaRun σ ρ :=
  let (random, rand) := rng.randBytes 0x10 x.rand
  let x := { x with request := p20Request (orW80 random), rand }
  let x := sendPacket t x
  if x.response.errorCode = 0 then
    let expectedCmac := doCmd56CmacHash aes x.state.secondaryKey x.response.data
      x.response.responseSize.toUInt32 0x40
      GetP20KeyAndCmacSignatureResponse.signed_le GetP20KeyAndCmacSignatureResponse.cmacInput_le
    if memcmp expectedCmac
        (GetP20KeyAndCmacSignatureResponse.cmacSignature.get x.response.data) = 0 then
      let resp := decryptCbcZeroIv aes x.state.secondaryKey x.response.data 0x40
        GetP20KeyAndCmacSignatureResponse.blocks_le
      let x := { x with response := { x.response with data := resp } }
      let challenge := GetP20KeyAndCmacSignatureRequest.challengeBytes.get x.request.data
      if memcmp (afterFirst.get challenge)
          (afterFirst.get (GetP20KeyAndCmacSignatureResponse.challengeBytes.get resp)) = 0 then
        let perCartKeys := { x.state.perCartKeys with
          packet20Key := GetP20KeyAndCmacSignatureResponse.p20Key.get resp }
        (.ok, { x with state := { x.state with perCartKeys } })
      else (.p20KeyChallangeFail, x)
    else (.p20KeyInvalidCmac, x)
  else (.reported, x)

/-! ## Exposed functions -/

def vitaCmd56Init (sendFunc recvFunc : UInt32) : VitaCmd56State :=
  { VitaCmd56State.zero with
    send := sendFunc, recv := recvFunc, allowPrototypeKeys := cfalse }

/-- The last argument is not used. -/
def vitaCmd56InitEx (sendFunc recvFunc : UInt32) (_allowPrototypeKeys : UInt32) :
    VitaCmd56State :=
  { vitaCmd56Init sendFunc recvFunc with allowPrototypeKeys := ctrue }

def vitaCmd56GetKeyid (state : VitaCmd56State) : UInt16 := state.keyId

def vitaCmd56GetKeys (state : VitaCmd56State) : Cmd56Keys := state.perCartKeys

/-- The handshake on cleared packet buffers. -/
def vitaCmd56Steps (x : VitaRun σ ρ) : VitaErrorCode × VitaRun σ ρ :=
  checkSuccess (startRequest t x) fun x =>
  checkSuccess (getStatus t x) fun x =>
  if x.state.lockStatus ≠ gcLocked then (.unlocked, x) else
  checkSuccess (getSessionKey aes t x) fun x =>
  checkSuccess (exchangeSharedRandom aes rng t x) fun x =>
  checkSuccess (generateSecondaryKeyAndVerifySession aes rng t x) fun x =>
  checkSuccess (getStatus t x) fun x =>
  if x.state.lockStatus ≠ gcUnlocked then (.locked, x) else
  checkSuccess (verifySecondaryKey aes rng t x) fun x =>
  checkSuccess (getPacket18Key aes rng t 0x2 x) fun x =>
  checkSuccess (getPacket18Key aes rng t 0x3 x) fun x =>
  checkSuccess (getPacket20Key aes rng t x) fun x =>
  (.ok, x)

/-- `vita_cmd56_run` on a state that is not `NULL`. -/
def vitaCmd56Run (state : VitaCmd56State) (bus : σ) (rand : ρ) : VitaErrorCode × VitaRun σ ρ :=
  vitaCmd56Steps aes rng t ⟨state, Cmd56Request.zero, Cmd56Response.zero, bus, rand, []⟩

/-! ## Lemmas -/

@[simp] theorem authReturnStatus_eq_ok (response : Cmd56Response) :
    authReturnStatus response = .ok ↔ response.errorCode = 0 := by
  simp [authReturnStatus]

/-- A step that succeeded hands its result on. -/
@[simp] theorem checkSuccess_ok (x : VitaRun σ ρ)
    (next : VitaRun σ ρ → VitaErrorCode × VitaRun σ ρ) :
    checkSuccess (.ok, x) next = next x := by
  simp [checkSuccess]

/-- The whole succeeds only if the step did. -/
theorem checkSuccess_eq_ok {r : VitaErrorCode × VitaRun σ ρ}
    {next : VitaRun σ ρ → VitaErrorCode × VitaRun σ ρ} {y : VitaRun σ ρ}
    (h : checkSuccess r next = (.ok, y)) : ∃ x, r = (.ok, x) ∧ next x = (.ok, y) := by
  rcases r with ⟨code, x⟩
  by_cases hc : code = .ok
  · subst hc
    exact ⟨x, rfl, by simpa using h⟩
  · rw [checkSuccess, if_pos hc] at h
    have hcode := congrArg Prod.fst h
    exact absurd hcode hc

end GcToolKit.Cmd56
