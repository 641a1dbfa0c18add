import GcToolKit.Cmd56.Vita

/-!
# What each step of the handshake accepts

One lemma for each step of the console: it returns `GC_AUTH_OK` exactly when
the response passes the checks listed, and then leaves the run as stated. No
other module looks into the steps.
-/

namespace GcToolKit.Cmd56

open ByteBuf GcToolKit.Crypto

variable {σ ρ : Type} (aes : BlockCipher) (rng : Rng ρ) (t : Transport σ)

/-! ## One exchange -/

@[simp] theorem sendPacket_state (x : VitaRun σ ρ) : (sendPacket t x).state = x.state := rfl

@[simp] theorem sendPacket_request (x : VitaRun σ ρ) : (sendPacket t x).request = x.request := rfl

/-- The sixteen bytes a step draws. -/
def drawn (r : ρ) : AesBlock := (rng.randBytes 0x10 r).1

/-- The random source after such a draw. -/
def afterDraw (r : ρ) : ρ := (rng.randBytes 0x10 r).2

/-! ## Requests without data -/

def startPacket : Cmd56Request :=
  cmd56RequestStart .start 0x3 (calcSize StartResponse.size).toUInt32 0x31

def statusPacket : Cmd56Request :=
  cmd56RequestStart .getStatus 0x3 (calcSize GetStatusResponse.size).toUInt32 0x23

def sessionKeyPacket : Cmd56Request :=
  cmd56RequestStart .generateSessionKey 0x3 (calcSize GenerateSessionKeyResponse.size).toUInt32 0x2

/-- The exchange of a step that draws nothing. -/
def exchange (request : Cmd56Request) (x : VitaRun σ ρ) : VitaRun σ ρ :=
  sendPacket t { x with request }

/-- The exchange of a step that draws before it sends. -/
def exchangeDrawn (request : Cmd56Request) (x : VitaRun σ ρ) : VitaRun σ ρ :=
  sendPacket t { x with request, rand := afterDraw rng x.rand }

/-! ## The steps -/

/-- A check of a step: the branch that fails it returns an error. -/
theorem check_eq_ok {c : Prop} [Decidable c] {α : Type} {passed : VitaErrorCode × α}
    {e : VitaErrorCode} {a b : α} (he : e ≠ .ok) :
    (if c then passed else (e, a)) = (.ok, b) ↔ c ∧ passed = (.ok, b) := by
  by_cases hc : c
  · rw [if_pos hc]
    simp only [hc, true_and]
  · rw [if_neg hc]
    constructor
    · intro h
      exact absurd (congrArg Prod.fst h) he
    · rintro ⟨h, -⟩
      exact absurd h hc

variable {x y : VitaRun σ ρ}

theorem startRequest_eq_ok :
    startRequest t x = (.ok, y) ↔
      let s := exchange t startPacket x
      let start := StartResponse.start.get s.response.data
      (first start = 0 ∧ second start = 0) ∧ s.response.errorCode = 0 ∧ s = y := by
  simp only [startRequest, exchange, startPacket]
  split
  · next h => simp only [h, Prod.mk.injEq, authReturnStatus_eq_ok, and_self, true_and]
  · next h => simp only [h, Prod.mk.injEq, reduceCtorEq, false_and]

theorem getStatus_eq_ok :
    getStatus t x = (.ok, y) ↔
      let s := exchange t statusPacket x
      s.response.errorCode = 0 ∧
      { s with state := { x.state with lockStatus := reportedStatus s.response } } = y := by
  simp only [getStatus, exchange, statusPacket, reportedStatus, sendPacket_state,
    Prod.mk.injEq, authReturnStatus_eq_ok]

theorem getSessionKey_eq_ok :
    getSessionKey aes t x = (.ok, y) ↔
      let s := exchange t sessionKeyPacket x
      let keyId := announcedKeyId s.response
      let cartRandom := announcedCartRandom s.response
      ¬ (x.state.allowPrototypeKeys = 1 ∧ keyId > prototypeKeyId1) ∧
      s.response.errorCode = 0 ∧
      ∃ key, deriveSessionKey aes cartRandom keyId = some key ∧
        { s with state :=
          { x.state with keyId, cartRandom, sessionKey := aesInitCtx aes key } } = y := by
  unfold getSessionKey
  dsimp only
  split
  · -- the policy is checked before the answer's own status
    next h =>
    constructor
    · intro hrun
      cases congrArg Prod.fst hrun
    · rintro ⟨hpolicy, -⟩
      exact absurd h hpolicy
  · next hpolicy =>
    split
    · -- no seed for the announced key
      next hnone =>
      constructor
      · intro hrun
        cases congrArg Prod.fst hrun
      · rintro ⟨-, -, key, hkey, -⟩
        cases hnone.symm.trans hkey
    · next key hsome =>
      rw [Prod.mk.injEq, authReturnStatus_eq_ok]
      constructor
      · rintro ⟨herr, hy⟩
        exact ⟨hpolicy, herr, key, hsome, hy⟩
      · rintro ⟨-, herr, key', hkey, hy⟩
        obtain rfl := Option.some.inj (hsome.symm.trans hkey)
        exact ⟨herr, hy⟩

theorem exchangeSharedRandom_eq_ok :
    exchangeSharedRandom aes rng t x = (.ok, y) ↔
      let random := drawn rng x.rand
      let s := exchangeDrawn rng t (sharedRandomRequest x.state.keyId random)
        { x with state := { x.state with
          sharedRandom := SharedRandom.vitaPart.put x.state.sharedRandom random } }
      let resp := decryptCbcZeroIv aes x.state.sessionKey s.response.data
        ExchangeSharedRandomResponse.size
      s.response.errorCode = 0 ∧
      afterFirst.get (ExchangeSharedRandomResponse.sharedRandVita.get resp) =
        afterFirst.get random ∧
      { s with
        response := { s.response with data := resp }
        state := { x.state with
          sharedRandom := SharedRandom.cartPart.put
            (SharedRandom.vitaPart.put x.state.sharedRandom random)
            (ExchangeSharedRandomResponse.sharedRandCart.get resp) } } = y := by
  simp only [exchangeSharedRandom, exchangeDrawn, drawn, afterDraw, sendPacket_state,
    Field.get_put_same, memcmp_eq_zero]
  split
  · next h =>
    split
    · next hvita => simp only [h, hvita, Prod.mk.injEq, true_and]
    · next hvita => simp only [hvita, Prod.mk.injEq, reduceCtorEq, false_and, and_false]
  · next h => simp only [h, Prod.mk.injEq, reduceCtorEq, false_and]

theorem generateSecondaryKeyAndVerifySession_eq_ok :
    generateSecondaryKeyAndVerifySession aes rng t x = (.ok, y) ↔
      let random := drawn rng x.rand
      let sharedRandom := orW80 x.state.sharedRandom
      let s := exchangeDrawn rng t
        (secondaryKeyRequest aes x.state.sessionKey random sharedRandom)
        { x with state :=
          { x.state with secondaryKey := aesInitCtx aes random, sharedRandom } }
      s.response.errorCode = 0 ∧ s = y := by
  simp only [generateSecondaryKeyAndVerifySession, exchangeDrawn, drawn, afterDraw]
  split
  · next h => simp only [h, Prod.mk.injEq, reduceCtorEq, false_and]
  · next h => simp only [not_not.mp h, Prod.mk.injEq, true_and]

theorem verifySecondaryKey_eq_ok :
    verifySecondaryKey aes rng t x = (.ok, y) ↔
      let challenge := orW80 (drawn rng x.rand)
      let s := exchangeDrawn rng t (verifyRequest challenge) x
      let resp := decryptCbcZeroIv aes x.state.secondaryKey s.response.data
        VerifySecondaryKeyResponse.size
      afterFirst.get (VerifySecondaryKeyResponse.challengeBytes.get resp) =
        afterFirst.get challenge ∧
      VerifySecondaryKeyResponse.cartRandom.get resp = x.state.cartRandom ∧
      s.response.errorCode = 0 ∧
      { s with response := { s.response with data := resp } } = y := by
  have hsent : ∀ challenge, VerifySecondaryKeyRequest.challengeBytes.get
      (verifyRequest challenge).data = challenge := fun _ => Field.get_put_same _ _ _
  simp only [verifySecondaryKey, exchangeDrawn, drawn, afterDraw, sendPacket_state,
    sendPacket_request, memcmp_eq_zero, hsent]
  simp only [check_eq_ok, ne_eq, reduceCtorEq, not_false_eq_true, Prod.mk.injEq,
    authReturnStatus_eq_ok]

theorem getPacket18Key_eq_ok (type : UInt8) :
    getPacket18Key aes rng t type x = (.ok, y) ↔
      let challenge := orW80 (drawn rng x.rand)
      let s := exchangeDrawn rng t (p18Request aes x.state.secondaryKey challenge type) x
      let resp := decryptCbcZeroIv aes x.state.secondaryKey s.response.data 0x30
      s.response.errorCode = 0 ∧
      doCmd56CmacHash aes x.state.secondaryKey s.response.data s.response.responseSize.toUInt32
          0x30 = GetP18KeyAndCmacSignatureResponse.cmacSignature.get s.response.data ∧
      afterFirst.get challenge =
        afterFirst.get (GetP18KeyAndCmacSignatureResponse.challengeBytes.get resp) ∧
      { s with
        response := { s.response with data := resp }
        state := { x.state with perCartKeys := { x.state.perCartKeys with
          packet18Key := GetP18KeyAndCmacSignatureResponse.p18Key.get resp } } } = y := by
  simp only [getPacket18Key, exchangeDrawn, drawn, afterDraw, sendPacket_state, memcmp_eq_zero]
  simp only [check_eq_ok, ne_eq, reduceCtorEq, not_false_eq_true, Prod.mk.injEq, true_and]

theorem getPacket20Key_eq_ok :
    getPacket20Key aes rng t x = (.ok, y) ↔
      let challenge := orW80 (drawn rng x.rand)
      let s := exchangeDrawn rng t (p20Request challenge) x
      let resp := decryptCbcZeroIv aes x.state.secondaryKey s.response.data 0x40
      s.response.errorCode = 0 ∧
      doCmd56CmacHash aes x.state.secondaryKey s.response.data s.response.responseSize.toUInt32
          0x40 = GetP20KeyAndCmacSignatureResponse.cmacSignature.get s.response.data ∧
      afterFirst.get challenge =
        afterFirst.get (GetP20KeyAndCmacSignatureResponse.challengeBytes.get resp) ∧
      { s with
        response := { s.response with data := resp }
        state := { x.state with perCartKeys := { x.state.perCartKeys with
          packet20Key := GetP20KeyAndCmacSignatureResponse.p20Key.get resp } } } = y := by
  have hsent : ∀ challenge, GetP20KeyAndCmacSignatureRequest.challengeBytes.get
      (p20Request challenge).data = challenge := fun _ => Field.get_put_same _ _ _
  simp only [getPacket20Key, exchangeDrawn, drawn, afterDraw, sendPacket_state,
    sendPacket_request, memcmp_eq_zero, hsent]
  simp only [check_eq_ok, ne_eq, reduceCtorEq, not_false_eq_true, Prod.mk.injEq, true_and]

end GcToolKit.Cmd56
