import GcToolKit.Cmd56.Completeness

/-!
# What a successful handshake proves to the console

The cart is an arbitrary `Transport`: it sees every request and may answer with
any 512 bytes. From the steps' acceptance conditions we get one inversion lemma
each, and from these that a run ending in `GC_AUTH_OK` is `Accepted`.
-/

namespace GcToolKit.Cmd56

open ByteBuf GcToolKit.Crypto

variable {σ ρ : Type} (aes : BlockCipher) (rng : Rng ρ) (t : Transport σ)

/-! ## Transcripts -/

/-- The ten exchanges of a complete handshake. -/
structure Transcript where
  start : Exchange
  firstStatus : Exchange
  sessionKey : Exchange
  sharedRandom : Exchange
  secondaryKey : Exchange
  secondStatus : Exchange
  verify : Exchange
  p18First : Exchange
  p18Second : Exchange
  p20 : Exchange

def Transcript.toList (tr : Transcript) : List Exchange :=
  [tr.start, tr.firstStatus, tr.sessionKey, tr.sharedRandom, tr.secondaryKey, tr.secondStatus,
    tr.verify, tr.p18First, tr.p18Second, tr.p20]

/-- The `k`-th sixteen bytes the console draws from `r` on. -/
def nthDrawn (r : ρ) : Nat → AesBlock
  | 0 => drawn rng r
  | k + 1 => nthDrawn (afterDraw rng r) k

/-- The cart's answer to the console's shared random: bytes 1 to 15 come back
under `ctx`. -/
def EchoesSharedRandom (ctx : AesCtx) (vitaPart : AesBlock) (response : Cmd56Response) : Prop :=
  let plain := decryptCbcZeroIv aes ctx response.data ExchangeSharedRandomResponse.size
    ExchangeSharedRandomResponse.blocks_le
  afterFirst.get (ExchangeSharedRandomResponse.sharedRandVita.get plain) =
    afterFirst.get vitaPart

/-- The cart's answer to the verify challenge: its random part and bytes 1 to 15
of the challenge come back under `ctx`. -/
def EchoesChallenge (ctx : AesCtx) (challenge : AesBlock) (cartRandom : Bytes 0x20)
    (response : Cmd56Response) : Prop :=
  let plain := decryptCbcZeroIv aes ctx response.data VerifySecondaryKeyResponse.size
    VerifySecondaryKeyResponse.blocks_le
  VerifySecondaryKeyResponse.cartRandom.get plain = cartRandom ∧
    afterFirst.get (VerifySecondaryKeyResponse.challengeBytes.get plain) =
      afterFirst.get challenge

/-- The console drew `r`'s bytes, exchanged `tr` and ended in `final`. -/
structure Accepted (allowPrototypeKeys : UInt32) (r : ρ) (final : VitaCmd56State)
    (tr : Transcript) : Prop where
  /-- No response reports an error. -/
  noError : ∀ e ∈ tr.toList, e.response.errorCode = 0
  startSent : tr.start.request = startPacket
  /-- The response to it begins with two zeros. -/
  started : first (StartResponse.start.get tr.start.response.data) = 0 ∧
    second (StartResponse.start.get tr.start.response.data) = 0
  firstStatusSent : tr.firstStatus.request = statusPacket
  sessionKeySent : tr.sessionKey.request = sessionKeyPacket
  secondStatusSent : tr.secondStatus.request = statusPacket
  firstStatus : reportedStatus tr.firstStatus.response = gcLocked
  secondStatus : reportedStatus tr.secondStatus.response = gcUnlocked
  keyId : final.keyId = announcedKeyId tr.sessionKey.response
  cartRandom : final.cartRandom = announcedCartRandom tr.sessionKey.response
  policy : ¬ (allowPrototypeKeys = 1 ∧ final.keyId > prototypeKeyId1)
  /-- The session key comes from what the cart announced, and the cart knows it. -/
  sessionKey : ∃ key, deriveSessionKey aes final.cartRandom final.keyId = some key ∧
    final.sessionKey = aesInitCtx aes key
  sharedRandomSent :
    tr.sharedRandom.request = sharedRandomRequest final.keyId (nthDrawn rng r 0)
  sharedRandomEchoed :
    EchoesSharedRandom aes final.sessionKey (nthDrawn rng r 0) tr.sharedRandom.response
  /-- The secondary key is the console's own. -/
  secondaryKey : final.secondaryKey = aesInitCtx aes (nthDrawn rng r 1)
  secondaryKeySent : tr.secondaryKey.request =
    secondaryKeyRequest aes final.sessionKey (nthDrawn rng r 1) final.sharedRandom
  challengeSent : tr.verify.request = verifyRequest (orW80 (nthDrawn rng r 2))
  challengeEchoed : EchoesChallenge aes final.secondaryKey (orW80 (nthDrawn rng r 2))
    final.cartRandom tr.verify.response
  /-- The packet 18 key is requested twice, and the second answer is kept. -/
  p18FirstSent : tr.p18First.request =
    p18Request aes final.secondaryKey (orW80 (nthDrawn rng r 3)) 0x2
  p18First : ∃ key, CarriesP18Key aes final.secondaryKey (orW80 (nthDrawn rng r 3))
    tr.p18First.response key
  p18SecondSent : tr.p18Second.request =
    p18Request aes final.secondaryKey (orW80 (nthDrawn rng r 4)) 0x3
  p18Second : CarriesP18Key aes final.secondaryKey (orW80 (nthDrawn rng r 4))
    tr.p18Second.response final.perCartKeys.packet18Key
  p20Sent : tr.p20.request = p20Request (orW80 (nthDrawn rng r 5))
  p20 : CarriesP20Key aes final.secondaryKey (orW80 (nthDrawn rng r 5))
    tr.p20.response final.perCartKeys.packet20Key

/-! ## One step, inverted -/

variable {aes rng t} {x y : VitaRun σ ρ}

theorem startRequest_inv (h : startRequest t x = (.ok, y)) :
    ∃ response, y.log = x.log ++ [⟨startPacket, response⟩] ∧ response.errorCode = 0 ∧
      (first (StartResponse.start.get response.data) = 0 ∧
        second (StartResponse.start.get response.data) = 0) ∧
      y.state = x.state ∧ y.rand = x.rand := by
  rcases (startRequest_eq_ok t).mp h with ⟨hzeros, herr, rfl⟩
  exact ⟨_, rfl, herr, hzeros, rfl, rfl⟩

theorem getStatus_inv (h : getStatus t x = (.ok, y)) :
    ∃ response, y.log = x.log ++ [⟨statusPacket, response⟩] ∧ response.errorCode = 0 ∧
      y.state = { x.state with lockStatus := reportedStatus response } ∧ y.rand = x.rand := by
  rcases (getStatus_eq_ok t).mp h with ⟨herr, rfl⟩
  exact ⟨_, rfl, herr, rfl, rfl⟩

theorem getSessionKey_inv (h : getSessionKey aes t x = (.ok, y)) :
    ∃ response key, y.log = x.log ++ [⟨sessionKeyPacket, response⟩] ∧ response.errorCode = 0 ∧
      ¬ (x.state.allowPrototypeKeys = 1 ∧ announcedKeyId response > prototypeKeyId1) ∧
      deriveSessionKey aes (announcedCartRandom response) (announcedKeyId response) = some key ∧
      y.state = { x.state with
        keyId := announcedKeyId response
        cartRandom := announcedCartRandom response
        sessionKey := aesInitCtx aes key } ∧
      y.rand = x.rand := by
  rcases (getSessionKey_eq_ok aes t).mp h with ⟨hpolicy, herr, key, hkey, rfl⟩
  exact ⟨_, key, rfl, herr, hpolicy, hkey, rfl, rfl⟩

theorem exchangeSharedRandom_inv (h : exchangeSharedRandom aes rng t x = (.ok, y)) :
    ∃ response sharedRandom,
      y.log = x.log ++ [⟨sharedRandomRequest x.state.keyId (drawn rng x.rand), response⟩] ∧
      response.errorCode = 0 ∧
      EchoesSharedRandom aes x.state.sessionKey (drawn rng x.rand) response ∧
      y.state = { x.state with sharedRandom } ∧ y.rand = afterDraw rng x.rand := by
  rcases (exchangeSharedRandom_eq_ok aes rng t).mp h with ⟨herr, hecho, rfl⟩
  exact ⟨_, _, rfl, herr, hecho, rfl, rfl⟩

theorem generateSecondaryKeyAndVerifySession_inv
    (h : generateSecondaryKeyAndVerifySession aes rng t x = (.ok, y)) :
    ∃ response sharedRandom,
      y.log = x.log ++
        [⟨secondaryKeyRequest aes x.state.sessionKey (drawn rng x.rand) sharedRandom, response⟩] ∧
      response.errorCode = 0 ∧
      y.state = { x.state with
        secondaryKey := aesInitCtx aes (drawn rng x.rand), sharedRandom } ∧
      y.rand = afterDraw rng x.rand := by
  rcases (generateSecondaryKeyAndVerifySession_eq_ok aes rng t).mp h with ⟨herr, rfl⟩
  exact ⟨_, _, rfl, herr, rfl, rfl⟩

theorem verifySecondaryKey_inv (h : verifySecondaryKey aes rng t x = (.ok, y)) :
    ∃ response, y.log = x.log ++ [⟨verifyRequest (orW80 (drawn rng x.rand)), response⟩] ∧
      response.errorCode = 0 ∧
      EchoesChallenge aes x.state.secondaryKey (orW80 (drawn rng x.rand)) x.state.cartRandom
        response ∧
      y.state = x.state ∧ y.rand = afterDraw rng x.rand := by
  rcases (verifySecondaryKey_eq_ok aes rng t).mp h with ⟨hchallenge, hcart, herr, rfl⟩
  exact ⟨_, rfl, herr, ⟨hcart, hchallenge⟩, rfl, rfl⟩

theorem getPacket18Key_inv {type : UInt8} (h : getPacket18Key aes rng t type x = (.ok, y)) :
    ∃ response key,
      y.log = x.log ++
        [⟨p18Request aes x.state.secondaryKey (orW80 (drawn rng x.rand)) type, response⟩] ∧
      response.errorCode = 0 ∧
      CarriesP18Key aes x.state.secondaryKey (orW80 (drawn rng x.rand)) response key ∧
      y.state = { x.state with
        perCartKeys := { x.state.perCartKeys with packet18Key := key } } ∧
      y.rand = afterDraw rng x.rand := by
  rcases (getPacket18Key_eq_ok aes rng t type).mp h with ⟨herr, hcmac, hchallenge, rfl⟩
  exact ⟨_, _, rfl, herr, ⟨_, ⟨hcmac, rfl⟩, hchallenge.symm, rfl⟩, rfl, rfl⟩

theorem getPacket20Key_inv (h : getPacket20Key aes rng t x = (.ok, y)) :
    ∃ response key,
      y.log = x.log ++ [⟨p20Request (orW80 (drawn rng x.rand)), response⟩] ∧
      response.errorCode = 0 ∧
      CarriesP20Key aes x.state.secondaryKey (orW80 (drawn rng x.rand)) response key ∧
      y.state = { x.state with
        perCartKeys := { x.state.perCartKeys with packet20Key := key } } ∧
      y.rand = afterDraw rng x.rand := by
  rcases (getPacket20Key_eq_ok aes rng t).mp h with ⟨herr, hcmac, hchallenge, rfl⟩
  exact ⟨_, _, rfl, herr, ⟨_, ⟨hcmac, rfl⟩, hchallenge.symm, rfl⟩, rfl, rfl⟩

/-! ## The whole handshake -/

/-- A completed run went through every step, and found the cart locked before
the proof and unlocked after it. -/
theorem vitaCmd56Steps_chain (h : vitaCmd56Steps aes rng t x = (.ok, y)) :
    ∃ x₁ x₂ x₃ x₄ x₅ x₆ x₇ x₈ x₉,
      startRequest t x = (.ok, x₁) ∧
      getStatus t x₁ = (.ok, x₂) ∧ x₂.state.lockStatus = gcLocked ∧
      getSessionKey aes t x₂ = (.ok, x₃) ∧
      exchangeSharedRandom aes rng t x₃ = (.ok, x₄) ∧
      generateSecondaryKeyAndVerifySession aes rng t x₄ = (.ok, x₅) ∧
      getStatus t x₅ = (.ok, x₆) ∧ x₆.state.lockStatus = gcUnlocked ∧
      verifySecondaryKey aes rng t x₆ = (.ok, x₇) ∧
      getPacket18Key aes rng t 0x2 x₇ = (.ok, x₈) ∧
      getPacket18Key aes rng t 0x3 x₈ = (.ok, x₉) ∧
      getPacket20Key aes rng t x₉ = (.ok, y) := by
  rcases checkSuccess_eq_ok h with ⟨x₁, h₁, h⟩
  rcases checkSuccess_eq_ok h with ⟨x₂, h₂, h⟩
  -- the two status reads check the answer as well: locked before, unlocked after
  by_cases hlocked : x₂.state.lockStatus = gcLocked
  case neg => simp [hlocked] at h
  rw [if_neg (not_not.mpr hlocked)] at h
  rcases checkSuccess_eq_ok h with ⟨x₃, h₃, h⟩
  rcases checkSuccess_eq_ok h with ⟨x₄, h₄, h⟩
  rcases checkSuccess_eq_ok h with ⟨x₅, h₅, h⟩
  rcases checkSuccess_eq_ok h with ⟨x₆, h₆, h⟩
  by_cases hunlocked : x₆.state.lockStatus = gcUnlocked
  case neg => simp [hunlocked] at h
  rw [if_neg (not_not.mpr hunlocked)] at h
  rcases checkSuccess_eq_ok h with ⟨x₇, h₇, h⟩
  rcases checkSuccess_eq_ok h with ⟨x₈, h₈, h⟩
  rcases checkSuccess_eq_ok h with ⟨x₉, h₉, h⟩
  rcases checkSuccess_eq_ok h with ⟨x₁₀, h₁₀, h⟩
  obtain rfl : x₁₀ = y := congrArg Prod.snd h
  exact ⟨x₁, x₂, x₃, x₄, x₅, x₆, x₇, x₈, x₉, h₁, h₂, hlocked, h₃, h₄, h₅, h₆, hunlocked, h₇, h₈,
    h₉, h₁₀⟩

/-- The run reaches the end only through all ten exchanges. -/
theorem vitaCmd56Steps_inv (h : vitaCmd56Steps aes rng t x = (.ok, y)) :
    ∃ tr : Transcript, y.log = x.log ++ tr.toList ∧
      Accepted aes rng x.state.allowPrototypeKeys x.rand y.state tr := by
  obtain ⟨x₁, x₂, x₃, x₄, x₅, x₆, x₇, x₈, x₉, h₁, h₂, hlocked, h₃, h₄, h₅, h₆, hunlocked, h₇, h₈,
    h₉, h₁₀⟩ := vitaCmd56Steps_chain h
  rcases startRequest_inv h₁ with ⟨r₁, hl₁, he₁, hstarted, hs₁, hr₁⟩
  rcases getStatus_inv h₂ with ⟨r₂, hl₂, he₂, hs₂, hr₂⟩
  rcases getSessionKey_inv h₃ with ⟨r₃, key, hl₃, he₃, hpolicy, hkey, hs₃, hr₃⟩
  rcases exchangeSharedRandom_inv h₄ with ⟨r₄, shared, hl₄, he₄, hecho, hs₄, hr₄⟩
  rcases generateSecondaryKeyAndVerifySession_inv h₅ with ⟨r₅, masked, hl₅, he₅, hs₅, hr₅⟩
  rcases getStatus_inv h₆ with ⟨r₆, hl₆, he₆, hs₆, hr₆⟩
  rcases verifySecondaryKey_inv h₇ with ⟨r₇, hl₇, he₇, hverify, hs₇, hr₇⟩
  rcases getPacket18Key_inv h₈ with ⟨r₈, key₈, hl₈, he₈, hp₈, hs₈, hr₈⟩
  rcases getPacket18Key_inv h₉ with ⟨r₉, key₉, hl₉, he₉, hp₉, hs₉, hr₉⟩
  rcases getPacket20Key_inv h₁₀ with ⟨r₁₀, key₁₀, hl₁₀, he₁₀, hp₁₀, hs₁₀, hr₁₀⟩
  -- the fields that survive to the end, and the random source before each draw
  have hkeyId : y.state.keyId = announcedKeyId r₃ := by
    rw [hs₁₀, hs₉, hs₈, hs₇, hs₆, hs₅, hs₄, hs₃]
  have hcart : y.state.cartRandom = announcedCartRandom r₃ := by
    rw [hs₁₀, hs₉, hs₈, hs₇, hs₆, hs₅, hs₄, hs₃]
  have hsession : y.state.sessionKey = aesInitCtx aes key := by
    rw [hs₁₀, hs₉, hs₈, hs₇, hs₆, hs₅, hs₄, hs₃]
  have hshared : y.state.sharedRandom = masked := by
    rw [hs₁₀, hs₉, hs₈, hs₇, hs₆, hs₅]
  have hsecondary : y.state.secondaryKey = aesInitCtx aes (drawn rng x₄.rand) := by
    rw [hs₁₀, hs₉, hs₈, hs₇, hs₆, hs₅]
  have hrand₃ : x₃.rand = x.rand := by rw [hr₃, hr₂, hr₁]
  have hdrawn₀ : drawn rng x₃.rand = nthDrawn rng x.rand 0 := by rw [hrand₃]; rfl
  have hdrawn₁ : drawn rng x₄.rand = nthDrawn rng x.rand 1 := by rw [hr₄, hrand₃]; rfl
  have hdrawn₂ : drawn rng x₆.rand = nthDrawn rng x.rand 2 := by
    rw [hr₆, hr₅, hr₄, hrand₃]; rfl
  have hdrawn₃ : drawn rng x₇.rand = nthDrawn rng x.rand 3 := by
    rw [hr₇, hr₆, hr₅, hr₄, hrand₃]; rfl
  have hdrawn₄ : drawn rng x₈.rand = nthDrawn rng x.rand 4 := by
    rw [hr₈, hr₇, hr₆, hr₅, hr₄, hrand₃]; rfl
  have hdrawn₅ : drawn rng x₉.rand = nthDrawn rng x.rand 5 := by
    rw [hr₉, hr₈, hr₇, hr₆, hr₅, hr₄, hrand₃]; rfl
  have hkeyId₃ : x₃.state.keyId = y.state.keyId := by rw [hs₃, hkeyId]
  have hsession₃ : x₃.state.sessionKey = y.state.sessionKey := by rw [hs₃, hsession]
  have hsession₄ : x₄.state.sessionKey = y.state.sessionKey := by rw [hs₄, hsession₃]
  have hcart₆ : x₆.state.cartRandom = y.state.cartRandom := by
    rw [hs₆, hs₅, hs₄, hs₃, hcart]
  have hsecondary₆ : x₆.state.secondaryKey = y.state.secondaryKey := by
    rw [hs₆, hs₅, hsecondary]
  have hsecondary₇ : x₇.state.secondaryKey = y.state.secondaryKey := by
    rw [hs₇, hsecondary₆]
  have hsecondary₈ : x₈.state.secondaryKey = y.state.secondaryKey := by
    rw [hs₈, hsecondary₇]
  have hsecondary₉ : x₉.state.secondaryKey = y.state.secondaryKey := by
    rw [hs₉, hsecondary₈]
  have hpolicy₂ : x₂.state.allowPrototypeKeys = x.state.allowPrototypeKeys := by rw [hs₂, hs₁]
  rw [hdrawn₀, hkeyId₃] at hl₄
  rw [hsession₃, hdrawn₀] at hecho
  rw [hdrawn₁, hsession₄, ← hshared] at hl₅
  rw [hdrawn₂] at hl₇
  rw [hsecondary₆, hdrawn₂, hcart₆] at hverify
  rw [hsecondary₇, hdrawn₃] at hl₈ hp₈
  rw [hsecondary₈, hdrawn₄] at hl₉ hp₉
  rw [hdrawn₅] at hl₁₀
  rw [hsecondary₉, hdrawn₅] at hp₁₀
  have hp18 : y.state.perCartKeys.packet18Key = key₉ := by rw [hs₁₀, hs₉]
  have hp20 : y.state.perCartKeys.packet20Key = key₁₀ := by rw [hs₁₀]
  refine ⟨
    { start := ⟨startPacket, r₁⟩
      firstStatus := ⟨statusPacket, r₂⟩
      sessionKey := ⟨sessionKeyPacket, r₃⟩
      sharedRandom := ⟨sharedRandomRequest y.state.keyId (nthDrawn rng x.rand 0), r₄⟩
      secondaryKey := ⟨secondaryKeyRequest aes y.state.sessionKey (nthDrawn rng x.rand 1)
        y.state.sharedRandom, r₅⟩
      secondStatus := ⟨statusPacket, r₆⟩
      verify := ⟨verifyRequest (orW80 (nthDrawn rng x.rand 2)), r₇⟩
      p18First := ⟨p18Request aes y.state.secondaryKey (orW80 (nthDrawn rng x.rand 3)) 0x2, r₈⟩
      p18Second := ⟨p18Request aes y.state.secondaryKey (orW80 (nthDrawn rng x.rand 4)) 0x3,
        r₉⟩
      p20 := ⟨p20Request (orW80 (nthDrawn rng x.rand 5)), r₁₀⟩ }, ?_, ?_⟩
  · rw [hl₁₀, hl₉, hl₈, hl₇, hl₆, hl₅, hl₄, hl₃, hl₂, hl₁]
    simp only [List.append_assoc, List.cons_append, List.nil_append]
    rfl
  · refine
      { noError := ?_
        startSent := rfl
        started := hstarted
        firstStatusSent := rfl
        sessionKeySent := rfl
        secondStatusSent := rfl
        firstStatus := ?_
        secondStatus := ?_
        keyId := hkeyId
        cartRandom := hcart
        policy := ?_
        sessionKey := ⟨key, ?_, hsession⟩
        sharedRandomSent := rfl
        sharedRandomEchoed := hecho
        secondaryKey := ?_
        secondaryKeySent := rfl
        challengeSent := rfl
        challengeEchoed := hverify
        p18FirstSent := rfl
        p18First := ⟨key₈, hp₈⟩
        p18SecondSent := rfl
        p18Second := ?_
        p20Sent := rfl
        p20 := ?_ }
    · intro e he
      simp only [Transcript.toList, List.mem_cons, List.not_mem_nil, or_false] at he
      rcases he with rfl | rfl | rfl | rfl | rfl | rfl | rfl | rfl | rfl | rfl <;> assumption
    · rw [← hlocked, hs₂]
    · rw [← hunlocked, hs₆]
    · rw [← hpolicy₂, hkeyId]
      exact hpolicy
    · rw [hcart, hkeyId, hkey]
    · rw [hsecondary, hdrawn₁]
    · rw [hp18]
      exact hp₉
    · rw [hp20]
      exact hp₁₀

/-- Console soundness, against every cart. -/
theorem vitaCmd56Run_sound (aes : BlockCipher) (rng : Rng ρ) (t : Transport σ)
    (state : VitaCmd56State) (bus : σ) (rand : ρ)
    (h : (vitaCmd56Run aes rng t state bus rand).1 = .ok) :
    ∃ tr : Transcript, (vitaCmd56Run aes rng t state bus rand).2.log = tr.toList ∧
      Accepted aes rng state.allowPrototypeKeys rand
        (vitaCmd56Run aes rng t state bus rand).2.state tr := by
  have hrun : vitaCmd56Run aes rng t state bus rand =
      (.ok, (vitaCmd56Run aes rng t state bus rand).2) := by rw [← h]
  rcases vitaCmd56Steps_inv hrun with ⟨tr, hlog, hacc⟩
  exact ⟨tr, hlog, hacc⟩

/-- A run against the repository's own cart is one such run. -/
theorem vitaCmd56Run_sound_retail :
    let r := vitaCmd56Run tinyAes (libRng tinyAes)
      (cartTransport tinyAes (libRng tinyAes) zeroIv) (vitaCmd56Init 1 2)
      ⟨(gcCmd56Init randStateInit (some Cmd56Keys.zero)).state, randStateInit,
        Cmd56Request.zero⟩ randStateInit
    ∃ tr : Transcript, r.2.log = tr.toList ∧
      Accepted tinyAes (libRng tinyAes) cfalse randStateInit r.2.state tr :=
  vitaCmd56Run_sound _ _ _ _ _ _ (vitaCmd56Run_cart _ _ _ _ _ _ _ rfl (by decide)).1

end GcToolKit.Cmd56
