import GcToolKit.Cmd56.Soundness

/-!
# What a listener on the bus learns of the secondary key

The console draws the shared random it sends in the clear and the secondary key
it then sends encrypted from one generator, one after the other. `rand_bytes`
gives out its whole state, so the first draw determines the second: a listener
needs one AES call.
-/

namespace GcToolKit.Cmd56

open ByteBuf GcToolKit.Crypto

/-! ## A generator that gives its state away -/

section Generator

variable (aes : BlockCipher) (r : AesBlock)

/-- The block is its own IV, so it cancels: what is encrypted is zero. -/
theorem randCycle_eq : randCycle aes r = aes.cipher (aes.keyExpansion r) zeroIv := by
  have hslice : slice r 0 16 (by decide) = r := by
    apply Vector.ext
    intro i hi
    simp [slice]
  have hcancel : xorWithIv r r = zeroIv := by
    apply Vector.ext
    intro i hi
    simp [xorWithIv, zeroIv]
  have hwhole : ∀ c : AesBlock, splice r 0 c (by decide) = c := by
    intro c
    apply Vector.ext
    intro i hi
    simp [getElem_splice, hi]
  have hcycle : randCycle aes r =
      splice r 0 (aes.cipher (aes.keyExpansion r) (xorWithIv (slice r 0 16 (by decide)) r))
        (by decide) := rfl
  rw [hcycle, hslice, hcancel, hwhole]

/-- Sixteen bytes take one cycle, and are what the generator goes on from. -/
theorem randBytes_block : randBytes aes 0x10 r = (randCycle aes r, randCycle aes r) := by
  have hloop : randBytesLoop aes (blocks 0x10) 0x10 r =
      ((randCycle aes r).toList.take 0x10 ++ [], randCycle aes r) := rfl
  have htake : (randCycle aes r).toList.take 0x10 = (randCycle aes r).toList :=
    List.take_of_length_le (by simp)
  rw [htake, List.append_nil] at hloop
  apply Prod.ext
  · apply Vector.toList_inj.mp
    simp [randBytes, hloop]
  · simp [randBytes, hloop]

theorem drawn_libRng : drawn (libRng aes) r = randCycle aes r :=
  congrArg Prod.fst (randBytes_block aes r)

theorem afterDraw_libRng : afterDraw (libRng aes) r = drawn (libRng aes) r := by
  rw [drawn_libRng]
  exact congrArg Prod.snd (randBytes_block aes r)

/-- Every block drawn determines the next. -/
theorem nthDrawn_succ_libRng (k : Nat) :
    nthDrawn (libRng aes) r (k + 1) = randCycle aes (nthDrawn (libRng aes) r k) := by
  induction k generalizing r with
  | zero => rw [nthDrawn, nthDrawn, nthDrawn, drawn_libRng, afterDraw_libRng]
  | succ k ih =>
    rw [nthDrawn, ih]
    rfl

end Generator

/-! ## The session up to the shared random -/

variable {σ ρ : Type} (aes : BlockCipher) (rng : Rng ρ) (t : Transport σ)

/-- The steps before the secondary key is drawn. -/
def untilSharedRandom (x : VitaRun σ ρ) : VitaErrorCode × VitaRun σ ρ :=
  checkSuccess (startRequest t x) fun x =>
  checkSuccess (getStatus t x) fun x =>
  if x.state.lockStatus ≠ gcLocked then (.unlocked, x) else
  checkSuccess (getSessionKey aes t x) fun x =>
  exchangeSharedRandom aes rng t x

/-- The steps from there on. -/
def fromSecondaryKey (x : VitaRun σ ρ) : VitaErrorCode × VitaRun σ ρ :=
  checkSuccess (generateSecondaryKeyAndVerifySession aes rng t x) fun x =>
  checkSuccess (getStatus t x) fun x =>
  if x.state.lockStatus ≠ gcUnlocked then (.locked, x) else
  checkSuccess (verifySecondaryKey aes rng t x) fun x =>
  checkSuccess (getPacket18Key aes rng t 0x2 x) fun x =>
  checkSuccess (getPacket18Key aes rng t 0x3 x) fun x =>
  checkSuccess (getPacket20Key aes rng t x) fun x =>
  (.ok, x)

/-- A failed step ends the whole. -/
theorem checkSuccess_of_ne {r : VitaErrorCode × VitaRun σ ρ} (h : r.1 ≠ .ok)
    (next : VitaRun σ ρ → VitaErrorCode × VitaRun σ ρ) : checkSuccess r next = r :=
  if_pos h

theorem checkSuccess_assoc (r : VitaErrorCode × VitaRun σ ρ)
    (f g : VitaRun σ ρ → VitaErrorCode × VitaRun σ ρ) :
    checkSuccess (checkSuccess r f) g = checkSuccess r fun x => checkSuccess (f x) g := by
  by_cases h : r.1 = .ok
  · rcases r with ⟨code, x⟩
    cases h
    rw [checkSuccess_ok, checkSuccess_ok]
  · rw [checkSuccess_of_ne h, checkSuccess_of_ne h, checkSuccess_of_ne h]

theorem vitaCmd56Steps_split (x : VitaRun σ ρ) :
    vitaCmd56Steps aes rng t x =
      checkSuccess (untilSharedRandom aes rng t x) (fromSecondaryKey aes rng t) := by
  have hlocked : ∀ z : VitaRun σ ρ, ∀ rest : VitaErrorCode × VitaRun σ ρ,
      checkSuccess (if z.state.lockStatus ≠ gcLocked then (.unlocked, z) else rest)
          (fromSecondaryKey aes rng t) =
        if z.state.lockStatus ≠ gcLocked then (.unlocked, z)
        else checkSuccess rest (fromSecondaryKey aes rng t) := by
    intro z rest
    split
    · exact checkSuccess_of_ne (by simp) _
    · rfl
  simp only [untilSharedRandom, checkSuccess_assoc, hlocked]
  rfl

/-- What the console put on the bus last. -/
def lastSent (x : VitaRun σ ρ) : Option Cmd56Request := x.log.getLast?.map Exchange.request

variable {aes rng t} {x y : VitaRun σ ρ}

/-- The last request carries the block that was drawn, unencrypted. -/
theorem exchangeSharedRandom_sent (h : exchangeSharedRandom aes rng t x = (.ok, y)) :
    lastSent y = some (sharedRandomRequest x.state.keyId (drawn rng x.rand)) ∧
      y.rand = afterDraw rng x.rand := by
  rcases exchangeSharedRandom_inv h with ⟨response, shared, hlog, -, -, -, hrand⟩
  refine ⟨?_, hrand⟩
  rw [lastSent, hlog, List.getLast?_concat]
  rfl

theorem untilSharedRandom_sent (h : untilSharedRandom aes rng t x = (.ok, y)) :
    ∃ keyId, lastSent y = some (sharedRandomRequest keyId (drawn rng x.rand)) ∧
      y.rand = afterDraw rng x.rand := by
  rcases checkSuccess_eq_ok h with ⟨x₁, h₁, h⟩
  rcases checkSuccess_eq_ok h with ⟨x₂, h₂, h⟩
  by_cases hlocked : x₂.state.lockStatus = gcLocked
  case neg => simp [hlocked] at h
  rw [if_neg (not_not.mpr hlocked)] at h
  rcases checkSuccess_eq_ok h with ⟨x₃, h₃, h₄⟩
  -- nothing is drawn before the shared random
  have hrand : x₃.rand = x.rand := by
    rcases startRequest_inv h₁ with ⟨-, -, -, -, -, hr₁⟩
    rcases getStatus_inv h₂ with ⟨-, -, -, -, hr₂⟩
    rcases getSessionKey_inv h₃ with ⟨-, -, -, -, -, -, -, hr₃⟩
    rw [hr₃, hr₂, hr₁]
  rcases exchangeSharedRandom_sent h₄ with ⟨hsent, hafter⟩
  rw [hrand] at hsent hafter
  exact ⟨x₃.state.keyId, hsent, hafter⟩

/-! ## The secondary key -/

/-- The secondary key in a request, as the other end of the session reads it. -/
def secondaryKeyIn (aes : BlockCipher) (sessionKey : AesCtx) (request : Cmd56Request) : AesBlock :=
  ExchangeSecondaryKeyAndVerifySessionRequest.secondaryKey.get
    (decryptCbcZeroIv aes sessionKey request.data
      ExchangeSecondaryKeyAndVerifySessionRequest.size
      ExchangeSecondaryKeyAndVerifySessionRequest.blocks_le)

theorem secondaryKeyIn_request (sessionKey : AesCtx) (key : AesBlock) (challenge : Bytes 0x20) :
    secondaryKeyIn aes sessionKey (secondaryKeyRequest aes sessionKey key challenge) = key := by
  simp only [secondaryKeyIn, secondaryKeyRequest, decrypt_encrypt]
  rw [Field.get_put_apart _ _ _ _ (by decide), Field.get_put_same]

/-- The key that is drawn is the one sent and the one kept, whatever the cart
answers. -/
theorem generateSecondaryKeyAndVerifySession_key (aes : BlockCipher) (rng : Rng ρ)
    (t : Transport σ) (x : VitaRun σ ρ) :
    let z := (generateSecondaryKeyAndVerifySession aes rng t x).2
    secondaryKeyIn aes x.state.sessionKey z.request = drawn rng x.rand ∧
      z.state.secondaryKey = aesInitCtx aes (drawn rng x.rand) := by
  have hsent : (generateSecondaryKeyAndVerifySession aes rng t x).2.request =
      secondaryKeyRequest aes x.state.sessionKey (drawn rng x.rand)
        (orW80 x.state.sharedRandom) := by
    unfold generateSecondaryKeyAndVerifySession
    dsimp only
    split <;> rfl
  have hkept : (generateSecondaryKeyAndVerifySession aes rng t x).2.state.secondaryKey =
      aesInitCtx aes (drawn rng x.rand) := by
    unfold generateSecondaryKeyAndVerifySession
    dsimp only
    split <;> rfl
  refine ⟨?_, hkept⟩
  rw [hsent, secondaryKeyIn_request]

/-! ## The listener -/

variable (aes)

/-- From the last request before the step, `listen` gives the secondary key the
step generates, in every session that gets there. -/
def Predicts (listen : Cmd56Request → AesBlock) : Prop :=
  ∀ (σ : Type) (t : Transport σ) (state : VitaCmd56State) (bus : σ) (rand : AesBlock)
    (y : VitaRun σ AesBlock),
    untilSharedRandom aes (libRng aes) t
        ⟨state, Cmd56Request.zero, Cmd56Response.zero, bus, rand, []⟩ = (.ok, y) →
      ∃ request, lastSent y = some request ∧
        let z := (generateSecondaryKeyAndVerifySession aes (libRng aes) t y).2
        secondaryKeyIn aes y.state.sessionKey z.request = listen request ∧
          z.state.secondaryKey = aesInitCtx aes (listen request)

/-- No function of what is sent in the clear gives the key. -/
def SecretFromListener : Prop := ¬ ∃ listen, Predicts aes listen

/-- The zero block, encrypted under the sixteen bytes heard. -/
def listener (request : Cmd56Request) : AesBlock :=
  aes.cipher (aes.keyExpansion (ExchangeSharedRandomRequest.sharedRandVita.get request.data))
    zeroIv

theorem listener_sharedRandomRequest (keyId : UInt16) (random : AesBlock) :
    listener aes (sharedRandomRequest keyId random) = randCycle aes random := by
  rw [listener, sharedRandomRequest, Field.get_put_same, randCycle_eq]

theorem predicts_listener : Predicts aes (listener aes) := by
  intro σ t state bus rand y hrun
  rcases untilSharedRandom_sent hrun with ⟨keyId, hsent, hrand⟩
  rcases generateSecondaryKeyAndVerifySession_key aes (libRng aes) t y with
    ⟨hkey, hkept⟩
  -- the second block drawn, from the first
  have hdrawn : drawn (libRng aes) y.rand =
      listener aes (sharedRandomRequest keyId (drawn (libRng aes) rand)) := by
    rw [hrand, afterDraw_libRng, listener_sharedRandomRequest, drawn_libRng]
  refine ⟨_, hsent, ?_, ?_⟩
  · rw [hkey, hdrawn]
  · rw [hkept, hdrawn]

/-- A listener knows the secondary key before it is sent. -/
theorem secondaryKey_predictable (aes : BlockCipher) : Predicts aes (listener aes) :=
  predicts_listener aes

/-- With the repository's AES the key is no secret. -/
theorem not_secretFromListener : ¬ SecretFromListener tinyAes := by
  intro hsecret
  exact hsecret ⟨listener tinyAes, predicts_listener tinyAes⟩

end GcToolKit.Cmd56
