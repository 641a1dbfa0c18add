import GcToolKit.Lib.Run
import GcToolKit.Cmd56.Answers

/-!
# The cart over whole runs

A cart initialised by `gcCmd56Init` is sent any requests in any order. The
history of requests and answers determines its keys, its shared random and its
lock status (`CartInv`); from this follow when the cart is unlocked and when it
hands out the per-cart keys. No handler asks for the handshake's order.
-/

namespace GcToolKit.Cmd56

open ByteBuf Run GcToolKit.Crypto

variable {ρ : Type} (aes : BlockCipher) (rng : Rng ρ)

/-! ## The machine -/

structure Cart (ρ : Type) where
  gc : GcCmd56State
  rand : ρ

/-- One packet: the request, and what the response buffer and the
uninitialised local happen to hold. -/
structure CartInput where
  request : Cmd56Request
  buffer : Cmd56Response
  stack : AesBlock
deriving DecidableEq

abbrev CartEvent := CartInput × Cmd56Response

def cart : Machine (Cart ρ) CartInput Cmd56Response where
  step s i :=
    let y := gcCmd56Run aes rng i.stack s.gc s.rand i.request i.buffer
    (⟨y.state, y.rand⟩, y.response)

/-- A cart after `gc_cmd56_init`. -/
def freshCart (randState : AesBlock) (keys : Option Cmd56Keys) (rand : ρ) : Cart ρ :=
  ⟨(gcCmd56Init randState keys).state, rand⟩

/-! ## Reading the history -/

/-- The request reaches the handler of `cmd`. -/
def asks (cmd : Cmd56Command) (i : CartInput) : Bool :=
  i.request.magic == cmd56Magic && Cmd56Command.ofCode i.request.command == some cmd

def asked (cmd : Cmd56Command) (e : CartEvent) : Bool := asks cmd e.1

/-- A request for `cmd` that is not answered with an error. -/
def granted (cmd : Cmd56Command) (e : CartEvent) : Bool :=
  asked cmd e && e.2.errorCode == 0

/-- The session key of the most recent CMD_GENERATE_SESSION_KEY, from the
random part the cart announced; the cleared context when there was none. -/
def sessionKeyOf (log : List CartEvent) : AesCtx :=
  match latest? (asked .generateSessionKey) log with
  | none => AesCtx.zero
  | some (e, _) => ((deriveSessionKey aes (announcedCartRandom e.2) retailKeyId).map
      (aesInitCtx aes)).getD AesCtx.zero

/-- The shared random of the most recent CMD_EXCHANGE_SHARED_RANDOM that was
granted, as the answer carries it; zeros when there was none. -/
def sharedRandomOf (log : List CartEvent) : Bytes 0x20 :=
  match latest? (granted .exchangeSharedRandom) log with
  | none => Vector.replicate 0x20 0
  | some (e, older) =>
      let plain := decryptCbcZeroIv aes (sessionKeyOf aes older) e.2.data
        ExchangeSharedRandomResponse.size ExchangeSharedRandomResponse.blocks_le
      SharedRandom.cartPart.put
        (SharedRandom.vitaPart.put (Vector.replicate 0x20 0)
          (ExchangeSharedRandomResponse.sharedRandVita.get plain))
        (ExchangeSharedRandomResponse.sharedRandCart.get plain)

/-- The payload of a CMD_EXCHANGE_SECONDARY_KEY_AND_VERIFY_SESSION after the
history `older`, decrypted under the session key then in force. -/
def payloadOf (older : List CartEvent) (i : CartInput) : Bytes 0x1d1 :=
  decryptCbcZeroIv aes (sessionKeyOf aes older) i.request.data
    ExchangeSecondaryKeyAndVerifySessionRequest.size
    ExchangeSecondaryKeyAndVerifySessionRequest.blocks_le

/-- The payload contains the shared random then in force. -/
def Proves (older : List CartEvent) (i : CartInput) : Prop :=
  ExchangeSecondaryKeyAndVerifySessionRequest.challengeBytes.get (payloadOf aes older i) =
    sharedRandomOf aes older

/-- The secondary key of the most recent
CMD_EXCHANGE_SECONDARY_KEY_AND_VERIFY_SESSION, proof or no proof; the cleared
context when there was none. -/
def secondaryKeyOf (log : List CartEvent) : AesCtx :=
  match latest? (asked .exchangeSecondaryKeyAndVerifySession) log with
  | none => AesCtx.zero
  | some (e, older) => aesInitCtx aes
      (ExchangeSecondaryKeyAndVerifySessionRequest.secondaryKey.get (payloadOf aes older e.1))

/-- The two commands that write the lock status. -/
def setsLock (e : CartEvent) : Bool :=
  asked .start e || asked .exchangeSecondaryKeyAndVerifySession e

/-- The latest of these was a proof, and it was right. -/
def Unlocked (log : List CartEvent) : Prop :=
  ∃ e older, latest? setsLock log = some (e, older) ∧
    asked .exchangeSecondaryKeyAndVerifySession e = true ∧ Proves aes older e.1

/-! ## One more event -/

section Events

variable {aes} {log : List CartEvent} {e : CartEvent}

theorem sessionKeyOf_cons_of_neg (h : asked .generateSessionKey e = false) :
    sessionKeyOf aes (e :: log) = sessionKeyOf aes log := by
  rw [sessionKeyOf, latest?_cons_of_neg h, sessionKeyOf]

theorem sessionKeyOf_cons_of_pos (h : asked .generateSessionKey e = true) :
    sessionKeyOf aes (e :: log) =
      ((deriveSessionKey aes (announcedCartRandom e.2) retailKeyId).map
        (aesInitCtx aes)).getD AesCtx.zero := by
  rw [sessionKeyOf, latest?_cons_of_pos h]

theorem sharedRandomOf_cons_of_neg (h : granted .exchangeSharedRandom e = false) :
    sharedRandomOf aes (e :: log) = sharedRandomOf aes log := by
  rw [sharedRandomOf, latest?_cons_of_neg h, sharedRandomOf]

theorem secondaryKeyOf_cons_of_neg
    (h : asked .exchangeSecondaryKeyAndVerifySession e = false) :
    secondaryKeyOf aes (e :: log) = secondaryKeyOf aes log := by
  rw [secondaryKeyOf, latest?_cons_of_neg h, secondaryKeyOf]

theorem secondaryKeyOf_cons_of_pos
    (h : asked .exchangeSecondaryKeyAndVerifySession e = true) :
    secondaryKeyOf aes (e :: log) = aesInitCtx aes
      (ExchangeSecondaryKeyAndVerifySessionRequest.secondaryKey.get
        (payloadOf aes log e.1)) := by
  rw [secondaryKeyOf, latest?_cons_of_pos h]

theorem unlocked_cons_of_neg (h : setsLock e = false) :
    Unlocked aes (e :: log) ↔ Unlocked aes log := by
  rw [Unlocked, latest?_cons_of_neg h, Unlocked]

theorem unlocked_cons_of_pos (h : setsLock e = true) :
    Unlocked aes (e :: log) ↔
      asked .exchangeSecondaryKeyAndVerifySession e = true ∧ Proves aes log e.1 := by
  rw [Unlocked, latest?_cons_of_pos h]
  constructor
  · rintro ⟨_, _, heq, hproof⟩
    rcases Prod.mk.inj (Option.some.inj heq) with ⟨rfl, rfl⟩
    exact hproof
  · exact fun hproof => ⟨e, log, rfl, hproof⟩

end Events

/-! ## One more request -/

section Step

variable (s : Cart ρ) (i : CartInput)

/-- A request reaches the handler of one command or of none. -/
theorem asks_cases :
    (∀ cmd, asks cmd i = false) ∨ ∃ cmd, ∀ cmd', asks cmd' i = (cmd' == cmd) := by
  by_cases hmagic : i.request.magic = cmd56Magic
  · cases hcode : Cmd56Command.ofCode i.request.command with
    | none => exact Or.inl fun cmd => by simp [asks, hcode]
    | some cmd =>
      refine Or.inr ⟨cmd, fun cmd' => ?_⟩
      by_cases h : cmd' = cmd
      · simp [asks, hmagic, hcode, h]
      · have h' : ¬ cmd = cmd' := fun hc => h hc.symm
        simp [asks, hmagic, hcode, h, h']
  · exact Or.inl fun cmd => by simp [asks, hmagic]

/-- The handler's view of the step. -/
def cartStepOf : CartStep ρ := ⟨s.gc, i.request, i.buffer, s.rand⟩

/-- The handler of a command. -/
def handlerOf (stack : AesBlock) : Cmd56Command → CartStep ρ → CartStep ρ
  | .start => handleCmdStart
  | .getStatus => handleCmdStatus
  | .generateSessionKey => handleGenerateSessionKey aes rng stack
  | .exchangeSharedRandom => handleExchangeSharedRandom aes rng
  | .exchangeSecondaryKeyAndVerifySession => handleExchangeSecondaryKeyAndVerifySession aes
  | .verifySecondaryKey => handleVerifySecondaryKey aes rng
  | .getP18KeyAndCmacSignature => handleP18keyAndCmacSignature aes
  | .getP20KeyAndCmacSignature => handleP20keyAndCmacSignature aes rng

/-- A request for a known command is answered by its handler. -/
theorem cart_step_of_asks (cmd : Cmd56Command) (h : asks cmd i = true) :
    (cart aes rng).step s i =
      let y := handlerOf aes rng i.stack cmd (cartStepOf s i)
      (⟨y.state, y.rand⟩, y.response) := by
  simp only [asks, Bool.and_eq_true, beq_iff_eq] at h
  rcases h with ⟨hmagic, hcode⟩
  have hhandler : handleRequest aes rng i.stack (cartStepOf s i) =
      handlerOf aes rng i.stack cmd (cartStepOf s i) := by
    simp only [handleRequest, cartStepOf, hcode]
    cases cmd <;> rfl
  rw [← hhandler]
  simp only [cart, gcCmd56Run, cartStepOf]
  rw [if_neg (by simp [hmagic])]

/-- Anything else leaves the cart's state alone. -/
theorem cart_step_of_not_asks (h : ∀ cmd, asks cmd i = false) :
    ((cart aes rng).step s i).1.gc = s.gc := by
  by_cases hmagic : i.request.magic = cmd56Magic
  · have hcode : Cmd56Command.ofCode i.request.command = none := by
      cases hc : Cmd56Command.ofCode i.request.command with
      | none => rfl
      | some cmd =>
        have hasks := h cmd
        simp [asks, hmagic, hc] at hasks
    simp [cart, gcCmd56Run, hmagic, handleRequest, hcode, handleUnknownRequest]
  · simp [cart, gcCmd56Run, hmagic]

end Step

/-! ## The invariant -/

/-- What the history says about the cart's state. -/
structure CartInv (keys : Cmd56Keys) (gc : GcCmd56State) (log : List CartEvent) : Prop where
  keyId : gc.keyId = retailKeyId
  perCartKeys : gc.perCartKeys = keys
  sessionKey : gc.sessionKey = sessionKeyOf aes log
  sharedRandom : gc.sharedRandom = sharedRandomOf aes log
  secondaryKey : gc.secondaryKey = secondaryKeyOf aes log
  lockStatus : gc.lockStatus = gcUnlocked ↔ Unlocked aes log

theorem cartInv_fresh (randState : AesBlock) (keys : Option Cmd56Keys) (rand : ρ) :
    CartInv aes (keys.getD Cmd56Keys.zero) (freshCart randState keys rand).gc [] where
  keyId := by cases keys <;> rfl
  perCartKeys := by cases keys <;> rfl
  sessionKey := by cases keys <;> rfl
  sharedRandom := by cases keys <;> rfl
  secondaryKey := by cases keys <;> rfl
  lockStatus := by
    have hlocked : (freshCart randState keys rand).gc.lockStatus = gcLocked := by
      cases keys <;> rfl
    rw [hlocked]
    constructor
    · intro h
      exact absurd h (by decide)
    · rintro ⟨e, older, h, -⟩
      simp [latest?] at h

variable {aes} {keys : Cmd56Keys} {gc gc' : GcCmd56State} {log : List CartEvent}

/-- A step that changes nothing the invariant speaks about. -/
theorem CartInv.frame {e : CartEvent} (hinv : CartInv aes keys gc log) (hgc : gc' = gc)
    (hkey : asked .generateSessionKey e = false) (hrandom : granted .exchangeSharedRandom e = false)
    (hproof : asked .exchangeSecondaryKeyAndVerifySession e = false)
    (hstart : asked .start e = false) : CartInv aes keys gc' (e :: log) where
  keyId := by rw [hgc, hinv.keyId]
  perCartKeys := by rw [hgc, hinv.perCartKeys]
  sessionKey := by rw [hgc, hinv.sessionKey, sessionKeyOf_cons_of_neg hkey]
  sharedRandom := by rw [hgc, hinv.sharedRandom, sharedRandomOf_cons_of_neg hrandom]
  secondaryKey := by rw [hgc, hinv.secondaryKey, secondaryKeyOf_cons_of_neg hproof]
  lockStatus := by
    have hlock : setsLock e = false := by simp [setsLock, hstart, hproof]
    rw [hgc, hinv.lockStatus, unlocked_cons_of_neg hlock]

variable {i : CartInput}

/-- CMD_START locks and forgets nothing else. -/
theorem CartInv.start (hinv : CartInv aes keys gc log) {response : Cmd56Response}
    (hcmd : ∀ cmd, asks cmd i = (cmd == .start))
    (hgc : gc' = { gc with lockStatus := gcLocked }) :
    CartInv aes keys gc' ((i, response) :: log) where
  keyId := by rw [hgc, hinv.keyId]
  perCartKeys := by rw [hgc, hinv.perCartKeys]
  sessionKey := by rw [hgc, hinv.sessionKey, sessionKeyOf_cons_of_neg (by simp [asked, hcmd])]
  sharedRandom := by
    rw [hgc, hinv.sharedRandom, sharedRandomOf_cons_of_neg (by simp [granted, asked, hcmd])]
  secondaryKey := by rw [hgc, hinv.secondaryKey, secondaryKeyOf_cons_of_neg (by simp [asked, hcmd])]
  lockStatus := by
    rw [hgc, unlocked_cons_of_pos (by simp [setsLock, asked, hcmd])]
    simp [asked, hcmd, gcLocked, gcUnlocked]

/-- A new session key takes the place of the old one. -/
theorem CartInv.generateSessionKey (hinv : CartInv aes keys gc log) {response : Cmd56Response}
    {cartRandom : Bytes 0x20} (hcmd : ∀ cmd, asks cmd i = (cmd == .generateSessionKey))
    (hrandom : announcedCartRandom response = cartRandom)
    (hgc : gc' = { gc with
      cartRandom
      sessionKey := aesInitCtx aes
        ((deriveSessionKey aes cartRandom gc.keyId).getD i.stack) }) :
    CartInv aes keys gc' ((i, response) :: log) where
  keyId := by rw [hgc, hinv.keyId]
  perCartKeys := by rw [hgc, hinv.perCartKeys]
  sessionKey := by
    -- the retail key id has a seed, so the uninitialised local is not used
    obtain ⟨key, hkey⟩ : ∃ key, deriveSessionKey aes cartRandom retailKeyId = some key :=
      ⟨_, rfl⟩
    rw [hgc, sessionKeyOf_cons_of_pos (by simp [asked, hcmd]), hinv.keyId, hrandom, hkey]
    rfl
  sharedRandom := by
    rw [hgc, hinv.sharedRandom, sharedRandomOf_cons_of_neg (by simp [granted, asked, hcmd])]
  secondaryKey := by rw [hgc, hinv.secondaryKey, secondaryKeyOf_cons_of_neg (by simp [asked, hcmd])]
  lockStatus := by
    rw [hgc, hinv.lockStatus, unlocked_cons_of_neg (by simp [setsLock, asked, hcmd])]

/-- A granted shared random takes the place of the old one. -/
theorem CartInv.exchangeSharedRandom (hinv : CartInv aes keys gc log) {response : Cmd56Response}
    {vitaPart cartPart : AesBlock} (hcmd : ∀ cmd, asks cmd i = (cmd == .exchangeSharedRandom))
    (hok : response.errorCode = 0)
    (hvita : ExchangeSharedRandomResponse.sharedRandVita.get
      (decryptCbcZeroIv aes gc.sessionKey response.data
        ExchangeSharedRandomResponse.size) = vitaPart)
    (hcart : ExchangeSharedRandomResponse.sharedRandCart.get
      (decryptCbcZeroIv aes gc.sessionKey response.data
        ExchangeSharedRandomResponse.size) = cartPart)
    (hgc : gc' = { gc with
      sharedRandom := SharedRandom.cartPart.put
        (SharedRandom.vitaPart.put gc.sharedRandom vitaPart) cartPart }) :
    CartInv aes keys gc' ((i, response) :: log) where
  keyId := by rw [hgc, hinv.keyId]
  perCartKeys := by rw [hgc, hinv.perCartKeys]
  sessionKey := by rw [hgc, hinv.sessionKey, sessionKeyOf_cons_of_neg (by simp [asked, hcmd])]
  sharedRandom := by
    have hgranted : granted .exchangeSharedRandom (i, response) = true := by
      simp [granted, asked, hcmd, hok]
    rw [hgc, sharedRandomOf, latest?_cons_of_pos hgranted]
    dsimp only
    rw [← hinv.sessionKey, hvita, hcart]
    exact sharedRandom_covered _ _ _ _
  secondaryKey := by rw [hgc, hinv.secondaryKey, secondaryKeyOf_cons_of_neg (by simp [asked, hcmd])]
  lockStatus := by
    rw [hgc, hinv.lockStatus, unlocked_cons_of_neg (by simp [setsLock, asked, hcmd])]

/-- A proof, right or wrong, sets the secondary key and the lock status. -/
theorem CartInv.exchangeSecondaryKeyAndVerifySession (hinv : CartInv aes keys gc log)
    {response : Cmd56Response} {lockStatus : UInt16}
    (hcmd : ∀ cmd, asks cmd i = (cmd == .exchangeSecondaryKeyAndVerifySession))
    (hgc : gc' = { gc with
      secondaryKey := aesInitCtx aes
        (ExchangeSecondaryKeyAndVerifySessionRequest.secondaryKey.get
          (decryptCbcZeroIv aes gc.sessionKey i.request.data
            ExchangeSecondaryKeyAndVerifySessionRequest.size))
      lockStatus })
    (hlock : lockStatus = gcUnlocked ↔
      ExchangeSecondaryKeyAndVerifySessionRequest.challengeBytes.get
        (decryptCbcZeroIv aes gc.sessionKey i.request.data
          ExchangeSecondaryKeyAndVerifySessionRequest.size) = gc.sharedRandom) :
    CartInv aes keys gc' ((i, response) :: log) where
  keyId := by rw [hgc, hinv.keyId]
  perCartKeys := by rw [hgc, hinv.perCartKeys]
  sessionKey := by rw [hgc, hinv.sessionKey, sessionKeyOf_cons_of_neg (by simp [asked, hcmd])]
  sharedRandom := by
    rw [hgc, hinv.sharedRandom, sharedRandomOf_cons_of_neg (by simp [granted, asked, hcmd])]
  secondaryKey := by
    rw [hgc, secondaryKeyOf_cons_of_pos (by simp [asked, hcmd]), payloadOf, ← hinv.sessionKey]
  lockStatus := by
    have hasked : asked .exchangeSecondaryKeyAndVerifySession (i, response) = true := by
      simp [asked, hcmd]
    rw [hgc, hlock, unlocked_cons_of_pos (by simp [setsLock, asked, hcmd]), Proves, payloadOf,
      ← hinv.sessionKey, ← hinv.sharedRandom]
    exact ⟨fun h => ⟨hasked, h⟩, fun h => h.2⟩

/-- One request preserves the invariant. -/
theorem cartInv_step {s : Cart ρ} (hinv : CartInv aes keys s.gc log) (i : CartInput) :
    CartInv aes keys ((cart aes rng).step s i).1.gc ((i, ((cart aes rng).step s i).2) :: log) := by
  rcases asks_cases i with hnone | ⟨cmd, hcmd⟩
  · exact hinv.frame (cart_step_of_not_asks aes rng s i hnone) (hnone _)
      (by simp [granted, asked, hnone]) (hnone _) (hnone _)
  · rw [cart_step_of_asks aes rng s i cmd (by simp [hcmd])]
    cases cmd with
    -- `frame` where the command leaves the session alone, a lemma of its own where not
    | start => exact hinv.start hcmd rfl
    | getStatus =>
      exact hinv.frame rfl (hcmd _) (by simp [granted, asked, hcmd]) (hcmd _) (hcmd _)
    | generateSessionKey =>
      obtain ⟨-, -, cartRandom, hrandom, hgc⟩ := handleGenerateSessionKey_announces aes rng
        i.stack (cartStepOf s i)
      exact hinv.generateSessionKey hcmd hrandom hgc
    | exchangeSharedRandom =>
      -- a request naming another key is refused and leaves the state as it was
      by_cases hid : endianSwap (u16OfBytes
          (ExchangeSharedRandomRequest.keyId.get i.request.data)) = s.gc.keyId
      · obtain ⟨hok, hvita, cartPart, hcart, hgc⟩ := handleExchangeSharedRandom_answers aes rng
          (cartStepOf s i) hid
        exact hinv.exchangeSharedRandom hcmd hok hvita hcart hgc
      · rcases handleExchangeSharedRandom_refuses aes rng (cartStepOf s i) hid with ⟨herr, hgc⟩
        have hrandom : granted .exchangeSharedRandom
            (i, (handleExchangeSharedRandom aes rng (cartStepOf s i)).response) = false := by
          simp [granted, herr]
        exact hinv.frame hgc (hcmd _) hrandom (hcmd _) (hcmd _)
    | exchangeSecondaryKeyAndVerifySession =>
      dsimp only [handlerOf]
      rcases handleExchangeSecondaryKeyAndVerifySession_state aes (cartStepOf s i) with
        ⟨lockStatus, hgc, hlock⟩
      exact hinv.exchangeSecondaryKeyAndVerifySession hcmd hgc hlock
    | verifySecondaryKey =>
      have hgc := (handleVerifySecondaryKey_answers aes rng (cartStepOf s i)).2.2.2
      exact hinv.frame hgc (hcmd _) (by simp [granted, asked, hcmd]) (hcmd _) (hcmd _)
    | getP18KeyAndCmacSignature =>
      have hgc := handleP18keyAndCmacSignature_state aes (cartStepOf s i)
      exact hinv.frame hgc (hcmd _) (by simp [granted, asked, hcmd]) (hcmd _) (hcmd _)
    | getP20KeyAndCmacSignature =>
      have hgc := (handleP20keyAndCmacSignature_answers aes rng (cartStepOf s i)).2.2
      exact hinv.frame hgc (hcmd _) (by simp [granted, asked, hcmd]) (hcmd _) (hcmd _)

variable (aes)

/-- Every run preserves it. -/
theorem cartInv_run (randState : AesBlock) (keys : Option Cmd56Keys) (rand : ρ)
    (is : List CartInput) :
    let r := (cart aes rng).run (freshCart randState keys rand) is
    CartInv aes (keys.getD Cmd56Keys.zero) r.1.gc r.2 :=
  (cart aes rng).run_induction (fun s log => CartInv aes (keys.getD Cmd56Keys.zero) s.gc log)
    (cartInv_fresh aes randState keys rand) (fun _ _ i hinv => cartInv_step rng hinv i) is

/-! ## Unlocking -/

/-- A session key, then a shared random under it, then a proof for the two, all
since the cart was last started. -/
def WholeHandshake (log : List CartEvent) : Prop :=
  ∃ newer proof between random middle key older,
    log = newer ++ proof :: (between ++ random :: (middle ++ key :: older)) ∧
    (∀ e ∈ newer ++ between ++ middle, asked .start e = false) ∧
    asked .generateSessionKey key = true ∧
    granted .exchangeSharedRandom random = true ∧
    asked .exchangeSecondaryKeyAndVerifySession proof = true ∧
    ExchangeSecondaryKeyAndVerifySessionRequest.challengeBytes.get
        (decryptCbcZeroIv aes (sessionKeyOf aes (key :: older)) proof.1.request.data
          ExchangeSecondaryKeyAndVerifySessionRequest.size
          ExchangeSecondaryKeyAndVerifySessionRequest.blocks_le) =
      sharedRandomOf aes (random :: (middle ++ key :: older))

/-- Exactly a right proof unlocks the cart, until it is started or another proof
is tried. The session key and the shared random may be older than the last
CMD_START, or the cleared ones. -/
theorem unlocked_iff_proved (randState : AesBlock) (keys : Option Cmd56Keys) (rand : ρ)
    (is : List CartInput) :
    let r := (cart aes rng).run (freshCart randState keys rand) is
    r.1.gc.lockStatus = gcUnlocked ↔
      ∃ newer proof older, r.2 = newer ++ proof :: older ∧
        asked .exchangeSecondaryKeyAndVerifySession proof = true ∧
        Proves aes older proof.1 ∧
        ∀ e ∈ newer, asked .start e = false ∧
          asked .exchangeSecondaryKeyAndVerifySession e = false := by
  intro r
  rw [(cartInv_run aes rng randState keys rand is).lockStatus]
  constructor
  · rintro ⟨proof, older, hlatest, hasked, hproves⟩
    rcases latest?_eq_some.mp hlatest with ⟨newer, hlog, -, hnewer⟩
    refine ⟨newer, proof, older, hlog, hasked, hproves, fun e he => ?_⟩
    simpa [setsLock] using hnewer e he
  · rintro ⟨newer, proof, older, hlog, hasked, hproves, hnewer⟩
    refine ⟨proof, older, latest?_eq_some.mpr ⟨newer, hlog, ?_, fun e he => ?_⟩, hasked, hproves⟩
    · simp [setsLock, hasked]
    · simpa [setsLock] using hnewer e he

/-- A proof for the cleared session key and the cleared shared random. -/
def clearedProof : CartInput :=
  ⟨secondaryKeyRequest aes AesCtx.zero zeroIv (Vector.replicate 0x20 0), Cmd56Response.zero,
    zeroIv⟩

/-- Sent to a fresh cart, it is right. -/
theorem clearedProof_unlocks (randState : AesBlock) (keys : Option Cmd56Keys) (rand : ρ) :
    ((cart aes rng).step (freshCart randState keys rand) (clearedProof aes)).1.gc.lockStatus =
      gcUnlocked := by
  have hinv := cartInv_fresh aes randState keys rand
  obtain ⟨-, hgc⟩ := handleExchangeSecondaryKeyAndVerifySession_accepts aes
    (cartStepOf (freshCart randState keys rand) (clearedProof aes)) zeroIv (by
      rw [cartStepOf, hinv.sessionKey, hinv.sharedRandom]
      rfl)
  rw [cart_step_of_asks aes rng (freshCart randState keys rand) (clearedProof aes)
    .exchangeSecondaryKeyAndVerifySession rfl]
  dsimp only [handlerOf]
  rw [hgc]

/-- The handshake can be skipped. -/
theorem unlocked_without_handshake :
    let r := (cart tinyAes (libRng tinyAes)).run
      (freshCart randStateInit (some Cmd56Keys.zero) randStateInit) [clearedProof tinyAes]
    r.1.gc.lockStatus = gcUnlocked ∧ ¬ WholeHandshake tinyAes r.2 := by
  constructor
  · have hunlocks := clearedProof_unlocks tinyAes (libRng tinyAes) randStateInit
      (some Cmd56Keys.zero) randStateInit
    simpa only [Machine.run, List.foldl_cons, List.foldl_nil, Machine.extend] using hunlocks
  · rintro ⟨newer, proof, between, random, middle, key, older, hlog, -⟩
    have hlen := congrArg List.length hlog
    simp only [Machine.run, Machine.extend, List.foldl_cons, List.foldl_nil, List.length_cons,
      List.length_nil, List.length_append] at hlen
    omega

/-! ## Handing out the keys -/

/-- An answer to a packet 20 request never depends on the lock status. -/
theorem CartInv.p20_answer {aes} {s : Cart ρ} (hinv : CartInv aes keys s.gc log)
    (rng : Rng ρ) (i : CartInput) (hasks : asks .getP20KeyAndCmacSignature i = true) :
    let response := ((cart aes rng).step s i).2
    response.errorCode = 0 ∧
      CarriesP20Key aes (secondaryKeyOf aes log)
        (GetP20KeyAndCmacSignatureRequest.challengeBytes.get i.request.data) response
        keys.packet20Key := by
  rcases handleP20keyAndCmacSignature_answers aes rng (cartStepOf s i) with ⟨hok, hcarries, -⟩
  rw [cart_step_of_asks aes rng s i _ hasks, ← hinv.secondaryKey, ← hinv.perCartKeys]
  exact ⟨hok, hcarries⟩

/-- Nor does an answer to a packet 18 request. -/
theorem CartInv.p18_answer {aes} {s : Cart ρ} (hinv : CartInv aes keys s.gc log)
    (rng : Rng ρ) (i : CartInput) (hasks : asks .getP18KeyAndCmacSignature i = true) :
    let response := ((cart aes rng).step s i).2
    (response.errorCode = 0 ↔ P18RequestValid aes (secondaryKeyOf aes log) i.request) ∧
      (response.errorCode = 0 →
        CarriesP18Key aes (secondaryKeyOf aes log)
          (GetP18KeyAndCmacSignatureRequest.challengeBytes.get
            (decryptCbcZeroIv aes (secondaryKeyOf aes log) i.request.data 0x20)) response
          keys.packet18Key) := by
  rw [cart_step_of_asks aes rng s i _ hasks, ← hinv.secondaryKey, ← hinv.perCartKeys]
  by_cases hvalid : P18RequestValid aes s.gc.secondaryKey i.request
  · rcases handleP18keyAndCmacSignature_answers aes (cartStepOf s i) hvalid with ⟨hok, hcarries, -⟩
    exact ⟨⟨fun _ => hvalid, fun _ => hok⟩, fun _ => hcarries⟩
  · rcases handleP18keyAndCmacSignature_refuses aes (cartStepOf s i) hvalid with ⟨herr, -⟩
    exact ⟨⟨fun hok => absurd hok herr, fun h => absurd h hvalid⟩, fun hok => absurd hok herr⟩

/-- The keys go out encrypted and signed under the secondary key of the most
recent CMD_EXCHANGE_SECONDARY_KEY_AND_VERIFY_SESSION, whether or not its proof
was right (under the cleared context when there was none), and whatever the
lock status: always for packet 20, on a valid request for packet 18. -/
theorem keys_answered_under_secondary_key (randState : AesBlock) (keys : Option Cmd56Keys)
    (rand : ρ) (is : List CartInput) (i : CartInput) :
    let r := (cart aes rng).run (freshCart randState keys rand) is
    let response := ((cart aes rng).step r.1 i).2
    let perCartKeys := keys.getD Cmd56Keys.zero
    (asks .getP20KeyAndCmacSignature i = true →
      response.errorCode = 0 ∧
      CarriesP20Key aes (secondaryKeyOf aes r.2)
        (GetP20KeyAndCmacSignatureRequest.challengeBytes.get i.request.data) response
        perCartKeys.packet20Key) ∧
    (asks .getP18KeyAndCmacSignature i = true →
      (response.errorCode = 0 ↔ P18RequestValid aes (secondaryKeyOf aes r.2) i.request) ∧
      (response.errorCode = 0 →
        CarriesP18Key aes (secondaryKeyOf aes r.2)
          (GetP18KeyAndCmacSignatureRequest.challengeBytes.get
            (decryptCbcZeroIv aes (secondaryKeyOf aes r.2) i.request.data 0x20)) response
          perCartKeys.packet18Key)) := by
  have hinv := cartInv_run aes rng randState keys rand is
  exact ⟨hinv.p20_answer rng i, hinv.p18_answer rng i⟩

/-- A locked cart hands out its packet 20 key. -/
theorem locked_cart_answers_p20 :
    let s := freshCart randStateInit (some Cmd56Keys.zero) randStateInit
    let i : CartInput := ⟨p20Request zeroIv, Cmd56Response.zero, zeroIv⟩
    let response := ((cart tinyAes (libRng tinyAes)).step s i).2
    s.gc.lockStatus = gcLocked ∧ asks .getP20KeyAndCmacSignature i = true ∧
      response.errorCode = 0 ∧
      CarriesP20Key tinyAes AesCtx.zero zeroIv response Cmd56Keys.zero.packet20Key := by
  have hinv := cartInv_fresh tinyAes randStateInit (some Cmd56Keys.zero) randStateInit
  have hchallenge : GetP20KeyAndCmacSignatureRequest.challengeBytes.get
      (p20Request zeroIv).data = zeroIv := Field.get_put_same _ _ _
  obtain ⟨hok, hcarries⟩ := hinv.p20_answer (libRng tinyAes)
    ⟨p20Request zeroIv, Cmd56Response.zero, zeroIv⟩ rfl
  rw [hchallenge] at hcarries
  exact ⟨rfl, rfl, hok, hcarries⟩

end GcToolKit.Cmd56
