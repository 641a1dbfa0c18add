import GcToolKit.Cmd56.Soundness

/-!
# Prototype key ids

`allow_prototype_keys` is meant to let key ids above 0x8001 pass. The test in
`get_session_key` refuses them when the flag is set, and `vita_cmd56_init_ex`
sets the flag whatever it is asked for; the policy therefore holds for the other
key ids only, and for the one constructor call where the two slips cancel out.
-/

namespace GcToolKit.Cmd56

open ByteBuf GcToolKit.Crypto

variable (aes : BlockCipher)

/-! ## The policy -/

/-- The ways to create a console. -/
inductive Constructor where
  | init
  | initEx (allowPrototypeKeys : Bool)
deriving DecidableEq

def Constructor.state (sendFunc recvFunc : UInt32) : Constructor → VitaCmd56State
  | init => vitaCmd56Init sendFunc recvFunc
  | initEx allowPrototypeKeys =>
      vitaCmd56InitEx sendFunc recvFunc (if allowPrototypeKeys then ctrue else cfalse)

/-- Whether the constructor is asked to allow prototype key ids. -/
def Constructor.allows : Constructor → Bool
  | init => false
  | initEx allowPrototypeKeys => allowPrototypeKeys

/-- The cart announced `keyId` in the run with this log. -/
def Announced (log : List Exchange) (keyId : UInt16) : Prop :=
  ∃ e ∈ log, e.request = sessionKeyPacket ∧ announcedKeyId e.response = keyId

/-- No cart gets through the handshake after it announced `keyId`. -/
def Rejects (ctor : Constructor) (keyId : UInt16) : Prop :=
  ∀ (σ ρ : Type) (rng : Rng ρ) (t : Transport σ) (sendFunc recvFunc : UInt32) (bus : σ)
    (rand : ρ),
    Announced (vitaCmd56Run aes rng t (ctor.state sendFunc recvFunc) bus rand).2.log keyId →
      (vitaCmd56Run aes rng t (ctor.state sendFunc recvFunc) bus rand).1 ≠ .ok

/-- Every cart of the repository with `keyId` gets through. -/
def Authenticates (ctor : Constructor) (keyId : UInt16) : Prop :=
  ∀ (ρ ρ' : Type) (rng : Rng ρ) (cartRng : Rng ρ') (stack : AesBlock)
    (sendFunc recvFunc : UInt32) (bus : CartBus ρ') (rand : ρ), bus.gc.keyId = keyId →
    (vitaCmd56Run aes rng (cartTransport aes cartRng stack) (ctor.state sendFunc recvFunc)
      bus rand).1 = .ok

def supportedKeyIds : List UInt16 :=
  [retailKeyId, prototypeKeyId1, prototypeKeyId2, prototypeKeyId3]

/-- Without leave, no key id above 0x8001; with leave, every supported one. -/
def PolicyHolds (ctor : Constructor) (keyId : UInt16) : Prop :=
  if ctor.allows then keyId ∈ supportedKeyIds → Authenticates aes ctor keyId
  else keyId > prototypeKeyId1 → Rejects aes ctor keyId

/-! ## What a successful run announced -/

variable {aes} {σ ρ ρ' : Type}

/-- The one exchange that asks for a session key is the third. -/
theorem announced_of_accepted {rng : Rng ρ} {allow : UInt32} {r : ρ} {final : VitaCmd56State}
    {tr : Transcript} {keyId : UInt16} (hacc : Accepted aes rng allow r final tr)
    (h : Announced tr.toList keyId) : final.keyId = keyId := by
  rcases h with ⟨e, he, hreq, hid⟩
  have hcommand : e.request.command = Cmd56Command.generateSessionKey.code := by rw [hreq]; rfl
  simp only [Transcript.toList, List.mem_cons, List.not_mem_nil, or_false] at he
  rcases he with rfl | rfl | rfl | rfl | rfl | rfl | rfl | rfl | rfl | rfl
  · rw [hacc.startSent] at hcommand
    exact absurd hcommand (by decide)
  · rw [hacc.firstStatusSent] at hcommand
    exact absurd hcommand (by decide)
  · rw [hacc.keyId, hid]
  · rw [hacc.sharedRandomSent] at hcommand
    exact absurd hcommand (show ¬ Cmd56Command.exchangeSharedRandom.code = _ by decide)
  · rw [hacc.secondaryKeySent] at hcommand
    exact absurd hcommand
      (show ¬ Cmd56Command.exchangeSecondaryKeyAndVerifySession.code = _ by decide)
  · rw [hacc.secondStatusSent] at hcommand
    exact absurd hcommand (by decide)
  · rw [hacc.challengeSent] at hcommand
    exact absurd hcommand (show ¬ Cmd56Command.verifySecondaryKey.code = _ by decide)
  · rw [hacc.p18FirstSent] at hcommand
    exact absurd hcommand (show ¬ Cmd56Command.getP18KeyAndCmacSignature.code = _ by decide)
  · rw [hacc.p18SecondSent] at hcommand
    exact absurd hcommand (show ¬ Cmd56Command.getP18KeyAndCmacSignature.code = _ by decide)
  · rw [hacc.p20Sent] at hcommand
    exact absurd hcommand (show ¬ Cmd56Command.getP20KeyAndCmacSignature.code = _ by decide)

/-- A console accepts supported key ids only. -/
theorem keySeed_of_accepted {rng : Rng ρ} {allow : UInt32} {r : ρ} {final : VitaCmd56State}
    {tr : Transcript} (hacc : Accepted aes rng allow r final tr) :
    (keySeed final.keyId).isSome := by
  rcases hacc.sessionKey with ⟨key, hkey, -⟩
  have hsome : (deriveSessionKey aes final.cartRandom final.keyId).isSome := by rw [hkey]; rfl
  simpa [deriveSessionKey] using hsome

/-- Above 0x8001 there are two key ids with a seed. -/
theorem prototype_of_keySeed {keyId : UInt16} (hseed : (keySeed keyId).isSome)
    (hgt : keyId > prototypeKeyId1) : keyId = prototypeKeyId2 ∨ keyId = prototypeKeyId3 := by
  unfold keySeed at hseed
  split at hseed
  · next h => exact absurd hgt (by rw [h]; decide)
  · split at hseed
    · next h => exact Or.inl h
    · split at hseed
      · next h => exact Or.inr h
      · split at hseed
        · next h => exact absurd hgt (by rw [h]; decide)
        · simp at hseed

/-- A cart that got through announced a supported key id that passed the test. -/
theorem announced_of_ok (rng : Rng ρ) (t : Transport σ) (state : VitaCmd56State) (bus : σ)
    (rand : ρ) {keyId : UInt16} (hok : (vitaCmd56Run aes rng t state bus rand).1 = .ok)
    (h : Announced (vitaCmd56Run aes rng t state bus rand).2.log keyId) :
    (keySeed keyId).isSome ∧
      ¬ (state.allowPrototypeKeys = 1 ∧ keyId > prototypeKeyId1) := by
  have hrun : vitaCmd56Run aes rng t state bus rand =
      (.ok, (vitaCmd56Run aes rng t state bus rand).2) := by rw [← hok]
  obtain ⟨tr, (hlog : (vitaCmd56Run aes rng t state bus rand).2.log = tr.toList), hacc⟩ :=
    vitaCmd56Steps_inv hrun
  rw [hlog] at h
  have hseed := keySeed_of_accepted hacc
  have hpolicy := hacc.policy
  rw [announced_of_accepted hacc h] at hseed hpolicy
  exact ⟨hseed, hpolicy⟩

/-- An honest cart that gets through has announced its key id. -/
theorem announced_cart (rng : Rng ρ) (cartRng : Rng ρ') (stack : AesBlock)
    (state : VitaCmd56State) (bus : CartBus ρ') (rand : ρ)
    (hseed : (keySeed bus.gc.keyId).isSome)
    (hpolicy : ¬ (state.allowPrototypeKeys = 1 ∧ bus.gc.keyId > prototypeKeyId1)) :
    let r := vitaCmd56Run aes rng (cartTransport aes cartRng stack) state bus rand
    r.1 = .ok ∧ Announced r.2.log bus.gc.keyId := by
  rcases vitaCmd56Run_cart aes rng cartRng stack state bus rand hseed hpolicy with
    ⟨hok, -, hagree, -, hid⟩
  have hrun : vitaCmd56Run aes rng (cartTransport aes cartRng stack) state bus rand =
      (.ok, (vitaCmd56Run aes rng (cartTransport aes cartRng stack) state bus rand).2) := by
    rw [← hok]
  obtain ⟨tr, (hlog : (vitaCmd56Run aes rng (cartTransport aes cartRng stack) state bus
    rand).2.log = tr.toList), hacc⟩ := vitaCmd56Steps_inv hrun
  refine ⟨hok, tr.sessionKey, ?_, hacc.sessionKeySent, ?_⟩
  · rw [hlog]
    simp [Transcript.toList]
  · rw [← hacc.keyId, hagree.keyId, hid]

/-! ## The two slips -/

/-- With the flag clear the two prototype key ids get through. -/
theorem rejects_init_iff {keyId : UInt16} (hgt : keyId > prototypeKeyId1) :
    Rejects aes .init keyId ↔ keyId ≠ prototypeKeyId2 ∧ keyId ≠ prototypeKeyId3 := by
  constructor
  · intro hrejects
    by_contra hproto
    have hseed : (keySeed keyId).isSome := by
      rcases Classical.not_and_iff_not_or_not.mp hproto with h | h <;>
        rw [not_not.mp h] <;> rfl
    let bus : CartBus AesBlock :=
      ⟨{ GcCmd56State.zero with keyId }, randStateInit, Cmd56Request.zero⟩
    obtain ⟨hok, hannounced⟩ := announced_cart (libRng aes) (libRng aes) zeroIv
      (Constructor.init.state 0 0) bus randStateInit hseed
      (fun h => absurd h.1 (by decide))
    exact hrejects _ _ _ _ 0 0 bus randStateInit hannounced hok
  · rintro ⟨h₂, h₃⟩ σ ρ rng t sendFunc recvFunc bus rand hannounced hok
    rcases announced_of_ok rng t _ bus rand hok hannounced with ⟨hseed, -⟩
    rcases prototype_of_keySeed hseed hgt with h | h
    · exact h₂ h
    · exact h₃ h

/-- With the flag set none of them does, -/
theorem rejects_initEx {keyId : UInt16} (hgt : keyId > prototypeKeyId1) (allow : Bool) :
    Rejects aes (.initEx allow) keyId := by
  intro σ ρ rng t sendFunc recvFunc bus rand hannounced hok
  rcases announced_of_ok rng t _ bus rand hok hannounced with ⟨-, hpolicy⟩
  exact hpolicy ⟨rfl, hgt⟩

/-- so an honest cart with such a key id is refused where it should be let in. -/
theorem authenticates_initEx_iff {keyId : UInt16} (hsupported : keyId ∈ supportedKeyIds)
    (allow : Bool) :
    Authenticates aes (.initEx allow) keyId ↔
      keyId ≠ prototypeKeyId2 ∧ keyId ≠ prototypeKeyId3 := by
  constructor
  · intro hauth
    by_contra hproto
    have hgt : keyId > prototypeKeyId1 := by
      rcases Classical.not_and_iff_not_or_not.mp hproto with h | h <;>
        rw [not_not.mp h] <;> decide
    -- the flag is 1 whatever was asked for, so the cart announcing this key is refused
    let bus : CartBus AesBlock :=
      ⟨{ GcCmd56State.zero with keyId }, randStateInit, Cmd56Request.zero⟩
    exact vitaCmd56Steps_cart_refused aes (libRng aes) (libRng aes) zeroIv
      ⟨(Constructor.initEx allow).state 0 0, Cmd56Request.zero, Cmd56Response.zero, bus,
        randStateInit, []⟩ ⟨rfl, hgt⟩
      (hauth _ _ (libRng aes) (libRng aes) zeroIv 0 0 bus randStateInit rfl)
  · rintro ⟨h₂, h₃⟩ ρ ρ' rng cartRng stack sendFunc recvFunc bus rand hkey
    have hlow : keyId = retailKeyId ∨ keyId = prototypeKeyId1 := by
      simp only [supportedKeyIds, List.mem_cons, List.not_mem_nil, or_false] at hsupported
      rcases hsupported with h | h | h | h
      · exact Or.inl h
      · exact Or.inr h
      · exact absurd h h₂
      · exact absurd h h₃
    have hseed : (keySeed bus.gc.keyId).isSome := by
      rcases hlow with h | h <;> rw [hkey, h] <;> rfl
    have hngt : ¬ bus.gc.keyId > prototypeKeyId1 := by
      rcases hlow with h | h <;> rw [hkey, h] <;> decide
    exact (vitaCmd56Run_cart aes rng cartRng stack _ bus rand hseed (fun h => hngt h.2)).1

/-- The policy holds for every key id but the two prototype ones, and for these
where the two slips cancel out. -/
theorem policyHolds_iff (aes : BlockCipher) (ctor : Constructor) (keyId : UInt16) :
    PolicyHolds aes ctor keyId ↔
      ctor = .initEx false ∨ keyId ≠ prototypeKeyId2 ∧ keyId ≠ prototypeKeyId3 := by
  rcases ctor with _ | allow
  · simp only [PolicyHolds, Constructor.allows, reduceCtorEq, false_or, Bool.false_eq_true,
      if_false]
    by_cases hgt : keyId > prototypeKeyId1
    · rw [← rejects_init_iff hgt]
      exact ⟨fun h => h hgt, fun h _ => h⟩
    · -- no key this low is one of the two
      refine ⟨fun _ => ⟨?_, ?_⟩, fun _ h => absurd h hgt⟩
      · rintro rfl
        exact hgt (by decide)
      · rintro rfl
        exact hgt (by decide)
  · cases allow with
    | false =>
      simp only [PolicyHolds, Constructor.allows, true_or, iff_true, Bool.false_eq_true, if_false]
      exact fun hgt => rejects_initEx hgt false
    | true =>
      simp only [PolicyHolds, Constructor.allows, if_true, Constructor.initEx.injEq,
        Bool.true_eq_false, false_or]
      by_cases hsupported : keyId ∈ supportedKeyIds
      · rw [← authenticates_initEx_iff hsupported true]
        exact ⟨fun h => h hsupported, fun h _ => h⟩
      · refine ⟨fun _ => ⟨?_, ?_⟩, fun _ h => absurd h hsupported⟩
        · rintro rfl
          exact hsupported (by decide)
        · rintro rfl
          exact hsupported (by decide)

/-- A console from `vita_cmd56_init` lets a cart with key id 0x8002 in. -/
theorem not_policyHolds_init : ¬ PolicyHolds tinyAes .init prototypeKeyId2 := by
  intro hpolicy
  have hrejects : Rejects tinyAes .init prototypeKeyId2 := hpolicy (by decide)
  exact ((rejects_init_iff (by decide)).mp hrejects).1 rfl

end GcToolKit.Cmd56
