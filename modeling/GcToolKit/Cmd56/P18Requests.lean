import GcToolKit.Cmd56.Completeness

/-!
# Which packet 18 requests the cart accepts

The test behind the CMAC is meant to look at the type and at the challenge. It
reads `type != 2 || type != 3`, which no byte fails, so only the challenge
counts.

* `handleP18keyAndCmacSignature_blind` — a refusal does not depend on the keys;
* `p18Decides_iff` — the right decision is taken for every request but those
  that are wrong in the type only.
-/

namespace GcToolKit.Cmd56

open ByteBuf GcToolKit.Crypto

variable {ρ : Type} (aes : BlockCipher)

/-! ## Proper requests -/

/-- The type byte once it is decrypted. -/
def p18Type (ctx : AesCtx) (request : Cmd56Request) : UInt8 :=
  first (GetP18KeyAndCmacSignatureRequest.type.get
    (decryptCbcZeroIv aes ctx request.data 0x20 GetP18KeyAndCmacSignatureRequest.blocks_le))

/-- What a packet 18 request has to be: signed, of type 2 or 3, and with the top
bit of the challenge set. -/
structure P18RequestProper (ctx : AesCtx) (request : Cmd56Request) : Prop extends
    P18RequestValid aes ctx request where
  type : p18Type aes ctx request = 0x2 ∨ p18Type aes ctx request = 0x3

/-! ## Answers and refusals -/

def AnswersWithP18Key (x : CartStep ρ) : Prop :=
  (handleP18keyAndCmacSignature aes x).response.errorCode = 0 ∧
    CarriesP18Key aes x.state.secondaryKey
      (GetP18KeyAndCmacSignatureRequest.challengeBytes.get
        (decryptCbcZeroIv aes x.state.secondaryKey x.request.data 0x20
          GetP18KeyAndCmacSignatureRequest.blocks_le))
      (handleP18keyAndCmacSignature aes x).response x.state.perCartKeys.packet18Key

/-- An error, and the same one whatever the keys of the cart are. -/
structure RefusesWithoutKey (x : CartStep ρ) : Prop where
  error : (handleP18keyAndCmacSignature aes x).response.errorCode ≠ 0
  blind : ∀ perCartKeys,
    (handleP18keyAndCmacSignature aes
      { x with state := { x.state with perCartKeys := perCartKeys } }).response =
        (handleP18keyAndCmacSignature aes x).response

/-- The key is given away for a proper request and for no other one. -/
structure P18Decides (x : CartStep ρ) : Prop where
  answers : AnswersWithP18Key aes x ↔ P18RequestProper aes x.state.secondaryKey x.request
  refuses : ¬ P18RequestProper aes x.state.secondaryKey x.request → RefusesWithoutKey aes x

variable {aes} {x : CartStep ρ}

theorem answersWithP18Key_of_valid (h : P18RequestValid aes x.state.secondaryKey x.request) :
    AnswersWithP18Key aes x := by
  rcases handleP18keyAndCmacSignature_answers aes x h with ⟨herr, hkey, -⟩
  exact ⟨herr, hkey⟩

/-- The keys are read on the way to an answer only. -/
theorem handleP18keyAndCmacSignature_blind
    (h : ¬ P18RequestValid aes x.state.secondaryKey x.request) (perCartKeys : Cmd56Keys) :
    (handleP18keyAndCmacSignature aes
      { x with state := { x.state with perCartKeys := perCartKeys } }).response =
        (handleP18keyAndCmacSignature aes x).response := by
  rw [handleP18keyAndCmacSignature, handleP18keyAndCmacSignature]
  dsimp only
  split
  · next hcmac =>
    split
    · rfl
    · -- only here the keys are read, and the request is a valid one
      next hchallenge =>
      rw [p18RequestInvalid_iff, not_not] at hchallenge
      exact absurd ⟨(memcmp_eq_zero _ _).mp hcmac, hchallenge⟩ h
  · rfl

theorem refusesWithoutKey_of_not_valid
    (h : ¬ P18RequestValid aes x.state.secondaryKey x.request) : RefusesWithoutKey aes x := by
  rcases handleP18keyAndCmacSignature_refuses aes x h with ⟨herr, -⟩
  exact ⟨herr, handleP18keyAndCmacSignature_blind h⟩

/-- A valid request of another type is answered like the rest. -/
theorem P18Decides.type_of_valid (h : P18Decides aes x)
    (hvalid : P18RequestValid aes x.state.secondaryKey x.request) :
    p18Type aes x.state.secondaryKey x.request = 0x2 ∨
      p18Type aes x.state.secondaryKey x.request = 0x3 :=
  (h.answers.mp (answersWithP18Key_of_valid hvalid)).type

theorem p18Decides_iff : P18Decides aes x ↔
    ¬ (P18RequestValid aes x.state.secondaryKey x.request ∧
      p18Type aes x.state.secondaryKey x.request ≠ 0x2 ∧
      p18Type aes x.state.secondaryKey x.request ≠ 0x3) := by
  constructor
  · rintro h ⟨hvalid, htwo, hthree⟩
    rcases h.type_of_valid hvalid with htype | htype
    · exact htwo htype
    · exact hthree htype
  · intro h
    by_cases hvalid : P18RequestValid aes x.state.secondaryKey x.request
    · have htype : p18Type aes x.state.secondaryKey x.request = 0x2 ∨
          p18Type aes x.state.secondaryKey x.request = 0x3 := by
        by_contra hother
        rw [not_or] at hother
        exact h ⟨hvalid, hother⟩
      have hproper : P18RequestProper aes x.state.secondaryKey x.request := ⟨hvalid, htype⟩
      refine ⟨iff_of_true (answersWithP18Key_of_valid hvalid) hproper, ?_⟩
      intro hnot
      exact absurd hproper hnot
    · have hrefused := refusesWithoutKey_of_not_valid hvalid
      have hnot : ¬ P18RequestProper aes x.state.secondaryKey x.request := by
        intro hproper
        exact hvalid hproper.toP18RequestValid
      refine ⟨iff_of_false ?_ hnot, fun _ => hrefused⟩
      intro hanswers
      exact hrefused.error hanswers.1

/-! ## A request of type 0 -/

theorem p18Type_p18Request (ctx : AesCtx) (challenge : AesBlock) (type : UInt8) :
    p18Type aes ctx (p18Request aes ctx challenge type) = type := by
  rcases plain_p18Request aes ctx challenge type with ⟨cmac, hplain⟩
  unfold p18Type
  rw [hplain, Field.get_put_apart _ _ _ _ (by decide), Field.get_put_same]
  rfl

/-- Signed by the console, with the challenge masked, but of type 0. -/
def untypedP18Step : CartStep Unit where
  state := GcCmd56State.zero
  request := p18Request tinyAes AesCtx.zero (orW80 (Vector.replicate 0x10 0)) 0x0
  response := Cmd56Response.zero
  rand := ()

theorem not_p18Decides_untyped : ¬ P18Decides tinyAes untypedP18Step := by
  intro h
  have htype : p18Type tinyAes AesCtx.zero untypedP18Step.request = 0x0 :=
    p18Type_p18Request AesCtx.zero _ 0x0
  have hvalid := p18Request_valid tinyAes AesCtx.zero (Vector.replicate 0x10 0) 0x0
  rcases h.type_of_valid hvalid with htwo | hthree
  · exact absurd (htype.symm.trans htwo) (by decide)
  · exact absurd (htype.symm.trans hthree) (by decide)

end GcToolKit.Cmd56
