import GcToolKit.Lib.Stores
import GcToolKit.Cmd56.Answers
import GcToolKit.Cmd56.Layout

/-!
# What the cart stores into the response

`responseStores` lists the stores of one call, in their order and with all of
their bytes. An error answer ends with a `memset` of the data, as long as the
host expects the whole response to be: it starts 0xB bytes into the structure.

* `holds_responseStores` — the memory after the stores holds the response;
* `storesInside_iff` — the stores keep within the 0x200 bytes unless a request
  that expects more than 0x1f5 bytes is refused.
-/

namespace GcToolKit.Cmd56

open ByteBuf Stores GcToolKit.Crypto

variable {ρ : Type} (aes : BlockCipher) (rng : Rng ρ) (stack : AesBlock)

/-! ## The stores -/

/-- `cmd56_response_start` -/
def startStores (request : Cmd56Request) : List (Store UInt8) :=
  [.ofVector 0x0 (Vector.replicate 0x200 0),
    .ofVector 0x0 (u32Bytes request.expectedResponseCode),
    .ofVector 0x4 (u32Bytes 0),
    .ofVector 0x8 (u16Bytes (cmd56ResponseStart request).responseSize),
    .ofVector 0xA #v[0]]

/-- `cmd56_response_error` -/
def errorStores (response : Cmd56Response) (error : UInt8) : List (Store UInt8) :=
  [.ofVector 0xA (Vector.replicate 1 error),
    .ofVector 0x0 (u32Bytes error.toUInt32),
    ⟨0xB, List.replicate (endianSwap response.responseSize).toNat 0xFF⟩]

def dataStore {len : Nat} (f : Field 0x1f5 len) (v : Bytes len) : Store UInt8 :=
  .ofVector (0xB + f.off) v

/-- The blocks an encryption in place leaves in the data. -/
def blocksStore (data : Bytes 0x1f5) (length : Nat)
    (h : 0 + 16 * blocks length ≤ 0x1f5) : Store UInt8 :=
  dataStore ⟨0x0, h⟩ (slice data 0 (16 * blocks length) h)

theorem start0xD_le : 0xD + 1 ≤ 0x1f5 := by decide
theorem start0xE_le : 0xE + 1 ≤ 0x1f5 := by decide
theorem start0xF_le : 0xF + 1 ≤ 0x1f5 := by decide
theorem cartRandomFixed_le : 0x8 + 0xD ≤ 0x1f5 := by decide

section Stores

variable (x : CartStep ρ)

def cmdStartStores : List (Store UInt8) :=
  [dataStore ⟨0xD, start0xD_le⟩ #v[0x1], dataStore ⟨0xE, start0xE_le⟩ #v[0x1],
    dataStore ⟨0xF, start0xF_le⟩ #v[0x4]]

def cmdStatusStores : List (Store UInt8) :=
  [dataStore GetStatusResponse.status (u16Bytes x.state.lockStatus)]

def generateSessionKeyStores : List (Store UInt8) :=
  [dataStore GenerateSessionKeyResponse.unk0 (u16Bytes (endianSwap 0xE000)),
    dataStore GenerateSessionKeyResponse.keyId (u16Bytes (endianSwap x.state.keyId)),
    dataStore GenerateSessionKeyResponse.unk1 (u16Bytes (endianSwap 0x2)),
    dataStore GenerateSessionKeyResponse.unk2 (u16Bytes (endianSwap 0x3)),
    dataStore GenerateSessionKeyResponse.cartRandom (rng.randBytes 0x20 x.rand).1,
    dataStore ⟨0x8, cartRandomFixed_le⟩ cartRandomFixed]

def exchangeSharedRandomStores : List (Store UInt8) :=
  let reqKeyId := u16OfBytes (ExchangeSharedRandomRequest.keyId.get x.request.data)
  if endianSwap reqKeyId = x.state.keyId then
    [dataStore ExchangeSharedRandomResponse.sharedRandCart (orW80 (rng.randBytes 0x10 x.rand).1),
      dataStore ExchangeSharedRandomResponse.sharedRandVita
        (orW80 (ExchangeSharedRandomRequest.sharedRandVita.get x.request.data)),
      blocksStore (handleExchangeSharedRandom aes rng x).response.data
        ExchangeSharedRandomResponse.size ExchangeSharedRandomResponse.blocks_le]
  else errorStores (cmd56ResponseStart x.request) 0x11

def exchangeSecondaryKeyAndVerifySessionStores : List (Store UInt8) :=
  let req := decryptCbcZeroIv aes x.state.sessionKey x.request.data
    ExchangeSecondaryKeyAndVerifySessionRequest.size
    ExchangeSecondaryKeyAndVerifySessionRequest.blocks_le
  if memcmp (ExchangeSecondaryKeyAndVerifySessionRequest.challengeBytes.get req)
      x.state.sharedRandom = 0 then []
  else errorStores (cmd56ResponseStart x.request) 0xF1

def verifySecondaryKeyStores : List (Store UInt8) :=
  [dataStore VerifySecondaryKeyResponse.whole
      (rng.randBytes VerifySecondaryKeyResponse.size x.rand).1,
    dataStore VerifySecondaryKeyResponse.challengeBytes
      (orW80 (VerifySecondaryKeyRequest.challengeBytes.get x.request.data)),
    dataStore VerifySecondaryKeyResponse.cartRandom x.state.cartRandom,
    blocksStore (handleVerifySecondaryKey aes rng x).response.data 0x40
      VerifySecondaryKeyResponse.blocks_le]

def p18keyAndCmacSignatureStores : List (Store UInt8) :=
  let response := cmd56ResponseStart x.request
  let gotCmac := doCmd56CmacHash aes x.state.secondaryKey x.request.data
    (makeInt24 x.request.command 0x0 x.request.additionalDataSize) 0x20
    GetP18KeyAndCmacSignatureRequest.signed_le GetP18KeyAndCmacSignatureRequest.cmacInput_le
  if memcmp gotCmac (GetP18KeyAndCmacSignatureRequest.cmacSignature.get x.request.data) = 0 then
    let req := decryptCbcZeroIv aes x.state.secondaryKey x.request.data 0x20
      GetP18KeyAndCmacSignatureRequest.blocks_le
    if p18RequestInvalid req then errorStores response 0x11
    else
      let data := (handleP18keyAndCmacSignature aes x).response.data
      [dataStore GetP18KeyAndCmacSignatureResponse.challengeBytes
          (GetP18KeyAndCmacSignatureRequest.challengeBytes.get req),
        dataStore GetP18KeyAndCmacSignatureResponse.p18Key x.state.perCartKeys.packet18Key,
        blocksStore data 0x30 GetP18KeyAndCmacSignatureResponse.blocks_le,
        dataStore GetP18KeyAndCmacSignatureResponse.cmacSignature
          (GetP18KeyAndCmacSignatureResponse.cmacSignature.get data)]
  else errorStores response 0xF4

def p20keyAndCmacSignatureStores : List (Store UInt8) :=
  let data := (handleP20keyAndCmacSignature aes rng x).response.data
  [dataStore GetP20KeyAndCmacSignatureResponse.whole
      (rng.randBytes GetP20KeyAndCmacSignatureResponse.size x.rand).1,
    dataStore GetP20KeyAndCmacSignatureResponse.challengeBytes
      (orW80 (GetP20KeyAndCmacSignatureRequest.challengeBytes.get x.request.data)),
    dataStore GetP20KeyAndCmacSignatureResponse.p20Key x.state.perCartKeys.packet20Key,
    blocksStore data 0x40 GetP20KeyAndCmacSignatureResponse.blocks_le,
    dataStore GetP20KeyAndCmacSignatureResponse.cmacSignature
      (GetP20KeyAndCmacSignatureResponse.cmacSignature.get data)]

/-- The stores behind those of `cmd56_response_start`. -/
def handlerStores : List (Store UInt8) :=
  match Cmd56Command.ofCode x.request.command with
  | some .start => cmdStartStores
  | some .getStatus => cmdStatusStores x
  | some .generateSessionKey => generateSessionKeyStores rng x
  | some .exchangeSharedRandom => exchangeSharedRandomStores aes rng x
  | some .exchangeSecondaryKeyAndVerifySession => exchangeSecondaryKeyAndVerifySessionStores aes x
  | some .verifySecondaryKey => verifySecondaryKeyStores aes rng x
  | some .getP18KeyAndCmacSignature => p18keyAndCmacSignatureStores aes x
  | some .getP20KeyAndCmacSignature => p20keyAndCmacSignatureStores aes rng x
  | none => errorStores (cmd56ResponseStart x.request) 0x11

end Stores

/-- What `gc_cmd56_run` stores from `response` on. -/
def responseStores (state : GcCmd56State) (rand : ρ) (buffer : Cmd56Request)
    (response : Cmd56Response) : List (Store UInt8) :=
  if memcmp buffer.magic cmd56Magic ≠ 0 then []
  else startStores buffer ++ handlerStores aes rng ⟨state, buffer, response, rand⟩

/-! ## The memory holds the response -/

section Holds

variable {mem : Nat → UInt8} {r : Cmd56Response}

/-- The data is that of the `memset`, so the header is all that is put. -/
theorem toBytes_responseStart (request : Cmd56Request) :
    (cmd56ResponseStart request).toBytes =
      ResponseLayout.errorCode.put (ResponseLayout.responseSize.put
        (ResponseLayout.additionalDataSize.put (ResponseLayout.responseCode.put
          (Vector.replicate 0x200 0) (u32Bytes request.expectedResponseCode)) (u32Bytes 0))
        (u16Bytes (cmd56ResponseStart request).responseSize)) #v[0] := by
  have hzeros : ResponseLayout.data.get (Vector.replicate 0x200 (0 : UInt8)) =
      Vector.replicate 0x1f5 0 := by
    apply Vector.ext
    intro i hi
    simp [Field.get]
  have hdata := Field.put_get_self ResponseLayout.data
    (ResponseLayout.errorCode.put (ResponseLayout.responseSize.put
      (ResponseLayout.additionalDataSize.put (ResponseLayout.responseCode.put
        (Vector.replicate 0x200 0) (u32Bytes request.expectedResponseCode)) (u32Bytes 0))
      (u16Bytes (cmd56ResponseStart request).responseSize)) #v[0])
  rw [Field.get_put_apart _ _ _ _ (by decide), Field.get_put_apart _ _ _ _ (by decide),
    Field.get_put_apart _ _ _ _ (by decide), Field.get_put_apart _ _ _ _ (by decide),
    hzeros] at hdata
  exact hdata

theorem holds_start (mem : Nat → UInt8) (request : Cmd56Request) :
    Holds (runAll mem (startStores request)) (cmd56ResponseStart request).toBytes := by
  have hzeros := (holds_ofFn (n := 0x200) mem).put 0x0 (Vector.replicate 0x200 0) (by decide)
  rw [splice_whole] at hzeros
  rw [toBytes_responseStart]
  exact (((hzeros.put 0x0 (u32Bytes request.expectedResponseCode) (by decide)).put 0x4
    (u32Bytes 0) (by decide)).put 0x8 (u16Bytes (cmd56ResponseStart request).responseSize)
      (by decide)).put 0xA #v[0] (by decide)

theorem holds_data {len : Nat} (h : Holds mem r.toBytes) (f : Field 0x1f5 len) (v : Bytes len) :
    Holds ((dataStore f v).run mem)
      ({ r with data := f.put r.data v } : Cmd56Response).toBytes := by
  rw [toBytes_putData]
  exact h.put _ v (data_le f)

/-- The error fills the data as far as it is there. -/
theorem toBytes_responseError (r : Cmd56Response) (error : UInt8) :
    (cmd56ResponseError r error).toBytes =
      Vector.ofFn fun i : Fin 0x200 =>
        if 0xB ≤ i.val ∧ i.val < 0xB + (endianSwap r.responseSize).toNat then 0xFF
        else (ResponseLayout.responseCode.put (ResponseLayout.errorCode.put r.toBytes #v[error])
          (u32Bytes error.toUInt32)).get i := by
  rw [← toBytes_withErrorCode, ← toBytes_withResponseCode]
  let header : Cmd56Response :=
    { r with errorCode := error, responseCode := error.toUInt32 }
  have hfill := toBytes_withData header (cmd56ResponseError r error).data
  refine hfill.trans ?_
  apply Vector.ext
  intro i hi
  rw [Field.getElem_put, Vector.getElem_ofFn]
  unfold cmd56ResponseError
  dsimp only
  split
  · next hin =>
    -- a byte of the data: the `memset` of the model is the one of the memory
    have hbyte : header.toBytes[i] = r.data[i - 0xB] := by
      have hget := congrArg (fun d : Bytes 0x1f5 => d[i - 0xB]) (data_toBytes header)
      simp only [Field.get, getElem_slice] at hget
      have hidx : 0xB + (i - 0xB) = i := by omega
      simp only [hidx] at hget
      exact hget
    rw [Vector.getElem_ofFn]
    by_cases hsize : i < 0xB + (endianSwap r.responseSize).toNat
    · rw [if_pos (by dsimp only; omega), if_pos ⟨hin.1, hsize⟩]
    · rw [if_neg (by dsimp only; omega), if_neg (by omega)]
      exact hbyte.symm
  · next hout =>
    rw [if_neg (by omega)]
    rfl

theorem holds_error (h : Holds mem r.toBytes) (error : UInt8) :
    Holds (runAll mem (errorStores r error)) (cmd56ResponseError r error).toBytes := by
  rw [toBytes_responseError]
  exact ((h.put 0xA #v[error] (by decide)).put 0x0 (u32Bytes error.toUInt32) (by decide)).fill 0xB
    (endianSwap r.responseSize).toNat 0xFF

/-- Encryption changes its blocks only. -/
theorem encrypt_eq_put (ctx : AesCtx) (data : Bytes 0x1f5) (length : Nat)
    (h : 0 + 16 * blocks length ≤ 0x1f5) :
    Field.put ⟨0x0, h⟩ data (slice (encryptCbcZeroIv aes ctx data length h) 0
      (16 * blocks length) h) = encryptCbcZeroIv aes ctx data length h := by
  apply Vector.ext
  intro i hi
  rw [Field.getElem_put]
  split
  · simp
  · next hout =>
    exact (Cbc.getElem_cbcEncrypt_outside _ _ _ _ _ _ _ (by dsimp only at hout; omega)).symm

theorem holds_blocks (h : Holds mem r.toBytes) (ctx : AesCtx) (length : Nat)
    (hle : 0 + 16 * blocks length ≤ 0x1f5) :
    Holds ((blocksStore (encryptCbcZeroIv aes ctx r.data length hle) length hle).run mem)
      ({ r with data := encryptCbcZeroIv aes ctx r.data length hle } : Cmd56Response).toBytes := by
  have hput := holds_data h ⟨0x0, hle⟩
    (slice (encryptCbcZeroIv aes ctx r.data length hle) 0 (16 * blocks length) hle)
  rw [encrypt_eq_put] at hput
  exact hput

/-- What is stored behind the blocks leaves them. -/
theorem blocksStore_put {len : Nat} (data : Bytes 0x1f5) (length : Nat)
    (hle : 0 + 16 * blocks length ≤ 0x1f5) (f : Field 0x1f5 len) (v : Bytes len)
    (hf : 0 + 16 * blocks length ≤ f.off) :
    blocksStore (f.put data v) length hle = blocksStore data length hle := by
  unfold blocksStore
  rw [Field.put, slice_splice_disjoint _ _ _ _ _ _ _ (Or.inl hf)]

end Holds

section Handlers

variable {mem : Nat → UInt8} (x : CartStep ρ)

theorem set_eq_put {n i : Nat} (b : Bytes n) (a : UInt8) (hi : i + 1 ≤ n) :
    b.set i a = Field.put ⟨i, hi⟩ b #v[a] := by
  apply Vector.ext
  intro j hj
  rw [Field.getElem_put, Vector.getElem_set]
  by_cases hij : i = j
  · subst hij
    rw [if_pos rfl, dif_pos (by dsimp only; omega)]
    simp
  · rw [if_neg hij, dif_neg (by dsimp only; omega)]

theorem holds_cmdStart (h : Holds mem (cmd56ResponseStart x.request).toBytes) :
    Holds (runAll mem cmdStartStores) (handleCmdStart x).response.toBytes := by
  unfold handleCmdStart
  dsimp only
  rw [set_eq_put _ _ start0xD_le, set_eq_put _ _ start0xE_le, set_eq_put _ _ start0xF_le]
  exact holds_data (holds_data (holds_data h _ _) _ _) _ _

/-- The fixed bytes are stored over the random ones. -/
theorem holds_generateSessionKey (h : Holds mem (cmd56ResponseStart x.request).toBytes) :
    Holds (runAll mem (generateSessionKeyStores rng x))
      (handleGenerateSessionKey aes rng stack x).response.toBytes := by
  have hfixed : ∀ (data : Bytes 0x1f5) (random : Bytes 0x20),
      GenerateSessionKeyResponse.cartRandom.put data (splice random 0 cartRandomFixed) =
        Field.put ⟨0x8, cartRandomFixed_le⟩
          (GenerateSessionKeyResponse.cartRandom.put data random) cartRandomFixed :=
    fun data random => splice_splice_inside _ _ _ _ _ _ _
  unfold handleGenerateSessionKey
  dsimp only
  rw [hfixed]
  exact holds_data (holds_data (holds_data (holds_data (holds_data (holds_data h _ _) _ _) _ _)
    _ _) _ _) _ _

theorem holds_exchangeSharedRandom (h : Holds mem (cmd56ResponseStart x.request).toBytes) :
    Holds (runAll mem (exchangeSharedRandomStores aes rng x))
      (handleExchangeSharedRandom aes rng x).response.toBytes := by
  unfold exchangeSharedRandomStores handleExchangeSharedRandom
  dsimp only
  split
  · exact holds_blocks aes (holds_data (holds_data h _ _) _ _) _ _ _
  · exact holds_error h 0x11

theorem holds_exchangeSecondaryKeyAndVerifySession
    (h : Holds mem (cmd56ResponseStart x.request).toBytes) :
    Holds (runAll mem (exchangeSecondaryKeyAndVerifySessionStores aes x))
      (handleExchangeSecondaryKeyAndVerifySession aes x).response.toBytes := by
  unfold exchangeSecondaryKeyAndVerifySessionStores handleExchangeSecondaryKeyAndVerifySession
  dsimp only
  split
  · exact h
  · exact holds_error h 0xF1

theorem holds_verifySecondaryKey (h : Holds mem (cmd56ResponseStart x.request).toBytes) :
    Holds (runAll mem (verifySecondaryKeyStores aes rng x))
      (handleVerifySecondaryKey aes rng x).response.toBytes := by
  unfold verifySecondaryKeyStores handleVerifySecondaryKey
  dsimp only
  exact holds_blocks aes (holds_data (holds_data (holds_data h _ _) _ _) _ _) _ _ _

theorem holds_p18keyAndCmacSignature (h : Holds mem (cmd56ResponseStart x.request).toBytes) :
    Holds (runAll mem (p18keyAndCmacSignatureStores aes x))
      (handleP18keyAndCmacSignature aes x).response.toBytes := by
  unfold p18keyAndCmacSignatureStores handleP18keyAndCmacSignature
  dsimp only
  split
  · split
    · exact holds_error h 0x11
    · dsimp only
      rw [blocksStore_put _ _ _ _ _ (by decide), Field.get_put_same]
      exact holds_data (holds_blocks aes (holds_data (holds_data h _ _) _ _) _ _ _) _ _
  · exact holds_error h 0xF4

theorem holds_p20keyAndCmacSignature (h : Holds mem (cmd56ResponseStart x.request).toBytes) :
    Holds (runAll mem (p20keyAndCmacSignatureStores aes rng x))
      (handleP20keyAndCmacSignature aes rng x).response.toBytes := by
  unfold p20keyAndCmacSignatureStores handleP20keyAndCmacSignature
  dsimp only
  rw [blocksStore_put _ _ _ _ _ (by decide), Field.get_put_same]
  exact holds_data (holds_blocks aes (holds_data (holds_data (holds_data h _ _) _ _) _ _) _ _ _)
    _ _

/-- One case for each command. -/
theorem holds_handler (h : Holds mem (cmd56ResponseStart x.request).toBytes) :
    Holds (runAll mem (handlerStores aes rng x))
      (handleRequest aes rng stack x).response.toBytes := by
  unfold handlerStores handleRequest
  cases Cmd56Command.ofCode x.request.command with
  | none => exact holds_error h 0x11
  | some command =>
    cases command with
    | start => exact holds_cmdStart x h
    | getStatus => exact holds_data h _ _
    | generateSessionKey => exact holds_generateSessionKey aes rng stack x h
    | exchangeSharedRandom => exact holds_exchangeSharedRandom aes rng x h
    | exchangeSecondaryKeyAndVerifySession =>
      exact holds_exchangeSecondaryKeyAndVerifySession aes x h
    | verifySecondaryKey => exact holds_verifySecondaryKey aes rng x h
    | getP18KeyAndCmacSignature => exact holds_p18keyAndCmacSignature aes x h
    | getP20KeyAndCmacSignature => exact holds_p20keyAndCmacSignature aes rng x h

end Handlers

/-! ## One call -/

section Call

variable (state : GcCmd56State) (rand : ρ) (buffer : Cmd56Request) (response : Cmd56Response)

/-- Stored one after the other, they leave the response of the model. -/
theorem holds_responseStores {mem : Nat → UInt8} (h : Holds mem response.toBytes) :
    Holds (runAll mem (responseStores aes rng state rand buffer response))
      (gcCmd56Run aes rng stack state rand buffer response).response.toBytes := by
  unfold responseStores gcCmd56Run
  dsimp only
  split
  · exact h
  · rw [runAll_append]
    exact holds_handler aes rng stack _ (holds_start mem buffer)

/-- Every byte is stored within the structure. -/
def StoresInside : Prop :=
  ∀ s ∈ responseStores aes rng state rand buffer response, s.Inside cmd56ResponseSize

/-- The request is answered with an error. -/
def Refuses (request : Cmd56Request) : Prop :=
  match Cmd56Command.ofCode request.command with
  | some .exchangeSharedRandom =>
    endianSwap (u16OfBytes (ExchangeSharedRandomRequest.keyId.get request.data)) ≠ state.keyId
  | some .exchangeSecondaryKeyAndVerifySession =>
    ExchangeSecondaryKeyAndVerifySessionRequest.challengeBytes.get
      (decryptCbcZeroIv aes state.sessionKey request.data
        ExchangeSecondaryKeyAndVerifySessionRequest.size
        ExchangeSecondaryKeyAndVerifySessionRequest.blocks_le) ≠ state.sharedRandom
  | some .getP18KeyAndCmacSignature => ¬ P18RequestValid aes state.secondaryKey request
  | none => True
  | _ => False

end Call

/-! ## Where the stores end -/

theorem inside_dataStore {len : Nat} (f : Field 0x1f5 len) (v : Bytes len) :
    (dataStore f v).Inside cmd56ResponseSize :=
  Store.inside_ofVector _ _ (data_le f)

theorem inside_blocksStore (data : Bytes 0x1f5) (length : Nat)
    (h : 0 + 16 * blocks length ≤ 0x1f5) : (blocksStore data length h).Inside cmd56ResponseSize :=
  inside_dataStore _ _

theorem inside_startStores (request : Cmd56Request) :
    ∀ s ∈ startStores request, s.Inside cmd56ResponseSize := by
  unfold startStores
  simp only [List.forall_mem_cons]
  refine ⟨?_, ?_, ?_, ?_, ?_, fun s hs => absurd hs List.not_mem_nil⟩
  · exact Store.inside_ofVector _ _ (by decide)
  · exact Store.inside_ofVector _ _ (by decide)
  · exact Store.inside_ofVector _ _ (by decide)
  · exact Store.inside_ofVector _ _ (by decide)
  · exact Store.inside_ofVector _ _ (by decide)

/-- The size the host expects, as far as the clamp lets it through. -/
theorem responseSize_start (request : Cmd56Request) :
    (endianSwap (cmd56ResponseStart request).responseSize).toNat =
      min request.expectedResponseSize.toNat 0x200 := by
  have hsize : (cmd56ResponseStart request).responseSize =
      endianSwap (if request.expectedResponseSize > cmd56ResponseSize.toUInt32
        then cmd56ResponseSize.toUInt16 else request.expectedResponseSize.toUInt16) := rfl
  have hlimit : cmd56ResponseSize.toUInt32.toNat = 0x200 := rfl
  rw [hsize, endianSwap_endianSwap]
  split
  · next hgt =>
    have hlt := UInt32.lt_iff_toNat_lt.mp hgt
    rw [hlimit] at hlt
    rw [Nat.min_eq_right (Nat.le_of_lt hlt)]
    rfl
  · next hle =>
    have hle' : request.expectedResponseSize.toNat ≤ 0x200 := by
      rw [← hlimit]
      exact Nat.le_of_not_lt fun hlt => hle (UInt32.lt_iff_toNat_lt.mpr hlt)
    rw [Nat.min_eq_left hle', UInt32.toNat_toUInt16]
    omega

theorem inside_errorStores_iff (request : Cmd56Request) (error : UInt8) :
    (∀ s ∈ errorStores (cmd56ResponseStart request) error, s.Inside cmd56ResponseSize) ↔
      request.expectedResponseSize.toNat ≤ 0x1f5 := by
  unfold errorStores
  rw [responseSize_start]
  simp only [List.forall_mem_cons]
  constructor
  · rintro ⟨-, -, hfill, -⟩
    unfold Store.Inside cmd56ResponseSize at hfill
    dsimp only at hfill
    rw [List.length_replicate] at hfill
    omega
  · intro hsize
    refine ⟨Store.inside_ofVector _ _ (by decide), Store.inside_ofVector _ _ (by decide), ?_,
      fun s hs => absurd hs List.not_mem_nil⟩
    unfold Store.Inside cmd56ResponseSize
    dsimp only
    rw [List.length_replicate]
    omega

/-- A refused request is answered through the `memset`. -/
theorem inside_errorStores_refused {refused : Prop} (h : refused) (request : Cmd56Request)
    (error : UInt8) :
    (∀ s ∈ errorStores (cmd56ResponseStart request) error, s.Inside cmd56ResponseSize) ↔
      (refused → request.expectedResponseSize.toNat ≤ 0x1f5) :=
  (inside_errorStores_iff request error).trans (imp_iff_right h).symm

section Refused

variable (x : CartStep ρ)

theorem inside_exchangeSharedRandomStores_iff :
    (∀ s ∈ exchangeSharedRandomStores aes rng x, s.Inside cmd56ResponseSize) ↔
      (endianSwap (u16OfBytes (ExchangeSharedRandomRequest.keyId.get x.request.data)) ≠
        x.state.keyId → x.request.expectedResponseSize.toNat ≤ 0x1f5) := by
  unfold exchangeSharedRandomStores
  dsimp only
  split
  · next hkey =>
    refine iff_of_true ?_ fun hother => absurd hkey hother
    simp [inside_dataStore, inside_blocksStore]
  · next hkey => exact inside_errorStores_refused hkey _ _

theorem inside_exchangeSecondaryKeyAndVerifySessionStores_iff :
    (∀ s ∈ exchangeSecondaryKeyAndVerifySessionStores aes x, s.Inside cmd56ResponseSize) ↔
      (ExchangeSecondaryKeyAndVerifySessionRequest.challengeBytes.get
        (decryptCbcZeroIv aes x.state.sessionKey x.request.data
          ExchangeSecondaryKeyAndVerifySessionRequest.size
          ExchangeSecondaryKeyAndVerifySessionRequest.blocks_le) ≠ x.state.sharedRandom →
        x.request.expectedResponseSize.toNat ≤ 0x1f5) := by
  unfold exchangeSecondaryKeyAndVerifySessionStores
  dsimp only
  split
  · next hproof =>
    rw [memcmp_eq_zero] at hproof
    refine iff_of_true ?_ fun hother => absurd hproof hother
    intro s hs
    exact absurd hs List.not_mem_nil
  · next hproof =>
    rw [memcmp_eq_zero] at hproof
    exact inside_errorStores_refused hproof _ _

theorem inside_p18keyAndCmacSignatureStores_iff :
    (∀ s ∈ p18keyAndCmacSignatureStores aes x, s.Inside cmd56ResponseSize) ↔
      (¬ P18RequestValid aes x.state.secondaryKey x.request →
        x.request.expectedResponseSize.toNat ≤ 0x1f5) := by
  unfold p18keyAndCmacSignatureStores
  dsimp only
  split
  · next hcmac =>
    rw [memcmp_eq_zero] at hcmac
    split
    · next hchallenge =>
      have hrefused : ¬ P18RequestValid aes x.state.secondaryKey x.request := by
        intro hvalid
        exact (p18RequestInvalid_iff _).mp hchallenge hvalid.challenge
      exact inside_errorStores_refused hrefused _ _
    · next hchallenge =>
      rw [p18RequestInvalid_iff, not_not] at hchallenge
      refine iff_of_true ?_ fun hrefused => absurd ⟨hcmac, hchallenge⟩ hrefused
      simp [inside_dataStore, inside_blocksStore]
  · next hcmac =>
    rw [memcmp_eq_zero] at hcmac
    have hrefused : ¬ P18RequestValid aes x.state.secondaryKey x.request := by
      intro hvalid
      exact hcmac hvalid.cmac
    exact inside_errorStores_refused hrefused _ _

/-- One case for each command. -/
theorem inside_handlerStores_iff :
    (∀ s ∈ handlerStores aes rng x, s.Inside cmd56ResponseSize) ↔
      (Refuses aes x.state x.request → x.request.expectedResponseSize.toNat ≤ 0x1f5) := by
  unfold handlerStores Refuses
  cases Cmd56Command.ofCode x.request.command with
  | none => exact inside_errorStores_refused trivial _ _
  | some command =>
    cases command with
    | start => exact iff_of_true (by simp [cmdStartStores, inside_dataStore]) False.elim
    | getStatus => exact iff_of_true (by simp [cmdStatusStores, inside_dataStore]) False.elim
    | generateSessionKey =>
      exact iff_of_true (by simp [generateSessionKeyStores, inside_dataStore]) False.elim
    | exchangeSharedRandom => exact inside_exchangeSharedRandomStores_iff aes rng x
    | exchangeSecondaryKeyAndVerifySession =>
      exact inside_exchangeSecondaryKeyAndVerifySessionStores_iff aes x
    | verifySecondaryKey =>
      exact iff_of_true (by simp [verifySecondaryKeyStores, inside_dataStore, inside_blocksStore])
        False.elim
    | getP18KeyAndCmacSignature => exact inside_p18keyAndCmacSignatureStores_iff aes x
    | getP20KeyAndCmacSignature =>
      exact iff_of_true
        (by simp [p20keyAndCmacSignatureStores, inside_dataStore, inside_blocksStore]) False.elim

end Refused

section Call

variable {aes rng} {state : GcCmd56State} {rand : ρ} {buffer : Cmd56Request}
  {response : Cmd56Response}

/-- Then the memory behind the response is as before the call. -/
theorem behind_of_storesInside (h : StoresInside aes rng state rand buffer response)
    (mem : Nat → UInt8) {i : Nat} (hi : cmd56ResponseSize ≤ i) :
    runAll mem (responseStores aes rng state rand buffer response) i = mem i :=
  runAll_behind mem _ h hi

/-- Behind the header it is the handler's stores that count. -/
theorem storesInside_of_magic (hmagic : buffer.magic = cmd56Magic) :
    StoresInside aes rng state rand buffer response ↔
      (Refuses aes state buffer → buffer.expectedResponseSize.toNat ≤ 0x1f5) := by
  rw [← inside_handlerStores_iff aes rng ⟨state, buffer, response, rand⟩]
  unfold StoresInside responseStores
  rw [if_neg (not_not.mpr ((memcmp_eq_zero _ _).mpr hmagic))]
  constructor
  · intro h s hs
    exact h s (List.mem_append_right _ hs)
  · intro h s hs
    rcases List.mem_append.mp hs with hstart | hhandler
    · exact inside_startStores buffer s hstart
    · exact h s hhandler

theorem storesInside_iff :
    StoresInside aes rng state rand buffer response ↔
      ¬ (buffer.magic = cmd56Magic ∧ Refuses aes state buffer ∧
        0x1f5 < buffer.expectedResponseSize.toNat) := by
  by_cases hmagic : buffer.magic = cmd56Magic
  · rw [storesInside_of_magic hmagic]
    constructor
    · rintro h ⟨-, hrefuses, hsize⟩
      exact absurd (h hrefuses) (Nat.not_le.mpr hsize)
    · intro h hrefuses
      by_contra hsize
      exact h ⟨hmagic, hrefuses, Nat.lt_of_not_le hsize⟩
  · refine iff_of_true ?_ fun h => hmagic h.1
    intro s hs
    unfold responseStores at hs
    rw [if_pos (mt (memcmp_eq_zero _ _).mp hmagic)] at hs
    exact absurd hs List.not_mem_nil

end Call

/-! ## An unknown command -/

/-- Command 0, with the whole structure expected back. -/
def unknownRequest : Cmd56Request :=
  { Cmd56Request.zero with magic := cmd56Magic, expectedResponseSize := 0x200 }

/-- The `memset` goes eleven bytes beyond the response. -/
theorem not_storesInside_unknown :
    ¬ StoresInside tinyAes (libRng tinyAes) GcCmd56State.zero randStateInit unknownRequest
      Cmd56Response.zero := by
  intro h
  have hrefuses : Refuses tinyAes GcCmd56State.zero unknownRequest := by
    have hcommand : Cmd56Command.ofCode unknownRequest.command = none := by decide
    unfold Refuses
    rw [hcommand]
    trivial
  have hsize := (storesInside_of_magic rfl).mp h hrefuses
  revert hsize
  decide

end GcToolKit.Cmd56
