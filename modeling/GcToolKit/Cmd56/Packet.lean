import GcToolKit.Lib.LittleEndian
import GcToolKit.Crypto.Modes

/-!
# CMD56 packets (cmd56/cmd56.h, cmd56/cmd56.c, cmd56/compiler_defs.h)

Requests and responses are 512 byte packed structures whose tail `data` is
overlaid by one structure for each command. The overlays are given member by
member as `Field`s of `data`; integers are little endian in memory and some of
them are stored byte swapped.
-/

namespace GcToolKit.Cmd56

open ByteBuf LittleEndian GcToolKit.Crypto

/-! ## compiler_defs.h -/

/-- `endian_swap`. -/
def endianSwap (x : UInt16) : UInt16 := (x <<< 8) ||| (x >>> 8)

/-- The loop of `memcmp`. -/
def memcmpLoop : List UInt8 → List UInt8 → Int
  | x :: xs, y :: ys => if x ≠ y then (if x < y then -1 else 1) else memcmpLoop xs ys
  | _, _ => 0

def memcmp {n : Nat} (a b : Bytes n) : Int := memcmpLoop a.toList b.toList

/-- A `uint16_t` in memory. -/
def u16Bytes (x : UInt16) : Bytes 2 := leVec 2 x.toNat

def u16OfBytes (b : Bytes 2) : UInt16 := UInt16.ofNat (ofLe b.toList)

/-- A `uint32_t` in memory. -/
def u32Bytes (x : UInt32) : Bytes 4 := leVec 4 x.toNat

/-! ## Commands and lock status -/

inductive Cmd56Command where
  | start
  | getStatus
  | generateSessionKey
  | exchangeSharedRandom
  | exchangeSecondaryKeyAndVerifySession
  | verifySecondaryKey
  | getP18KeyAndCmacSignature
  | getP20KeyAndCmacSignature
deriving DecidableEq, Repr

/-- The command byte. -/
def Cmd56Command.code : Cmd56Command → UInt8
  | start => 0xC4
  | getStatus => 0xC2
  | generateSessionKey => 0xA1
  | exchangeSharedRandom => 0xA2
  | exchangeSecondaryKeyAndVerifySession => 0xA3
  | verifySecondaryKey => 0xA4
  | getP18KeyAndCmacSignature => 0xB1
  | getP20KeyAndCmacSignature => 0xC1

/-- The command a byte stands for; every other byte is unknown. -/
def Cmd56Command.ofCode (c : UInt8) : Option Cmd56Command :=
  [start, getStatus, generateSessionKey, exchangeSharedRandom,
    exchangeSecondaryKeyAndVerifySession, verifySecondaryKey, getP18KeyAndCmacSignature,
    getP20KeyAndCmacSignature].find? fun cmd => cmd.code == c

abbrev gcLocked : UInt16 := 0xFF
abbrev gcUnlocked : UInt16 := 0x00

/-- `cmd56_keys`; in memory `packet20_key` comes first. -/
structure Cmd56Keys where
  packet20Key : Bytes 0x20
  packet18Key : Bytes 0x20
deriving DecidableEq

def Cmd56Keys.zero : Cmd56Keys := ⟨Vector.replicate 0x20 0, Vector.replicate 0x20 0⟩

/-! ## Packets -/

structure Cmd56Request where
  magic : Bytes 0x20
  expectedResponseCode : UInt32
  requestSize : UInt32
  expectedResponseSize : UInt32
  command : UInt8
  unknownHostValue : UInt8
  additionalDataSize : UInt8
  data : Bytes 0x1d1
deriving DecidableEq

structure Cmd56Response where
  responseCode : UInt32
  additionalDataSize : UInt32
  responseSize : UInt16
  errorCode : UInt8
  data : Bytes 0x1f5
deriving DecidableEq

def Cmd56Request.zero : Cmd56Request :=
  ⟨Vector.replicate 0x20 0, 0, 0, 0, 0, 0, 0, Vector.replicate 0x1d1 0⟩

def Cmd56Response.zero : Cmd56Response := ⟨0, 0, 0, 0, Vector.replicate 0x1f5 0⟩

/-- `sizeof(cmd56_response)`. -/
abbrev cmd56ResponseSize : Nat := 0x200

/-- `calc_size`: the structure with three bytes of header. -/
abbrev calcSize (size : Nat) : Nat := size + 0x3

/-! ## Overlays of the request data

`blocks_le`, `signed_le` and `cmacInput_le` keep the ranges that are encrypted
and signed within the data and the CMAC input. -/

namespace SharedRandom
abbrev vitaPart : Field 0x20 0x10 := ⟨0x0, by decide⟩
abbrev cartPart : Field 0x20 0x10 := ⟨0x10, by decide⟩
end SharedRandom

namespace ExchangeSharedRandomRequest
abbrev size : Nat := 0x12
abbrev keyId : Field 0x1d1 2 := ⟨0x0, by decide⟩
abbrev sharedRandVita : Field 0x1d1 0x10 := ⟨0x2, by decide⟩
end ExchangeSharedRandomRequest

namespace ExchangeSecondaryKeyAndVerifySessionRequest
abbrev size : Nat := 0x30
abbrev secondaryKey : Field 0x1d1 0x10 := ⟨0x0, by decide⟩
abbrev challengeBytes : Field 0x1d1 0x20 := ⟨0x10, by decide⟩
theorem blocks_le : 0 + 16 * blocks size ≤ 0x1d1 := by decide
end ExchangeSecondaryKeyAndVerifySessionRequest

namespace VerifySecondaryKeyRequest
abbrev size : Nat := 0x10
abbrev challengeBytes : Field 0x1d1 0x10 := ⟨0x0, by decide⟩
end VerifySecondaryKeyRequest

namespace GetP18KeyAndCmacSignatureRequest
abbrev size : Nat := 0x30
abbrev challengeBytes : Field 0x1d1 0x10 := ⟨0x0, by decide⟩
abbrev pad0 : Field 0x1d1 0xF := ⟨0x10, by decide⟩
abbrev type : Field 0x1d1 1 := ⟨0x1F, by decide⟩
abbrev cmacSignature : Field 0x1d1 0x10 := ⟨0x20, by decide⟩
theorem blocks_le : 0 + 16 * blocks 0x20 ≤ 0x1d1 := by decide
theorem signed_le : 0 + 0x20 ≤ 0x1d1 := by decide
theorem cmacInput_le : 0x10 + 0x20 ≤ 0x50 := by decide
end GetP18KeyAndCmacSignatureRequest

namespace GetP20KeyAndCmacSignatureRequest
abbrev size : Nat := 0x10
abbrev challengeBytes : Field 0x1d1 0x10 := ⟨0x0, by decide⟩
end GetP20KeyAndCmacSignatureRequest

/-! ## Overlays of the response data -/

namespace StartResponse
abbrev size : Nat := 0x10
abbrev start : Field 0x1f5 0x10 := ⟨0x0, by decide⟩
end StartResponse

namespace GetStatusResponse
abbrev size : Nat := 0x2
abbrev status : Field 0x1f5 2 := ⟨0x0, by decide⟩
end GetStatusResponse

namespace GenerateSessionKeyResponse
abbrev size : Nat := 0x28
abbrev unk0 : Field 0x1f5 2 := ⟨0x0, by decide⟩
abbrev keyId : Field 0x1f5 2 := ⟨0x2, by decide⟩
abbrev unk1 : Field 0x1f5 2 := ⟨0x4, by decide⟩
abbrev unk2 : Field 0x1f5 2 := ⟨0x6, by decide⟩
abbrev cartRandom : Field 0x1f5 0x20 := ⟨0x8, by decide⟩
end GenerateSessionKeyResponse

namespace ExchangeSharedRandomResponse
abbrev size : Nat := 0x20
abbrev sharedRandCart : Field 0x1f5 0x10 := ⟨0x0, by decide⟩
abbrev sharedRandVita : Field 0x1f5 0x10 := ⟨0x10, by decide⟩
theorem blocks_le : 0 + 16 * blocks size ≤ 0x1f5 := by decide
end ExchangeSharedRandomResponse

namespace VerifySecondaryKeyResponse
abbrev size : Nat := 0x40
abbrev whole : Field 0x1f5 0x40 := ⟨0x0, by decide⟩
abbrev challengeBytes : Field 0x1f5 0x10 := ⟨0x8, by decide⟩
abbrev cartRandom : Field 0x1f5 0x20 := ⟨0x18, by decide⟩
theorem blocks_le : 0 + 16 * blocks size ≤ 0x1f5 := by decide
end VerifySecondaryKeyResponse

namespace GetP18KeyAndCmacSignatureResponse
abbrev size : Nat := 0x40
abbrev challengeBytes : Field 0x1f5 0x10 := ⟨0x0, by decide⟩
abbrev p18Key : Field 0x1f5 0x20 := ⟨0x10, by decide⟩
abbrev cmacSignature : Field 0x1f5 0x10 := ⟨0x30, by decide⟩
theorem blocks_le : 0 + 16 * blocks 0x30 ≤ 0x1f5 := by decide
theorem signed_le : 0 + 0x30 ≤ 0x1f5 := by decide
theorem cmacInput_le : 0x10 + 0x30 ≤ 0x50 := by decide
end GetP18KeyAndCmacSignatureResponse

namespace GetP20KeyAndCmacSignatureResponse
abbrev size : Nat := 0x50
abbrev whole : Field 0x1f5 0x50 := ⟨0x0, by decide⟩
abbrev challengeBytes : Field 0x1f5 0x10 := ⟨0x8, by decide⟩
abbrev p20Key : Field 0x1f5 0x20 := ⟨0x18, by decide⟩
abbrev cmacSignature : Field 0x1f5 0x10 := ⟨0x40, by decide⟩
theorem blocks_le : 0 + 16 * blocks 0x40 ≤ 0x1f5 := by decide
theorem signed_le : 0 + 0x40 ≤ 0x1f5 := by decide
theorem cmacInput_le : 0x10 + 0x40 ≤ 0x50 := by decide
end GetP20KeyAndCmacSignatureResponse

/-! ## cmd56.c -/

def cmd56Magic : Bytes 0x20 :=
  #v[0xDD, 0x10, 0x25, 0x44, 0x15, 0x23, 0xFD, 0xC0, 0xF9, 0xE9, 0x15, 0x26, 0xDC, 0x2A, 0xE0, 0x84,
    0xA9, 0x03, 0xA2, 0x97, 0xD4, 0xBB, 0xF8, 0x52, 0xD3, 0xD4, 0x94, 0x2C, 0x89, 0x03, 0xCC, 0x77]

def cmd56RequestStart (cmd : Cmd56Command) (additionalDataSize : UInt8)
    (expectedResponseSize expectedResponseCode : UInt32) : Cmd56Request :=
  { Cmd56Request.zero with
    magic := cmd56Magic
    command := cmd.code
    expectedResponseCode := expectedResponseCode
    expectedResponseSize := expectedResponseSize
    additionalDataSize := additionalDataSize
    requestSize := additionalDataSize.toUInt32 }

def cmd56ResponseStart (request : Cmd56Request) : Cmd56Response :=
  { Cmd56Response.zero with
    responseCode := request.expectedResponseCode
    responseSize := endianSwap
      (if request.expectedResponseSize > cmd56ResponseSize.toUInt32 then cmd56ResponseSize.toUInt16
       else request.expectedResponseSize.toUInt16) }

/-- `memset(response->data, 0xFF, size)`, as far as it falls into the structure. -/
def cmd56ResponseError (response : Cmd56Response) (error : UInt8) : Cmd56Response :=
  let size := (endianSwap response.responseSize).toNat
  { response with
    errorCode := error
    responseCode := error.toUInt32
    data := Vector.ofFn fun i => if i.val < size then 0xFF else response.data.get i }

/-! ## What a response says -/

def announcedKeyId (response : Cmd56Response) : UInt16 :=
  endianSwap (u16OfBytes (GenerateSessionKeyResponse.keyId.get response.data))

def announcedCartRandom (response : Cmd56Response) : Bytes 0x20 :=
  GenerateSessionKeyResponse.cartRandom.get response.data

def reportedStatus (response : Cmd56Response) : UInt16 :=
  u16OfBytes (GetStatusResponse.status.get response.data)

/-! ## Lemmas -/

theorem memcmpLoop_eq_zero (xs ys : List UInt8) (h : xs.length = ys.length) :
    memcmpLoop xs ys = 0 ↔ xs = ys := by
  induction xs generalizing ys with
  | nil => cases ys with
    | nil => simp [memcmpLoop]
    | cons y ys => simp at h
  | cons x xs ih => cases ys with
    | nil => simp at h
    | cons y ys =>
      by_cases hxy : x = y
      · simp [memcmpLoop, hxy, ih ys (by simpa using h)]
      · by_cases hlt : x < y <;> simp [memcmpLoop, hxy, hlt]

/-- `memcmp` returns zero exactly on equal buffers. -/
@[simp] theorem memcmp_eq_zero {n : Nat} (a b : Bytes n) : memcmp a b = 0 ↔ a = b := by
  rw [memcmp, memcmpLoop_eq_zero _ _ (by simp), Vector.toList_inj]

/-- Bit `i` after a byte swap. -/
theorem endianSwap_bit (x : UInt16) (i : Nat) :
    (endianSwap x).toBitVec.getLsbD i =
      (decide (8 ≤ i ∧ i < 16) && x.toBitVec.getLsbD (i - 8) || x.toBitVec.getLsbD (i + 8)) := by
  have h8 : UInt16.toBitVec 8 % 16 = 8#16 := by decide
  have hn : (8#16).toNat = 8 := rfl
  simp only [endianSwap, UInt16.toBitVec_or, UInt16.toBitVec_shiftLeft,
    UInt16.toBitVec_shiftRight, BitVec.getLsbD_or, h8]
  rw [BitVec.shiftLeft_eq', BitVec.ushiftRight_eq', BitVec.getLsbD_shiftLeft,
    BitVec.getLsbD_ushiftRight, hn, Nat.add_comm 8 i]
  congr 2
  by_cases h1 : i < 16
  · by_cases h2 : i < 8
    · simp [h1, h2]
    · simp [h1, h2]
      omega
  · simp [h1]

/-- Swapping twice: bit `i` travels to the other byte and back. -/
@[simp] theorem endianSwap_endianSwap (x : UInt16) : endianSwap (endianSwap x) = x := by
  rw [← UInt16.toBitVec_inj]
  apply BitVec.eq_of_getLsbD_eq
  intro i hi
  have hout : x.toBitVec.getLsbD (i + 8 + 8) = false := BitVec.getLsbD_of_ge _ _ (by omega)
  rw [endianSwap_bit, endianSwap_bit, endianSwap_bit]
  rcases Nat.lt_or_ge i 8 with h | h
  · have h1 : ¬ (8 ≤ i ∧ i < 16) := by omega
    have h2 : 8 ≤ i + 8 ∧ i + 8 < 16 := by omega
    rw [decide_eq_false h1, decide_eq_true h2, hout]
    simp
  · have h1 : 8 ≤ i ∧ i < 16 := by omega
    have h2 : ¬ (8 ≤ i + 8 ∧ i + 8 < 16) := by omega
    have h3 : ¬ (8 ≤ i - 8 ∧ i - 8 < 16) := by omega
    have h4 : i - 8 + 8 = i := by omega
    rw [decide_eq_true h1, decide_eq_false h2, decide_eq_false h3, hout, h4]
    simp

@[simp] theorem u16OfBytes_u16Bytes (x : UInt16) : u16OfBytes (u16Bytes x) = x := by
  have hlt : x.toNat < 256 ^ 2 := x.toNat_lt
  rw [u16OfBytes, u16Bytes, toList_leVec, ofLe_le_of_lt hlt]
  simp

end GcToolKit.Cmd56
