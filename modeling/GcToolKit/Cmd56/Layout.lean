import GcToolKit.Cmd56.Gc

/-!
# Packets as bytes

A request and a response are the same 512 bytes under two structures. `ofBytes`
reads the members of one, `toBytes` puts those of a response in their places;
nothing is lost on the way.
-/

namespace GcToolKit.Cmd56

open ByteBuf LittleEndian GcToolKit.Crypto

/-! ## Members -/

namespace RequestLayout
abbrev magic : Field 0x200 0x20 := ⟨0x0, by decide⟩
abbrev expectedResponseCode : Field 0x200 4 := ⟨0x20, by decide⟩
abbrev requestSize : Field 0x200 4 := ⟨0x24, by decide⟩
abbrev expectedResponseSize : Field 0x200 4 := ⟨0x28, by decide⟩
abbrev command : Field 0x200 1 := ⟨0x2C, by decide⟩
abbrev unknownHostValue : Field 0x200 1 := ⟨0x2D, by decide⟩
abbrev additionalDataSize : Field 0x200 1 := ⟨0x2E, by decide⟩
abbrev data : Field 0x200 0x1d1 := ⟨0x2F, by decide⟩
end RequestLayout

namespace ResponseLayout
abbrev responseCode : Field 0x200 4 := ⟨0x0, by decide⟩
abbrev additionalDataSize : Field 0x200 4 := ⟨0x4, by decide⟩
abbrev responseSize : Field 0x200 2 := ⟨0x8, by decide⟩
abbrev errorCode : Field 0x200 1 := ⟨0xA, by decide⟩
abbrev data : Field 0x200 0x1f5 := ⟨0xB, by decide⟩
end ResponseLayout

def u32OfBytes (b : Bytes 4) : UInt32 := UInt32.ofNat (ofLe b.toList)

def Cmd56Request.ofBytes (b : Bytes 0x200) : Cmd56Request where
  magic := RequestLayout.magic.get b
  expectedResponseCode := u32OfBytes (RequestLayout.expectedResponseCode.get b)
  requestSize := u32OfBytes (RequestLayout.requestSize.get b)
  expectedResponseSize := u32OfBytes (RequestLayout.expectedResponseSize.get b)
  command := first (RequestLayout.command.get b)
  unknownHostValue := first (RequestLayout.unknownHostValue.get b)
  additionalDataSize := first (RequestLayout.additionalDataSize.get b)
  data := RequestLayout.data.get b

namespace Cmd56Response

def ofBytes (b : Bytes 0x200) : Cmd56Response where
  responseCode := u32OfBytes (ResponseLayout.responseCode.get b)
  additionalDataSize := u32OfBytes (ResponseLayout.additionalDataSize.get b)
  responseSize := u16OfBytes (ResponseLayout.responseSize.get b)
  errorCode := first (ResponseLayout.errorCode.get b)
  data := ResponseLayout.data.get b

def toBytes (r : Cmd56Response) : Bytes 0x200 :=
  let b : Bytes 0x200 := Vector.replicate 0x200 0
  let b := ResponseLayout.responseCode.put b (u32Bytes r.responseCode)
  let b := ResponseLayout.additionalDataSize.put b (u32Bytes r.additionalDataSize)
  let b := ResponseLayout.responseSize.put b (u16Bytes r.responseSize)
  let b := ResponseLayout.errorCode.put b #v[r.errorCode]
  ResponseLayout.data.put b r.data

end Cmd56Response

/-! ## There and back -/

theorem data_toBytes (r : Cmd56Response) : ResponseLayout.data.get r.toBytes = r.data :=
  Field.get_put_same _ _ _

/-- A member behind the header goes into its place. -/
theorem toBytes_withData (r : Cmd56Response) (data : Bytes 0x1f5) :
    ({ r with data := data } : Cmd56Response).toBytes =
      ResponseLayout.data.put r.toBytes data := by
  unfold Cmd56Response.toBytes
  dsimp only
  exact (splice_splice_same _ _ _ _ _).symm

theorem toBytes_withErrorCode (r : Cmd56Response) (errorCode : UInt8) :
    ({ r with errorCode := errorCode } : Cmd56Response).toBytes =
      ResponseLayout.errorCode.put r.toBytes #v[errorCode] := by
  unfold Cmd56Response.toBytes Field.put
  dsimp only
  rw [splice_comm _ 0xB r.data _ 0xA _ _ (by decide), splice_splice_same]

theorem toBytes_withResponseCode (r : Cmd56Response) (responseCode : UInt32) :
    ({ r with responseCode := responseCode } : Cmd56Response).toBytes =
      ResponseLayout.responseCode.put r.toBytes (u32Bytes responseCode) := by
  unfold Cmd56Response.toBytes Field.put
  dsimp only
  -- the new code goes down to the old one, past what is written behind it
  rw [splice_comm _ 0xB r.data _ 0x0 _ _ (by decide), splice_comm _ 0xA _ _ 0x0 _ _ (by decide),
    splice_comm _ 0x8 _ _ 0x0 _ _ (by decide), splice_comm _ 0x4 _ _ 0x0 _ _ (by decide),
    splice_splice_same]

theorem data_le {len : Nat} (f : Field 0x1f5 len) : 0xB + f.off + len ≤ 0x200 := by
  have hbound := f.bound
  omega

/-- A write into the data is a write into the buffer. -/
theorem toBytes_putData {len : Nat} (r : Cmd56Response) (f : Field 0x1f5 len) (v : Bytes len) :
    ({ r with data := f.put r.data v } : Cmd56Response).toBytes =
      splice r.toBytes (0xB + f.off) v (data_le f) := by
  have hself : ResponseLayout.data.put r.toBytes r.data = r.toBytes :=
    (congrArg _ (data_toBytes r).symm).trans (Field.put_get_self _ _)
  rw [toBytes_withData]
  unfold Field.put at hself ⊢
  rw [splice_splice_inside, hself]

end GcToolKit.Cmd56
