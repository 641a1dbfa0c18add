import GcToolKit.Lib.ByteBuf
import GcToolKit.Lib.CString
import GcToolKit.Lib.LittleEndian

/-!
# The transfer packets (inc/Packet.h, app/net.c)

Every connection starts with one packet of 0x210 bytes: either the name and the
size of the file that follows, or a patch for a file already sent.
-/

namespace GcToolKit.Net

open ByteBuf LittleEndian

def packetSize : Nat := 0x210

abbrev Packet := Vector UInt8 packetSize

def sendFileMagic : Nat := 38717
def patchFileMagic : Nat := 63215

/-! ## Layout -/

def magicField : Field packetSize 2 := ⟨0, by decide⟩

namespace SendFile

def filename : Field packetSize 0x206 := ⟨0x2, by decide⟩
def totalSize : Field packetSize 8 := ⟨0x208, by decide⟩

end SendFile

namespace PatchFile

def offset : Field packetSize 8 := ⟨0x2, by decide⟩
def patchSize : Field packetSize 4 := ⟨0xA, by decide⟩
def patchData : Field packetSize 0x1B2 := ⟨0xE, by decide⟩
def filename : Field packetSize 0x50 := ⟨0x1C0, by decide⟩

end PatchFile

/-- An integer member. -/
def getLe {len : Nat} (f : Field packetSize len) (packet : Packet) : Nat :=
  ofLe (f.get packet).toList

def putLe {len : Nat} (f : Field packetSize len) (packet : Packet) (x : Nat) : Packet :=
  f.put packet (leVec len x)

theorem getLe_putLe {len : Nat} (f : Field packetSize len) (packet : Packet) {x : Nat}
    (hx : x < 256 ^ len) : getLe f (putLe f packet x) = x := by
  unfold getLe putLe
  rw [Field.get_put_same, toList_leVec, ofLe_le_of_lt hx]

theorem getLe_putLe_apart {len len' : Nat} (f : Field packetSize len)
    (g : Field packetSize len') (packet : Packet) (x : Nat) (h : f.Apart g) :
    getLe f (putLe g packet x) = getLe f packet := by
  unfold getLe putLe
  rw [Field.get_put_apart _ _ _ _ h]

theorem getLe_put_apart {len len' : Nat} (f : Field packetSize len)
    (g : Field packetSize len') (packet : Packet) (v : Vector UInt8 len') (h : f.Apart g) :
    getLe f (g.put packet v) = getLe f packet := by
  unfold getLe
  rw [Field.get_put_apart _ _ _ _ h]

/-! ## The sender -/

/-- The packet `begin_file_send` sends. -/
def sendFilePacket (filename : CString) (fileSize : Nat) : Packet :=
  let packet : Packet := Vector.replicate _ 0
  let packet := putLe magicField packet sendFileMagic
  let packet := SendFile.filename.put packet
    (filename.strncpy (SendFile.filename.get packet) (0x206 - 1))
  putLe SendFile.totalSize packet fileSize

/-- The packet `send_file_patch` sends; `size` bytes of `data` are read. -/
def patchFilePacket (filename : CString) (offset : UInt32) (data : List UInt8) : Packet :=
  let size := if data.length > 0x1B2 then 0x1B2 else data.length
  let packet : Packet := Vector.replicate _ 0
  let packet := putLe magicField packet patchFileMagic
  let packet := putLe PatchFile.offset packet offset.toNat
  let packet := putLe PatchFile.patchSize packet size
  let packet := PatchFile.patchData.put packet (Vector.ofFn fun i => data.getD i 0)
  PatchFile.filename.put packet (filename.strncpy (PatchFile.filename.get packet) (0x50 - 1))

/-! ## What the receiver reads in a send packet -/

variable (filename : CString) (fileSize : Nat)

theorem sendFilePacket_magic :
    getLe magicField (sendFilePacket filename fileSize) = sendFileMagic := by
  unfold sendFilePacket
  dsimp only
  rw [getLe_putLe_apart _ _ _ _ (by decide), getLe_put_apart _ _ _ _ (by decide),
    getLe_putLe _ _ (by decide)]

theorem sendFilePacket_totalSize (hsize : fileSize < 2 ^ 64) :
    getLe SendFile.totalSize (sendFilePacket filename fileSize) = fileSize := by
  unfold sendFilePacket
  exact getLe_putLe _ _ hsize

/-- The name is zero from where the string ends, and its last byte is never
written. -/
theorem sendFilePacket_filename :
    SendFile.filename.get (sendFilePacket filename fileSize) =
      filename.strncpy (Vector.replicate 0x206 0) (0x206 - 1) := by
  have hzeros : SendFile.filename.get
      (putLe magicField (Vector.replicate packetSize 0) sendFileMagic) =
        Vector.replicate 0x206 0 := by
    unfold putLe
    rw [Field.get_put_apart _ _ _ _ (by decide)]
    ext i hi
    simp [Field.get]
  unfold sendFilePacket
  dsimp only
  unfold putLe at hzeros ⊢
  rw [Field.get_put_apart _ _ _ _ (by decide), Field.get_put_same, hzeros]

/-! ## What the receiver reads in a patch packet -/

section Patch

variable (offset : UInt32) (data : List UInt8)

theorem patchFilePacket_magic :
    getLe magicField (patchFilePacket filename offset data) = patchFileMagic := by
  unfold patchFilePacket
  dsimp only
  rw [getLe_put_apart _ _ _ _ (by decide), getLe_put_apart _ _ _ _ (by decide),
    getLe_putLe_apart _ _ _ _ (by decide), getLe_putLe_apart _ _ _ _ (by decide),
    getLe_putLe _ _ (by decide)]

theorem patchFilePacket_offset :
    getLe PatchFile.offset (patchFilePacket filename offset data) = offset.toNat := by
  have hlt : offset.toNat < 256 ^ 8 := Nat.lt_trans offset.toNat_lt (by decide)
  unfold patchFilePacket
  dsimp only
  rw [getLe_put_apart _ _ _ _ (by decide), getLe_put_apart _ _ _ _ (by decide),
    getLe_putLe_apart _ _ _ _ (by decide), getLe_putLe _ _ hlt]

theorem patchFilePacket_patchSize (hsize : data.length ≤ 0x1B2) :
    getLe PatchFile.patchSize (patchFilePacket filename offset data) = data.length := by
  have hlt : data.length < 256 ^ 4 := Nat.lt_of_le_of_lt hsize (by decide)
  unfold patchFilePacket
  dsimp only
  rw [if_neg (Nat.not_lt.mpr hsize), getLe_put_apart _ _ _ _ (by decide),
    getLe_put_apart _ _ _ _ (by decide), getLe_putLe _ _ hlt]

/-- The data is in front of the name. -/
theorem patchFilePacket_patchData :
    PatchFile.patchData.get (patchFilePacket filename offset data) =
      Vector.ofFn fun i => data.getD i 0 := by
  unfold patchFilePacket
  dsimp only
  rw [Field.get_put_apart _ _ _ _ (by decide), Field.get_put_same]

theorem patchFilePacket_filename :
    PatchFile.filename.get (patchFilePacket filename offset data) =
      filename.strncpy (Vector.replicate 0x50 0) (0x50 - 1) := by
  have hzeros : PatchFile.filename.get (Vector.replicate packetSize 0 : Packet) =
      Vector.replicate 0x50 0 := by
    ext i hi
    simp [Field.get]
  unfold patchFilePacket
  dsimp only
  rw [Field.get_put_same]
  unfold putLe
  rw [Field.get_put_apart _ _ _ _ (by decide), Field.get_put_apart _ _ _ _ (by decide),
    Field.get_put_apart _ _ _ _ (by decide), Field.get_put_apart _ _ _ _ (by decide), hzeros]

end Patch

end GcToolKit.Net
