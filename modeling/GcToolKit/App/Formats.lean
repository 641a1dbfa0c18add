import GcToolKit.Lib.ByteFile
import GcToolKit.Kern.AuthEmu

/-!
# The headers of a backup (app/vci.h, app/psv.h)

A header is a packed structure; `toBytes` is its bytes in memory. The PSV header
is written with a placeholder for the hash of the sectors, which is patched at
its offset when the dump is done.
-/

namespace GcToolKit.App

open LittleEndian GcToolKit.Crypto GcToolKit.Cmd56 GcToolKit.Kern

/-! ## Formats -/

inductive BackupFormat where
  | vci
  | vciTrim
  | psv
  | psvTrim
  | raw
deriving DecidableEq

/-- `FMT_IS_PSV` -/
def fmtIsPsv (fmt : BackupFormat) : Bool := fmt == .psv || fmt == .psvTrim

/-- `FMT_IS_VCI` -/
def fmtIsVci (fmt : BackupFormat) : Bool := fmt == .vci || fmt == .vciTrim

/-- `FMT_IS_RAW` -/
def fmtIsRaw (fmt : BackupFormat) : Bool := fmt == .raw

/-- `FMT_IS_TRIM` -/
def fmtIsTrim (fmt : BackupFormat) : Bool := fmt == .psvTrim || fmt == .vciTrim

/-! ## VCI -/

/-- `VCI_MAGIC` -/
def vciMagic : Bytes 4 := #v[0x56, 0x43, 0x49, 0x00]

structure VciHeader where
  magic : Bytes 4
  majorVersion : Nat
  minorVersion : Nat
  deviceSize : Nat
  keys : Cmd56Keys

def VciHeader.toBytes (vci : VciHeader) : List UInt8 :=
  vci.magic.toList ++ le 2 vci.majorVersion ++ le 2 vci.minorVersion ++ le 8 vci.deviceSize ++
    cmd56KeysBytes vci.keys ++ List.replicate 0x1B0 0

/-- The header `create_vci_header` fills in. -/
def vciHeader (deviceSize : Nat) (keys : Cmd56Keys) : VciHeader where
  magic := vciMagic
  majorVersion := 1
  minorVersion := 0
  deviceSize := deviceSize
  keys := keys

/-! ## PSV -/

/-- `PSV_MAGIC` -/
def psvMagic : Bytes 4 := #v[0x50, 0x53, 0x56, 0x00]

structure PsvHeader where
  magic : Bytes 4
  version : Nat
  flags : Nat
  cartSecret : Bytes 0x20
  packet20Sha1 : Bytes 0x14
  allSectorsSha256 : Bytes 0x20
  imageSize : Nat
  imageOffset : Nat

namespace PsvHeader

/-- The members before `all_sectors_sha256`. -/
def front (psv : PsvHeader) : List UInt8 :=
  psv.magic.toList ++ le 4 psv.version ++ le 4 psv.flags ++ psv.cartSecret.toList ++
    psv.packet20Sha1.toList

/-- The members behind it. -/
def back (psv : PsvHeader) : List UInt8 :=
  le 8 psv.imageSize ++ le 8 psv.imageOffset ++ List.replicate 0x190 0

def toBytes (psv : PsvHeader) : List UInt8 :=
  psv.front ++ psv.allSectorsSha256.toList ++ psv.back

/-- `offsetof(PsvHeader, all_sectors_sha256)` -/
def allSectorsSha256Offset : Nat := 0x40

end PsvHeader

/-- The header `create_psv_header` fills in. -/
def psvHeader (cartSecret : Bytes 0x20) (packet20Sha1 : Bytes 0x14) (deviceSize : Nat) :
    PsvHeader where
  magic := psvMagic
  version := 1
  flags := 0
  cartSecret := cartSecret
  packet20Sha1 := packet20Sha1
  allSectorsSha256 := Vector.replicate _ 0xFF
  imageSize := deviceSize
  imageOffset := 0x200 / 0x200

/-! ## Sizes and offsets -/

@[simp] theorem length_cmd56KeysBytes (keys : Cmd56Keys) :
    (cmd56KeysBytes keys).length = 0x40 := by
  unfold cmd56KeysBytes
  rw [List.length_append, Vector.length_toList, Vector.length_toList]

theorem VciHeader.length_toBytes (vci : VciHeader) : vci.toBytes.length = 0x200 := by
  unfold VciHeader.toBytes
  simp only [List.length_append, Vector.length_toList, length_le, length_cmd56KeysBytes,
    List.length_replicate]

/-- The device size can be read at offset 8 of a file that starts with the
header. -/
theorem VciHeader.deviceSize_at (vci : VciHeader) (rest : List UInt8) :
    ((vci.toBytes ++ rest).drop 0x8).take 8 = le 8 vci.deviceSize := by
  have hsplit : vci.toBytes ++ rest =
      (vci.magic.toList ++ le 2 vci.majorVersion ++ le 2 vci.minorVersion) ++
        le 8 vci.deviceSize ++
        (cmd56KeysBytes vci.keys ++ List.replicate 0x1B0 0 ++ rest) := by
    unfold VciHeader.toBytes
    simp only [List.append_assoc]
  rw [hsplit]
  exact ByteFile.take_drop_middle _ _ _ (by simp) (by simp)

/-- The keys can be read at offset 0x10. -/
theorem VciHeader.keys_at (vci : VciHeader) (rest : List UInt8) :
    ((vci.toBytes ++ rest).drop 0x10).take 0x40 = cmd56KeysBytes vci.keys := by
  have hsplit : vci.toBytes ++ rest =
      (vci.magic.toList ++ le 2 vci.majorVersion ++ le 2 vci.minorVersion ++
        le 8 vci.deviceSize) ++ cmd56KeysBytes vci.keys ++
        (List.replicate 0x1B0 0 ++ rest) := by
    unfold VciHeader.toBytes
    simp only [List.append_assoc]
  rw [hsplit]
  exact ByteFile.take_drop_middle _ _ _ (by simp) (by simp)

namespace PsvHeader

theorem length_front (psv : PsvHeader) : psv.front.length = allSectorsSha256Offset := by
  unfold front
  simp only [List.length_append, Vector.length_toList, length_le]
  rfl

theorem length_toBytes (psv : PsvHeader) : psv.toBytes.length = 0x200 := by
  unfold toBytes back
  simp only [List.length_append, length_front, Vector.length_toList, length_le,
    List.length_replicate]
  rfl

/-- The patch replaces the hash and nothing else. -/
theorem writeAt_toBytes (psv : PsvHeader) (hash : Bytes 0x20) (rest : List UInt8) :
    ByteFile.writeAt (psv.toBytes ++ rest) allSectorsSha256Offset hash.toList =
      { psv with allSectorsSha256 := hash }.toBytes ++ rest := by
  have hlen : psv.allSectorsSha256.toList.length = hash.toList.length := by
    rw [Vector.length_toList, Vector.length_toList]
  unfold toBytes
  rw [List.append_assoc _ psv.back rest, ← psv.length_front,
    ByteFile.writeAt_middle _ _ _ _ hlen, ← List.append_assoc]
  rfl

end PsvHeader

end GcToolKit.App
