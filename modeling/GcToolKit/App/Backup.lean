import GcToolKit.App.Dump
import GcToolKit.Crypto.Sha256

/-!
# Backups

What a finished backup is, for every outcome of the calls on the way, and that
the two formats with a header agree: a VCI backup holds everything a PSV backup
of the same cart does.
-/

namespace GcToolKit.App

open LittleEndian GcToolKit.Crypto GcToolKit.Cmd56 GcToolKit.Kern

variable {κ : Type} (digests : KernelDigests) (sha : StreamHash κ (Bytes 0x20))

/-! ## One to one -/

/-- A physical dump in a format that is not trimmed ends, and if it reports no
error the file is the header and the device, byte for byte. -/
theorem backup_exact {device : CString} (path : CString) {format : BackupFormat} {dev : BlockDevice}
    {w : World} (hfull : fmtIsTrim format = false) (hdev : w.devices device = some dev) :
    (∃ fuel out, doDeviceDump digests sha fuel device path format none w = some out) ∧
      ∀ fuel out, doDeviceDump digests sha fuel device path format none w = some out →
        0 ≤ out.1 → out.2.files path =
          some (backupHeader digests sha w.kernel dev.content (kGetPerCartKeys w.kernel) format ++
            dev.content) := by
  constructor
  · obtain ⟨out, hout⟩ := (doDeviceDump_exact digests sha path (dev.content.length + 1) hfull
      hdev).1 (Nat.lt_succ_self _)
    exact ⟨_, out, hout⟩
  · intro fuel
    exact (doDeviceDump_exact digests sha path fuel hfull hdev).2

/-- "gcd" -/
def gcdName : CString := CString.ofBytes [0x67, 0x63, 0x64]

/-- "a.img" -/
def imageName : CString := CString.ofBytes [0x61, 0x2E, 0x69, 0x6D, 0x67]

def twoByteDevice : BlockDevice := ⟨[0x13, 0x37], by decide⟩

/-- Every call succeeds and takes all it is given. -/
def willingWorld : World where
  kernel := AuthEmu.init
  devices device := if device = gcdName then some twoByteDevice else none
  deviceFds _ := none
  files _ := none
  fileFds _ := none
  network := []
  outcomes _ := 0x20000
  tick := 0

/-- The SHA-1 of 0x20 zero bytes. -/
def sha1OfZeros (_message : List UInt8) : Bytes 0x14 :=
  #v[0xde, 0x8a, 0x84, 0x7b, 0xff, 0x8c, 0x34, 0x3d, 0x69, 0xb8, 0x53, 0xa2, 0x15, 0xe6, 0xee,
    0x77, 0x5e, 0xf2, 0xef, 0x96]

theorem willingWorld_device : willingWorld.devices gcdName = some twoByteDevice := by
  unfold willingWorld
  dsimp only
  rw [if_pos rfl]

set_option maxRecDepth 4096 in
theorem willingWorld_dumps (format : BackupFormat) :
    ∃ out, doDeviceDump ⟨sha1OfZeros, sha256.digest⟩ sha256 3 gcdName imageName format none
      willingWorld = some out ∧ 0 ≤ out.1 := by
  have hres : (doDeviceDump ⟨sha1OfZeros, sha256.digest⟩ sha256 3 gcdName imageName format none
      willingWorld).map (·.1) = some 0 := by
    cases format <;> decide +kernel
  rcases Option.map_eq_some_iff.mp hres with ⟨out, hout, hzero⟩
  exact ⟨out, hout, Int.le_of_eq hzero.symm⟩

theorem backup_exact_twoBytes :
    ∃ out, doDeviceDump ⟨sha1OfZeros, sha256.digest⟩ sha256 3 gcdName imageName .psv none
        willingWorld = some out ∧
      out.2.files imageName =
        some (backupHeader ⟨sha1OfZeros, sha256.digest⟩ sha256 willingWorld.kernel
          twoByteDevice.content (kGetPerCartKeys willingWorld.kernel) .psv ++
            twoByteDevice.content) := by
  rcases willingWorld_dumps .psv with ⟨out, hout, hres⟩
  have hexact := backup_exact ⟨sha1OfZeros, sha256.digest⟩ sha256 imageName
    (show fmtIsTrim .psv = false from rfl) willingWorld_device
  exact ⟨out, hout, hexact.2 3 out hout hres⟩

/-! ## From VCI to PSV -/

/-- The PSV file that has the keys, the size and the sectors of a VCI file. -/
def vciToPsv (sha1 : List UInt8 → Bytes 0x14) (sha256 : List UInt8 → Bytes 0x20)
    (vci : List UInt8) : List UInt8 :=
  let keys := (vci.drop 0x10).take 0x40
  let sectors := vci.drop 0x200
  let psv : PsvHeader :=
    { magic := psvMagic
      version := 1
      flags := 0
      cartSecret := sha256 keys
      packet20Sha1 := sha1 (keys.take 0x20)
      allSectorsSha256 := sha256 sectors
      imageSize := ofLe ((vci.drop 0x8).take 8)
      imageOffset := 1 }
  psv.toBytes ++ sectors

/-- The conversion of a whole VCI backup is the PSV backup. -/
theorem vciToPsv_backup (sha1 : List UInt8 → Bytes 0x14) (x : AuthEmu) (dev : BlockDevice) :
    vciToPsv sha1 sha.digest
        (backupHeader ⟨sha1, sha.digest⟩ sha x dev.content (kGetPerCartKeys x) .vci ++
          dev.content) =
      backupHeader ⟨sha1, sha.digest⟩ sha x dev.content (kGetPerCartKeys x) .psv ++
        dev.content := by
  have hlen := VciHeader.length_toBytes (vciHeader dev.content.length (kGetPerCartKeys x))
  have hkeys := VciHeader.keys_at (vciHeader dev.content.length (kGetPerCartKeys x)) dev.content
  have hsize :=
    VciHeader.deviceSize_at (vciHeader dev.content.length (kGetPerCartKeys x)) dev.content
  have hfits : dev.content.length < 256 ^ 8 := Nat.lt_trans dev.size_lt (by decide)
  have hpacket20 : (cmd56KeysBytes (kGetPerCartKeys x)).take 0x20 =
      (kGetPerCartKeys x).packet20Key.toList :=
    List.take_left' Vector.length_toList
  unfold vciToPsv backupHeader
  dsimp only
  rw [hkeys, hsize, List.drop_left' hlen]
  unfold vciHeader
  dsimp only
  rw [hpacket20, ofLe_le_of_lt hfits]
  rfl

/-- Converting the file of a VCI dump gives the file of a PSV dump of the same
cart, with the kernel's keys the same in both. -/
theorem psv_of_vci (sha1 : List UInt8 → Bytes 0x14) {device path₁ path₂ : CString}
    {dev : BlockDevice} {w₁ w₂ : World} (hkernel : w₂.kernel = w₁.kernel)
    (hdev₁ : w₁.devices device = some dev) (hdev₂ : w₂.devices device = some dev)
    {fuel₁ fuel₂ : Nat} {out₁ out₂ : Int × World}
    (hvci : doDeviceDump ⟨sha1, sha.digest⟩ sha fuel₁ device path₁ .vci none w₁ = some out₁)
    (hpsv : doDeviceDump ⟨sha1, sha.digest⟩ sha fuel₂ device path₂ .psv none w₂ = some out₂)
    (hres₁ : 0 ≤ out₁.1) (hres₂ : 0 ≤ out₂.1) :
    ∃ vci psv, out₁.2.files path₁ = some vci ∧ out₂.2.files path₂ = some psv ∧
      vciToPsv sha1 sha.digest vci = psv := by
  have hfile₁ := (doDeviceDump_exact ⟨sha1, sha.digest⟩ sha path₁ fuel₁ rfl hdev₁).2 out₁ hvci
    hres₁
  have hfile₂ := (doDeviceDump_exact ⟨sha1, sha.digest⟩ sha path₂ fuel₂ rfl hdev₂).2 out₂ hpsv
    hres₂
  rw [hkernel] at hfile₂
  exact ⟨_, _, hfile₁, hfile₂, vciToPsv_backup sha sha1 w₁.kernel dev⟩

theorem psv_of_vci_twoBytes :
    ∃ out₁ out₂ : Int × World, ∃ vci psv,
      doDeviceDump ⟨sha1OfZeros, sha256.digest⟩ sha256 3 gcdName imageName .vci none
        willingWorld = some out₁ ∧
      doDeviceDump ⟨sha1OfZeros, sha256.digest⟩ sha256 3 gcdName imageName .psv none
        willingWorld = some out₂ ∧
      out₁.2.files imageName = some vci ∧ out₂.2.files imageName = some psv ∧
      vciToPsv sha1OfZeros sha256.digest vci = psv := by
  rcases willingWorld_dumps .vci with ⟨out₁, hout₁, hres₁⟩
  rcases willingWorld_dumps .psv with ⟨out₂, hout₂, hres₂⟩
  obtain ⟨vci, psv, hvci, hpsv, heq⟩ := psv_of_vci sha256 sha1OfZeros
    rfl willingWorld_device willingWorld_device hout₁ hout₂ hres₁ hres₂
  exact ⟨out₁, out₂, vci, psv, hout₁, hout₂, hvci, hpsv, heq⟩

end GcToolKit.App
