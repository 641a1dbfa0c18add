import GcToolKit.App.Backup
import GcToolKit.App.Restore

/-!
# A backup that is restored (app/device.c)

A raw image is the device and nothing else, so `restore_device` can give the device back.
An image with a header is larger than the device it was taken from, and is turned away.

* `Asked.willing`, `sizesAnswered_of_willing` — where every call does all it can;
* `feedInv_start` — the loop as `restore_device` enters it;
* `restoreDevice_padded` — what it leaves of an image that fits;
* `restoreDevice_too_large` — and of one that does not;
* `restore_backup` — the way there and back.
-/

namespace GcToolKit.App

open GcToolKit.Crypto GcToolKit.Cmd56
open GcToolKit.Kern (KernelDigests oRdonly oWronly kGetPerCartKeys)

variable {κ : Type} (digests : KernelDigests) (sha : StreamHash κ (Bytes 0x20))

/-! ## Where no call fails -/

section Willing

variable {w w' : World}

theorem Willing.pos (h : Willing w) {i : Nat} (hi : w.tick ≤ i) : 0 < w.outcomes i := by
  have hr := h i hi
  have hsize : (0 : Int) < bufferSize := by decide
  omega

theorem Asked.willing {n : Nat} (h : Asked n w w') (hwilling : Willing w) : Willing w' := by
  intro i hi
  rw [h.outcomes]
  rw [h.tick] at hi
  exact hwilling i (by omega)

theorem answered_of_willing (h : Willing w) {t : Nat} (ht : w.tick ≤ t) : Answered w t :=
  ⟨h.pos ht, Int.le_of_lt (h.pos (by omega))⟩

theorem sizesAnswered_of_willing (h : Willing w) (dev : BlockDevice) :
    SizesAnswered dev w w.tick := by
  refine ⟨answered_of_willing h (Nat.le_refl _),
    ⟨answered_of_willing h (by omega), fun _ => answered_of_willing h (by omega)⟩,
    answered_of_willing h (by omega)⟩

end Willing

/-! ## The loop of restore_device -/

/-- At its first pass nothing has been copied. -/
theorem feedInv_start {state : BackupState κ} {device : CString} {dev : BlockDevice}
    {expected : List UInt8} {ready : Nat → World → Prop} {w : World} (hwilling : Willing w)
    (hdev : w.devices device = some dev) (hwrite : w.device? state.wrFd = some (device, 0))
    (htotal : state.total = 0) (hlen : expected.length = dev.content.length)
    (hready : ready 0 w) : FeedInv state device expected ready (state, w) := by
  constructor
  · constructor
    · rfl
    · dsimp only
      rw [hwrite, htotal]
    · exact ⟨dev, hdev, hlen.symm⟩
    · dsimp only
      omega
  · rfl
  · exact hwilling
  · intro _
    dsimp only
    rw [htotal]
    exact hready
  · intro dev' _
    dsimp only
    rw [htotal, List.take_zero, List.take_zero]

theorem restoreExit_devices (res : Int) (opened : List Opening)
    (looped : Option (BackupState κ × World)) (state : BackupState κ) (w : World) :
    (restoreExit res opened looped state w).ret = res ∧
      (restoreExit res opened looped state w).world.devices = w.devices := by
  unfold restoreExit
  refine ⟨rfl, ?_⟩
  dsimp only
  split <;> split <;> rfl

section Restore

variable {device input : CString} {dev : BlockDevice} {image : List UInt8} {w : World}

theorem restoreImage_padded {state : BackupState κ} (hwilling : Willing w)
    (himage : w.files input = some image) (hdev : w.devices device = some dev)
    (htotal : state.total = 0)
    (htoRead : subU64 state.effectiveSize state.headerSize = dev.content.length)
    (hpos : 0 < dev.content.length) (hfits : image.length ≤ dev.content.length) {fuel : Nat}
    (hfuel : dev.content.length < fuel) :
    ∃ h, restoreImage sha fuel device input state w = some h ∧ h.ret = 0 ∧
      (h.world.devices device).map (·.content) = some (padded image dev.content.length) := by
  have hsize := dev.size_lt
  have hopens : ¬ w.outcomes w.tick < 0 := hwilling.outcome.1
  have hfound : w.files input ≠ none := by
    rw [himage]
    exact Option.some_ne_none image
  have htrunc : ¬ oRdonly &&& GcToolKit.Kern.oTrunc ≠ 0 := by decide
  -- the image is opened first, the device after it
  rcases sceIoOpen_succeeds input oRdonly hopens (fun _ => hfound) with ⟨w₁, hopenImage, hopened⟩
  have hwilling₁ := hwilling.next hopened.outcomes hopened.tick
  have hdev₁ : w₁.devices device = some dev := by
    rw [hopened.same.devices]
    exact hdev
  have himage₁ : w₁.files input = some image := by
    rw [hopened.files, Function.update_self, if_neg htrunc, himage]
    rfl
  have hopens₁ : ¬ w₁.outcomes w₁.tick < 0 := hwilling₁.outcome.1
  rcases kOpenDevice_opens (oWronly ||| oWrlock) hdev₁ (not_lt.mp hopens₁) with
    ⟨w₂, hopen, hfd, hasked⟩
  have hwilling₂ := hasked.willing hwilling₁
  have hready : ImageAt { state with rdFd := w.outcomes w.tick, wrFd := w₁.outcomes w₁.tick }
      input image 0 w₂ := by
    refine ⟨?_, ?_⟩
    · rw [hasked.same.files]
      exact himage₁
    · rw [hasked.same.file?, Nat.zero_min]
      exact hopened.position
  have hlen := length_padded hfits
  -- from there the loop is fed the image and then zeros
  have hinv : FeedInv { state with rdFd := w.outcomes w.tick, wrFd := w₁.outcomes w₁.tick } device
      (padded image dev.content.length) _ (_, w₂) :=
    feedInv_start hwilling₂ (hasked.device hdev₁) hfd htotal hlen hready
  have hall := htoRead.trans hlen.symm
  have hmore : state.total < (padded image dev.content.length).length := by omega
  have hpasses : (padded image dev.content.length).length < fuel := by omega
  have hcopied : ∃ state' w', deviceAccessLoop sha readDataFromImage kWriteDevice fuel
      { state with rdFd := w.outcomes w.tick, wrFd := w₁.outcomes w₁.tick } w₂ =
        some (0, state', w') ∧
      (w'.devices device).map (·.content) = some (padded image dev.content.length) :=
    deviceAccessLoop_copiesSource (readDataFromImage_feeds _ input hfits)
      readDataFromImage_leavesDevices (by omega) hinv hall hmore hpasses
  rcases hcopied with ⟨state', w', hloop, hcontent⟩
  unfold restoreImage
  rw [hopenImage]
  dsimp only
  rw [if_neg hopens, hopen]
  dsimp only
  rw [if_neg hopens₁, hloop]
  refine ⟨_, rfl, rfl, ?_⟩
  rw [(restoreExit_devices ..).2]
  exact hcontent

/-- The checks and the sizes are passed, and the size of the image is known. -/
theorem restoreDevice_begun (hwilling : Willing w) (hcard : deviceWhitelistCheck device = false)
    (himage : w.files input = some image) (hdev : w.devices device = some dev) (fuel : Nat) :
    ∃ state w₁, restoreDevice sha fuel device input w =
        (if dev.content.length < image.length then some (restoreExit sizeNoSpace [] none state w₁)
          else restoreImage sha fuel device input state w₁) ∧
      state.total = 0 ∧ subU64 state.effectiveSize state.headerSize = dev.content.length ∧
      SameFiles w w₁ ∧ Willing w₁ := by
  rcases isModuleStarted_started (hwilling.pos (Nat.le_refl _)) with ⟨w₁, hstarted, hasked₁⟩
  have hwilling₁ := hasked₁.willing hwilling
  have hdev₁ := hasked₁.device hdev
  rcases setupState_answered sha input hdev₁ (sizesAnswered_of_willing hwilling₁ dev) with
    ⟨res, state, w₂, hsetup, hres, htotal, heffective, hheader, hasked₂⟩
  have hwilling₂ := hasked₂.willing hwilling₁
  have hsame₂ := hasked₁.same.trans hasked₂.same
  rcases getFileSize_fits input w₂ dev.content.length with ⟨hasked₃, hfits⟩
  rw [hsame₂.files] at hfits
  -- the size may be off, but not so that the comparison goes the other way
  have hlarge : state.effectiveSize < (getFileSize input w₂).1 ↔
      dev.content.length < image.length := by
    have hknown : (getFileSize input w₂).1 ≤ dev.content.length ↔
        image.length ≤ dev.content.length := by
      rw [hfits]
      constructor
      · intro h
        exact (h image himage).resolve_left hwilling₂.outcome.1
      · intro h image' himage'
        rw [himage] at himage'
        cases himage'
        exact Or.inr h
    rw [heffective]
    exact lt_iff_lt_of_le_iff_le hknown
  refine ⟨state, (getFileSize input w₂).2, ?_, htotal, ?_, hsame₂.trans hasked₃.same,
    hasked₃.willing hwilling₂⟩
  · unfold restoreDevice checked
    rw [hstarted]
    dsimp only
    rw [if_neg (not_not.mpr rfl), hcard, if_neg (by decide), hsetup]
    dsimp only
    rw [if_neg (not_lt.mpr hres)]
    simp only [hlarge]
  · rw [heffective, hheader]
    exact subU64_zero dev.size_lt

/-- An image that fits is on the device afterwards, with zeros behind it. -/
theorem restoreDevice_padded (hwilling : Willing w) (hcard : deviceWhitelistCheck device = false)
    (himage : w.files input = some image) (hdev : w.devices device = some dev)
    (hpos : 0 < dev.content.length) (hfits : image.length ≤ dev.content.length) {fuel : Nat}
    (hfuel : dev.content.length < fuel) :
    ∃ h, restoreDevice sha fuel device input w = some h ∧ h.ret = 0 ∧
      (h.world.devices device).map (·.content) = some (padded image dev.content.length) := by
  rcases restoreDevice_begun sha hwilling hcard himage hdev fuel with
    ⟨state, w₁, hrestore, htotal, htoRead, hsame, hwilling₁⟩
  rw [if_neg (not_lt.mpr hfits)] at hrestore
  rw [hrestore]
  refine restoreImage_padded sha hwilling₁ ?_ ?_ htotal htoRead hpos hfits hfuel
  · rw [hsame.files]
    exact himage
  · rw [hsame.devices]
    exact hdev

/-- One that does not is turned away with the devices as they were. -/
theorem restoreDevice_too_large (hwilling : Willing w)
    (hcard : deviceWhitelistCheck device = false) (himage : w.files input = some image)
    (hdev : w.devices device = some dev) (hlarge : dev.content.length < image.length)
    (fuel : Nat) : ∃ h, restoreDevice sha fuel device input w = some h ∧ h.ret = sizeNoSpace ∧
      h.world.devices = w.devices := by
  rcases restoreDevice_begun sha hwilling hcard himage hdev fuel with
    ⟨state, w₁, hrestore, -, -, hsame, -⟩
  rw [if_pos hlarge] at hrestore
  refine ⟨_, hrestore, rfl, ?_⟩
  rw [(restoreExit_devices ..).2, hsame.devices]

end Restore

/-! ## There and back -/

theorem length_backupHeader (x : GcToolKit.Kern.AuthEmu) (content : List UInt8) (keys : Cmd56Keys)
    {format : BackupFormat} (h : fmtIsRaw format = false) :
    (backupHeader digests sha x content keys format).length = 0x200 := by
  cases format with
  | vci | vciTrim => exact VciHeader.length_toBytes _
  | psv | psvTrim => exact PsvHeader.length_toBytes _
  | raw => cases h

/-- A backup that was reported as a success, restored in some later state of the world where
the file is still there: a raw image gives a device of its size its content back, and on a
larger one zeros follow; an image with a header is refused on a device of the size of the
one it was taken from, which keeps its content. -/
theorem restore_backup {device target path : CString} {format : BackupFormat}
    {dev dev' : BlockDevice} {w v : World} {out : Int × World} {fuel fuel' : Nat}
    (hfull : fmtIsTrim format = false) (hdev : w.devices device = some dev)
    (hdump : doDeviceDump digests sha fuel device path format none w = some out)
    (hout : 0 ≤ out.1) (hkept : v.files path = out.2.files path) (hwilling : Willing v)
    (hcard : deviceWhitelistCheck target = false) (htarget : v.devices target = some dev')
    (hsize : dev.content.length ≤ dev'.content.length) (hpos : 0 < dev'.content.length)
    (hfuel : dev'.content.length < fuel') :
    (fmtIsRaw format = true → ∃ h, restoreDevice sha fuel' target path v = some h ∧ h.ret = 0 ∧
      (h.world.devices target).map (·.content) =
        some (dev.content ++ List.replicate (dev'.content.length - dev.content.length) 0)) ∧
      (fmtIsRaw format = false → dev'.content.length = dev.content.length →
        ∃ h, restoreDevice sha fuel' target path v = some h ∧ h.ret = sizeNoSpace ∧
          h.world.devices = v.devices) := by
  have hfile := (doDeviceDump_exact digests sha path fuel hfull hdev).2 out hdump hout
  rw [← hkept] at hfile
  constructor
  · intro hraw
    have himage : v.files path = some dev.content := by
      cases format with
      | raw => exact hfile
      | vci | vciTrim | psv | psvTrim => cases hraw
    exact restoreDevice_padded sha hwilling hcard himage htarget hpos hsize hfuel
  · intro hheaded hsame
    refine restoreDevice_too_large sha hwilling hcard hfile htarget ?_ fuel'
    rw [List.length_append, length_backupHeader digests sha _ _ _ hheaded]
    omega

/-- "sdstor0:gcd", with the two bytes of the first device but one. -/
def restoredWorld (files : CString → Option (List UInt8)) : World :=
  { willingWorld with
    devices := fun device => if device = gameCart then some ⟨[0, 0], by decide⟩ else none
    files := files }

theorem restore_backup_twoBytes :
    ∃ out, doDeviceDump ⟨sha1OfZeros, sha256.digest⟩ sha256 3 gcdName imageName .raw none
        willingWorld = some out ∧
      ∃ h, restoreDevice sha256 3 gameCart imageName (restoredWorld out.2.files) = some h ∧
        h.ret = 0 ∧ (h.world.devices gameCart).map (·.content) = some [0x13, 0x37] := by
  rcases willingWorld_dumps .raw with ⟨out, hout, hres⟩
  have hwilling : Willing (restoredWorld out.2.files) := by
    intro i _
    have hall : (bufferSize : Int) ≤ 0x20000 := by decide
    exact hall
  have htarget : (restoredWorld out.2.files).devices gameCart = some ⟨[0, 0], by decide⟩ := by
    unfold restoredWorld
    dsimp only
    rw [if_pos rfl]
  exact ⟨out, hout, (restore_backup ⟨sha1OfZeros, sha256.digest⟩ sha256
    (show fmtIsTrim .raw = false from rfl) willingWorld_device hout hres
    (show (restoredWorld out.2.files).files imageName = _ from rfl) hwilling
    (show deviceWhitelistCheck gameCart = false by decide) htarget (by decide) (by decide)
    (show _ < 3 by decide)).1 rfl⟩

end GcToolKit.App
