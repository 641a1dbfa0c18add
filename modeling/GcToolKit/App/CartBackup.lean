import GcToolKit.App.GcAuth
import GcToolKit.App.NetworkDump
import GcToolKit.App.RoundTrip
import GcToolKit.App.TransferLength

/-!
# From the cart to the backup (app/main.c, app/auth.c, app/menu.c)

`main` waits for the authentication of a cart and then lets the user dump it. The
header of the dump comes from what the kernel holds, so it is the cart's own if the
handshake, the wait and the dump fit together.

* `capturedKeys_cart` — the keys the kernel has after the wait are those inside the
  cart that was authenticated;
* `cartBackup_exact` — a dump after the wait that reports no error is the header of
  that cart and its device.
-/

namespace GcToolKit.App

open GcToolKit.Crypto GcToolKit.Cmd56 GcToolKit.Kern

/-- The header of a finished backup of a cart with these keys. -/
def cartHeader {κ : Type} (digests : KernelDigests) (sha : StreamHash κ (Bytes 0x20))
    (keys : Cmd56Keys) (content : List UInt8) : BackupFormat → List UInt8
  | .vci | .vciTrim => (vciHeader content.length keys).toBytes
  | .psv | .psvTrim =>
    { psvHeader (digests.sha256 (cmd56KeysBytes keys)) (digests.sha1 keys.packet20Key.toList)
        content.length with allSectorsSha256 := sha.digest content }.toBytes
  | .raw => []

theorem backupHeader_cart {κ : Type} (digests : KernelDigests) (sha : StreamHash κ (Bytes 0x20))
    {x : AuthEmu} {keys : Cmd56Keys} (hkeys : kGetPerCartKeys x = keys) (content : List UInt8)
    (format : BackupFormat) :
    backupHeader digests sha x content (kGetPerCartKeys x) format =
      cartHeader digests sha keys content format := by
  subst hkeys
  cases format <;> rfl

variable {ρ ρ' : Type} (aes : BlockCipher) (rng : Rng ρ) (cartRng : Rng ρ') (stack : AesBlock)
  (cb : Callbacks)

theorem keys_eq {keys keys' : Cmd56Keys} (h20 : keys.packet20Key = keys'.packet20Key)
    (h18 : keys.packet18Key = keys'.packet18Key) : keys = keys' := by
  cases keys
  cases keys'
  exact (Cmd56Keys.mk.injEq ..).mpr ⟨h20, h18⟩

/-- A cart whose key id is in use. -/
def GenuineCart (env : AuthEnv (CartBus ρ') ρ) : Prop :=
  env.bus.gc.keyId = retailKeyId ∨ env.bus.gc.keyId = prototypeKeyId1

/-- After the handshake with a cart the kernel holds what is inside the cart. -/
theorem capturedKeys_cart {s : GcAuth (CartBus ρ') ρ} {env : AuthEnv (CartBus ρ') ρ}
    (hcart : GenuineCart env)
    (hcaptured : Captured aes rng (cartTransport aes cartRng stack) cb s env) :
    kGetPerCartKeys s.emu = env.bus.gc.perCartKeys ∧ kGetKeyId s.emu = env.bus.gc.keyId := by
  have hsupported : (keySeed env.bus.gc.keyId).isSome := by
    rcases hcart with h | h <;> rw [h] <;> rfl
  have hpolicy : ¬ ((authStart cb).allowPrototypeKeys = 1 ∧
      env.bus.gc.keyId > prototypeKeyId1) := by
    rintro ⟨-, hgt⟩
    rcases hcart with h | h <;> rw [h] at hgt <;> exact absurd hgt (by decide)
  have hrun := vitaCmd56Run_cart aes rng cartRng stack (authStart cb) env.bus env.rand hsupported
    hpolicy
  have hstate := hcaptured.keys
  unfold authRun at hstate
  generalize vitaCmd56Run aes rng (cartTransport aes cartRng stack) (authStart cb) env.bus
    env.rand = result at hrun hstate
  rcases hrun with ⟨-, -, hagree, hkeys, hkeyId⟩
  unfold kGetPerCartKeys kGetKeyId
  rw [hstate]
  constructor
  · rw [← hkeys]
    exact keys_eq hagree.packet20Key hagree.packet18Key
  · rw [← hkeyId]
    exact hagree.keyId

/-- Whatever the application and the operating system do, if taiHEN releases its hooks
and only carts with a key id in use are in the slot: once the wait is over, a backup
that reports no error is the header of a cart that was authenticated and the device. -/
theorem cartBackup_exact {κ : Type} (digests : KernelDigests) (sha : StreamHash κ (Bytes 0x20))
    {steps : List (AuthStep (CartBus ρ') ρ)}
    (hreleases : ∀ env, .osBegin env ∈ steps → 0 ≤ env.releaseResult)
    (hcarts : ∀ env, .osBegin env ∈ steps → GenuineCart env)
    (hreturned : (authSteps aes rng (cartTransport aes cartRng stack) cb GcAuth.boot steps).pc =
      .returned) :
    let s := authSteps aes rng (cartTransport aes cartRng stack) cb GcAuth.boot steps
    ∃ env, .osBegin env ∈ steps ∧ s.attempts.head? = some env ∧
      kGetKeyId s.emu = env.bus.gc.keyId ∧
      ∀ device path format dev w fuel out, fmtIsTrim format = false → w.kernel = s.emu →
        w.devices device = some dev →
        doDeviceDump digests sha fuel device path format none w = some out → 0 ≤ out.1 →
          out.2.files path =
            some (cartHeader digests sha env.bus.gc.perCartKeys dev.content format ++
              dev.content) := by
  rcases (inv_run hreleases).captured hreturned with ⟨env, ⟨-, hbegun⟩, hcaptured⟩
  rcases capturedKeys_cart aes rng cartRng stack cb (hcarts env hbegun) hcaptured with
    ⟨hkeys, hkeyId⟩
  rcases hcaptured.first with ⟨failed, hattempts, -⟩
  refine ⟨env, hbegun, ?_, hkeyId, ?_⟩
  · rw [hattempts]
    rfl
  · intro device path format dev w fuel out hfull hkernel hdev hdump hres
    have hexact := (doDeviceDump_exact digests sha path fuel hfull hdev).2 out hdump hres
    rw [hkernel, backupHeader_cart digests sha hkeys] at hexact
    exact hexact

/-! ## A dump where no call fails -/

section Willing

variable {κ : Type} (digests : KernelDigests) (sha : StreamHash κ (Bytes 0x20))
  {device : CString} {dev : BlockDevice} {w : World}

/-- A write to an open file that takes all there is. -/
theorem sceIoWrite_willing {fd : SceUID} {path : CString} {pos : Nat} {data : List UInt8}
    (hwilling : Willing w) (hfd : w.file? fd = some (path, pos)) (hsize : data.length ≤ bufferSize) :
    ∃ w', sceIoWrite fd data w = ((data.length : Int), w') ∧ Willing w' ∧ SameDevices w w' ∧
      w'.file? fd = some (path, pos + data.length) := by
  rcases hwilling.outcome with ⟨hr, hall⟩
  rcases sceIoWrite_takes data hfd hr rfl with ⟨w', hcall, hwritten⟩
  rcases sceIoWrite_draws fd data w with ⟨houtcomes, htick⟩
  have hposition := hwritten.position
  rw [hcall] at houtcomes htick
  rw [Nat.min_eq_left (by omega)] at hcall hposition
  exact ⟨w', hcall, hwilling.next houtcomes htick, hwritten.same, hposition⟩

/-- The header is written whole. -/
theorem createHeader_willing {state : BackupState κ} {path : CString} {keys : Cmd56Keys}
    (hwilling : Willing w) (hformat : state.format = .vci) (hkeys : state.keys = some keys)
    (hfd : w.file? state.wrFd = some (path, 0)) :
    ∃ w' pos, createHeader digests sceIoWrite state w = some (0, w') ∧ Willing w' ∧
      SameDevices w w' ∧ w'.file? state.wrFd = some (path, pos) := by
  have hlen := VciHeader.length_toBytes (vciHeader state.deviceSize keys)
  have hsmall : (vciHeader state.deviceSize keys).toBytes.length ≤ bufferSize := by
    rw [hlen]
    decide
  rcases sceIoWrite_willing hwilling hfd hsmall with ⟨w', hwrite, hwilling', hsame, hposition⟩
  refine ⟨w', _, ?_, hwilling', hsame, hposition⟩
  unfold createHeader createVciHeader
  rw [hformat, hkeys]
  dsimp only [Option.map_some]
  rw [hwrite, hlen]
  rfl

/-- The loop copies a device that fits into the buffer in its first pass. -/
theorem deviceAccessLoop_small {state : BackupState κ} {path : CString} {pos : Nat}
    (hwilling : Willing w) (hdev : w.devices device = some dev) (hpos : 0 < dev.content.length)
    (hsmall : dev.content.length ≤ bufferSize) (htotal : state.total = 0)
    (htoRead : subU64 state.effectiveSize state.headerSize = dev.content.length)
    (hrdFd : w.device? state.rdFd = some (device, 0))
    (hwrFd : w.file? state.wrFd = some (path, pos)) :
    ∃ w', deviceAccessLoop sha kReadDevice sceIoWrite 2 state w =
      some (0, passed sha state dev.content dev.content.length, w') := by
  have hall := hwilling w.tick (Nat.le_refl _)
  rcases kReadDevice_whole hrdFd hdev hsmall hall with ⟨w₁, hread, hasked⟩
  have hfile : w₁.file? state.wrFd = some (path, pos) := by
    rw [hasked.same.file?]
    exact hwrFd
  rcases sceIoWrite_willing (hasked.willing hwilling) hfile hsmall with ⟨w₂, hwrite, -, -, -⟩
  exact ⟨w₂, deviceAccessLoop_onePass sha htotal hpos dev.size_lt htoRead hread hwrite 1⟩

theorem dumpDevicePhys_small {state : BackupState κ} {path : CString} {keys : Cmd56Keys}
    (hready : Prepared sha device path .vci (some keys) none dev state) (hwrFd : state.wrFd = 0)
    (hwilling : Willing w) (hdev : w.devices device = some dev) (hpos : 0 < dev.content.length)
    (hsmall : dev.content.length ≤ bufferSize) :
    ∃ out, dumpDevicePhys digests sha 2 state w = some out ∧ 0 ≤ out.1 := by
  obtain rfl := hready.blockDevice
  obtain rfl := hready.outputPath
  -- the two handles
  rcases kOpenDevice_opens (oRdonly ||| oRdlock) hdev (not_lt.mp hwilling.outcome.1) with
    ⟨w₁, hopen, hrdFd, hasked⟩
  have hwilling₁ := hasked.willing hwilling
  rcases sceIoOpen_succeeds state.outputPath (oWronly ||| oCreat ||| oTrunc) hwilling₁.outcome.1
    (fun hflags => absurd hflags (by decide)) with ⟨w₂, hcreate, hopened⟩
  let task : BackupState κ :=
    { state with rdFd := w.outcomes w.tick, wrFd := w₁.outcomes w₁.tick }
  rcases createHeader_willing digests (hwilling₁.next hopened.outcomes hopened.tick)
    (show task.format = .vci from hready.format) hready.keys hopened.position with
    ⟨w₃, pos, hheader, hwilling₃, hsame, hfile⟩
  have hdev₃ : w₃.devices state.blockDevice = some dev := by
    rw [hsame.devices, hopened.same.devices]
    exact hasked.device hdev
  have hrdFd₃ : w₃.device? task.rdFd = some (state.blockDevice, 0) := by
    rw [hsame.device?, hopened.same.device?]
    exact hrdFd
  rcases deviceAccessLoop_small sha hwilling₃ hdev₃ hpos hsmall
    (show task.total = 0 from hready.total) hready.toRead hrdFd₃ hfile with ⟨w₄, hloop⟩
  have hcopy : physCopy digests sha 2 task w₂ =
      some (physFinish sha 0 (passed sha task dev.content dev.content.length) w₄) := by
    unfold physCopy
    rw [hheader, Option.bind_some]
    dsimp only
    rw [if_neg (by decide), hloop]
    rfl
  refine ⟨physFinish sha 0 (passed sha task dev.content dev.content.length) w₄, ?_, ?_⟩
  · unfold dumpDevicePhys
    rw [hopen]
    dsimp only
    rw [if_neg (by rw [hwrFd]; decide), hcreate]
    dsimp only
    rw [if_neg hwilling₁.outcome.1]
    exact hcopy
  · have hformat : fmtIsPsv (passed sha task dev.content dev.content.length).format = false :=
      congrArg fmtIsPsv hready.format
    unfold physFinish
    rw [if_neg (by decide), hformat, if_neg (by decide), physExit_res]

/-- So the VCI dump of a small device ends, and reports no error. -/
theorem doDeviceDump_small (path : CString) (hwilling : Willing w)
    (hdev : w.devices device = some dev) (hpos : 0 < dev.content.length)
    (hsmall : dev.content.length ≤ bufferSize) :
    ∃ out, doDeviceDump digests sha 2 device path .vci none w = some out ∧ 0 ≤ out.1 := by
  rcases isModuleStarted_started (hwilling.pos (Nat.le_refl _)) with ⟨w₁, hmodule, hasked₁⟩
  have hdev₁ := hasked₁.device hdev
  have hfull : fmtIsTrim .vci = false := rfl
  rcases setupState_full sha path hfull (some (kGetPerCartKeys w.kernel)) none hdev₁
    (sizesAnswered_of_willing (hasked₁.willing hwilling) dev) with
    ⟨res, state, w₂, hsetup, hres, -, -, -, hasked₂⟩
  rcases setupState_prepares sha hfull hdev₁ hsetup hres with ⟨hready, hwrFd⟩
  have hkeys : (if ¬ fmtIsRaw .vci then some (kGetPerCartKeys w.kernel) else none) =
      some (kGetPerCartKeys w.kernel) := if_pos (by decide)
  have hphys := dumpDevicePhys_small digests sha hready hwrFd
    (hasked₂.willing (hasked₁.willing hwilling)) (hasked₂.device hdev₁) hpos hsmall
  unfold doDeviceDump dumpDevice
  dsimp only [Option.map_none]
  rw [hmodule]
  dsimp only
  rw [if_neg (by decide), hkeys, hsetup]
  dsimp only
  rw [if_neg (not_lt.mpr hres)]
  exact hphys

end Willing

/-- The willing console after some authentications. -/
def capturedWorld (x : AuthEmu) : World := { willingWorld with kernel := x }

theorem capturedWorld_device (x : AuthEmu) :
    (capturedWorld x).devices gcdName = some twoByteDevice :=
  willingWorld_device

theorem capturedWorld_dumps (x : AuthEmu) :
    ∃ out, doDeviceDump ⟨sha1OfZeros, sha256.digest⟩ sha256 2 gcdName imageName .vci none
      (capturedWorld x) = some out ∧ 0 ≤ out.1 := by
  have hbuffer : (bufferSize : Int) ≤ 0x20000 := by decide
  have hwilling : Willing (capturedWorld x) := fun i _ => hbuffer
  exact doDeviceDump_small ⟨sha1OfZeros, sha256.digest⟩ sha256 imageName hwilling
    (capturedWorld_device x) (by decide) (by decide)

/-- What is said of every dump that reports no error holds of this one. -/
theorem capturedWorld_backup {x : AuthEmu} {keys : Cmd56Keys}
    (h : ∀ device path format dev w fuel out, fmtIsTrim format = false → w.kernel = x →
      w.devices device = some dev →
      doDeviceDump ⟨sha1OfZeros, sha256.digest⟩ sha256 fuel device path format none w = some out →
      0 ≤ out.1 → out.2.files path =
        some (cartHeader ⟨sha1OfZeros, sha256.digest⟩ sha256 keys dev.content format ++
          dev.content)) :
    ∃ out, doDeviceDump ⟨sha1OfZeros, sha256.digest⟩ sha256 2 gcdName imageName .vci none
        (capturedWorld x) = some out ∧
      out.2.files imageName = some ((vciHeader 2 keys).toBytes ++ [0x13, 0x37]) := by
  rcases capturedWorld_dumps x with ⟨out, hdump, hres⟩
  exact ⟨out, hdump, h gcdName imageName .vci twoByteDevice (capturedWorld x) 2 out rfl rfl
    (capturedWorld_device x) hdump hres⟩

/-- Once a retail cart is authenticated, a VCI dump of its two bytes ends with its keys in
the header. -/
theorem cartBackup_exact_retail :
    let s := authSteps tinyAes (libRng tinyAes) (cartTransport tinyAes (libRng tinyAes) zeroIv)
      ⟨1, 2⟩ GcAuth.boot (untilAuthenticated retailEnv)
    ∃ out, doDeviceDump ⟨sha1OfZeros, sha256.digest⟩ sha256 2 gcdName imageName .vci none
        (capturedWorld s.emu) = some out ∧
      out.2.files imageName =
        some ((vciHeader 2 retailEnv.bus.gc.perCartKeys).toBytes ++ [0x13, 0x37]) := by
  rcases cartBackup_exact tinyAes (libRng tinyAes) (libRng tinyAes) zeroIv ⟨1, 2⟩
    ⟨sha1OfZeros, sha256.digest⟩ sha256 retailEnv_releases
    (fun env henv => by
      rw [untilAuthenticated_env henv]
      exact Or.inl rfl)
    (retailEnv_returns ⟨1, 2⟩) with ⟨env, hbegun, -, -, hexact⟩
  obtain rfl := untilAuthenticated_env hbegun
  exact capturedWorld_backup hexact

end GcToolKit.App
