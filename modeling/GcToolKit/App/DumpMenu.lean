import GcToolKit.App.KeyDump
import GcToolKit.App.Restore
import GcToolKit.Kern.Io

/-!
# Operations of several stages (app/main.c, app/menu.c)

`handle_dump_device` dumps the device and then the keys, `do_device_wipe_and_format`
wipes and then formats. Both keep one result, and the second stage replaces what the
first left there: its failure is reported unless the second stage runs and succeeds.
-/

namespace GcToolKit.App

open GcToolKit.Crypto GcToolKit.Cmd56
open GcToolKit.Kern (KernelDigests KernIo KDevice FormatResults InGameCart formatTarget)

/-! ## handle_dump_device -/

/-- `insert_menu_options`, as far as they dump. -/
inductive DumpWhat where
  | wholeGc
  | keysOnly
  | mediaId
  | grw0
deriving DecidableEq

/-- The message in the end: `do_error`, or "Backup Success!" with the path. -/
inductive Shown where
  | error (res : Int)
  | backupSuccess (outFile : CString)

def showResult (res : Int) (outFile : CString) : Shown :=
  if res < 0 then .error res else .backupSuccess outFile

/-- The result with those of the stages that ran. -/
structure DumpHandled where
  ret : Int
  shown : Shown
  dumped : Option Int
  keys : Option Int
  world : World

/-- `key_dump`, or `key_dump_network` where there is an address. -/
def dumpKeys (network : Option NetworkInfo) (outFile : CString) (w : World) : Int × World :=
  match network with
  | none => keyDump outFile w
  | some netInfo => keyDumpNetwork netInfo outFile w

section Dump

variable {κ : Type} (digests : KernelDigests) (sha : StreamHash κ (Bytes 0x20))

/-- The device is not looked at where only the keys are dumped. -/
def handleDumpDevice (fuel : Nat) (what : DumpWhat) (format : BackupFormat)
    (blockDevice outFile : CString) (network : Option NetworkInfo) (w : World) :
    Option DumpHandled :=
  if what ≠ .keysOnly then
    (doDeviceDump digests sha fuel blockDevice outFile format network w).map fun (res, w) =>
    if what = .wholeGc ∧ ¬ fmtIsVci format then
      let keysFile := changeExtension outFile maxPathLength keysBin
      -- the result of the device dump is replaced
      let (keysRes, w) := dumpKeys network keysFile w
      ⟨keysRes, showResult keysRes keysFile, some res, some keysRes, w⟩
    else ⟨res, showResult res outFile, some res, none, w⟩
  else
    let (res, w) := dumpKeys network outFile w
    some ⟨res, showResult res outFile, none, some res, w⟩

variable {fuel : Nat} {what : DumpWhat} {format : BackupFormat} {blockDevice outFile : CString}
  {network : Option NetworkInfo} {w : World}

theorem handleDumpDevice_keys (h : what = .keysOnly) :
    handleDumpDevice digests sha fuel what format blockDevice outFile network w =
      some ⟨(dumpKeys network outFile w).1, showResult (dumpKeys network outFile w).1 outFile, none,
        some (dumpKeys network outFile w).1, (dumpKeys network outFile w).2⟩ := by
  unfold handleDumpDevice
  rw [if_neg (not_not.mpr h)]

/-- The device and then the keys. -/
theorem handleDumpDevice_both (hwhole : what = .wholeGc) (hformat : ¬ fmtIsVci format) :
    handleDumpDevice digests sha fuel what format blockDevice outFile network w =
      (doDeviceDump digests sha fuel blockDevice outFile format network w).map fun dumped =>
        let keysFile := changeExtension outFile maxPathLength keysBin
        let keys := dumpKeys network keysFile dumped.2
        ⟨keys.1, showResult keys.1 keysFile, some dumped.1, some keys.1, keys.2⟩ := by
  have hdevice : what ≠ .keysOnly := by
    rw [hwhole]
    decide
  unfold handleDumpDevice
  rw [if_pos hdevice]
  simp only [if_pos (And.intro hwhole hformat)]

theorem handleDumpDevice_device (hdevice : what ≠ .keysOnly)
    (h : ¬ (what = .wholeGc ∧ ¬ fmtIsVci format)) :
    handleDumpDevice digests sha fuel what format blockDevice outFile network w =
      (doDeviceDump digests sha fuel blockDevice outFile format network w).map fun dumped =>
        ⟨dumped.1, showResult dumped.1 outFile, some dumped.1, none, dumped.2⟩ := by
  unfold handleDumpDevice
  rw [if_pos hdevice]
  simp only [if_neg h]

/-- A stage that did not run, or that came to no error. -/
def Succeeded (stage : Option Int) : Prop := ∀ res, stage = some res → 0 ≤ res

theorem succeeded_none : Succeeded none := by
  intro res h
  cases h

theorem succeeded_some (res : Int) : Succeeded (some res) ↔ 0 ≤ res := by
  constructor
  · intro h
    exact h res rfl
  · intro h res' heq
    cases heq
    exact h

/-- No error and no error message without every stage having succeeded. -/
def DumpReported (fuel : Nat) (what : DumpWhat) (format : BackupFormat)
    (blockDevice outFile : CString) (network : Option NetworkInfo) (w : World) : Prop :=
  ∀ h, handleDumpDevice digests sha fuel what format blockDevice outFile network w = some h →
    (0 ≤ h.ret ∨ ∃ file, h.shown = .backupSuccess file) → Succeeded h.dumped ∧ Succeeded h.keys

/-- The calls of a key dump succeed and take all 0x40 bytes: `sceIoOpen`, which must
not give 0, and `sceIoWrite`; or those of a connection, of the packet and of the keys. -/
def KeysTaken (network : Option NetworkInfo) (w : World) : Prop :=
  match network with
  | none => 0 < w.outcomes w.tick ∧ 0x40 ≤ w.outcomes (w.tick + 1)
  | some _ =>
    0 ≤ w.outcomes w.tick ∧ 0 ≤ w.outcomes (w.tick + 1) ∧ 0 ≤ w.outcomes (w.tick + 2) ∧
      0 ≤ w.outcomes (w.tick + 3) ∧ 0x40 ≤ w.outcomes (w.tick + 4)

/-- The device dump fails where the keys are dumped after it, and they are taken. -/
def DumpMasked (fuel : Nat) (what : DumpWhat) (format : BackupFormat)
    (blockDevice outFile : CString) (network : Option NetworkInfo) (w : World) : Prop :=
  what = .wholeGc ∧ ¬ fmtIsVci format ∧ ∃ res w₁,
    doDeviceDump digests sha fuel blockDevice outFile format network w = some (res, w₁) ∧
      res < 0 ∧ KeysTaken network w₁

theorem dumpKeys_ok_iff (network : Option NetworkInfo) (outFile : CString) (w : World) :
    0 ≤ (dumpKeys network outFile w).1 ↔ KeysTaken network w := by
  cases network with
  | none => exact keyDump_ok_iff outFile w
  | some netInfo => exact keyDumpNetwork_ok_iff netInfo outFile w

/-- The message tells the same as the result. -/
theorem showResult_success_iff (res : Int) (outFile : CString) :
    (∃ file, showResult res outFile = .backupSuccess file) ↔ 0 ≤ res := by
  unfold showResult
  by_cases hneg : res < 0
  · rw [if_pos hneg]
    constructor
    · rintro ⟨file, h⟩
      cases h
    · intro h
      exact absurd hneg (not_lt.mpr h)
  · rw [if_neg hneg]
    exact iff_of_true ⟨outFile, rfl⟩ (not_lt.mp hneg)

/-- With one stage the result is its result. -/
theorem reported_single {res : Int} {outFile : CString}
    (h : 0 ≤ res ∨ ∃ file, showResult res outFile = .backupSuccess file) : 0 ≤ res := by
  rcases h with hret | hshown
  · exact hret
  · exact (showResult_success_iff res outFile).mp hshown

theorem dumpReported_iff (fuel : Nat) (what : DumpWhat) (format : BackupFormat)
    (blockDevice outFile : CString) (network : Option NetworkInfo) (w : World) :
    DumpReported digests sha fuel what format blockDevice outFile network w ↔
      ¬ DumpMasked digests sha fuel what format blockDevice outFile network w := by
  unfold DumpReported DumpMasked
  -- the keys alone, the image and the keys, or the image alone
  by_cases hkeys : what = .keysOnly
  · rw [handleDumpDevice_keys digests sha hkeys]
    generalize dumpKeys network outFile w = keys
    refine iff_of_true ?_ ?_
    · intro h heq hreported
      cases heq
      exact ⟨succeeded_none, (succeeded_some _).mpr (reported_single hreported)⟩
    · rintro ⟨hwhole, -⟩
      rw [hkeys] at hwhole
      cases hwhole
  · by_cases hboth : what = .wholeGc ∧ ¬ fmtIsVci format
    · rw [handleDumpDevice_both digests sha hboth.1 hboth.2]
      constructor
      · rintro hreported ⟨-, -, res, w₁, hdump, hneg, htaken⟩
        have hok := dumpKeys_ok_iff network (changeExtension outFile maxPathLength keysBin) w₁
        rw [hdump, Option.map_some] at hreported
        dsimp only at hreported
        generalize dumpKeys network (changeExtension outFile maxPathLength keysBin) w₁ = keys
          at hok hreported
        have hdumped := (hreported _ rfl (Or.inl (hok.mpr htaken))).1
        exact absurd hneg (not_lt.mpr ((succeeded_some res).mp hdumped))
      · intro hmasked h heq hreported
        rcases Option.map_eq_some_iff.mp heq with ⟨⟨res, w₁⟩, hdump, heq⟩
        have hok := dumpKeys_ok_iff network (changeExtension outFile maxPathLength keysBin) w₁
        dsimp only at heq
        generalize dumpKeys network (changeExtension outFile maxPathLength keysBin) w₁ = keys
          at hok heq
        cases heq
        have hkeysRes := reported_single hreported
        refine ⟨(succeeded_some res).mpr ?_, (succeeded_some _).mpr hkeysRes⟩
        by_contra hneg
        exact hmasked ⟨hboth.1, hboth.2, res, w₁, hdump, not_le.mp hneg, hok.mp hkeysRes⟩
    · rw [handleDumpDevice_device digests sha hkeys hboth]
      refine iff_of_true ?_ ?_
      · intro h heq hreported
        rcases Option.map_eq_some_iff.mp heq with ⟨⟨res, w₁⟩, -, heq⟩
        cases heq
        exact ⟨(succeeded_some res).mpr (reported_single hreported), succeeded_none⟩
      · rintro ⟨hwhole, hformat, -⟩
        exact hboth ⟨hwhole, hformat⟩

end Dump

/-! ## do_device_wipe_and_format -/

/-- The result with those of the stages that ran. -/
structure WipeHandled where
  ret : Int
  wiped : Option Int
  formatted : Option Int
  world : World
  kernIo : KernIo

section Wipe

variable {κ : Type} (sha : StreamHash κ (Bytes 0x20))
  (strncpyUserToKernel : CString → KDevice → KDevice)

/-- `r` and `x` are what the format finds: the results of the kernel's functions, and
the state of the calling thread. -/
def doDeviceWipeAndFormat (fuel : Nat) (blockDevice : CString) (full format : Bool)
    (r : FormatResults) (x : KernIo) (w : World) : Option WipeHandled :=
  let formatStage (res : Int) (wiped : Option Int) (w : World) : WipeHandled :=
    if format then
      -- the result of the wipe is replaced
      let (served, x) := Kern.kFormatDevice strncpyUserToKernel blockDevice r x
      ⟨served.ret, wiped, some served.ret, w, x⟩
    else ⟨res, wiped, none, w, x⟩
  if full then
    (wipeDevice sha fuel blockDevice w).map fun h => formatStage h.ret (some h.ret) h.world
  else some (formatStage 0 none w)

/-- No error without every stage having succeeded. -/
def WipeReported (fuel : Nat) (blockDevice : CString) (full format : Bool) (r : FormatResults)
    (x : KernIo) (w : World) : Prop :=
  ∀ h, doDeviceWipeAndFormat sha strncpyUserToKernel fuel blockDevice full format r x w = some h →
    0 ≤ h.ret → Succeeded h.wiped ∧ Succeeded h.formatted

/-- The name is that of the game cart, the permission level that is put aside is no
error, and none of the kernel's functions fails. -/
def FormatAnswered (blockDevice : CString) (r : FormatResults) (x : KernIo) : Prop :=
  InGameCart (formatTarget strncpyUserToKernel blockDevice x) ∧ 0 ≤ r.alloc ∧ 0 ≤ r.base ∧
    0 ≤ x.permission ∧ 0 ≤ r.clock ∧ 0 ≤ r.format ∧ 0 ≤ r.sync

/-- The wipe fails where a format follows, and that succeeds. -/
def WipeMasked (fuel : Nat) (blockDevice : CString) (full format : Bool) (r : FormatResults)
    (x : KernIo) (w : World) : Prop :=
  full = true ∧ format = true ∧
    (∃ h, wipeDevice sha fuel blockDevice w = some h ∧ h.ret < 0) ∧
      FormatAnswered strncpyUserToKernel blockDevice r x

theorem fatfsExecFormat_ok_iff (s : KDevice) (bytePerCluster sceFsType : UInt32)
    (r : FormatResults) (x : KernIo) :
    0 ≤ (Kern.fatfsExecFormat s bytePerCluster sceFsType r x).1.ret ↔
      0 ≤ r.alloc ∧ 0 ≤ r.base ∧ 0 ≤ x.permission ∧ 0 ≤ r.clock ∧ 0 ≤ r.format ∧ 0 ≤ r.sync := by
  unfold Kern.fatfsExecFormat Kern.fatfsExecFormatInternal Kern.ksceKernelSetPermission
  dsimp only
  -- one call after the other, up to the first that fails
  by_cases halloc : r.alloc < 0
  · rw [if_pos halloc]
    exact iff_of_false (not_le.mpr halloc) fun h => absurd h.1 (not_le.mpr halloc)
  · rw [if_neg halloc]
    by_cases hbase : r.base ≥ 0
    · rw [if_pos hbase]
      by_cases hold : x.permission < 0
      · rw [if_pos hold]
        exact iff_of_false (not_le.mpr hold) fun h => absurd h.2.2.1 (not_le.mpr hold)
      · rw [if_neg hold]
        by_cases hclock : r.clock < 0
        · rw [if_pos hclock]
          exact iff_of_false (not_le.mpr hclock) fun h => absurd h.2.2.2.1 (not_le.mpr hclock)
        · rw [if_neg hclock]
          by_cases hformat : r.format ≥ 0
          · rw [if_pos hformat]
            dsimp only
            omega
          · rw [if_neg hformat]
            dsimp only
            omega
    · rw [if_neg hbase]
      exact iff_of_false hbase fun h => hbase h.2.1

theorem kFormatDevice_ok_iff (blockDevice : CString) (r : FormatResults) (x : KernIo) :
    0 ≤ (Kern.kFormatDevice strncpyUserToKernel blockDevice r x).1.ret ↔
      FormatAnswered strncpyUserToKernel blockDevice r x := by
  have hrefused : Kern.deviceWhitelistFailed < 0 := by decide
  have hcheck := Kern.deviceWhitelistCheck_iff (formatTarget strncpyUserToKernel blockDevice x)
  unfold Kern.kFormatDevice Kern.enterSyscall FormatAnswered
  unfold formatTarget at hcheck ⊢
  dsimp only
  by_cases hcart : InGameCart (strncpyUserToKernel blockDevice x.formatDevice)
  · rw [if_neg (fun h => hcheck.mp h hcart)]
    dsimp only
    rw [fatfsExecFormat_ok_iff]
    constructor
    · intro h
      exact ⟨hcart, h⟩
    · rintro ⟨-, h⟩
      exact h
  · rw [if_pos (hcheck.mpr hcart)]
    exact iff_of_false (not_le.mpr hrefused) fun h => hcart h.1

theorem wipeReported_iff (fuel : Nat) (blockDevice : CString) (full format : Bool)
    (r : FormatResults) (x : KernIo) (w : World) :
    WipeReported sha strncpyUserToKernel fuel blockDevice full format r x w ↔
      ¬ WipeMasked sha strncpyUserToKernel fuel blockDevice full format r x w := by
  have hok := kFormatDevice_ok_iff strncpyUserToKernel blockDevice r x
  unfold WipeReported WipeMasked doDeviceWipeAndFormat
  dsimp only
  generalize Kern.kFormatDevice strncpyUserToKernel blockDevice r x = served at hok ⊢
  -- only a wipe followed by a format can hide a result: the format's overwrites it
  cases full with
  | false =>
    refine iff_of_true ?_ ?_
    · intro h heq hret
      cases format with
      | false =>
        cases heq
        exact ⟨succeeded_none, succeeded_none⟩
      | true =>
        cases heq
        exact ⟨succeeded_none, (succeeded_some _).mpr hret⟩
    · rintro ⟨hfull, -⟩
      cases hfull
  | true =>
    rw [if_pos rfl]
    cases hwipe : wipeDevice sha fuel blockDevice w with
    | none =>
      refine iff_of_true ?_ ?_
      · intro h heq
        cases heq
      · rintro ⟨-, -, ⟨h, heq, -⟩, -⟩
        cases heq
    | some handled =>
      rw [Option.map_some]
      cases format with
      | false =>
        refine iff_of_true ?_ ?_
        · intro h heq hret
          cases heq
          exact ⟨(succeeded_some _).mpr hret, succeeded_none⟩
        · rintro ⟨-, hformat, -⟩
          cases hformat
      | true =>
        constructor
        · rintro hreported ⟨-, -, ⟨h, heq, hneg⟩, hanswered⟩
          cases heq
          have hwiped := (hreported _ rfl (hok.mpr hanswered)).1
          exact absurd hneg (not_lt.mpr ((succeeded_some _).mp hwiped))
        · -- the reported result is the format's, so only the wipe is left to show
          intro hmasked h heq hret
          cases heq
          refine ⟨(succeeded_some _).mpr ?_, (succeeded_some _).mpr hret⟩
          by_contra hneg
          exact hmasked ⟨rfl, rfl, ⟨handled, rfl, not_le.mp hneg⟩, hok.mp hret⟩

end Wipe

/-! ## Both -/

section Both

variable {κ : Type} (digests : KernelDigests) (sha : StreamHash κ (Bytes 0x20))
  (strncpyUserToKernel : CString → KDevice → KDevice)

/-- Either function reports every failure exactly where the second stage does not
succeed behind a first one that failed. -/
theorem stagesReported_iff (fuel : Nat) :
    (∀ what format blockDevice outFile network w,
      DumpReported digests sha fuel what format blockDevice outFile network w ↔
        ¬ DumpMasked digests sha fuel what format blockDevice outFile network w) ∧
      ∀ blockDevice full format r x w,
        WipeReported sha strncpyUserToKernel fuel blockDevice full format r x w ↔
          ¬ WipeMasked sha strncpyUserToKernel fuel blockDevice full format r x w := by
  constructor
  · exact dumpReported_iff digests sha fuel
  · exact wipeReported_iff sha strncpyUserToKernel fuel

end Both

/-- The size of the device cannot be had; every other call takes all it is given. -/
def sizelessWorld : World :=
  { willingWorld with outcomes := fun i => if i = 2 then -1 else 0x20000 }

/-- "Backup Success!" behind a dump that failed. -/
theorem not_dumpReported_sizeless :
    ¬ DumpReported ⟨sha1OfZeros, sha256.digest⟩ sha256 1 .wholeGc .psv gcdName imageName none
      sizelessWorld := by
  rw [dumpReported_iff, not_not]
  have hdump : (doDeviceDump ⟨sha1OfZeros, sha256.digest⟩ sha256 1 gcdName imageName .psv none
      sizelessWorld).map (fun out => (out.1, out.2.outcomes out.2.tick,
        out.2.outcomes (out.2.tick + 1))) = some (-1, 0x20000, 0x20000) := by decide +kernel
  rcases Option.map_eq_some_iff.mp hdump with ⟨⟨res, w⟩, hout, heq⟩
  simp only [Prod.mk.injEq] at heq
  rcases heq with ⟨rfl, hopen, hwrite⟩
  refine ⟨rfl, by decide, -1, w, hout, by decide, ?_⟩
  unfold KeysTaken
  dsimp only
  rw [hopen, hwrite]
  decide

end GcToolKit.App
