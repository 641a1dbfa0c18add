import GcToolKit.App.DumpFrame
import GcToolKit.App.DumpMenu
import GcToolKit.Lib.Run

/-!
# Where a backup goes (app/main.c)

`handle_menu_set_output` renames until the image has a path that is free. The path of
the key file is made from it afterwards, without looking whether there is such a file,
and `write_file` writes over one that is there. So two backups of one title share their
key file: the images differ in the extension or the number, and everything from the
first dot on is dropped.
-/

namespace GcToolKit.App

open ByteFile DoWhile Run Machine GcToolKit.Crypto GcToolKit.Cmd56
open GcToolKit.Kern (KernelDigests AuthEmu kGetPerCartKeys cmd56KeysBytes)

/-! ## Names -/

/-- What `read_gameinfo` reads. -/
structure GameInfo where
  titleId : CString
  title : CString

/-- The characters `remove_illegal_chars` replaces. -/
def isIllegalChar (c : UInt8) : Bool :=
  c ∈ [0x2F, 0x5C, 0x3A, 0x3F, 0x2A, 0x22, 0x7C, 0x3E, 0x0A, 0x0D, 0x3C]

def removeIllegalChars (str : CString) : CString :=
  str.map (fun c => if isIllegalChar c then 0x20 else c) fun c hc => by
    split
    · decide
    · exact hc

/-- A number in decimal. -/
def decimal (n : Nat) : List UInt8 := (Nat.toDigits 10 n).map fun c => UInt8.ofNat c.toNat

/-- `%02d` of a `size_t`. -/
def formatNumber (number : UInt32) : List UInt8 :=
  let i := number.toInt32.toInt
  if i < 0 then 0x2D :: decimal i.natAbs
  else if i < 10 then 0x30 :: decimal i.natAbs
  else decimal i.natAbs

/-- "title [id] (01).ext", or without the number where it is 0. -/
def getOutputFilename (game : GameInfo) (extension : CString) (number : UInt32)
    (sizeOutput : Nat) : CString :=
  let name := game.title.bytes ++ [0x20, 0x5B] ++ game.titleId.bytes ++ [0x5D]
  let name :=
    if number > 0 then name ++ [0x20, 0x28] ++ formatNumber number ++ [0x29, 0x2E] ++ extension.bytes
    else name ++ [0x2E] ++ extension.bytes
  removeIllegalChars ((CString.ofBytes name).take (sizeOutput - 1))

inductive OutputLocation where
  | ux0
  | xmc0
  | uma0
  | host0

/-- `output_device` -/
def OutputLocation.device : OutputLocation → CString
  | .ux0 => CString.ofBytes [0x75, 0x78, 0x30, 0x3A]
  | .xmc0 => CString.ofBytes [0x78, 0x6D, 0x63, 0x30, 0x3A]
  | .uma0 => CString.ofBytes [0x75, 0x6D, 0x61, 0x30, 0x3A]
  | .host0 => CString.ofBytes [0x68, 0x6F, 0x73, 0x74, 0x30, 0x3A]

/-- "%s%s/%s" with room for `MAX_PATH - 1` characters and their terminator. -/
def outputFolder (outputDevice backupFolder outputFilename : CString) : CString :=
  (CString.ofBytes (outputDevice.bytes ++ backupFolder.bytes ++ [0x2F] ++ outputFilename.bytes)).take
    (maxPathLength - 2)

/-! ## The menu -/

/-- The files by their paths. -/
abbrev Files := CString → Option (List UInt8)

/-- `sceIoGetstat` gives no error where there is such a file. -/
def fileExist (files : Files) (path : CString) : Bool := (files path).isSome

section Rename

variable (files : Files) (game : GameInfo) (ext outputDevice backupFolder : CString)

/-- One test of the loop that renames; the state is the number with the name. -/
def renameBody (s : UInt32 × CString) : Pass (UInt32 × CString) (CString × CString) :=
  let (num, outputFilename) := s
  let path := outputFolder outputDevice backupFolder outputFilename
  if fileExist files path then .again (num + 1, getOutputFilename game ext num maxPathLength)
  else .exit (path, outputFilename)

/-- The path and the name in the end. -/
def renameLoop (fuel : Nat) (outputFilename : CString) : Option (CString × CString) :=
  run (renameBody files game ext outputDevice backupFolder) fuel (1, outputFilename)

end Rename

/-- `select_output_options` with what the user enters. A network dump is no physical
backup: of the network options only the way back is here. -/
inductive OutputSelection where
  | location (location : OutputLocation)
  | networkCanceled
  | changeFilename (name : CString)
  | reloadDevices
  | canceled

/-- The loop of `handle_menu_set_output` up to the dump: the path, or none where the
user leaves. -/
def selectOutput (files : Files) (game : GameInfo) (ext backupFolder : CString) (fuel : Nat) :
    List OutputSelection → CString → Option (Option CString)
  | [], _ => none
  | .location location :: _, outputFilename =>
    (renameLoop files game ext location.device backupFolder fuel outputFilename).map
      fun (path, _) => some path
  | .networkCanceled :: rest, outputFilename =>
    (renameLoop files game ext (CString.ofBytes []) backupFolder fuel outputFilename).bind
      fun (_, outputFilename) => selectOutput files game ext backupFolder fuel rest outputFilename
  | .changeFilename name :: rest, _ =>
    selectOutput files game ext backupFolder fuel rest (removeIllegalChars name)
  | .reloadDevices :: rest, outputFilename =>
    selectOutput files game ext backupFolder fuel rest outputFilename
  | .canceled :: _, _ => some none

/-- "sdstor0:gcd-lp-" with the rest of the name. -/
def gcdDevice (rest : List UInt8) : CString :=
  CString.ofBytes (Kern.gcdPrefix.toList ++ [0x2D, 0x6C, 0x70, 0x2D] ++ rest)

/-- `BLOCK_DEVICE_GC`, `BLOCK_DEVICE_MEDIAID` and `BLOCK_DEVICE_GRW0`; nothing looks at
the one for the keys, which is a null pointer. -/
def blockDeviceOf : DumpWhat → CString
  | .wholeGc => gcdDevice [0x69, 0x67, 0x6E, 0x2D, 0x65, 0x6E, 0x74, 0x69, 0x72, 0x65]
  | .mediaId => gcdDevice [0x61, 0x63, 0x74, 0x2D, 0x6D, 0x65, 0x64, 0x69, 0x61, 0x69, 0x64]
  | .grw0 => gcdDevice [0x69, 0x67, 0x6E, 0x2D, 0x67, 0x61, 0x6D, 0x65, 0x72, 0x77]
  | .keysOnly => CString.ofBytes []

/-- One backup: what the user chooses, the cart's title, and the console with the cart
in it. The files of the console are those the last backup left. -/
structure Backup where
  what : DumpWhat
  format : BackupFormat
  ext : CString
  game : GameInfo
  backupFolder : CString
  selections : List OutputSelection
  fuel : Nat
  console : World

/-- The world when the menu opens, after `get_effective_size`: the space that is needed
decides only which locations are offered. -/
def Backup.opened (b : Backup) (files : Files) : World :=
  let w := { b.console with files := files }
  if b.what = .keysOnly then w
  else (getEffectiveSize (blockDeviceOf b.what) b.format 0x40 w).2.2

/-- The path of the image. -/
def Backup.output (b : Backup) (files : Files) : Option (Option CString) :=
  selectOutput files b.game b.ext b.backupFolder b.fuel b.selections
    (getOutputFilename b.game b.ext 0 maxPathLength)

section Menu

variable {κ : Type} (digests : KernelDigests) (sha : StreamHash κ (Bytes 0x20))

/-- What `handle_menu_set_output` leaves. -/
def handleMenuSetOutput (b : Backup) (files : Files) : Option World :=
  (b.output files).bind fun
  | none => some (b.opened files)
  | some path =>
    (handleDumpDevice digests sha b.fuel b.what b.format (blockDeviceOf b.what) path none
      (b.opened files)).map (·.world)

/-- Backups one after the other; one that does not end leaves nothing to go on with. -/
def backups : Machine Files Backup Unit where
  step files b :=
    (((handleMenuSetOutput digests sha b files).map (·.files)).getD files, ())

/-! ## Fresh images -/

theorem renameLoop_free {files : Files} {game : GameInfo} {ext device folder name : CString}
    {fuel : Nat} {r : CString × CString}
    (h : renameLoop files game ext device folder fuel name = some r) : files r.1 = none := by
  refine run_invariant (I := fun _ => True) (Q := fun r => files r.1 = none) ?_ ?_ trivial h
  · intro s r _ hbody
    unfold renameBody fileExist at hbody
    dsimp only at hbody
    split at hbody
    · cases hbody
    · next hfree =>
      cases hbody
      exact Option.not_isSome_iff_eq_none.mp hfree
  · intro s s' _ _
    trivial

theorem selectOutput_free {files : Files} {game : GameInfo} {ext folder : CString} {fuel : Nat}
    {selections : List OutputSelection} {name path : CString}
    (h : selectOutput files game ext folder fuel selections name = some (some path)) :
    files path = none := by
  induction selections generalizing name with
  | nil => cases h
  | cons selection rest ih =>
    cases selection with
    | location location =>
      rcases Option.map_eq_some_iff.mp h with ⟨r, hrename, heq⟩
      cases heq
      exact renameLoop_free hrename
    | networkCanceled =>
      rcases Option.bind_eq_some_iff.mp h with ⟨r, -, hrest⟩
      exact ih hrest
    | changeFilename name' => exact ih h
    | reloadDevices => exact ih h
    | canceled => cases h

theorem opened_files (b : Backup) (files : Files) : (b.opened files).files = files := by
  unfold Backup.opened
  dsimp only
  split
  · rfl
  · exact (getEffectiveSize_same (blockDeviceOf b.what) b.format 0x40
      { b.console with files := files }).files

theorem opened_kernel (b : Backup) (files : Files) :
    (b.opened files).kernel = b.console.kernel := by
  unfold Backup.opened
  dsimp only
  split
  · rfl
  · exact (getEffectiveSize_same (blockDeviceOf b.what) b.format 0x40
      { b.console with files := files }).kernel

/-! ## What was there -/

/-- Every file that was there when the backup started is as it was. -/
def Kept (files : Files) (b : Backup) : Prop :=
  ∀ w, handleMenuSetOutput digests sha b files = some w →
    ∀ path content, files path = some content → w.files path = some content

/-- Where keys are dumped behind the device, `w` being the world then: their file does not
open, or it was not there, or it begins with the bytes that are stored. -/
def KeysSpared (files : Files) (b : Backup) : Prop :=
  b.what = .wholeGc → ¬ fmtIsVci b.format → ∀ path, b.output files = some (some path) →
    ∀ res w, doDeviceDump digests sha b.fuel (blockDeviceOf b.what) path b.format none
      (b.opened files) = some (res, w) →
      w.outcomes w.tick < 0 ∨
        ∀ content, files (changeExtension path maxPathLength keysBin) = some content →
          stored (cmd56KeysBytes (kGetPerCartKeys b.console.kernel)) w <+: content

theorem doDeviceDump_keeps {b : Backup} {files : Files} {path : CString}
    (hfree : files path = none) {out : Int × World}
    (h : doDeviceDump digests sha b.fuel (blockDeviceOf b.what) path b.format none
      (b.opened files) = some out) :
    out.2.kernel = b.console.kernel ∧
      ∀ other content, files other = some content → out.2.files other = some content := by
  have honly := doDeviceDump_only digests sha h
  refine ⟨honly.kernel.trans (opened_kernel b files), ?_⟩
  intro other content hother
  have hne : other ≠ path := by
    rintro rfl
    rw [hfree] at hother
    cases hother
  rw [honly.files other hne, opened_files]
  exact hother

/-- The key file changes as far as keys are stored in it. -/
theorem keyDump_keeps_iff {files : Files} {w : World} (keysFile : CString)
    (hkept : ∀ other content, files other = some content → w.files other = some content) :
    (∀ other content, files other = some content →
      (keyDump keysFile w).2.files other = some content) ↔
      w.outcomes w.tick < 0 ∨ ∀ content, files keysFile = some content →
        stored (cmd56KeysBytes (kGetPerCartKeys w.kernel)) w <+: content := by
  rw [keyDump_files]
  by_cases hneg : w.outcomes w.tick < 0
  · rw [if_pos hneg]
    exact iff_of_true hkept (Or.inl hneg)
  · rw [if_neg hneg]
    constructor
    · intro h
      right
      intro content hcontent
      have hafter := h keysFile content hcontent
      rw [Function.update_self, hkept keysFile content hcontent] at hafter
      exact (writeAt_eq_self_iff ..).mp (Option.some.inj hafter)
    · intro h other content hother
      by_cases hkeys : other = keysFile
      · subst hkeys
        have hbegins := (h.resolve_left hneg) content hother
        rw [Function.update_self, hkept other content hother]
        exact congrArg some ((writeAt_eq_self_iff ..).mpr hbegins)
      · rw [Function.update_of_ne hkeys]
        exact hkept other content hother

theorem kept_iff (files : Files) (b : Backup) :
    Kept digests sha files b ↔ KeysSpared digests sha files b := by
  unfold Kept KeysSpared handleMenuSetOutput
  cases houtput : b.output files with
  | none =>
    refine iff_of_true ?_ ?_
    · intro w h
      cases h
    · intro _ _ path h
      cases h
  | some output =>
    rw [Option.bind_some]
    cases output with
    | none =>
      refine iff_of_true ?_ ?_
      · intro w h path content hcontent
        cases h
        rw [opened_files]
        exact hcontent
      · intro _ _ path h
        cases h
    | some path =>
      have hfree := selectOutput_free houtput
      by_cases hkeys : b.what = .keysOnly
      · -- the keys go to the path that is free
        simp only [handleDumpDevice_keys digests sha hkeys, Option.map_some]
        refine iff_of_true ?_ ?_
        · intro w h
          cases h
          refine (keyDump_keeps_iff path ?_).mpr (Or.inr ?_)
          · intro other content hother
            rw [opened_files]
            exact hother
          · intro content hcontent
            rw [hfree] at hcontent
            cases hcontent
        · intro hwhole
          rw [hkeys] at hwhole
          cases hwhole
      · by_cases hboth : b.what = .wholeGc ∧ ¬ fmtIsVci b.format
        · rcases hboth with ⟨hwhole, hformat⟩
          simp only [handleDumpDevice_both digests sha hwhole hformat]
          constructor
          · intro h _ _ path' heq res w hdump
            cases heq
            rcases doDeviceDump_keeps digests sha hfree hdump with ⟨hkernel, hkept⟩
            rw [hdump] at h
            rw [← hkernel]
            exact (keyDump_keeps_iff _ hkept).mp (h _ rfl)
          · intro h w hrun
            rcases Option.map_eq_some_iff.mp hrun with ⟨handled, hhandled, rfl⟩
            rcases Option.map_eq_some_iff.mp hhandled with ⟨⟨res, w₁⟩, hdump, rfl⟩
            rcases doDeviceDump_keeps digests sha hfree hdump with ⟨hkernel, hkept⟩
            rw [← hkernel] at h
            exact (keyDump_keeps_iff _ hkept).mpr (h hwhole hformat path rfl res w₁ hdump)
        · simp only [handleDumpDevice_device digests sha hkeys hboth]
          refine iff_of_true ?_ ?_
          · intro w hrun
            rcases Option.map_eq_some_iff.mp hrun with ⟨handled, hhandled, rfl⟩
            rcases Option.map_eq_some_iff.mp hhandled with ⟨⟨res, w₁⟩, hdump, rfl⟩
            exact (doDeviceDump_keeps digests sha hfree hdump).2
          · intro hwhole hformat
            exact absurd ⟨hwhole, hformat⟩ hboth

/-! ## Backups one after the other -/

/-- In a sequence of backups none changes a file that was there when it started, exactly
where every key file is spared. -/
theorem backups_kept_iff (files : Files) (bs : List Backup) :
    (backups digests sha).EveryStep (Kept digests sha) files bs ↔
      (backups digests sha).EveryStep (KeysSpared digests sha) files bs :=
  (backups digests sha).everyStep_congr (kept_iff digests sha) files bs

/-- Then what is there at the start is there at the end. -/
theorem backups_keep {files : Files} {bs : List Backup}
    (h : (backups digests sha).EveryStep (KeysSpared digests sha) files bs) :
    ∀ path content, files path = some content →
      ((backups digests sha).run files bs).1 path = some content := by
  intro path content hfile
  refine EveryStep.run_induction (I := fun files => files path = some content) ?_
    ((backups_kept_iff digests sha files bs).mpr h) hfile
  intro files' b hkept hthere
  unfold backups
  dsimp only
  cases hrun : handleMenuSetOutput digests sha b files' with
  | none => exact hthere
  | some w => exact hkept w hrun path content hthere

end Menu

/-! ## Two carts of one game -/

/-- The cart of two bytes in the slot, with `key` in every byte of its packet 20 key. -/
def cartWorld (key : UInt8) : World :=
  { willingWorld with
    kernel := { AuthEmu.init with
      vitaState := { VitaCmd56State.zero with
        perCartKeys := { Cmd56Keys.zero with packet20Key := Vector.replicate _ key } } }
    devices := fun _ => some twoByteDevice }

/-- "T" with the id "I", saved to "ux0:". -/
def titleBackup (format : BackupFormat) (ext : List UInt8) (key : UInt8) : Backup where
  what := .wholeGc
  format := format
  ext := CString.ofBytes ext
  game := ⟨CString.ofBytes [0x49], CString.ofBytes [0x54]⟩
  backupFolder := CString.ofBytes []
  selections := [.location .ux0]
  fuel := 3
  console := cartWorld key

/-- "img" -/
def rawBackup : Backup := titleBackup .raw [0x69, 0x6D, 0x67] 1

/-- "psv" -/
def psvBackup : Backup := titleBackup .psv [0x70, 0x73, 0x76] 2

/-- "ux0:/T [I].keys.bin" -/
def titleKeysFile : CString :=
  CString.ofBytes ([0x75, 0x78, 0x30, 0x3A, 0x2F, 0x54, 0x20, 0x5B, 0x49, 0x5D] ++ keysBin.bytes)

/-- The keys of a cart as they are stored. -/
def cartKeys (key : UInt8) : List UInt8 := List.replicate 0x20 key ++ List.replicate 0x20 0

/-- The key file of the first cart then holds the keys of the second. -/
theorem not_backups_kept_sameTitle :
    ¬ (backups ⟨sha1OfZeros, sha256.digest⟩ sha256).EveryStep
      (Kept ⟨sha1OfZeros, sha256.digest⟩ sha256) (fun _ => none) [rawBackup, psvBackup] := by
  intro hkept
  have hfirst : ((backups ⟨sha1OfZeros, sha256.digest⟩ sha256).run (fun _ => none)
      [rawBackup]).1 titleKeysFile = some (cartKeys 1) := by decide +kernel
  have hsecond : (handleMenuSetOutput ⟨sha1OfZeros, sha256.digest⟩ sha256 psvBackup
      ((backups ⟨sha1OfZeros, sha256.digest⟩ sha256).run (fun _ => none) [rawBackup]).1).map
        (·.files titleKeysFile) = some (some (cartKeys 2)) := by decide +kernel
  rcases Option.map_eq_some_iff.mp hsecond with ⟨w, hrun, hafter⟩
  have hbefore := hkept [rawBackup] psvBackup [] rfl w hrun titleKeysFile (cartKeys 1) hfirst
  rw [hbefore] at hafter
  exact absurd (Option.some.inj hafter) (by decide)

end GcToolKit.App
