import GcToolKit.App.Dump

/-!
# What a physical dump leaves alone

Whatever the calls come to, a dump writes to no file but the one at its path: every
write goes to the handle that was opened there, and what is removed after a failure is
that file. `doDeviceDump_only` says so of the whole dump.
-/

namespace GcToolKit.App

open ByteFile DoWhile GcToolKit.Crypto GcToolKit.Cmd56
open GcToolKit.Kern (KernelDigests oRdonly oWronly oCreat oTrunc oRdlock kGetPerCartKeys)

variable {κ : Type} (digests : KernelDigests) (sha : StreamHash κ (Bytes 0x20))

/-! ## One file -/

/-- The kernel's data are as before, and so is every file but the one at `path`. -/
structure OnlyFile (path : CString) (w w' : World) : Prop where
  kernel : w'.kernel = w.kernel
  files : ∀ other, other ≠ path → w'.files other = w.files other

theorem OnlyFile.refl (path : CString) (w : World) : OnlyFile path w w := ⟨rfl, fun _ _ => rfl⟩

theorem OnlyFile.trans {path : CString} {w w' w'' : World} (h : OnlyFile path w w')
    (h' : OnlyFile path w' w'') : OnlyFile path w w'' := by
  constructor
  · exact h'.kernel.trans h.kernel
  · intro other hne
    exact (h'.files other hne).trans (h.files other hne)

theorem SameFiles.onlyFile {w w' : World} (h : SameFiles w w') (path : CString) :
    OnlyFile path w w' :=
  ⟨h.kernel, fun other _ => congrFun h.files other⟩

/-- The handle is not open on another file. -/
def HandleOf (fd : SceUID) (path : CString) (w : World) : Prop :=
  ∀ other pos, w.file? fd = some (other, pos) → other = path

theorem HandleOf.of_position {fd : SceUID} {path : CString} {pos : Nat} {w : World}
    (h : w.file? fd = some (path, pos)) : HandleOf fd path w := by
  intro other q hfd
  rw [h] at hfd
  cases hfd
  rfl

/-- A call that has failed. -/
theorem OnlyFile.failed (path : CString) (w : World) :
    OnlyFile path w { w with tick := w.tick + 1 } :=
  (Asked.failed w).same.onlyFile path

theorem sceIoOpen_only (path : CString) (flags : UInt32) (w : World) :
    OnlyFile path w (sceIoOpen path flags w).2 ∧
      HandleOf (sceIoOpen path flags w).1 path (sceIoOpen path flags w).2 := by
  rcases sceIoOpen_cases path flags w with ⟨r, hneg, hcall⟩ | ⟨w', hcall, hopened⟩
  · rw [hcall]
    refine ⟨OnlyFile.failed path w, ?_⟩
    intro other pos hfd
    exact absurd hneg (file?_valid hfd)
  · rw [hcall]
    refine ⟨⟨hopened.same.kernel, ?_⟩, HandleOf.of_position hopened.position⟩
    intro other hne
    rw [hopened.files, Function.update_of_ne hne]

theorem sceIoWrite_only {fd : SceUID} {path : CString} {w : World} (hfd : HandleOf fd path w)
    (data : List UInt8) : OnlyFile path w (sceIoWrite fd data w).2 ∧
      HandleOf fd path (sceIoWrite fd data w).2 := by
  rcases sceIoWrite_cases fd data w with
    ⟨r, hneg, hcall⟩ | ⟨path', pos, n, w', hopen, -, hcall, hwritten⟩
  · rw [hcall]
    exact ⟨OnlyFile.failed path w, hfd⟩
  · obtain rfl := hfd path' pos hopen
    rw [hcall]
    refine ⟨⟨hwritten.same.kernel, ?_⟩, HandleOf.of_position hwritten.position⟩
    intro other hne
    rw [hwritten.files, Function.update_of_ne hne]

theorem sceIoLseek_only {fd : SceUID} {path : CString} {w : World} (hfd : HandleOf fd path w)
    (offset : Nat) : OnlyFile path w (sceIoLseek fd offset w).2 ∧
      HandleOf fd path (sceIoLseek fd offset w).2 := by
  rcases sceIoLseek_cases fd offset w with
    ⟨r, hneg, hcall⟩ | ⟨path', pos, w', hopen, hcall, hfiles, hfd', hsame⟩
  · rw [hcall]
    exact ⟨OnlyFile.failed path w, hfd⟩
  · obtain rfl := hfd path' pos hopen
    rw [hcall]
    refine ⟨⟨hsame.kernel, ?_⟩, HandleOf.of_position hfd'⟩
    intro other _
    exact congrFun hfiles other

theorem sceIoRemove_only (path : CString) (w : World) : OnlyFile path w (sceIoRemove path w).2 := by
  unfold sceIoRemove World.outcome
  dsimp only
  split
  · exact ⟨rfl, fun _ _ => rfl⟩
  · exact ⟨rfl, fun other hne => Function.update_of_ne hne ..⟩

/-! ## The stages of a dump -/

theorem createHeader_only {state : BackupState κ} {path : CString} {w w' : World} {res : Int}
    (hfd : HandleOf state.wrFd path w)
    (h : createHeader digests sceIoWrite state w = some (res, w')) :
    OnlyFile path w w' ∧ HandleOf state.wrFd path w' := by
  have hvci (h : createVciHeader sceIoWrite state w = some (res, w')) :
      OnlyFile path w w' ∧ HandleOf state.wrFd path w' := by
    rcases Option.map_eq_some_iff.mp h with ⟨keys, -, heq⟩
    cases heq
    exact sceIoWrite_only hfd _
  have hpsv (h : some (createPsvHeader digests sceIoWrite state w) = some (res, w')) :
      OnlyFile path w w' ∧ HandleOf state.wrFd path w' := by
    cases h
    exact sceIoWrite_only hfd _
  unfold createHeader at h
  cases hformat : state.format with
  | vci | vciTrim =>
    rw [hformat] at h
    exact hvci h
  | psv | psvTrim =>
    rw [hformat] at h
    exact hpsv h
  | raw =>
    rw [hformat] at h
    cases h
    exact ⟨OnlyFile.refl path w, hfd⟩

theorem deviceAccessLoop_only {fuel : Nat} {state state' : BackupState κ} {path : CString}
    {w w' : World} {res : Int} (hfd : HandleOf state.wrFd path w)
    (h : deviceAccessLoop sha App.kReadDevice sceIoWrite fuel state w = some (res, state', w')) :
    OnlyFile path w w' ∧ HandleOf state.wrFd path w' := by
  refine deviceAccessLoop_keeps (I := fun w₁ => OnlyFile path w w₁ ∧ HandleOf state.wrFd path w₁)
    sha App.kReadDevice sceIoWrite ?_ ?_ ⟨OnlyFile.refl path w, hfd⟩ h
  · rintro size w₁ ⟨honly, hfd₁⟩
    have hsame := kReadDevice_same state.rdFd size w₁
    refine ⟨honly.trans (hsame.onlyFile path), ?_⟩
    intro other pos hopen
    rw [hsame.file?] at hopen
    exact hfd₁ other pos hopen
  · rintro data w₁ ⟨honly, hfd₁⟩
    rcases sceIoWrite_only hfd₁ data with ⟨hwrite, hfd₂⟩
    exact ⟨honly.trans hwrite, hfd₂⟩

theorem finalizePsvHeader_only {state : BackupState κ} {path : CString} {w : World}
    (hnet : state.netInfo = none) (hfd : HandleOf state.wrFd path w) :
    OnlyFile path w (finalizePsvHeader sha state w).2 := by
  unfold finalizePsvHeader
  rw [hnet]
  dsimp only
  split
  · exact OnlyFile.refl path w
  · split
    · rcases sceIoLseek_only hfd PsvHeader.allSectorsSha256Offset with ⟨hseek, hfd₁⟩
      generalize sceIoLseek state.wrFd PsvHeader.allSectorsSha256Offset w = sought at hseek hfd₁ ⊢
      split
      · exact hseek.trans (sceIoWrite_only hfd₁ _).1
      · exact hseek
    · exact OnlyFile.refl path w

/-- What is removed is the file of the dump. -/
theorem physExit_only {state : BackupState κ} {path : CString} (hpath : state.outputPath = path)
    (res : Int) (w : World) : OnlyFile path w (physExit res state w).2 := by
  have hclosed : OnlyFile path w (if state.rdFd ≥ 0 then
      (App.kCloseDevice state.rdFd (if state.wrFd ≥ 0 then (sceIoClose state.wrFd w).2 else w)).2
      else if state.wrFd ≥ 0 then (sceIoClose state.wrFd w).2 else w) := by
    split <;> split <;> exact ⟨rfl, fun _ _ => rfl⟩
  unfold physExit
  dsimp only
  split
  · rw [hpath]
    exact hclosed.trans (sceIoRemove_only path _)
  · exact hclosed

theorem physFinish_only {state : BackupState κ} {path : CString} {w : World}
    (hpath : state.outputPath = path) (hnet : state.netInfo = none)
    (hfd : HandleOf state.wrFd path w) (res : Int) :
    OnlyFile path w (physFinish sha res state w).2 := by
  unfold physFinish
  split
  · exact physExit_only hpath res w
  · split
    · have hfinal := finalizePsvHeader_only sha hnet hfd
      exact hfinal.trans (physExit_only hpath _ _)
    · exact physExit_only hpath res w

theorem physCopy_only {fuel : Nat} {state : BackupState κ} {path : CString} {w : World}
    {out : Int × World} (hpath : state.outputPath = path) (hnet : state.netInfo = none)
    (hfd : HandleOf state.wrFd path w) (h : physCopy digests sha fuel state w = some out) :
    OnlyFile path w out.2 := by
  unfold physCopy at h
  rcases Option.bind_eq_some_iff.mp h with ⟨⟨res, w₁⟩, hheader, hrest⟩
  rcases createHeader_only digests hfd hheader with ⟨honly₁, hfd₁⟩
  dsimp only at hrest
  split at hrest
  · cases hrest
    exact honly₁.trans (physExit_only hpath res w₁)
  · rcases Option.map_eq_some_iff.mp hrest with ⟨⟨res₂, state₂, w₂⟩, hloop, hfinish⟩
    have htask := deviceAccessLoop_sameTask sha App.kReadDevice sceIoWrite hloop
    rcases deviceAccessLoop_only sha hfd₁ hloop with ⟨honly₂, hfd₂⟩
    rw [← htask.wrFd] at hfd₂
    have hfinal := physFinish_only sha (htask.outputPath.trans hpath) (htask.netInfo.trans hnet)
      hfd₂ res₂
    rw [← hfinish]
    exact honly₁.trans (honly₂.trans hfinal)

theorem dumpDevicePhys_only {fuel : Nat} {state : BackupState κ} {path : CString} {w : World}
    {out : Int × World} (hpath : state.outputPath = path) (hnet : state.netInfo = none)
    (h : dumpDevicePhys digests sha fuel state w = some out) : OnlyFile path w out.2 := by
  subst hpath
  have hdevice := (kOpenDevice_same state.blockDevice (oRdonly ||| oRdlock) w).onlyFile
    state.outputPath
  unfold dumpDevicePhys at h
  generalize App.kOpenDevice state.blockDevice (oRdonly ||| oRdlock) w = opened at h hdevice
  dsimp only at h
  split at h
  · cases h
    refine hdevice.trans (physExit_only ?_ _ _)
    rfl
  · rcases sceIoOpen_only state.outputPath (oWronly ||| oCreat ||| oTrunc) opened.2 with
      ⟨hopen, hfd⟩
    generalize sceIoOpen state.outputPath (oWronly ||| oCreat ||| oTrunc) opened.2 = file
      at h hopen hfd
    split at h
    · cases h
      refine hdevice.trans (hopen.trans (physExit_only ?_ _ _))
      rfl
    · refine hdevice.trans (hopen.trans (physCopy_only digests sha ?_ ?_ hfd h))
      · rfl
      · exact hnet

/-! ## The dump -/

theorem setupState_task (device path : CString) (format : BackupFormat) (keys : Option Cmd56Keys)
    (w : World) :
    (setupState sha device path format keys none w).2.1.outputPath = path ∧
      (setupState sha device path format keys none w).2.1.netInfo = none := by
  unfold setupState BackupState.start
  dsimp only
  split
  · exact ⟨rfl, rfl⟩
  · split
    · exact ⟨rfl, rfl⟩
    · split
      · exact ⟨rfl, rfl⟩
      · exact ⟨rfl, rfl⟩

theorem doDeviceDump_only {fuel : Nat} {device path : CString} {format : BackupFormat} {w : World}
    {out : Int × World} (h : doDeviceDump digests sha fuel device path format none w = some out) :
    OnlyFile path w out.2 := by
  have hstarted := (isModuleStarted_same w).onlyFile path
  unfold doDeviceDump dumpDevice at h
  dsimp only [Option.map_none] at h
  generalize isModuleStarted w = started at h hstarted
  split at h
  · cases h
    exact hstarted
  · have hsetup := (setupState_same sha device path format
      (if ¬ fmtIsRaw format then some (kGetPerCartKeys w.kernel) else none) none
      started.2).onlyFile path
    have htask := setupState_task sha device path format
      (if ¬ fmtIsRaw format then some (kGetPerCartKeys w.kernel) else none) started.2
    generalize setupState sha device path format
      (if ¬ fmtIsRaw format then some (kGetPerCartKeys w.kernel) else none) none started.2 =
        prepared at h hsetup htask
    split at h
    · cases h
      exact hstarted.trans hsetup
    · exact hstarted.trans (hsetup.trans (dumpDevicePhys_only digests sha htask.1 htask.2 h))

end GcToolKit.App
