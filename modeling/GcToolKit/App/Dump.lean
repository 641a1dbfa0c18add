import GcToolKit.App.CopyLoop

/-!
# Physical dumps are exact

`dump_device_phys` from the state that `setup_state` prepares: a header, the
copy loop, and for PSV the hash patched into the header. Whatever the reads and
writes come to, it returns, and a result that is no error leaves the header and
the whole device in the file.
-/

namespace GcToolKit.App

open ByteFile GcToolKit.Crypto GcToolKit.Cmd56 GcToolKit.Kern

variable {κ : Type} (digests : KernelDigests) (sha : StreamHash κ (Bytes 0x20))

/-! ## Preparing the state -/

theorem kOpenDevice_same (device : CString) (permission : UInt32) (w : World) :
    SameFiles w (App.kOpenDevice device permission w).2 := by
  rcases kOpenDevice_cases device permission w with
    ⟨r, -, hcall⟩ | ⟨dev, w', -, -, hcall, -, hasked⟩
  · rw [hcall]
    exact (Asked.failed w).same
  · rw [hcall]
    exact hasked.same

/-- A handle starts at the beginning of its device; a failed open gives none. -/
theorem kOpenDevice_position {device : CString} {permission : UInt32} {w w' : World}
    {fd : SceUID} (h : App.kOpenDevice device permission w = (fd, w')) :
    ∀ device' q, w'.device? fd = some (device', q) → device' = device ∧ q = 0 := by
  intro device' q hfd
  rcases kOpenDevice_cases device permission w with
    ⟨r, hneg, hcall⟩ | ⟨dev, w'', -, -, hcall, hfd', -⟩
  · rw [h] at hcall
    cases hcall
    exact absurd hneg (device?_valid hfd)
  · rw [h] at hcall
    cases hcall
    rw [hfd] at hfd'
    cases hfd'
    exact ⟨rfl, rfl⟩

theorem kReadDevice_same (fd : SceUID) (size : Nat) (w : World) :
    SameFiles w (App.kReadDevice fd size w).2 := by
  rcases kReadDevice_cases fd size w with
    ⟨r, hr, hcall⟩ | ⟨device, pos, dev, n, w', -, -, -, hcall, -, hasked⟩
  · rw [hcall]
    exact (Asked.failed w).same
  · rw [hcall]
    exact hasked.same

/-- The size is that of the device, or what was at the pointer is still there. -/
theorem getDeviceSize_cases (device : CString) (size : Nat) (w : World) :
    (∃ r < 0, ∃ n, getDeviceSize device size w = (r, size, { w with tick := w.tick + n })) ∨
      ∃ dev, w.devices device = some dev ∧ 0 < w.outcomes w.tick ∧
        0 ≤ w.outcomes (w.tick + 1) ∧
        getDeviceSize device size w =
          (w.outcomes (w.tick + 1), dev.content.length, { w with tick := w.tick + 2 }) := by
  have hfailed : kernelModuleFailedStart < 0 := by decide
  have hmissing : enodev < 0 := by decide
  unfold getDeviceSize isModuleStarted kGetDeviceSize World.outcome
  dsimp only
  by_cases hstarted : 0 < w.outcomes w.tick
  · rw [if_neg (by simpa using hstarted)]
    by_cases hneg : w.outcomes (w.tick + 1) < 0
    · rw [if_pos hneg]
      exact Or.inl ⟨_, hneg, 2, rfl⟩
    · rw [if_neg hneg]
      cases hdev : w.devices device with
      | none => exact Or.inl ⟨_, hmissing, 2, rfl⟩
      | some dev => exact Or.inr ⟨dev, rfl, hstarted, not_lt.mp hneg, rfl⟩
  · rw [if_pos (by simpa using hstarted)]
    exact Or.inl ⟨_, hfailed, 1, rfl⟩

theorem getDeviceSize_same (device : CString) (size : Nat) (w : World) :
    SameFiles w (getDeviceSize device size w).2.2 := by
  rcases getDeviceSize_cases device size w with ⟨r, -, n, hcall⟩ | ⟨dev, -, -, -, hcall⟩
  · rw [hcall]
    exact ⟨rfl, rfl, rfl, rfl⟩
  · rw [hcall]
    exact ⟨rfl, rfl, rfl, rfl⟩

theorem getTrimmedSize_same (device : CString) (size : Nat) (w : World) :
    SameFiles w (getTrimmedSize device size w).2.2 := by
  unfold getTrimmedSize
  have hstarted := isModuleStarted_same w
  generalize isModuleStarted w = started at hstarted ⊢
  dsimp only
  split
  · exact hstarted
  · have hopen := kOpenDevice_same device (oRdonly ||| oRdlock) started.2
    generalize App.kOpenDevice device (oRdonly ||| oRdlock) started.2 = opened at hopen ⊢
    split
    · exact hstarted.trans hopen
    · have hread := kReadDevice_same opened.1 sectorSize opened.2
      generalize App.kReadDevice opened.1 sectorSize opened.2 = mbr at hread ⊢
      have hclosed : SameFiles w (App.kCloseDevice opened.1 mbr.2).2 :=
        (hstarted.trans (hopen.trans hread)).trans ⟨rfl, rfl, rfl, rfl⟩
      split
      · exact hclosed
      · exact hclosed.trans (getDeviceSize_same ..)

theorem getEffectiveSize_same (device : CString) (format : BackupFormat) (size : Nat) (w : World) :
    SameFiles w (getEffectiveSize device format size w).2.2 := by
  unfold getEffectiveSize
  cases format with
  | vci | psv | raw => exact getDeviceSize_same device size w
  | vciTrim | psvTrim => exact getTrimmedSize_same device size w

theorem setupState_same (device path : CString) (format : BackupFormat) (keys : Option Cmd56Keys)
    (netInfo : Option NetworkInfo) (w : World) :
    SameFiles w (setupState sha device path format keys netInfo w).2.2 := by
  unfold setupState BackupState.start
  dsimp only
  have hsize := getDeviceSize_same device 0 w
  generalize getDeviceSize device 0 w = sized at hsize ⊢
  split
  · exact hsize
  · have htrim := getTrimmedSize_same device 0 sized.2.2
    generalize getTrimmedSize device 0 sized.2.2 = trimmed at htrim ⊢
    split
    · exact hsize.trans htrim
    · have heffective := getEffectiveSize_same device format 0 trimmed.2.2
      generalize getEffectiveSize device format 0 trimmed.2.2 = effective at heffective ⊢
      split
      · exact hsize.trans (htrim.trans heffective)
      · exact hsize.trans (htrim.trans heffective)

/-- A size that was got without an error is the size of the device. -/
theorem getDeviceSize_spec {device : CString} {size size' : Nat} {w w' : World} {res : Int}
    {dev : BlockDevice} (hdev : w.devices device = some dev)
    (h : getDeviceSize device size w = (res, size', w')) (hres : 0 ≤ res) :
    size' = dev.content.length := by
  rcases getDeviceSize_cases device size w with ⟨r, hneg, n, hcall⟩ | ⟨dev', hdev', -, -, hcall⟩
  · rw [h] at hcall
    cases hcall
    exact absurd hres (not_le.mpr hneg)
  · rw [h] at hcall
    cases hcall
    rw [hdev] at hdev'
    cases hdev'
    rfl

theorem subU64_addU64 {n : Nat} (hn : n < 2 ^ 63) (k : Nat) : subU64 (addU64 n k) k = n := by
  unfold subU64 addU64
  omega

theorem subU64_zero {n : Nat} (hn : n < 2 ^ 63) : subU64 n 0 = n := by
  unfold subU64
  omega

/-- For a format that is not trimmed, what is left to read is the device. -/
theorem getEffectiveSize_spec {device : CString} {format : BackupFormat} {size size' : Nat}
    {w w' : World} {res : Int} {dev : BlockDevice} (hfull : fmtIsTrim format = false)
    (hdev : w.devices device = some dev)
    (h : getEffectiveSize device format size w = (res, size', w')) (hres : 0 ≤ res) :
    subU64 size' (getHeaderSize format) = dev.content.length := by
  unfold getEffectiveSize at h
  cases hsize : getDeviceSize device size w with
  | mk res' r =>
    rcases r with ⟨size'', w''⟩
    have hlen := getDeviceSize_spec hdev hsize
    dsimp only at h
    rw [hsize] at h
    cases format with
    | vci | psv =>
      simp only [Prod.mk.injEq] at h
      rcases h with ⟨rfl, rfl, -⟩
      rw [hlen hres]
      exact subU64_addU64 dev.size_lt _
    | raw =>
      simp only [Prod.mk.injEq] at h
      rcases h with ⟨rfl, rfl, -⟩
      rw [hlen hres]
      exact subU64_zero dev.size_lt
    | vciTrim | psvTrim => cases hfull

/-- A state ready for the dump of the whole of `dev`. -/
structure Prepared (device path : CString) (format : BackupFormat) (keys : Option Cmd56Keys)
    (netInfo : Option NetworkInfo) (dev : BlockDevice) (state : BackupState κ) : Prop where
  blockDevice : state.blockDevice = device
  outputPath : state.outputPath = path
  total : state.total = 0
  deviceSize : state.deviceSize = dev.content.length
  toRead : subU64 state.effectiveSize state.headerSize = dev.content.length
  shaCtx : state.shaCtx = if fmtIsPsv format then some sha.init else none
  format : state.format = format
  keys : state.keys = keys
  netInfo : state.netInfo = netInfo

theorem setupState_prepares {device path : CString} {format : BackupFormat}
    {keys : Option Cmd56Keys} {netInfo : Option NetworkInfo} {w w' : World} {res : Int}
    {state : BackupState κ} {dev : BlockDevice} (hfull : fmtIsTrim format = false)
    (hdev : w.devices device = some dev)
    (h : setupState sha device path format keys netInfo w = (res, state, w')) (hres : 0 ≤ res) :
    Prepared sha device path format keys netInfo dev state ∧ state.wrFd = 0 := by
  unfold setupState at h
  cases hsize : getDeviceSize device 0 w with
  | mk res₁ r₁ =>
    rcases r₁ with ⟨size₁, w₁⟩
    have hsame₁ := getDeviceSize_same device 0 w
    have hlen₁ := getDeviceSize_spec hdev hsize
    rw [hsize] at hsame₁
    dsimp only [BackupState.start] at h
    rw [hsize] at h
    dsimp only at h
    split at h
    · next hneg =>
      cases h
      exact absurd hres (by omega)
    · next hnonneg₁ =>
      cases htrim : getTrimmedSize device 0 w₁ with
      | mk res₂ r₂ =>
        rcases r₂ with ⟨size₂, w₂⟩
        -- the trimmed size is asked for in every format, and not used in this one
        have hsame₂ := getTrimmedSize_same device 0 w₁
        rw [htrim] at h hsame₂
        dsimp only at h
        split at h
        · next hneg =>
          cases h
          exact absurd hres (by omega)
        · have hdev₂ : w₂.devices device = some dev := by
            rw [hsame₂.devices, hsame₁.devices]
            exact hdev
          cases heff : getEffectiveSize device format 0 w₂ with
          | mk res₃ r₃ =>
            rcases r₃ with ⟨size₃, w₃⟩
            have hread := getEffectiveSize_spec hfull hdev₂ heff
            rw [heff] at h
            dsimp only at h
            split at h
            · next hneg =>
              cases h
              exact absurd hres (by omega)
            · cases h
              exact ⟨⟨rfl, rfl, rfl, hlen₁ (by omega), hread hres, rfl, rfl, rfl, rfl⟩, rfl⟩

/-! ## The header -/

/-- The header as it is first written. -/
def initialHeader (x : AuthEmu) (deviceSize : Nat) (keys : Cmd56Keys) : BackupFormat → List UInt8
  | .vci | .vciTrim => (vciHeader deviceSize keys).toBytes
  | .psv | .psvTrim =>
    (psvHeader (kGetSecret digests x) (kGetHash digests x) deviceSize).toBytes
  | .raw => []

/-- The header of a finished backup. -/
def backupHeader (x : AuthEmu) (content : List UInt8) (keys : Cmd56Keys) :
    BackupFormat → List UInt8
  | .vci | .vciTrim => (vciHeader content.length keys).toBytes
  | .psv | .psvTrim =>
    { psvHeader (kGetSecret digests x) (kGetHash digests x) content.length with
      allSectorsSha256 := sha.digest content }.toBytes
  | .raw => []

theorem wholeWrite_nonneg {wr : Int} {size : Nat} (h : 0 ≤ wholeWrite wr size) : wr = size := by
  unfold wholeWrite at h
  split at h
  · exact absurd h (by decide)
  · split at h
    · exact absurd h (by omega)
    · split at h
      · exact absurd h (by decide)
      · next heq => exact not_not.mp heq

/-- `path` is open at `pos` and holds `content`. -/
structure Writing (fd : SceUID) (path : CString) (pos : Nat) (content : List UInt8)
    (w : World) : Prop where
  file : w.files path = some content
  position : w.file? fd = some (path, pos)

theorem sceIoOpen_truncates {path : CString} {w w' : World} {fd : SceUID}
    (h : sceIoOpen path (oWronly ||| oCreat ||| oTrunc) w = (fd, w')) (hfd : 0 ≤ fd) :
    Writing fd path 0 [] w' ∧ SameDevices w w' := by
  have htrunc : (oWronly ||| oCreat ||| oTrunc) &&& oTrunc ≠ 0 := by decide
  rcases sceIoOpen_cases path (oWronly ||| oCreat ||| oTrunc) w with
    ⟨r, hneg, hcall⟩ | ⟨w'', hcall, hopened⟩
  · rw [h] at hcall
    cases hcall
    exact absurd hneg (not_lt.mpr hfd)
  · rw [h] at hcall
    cases hcall
    refine ⟨⟨?_, hopened.position⟩, hopened.same⟩
    rw [hopened.files, Function.update_self, if_pos htrunc]

/-- A whole write to the empty file puts `data` there. -/
theorem sceIoWrite_whole {fd : SceUID} {path : CString} {data : List UInt8} {w w' : World}
    {wr : Int} (hopen : Writing fd path 0 [] w) (h : sceIoWrite fd data w = (wr, w'))
    (hwr : wr = data.length) : Writing fd path data.length data w' ∧ SameDevices w w' := by
  rcases sceIoWrite_stores hopen.position hopen.file h (by omega) with
    ⟨n, -, hn, hsame, hfile, hpos⟩
  obtain rfl : n = data.length := by omega
  have hcontent : writeAt [] 0 (data.take data.length) = data := by
    rw [List.take_length]
    exact writeAt_end [] data
  rw [hcontent] at hfile
  rw [Nat.zero_add] at hpos
  exact ⟨⟨hfile, hpos⟩, hsame⟩

/-- A header that was written without an error is in the file. -/
theorem createHeader_writes {state : BackupState κ} {path : CString} {keys : Cmd56Keys}
    {w : World}
    (hkeys : state.keys = if ¬ fmtIsRaw state.format then some keys else none)
    (hopen : Writing state.wrFd path 0 [] w) :
    ∃ res w', createHeader digests sceIoWrite state w = some (res, w') ∧
      (0 ≤ res → SameDevices w w' ∧
        Writing state.wrFd path
          (initialHeader digests w.kernel state.deviceSize keys state.format).length
          (initialHeader digests w.kernel state.deviceSize keys state.format) w') := by
  have hvci (hformat : ¬ fmtIsRaw state.format) :
      ∃ res w', createVciHeader sceIoWrite state w = some (res, w') ∧
        (0 ≤ res → SameDevices w w' ∧
          Writing state.wrFd path (vciHeader state.deviceSize keys).toBytes.length
            (vciHeader state.deviceSize keys).toBytes w') := by
    unfold createVciHeader
    rw [hkeys, if_pos hformat]
    refine ⟨_, _, rfl, fun hres => ?_⟩
    have hwhole := wholeWrite_nonneg hres
    rw [← VciHeader.length_toBytes (vciHeader state.deviceSize keys)] at hwhole
    rcases sceIoWrite_whole hopen rfl hwhole with ⟨hwriting, hsame⟩
    exact ⟨hsame, hwriting⟩
  have hpsv : ∃ res w', some (createPsvHeader digests sceIoWrite state w) = some (res, w') ∧
      (0 ≤ res → SameDevices w w' ∧
        Writing state.wrFd path
          (psvHeader (kGetSecret digests w.kernel) (kGetHash digests w.kernel)
            state.deviceSize).toBytes.length
          (psvHeader (kGetSecret digests w.kernel) (kGetHash digests w.kernel)
            state.deviceSize).toBytes w') := by
    unfold createPsvHeader
    refine ⟨_, _, rfl, fun hres => ?_⟩
    have hwhole := wholeWrite_nonneg hres
    rw [← PsvHeader.length_toBytes (psvHeader (kGetSecret digests w.kernel)
      (kGetHash digests w.kernel) state.deviceSize)] at hwhole
    rcases sceIoWrite_whole hopen rfl hwhole with ⟨hwriting, hsame⟩
    exact ⟨hsame, hwriting⟩
  -- a trimmed format writes its full sibling's header, and raw writes none
  unfold createHeader
  cases hformat : state.format with
  | vci => exact hvci (by rw [hformat]; decide)
  | vciTrim => exact hvci (by rw [hformat]; decide)
  | psv => exact hpsv
  | psvTrim => exact hpsv
  | raw => exact ⟨0, w, rfl, fun _ => ⟨⟨rfl, rfl, rfl⟩, hopen⟩⟩

/-! ## The patch -/

theorem sceIoLseek_seeks {fd : SceUID} {path : CString} {pos offset : Nat}
    {content : List UInt8} {w w' : World} (hwriting : Writing fd path pos content w)
    (h : sceIoLseek fd offset w = ((offset : Int), w')) : Writing fd path offset content w' := by
  rcases sceIoLseek_cases fd offset w with
    ⟨r, hneg, hcall⟩ | ⟨path', pos', w'', hfd, hcall, hfiles, hfd', -⟩
  · rw [h] at hcall
    cases hcall
    omega
  · rw [hwriting.position] at hfd
    cases hfd
    rw [h] at hcall
    cases hcall
    refine ⟨?_, hfd'⟩
    rw [hfiles]
    exact hwriting.file

/-- The hash takes the place of the placeholder. -/
theorem finalizePsvHeader_patches {state : BackupState κ} {ctx : κ} {path : CString} {pos : Nat}
    {psv : PsvHeader} {rest : List UInt8} {w w' : World} {res : Int}
    (hsha : state.shaCtx = some ctx) (hnet : state.netInfo = none)
    (hwriting : Writing state.wrFd path pos (psv.toBytes ++ rest) w)
    (h : finalizePsvHeader sha state w = (res, w')) (hres : 0 ≤ res) :
    w'.files path = some ({ psv with allSectorsSha256 := sha.final ctx }.toBytes ++ rest) := by
  have hvalid : state.wrFd ≥ 0 := not_lt.mp (file?_valid hwriting.position)
  unfold finalizePsvHeader at h
  rw [hsha] at h
  dsimp only at h
  rw [if_pos hvalid, hnet] at h
  dsimp only at h
  cases hseek : sceIoLseek state.wrFd PsvHeader.allSectorsSha256Offset w with
  | mk seek w₁ =>
    rw [hseek] at h
    dsimp only at h
    split at h
    · next heq =>
      subst heq
      have hwriting₁ := sceIoLseek_seeks hwriting hseek
      cases hwrite : sceIoWrite state.wrFd (sha.final ctx).toList w₁ with
      | mk wr w₂ =>
        rw [hwrite] at h
        cases h
        -- an answer that is no error is a whole hash written
        have hwr := wholeWrite_nonneg hres
        have hlen : (sha.final ctx).toList.length = 0x20 := Vector.length_toList
        rcases sceIoWrite_stores hwriting₁.position hwriting₁.file hwrite (by omega) with
          ⟨n, -, hn, -, hfile, -⟩
        have hall : (sha.final ctx).toList.take n = (sha.final ctx).toList :=
          List.take_of_length_le (by omega)
        rw [hall, PsvHeader.writeAt_toBytes] at hfile
        exact hfile
    · cases h
      exact absurd hres (by decide)

/-! ## The way out -/

theorem physExit_res (res : Int) (state : BackupState κ) (w : World) :
    (physExit res state w).1 = res := rfl

/-- Without an error the files stay. -/
theorem physExit_files {res : Int} (hres : 0 ≤ res) (state : BackupState κ) (w : World) :
    (physExit res state w).2.files = w.files := by
  unfold physExit
  dsimp only
  rw [if_neg (not_lt.mpr hres)]
  split <;> split <;> rfl

/-! ## The dump -/

section Phys

variable {device path : CString} {format : BackupFormat} {keys : Cmd56Keys} {dev : BlockDevice}
  {start : BackupState κ} {w : World} (fuel : Nat)

/-- The invariant of the copy holds when the header is written. -/
theorem copyInv_start {header : List UInt8} {keys : Option Cmd56Keys}
    (hready : Prepared sha device path format keys none dev start)
    (hdev : w.devices device = some dev)
    (hpos : ∀ device' q, w.device? start.rdFd = some (device', q) → device' = device ∧ q = 0)
    (hwriting : Writing start.wrFd path header.length header w) :
    CopyInv sha start w.kernel dev header (start, w) 0 [] := by
  have hsha : (start.shaCtx.map fun _ => sha.absorbed (dev.content.take 0)) = start.shaCtx := by
    rw [hready.shaCtx, List.take_zero, StreamHash.absorbed_nil]
    split <;> rfl
  constructor
  · rfl
  · rw [hready.blockDevice]
    exact hdev
  · rw [hready.blockDevice]
    exact hpos
  · rw [hready.outputPath]
    exact hwriting.position
  · rw [hready.outputPath, List.append_nil]
    exact hwriting.file
  · exact Nat.le_refl _
  · exact Nat.zero_le _
  · intro _
    rfl
  · rw [hsha, List.length_nil, ← hready.total]

/-- After a complete copy the header gets its final form. -/
theorem physFinish_exact {state : BackupState κ} {w' : World} {p : Nat} {written : List UInt8}
    {x : AuthEmu}
    (hready : Prepared sha device path format (if ¬ fmtIsRaw format then some keys else none)
      none dev start)
    (hinv : CopyInv sha start x dev
      (initialHeader digests x dev.content.length keys format) (state, w') p written)
    (hlen : dev.content.length ≤ written.length) {out : Int × World}
    (hout : physFinish sha 0 state w' = out) (hres : 0 ≤ out.1) :
    out.2.files path =
      some (backupHeader digests sha x dev.content keys format ++ dev.content) := by
  rcases hinv.complete hlen with ⟨rfl, rfl⟩
  have hstate := hinv.state
  dsimp only at hstate
  rw [List.take_length] at hstate
  have hformat : state.format = format := by
    rw [hstate]
    exact hready.format
  have hnet : state.netInfo = none := by
    rw [hstate]
    exact hready.netInfo
  have hwrFd : state.wrFd = start.wrFd := by rw [hstate]
  have hfile := hinv.file
  have hwrPos := hinv.wrPos
  dsimp only at hfile hwrPos
  rw [hready.outputPath] at hfile hwrPos
  subst hout
  unfold physFinish at hres ⊢
  rw [if_neg (by decide), hformat] at hres ⊢
  by_cases hpsv : fmtIsPsv format = true
  · rw [if_pos hpsv] at hres ⊢
    have hsha : state.shaCtx = some (sha.absorbed dev.content) := by
      rw [hstate]
      dsimp only
      rw [hready.shaCtx, if_pos hpsv]
      rfl
    -- the patched hash is over all the content, so the header becomes the backup's
    cases hfinal : finalizePsvHeader sha state w' with
    | mk res₁ w₁ =>
      rw [hfinal] at hres
      dsimp only at hres ⊢
      rw [physExit_res] at hres
      rw [physExit_files hres]
      have hwriting : Writing state.wrFd path _ _ w' := ⟨hfile, by rw [hwrFd]; exact hwrPos⟩
      cases format with
      | psv | psvTrim =>
        exact finalizePsvHeader_patches sha hsha hnet hwriting hfinal hres
      | vci | vciTrim | raw => cases hpsv
  · rw [if_neg hpsv, physExit_files (Int.le_refl 0), hfile]
    cases format with
    | vci | vciTrim | raw => rfl
    | psv | psvTrim => exact absurd rfl hpsv

/-- The header, the copy and the patch: a result within as many passes as the
device has bytes, and without an error the whole backup. -/
theorem physCopy_exact
    (hready : Prepared sha device path format (if ¬ fmtIsRaw format then some keys else none)
      none dev start)
    (hdev : w.devices device = some dev)
    (hpos : ∀ device' q, w.device? start.rdFd = some (device', q) → device' = device ∧ q = 0)
    (hopen : Writing start.wrFd path 0 [] w) :
    (dev.content.length < fuel → ∃ out, physCopy digests sha fuel start w = some out) ∧
      ∀ out, physCopy digests sha fuel start w = some out → 0 ≤ out.1 →
        out.2.files path =
          some (backupHeader digests sha w.kernel dev.content keys format ++ dev.content) := by
  have hkeys : start.keys = if ¬ fmtIsRaw start.format then some keys else none := by
    rw [hready.format]
    exact hready.keys
  rcases createHeader_writes digests hkeys hopen with ⟨res, w₁, hheader, hwritten⟩
  rw [hready.format, hready.deviceSize] at hwritten
  unfold physCopy
  rw [hheader, Option.bind_some]
  dsimp only
  by_cases hneg : res < 0
  · -- the error of the header is the result
    rw [if_pos hneg]
    refine ⟨fun _ => ⟨_, rfl⟩, fun out hout hres => ?_⟩
    cases hout
    rw [physExit_res] at hres
    exact absurd hneg (not_lt.mpr hres)
  · rw [if_neg hneg]
    rcases hwritten (not_lt.mp hneg) with ⟨hsame, hwriting⟩
    have hdev₁ : w₁.devices device = some dev := by
      rw [hsame.devices]
      exact hdev
    have hpos₁ : ∀ device' q, w₁.device? start.rdFd = some (device', q) →
        device' = device ∧ q = 0 := by
      rw [hsame.device?]
      exact hpos
    have hinv := copyInv_start sha hready hdev₁ hpos₁ hwriting
    rw [hsame.kernel] at hinv
    refine ⟨fun hfuel => ?_, fun out hout hres => ?_⟩
    · rcases deviceAccessLoop_returns hinv (by rw [hready.toRead]; exact hfuel) with ⟨r, hloop⟩
      rw [hloop]
      exact ⟨_, rfl⟩
    · rcases Option.map_eq_some_iff.mp hout with ⟨⟨res₂, state, w₂⟩, hloop, hfinish⟩
      dsimp only at hfinish
      by_cases hneg₂ : res₂ < 0
      · -- nothing is patched behind a loop that failed
        unfold physFinish at hfinish
        rw [if_pos hneg₂] at hfinish
        subst hfinish
        rw [physExit_res] at hres
        exact absurd hneg₂ (not_lt.mpr hres)
      · rcases deviceAccessLoop_copies hinv hloop (not_lt.mp hneg₂) with
          ⟨rfl, p, written, hinv₂, hlen⟩
        rw [hready.toRead] at hlen
        exact physFinish_exact digests sha hready hinv₂ hlen hfinish hres

end Phys

/-- From a prepared state, with the device not open yet. -/
theorem dumpDevicePhys_exact {device path : CString} {format : BackupFormat} {keys : Cmd56Keys}
    {dev : BlockDevice} {state : BackupState κ} {w : World} (fuel : Nat)
    (hready : Prepared sha device path format (if ¬ fmtIsRaw format then some keys else none)
      none dev state)
    (hdev : w.devices device = some dev) (hwrFd : state.wrFd = 0) :
    (dev.content.length < fuel → ∃ out, dumpDevicePhys digests sha fuel state w = some out) ∧
      ∀ out, dumpDevicePhys digests sha fuel state w = some out → 0 ≤ out.1 →
        out.2.files path =
          some (backupHeader digests sha w.kernel dev.content keys format ++ dev.content) := by
  obtain rfl := hready.blockDevice
  obtain rfl := hready.outputPath
  unfold dumpDevicePhys
  have hsame := kOpenDevice_same state.blockDevice (oRdonly ||| oRdlock) w
  cases hrd : App.kOpenDevice state.blockDevice (oRdonly ||| oRdlock) w with
  | mk rdFd w₁ =>
    rw [hrd] at hsame
    have hpos := kOpenDevice_position hrd
    dsimp only
    -- the test is on `wr_fd`, which is still 0
    rw [if_neg (by rw [hwrFd]; decide)]
    cases hwr : sceIoOpen state.outputPath (oWronly ||| oCreat ||| oTrunc) w₁ with
    | mk wrFd w₂ =>
      dsimp only
      by_cases hneg : wrFd < 0
      · rw [if_pos hneg]
        refine ⟨fun _ => ⟨_, rfl⟩, fun out hout hres => ?_⟩
        cases hout
        rw [physExit_res] at hres
        exact absurd hneg (not_lt.mpr hres)
      · rw [if_neg hneg]
        rcases sceIoOpen_truncates hwr (not_lt.mp hneg) with ⟨hopen, hdevices⟩
        -- the handles are no part of what was prepared
        have hready₂ : Prepared sha state.blockDevice state.outputPath format
            (if ¬ fmtIsRaw format then some keys else none) none dev
            { state with rdFd := rdFd, wrFd := wrFd } :=
          ⟨rfl, rfl, hready.total, hready.deviceSize, hready.toRead, hready.shaCtx,
            hready.format, hready.keys, hready.netInfo⟩
        have hdev₂ : w₂.devices state.blockDevice = some dev := by
          rw [hdevices.devices, hsame.devices]
          exact hdev
        have hpos₂ : ∀ device q, w₂.device? rdFd = some (device, q) →
            device = state.blockDevice ∧ q = 0 := by
          rw [hdevices.device?]
          exact hpos
        have hcopy := physCopy_exact digests sha fuel hready₂ hdev₂ hpos₂ hopen
        rw [hdevices.kernel, hsame.kernel] at hcopy
        exact hcopy

/-! ## do_device_dump -/

/-- The dump of a device to a file in a format that is not trimmed, whatever the
calls come to: it returns, and a result that is no error leaves the header and
the device in the file. -/
theorem doDeviceDump_exact {device : CString} (path : CString) {format : BackupFormat}
    {dev : BlockDevice} {w : World} (fuel : Nat) (hfull : fmtIsTrim format = false)
    (hdev : w.devices device = some dev) :
    (dev.content.length < fuel →
      ∃ out, doDeviceDump digests sha fuel device path format none w = some out) ∧
      ∀ out, doDeviceDump digests sha fuel device path format none w = some out → 0 ≤ out.1 →
        out.2.files path =
          some (backupHeader digests sha w.kernel dev.content (kGetPerCartKeys w.kernel) format ++
            dev.content) := by
  unfold doDeviceDump dumpDevice
  dsimp only [Option.map_none]
  have hstarted := isModuleStarted_same w
  generalize isModuleStarted w = started at hstarted ⊢
  by_cases hmodule : ¬ started.1 = true
  · rw [if_pos hmodule]
    refine ⟨fun _ => ⟨_, rfl⟩, fun out hout hres => ?_⟩
    cases hout
    exact absurd hres (show ¬ (0 : Int) ≤ kernelModuleFailedStart by decide)
  · rw [if_neg hmodule]
    have hdev₁ : started.2.devices device = some dev := by
      rw [hstarted.devices]
      exact hdev
    cases hsetup : setupState sha device path format
        (if ¬ fmtIsRaw format then some (kGetPerCartKeys w.kernel) else none) none started.2 with
    | mk res r =>
      rcases r with ⟨state, w₁⟩
      dsimp only
      by_cases hneg : res < 0
      · rw [if_pos hneg]
        refine ⟨fun _ => ⟨_, rfl⟩, fun out hout hres => ?_⟩
        cases hout
        exact absurd hneg (not_lt.mpr hres)
      · rw [if_neg hneg]
        have hsame := setupState_same sha device path format
          (if ¬ fmtIsRaw format then some (kGetPerCartKeys w.kernel) else none) none started.2
        rw [hsetup] at hsame
        -- setup leaves the device and its keys as they were, and the rest is one copy
        rcases setupState_prepares sha hfull hdev₁ hsetup (not_lt.mp hneg) with ⟨hready, hwrFd⟩
        have hdev₂ : w₁.devices device = some dev := by
          rw [hsame.devices]
          exact hdev₁
        have hphys := dumpDevicePhys_exact digests sha fuel hready hdev₂ hwrFd
        rw [hsame.kernel, hstarted.kernel] at hphys
        exact hphys

end GcToolKit.App
