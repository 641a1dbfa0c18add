import GcToolKit.App.Setup
import GcToolKit.App.WriteLoop

/-!
# Restoring and wiping a device (app/device.c)

Both functions jump to one label from every failure. What they have opened by
then differs, but the state starts with both handles 0, which the label takes
for open ones; and `restore_device` returns the handle of the image where the
device does not open. `Honest` is what a caller relies on, and it holds exactly
where nothing was begun or nothing fails before the loop.
-/

namespace GcToolKit.App

open ByteFile GcToolKit.Crypto GcToolKit.Cmd56
open GcToolKit.Kern (KernelDigests oRdonly oWronly gcdPrefix deviceWhitelistFailed WriteCapable)

variable {κ : Type} (sha : StreamHash κ (Bytes 0x20))

/-! ## The functions -/

def oWrlock : UInt32 := 0x20

def getFileSize (filepath : CString) (w : World) : Nat × World :=
  let (res, size, w) := sceIoGetstat filepath w
  (if res ≥ 0 then size else 0, w)

/-- `DEVICE_WHITELIST_CHECK` returns when this holds. -/
def deviceWhitelistCheck (dev : CString) : Bool := dev.bytes.take 11 != gcdPrefix.toList

inductive Handle where
  | file (fd : SceUID)
  | device (fd : SceUID)

/-- A call that gave a handle. -/
structure Opening where
  handle : Handle
  path : CString
  flags : UInt32

/-- The result of a call with the handles it opened and closed itself, and the
state when the loop was left, if it was entered. -/
structure Handled (κ : Type) where
  ret : Int
  opened : List Opening
  closed : List Handle
  looped : Option (BackupState κ × World)
  world : World

/-- A return before the label. -/
def Handled.refused (ret : Int) (w : World) : Handled κ := ⟨ret, [], [], none, w⟩

/-- What follows the label `error` in `restore_device`. -/
def restoreExit (res : Int) (opened : List Opening) (looped : Option (BackupState κ × World))
    (state : BackupState κ) (w : World) : Handled κ :=
  let w := if state.rdFd ≥ 0 then (sceIoClose state.rdFd w).2 else w
  let w := if state.wrFd ≥ 0 then (kCloseDevice state.wrFd w).2 else w
  { ret := res
    opened := opened
    closed := (if state.rdFd ≥ 0 then [.file state.rdFd] else []) ++
      (if state.wrFd ≥ 0 then [.device state.wrFd] else [])
    looped := looped
    world := w }

/-- What both functions begin with. -/
def checked (blockDevice : CString) (w : World) (k : World → Option (Handled κ)) :
    Option (Handled κ) :=
  let (started, w) := isModuleStarted w
  if ¬ started then some (.refused kernelModuleFailedStart w)
  else if deviceWhitelistCheck blockDevice then some (.refused deviceWhitelistFailed w)
  else k w

/-- `restore_device` from the opening of the image on. -/
def restoreImage (fuel : Nat) (blockDevice inputData : CString) (state : BackupState κ)
    (w : World) : Option (Handled κ) :=
  let (rdFd, w) := sceIoOpen inputData oRdonly w
  let state := { state with rdFd := rdFd }
  if state.rdFd < 0 then some (restoreExit state.rdFd [] none state w)
  else
    let opened : List Opening := [⟨.file rdFd, inputData, oRdonly⟩]
    let (wrFd, w) := kOpenDevice blockDevice (oWronly ||| oWrlock) w
    let state := { state with wrFd := wrFd }
    -- the handle of the image is returned, not the error
    if state.wrFd < 0 then some (restoreExit state.rdFd opened none state w)
    else
      let opened := opened ++ [⟨.device wrFd, blockDevice, oWronly ||| oWrlock⟩]
      (deviceAccessLoop sha readDataFromImage kWriteDevice fuel state w).map
        fun (res, state, w) => restoreExit res opened (some (state, w)) state w

def restoreDevice (fuel : Nat) (blockDevice inputData : CString) (w : World) :
    Option (Handled κ) :=
  checked blockDevice w fun w =>
  let (res, state, w) := setupState sha blockDevice inputData .raw none none w
  if res < 0 then some (restoreExit res [] none state w)
  else
    let (fileSize, w) := getFileSize inputData w
    if state.effectiveSize < fileSize then some (restoreExit sizeNoSpace [] none state w)
    else restoreImage sha fuel blockDevice inputData state w

/-- "the void" -/
def theVoid : CString := CString.ofBytes [0x74, 0x68, 0x65, 0x20, 0x76, 0x6F, 0x69, 0x64]

/-- What follows the label `error` in `wipe_device`. -/
def wipeExit (res : Int) (opened : List Opening) (looped : Option (BackupState κ × World))
    (state : BackupState κ) (w : World) : Handled κ :=
  let w := if state.wrFd ≥ 0 then (kCloseDevice state.wrFd w).2 else w
  { ret := res
    opened := opened
    closed := if state.wrFd ≥ 0 then [.device state.wrFd] else []
    looped := looped
    world := w }

def wipeDevice (fuel : Nat) (blockDevice : CString) (w : World) : Option (Handled κ) :=
  checked blockDevice w fun w =>
  let (res, state, w) := setupState sha blockDevice theVoid .raw none none w
  if res < 0 then some (wipeExit res [] none state w)
  else
    let (wrFd, w) := kOpenDevice blockDevice (oWronly ||| oWrlock) w
    let state := { state with wrFd := wrFd }
    if state.wrFd < 0 then some (wipeExit state.wrFd [] none state w)
    else
      let opened : List Opening := [⟨.device wrFd, blockDevice, oWronly ||| oWrlock⟩]
      (deviceAccessLoop sha readNull kWriteDevice fuel state w).map
        fun (res, state, w) => wipeExit res opened (some (state, w)) state w

/-! ## What a caller relies on -/

/-- A result that is no error comes with the device open for writing and all of
it written, and only handles of this call are closed. -/
structure Honest (device : CString) (w : World) (h : Handled κ) : Prop where
  written : 0 ≤ h.ret → ∃ state w', h.looped = some (state, w') ∧
    (∃ o ∈ h.opened, o.handle = .device state.wrFd ∧ o.path = device ∧ WriteCapable o.flags) ∧
    ∃ dev, w.devices device = some dev ∧ dev.content.length ≤ state.total ∧
      w'.device? state.wrFd = some (device, state.total)
  closes : ∀ handle ∈ h.closed, ∃ o ∈ h.opened, o.handle = handle

/-- Nothing was begun. -/
theorem refused_honest (device : CString) (w w' : World) {ret : Int} (hret : ret < 0) :
    Honest device w (.refused ret w' : Handled κ) := by
  constructor
  · intro hnonneg
    exact absurd hret (not_lt.mpr hnonneg)
  · intro handle hmem
    cases hmem

/-- A label reached before the device was opened closes the handle 0. -/
theorem wipeExit_not_honest {device : CString} {w w' : World} {res : Int}
    (state : BackupState κ) (hwrFd : state.wrFd = 0) :
    ¬ Honest device w (wipeExit res [] none state w') := by
  intro h
  have hclosed : Handle.device state.wrFd ∈ (wipeExit res [] none state w').closed := by
    unfold wipeExit
    dsimp only
    rw [if_pos (Int.le_of_eq hwrFd.symm)]
    exact List.mem_singleton.mpr rfl
  rcases h.closes _ hclosed with ⟨o, ho, -⟩
  cases ho

theorem restoreExit_not_honest {device : CString} {w w' : World} {res : Int}
    (state : BackupState κ) (hwrFd : state.wrFd = 0) :
    ¬ Honest device w (restoreExit res [] none state w') := by
  intro h
  have hclosed : Handle.device state.wrFd ∈ (restoreExit res [] none state w').closed := by
    unfold restoreExit
    dsimp only
    have hvalid : state.wrFd ≥ 0 := Int.le_of_eq hwrFd.symm
    rw [if_pos hvalid]
    exact List.mem_append_right _ (List.mem_singleton.mpr rfl)
  rcases h.closes _ hclosed with ⟨o, ho, -⟩
  cases ho

/-! ## Up to the sizes, and the loop -/

/-- Every run of `f` ends, and what it ends with has `P` exactly where `Q` holds. -/
def Settles (f : Nat → Option (Handled κ)) (P : Handled κ → Prop) (Q : Prop) : Prop :=
  (∃ fuel h, f fuel = some h) ∧ ∀ fuel h, f fuel = some h → (P h ↔ Q)

/-- A result that does not depend on the passes. -/
theorem Settles.atOnce {f : Nat → Option (Handled κ)} {r : Handled κ} {P : Handled κ → Prop}
    {Q : Prop} (hf : ∀ fuel, f fuel = some r) (hiff : P r ↔ Q) : Settles f P Q := by
  constructor
  · exact ⟨0, r, hf 0⟩
  · intro fuel h heq
    rw [hf fuel] at heq
    cases heq
    exact hiff

/-- Nothing is begun where the module does not run or the device is refused. -/
theorem checked_settles {device : CString} {w : World} {k : Nat → World → Option (Handled κ)}
    {Q : Prop} (hk : ∀ w', Asked 1 w w' → Settles (fun fuel => k fuel w') (Honest device w) Q) :
    Settles (fun fuel => checked device w (k fuel)) (Honest device w)
      (w.outcomes w.tick ≤ 0 ∨ deviceWhitelistCheck device = true ∨ Q) := by
  -- both early returns leave before anything is opened
  by_cases hstarted : 0 < w.outcomes w.tick
  · rcases isModuleStarted_started hstarted with ⟨w', hmodule, hasked⟩
    by_cases hrefused : deviceWhitelistCheck device = true
    · refine Settles.atOnce (r := .refused deviceWhitelistFailed w') ?_ ?_
      · intro fuel
        unfold checked
        rw [hmodule]
        dsimp only
        rw [if_neg (by decide), if_pos hrefused]
      · exact iff_of_true (refused_honest device w w' (by decide)) (Or.inr (Or.inl hrefused))
    · have hpassed : ∀ fuel, checked device w (k fuel) = k fuel w' := by
        intro fuel
        unfold checked
        rw [hmodule]
        dsimp only
        rw [if_neg (by decide), if_neg hrefused]
      have hiff : (w.outcomes w.tick ≤ 0 ∨ deviceWhitelistCheck device = true ∨ Q) ↔ Q := by
        constructor
        · rintro (hstopped | hrefused' | hQ)
          · exact absurd hstarted (by omega)
          · exact absurd hrefused' hrefused
          · exact hQ
        · intro hQ
          exact Or.inr (Or.inr hQ)
      simp only [hpassed, hiff]
      exact hk w' hasked
  · refine Settles.atOnce (r := .refused kernelModuleFailedStart { w with tick := w.tick + 1 })
      ?_ ?_
    · intro fuel
      unfold checked isModuleStarted World.outcome
      dsimp only
      rw [decide_eq_false hstarted, if_pos (by decide)]
    · exact iff_of_true (refused_honest device w _ (by decide)) (Or.inl (not_lt.mp hstarted))

theorem oWronly_writeCapable : WriteCapable (oWronly ||| oWrlock) :=
  ⟨oWronly, List.mem_cons_self .., by decide⟩

/-- A state in which the loop is entered: the device is open at its start. -/
structure Entered (device : CString) (dev : BlockDevice) (state : BackupState κ) (w : World) :
    Prop where
  there : w.devices device = some dev
  position : w.device? state.wrFd = some (device, 0)
  total : state.total = 0
  toRead : subU64 state.effectiveSize state.headerSize = dev.content.length

theorem Entered.fillInv {device : CString} {dev : BlockDevice} {state : BackupState κ} {w : World}
    (h : Entered device dev state w) : FillInv state device dev.content.length (state, w) := by
  constructor
  · rfl
  · dsimp only
    rw [h.position, h.total]
  · exact ⟨dev, h.there, rfl⟩
  · dsimp only
    rw [h.total]
    exact Nat.zero_le _

/-- From the loop on everything is as a caller relies on, if the label closes what
was opened. -/
theorem looped_settles {rdFunc : ReadFunc World} (hsource : LeavesDevices rdFunc)
    {device : CString} {dev : BlockDevice} {state : BackupState κ} {w w₁ : World}
    (hdev : w.devices device = some dev) (hentered : Entered device dev state w₁)
    (label : Int → BackupState κ → World → Handled κ) {opened : List Opening}
    (hopened : (⟨.device state.wrFd, device, oWronly ||| oWrlock⟩ : Opening) ∈ opened)
    (hlabel : ∀ res state' w', (label res state' w').ret = res ∧
      (label res state' w').opened = opened ∧
      (label res state' w').looped = some (state', w'))
    (hcloses : ∀ res state' w', state'.rdFd = state.rdFd → state'.wrFd = state.wrFd →
      ∀ handle ∈ (label res state' w').closed, ∃ o ∈ opened, o.handle = handle)
    {Q : Prop} (hQ : Q) :
    Settles (fun fuel => (deviceAccessLoop sha rdFunc kWriteDevice fuel state w₁).map
      fun (res, state, w) => label res state w) (Honest device w) Q := by
  have hsize := dev.size_lt
  constructor
  · have hfuel : subU64 state.effectiveSize state.headerSize < dev.content.length + 1 := by
      rw [hentered.toRead]
      exact Nat.lt_succ_self _
    rcases deviceAccessLoop_ends sha hsource hsize hentered.fillInv hfuel with ⟨r, hrun⟩
    exact ⟨_, _, congrArg (Option.map _) hrun⟩
  · intro fuel h heq
    rcases Option.map_eq_some_iff.mp heq with ⟨⟨res, state', w'⟩, hrun, rfl⟩
    have htask := deviceAccessLoop_sameTask sha rdFunc kWriteDevice hrun
    have hwrFd := htask.wrFd
    rcases hlabel res state' w' with ⟨hret, hopens, hlooped⟩
    refine iff_of_true ?_ hQ
    constructor
    · intro hres
      dsimp only at hres ⊢
      rw [hret] at hres
      -- the position is the count, and the count has reached the end
      rcases deviceAccessLoop_fills hsource hsize hentered.fillInv hrun hres with
        ⟨-, hinv, hdone⟩
      have hpos := hinv.pos
      rw [hentered.toRead] at hdone
      rw [hopens]
      exact ⟨state', w', hlooped, ⟨_, hopened, by rw [hwrFd], rfl, oWronly_writeCapable⟩, dev, hdev,
        hdone, by rw [hwrFd]; exact hpos⟩
    · dsimp only
      rw [hopens]
      exact hcloses res state' w' htask.rdFd hwrFd

/-- The sizes are asked for right behind the check of the module. -/
theorem setupState_fails {device : CString} (path : CString) {w w₁ : World} (hasked : Asked 1 w w₁)
    (h : ¬ ∃ dev, w.devices device = some dev ∧ SizesAnswered dev w (w.tick + 1)) :
    (setupState sha device path .raw none none w₁).1 < 0 := by
  apply setupState_unanswered
  intro dev hdev hanswered
  rw [hasked.sizesAnswered, hasked.tick] at hanswered
  have hdev' : w.devices device = some dev := by
    rw [← hasked.same.devices]
    exact hdev
  exact h ⟨dev, hdev', hanswered⟩

/-! ## wipe_device -/

/-- Without an open device there is nothing to close. -/
theorem wipeExit_honest (device : CString) (w w' : World) (state : BackupState κ)
    (hneg : state.wrFd < 0) : Honest device w (wipeExit state.wrFd [] none state w') := by
  constructor
  · intro hnonneg
    exact absurd hneg (not_lt.mpr hnonneg)
  · intro handle hmem
    unfold wipeExit at hmem
    dsimp only at hmem
    rw [if_neg (not_le.mpr hneg)] at hmem
    cases hmem

theorem wipeDevice_settles (device : CString) (w : World) :
    Settles (fun fuel => wipeDevice sha fuel device w) (Honest device w)
      (w.outcomes w.tick ≤ 0 ∨ deviceWhitelistCheck device = true ∨
        ∃ dev, w.devices device = some dev ∧ SizesAnswered dev w (w.tick + 1)) := by
  unfold wipeDevice
  apply checked_settles
  intro w₁ hasked₁
  by_cases hsizes : ∃ dev, w.devices device = some dev ∧ SizesAnswered dev w (w.tick + 1)
  · rcases hsizes with ⟨dev, hdev, hanswered⟩
    have hkeeps : ∃ dev, w.devices device = some dev ∧ SizesAnswered dev w (w.tick + 1) :=
      ⟨dev, hdev, hanswered⟩
    have hdev₁ := hasked₁.device hdev
    rw [← hasked₁.tick, ← hasked₁.sizesAnswered] at hanswered
    rcases setupState_answered sha theVoid hdev₁ hanswered with
      ⟨res, state, w₂, hsetup, hres, htotal, heffective, hheader, hasked₂⟩
    have hdev₂ := hasked₂.device hdev₁
    have hpassed : ¬ res < 0 := by omega
    simp only [hsetup, if_neg hpassed]
    by_cases hneg : w₂.outcomes w₂.tick < 0
    · -- the error is returned, and there is no handle to close
      simp only [kOpenDevice_refused device _ hneg, if_pos hneg]
      refine Settles.atOnce (fun _ => rfl) (iff_of_true ?_ hkeeps)
      exact wipeExit_honest device w _ { state with wrFd := w₂.outcomes w₂.tick } hneg
    · rcases kOpenDevice_opens (oWronly ||| oWrlock) hdev₂ (not_lt.mp hneg) with
        ⟨w₃, hopen, hfd, hasked₃⟩
      simp only [hopen, if_neg hneg]
      have hentered : Entered device dev { state with wrFd := w₂.outcomes w₂.tick } w₃ := by
        constructor
        · exact hasked₃.device hdev₂
        · exact hfd
        · exact htotal
        · dsimp only
          rw [heffective, hheader]
          exact subU64_zero dev.size_lt
      refine looped_settles sha readNull_leavesDevices hdev hentered
        (fun res' state' w' => wipeExit res'
          [⟨.device (w₂.outcomes w₂.tick), device, oWronly ||| oWrlock⟩] (some (state', w')) state' w')
        (List.mem_singleton.mpr rfl) (fun _ _ _ => ⟨rfl, rfl, rfl⟩) ?_ hkeeps
      intro res' state' w' _ hwrFd handle hmem
      dsimp only at hwrFd
      unfold wipeExit at hmem
      dsimp only at hmem
      rw [hwrFd, if_pos (not_lt.mp hneg), List.mem_singleton] at hmem
      exact ⟨_, List.mem_singleton.mpr rfl, hmem.symm⟩
  · have hneg := setupState_fails sha theVoid hasked₁ hsizes
    rcases setupState_handles sha device theVoid .raw none none w₁ with ⟨-, hwrFd⟩
    generalize setupState sha device theVoid .raw none none w₁ = prepared at hneg hwrFd ⊢
    simp only [if_pos hneg]
    exact Settles.atOnce (fun _ => rfl) (iff_of_false (wipeExit_not_honest _ hwrFd) hsizes)

/-! ## restore_device -/

theorem sceIoOpen_fails {path : CString} {w : World}
    (h : w.outcomes w.tick < 0 ∨ w.files path = none) : (sceIoOpen path oRdonly w).1 < 0 := by
  have herror : enoent < 0 := by decide
  by_cases hneg : w.outcomes w.tick < 0
  · rw [sceIoOpen_refused path oRdonly hneg]
    exact hneg
  · rw [sceIoOpen_missing (h.resolve_left hneg) (by decide) hneg]
    exact herror

/-- A size that cannot be had counts as 0. -/
theorem getFileSize_fits (path : CString) (w : World) (size : Nat) :
    Asked 1 w (getFileSize path w).2 ∧ ((getFileSize path w).1 ≤ size ↔
      ∀ image, w.files path = some image → w.outcomes w.tick < 0 ∨ image.length ≤ size) := by
  have hmissing : ¬ enoent ≥ 0 := by decide
  unfold getFileSize sceIoGetstat World.outcome
  dsimp only
  -- a refused call reads as size 0, which fits any device
  by_cases hneg : w.outcomes w.tick < 0
  · rw [if_pos hneg]
    dsimp only
    rw [if_neg (by omega)]
    exact ⟨⟨⟨rfl, rfl, rfl, rfl⟩, rfl, rfl⟩, iff_of_true (Nat.zero_le _) fun _ _ => Or.inl hneg⟩
  · rw [if_neg hneg]
    cases hfile : w.files path with
    | none =>
      dsimp only
      rw [if_neg hmissing]
      refine ⟨⟨⟨rfl, rfl, rfl, rfl⟩, rfl, rfl⟩, iff_of_true (Nat.zero_le _) ?_⟩
      intro image himage
      cases himage
    | some content =>
      dsimp only
      rw [if_pos (by omega)]
      refine ⟨⟨⟨rfl, rfl, rfl, rfl⟩, rfl, rfl⟩, ?_⟩
      constructor
      · intro hle image himage
        cases himage
        exact Or.inr hle
      · intro hfits
        rcases hfits content rfl with hneg' | hle
        · exact absurd hneg' hneg
        · exact hle

/-- From the call `t` on nothing fails before the loop of `restore_device`: the sizes
are known, the image is no larger than the device as far as its size can be had,
and both open. -/
def RestoreOpens (device input : CString) (w : World) (t : Nat) : Prop :=
  ∃ dev image, w.devices device = some dev ∧ w.files input = some image ∧
    SizesAnswered dev w t ∧
    (w.outcomes (t + setupCalls dev w t) < 0 ∨ image.length ≤ dev.content.length) ∧
    0 ≤ w.outcomes (t + setupCalls dev w t + 1) ∧ 0 ≤ w.outcomes (t + setupCalls dev w t + 2)

theorem restoreImage_settles (input : CString) {device : CString} {dev : BlockDevice}
    {state : BackupState κ} {w₀ w : World} (hdev₀ : w₀.devices device = some dev)
    (hdev : w.devices device = some dev) (htotal : state.total = 0)
    (htoRead : subU64 state.effectiveSize state.headerSize = dev.content.length)
    (hwrFd : state.wrFd = 0) :
    Settles (fun fuel => restoreImage sha fuel device input state w) (Honest device w₀)
      (∃ image, w.files input = some image ∧ 0 ≤ w.outcomes w.tick ∧
        0 ≤ w.outcomes (w.tick + 1)) := by
  unfold restoreImage
  by_cases hopens : ∃ image, w.files input = some image ∧ 0 ≤ w.outcomes w.tick
  · rcases hopens with ⟨image, himage, himageOpens⟩
    have hfound : w.files input ≠ none := by
      rw [himage]
      exact Option.some_ne_none image
    rcases sceIoOpen_succeeds input oRdonly (not_lt.mpr himageOpens) (fun _ => hfound) with
      ⟨w₁, hopenImage, hopenedImage⟩
    have houtcomes := hopenedImage.outcomes
    have htick := hopenedImage.tick
    have hdev₁ : w₁.devices device = some dev :=
      (congrFun hopenedImage.same.devices device).trans hdev
    simp only [hopenImage, if_neg (not_lt.mpr himageOpens)]
    by_cases hneg : w₁.outcomes w₁.tick < 0
    · -- the handle that is returned is no error
      simp only [kOpenDevice_refused device _ hneg, if_pos hneg]
      rw [houtcomes, htick] at hneg
      refine Settles.atOnce (fun _ => rfl) (iff_of_false ?_ ?_)
      · intro h
        rcases h.written himageOpens with ⟨state', w', hlooped, -⟩
        cases hlooped
      · rintro ⟨-, -, -, hdeviceOpens⟩
        exact absurd hneg (not_lt.mpr hdeviceOpens)
    · have hopened : ∃ image, w.files input = some image ∧ 0 ≤ w.outcomes w.tick ∧
          0 ≤ w.outcomes (w.tick + 1) := by
        rw [houtcomes, htick] at hneg
        exact ⟨image, himage, himageOpens, not_lt.mp hneg⟩
      rcases kOpenDevice_opens (oWronly ||| oWrlock) hdev₁ (not_lt.mp hneg) with
        ⟨w₂, hopen, hfd, hasked⟩
      simp only [hopen, if_neg hneg]
      have hentered : Entered device dev { state with
          rdFd := w.outcomes w.tick
          wrFd := w₁.outcomes w₁.tick } w₂ := ⟨hasked.device hdev₁, hfd, htotal, htoRead⟩
      refine looped_settles sha readDataFromImage_leavesDevices hdev₀ hentered
        (fun res state' w' => restoreExit res
          ([⟨.file (w.outcomes w.tick), input, oRdonly⟩] ++
            [⟨.device (w₁.outcomes w₁.tick), device, oWronly ||| oWrlock⟩])
          (some (state', w')) state' w')
        (List.mem_append_right _ (List.mem_singleton.mpr rfl)) (fun _ _ _ => ⟨rfl, rfl, rfl⟩) ?_
        hopened
      intro res state' w' hrdFd hwrFd' handle hmem
      dsimp only at hrdFd hwrFd'
      unfold restoreExit at hmem
      dsimp only at hmem
      rw [hrdFd, hwrFd', if_pos himageOpens, if_pos (not_lt.mp hneg), List.mem_append,
        List.mem_singleton, List.mem_singleton] at hmem
      rcases hmem with rfl | rfl
      · exact ⟨_, List.mem_append_left _ (List.mem_singleton.mpr rfl), rfl⟩
      · exact ⟨_, List.mem_append_right _ (List.mem_singleton.mpr rfl), rfl⟩
  · have hfails : w.outcomes w.tick < 0 ∨ w.files input = none := by
      by_cases hneg : w.outcomes w.tick < 0
      · exact Or.inl hneg
      · right
        cases hfile : w.files input with
        | none => rfl
        | some image => exact absurd ⟨image, hfile, not_lt.mp hneg⟩ hopens
    have hneg := sceIoOpen_fails hfails
    generalize sceIoOpen input oRdonly w = opened at hneg ⊢
    simp only [if_pos hneg]
    refine Settles.atOnce (fun _ => rfl) (iff_of_false ?_ ?_)
    · exact restoreExit_not_honest { state with rdFd := opened.1 } hwrFd
    · rintro ⟨image, himage, himageOpens, -⟩
      exact hopens ⟨image, himage, himageOpens⟩

theorem restoreDevice_settles (device input : CString) (w : World) :
    Settles (fun fuel => restoreDevice sha fuel device input w) (Honest device w)
      (w.outcomes w.tick ≤ 0 ∨ deviceWhitelistCheck device = true ∨
        RestoreOpens device input w (w.tick + 1)) := by
  unfold restoreDevice
  apply checked_settles
  intro w₁ hasked₁
  rcases setupState_handles sha device input .raw none none w₁ with ⟨-, hwrFd⟩
  by_cases hsizes : ∃ dev, w.devices device = some dev ∧ SizesAnswered dev w (w.tick + 1)
  · rcases hsizes with ⟨dev, hdev, hanswered⟩
    have hdev₁ := hasked₁.device hdev
    have hanswered₁ := hanswered
    rw [← hasked₁.tick, ← hasked₁.sizesAnswered] at hanswered₁
    rcases setupState_answered sha input hdev₁ hanswered₁ with
      ⟨res, state, w₂, hsetup, hres, htotal, heffective, hheader, hasked₂⟩
    rw [hsetup] at hwrFd
    have hpassed : ¬ res < 0 := by omega
    simp only [hsetup, if_neg hpassed]
    have hasked₁₂ := hasked₁.trans hasked₂
    rw [hasked₁.setupCalls, hasked₁.tick] at hasked₁₂
    rcases getFileSize_fits input w₂ dev.content.length with ⟨hasked₃, hfits⟩
    rw [hasked₁₂.outcomes, hasked₁₂.tick, hasked₁₂.same.files, ← Nat.add_assoc] at hfits
    generalize getFileSize input w₂ = got at hasked₃ hfits ⊢
    rcases got with ⟨fileSize, w₃⟩
    have hasked := hasked₁₂.trans hasked₃
    have htick : w₃.tick = w.tick + 1 + setupCalls dev w (w.tick + 1) + 1 := by
      rw [hasked.tick]
      omega
    by_cases hlarge : state.effectiveSize < fileSize
    · -- an image that does not fit
      simp only [if_pos hlarge]
      refine Settles.atOnce (fun _ => rfl) (iff_of_false (restoreExit_not_honest _ hwrFd) ?_)
      rintro ⟨dev', image, hdev', himage, -, hfit, -⟩
      rw [hdev] at hdev'
      cases hdev'
      have hle : fileSize ≤ dev.content.length := by
        apply hfits.mpr
        intro image' himage'
        rw [himage] at himage'
        cases himage'
        exact hfit
      omega
    · simp only [if_neg hlarge]
      have htoRead : subU64 state.effectiveSize state.headerSize = dev.content.length := by
        rw [heffective, hheader]
        exact subU64_zero dev.size_lt
      have hsettles := restoreImage_settles sha input hdev (hasked.device hdev) htotal htoRead hwrFd
      rw [hasked.outcomes, htick, hasked.same.files] at hsettles
      have hiff : RestoreOpens device input w (w.tick + 1) ↔ ∃ image, w.files input = some image ∧
          0 ≤ w.outcomes (w.tick + 1 + setupCalls dev w (w.tick + 1) + 1) ∧
            0 ≤ w.outcomes (w.tick + 1 + setupCalls dev w (w.tick + 1) + 1 + 1) := by
        constructor
        · rintro ⟨dev', image, hdev', himage, -, -, himageOpens, hdeviceOpens⟩
          rw [hdev] at hdev'
          cases hdev'
          exact ⟨image, himage, himageOpens, hdeviceOpens⟩
        · rintro ⟨image, himage, himageOpens, hdeviceOpens⟩
          exact ⟨dev, image, hdev, himage, hanswered, hfits.mp (by omega) image himage,
            himageOpens, hdeviceOpens⟩
      rw [hiff]
      exact hsettles
  · -- the label is reached with both handles 0, and closes what it never opened
    have hneg := setupState_fails sha input hasked₁ hsizes
    have hclosed : ¬ RestoreOpens device input w (w.tick + 1) := by
      rintro ⟨dev, image, hdev, -, hanswered, -⟩
      exact hsizes ⟨dev, hdev, hanswered⟩
    generalize setupState sha device input .raw none none w₁ = prepared at hneg hwrFd ⊢
    simp only [if_pos hneg]
    exact Settles.atOnce (fun _ => rfl) (iff_of_false (restoreExit_not_honest _ hwrFd) hclosed)

/-! ## Both -/

/-- Both functions end, and do what a caller relies on exactly where the module does
not run, or the device is refused, or nothing fails before the loop; in `wipe_device`
the device may also fail to open. -/
theorem restore_wipe_honest_iff (device input : CString) (w : World) :
    Settles (fun fuel => restoreDevice sha fuel device input w) (Honest device w)
        (w.outcomes w.tick ≤ 0 ∨ deviceWhitelistCheck device = true ∨
          RestoreOpens device input w (w.tick + 1)) ∧
      Settles (fun fuel => wipeDevice sha fuel device w) (Honest device w)
        (w.outcomes w.tick ≤ 0 ∨ deviceWhitelistCheck device = true ∨
          ∃ dev, w.devices device = some dev ∧ SizesAnswered dev w (w.tick + 1)) :=
  ⟨restoreDevice_settles sha device input w, wipeDevice_settles sha device w⟩

/-- "sdstor0:gcd" -/
def gameCart : CString := CString.ofBytes gcdPrefix.toList

/-- Of the calls, only the opening of the device for writing fails. -/
def lockedWorld : World where
  kernel := Kern.AuthEmu.init
  devices _ := some twoByteDevice
  deviceFds _ := none
  files _ := some [0x55]
  fileFds _ := none
  network := []
  outcomes i := if i = 10 then -1 else 1
  tick := 0

/-- The restore of a device that does not open is reported as done. -/
theorem restoreDevice_not_honest_locked :
    ¬ ∀ fuel h, restoreDevice sha256 fuel gameCart imageName lockedWorld = some h →
      Honest gameCart lockedWorld h := by
  intro hall
  rcases restoreDevice_settles sha256 gameCart imageName lockedWorld with ⟨⟨fuel, h, heq⟩, hiff⟩
  have hnot : ¬ (lockedWorld.outcomes lockedWorld.tick ≤ 0 ∨ deviceWhitelistCheck gameCart = true ∨
      RestoreOpens gameCart imageName lockedWorld (lockedWorld.tick + 1)) := by
    rintro (hstopped | hrefused | ⟨dev, image, hdev, -, -, -, -, hopens⟩)
    · exact absurd hstopped (by decide)
    · exact absurd hrefused (by decide)
    · cases hdev
      exact absurd hopens (by decide)
  exact hnot ((hiff fuel h heq).mp (hall fuel h heq))

end GcToolKit.App
