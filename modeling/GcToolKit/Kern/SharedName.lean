import GcToolKit.Kern.Io
import GcToolKit.Lib.SharedCell

/-!
# Concurrent device syscalls (kern/io.c, kern/format.c)

The `k_device` of `kOpenDevice` and that of `kFormatDevice` are static. A call
copies its name there, checks the name and uses it; calls of several threads go
through the same buffer, so the name used need not be the name checked.

* `openDevice_alone`, `formatDevice_alone` — a call without others between its
  steps is the syscall of kern/io.c;
* `confined_undisturbed` — the checks confine the kernel to the game cart as long
  as no name is copied between the check of another call and its use;
* `unconfined_interleaved` — a copy at that point opens whatever it names.
-/

namespace GcToolKit.Kern

open Run SharedCell

/-- The two static buffers. -/
structure SharedNames where
  openDevice : KDevice
  formatDevice : KDevice

/-- Where a call is: its next step copies the name, checks it or uses it.
`permissionLevel` is that of the calling thread. -/
inductive DeviceCall (υ : Type) where
  | openEntered (device : υ) (permission : UInt32) (openResult : Int)
  | openCopied (permission : UInt32) (openResult : Int)
  | openChecked (permission : UInt32) (openResult : Int)
  | formatEntered (device : υ) (r : FormatResults) (permissionLevel : Int)
  | formatCopied (r : FormatResults) (permissionLevel : Int)
  | formatChecked (r : FormatResults) (permissionLevel : Int)
  | returned (ret : Int)

variable {υ : Type} (strncpyUserToKernel : υ → KDevice → KDevice)

/-- The next step of a call; what the kernel is asked for goes to the log. -/
def deviceCallStep (call : DeviceCall υ) (names : SharedNames) (log : List KernelOp) :
    DeviceCall υ × SharedNames × List KernelOp :=
  match call with
  | .openEntered device permission openResult =>
    (.openCopied permission openResult,
      { names with openDevice := strncpyUserToKernel device names.openDevice }, log)
  | .openCopied permission openResult =>
    if opensForWriting permission && deviceWhitelistCheck names.openDevice then
      (.returned deviceWhitelistFailed, names, log)
    else (.openChecked permission openResult, names, log)
  | .openChecked permission openResult =>
    (.returned openResult, names, log ++ [.ioOpen names.openDevice permission openResult])
  | .formatEntered device r permissionLevel =>
    (.formatCopied r permissionLevel,
      { names with formatDevice := strncpyUserToKernel device names.formatDevice }, log)
  | .formatCopied r permissionLevel =>
    if deviceWhitelistCheck names.formatDevice then
      (.returned deviceWhitelistFailed, names, log)
    else (.formatChecked r permissionLevel, names, log)
  | .formatChecked r permissionLevel =>
    let res := (fatfsExecFormat names.formatDevice 0x8000 fatFormatTypeExfat r
      (KernIo.init permissionLevel 0)).1
    (.returned res.ret, names, log ++ res.ops)
  | .returned ret => (.returned ret, names, log)

/-- The name in the buffer is one the call may use: it has been checked. -/
def HoldsChecked : DeviceCall υ → SharedNames → Prop
  | .openChecked permission _, names => opensForWriting permission → InGameCart names.openDevice
  | .formatChecked _ _, names => InGameCart names.formatDevice
  | _, _ => True

def deviceClient : Client (DeviceCall υ) SharedNames (List KernelOp) where
  act := deviceCallStep strncpyUserToKernel
  Holds := HoldsChecked

/-- The kernel is asked for something on the game cart, where the code checks. -/
def ConfinedOp : KernelOp → Prop
  | .ioOpen device permission _ => opensForWriting permission → InGameCart device
  | .fatFormat param => InGameCart param.path
  | _ => True

/-! ## The check -/

section Check

variable {permission : UInt32} {openResult : Int} {r : FormatResults} {permissionLevel : Int}
  {names : SharedNames} {log : List KernelOp}

theorem openCopied_refused
    (h : (opensForWriting permission && deviceWhitelistCheck names.openDevice) = true) :
    deviceCallStep strncpyUserToKernel (.openCopied permission openResult) names log =
      (.returned deviceWhitelistFailed, names, log) :=
  if_pos h

theorem openCopied_passes
    (h : ¬ (opensForWriting permission && deviceWhitelistCheck names.openDevice) = true) :
    deviceCallStep strncpyUserToKernel (.openCopied permission openResult) names log =
      (.openChecked permission openResult, names, log) :=
  if_neg h

theorem formatCopied_refused (h : deviceWhitelistCheck names.formatDevice = true) :
    deviceCallStep strncpyUserToKernel (.formatCopied r permissionLevel) names log =
      (.returned deviceWhitelistFailed, names, log) :=
  if_pos h

theorem formatCopied_passes (h : ¬ deviceWhitelistCheck names.formatDevice = true) :
    deviceCallStep strncpyUserToKernel (.formatCopied r permissionLevel) names log =
      (.formatChecked r permissionLevel, names, log) :=
  if_neg h

end Check

/-! ## A call alone -/

/-- `n` steps of a call with no other between them. -/
def callAlone : Nat → DeviceCall υ → SharedNames → List KernelOp →
    DeviceCall υ × SharedNames × List KernelOp
  | 0, call, names, log => (call, names, log)
  | n + 1, call, names, log =>
    let next := deviceCallStep strncpyUserToKernel call names log
    callAlone n next.1 next.2.1 next.2.2

theorem callAlone_step {n : Nat} {call : DeviceCall υ} {names : SharedNames} {log : List KernelOp}
    {next : DeviceCall υ × SharedNames × List KernelOp}
    (h : deviceCallStep strncpyUserToKernel call names log = next) :
    callAlone strncpyUserToKernel (n + 1) call names log =
      callAlone strncpyUserToKernel n next.1 next.2.1 next.2.2 := by
  rw [← h]
  rfl

def KernIo.names (x : KernIo) : SharedNames := ⟨x.openDevice, x.formatDevice⟩

theorem openDevice_alone (device : υ) (permission : UInt32) (openResult : Int) (x : KernIo) :
    let r := kOpenDevice strncpyUserToKernel device permission openResult x
    callAlone strncpyUserToKernel 3 (.openEntered device permission openResult) x.names [] =
      (.returned r.1.ret, r.2.names, r.1.ops) := by
  let copied : SharedNames := ⟨strncpyUserToKernel device x.openDevice, x.formatDevice⟩
  unfold kOpenDevice kOpenDeviceInner
  rw [callAlone_step strncpyUserToKernel rfl]
  by_cases htest :
      (opensForWriting permission && deviceWhitelistCheck copied.openDevice) = true
  · dsimp only
    rw [if_pos htest]
    exact callAlone_step strncpyUserToKernel (openCopied_refused strncpyUserToKernel htest)
  · dsimp only
    rw [if_neg htest]
    exact callAlone_step strncpyUserToKernel (openCopied_passes strncpyUserToKernel htest)

/-- `FatfsExecFormat` depends on the permission level of the thread only. -/
theorem fatfsExecFormat_level (s : KDevice) (bytePerCluster sceFsType : UInt32)
    (r : FormatResults) {x y : KernIo} (h : x.permission = y.permission) :
    (fatfsExecFormat s bytePerCluster sceFsType r x).1 =
      (fatfsExecFormat s bytePerCluster sceFsType r y).1 := by
  unfold fatfsExecFormat fatfsExecFormatInternal ksceKernelSetPermission
  dsimp only
  rw [h]
  split
  · rfl
  · split
    · split
      · rfl
      · split
        · rfl
        · split <;> rfl
    · rfl

theorem formatDevice_alone (device : υ) (r : FormatResults) (x : KernIo) :
    let res := kFormatDevice strncpyUserToKernel device r x
    let alone := callAlone strncpyUserToKernel 3 (.formatEntered device r x.permission) x.names []
    alone.1 = .returned res.1.ret ∧ alone.2.2 = res.1.ops := by
  let copied : SharedNames := ⟨x.openDevice, strncpyUserToKernel device x.formatDevice⟩
  have hcopy : deviceCallStep strncpyUserToKernel (.formatEntered device r x.permission) x.names [] =
      (.formatCopied r x.permission, copied, []) := rfl
  dsimp only
  rw [callAlone_step strncpyUserToKernel hcopy]
  by_cases htest : deviceWhitelistCheck copied.formatDevice = true
  · rw [callAlone_step strncpyUserToKernel (formatCopied_refused strncpyUserToKernel htest)]
    unfold kFormatDevice enterSyscall
    dsimp only
    rw [if_pos htest]
    exact ⟨rfl, rfl⟩
  · rw [callAlone_step strncpyUserToKernel (formatCopied_passes strncpyUserToKernel htest)]
    -- the register that is saved meanwhile plays no part
    have hserved := fatfsExecFormat_level (strncpyUserToKernel device x.formatDevice) 0x8000
      fatFormatTypeExfat r (show (KernIo.init x.permission 0).permission = KernIo.permission
        { x with syscall := x.syscall <<< 16
                 formatDevice := strncpyUserToKernel device x.formatDevice } from rfl)
    unfold kFormatDevice enterSyscall
    dsimp only
    rw [if_neg htest]
    exact ⟨congrArg (fun s : Served => (.returned s.ret : DeviceCall υ)) hserved,
      congrArg Served.ops hserved⟩

/-! ## One step -/

theorem deviceClient_keeps : (deviceClient strncpyUserToKernel).Keeps := by
  intro call names log _
  unfold deviceClient
  cases call with
  | openCopied permission openResult =>
    unfold deviceCallStep
    dsimp only
    split
    · trivial
    · next hchecked =>
      intro hwriting
      rw [hwriting, Bool.true_and, deviceWhitelistCheck_iff, not_not] at hchecked
      exact hchecked
  | formatCopied r permissionLevel =>
    unfold deviceCallStep
    dsimp only
    split
    · trivial
    · next hchecked =>
      rw [deviceWhitelistCheck_iff, not_not] at hchecked
      exact hchecked
  | _ => trivial

/-- A name that has been checked keeps the step to the game cart. -/
theorem confinedOp_step {call : DeviceCall υ} {names : SharedNames} {log : List KernelOp}
    (hholds : HoldsChecked call names) (hlog : ∀ op ∈ log, ConfinedOp op) :
    ∀ op ∈ (deviceCallStep strncpyUserToKernel call names log).2.2, ConfinedOp op := by
  intro op hop
  cases call with
  | openChecked permission openResult =>
    rcases List.mem_append.mp hop with hold | hnew
    · exact hlog op hold
    · rw [List.mem_singleton.mp hnew]
      exact hholds
  | formatChecked r permissionLevel =>
    rcases List.mem_append.mp hop with hold | hnew
    · exact hlog op hold
    · rcases fatfsExecFormat_ops _ _ _ _ _ op hnew with ⟨param, rfl, hpath⟩ | rfl
      · show InGameCart param.path
        rw [hpath]
        exact hholds
      · trivial
  | openCopied permission openResult =>
    unfold deviceCallStep at hop
    dsimp only at hop
    split at hop <;> exact hlog op hop
  | formatCopied r permissionLevel =>
    unfold deviceCallStep at hop
    dsimp only at hop
    split at hop <;> exact hlog op hop
  | openEntered device permission openResult => exact hlog op hop
  | formatEntered device r permissionLevel => exact hlog op hop
  | returned ret => exact hlog op hop

/-! ## Runs -/

variable {ι : Type} [DecidableEq ι]

/-- The next step copies a name for an open, or for a format. -/
def DeviceCall.CopiesOpen : DeviceCall υ → Prop
  | .openEntered _ _ _ => True
  | _ => False

def DeviceCall.CopiesFormat : DeviceCall υ → Prop
  | .formatEntered _ _ _ => True
  | _ => False

/-- The next step uses a checked name; an open that is not for writing is not checked. -/
def DeviceCall.UsesOpen : DeviceCall υ → Prop
  | .openChecked permission _ => opensForWriting permission
  | _ => False

def DeviceCall.UsesFormat : DeviceCall υ → Prop
  | .formatChecked _ _ => True
  | _ => False

/-- No name is copied over one that another call has checked and not yet used. -/
structure Exclusive (s : Shared ι (DeviceCall υ) SharedNames (List KernelOp)) (i : ι) : Prop where
  opens : (s.locals i).CopiesOpen → ∀ j, j ≠ i → ¬ (s.locals j).UsesOpen
  formats : (s.locals i).CopiesFormat → ∀ j, j ≠ i → ¬ (s.locals j).UsesFormat

theorem openDevice_step {call : DeviceCall υ} (h : ¬ call.CopiesOpen) (names : SharedNames)
    (log : List KernelOp) :
    (deviceCallStep strncpyUserToKernel call names log).2.1.openDevice = names.openDevice := by
  unfold deviceCallStep
  cases call with
  | openEntered device permission openResult => exact absurd trivial h
  | openCopied permission openResult => dsimp only; split <;> rfl
  | formatCopied r permissionLevel => dsimp only; split <;> rfl
  | _ => rfl

theorem formatDevice_step {call : DeviceCall υ} (h : ¬ call.CopiesFormat) (names : SharedNames)
    (log : List KernelOp) :
    (deviceCallStep strncpyUserToKernel call names log).2.1.formatDevice = names.formatDevice := by
  unfold deviceCallStep
  cases call with
  | formatEntered device r permissionLevel => exact absurd trivial h
  | openCopied permission openResult => dsimp only; split <;> rfl
  | formatCopied r permissionLevel => dsimp only; split <;> rfl
  | _ => rfl

/-- A call copies its name in its first step only. -/
theorem not_copies_step (call : DeviceCall υ) (names : SharedNames) (log : List KernelOp) :
    ¬ (deviceCallStep strncpyUserToKernel call names log).1.CopiesOpen ∧
      ¬ (deviceCallStep strncpyUserToKernel call names log).1.CopiesFormat := by
  unfold deviceCallStep
  cases call with
  | openCopied permission openResult => dsimp only; split <;> exact ⟨id, id⟩
  | formatCopied r permissionLevel => dsimp only; split <;> exact ⟨id, id⟩
  | _ => exact ⟨id, id⟩

theorem not_copies_of_mem (s : Shared ι (DeviceCall υ) SharedNames (List KernelOp))
    {schedule : List ι} {i : ι} (hi : i ∈ schedule) :
    let call := ((shared (deviceClient strncpyUserToKernel)).run s schedule).1.locals i
    ¬ call.CopiesOpen ∧ ¬ call.CopiesFormat := by
  dsimp only
  induction schedule using List.reverseRecOn with
  | nil => cases hi
  | append_singleton schedule k ih =>
    rw [Machine.run_snoc]
    unfold Machine.extend
    rw [shared_step rfl]
    dsimp only
    by_cases hik : i = k
    · subst hik
      rw [Function.update_self]
      exact not_copies_step strncpyUserToKernel _ _ _
    · rw [Function.update_of_ne hik]
      rcases List.mem_append.mp hi with hbefore | hlast
      · exact ih hbefore
      · exact absurd (List.mem_singleton.mp hlast) hik

theorem undisturbed_of_exclusive {s : Shared ι (DeviceCall υ) SharedNames (List KernelOp)} {i : ι}
    (h : Exclusive s i) : Undisturbed (deviceClient strncpyUserToKernel) s i := by
  intro j hj hholds
  have hcell : ((shared (deviceClient strncpyUserToKernel)).step s i).1.cell =
      (deviceCallStep strncpyUserToKernel (s.locals i) s.cell s.world).2.1 := rfl
  rw [hcell]
  have hopens := h.opens
  have hformats := h.formats
  cases hcall : s.locals j with
  | openChecked permission openResult =>
    rw [hcall] at hholds
    intro hwriting
    -- only a copy changes the buffer, and none comes while another call uses it
    have hcopies : ¬ (s.locals i).CopiesOpen := by
      intro hcopies
      have huses := hopens hcopies j hj
      rw [hcall] at huses
      exact huses hwriting
    have hname := openDevice_step strncpyUserToKernel hcopies s.cell s.world
    rw [hname]
    exact hholds hwriting
  | formatChecked r permissionLevel =>
    rw [hcall] at hholds
    have hcopies : ¬ (s.locals i).CopiesFormat := by
      intro hcopies
      have huses := hformats hcopies j hj
      rw [hcall] at huses
      exact huses trivial
    have hname := formatDevice_step strncpyUserToKernel hcopies s.cell s.world
    show InGameCart _
    rw [hname]
    exact hholds
  | _ => trivial

/-- The calls of all threads, before their first step. -/
def entered (calls : ι → DeviceCall υ) (names : SharedNames) :
    Shared ι (DeviceCall υ) SharedNames (List KernelOp) := ⟨calls, names, []⟩

def DeviceCall.Entered : DeviceCall υ → Prop
  | .openEntered _ _ _ => True
  | .formatEntered _ _ _ => True
  | _ => False

theorem holdsChecked_entered {call : DeviceCall υ} (h : call.Entered) (names : SharedNames) :
    HoldsChecked call names := by
  cases call with
  | openChecked permission openResult => cases h
  | formatChecked r permissionLevel => cases h
  | _ => trivial

/-- Whatever the names, the flags and the order of the steps: as long as no name
is copied between the check of another call and its use, nothing but the game cart
is formatted, or opened with a word that is checked. -/
theorem confined_undisturbed {calls : ι → DeviceCall υ} (hcalls : ∀ i, (calls i).Entered)
    (names : SharedNames) {schedule : List ι}
    (hexclusive : (shared (deviceClient strncpyUserToKernel)).EveryStep Exclusive
      (entered calls names) schedule) :
    ∀ op ∈ ((shared (deviceClient strncpyUserToKernel)).run (entered calls names) schedule).1.world,
      ConfinedOp op := by
  have hinv := hexclusive.run_induction
    (I := fun s => AllHold (deviceClient strncpyUserToKernel) s ∧ ∀ op ∈ s.world, ConfinedOp op)
    ?_ ⟨?_, nofun⟩
  · exact hinv.2
  · rintro s i hstep ⟨hholds, hlog⟩
    exact ⟨allHold_step (deviceClient_keeps strncpyUserToKernel)
      (undisturbed_of_exclusive strncpyUserToKernel hstep) hholds,
      confinedOp_step strncpyUserToKernel (hholds i) hlog⟩
  · intro i
    exact holdsChecked_entered (hcalls i) names

/-- An open of the game cart and one of internal storage. -/
def twoOpens : Bool → DeviceCall (List UInt8)
  | false => .openEntered gcdPrefix.toList oRdwr 0x10001
  | true => .openEntered internalStorage oRdwr 0x10001

def SharedNames.blank : SharedNames := ⟨Vector.replicate _ 0, Vector.replicate _ 0⟩

/-- The game cart's name comes over that of internal storage before it is checked
and used. -/
def twoOpensLog : List KernelOp :=
  ((shared (deviceClient strncpyString)).run (entered twoOpens SharedNames.blank)
    [true, false, false, false]).1.world

theorem exclusive_twoOpens : (shared (deviceClient strncpyString)).EveryStep Exclusive
    (entered twoOpens SharedNames.blank) [true, false, false, false] := by
  have hcopying : ∀ before ∈ [[], [true]], ∀ i, Exclusive
      ((shared (deviceClient strncpyString)).run (entered twoOpens SharedNames.blank) before).1 i := by
    intro before hbefore i
    rcases List.mem_pair.mp hbefore with rfl | rfl <;>
    exact ⟨fun _ j _ => by cases j <;> exact id, fun _ j _ => by cases j <;> exact id⟩
  have hlater : ∀ before : List Bool, false ∈ before → Exclusive
      ((shared (deviceClient strncpyString)).run (entered twoOpens SharedNames.blank) before).1
      false := by
    intro before hbefore
    rcases not_copies_of_mem strncpyString (entered twoOpens SharedNames.blank) hbefore with
      ⟨hopen, hformat⟩
    exact ⟨fun hcopies => absurd hcopies hopen, fun hcopies => absurd hcopies hformat⟩
  intro before i after heq
  rcases before with _ | ⟨_, _ | ⟨_, _ | ⟨_, _ | ⟨_, before⟩⟩⟩⟩
  · exact hcopying [] (by simp) i
  · cases heq
    exact hcopying [true] (by simp) false
  · cases heq
    exact hlater [true, false] (by simp)
  · cases heq
    exact hlater [true, false, false] (by simp)
  · simp at heq

theorem confined_undisturbed_twoOpens :
    twoOpensLog.length = 1 ∧ ∀ op ∈ twoOpensLog, ConfinedOp op :=
  ⟨by decide +kernel,
    confined_undisturbed strncpyString (fun i => by cases i <;> trivial) _ exclusive_twoOpens⟩

/-- Between the check and the open of one call the copy of another puts in the
name that is opened, whatever it is. -/
theorem unconfined_interleaved {i j : ι} (hij : j ≠ i) {device device' : υ}
    {permission permission' : UInt32} {openResult openResult' : Int} {calls : ι → DeviceCall υ}
    (hi : calls i = .openEntered device permission openResult)
    (hj : calls j = .openEntered device' permission' openResult') (names : SharedNames)
    (hchecked : InGameCart (strncpyUserToKernel device names.openDevice)) :
    ((shared (deviceClient strncpyUserToKernel)).run (entered calls names) [i, i, j, i]).1.world =
      [.ioOpen (strncpyUserToKernel device' (strncpyUserToKernel device names.openDevice))
        permission openResult] := by
  let copied : SharedNames := ⟨strncpyUserToKernel device names.openDevice, names.formatDevice⟩
  have htest : ¬ (opensForWriting permission && deviceWhitelistCheck copied.openDevice) = true := by
    rw [Bool.and_eq_true, deviceWhitelistCheck_iff]
    exact fun h => h.2 hchecked
  let copies := Function.update calls i (.openCopied permission openResult)
  let checks := Function.update copies i (.openChecked permission openResult)
  let copies' := Function.update checks j (.openCopied permission' openResult')
  let swapped : SharedNames :=
    ⟨strncpyUserToKernel device' copied.openDevice, names.formatDevice⟩
  -- copy and check of the one, the copy of the other, and the use
  have hcopy : ((shared (deviceClient strncpyUserToKernel)).step (entered calls names) i).1 =
      ⟨copies, copied, []⟩ := by
    have hact : deviceCallStep strncpyUserToKernel (calls i) names [] =
        (.openCopied permission openResult, copied, []) := by
      rw [hi]
      rfl
    exact shared_step (c := deviceClient strncpyUserToKernel) (s := entered calls names) hact
  have hcheck : ((shared (deviceClient strncpyUserToKernel)).step ⟨copies, copied, []⟩ i).1 =
      ⟨checks, copied, []⟩ := by
    have hact : deviceCallStep strncpyUserToKernel (copies i) copied [] =
        (.openChecked permission openResult, copied, []) := by
      have hlocal : copies i = .openCopied permission openResult := Function.update_self ..
      rw [hlocal]
      exact openCopied_passes strncpyUserToKernel htest
    exact shared_step (c := deviceClient strncpyUserToKernel) (s := ⟨copies, copied, []⟩) hact
  have hswap : ((shared (deviceClient strncpyUserToKernel)).step ⟨checks, copied, []⟩ j).1 =
      ⟨copies', swapped, []⟩ := by
    have hact : deviceCallStep strncpyUserToKernel (checks j) copied [] =
        (.openCopied permission' openResult', swapped, []) := by
      have hlocal : checks j = calls j :=
        (Function.update_of_ne hij ..).trans (Function.update_of_ne hij ..)
      rw [hlocal, hj]
      rfl
    exact shared_step (c := deviceClient strncpyUserToKernel) (s := ⟨checks, copied, []⟩) hact
  have huse : ((shared (deviceClient strncpyUserToKernel)).step ⟨copies', swapped, []⟩ i).1.world =
      [.ioOpen swapped.openDevice permission openResult] := by
    have hlocal : copies' i = .openChecked permission openResult :=
      (Function.update_of_ne hij.symm ..).trans (Function.update_self ..)
    show (deviceCallStep strncpyUserToKernel (copies' i) swapped []).2.2 = _
    rw [hlocal]
    rfl
  rw [Machine.run_cons, hcopy, Machine.run_cons, hcheck, Machine.run_cons, hswap]
  exact huse

end GcToolKit.Kern
