import GcToolKit.Kern.Io

/-!
# What a syscall leaves of the caller's privileges (kern/io.c, kern/format.c)

Every syscall raises the permission level of the thread by hand and puts it back,
and `kFormatDevice` does the same with the register that `ENTER_SYSCALL` saves.
Three ways out skip the second half:

* `k_get_device_size` when the device does not open;
* `FatfsExecFormatInternal` when the level it is given back is negative, which it
  takes for an error;
* the whitelist check of `kFormatDevice`, whose `return` is inside a macro.

The other ways out put everything back (`restored_iff`), so a run keeps the
privileges exactly when it takes none of the three.
-/

namespace GcToolKit.Kern

open Run

variable {υ : Type} (strncpyUserToKernel : υ → KDevice → KDevice)

/-- The thread leaves the call with the level and the register it came with. -/
structure Restored (x : KernIo) (c : IoCall υ) : Prop where
  permission : ((kernIo strncpyUserToKernel).step x c).1.permission = x.permission
  syscall : ((kernIo strncpyUserToKernel).step x c).1.syscall = x.syscall

/-- The condition on a call: a device whose size is asked for opens, a device that
is formatted is on the game cart, and the level is no error code there. Where the
thread has the raised level, or a cleared register, already, nothing is lost. -/
def PutsBack (x : KernIo) : IoCall υ → Prop
  | .getDeviceSize _ openResult _ _ => 0 ≤ openResult ∨ x.permission = 0x80
  | .formatDevice device r =>
    if InGameCart (formatTarget strncpyUserToKernel device x) then
      r.alloc < 0 ∨ r.base < 0 ∨ 0 ≤ x.permission
    else x.syscall = 0
  | _ => True

/-! ## The way out of each function -/

/-- The upper half of the register is shifted out, so what is left is a multiple
of 2^16, and so is the lower half. -/
theorem eq_zero_of_shifted {n : Nat} (hlt : n < 4294967296) (h : n * 65536 % 4294967296 = n) :
    n = 0 := by
  have hdiv := Nat.div_add_mod (n * 65536) 4294967296
  rw [h] at hdiv
  generalize n * 65536 / 4294967296 = q at hdiv
  clear h
  omega

/-- Only a cleared register survives `ENTER_SYSCALL`. -/
theorem enterSyscall_eq_iff (x : KernIo) :
    (enterSyscall x).2.syscall = x.syscall ↔ x.syscall = 0 := by
  have hlt := x.syscall.toNat_lt
  unfold enterSyscall
  dsimp only
  constructor
  · intro h
    have hnat := congrArg UInt32.toNat h
    rw [UInt32.toNat_shiftLeft] at hnat
    have hshift : (16 : UInt32).toNat % 32 = 16 := rfl
    rw [hshift, Nat.shiftLeft_eq] at hnat
    have hzero : x.syscall.toNat = 0 := eq_zero_of_shifted hlt hnat
    exact UInt32.toNat_inj.mp hzero
  · intro h
    rw [h]
    decide

theorem kOpenDevice_state (device : υ) (permission : UInt32) (openResult : Int) (x : KernIo) :
    (kOpenDevice strncpyUserToKernel device permission openResult x).2 =
      { x with openDevice := openTarget strncpyUserToKernel device x } := by
  unfold kOpenDevice kOpenDeviceInner
  dsimp only
  split <;> rfl

theorem kWriteDevice_state (fd : Int) (size : UInt32) (uid writeResult : Int) (x : KernIo) :
    (kWriteDevice fd size uid writeResult x).2 = x := by
  unfold kWriteDevice
  split <;> rfl

theorem kReadDevice_state (fd : Int) (size : UInt32) (uid readResult : Int) (x : KernIo) :
    (kReadDevice fd size uid readResult x).2 = x := by
  unfold kReadDevice
  split <;> rfl

/-- The level is put back only behind a device that opens. -/
theorem kGetDeviceSize_state (device : υ) (openResult lseekResult copyResult : Int)
    (x : KernIo) :
    (kGetDeviceSize strncpyUserToKernel device openResult lseekResult copyResult x).2 =
      if openResult < 0 then
        { x with sizeDevice := strncpyUserToKernel device x.sizeDevice, permission := 0x80 }
      else { x with
        sizeDevice := strncpyUserToKernel device x.sizeDevice
        size := lseekResult } := by
  have hinner : (kGetDeviceSize strncpyUserToKernel device openResult lseekResult copyResult
      x).2 = (kGetDeviceSizeInner (strncpyUserToKernel device x.sizeDevice) openResult lseekResult
        { x with sizeDevice := strncpyUserToKernel device x.sizeDevice }).2 := by
    unfold kGetDeviceSize
    dsimp only
    split <;> rfl
  rw [hinner]
  unfold kGetDeviceSizeInner ksceKernelSetPermission
  dsimp only
  split <;> rfl

/-- A negative level is taken for an error, and the raised one stays. -/
theorem fatfsExecFormat_permission (s : KDevice) (bytePerCluster sceFsType : UInt32)
    (r : FormatResults) (x : KernIo) :
    (fatfsExecFormat s bytePerCluster sceFsType r x).2.permission =
      if 0 ≤ r.alloc ∧ 0 ≤ r.base ∧ x.permission < 0 then 0x80 else x.permission := by
  unfold fatfsExecFormat
  split
  · next halloc => rw [if_neg (by omega)]
  · next halloc =>
    split
    · next hbase =>
      unfold fatfsExecFormatInternal ksceKernelSetPermission
      dsimp only
      by_cases hneg : x.permission < 0
      · rw [if_pos hneg, if_pos ⟨not_lt.mp halloc, hbase, hneg⟩]
      · rw [if_neg hneg]
        have hkept : ¬ (0 ≤ r.alloc ∧ 0 ≤ r.base ∧ x.permission < 0) := fun h => hneg h.2.2
        rw [if_neg hkept]
        split
        · rfl
        · split <;> split <;> rfl
    · next hbase => rw [if_neg (fun h => hbase h.2.1)]

theorem kFormatDevice_permission (device : υ) (r : FormatResults) (x : KernIo) :
    (kFormatDevice strncpyUserToKernel device r x).2.permission =
      if InGameCart (formatTarget strncpyUserToKernel device x) ∧
        0 ≤ r.alloc ∧ 0 ≤ r.base ∧ x.permission < 0 then 0x80 else x.permission := by
  have hcheck := deviceWhitelistCheck_iff (formatTarget strncpyUserToKernel device x)
  unfold formatTarget at hcheck ⊢
  unfold kFormatDevice enterSyscall
  dsimp only
  by_cases hcart : InGameCart (strncpyUserToKernel device x.formatDevice)
  · rw [if_neg (fun h => hcheck.mp h hcart)]
    unfold exitSyscall
    dsimp only
    rw [fatfsExecFormat_permission]
    simp only [hcart, true_and]
  · rw [if_pos (hcheck.mpr hcart), if_neg (fun h => hcart h.1)]

/-- The check leaves without `EXIT_SYSCALL`. -/
theorem kFormatDevice_syscall (device : υ) (r : FormatResults) (x : KernIo) :
    (kFormatDevice strncpyUserToKernel device r x).2.syscall =
      if InGameCart (formatTarget strncpyUserToKernel device x) then x.syscall
      else (enterSyscall x).2.syscall := by
  have hcheck := deviceWhitelistCheck_iff (formatTarget strncpyUserToKernel device x)
  unfold formatTarget at hcheck ⊢
  unfold kFormatDevice enterSyscall
  dsimp only
  by_cases hcart : InGameCart (strncpyUserToKernel device x.formatDevice)
  · rw [if_neg (fun h => hcheck.mp h hcart), if_pos hcart]
    rfl
  · rw [if_pos (hcheck.mpr hcart), if_neg hcart]

/-! ## One call -/

/-- Only the state after the call counts. -/
theorem restored_of_state (x : KernIo) (c : IoCall υ) {x' : KernIo}
    (h : ((kernIo strncpyUserToKernel).step x c).1 = x') :
    Restored strncpyUserToKernel x c ↔
      x'.permission = x.permission ∧ x'.syscall = x.syscall := by
  constructor
  · intro hkept
    rw [← h]
    exact ⟨hkept.permission, hkept.syscall⟩
  · rintro ⟨hpermission, hsyscall⟩
    rw [← h] at hpermission hsyscall
    exact ⟨hpermission, hsyscall⟩

theorem restored_getDeviceSize_iff (x : KernIo) (device : υ)
    (openResult lseekResult copyResult : Int) :
    Restored strncpyUserToKernel x
        (.getDeviceSize device openResult lseekResult copyResult) ↔
      0 ≤ openResult ∨ x.permission = 0x80 := by
  have hstate := kGetDeviceSize_state strncpyUserToKernel device openResult lseekResult
    copyResult x
  rw [restored_of_state strncpyUserToKernel x
    (.getDeviceSize device openResult lseekResult copyResult) hstate]
  by_cases hneg : openResult < 0
  · rw [if_pos hneg]
    constructor
    · intro h
      exact Or.inr h.1.symm
    · intro h
      rcases h with hopen | hraised
      · exact absurd hneg (not_lt.mpr hopen)
      · exact ⟨hraised.symm, rfl⟩
  · rw [if_neg hneg]
    exact iff_of_true ⟨rfl, rfl⟩ (Or.inl (not_lt.mp hneg))

theorem restored_formatDevice_iff (x : KernIo) (device : υ) (r : FormatResults) :
    Restored strncpyUserToKernel x (.formatDevice device r) ↔
      PutsBack strncpyUserToKernel x (.formatDevice device r) := by
  have hstate : ((kernIo strncpyUserToKernel).step x (.formatDevice device r)).1 =
      (kFormatDevice strncpyUserToKernel device r x).2 := rfl
  rw [restored_of_state strncpyUserToKernel x (.formatDevice device r) hstate,
    kFormatDevice_permission, kFormatDevice_syscall]
  unfold PutsBack
  dsimp only
  by_cases hcart : InGameCart (formatTarget strncpyUserToKernel device x)
  · -- the register is put back, and the level unless it is negative
    rw [if_pos hcart, if_pos hcart]
    simp only [hcart, true_and, and_true]
    by_cases hraised : 0 ≤ r.alloc ∧ 0 ≤ r.base ∧ x.permission < 0
    · rw [if_pos hraised]
      omega
    · rw [if_neg hraised]
      omega
  · rw [if_neg hcart, if_neg hcart, if_neg (fun h => hcart h.1)]
    constructor
    · intro h
      exact (enterSyscall_eq_iff x).mp h.2
    · intro h
      exact ⟨rfl, (enterSyscall_eq_iff x).mpr h⟩

/-- A call keeps the privileges exactly when it meets the condition. -/
theorem restored_iff (x : KernIo) (c : IoCall υ) :
    Restored strncpyUserToKernel x c ↔ PutsBack strncpyUserToKernel x c := by
  cases c with
  | openDevice device permission openResult =>
    have hstate := kOpenDevice_state strncpyUserToKernel device permission openResult x
    exact iff_of_true ((restored_of_state _ x (.openDevice device permission openResult) hstate).mpr ⟨rfl, rfl⟩) trivial
  | writeDevice fd size uid writeResult =>
    have hstate := kWriteDevice_state fd size uid writeResult x
    exact iff_of_true ((restored_of_state _ x (.writeDevice fd size uid writeResult) hstate).mpr ⟨rfl, rfl⟩) trivial
  | readDevice fd size uid readResult =>
    have hstate := kReadDevice_state fd size uid readResult x
    exact iff_of_true ((restored_of_state _ x (.readDevice fd size uid readResult) hstate).mpr ⟨rfl, rfl⟩) trivial
  | closeDevice fd => exact iff_of_true ⟨rfl, rfl⟩ trivial
  | getDeviceSize device openResult lseekResult copyResult =>
    exact restored_getDeviceSize_iff strncpyUserToKernel x device openResult lseekResult copyResult
  | formatDevice device r => exact restored_formatDevice_iff strncpyUserToKernel x device r

/-! ## Runs -/

/-- Every call of a run leaves the privileges as found if and only if every call
meets the condition. -/
theorem privilegesKept_iff (x : KernIo) (calls : List (IoCall υ)) :
    (kernIo strncpyUserToKernel).EveryStep (Restored strncpyUserToKernel) x calls ↔
      (kernIo strncpyUserToKernel).EveryStep (PutsBack strncpyUserToKernel) x calls :=
  (kernIo strncpyUserToKernel).everyStep_congr (restored_iff strncpyUserToKernel) x calls

/-- "sdstor0:gcd-lp-ign-entire" -/
def gameCartEntire : List UInt8 :=
  [0x73, 0x64, 0x73, 0x74, 0x6F, 0x72, 0x30, 0x3A, 0x67, 0x63, 0x64, 0x2D, 0x6C, 0x70, 0x2D,
    0x69, 0x67, 0x6E, 0x2D, 0x65, 0x6E, 0x74, 0x69, 0x72, 0x65]

/-- Asking for the size of a cart that is not there leaves the level raised, and
asking to format internal storage leaves the register shifted. -/
theorem not_privilegesKept_noCart :
    ¬ (kernIo strncpyString).EveryStep (Restored strncpyString) (KernIo.init 0 0x10001)
        [.getDeviceSize gameCartEntire (-2147418093) 0 0] ∧
      ¬ (kernIo strncpyString).EveryStep (Restored strncpyString) (KernIo.init 0 0x10001)
        [.formatDevice internalStorage ⟨1, 0, 0, 0, 0⟩] := by
  constructor
  · intro h
    have hkept := h [] _ [] rfl
    rw [restored_getDeviceSize_iff] at hkept
    rcases hkept with hopen | hraised
    · exact absurd hopen (by decide)
    · have hlevel : (0 : Int) = 0x80 := hraised
      omega
  · intro h
    have hkept := h [] _ [] rfl
    rw [restored_formatDevice_iff] at hkept
    unfold PutsBack formatTarget at hkept
    dsimp only at hkept
    rw [if_neg (internalStorage_not_inGameCart _)] at hkept
    have hcleared : (0x10001 : UInt32) = 0 := hkept
    exact absurd hcleared (by decide)

end GcToolKit.Kern
