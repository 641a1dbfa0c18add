import GcToolKit.Lib.Run
import GcToolKit.Cmd56.Packet

/-!
# The kernel's device syscalls (kern/io.c, kern/format.c)

`KernIo` is the static data of the syscalls with the thread state they touch;
the results of the kernel's own functions are inputs of the calls, and what the
kernel was asked to do is part of the output. A device may be opened for
writing, or formatted, only on the game cart: the test for the flags in
`k_open_device` looks at another bit of the permission word, so this holds for
the calls where that bit is set, and for those that name the game cart.
-/

namespace GcToolKit.Kern

open Run ByteBuf GcToolKit.Cmd56

/-! ## Paths and permissions -/

def maxPath : Nat := 0x512

/-- A device name in its kernel buffer. -/
abbrev KDevice := Vector UInt8 maxPath

def deviceWhitelistFailed : Int := -128

/-- "sdstor0:gcd" -/
def gcdPrefix : Vector UInt8 11 :=
  #v[0x73, 0x64, 0x73, 0x74, 0x6F, 0x72, 0x30, 0x3A, 0x67, 0x63, 0x64]

/-- The first 11 bytes of the name are `sdstor0:gcd`. -/
def InGameCart (device : KDevice) : Prop := slice device 0 11 = gcdPrefix

instance (device : KDevice) : Decidable (InGameCart device) :=
  inferInstanceAs (Decidable (_ = _))

/-- `DEVICE_WHITELIST_CHECK` returns when this holds. -/
def deviceWhitelistCheck (device : KDevice) : Bool :=
  memcmp (slice device 0 11) gcdPrefix != 0

def oRdonly : UInt32 := 0x1
def oWronly : UInt32 := 0x2
def oRdwr : UInt32 := 0x3
def oRdlock : UInt32 := 0x10
def oAppend : UInt32 := 0x100
def oCreat : UInt32 := 0x200
def oTrunc : UInt32 := 0x400

/-- The flags that let a file be changed. -/
def writeFlags : List UInt32 := [oWronly, oRdwr, oAppend, oCreat, oTrunc]

/-- The word contains one of the flags. -/
def WriteCapable (permission : UInt32) : Prop :=
  ∃ flag ∈ writeFlags, permission &&& flag = flag

/-! ## State -/

/-- One `k_device` for each syscall that takes a name, `k_size`, and of the
calling thread the permission level and the register `ENTER_SYSCALL` saves. -/
structure KernIo where
  openDevice : KDevice
  sizeDevice : KDevice
  formatDevice : KDevice
  size : Int
  permission : Int
  syscall : UInt32

def KernIo.init (permission : Int) (syscall : UInt32) : KernIo where
  openDevice := Vector.replicate _ 0
  sizeDevice := Vector.replicate _ 0
  formatDevice := Vector.replicate _ 0
  size := 0
  permission := permission
  syscall := syscall

/-- `SceFatFormatParam`, as far as it is computed here. -/
structure FatFormatParam where
  path : KDevice
  workingBufferSize : UInt32
  bytePerCluster : UInt32
  bytePerSector : UInt32
  sceFsType : UInt32

/-- What the kernel is asked to do to a file or a device. -/
inductive KernelOp where
  | ioOpen (device : KDevice) (permission : UInt32) (result : Int)
  | ioRead (fd : Int) (size : UInt32)
  | ioWrite (fd : Int) (size : UInt32)
  | ioLseek (fd : Int)
  | ioClose (fd : Int)
  | fatFormat (param : FatFormatParam)
  | ioSync (device : KDevice)

/-- The return value of a syscall and what it asked for on the way. -/
structure Served where
  ret : Int
  ops : List KernelOp

def ksceKernelSetPermission (level : Int) (x : KernIo) : Int × KernIo :=
  (x.permission, { x with permission := level })

/-- `ENTER_SYSCALL`: the register is saved in `state` and replaced. -/
def enterSyscall (x : KernIo) : UInt32 × KernIo :=
  (x.syscall, { x with syscall := x.syscall <<< 16 })

/-- `EXIT_SYSCALL` -/
def exitSyscall (state : UInt32) (x : KernIo) : KernIo := { x with syscall := state }

/-! ## io.c -/

/-- The test in `k_open_device`: the comparison with 0 is made first and `&`
is applied to its result. -/
def opensForWriting (permission : UInt32) : Bool :=
  let notZero : UInt32 :=
    if (oWronly ||| oWronly ||| oAppend ||| oTrunc ||| oCreat) ≠ 0 then 1 else 0
  permission &&& notZero != 0

def kOpenDeviceInner (device : KDevice) (permission : UInt32) (openResult : Int) (x : KernIo) :
    Served × KernIo :=
  if opensForWriting permission && deviceWhitelistCheck device then
    (⟨deviceWhitelistFailed, []⟩, x)
  else
    let (prev, x) := ksceKernelSetPermission 0x80 x
    let (_, x) := ksceKernelSetPermission prev x
    (⟨openResult, [.ioOpen device permission openResult]⟩, x)

def kReadDeviceInner (fd : Int) (size : UInt32) (readResult : Int) (x : KernIo) :
    Served × KernIo :=
  let (prev, x) := ksceKernelSetPermission 0x80 x
  let (_, x) := ksceKernelSetPermission prev x
  (⟨readResult, [.ioRead fd size]⟩, x)

def kWriteDeviceInner (fd : Int) (size : UInt32) (writeResult : Int) (x : KernIo) :
    Served × KernIo :=
  let (prev, x) := ksceKernelSetPermission 0x80 x
  let (_, x) := ksceKernelSetPermission prev x
  (⟨writeResult, [.ioWrite fd size]⟩, x)

def kCloseDeviceInner (fd : Int) (x : KernIo) : Served × KernIo :=
  let (prev, x) := ksceKernelSetPermission 0x80 x
  let (_, x) := ksceKernelSetPermission prev x
  (⟨0, [.ioClose fd]⟩, x)

/-- `k_get_device_size` with `size` pointing to `k_size`. -/
def kGetDeviceSizeInner (device : KDevice) (openResult lseekResult : Int) (x : KernIo) :
    Served × KernIo :=
  let (prev, x) := ksceKernelSetPermission 0x80 x
  if openResult < 0 then
    (⟨openResult, [.ioOpen device (oRdonly ||| oRdlock) openResult]⟩, x)
  else
    let x := { x with size := lseekResult }
    let (_, x) := ksceKernelSetPermission prev x
    (⟨0, [.ioOpen device (oRdonly ||| oRdlock) openResult, .ioLseek openResult,
      .ioClose openResult]⟩, x)

/-! The syscalls. `υ` is a pointer of the caller with what is there to be read;
`strncpyUserToKernel` gives the contents of the buffer after the copy. -/

variable {υ : Type} (strncpyUserToKernel : υ → KDevice → KDevice)

def kOpenDevice (device : υ) (permission : UInt32) (openResult : Int) (x : KernIo) :
    Served × KernIo :=
  let x := { x with openDevice := strncpyUserToKernel device x.openDevice }
  kOpenDeviceInner x.openDevice permission openResult x

/-- `uid` is the result of `ksceKernelUserMap`. -/
def kWriteDevice (fd : Int) (size : UInt32) (uid writeResult : Int) (x : KernIo) :
    Served × KernIo :=
  if uid < 0 then (⟨uid, []⟩, x) else kWriteDeviceInner fd size writeResult x

def kReadDevice (fd : Int) (size : UInt32) (uid readResult : Int) (x : KernIo) :
    Served × KernIo :=
  if uid < 0 then (⟨uid, []⟩, x) else kReadDeviceInner fd size readResult x

def kCloseDevice (fd : Int) (x : KernIo) : Served × KernIo := kCloseDeviceInner fd x

/-- The function ends without a `return`, so after the copy to the caller the
value is whatever `copyResult` is left in the register. -/
def kGetDeviceSize (device : υ) (openResult lseekResult copyResult : Int) (x : KernIo) :
    Served × KernIo :=
  let x := { x with sizeDevice := strncpyUserToKernel device x.sizeDevice }
  let (res, x) := kGetDeviceSizeInner x.sizeDevice openResult lseekResult x
  if res.ret < 0 then (res, x) else (⟨copyResult, res.ops⟩, x)

/-! ## format.c -/

def fatFormatTypeFat12 : UInt32 := 1
def fatFormatTypeFat16 : UInt32 := 2
def fatFormatTypeFat32 : UInt32 := 3
def fatFormatTypeExfat : UInt32 := 4

/-- The results of what `FatfsExecFormat` calls. -/
structure FormatResults where
  alloc : Int
  base : Int
  clock : Int
  format : Int
  sync : Int

def fatfsExecFormatInternal (s : KDevice) (workingBufferSize bytePerCluster sceFsType : UInt32)
    (r : FormatResults) (x : KernIo) : Served × KernIo :=
  let (old, x) := ksceKernelSetPermission 0x80 x
  if old < 0 then (⟨old, []⟩, x)
  else if r.clock < 0 then (⟨r.clock, []⟩, (ksceKernelSetPermission old x).2)
  else
    let cluster :=
      if bytePerCluster ≠ 0 then bytePerCluster
      else if sceFsType = fatFormatTypeExfat then 0x20000
      else if sceFsType = fatFormatTypeFat32 then 0x8000
      else if sceFsType = fatFormatTypeFat16 ∨ sceFsType = fatFormatTypeFat12 then 0x1000
      else 0
    let param : FatFormatParam := ⟨s, workingBufferSize, cluster, 0, sceFsType⟩
    let x := (ksceKernelSetPermission old x).2
    if r.format ≥ 0 then (⟨r.sync, [.fatFormat param, .ioSync s]⟩, x)
    else (⟨r.format, [.fatFormat param]⟩, x)

def fatfsExecFormat (s : KDevice) (bytePerCluster sceFsType : UInt32) (r : FormatResults)
    (x : KernIo) : Served × KernIo :=
  if r.alloc < 0 then (⟨r.alloc, []⟩, x)
  else if r.base ≥ 0 then
    fatfsExecFormatInternal s 0x40000 bytePerCluster sceFsType r x
  else (⟨r.base, []⟩, x)

def kFormatDevice (device : υ) (r : FormatResults) (x : KernIo) : Served × KernIo :=
  let (state, x) := enterSyscall x
  let x := { x with formatDevice := strncpyUserToKernel device x.formatDevice }
  -- this way out leaves the register as ENTER_SYSCALL set it
  if deviceWhitelistCheck x.formatDevice then (⟨deviceWhitelistFailed, []⟩, x)
  else
    let (res, x) := fatfsExecFormat x.formatDevice 0x8000 fatFormatTypeExfat r x
    (res, exitSyscall state x)

/-! ## Calls -/

inductive IoCall (υ : Type) where
  | openDevice (device : υ) (permission : UInt32) (openResult : Int)
  | writeDevice (fd : Int) (size : UInt32) (uid writeResult : Int)
  | readDevice (fd : Int) (size : UInt32) (uid readResult : Int)
  | closeDevice (fd : Int)
  | getDeviceSize (device : υ) (openResult lseekResult copyResult : Int)
  | formatDevice (device : υ) (r : FormatResults)

/-- The syscalls as a machine. -/
def kernIo : Machine KernIo (IoCall υ) Served where
  step x c :=
    let y := match c with
      | .openDevice device permission openResult =>
        kOpenDevice strncpyUserToKernel device permission openResult x
      | .writeDevice fd size uid writeResult => kWriteDevice fd size uid writeResult x
      | .readDevice fd size uid readResult => kReadDevice fd size uid readResult x
      | .closeDevice fd => kCloseDevice fd x
      | .getDeviceSize device openResult lseekResult copyResult =>
        kGetDeviceSize strncpyUserToKernel device openResult lseekResult copyResult x
      | .formatDevice device r => kFormatDevice strncpyUserToKernel device r x
    (y.2, y.1)

/-! ## The write policy -/

theorem deviceWhitelistCheck_iff (device : KDevice) :
    deviceWhitelistCheck device = true ↔ ¬ InGameCart device := by
  unfold deviceWhitelistCheck InGameCart
  rw [bne_iff_ne, ne_eq, memcmp_eq_zero]

/-- Bit 0 alone decides whether the name is checked. -/
theorem opensForWriting_iff (permission : UInt32) :
    opensForWriting permission = true ↔ permission &&& 1 ≠ 0 := by
  have hmask : (oWronly ||| oWronly ||| oAppend ||| oTrunc ||| oCreat) ≠ 0 := by decide
  unfold opensForWriting
  rw [if_pos hmask, bne_iff_ne]

theorem not_writeCapable_rdonly : ¬ WriteCapable (oRdonly ||| oRdlock) := by
  unfold WriteCapable
  decide

/-- The name in `kOpenDevice` after the copy. -/
def openTarget (device : υ) (x : KernIo) : KDevice := strncpyUserToKernel device x.openDevice

/-- The name in `kFormatDevice` after the copy. -/
def formatTarget (device : υ) (x : KernIo) : KDevice :=
  strncpyUserToKernel device x.formatDevice

/-- Nothing but the whitelist error came of the call. -/
def Served.Refused (r : Served) : Prop := r.ret = deviceWhitelistFailed ∧ r.ops = []

/-- One call keeps to the game cart: a handle for writing, and a format, is for
a name in it, and for another name the call is refused. -/
structure Confined (x : KernIo) (c : IoCall υ) : Prop where
  handle : ∀ device permission openResult, c = .openDevice device permission openResult →
    WriteCapable permission → 0 ≤ ((kernIo strncpyUserToKernel).step x c).2.ret →
      InGameCart (openTarget strncpyUserToKernel device x)
  opened : ∀ device permission result,
    .ioOpen device permission result ∈ ((kernIo strncpyUserToKernel).step x c).2.ops →
      WriteCapable permission → InGameCart device
  formatted : ∀ param, .fatFormat param ∈ ((kernIo strncpyUserToKernel).step x c).2.ops →
    InGameCart param.path
  openRefused : ∀ device permission openResult, c = .openDevice device permission openResult →
    WriteCapable permission → ¬ InGameCart (openTarget strncpyUserToKernel device x) →
      ((kernIo strncpyUserToKernel).step x c).2.Refused
  formatRefused : ∀ device r, c = .formatDevice device r →
    ¬ InGameCart (formatTarget strncpyUserToKernel device x) →
      ((kernIo strncpyUserToKernel).step x c).2.Refused

/-- The condition on a call: a word for writing has bit 0 set as well, or the
name is one of the game cart. -/
def Checked (x : KernIo) (c : IoCall υ) : Prop :=
  ∀ device permission openResult, c = .openDevice device permission openResult →
    WriteCapable permission →
      permission &&& 1 ≠ 0 ∨ InGameCart (openTarget strncpyUserToKernel device x)

/-! ## What a call asks for -/

theorem kOpenDevice_refuses (device : υ) {permission : UInt32} (openResult : Int) {x : KernIo}
    (hbit : permission &&& 1 ≠ 0)
    (hdevice : ¬ InGameCart (openTarget strncpyUserToKernel device x)) :
    (kOpenDevice strncpyUserToKernel device permission openResult x).1 =
      ⟨deviceWhitelistFailed, []⟩ := by
  have htest : (opensForWriting permission &&
      deviceWhitelistCheck (openTarget strncpyUserToKernel device x)) = true := by
    rw [Bool.and_eq_true, opensForWriting_iff, deviceWhitelistCheck_iff]
    exact ⟨hbit, hdevice⟩
  unfold openTarget at htest
  unfold kOpenDevice kOpenDeviceInner
  dsimp only
  rw [if_pos htest]

theorem kOpenDevice_opens (device : υ) {permission : UInt32} (openResult : Int) {x : KernIo}
    (h : permission &&& 1 = 0 ∨ InGameCart (openTarget strncpyUserToKernel device x)) :
    (kOpenDevice strncpyUserToKernel device permission openResult x).1 =
      ⟨openResult, [.ioOpen (openTarget strncpyUserToKernel device x) permission openResult]⟩ := by
  have htest : ¬ (opensForWriting permission &&
      deviceWhitelistCheck (openTarget strncpyUserToKernel device x)) = true := by
    rw [Bool.and_eq_true, opensForWriting_iff, deviceWhitelistCheck_iff]
    rintro ⟨hbit, hdevice⟩
    rcases h with hclear | hcart
    · exact hbit hclear
    · exact hdevice hcart
  unfold openTarget at htest ⊢
  unfold kOpenDevice kOpenDeviceInner
  dsimp only
  rw [if_neg htest]

/-- `FatfsExecFormat` formats nothing but the name it is given, and opens
nothing. -/
theorem fatfsExecFormat_ops (s : KDevice) (bytePerCluster sceFsType : UInt32)
    (r : FormatResults) (x : KernIo) (op : KernelOp)
    (hop : op ∈ (fatfsExecFormat s bytePerCluster sceFsType r x).1.ops) :
    (∃ param, op = .fatFormat param ∧ param.path = s) ∨ op = .ioSync s := by
  unfold fatfsExecFormat at hop
  split at hop
  · simp at hop
  · split at hop
    · unfold fatfsExecFormatInternal at hop
      dsimp only at hop
      split at hop
      · simp at hop
      · split at hop
        · simp at hop
        · split at hop
          · rcases List.mem_cons.mp hop with rfl | hsync
            · exact Or.inl ⟨_, rfl, rfl⟩
            · exact Or.inr (List.mem_singleton.mp hsync)
          · exact Or.inl ⟨_, List.mem_singleton.mp hop, rfl⟩
    · simp at hop

theorem kFormatDevice_refuses {device : υ} (r : FormatResults) {x : KernIo}
    (hdevice : ¬ InGameCart (formatTarget strncpyUserToKernel device x)) :
    (kFormatDevice strncpyUserToKernel device r x).1 = ⟨deviceWhitelistFailed, []⟩ := by
  have htest := (deviceWhitelistCheck_iff _).mpr hdevice
  unfold formatTarget at htest
  unfold kFormatDevice enterSyscall
  dsimp only
  rw [if_pos htest]

theorem kFormatDevice_ops {device : υ} (r : FormatResults) {x : KernIo} (op : KernelOp)
    (hop : op ∈ (kFormatDevice strncpyUserToKernel device r x).1.ops) :
    (∃ param, op = .fatFormat param ∧
        param.path = formatTarget strncpyUserToKernel device x) ∨
      op = .ioSync (formatTarget strncpyUserToKernel device x) := by
  unfold kFormatDevice enterSyscall at hop
  dsimp only at hop
  split at hop
  · simp at hop
  · exact fatfsExecFormat_ops _ _ _ r _ op hop

theorem kGetDeviceSize_ops {device : υ} (openResult lseekResult copyResult : Int) {x : KernIo}
    (op : KernelOp)
    (hop : op ∈ (kGetDeviceSize strncpyUserToKernel device openResult lseekResult copyResult
      x).1.ops) :
    (∃ device, op = .ioOpen device (oRdonly ||| oRdlock) openResult) ∨
      op = .ioLseek openResult ∨ op = .ioClose openResult := by
  have hinner : (kGetDeviceSize strncpyUserToKernel device openResult lseekResult copyResult
      x).1.ops = (kGetDeviceSizeInner (strncpyUserToKernel device x.sizeDevice) openResult
        lseekResult { x with sizeDevice := strncpyUserToKernel device x.sizeDevice }).1.ops := by
    unfold kGetDeviceSize
    dsimp only
    split <;> rfl
  rw [hinner] at hop
  unfold kGetDeviceSizeInner ksceKernelSetPermission at hop
  dsimp only at hop
  split at hop
  · exact Or.inl ⟨_, List.mem_singleton.mp hop⟩
  · simp only [List.mem_cons, List.not_mem_nil, or_false] at hop
    rcases hop with hopen | hseek | hclose
    · exact Or.inl ⟨_, hopen⟩
    · exact Or.inr (Or.inl hseek)
    · exact Or.inr (Or.inr hclose)

/-! ## One call -/

theorem step_openDevice (x : KernIo) (device : υ) (permission : UInt32) (openResult : Int) :
    ((kernIo strncpyUserToKernel).step x (.openDevice device permission openResult)).2 =
      (kOpenDevice strncpyUserToKernel device permission openResult x).1 :=
  rfl

theorem step_getDeviceSize (x : KernIo) (device : υ) (openResult lseekResult copyResult : Int) :
    ((kernIo strncpyUserToKernel).step x
        (.getDeviceSize device openResult lseekResult copyResult)).2 =
      (kGetDeviceSize strncpyUserToKernel device openResult lseekResult copyResult x).1 :=
  rfl

theorem step_formatDevice (x : KernIo) (device : υ) (r : FormatResults) :
    ((kernIo strncpyUserToKernel).step x (.formatDevice device r)).2 =
      (kFormatDevice strncpyUserToKernel device r x).1 :=
  rfl

/-- The calls other than `kOpenDevice` are confined whatever they are given. -/
theorem confined_of_ops {x : KernIo} {c : IoCall υ}
    (hopen : ∀ device permission openResult, c ≠ .openDevice device permission openResult)
    (hformat : ∀ device r, c ≠ .formatDevice device r)
    (hops : ∀ op ∈ ((kernIo strncpyUserToKernel).step x c).2.ops,
      (∀ device permission result, op = .ioOpen device permission result →
        ¬ WriteCapable permission) ∧ ∀ param, op ≠ .fatFormat param) :
    Confined strncpyUserToKernel x c where
  handle := by
    intro device permission openResult hc
    exact absurd hc (hopen _ _ _)
  opened := by
    intro device permission result hop hwrite
    exact absurd hwrite ((hops _ hop).1 _ _ _ rfl)
  formatted := by
    intro param hop
    exact absurd rfl ((hops _ hop).2 param)
  openRefused := by
    intro device permission openResult hc
    exact absurd hc (hopen _ _ _)
  formatRefused := by
    intro device r hc
    exact absurd hc (hformat _ _)

theorem confined_formatDevice (x : KernIo) (device : υ) (r : FormatResults) :
    Confined strncpyUserToKernel x (.formatDevice device r) where
  handle := by
    intro device' permission openResult hc
    cases hc
  opened := by
    intro device' permission result hop hwrite
    rw [step_formatDevice] at hop
    -- formatting formats and syncs, but opens nothing
    rcases kFormatDevice_ops strncpyUserToKernel r _ hop with ⟨param, hparam, -⟩ | hsync
    · cases hparam
    · cases hsync
  formatted := by
    intro param hop
    rw [step_formatDevice] at hop
    by_cases hcart : InGameCart (formatTarget strncpyUserToKernel device x)
    · rcases kFormatDevice_ops strncpyUserToKernel r _ hop with ⟨param', hparam, hpath⟩ | hsync
      · cases hparam
        rw [hpath]
        exact hcart
      · cases hsync
    · rw [kFormatDevice_refuses strncpyUserToKernel r hcart] at hop
      cases hop
  openRefused := by
    intro device' permission openResult hc
    cases hc
  formatRefused := by
    intro device' r' hc hdevice
    cases hc
    rw [step_formatDevice, kFormatDevice_refuses strncpyUserToKernel r hdevice]
    exact ⟨rfl, rfl⟩

/-- `kOpenDevice` is confined exactly when its word is checked. -/
theorem confined_openDevice_iff (x : KernIo) (device : υ) (permission : UInt32)
    (openResult : Int) :
    Confined strncpyUserToKernel x (.openDevice device permission openResult) ↔
      (WriteCapable permission →
        permission &&& 1 ≠ 0 ∨ InGameCart (openTarget strncpyUserToKernel device x)) := by
  constructor
  · intro hconfined hwrite
    by_contra hunchecked
    rw [not_or, not_not] at hunchecked
    rcases hunchecked with ⟨hbit, hdevice⟩
    -- the name is not looked at, and the device is opened
    have hopens := kOpenDevice_opens strncpyUserToKernel device openResult
      (show permission &&& 1 = 0 ∨ InGameCart (openTarget strncpyUserToKernel device x) from
        Or.inl hbit)
    have hrefused := hconfined.openRefused device permission openResult rfl hwrite hdevice
    rw [step_openDevice, hopens] at hrefused
    cases hrefused.2
  · intro hchecked
    by_cases hopens :
        permission &&& 1 = 0 ∨ InGameCart (openTarget strncpyUserToKernel device x)
    · -- the device is opened: with a word for reading only, or in the game cart
      have hserved := kOpenDevice_opens strncpyUserToKernel device openResult hopens
      have hcart : WriteCapable permission →
          InGameCart (openTarget strncpyUserToKernel device x) := by
        intro hwrite
        rcases hchecked hwrite with hbit | hcart
        · rcases hopens with hclear | hcart
          · exact absurd hclear hbit
          · exact hcart
        · exact hcart
      constructor
      · intro device' permission' openResult' hc hwrite _
        cases hc
        exact hcart hwrite
      · intro device' permission' result hop hwrite
        rw [step_openDevice, hserved] at hop
        cases List.mem_singleton.mp hop
        exact hcart hwrite
      · intro param hop
        rw [step_openDevice, hserved] at hop
        cases List.mem_singleton.mp hop
      · intro device' permission' openResult' hc hwrite hdevice
        cases hc
        exact absurd (hcart hwrite) hdevice
      · intro device' r hc
        cases hc
    · -- bit 0 is set and the name is another one: nothing is asked of the kernel
      rw [not_or] at hopens
      have hrefused : ((kernIo strncpyUserToKernel).step x
          (.openDevice device permission openResult)).2 = ⟨deviceWhitelistFailed, []⟩ := by
        rw [step_openDevice]
        exact kOpenDevice_refuses strncpyUserToKernel device openResult hopens.1 hopens.2
      constructor
      · intro device' permission' openResult' hc _ hhandle
        rw [hrefused] at hhandle
        exact absurd hhandle (by decide)
      · intro device' permission' result hop
        rw [hrefused] at hop
        cases hop
      · intro param hop
        rw [hrefused] at hop
        cases hop
      · intro device' permission' openResult' _ _ _
        rw [hrefused]
        exact ⟨rfl, rfl⟩
      · intro device' r hc
        cases hc

theorem confined_iff (x : KernIo) (c : IoCall υ) :
    Confined strncpyUserToKernel x c ↔ Checked strncpyUserToKernel x c := by
  cases c with
  | openDevice device permission openResult =>
    rw [confined_openDevice_iff]
    constructor
    · intro h device' permission' openResult' hc
      cases hc
      exact h
    · intro h
      exact h device permission openResult rfl
  | writeDevice fd size uid writeResult =>
    refine iff_of_true (confined_of_ops _ nofun nofun ?_) nofun
    intro op hop
    have hmem : op ∈ (kWriteDevice fd size uid writeResult x).1.ops := hop
    unfold kWriteDevice at hmem
    split at hmem
    · cases hmem
    · cases List.mem_singleton.mp hmem
      exact ⟨nofun, nofun⟩
  | readDevice fd size uid readResult =>
    refine iff_of_true (confined_of_ops _ nofun nofun ?_) nofun
    intro op hop
    have hmem : op ∈ (kReadDevice fd size uid readResult x).1.ops := hop
    unfold kReadDevice at hmem
    split at hmem
    · cases hmem
    · cases List.mem_singleton.mp hmem
      exact ⟨nofun, nofun⟩
  | closeDevice fd =>
    refine iff_of_true (confined_of_ops _ nofun nofun ?_) nofun
    intro op hop
    have hmem : op ∈ (kCloseDevice fd x).1.ops := hop
    cases List.mem_singleton.mp hmem
    exact ⟨nofun, nofun⟩
  | getDeviceSize device openResult lseekResult copyResult =>
    refine iff_of_true (confined_of_ops _ nofun nofun ?_) nofun
    intro op hop
    rw [step_getDeviceSize] at hop
    rcases kGetDeviceSize_ops strncpyUserToKernel openResult lseekResult copyResult op hop with
      ⟨device', rfl⟩ | rfl | rfl
    · -- the device is opened to find its end, with a word for reading
      refine ⟨?_, nofun⟩
      intro device'' permission result heq
      cases heq
      exact not_writeCapable_rdonly
    · exact ⟨nofun, nofun⟩
    · exact ⟨nofun, nofun⟩
  | formatDevice device r =>
    exact iff_of_true (confined_formatDevice strncpyUserToKernel x device r) nofun

/-! ## Runs -/

/-- In a run of the syscalls every call keeps to the game cart if and only if
every `kOpenDevice` with a word for writing has bit 0 of the word set or names
a device of the game cart. -/
theorem writeConfined_iff (permission : Int) (syscall : UInt32) (calls : List (IoCall υ)) :
    (kernIo strncpyUserToKernel).EveryStep (Confined strncpyUserToKernel)
        (KernIo.init permission syscall) calls ↔
      (kernIo strncpyUserToKernel).EveryStep (Checked strncpyUserToKernel)
        (KernIo.init permission syscall) calls :=
  (kernIo strncpyUserToKernel).everyStep_congr (confined_iff strncpyUserToKernel) _ calls

/-- A caller's string of fewer than `maxPath` bytes, copied with its end. -/
def strncpyString (s : List UInt8) (device : KDevice) : KDevice :=
  Vector.ofFn fun i => if i.val < s.length then s.getD i 0
    else if i.val = s.length then 0 else device[i]

/-- "sdstor0:int-lp-ign-os" -/
def internalStorage : List UInt8 :=
  [0x73, 0x64, 0x73, 0x74, 0x6F, 0x72, 0x30, 0x3A, 0x69, 0x6E, 0x74, 0x2D, 0x6C, 0x70, 0x2D,
    0x69, 0x67, 0x6E, 0x2D, 0x6F, 0x73]

theorem internalStorage_not_inGameCart (device : KDevice) :
    ¬ InGameCart (strncpyString internalStorage device) := by
  intro h
  have hget := congrArg (fun v : Vector UInt8 11 => v[8]) h
  simp [strncpyString, internalStorage, gcdPrefix] at hget

/-- Internal storage is opened for writing with `SCE_O_WRONLY` alone. -/
theorem not_writeConfined_wronly :
    ¬ (kernIo strncpyString).EveryStep (Confined strncpyString) (KernIo.init 0 0)
      [.openDevice internalStorage oWronly 0x10001] := by
  intro h
  have hconfined := h [] _ [] rfl
  rw [confined_openDevice_iff] at hconfined
  have hwrite : WriteCapable oWronly := ⟨oWronly, by decide, by decide⟩
  rcases hconfined hwrite with hbit | hcart
  · exact absurd hbit (by decide)
  · exact internalStorage_not_inGameCart _ hcart

end GcToolKit.Kern
