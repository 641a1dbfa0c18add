import GcToolKit.Lib.DoWhile
import GcToolKit.Lib.StreamHash
import GcToolKit.App.Formats
import GcToolKit.App.Net

/-!
# Dumping a device (app/device.c, app/menu.c)

The functions of the backup, from the size queries to `do_device_dump`. A
function that runs the copy loop takes the number of passes it may make and
gives nothing when they do not suffice; `create_vci_header` gives nothing when
it is left without keys, where the code reads through a null pointer.
-/

namespace GcToolKit.App

open DoWhile LittleEndian GcToolKit.Crypto GcToolKit.Cmd56
open GcToolKit.Kern (KernelDigests kGetSecret kGetHash kGetPerCartKeys oRdonly oWronly oCreat
  oTrunc oRdlock)

/-! ## Sizes -/

def sectorSize : Nat := 0x200

/-- A sum of `uint64_t`. -/
def addU64 (a b : Nat) : Nat := (a + b) % 2 ^ 64

/-- A difference of `uint64_t`. -/
def subU64 (a b : Nat) : Nat := (a + (2 ^ 64 - b % 2 ^ 64)) % 2 ^ 64

/-! Each function returns the result, what is then at the pointer `size`, and
the world. -/

def getDeviceSize (blockDevice : CString) (size : Nat) (w : World) : Int × Nat × World :=
  let (started, w) := isModuleStarted w
  if ¬ started then (kernelModuleFailedStart, size, w) else kGetDeviceSize blockDevice size w

/-- `SCE_MBR_MAGIC`, "Sony Computer Entertainment Inc." -/
def sceMbrMagic : List UInt8 :=
  [0x53, 0x6F, 0x6E, 0x79, 0x20, 0x43, 0x6F, 0x6D, 0x70, 0x75, 0x74, 0x65, 0x72, 0x20, 0x45,
    0x6E, 0x74, 0x65, 0x72, 0x74, 0x61, 0x69, 0x6E, 0x6D, 0x65, 0x6E, 0x74, 0x20, 0x49, 0x6E,
    0x63, 0x2E]

/-- `len` bytes of the master boot record as an integer. -/
def mbrInt (mbr : List UInt8) (off len : Nat) : Nat := ofLe ((mbr.drop off).take len)

/-- The end of partition `i`, 0 for an empty entry; offset and size are
multiplied as 32 bit integers. -/
def partitionEnd (mbr : List UInt8) (i : Nat) : Nat :=
  let off := mbrInt mbr (0x50 + 0x11 * i) 4
  let sz := mbrInt mbr (0x54 + 0x11 * i) 4
  let code := mbrInt mbr (0x58 + 0x11 * i) 1
  if code = 0 then 0 else off * sectorSize % 2 ^ 32 + sz * sectorSize % 2 ^ 32

/-- The end of the last partition, 0 without a valid master boot record. -/
def lastPartitionEnd (mbr : List UInt8) : Nat :=
  if mbr.length = sectorSize ∧ mbr.take 0x20 = sceMbrMagic ∧ mbrInt mbr 0x20 4 = 0x03 then
    (List.range 0x10).foldl
      (fun deviceSize i => if partitionEnd mbr i > deviceSize then partitionEnd mbr i
        else deviceSize) 0
  else 0

/-- The size the sector that was read gives. -/
def mbrDeviceSize : ReadOutcome → Nat
  | .bytes data => lastPartitionEnd data
  | .error _ _ => 0

def getTrimmedSize (blockDevice : CString) (size : Nat) (w : World) : Int × Nat × World :=
  let (started, w) := isModuleStarted w
  if ¬ started then (kernelModuleFailedStart, size, w)
  else
    let (dfd, w) := kOpenDevice blockDevice (oRdonly ||| oRdlock) w
    if dfd < 0 then (dfd, size, w)
    else
      let (mbr, w) := kReadDevice dfd sectorSize w
      let deviceSize := mbrDeviceSize mbr
      let (_, w) := kCloseDevice dfd w
      if deviceSize ≤ 0 then (0, deviceSize, w) else getDeviceSize blockDevice size w

def getHeaderSize : BackupFormat → Nat
  | .psvTrim | .psv => 0x200
  | .vciTrim | .vci => 0x200
  | .raw => 0

def getEffectiveSize (blockDevice : CString) (format : BackupFormat) (size : Nat) (w : World) :
    Int × Nat × World :=
  let headerSize := getHeaderSize format
  match format with
  | .vci | .psv =>
    let (res, size, w) := getDeviceSize blockDevice size w
    (res, addU64 size headerSize, w)
  | .psvTrim | .vciTrim =>
    let (res, size, w) := getTrimmedSize blockDevice size w
    (res, addU64 size headerSize, w)
  | .raw => getDeviceSize blockDevice size w

/-! ## BackupState -/

/-- `have_sha` is whether there is a context. -/
structure BackupState (κ : Type) where
  blockDevice : CString
  outputPath : CString
  total : Nat
  deviceSize : Nat
  trimSize : Nat
  headerSize : Nat
  effectiveSize : Nat
  shaCtx : Option κ
  rdFd : SceUID
  wrFd : SceUID
  format : BackupFormat
  keys : Option Cmd56Keys
  netInfo : Option NetworkInfo

variable {κ : Type} (digests : KernelDigests) (sha : StreamHash κ (Bytes 0x20))

/-- After the `memset`; both handles are 0. -/
def BackupState.start (blockDevice outputPath : CString) : BackupState κ where
  blockDevice := blockDevice
  outputPath := outputPath
  total := 0
  deviceSize := 0
  trimSize := 0
  headerSize := 0
  effectiveSize := 0
  shaCtx := none
  rdFd := 0
  wrFd := 0
  format := .vci
  keys := none
  netInfo := none

def setupState (blockDevice outputPath : CString) (format : BackupFormat)
    (keys : Option Cmd56Keys) (netInfo : Option NetworkInfo) (w : World) :
    Int × BackupState κ × World :=
  let state := BackupState.start blockDevice outputPath
  let (res, size, w) := getDeviceSize blockDevice state.deviceSize w
  let state := { state with deviceSize := size }
  if res < 0 then (res, state, w)
  else
    let (res, size, w) := getTrimmedSize blockDevice state.trimSize w
    let state := { state with trimSize := size }
    if res < 0 then (res, state, w)
    else
      let state := { state with headerSize := getHeaderSize format }
      let (res, size, w) := getEffectiveSize blockDevice format state.effectiveSize w
      let state := { state with effectiveSize := size }
      if res < 0 then (res, state, w)
      else
        (res, { state with
          format := format
          keys := keys
          netInfo := netInfo
          shaCtx := if fmtIsPsv format then some sha.init else none }, w)

/-! ## Headers -/

/-- `DeviceAccessCallback` for reading and for writing. -/
abbrev ReadFunc (ω : Type) := SceUID → Nat → ω → ReadOutcome × ω
abbrev WriteFunc (ω : Type) := SceUID → List UInt8 → ω → Int × ω

/-- The checks on the result of a write of `size` bytes that must be complete. -/
def wholeWrite (wr : Int) (size : Nat) : Int :=
  if wr = 0 then sizeIsZero else if wr < 0 then wr else if wr ≠ size then sizeNotMatch else 0

def createPsvHeader (wrFunc : WriteFunc World) (state : BackupState κ) (w : World) :
    Int × World :=
  let psv := psvHeader (kGetSecret digests w.kernel) (kGetHash digests w.kernel) state.deviceSize
  let (wr, w) := wrFunc state.wrFd psv.toBytes w
  (wholeWrite wr 0x200, w)

def createVciHeader (wrFunc : WriteFunc World) (state : BackupState κ) (w : World) :
    Option (Int × World) :=
  state.keys.map fun keys =>
    let (wr, w) := wrFunc state.wrFd (vciHeader state.deviceSize keys).toBytes w
    (wholeWrite wr 0x200, w)

def createHeader (wrFunc : WriteFunc World) (state : BackupState κ) (w : World) :
    Option (Int × World) :=
  match state.format with
  | .vci | .vciTrim => createVciHeader wrFunc state w
  | .psv | .psvTrim => some (createPsvHeader digests wrFunc state w)
  | .raw => some (0, w)

/-- Patches the hash in, on disk or over a second connection, where a failure to
connect counts as success. -/
def finalizePsvHeader (state : BackupState κ) (w : World) : Int × World :=
  match state.shaCtx with
  | none => (0, w)
  | some ctx =>
    let offset := PsvHeader.allSectorsSha256Offset
    let sha256Out := (sha.final ctx).toList
    if state.wrFd ≥ 0 then
      match state.netInfo with
      | none =>
        let (seek, w) := sceIoLseek state.wrFd offset w
        if seek = offset then
          let (wr, w) := sceIoWrite state.wrFd sha256Out w
          (wholeWrite wr 0x20, w)
        else (sizeNotMatch, w)
      | some netInfo =>
        let (connection, w) := beginConnection netInfo w
        if connection > 0 then
          let (res, w) := sendFilePatch connection state.outputPath (UInt32.ofNat offset)
            sha256Out w
          let (_, w) := endConnection connection w
          (if res ≥ 0 then 1 else 0, w)
        else (0, w)
    else (0, w)

/-! ## The copy loop -/

/-- `sizeof(DEVICE_DUMP_BUFFER)` -/
def bufferSize : Nat := sectorSize * 0x100

section Loop

variable {ω : Type} (rdFunc : ReadFunc ω) (wrFunc : WriteFunc ω)

/-- One pass of `device_access_loop`: what was read is hashed, and what was
written is counted. -/
def deviceAccessBody (toRead : Nat) (s : BackupState κ × ω) :
    Pass (BackupState κ × ω) (Int × BackupState κ × ω) :=
  let (state, w) := s
  let (rd, w) := rdFunc state.rdFd bufferSize w
  match rd with
  | .error code _ => .exit (code, state, w)
  | .bytes data =>
    if data.length = 0 then .exit (sizeIsZero, state, w)
    else
      let state := { state with shaCtx := state.shaCtx.map fun ctx => sha.update ctx data }
      let (wr, w) := wrFunc state.wrFd data w
      if wr = 0 then .exit (sizeIsZero, state, w)
      else if wr < 0 then .exit (wr, state, w)
      else
        let state := { state with total := addU64 state.total wr.toNat }
        if state.total < toRead then .again (state, w) else .exit (0, state, w)

def deviceAccessLoop (fuel : Nat) (state : BackupState κ) (w : ω) :
    Option (Int × BackupState κ × ω) :=
  let toRead := subU64 state.effectiveSize state.headerSize
  run (deviceAccessBody sha rdFunc wrFunc toRead) fuel (state, w)

end Loop

/-! ## Dumps -/

/-- What follows the label `error` in `dump_device_phys`. -/
def physExit (res : Int) (state : BackupState κ) (w : World) : Int × World :=
  let w := if state.wrFd ≥ 0 then (sceIoClose state.wrFd w).2 else w
  let w := if state.rdFd ≥ 0 then (kCloseDevice state.rdFd w).2 else w
  let w := if res < 0 then (sceIoRemove state.outputPath w).2 else w
  (res, w)

/-- `dump_device_phys` after the copy loop. -/
def physFinish (res : Int) (state : BackupState κ) (w : World) : Int × World :=
  if res < 0 then physExit res state w
  else if fmtIsPsv state.format then
    let (res, w) := finalizePsvHeader sha state w
    physExit res state w
  else physExit res state w

/-- `dump_device_phys` with both handles in the state. -/
def physCopy (fuel : Nat) (state : BackupState κ) (w : World) : Option (Int × World) :=
  (createHeader digests sceIoWrite state w).bind fun (res, w) =>
  if res < 0 then some (physExit res state w)
  else
    (deviceAccessLoop sha kReadDevice sceIoWrite fuel state w).map fun (res, state, w) =>
    physFinish sha res state w

def dumpDevicePhys (fuel : Nat) (state : BackupState κ) (w : World) : Option (Int × World) :=
  let (rdFd, w) := kOpenDevice state.blockDevice (oRdonly ||| oRdlock) w
  let state := { state with rdFd := rdFd }
  -- `wr_fd` is tested here, which is 0: a device that does not open goes unnoticed
  if state.wrFd < 0 then some (physExit state.rdFd state w)
  else
    let (wrFd, w) := sceIoOpen state.outputPath (oWronly ||| oCreat ||| oTrunc) w
    let state := { state with wrFd := wrFd }
    if state.wrFd < 0 then some (physExit state.wrFd state w)
    else physCopy digests sha fuel state w

/-- What follows the label `error` in `dump_device_network`. -/
def networkExit (res : Int) (state : BackupState κ) (w : World) : Int × World :=
  let w := if state.wrFd ≥ 0 then (endConnection state.wrFd w).2 else w
  let w := if state.rdFd ≥ 0 then (kCloseDevice state.rdFd w).2 else w
  (res, w)

def dumpDeviceNetwork (fuel : Nat) (state : BackupState κ) (netInfo : NetworkInfo) (w : World) :
    Option (Int × World) :=
  let (rdFd, w) := kOpenDevice state.blockDevice (oRdonly ||| oRdlock) w
  let state := { state with rdFd := rdFd }
  if state.rdFd < 0 then some (networkExit state.rdFd state w)
  else
    let (wrFd, w) := beginConnection netInfo w
    let state := { state with wrFd := wrFd }
    if state.wrFd < 0 then some (networkExit state.wrFd state w)
    else
      let (res, w) := beginFileSend state.wrFd state.outputPath state.effectiveSize w
      if res < 0 then some (networkExit res state w)
      else
        (createHeader digests fileSendData state w).bind fun (res, w) =>
        if res < 0 then some (networkExit res state w)
        else
          (deviceAccessLoop sha kReadDevice fileSendData fuel state w).map fun (res, state, w) =>
          if res < 0 then networkExit res state w
          else if fmtIsPsv state.format then
            let (res, w) := finalizePsvHeader sha state w
            networkExit res state w
          else networkExit res state w

def dumpDevice (fuel : Nat) (blockDevice outputPath : CString) (format : BackupFormat)
    (keys : Option Cmd56Keys) (netInfo : Option NetworkInfo) (w : World) :
    Option (Int × World) :=
  let (started, w) := isModuleStarted w
  if ¬ started then some (kernelModuleFailedStart, w)
  else
    let (res, state, w) := setupState sha blockDevice outputPath format keys netInfo w
    if res < 0 then some (res, w)
    else match netInfo with
      | none => dumpDevicePhys digests sha fuel state w
      | some netInfo => dumpDeviceNetwork digests sha fuel state netInfo w

/-- `do_device_dump`; the keys are copied out of the kernel for every format
with a header. -/
def doDeviceDump (fuel : Nat) (blockDevice outputFile : CString) (format : BackupFormat)
    (network : Option NetworkInfo) (w : World) : Option (Int × World) :=
  let keys := kGetPerCartKeys w.kernel
  let netInfo := network.map fun net => { net with ipAddress := net.ipAddress.take (0x20 - 1) }
  dumpDevice digests sha fuel blockDevice outputFile format
    (if ¬ fmtIsRaw format then some keys else none) netInfo w

end GcToolKit.App
