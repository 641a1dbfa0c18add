import Mathlib.Algebra.Group.Nat.Defs
import Mathlib.Logic.Function.Basic
import GcToolKit.Lib.ByteFile
import GcToolKit.Lib.CString
import GcToolKit.Kern.AuthEmu
import GcToolKit.Kern.Io

/-!
# What the application calls

`World` is what lies outside the application: the kernel's authentication state,
the block devices, the files, the network, and a stream of outcomes. Every call
draws one outcome: a negative one is the error the call returns, any other one
decides a handle or how many bytes are taken, within what the call can do.
-/

namespace GcToolKit.App

open ByteFile GcToolKit.Kern

abbrev SceUID := Int

/-! ## Error codes -/

def sizeIsZero : Int := -9584
def sizeNotMatch : Int := -9585
def sizeNoSpace : Int := -9686
def kernelModuleFailedStart : Int := -120

/-- Errors of the operating system: 0x80010002, 0x80010009 and 0x80010013. -/
def enoent : Int := -2147418110
def ebadf : Int := -2147418103
def enodev : Int := -2147418093

/-! ## State -/

/-- A block device; its size is an `int64_t`. -/
structure BlockDevice where
  content : List UInt8
  size_lt : content.length < 2 ^ 63

/-- A write at a position; what would go beyond the end is left out. -/
def BlockDevice.write (dev : BlockDevice) (pos : Nat) (data : List UInt8) : BlockDevice where
  content := (writeAt dev.content pos data).take dev.content.length
  size_lt := Nat.lt_of_le_of_lt (List.length_take_le _ _) dev.size_lt

inductive NetEvent where
  | connect (socket : SceUID) (ipAddress : CString) (port : UInt16)
  | send (socket : SceUID) (data : List UInt8)
  | close (socket : SceUID)

/-- An open handle has a name and a position; the network events are in
order, the latest first. -/
structure World where
  kernel : AuthEmu
  devices : CString → Option BlockDevice
  deviceFds : SceUID → Option (CString × Nat)
  files : CString → Option (List UInt8)
  fileFds : SceUID → Option (CString × Nat)
  network : List NetEvent
  outcomes : Nat → Int
  tick : Nat

namespace World

variable (w : World)

/-- Draws an outcome. -/
def outcome : Int × World := (w.outcomes w.tick, { w with tick := w.tick + 1 })

/-- No negative handle is open. -/
def device? (fd : SceUID) : Option (CString × Nat) := if fd < 0 then none else w.deviceFds fd

def file? (fd : SceUID) : Option (CString × Nat) := if fd < 0 then none else w.fileFds fd

end World

/-- What a read comes to. -/
inductive ReadOutcome where
  | bytes (data : List UInt8)
  | error (code : Int) (neg : code < 0)

/-! ## The kernel module -/

/-- `is_module_started(KMODULE_NAME)` -/
def isModuleStarted (w : World) : Bool × World :=
  let (uid, w) := w.outcome
  (decide (uid > 0), w)

def kOpenDevice (device : CString) (_permission : UInt32) (w : World) : SceUID × World :=
  let (r, w) := w.outcome
  if r < 0 then (r, w)
  else match w.devices device with
    | none => (enodev, w)
    | some _ => (r, { w with deviceFds := Function.update w.deviceFds r (some (device, 0)) })

/-- Any number of bytes from 1 on, as far as there are that many; none at the
end of the device. -/
def kReadDevice (fd : SceUID) (size : Nat) (w : World) : ReadOutcome × World :=
  let (r, w) := w.outcome
  if h : r < 0 then (.error r h, w)
  else match w.device? fd with
    | none => (.error ebadf (by decide), w)
    | some (device, pos) =>
      match w.devices device with
      | none => (.error ebadf (by decide), w)
      | some dev =>
        let rest := dev.content.drop pos
        let n := min (min size rest.length) (max 1 r.toNat)
        (.bytes (rest.take n),
          { w with deviceFds := Function.update w.deviceFds fd (some (device, pos + n)) })

theorem ebadf_neg : ebadf < 0 := by decide

/-- As many bytes as the outcome says, up to the end of the device. -/
def kWriteDevice (fd : SceUID) (data : List UInt8) (w : World) : Int × World :=
  let (r, w) := w.outcome
  if r < 0 then (r, w)
  else match w.device? fd with
    | none => (ebadf, w)
    | some (device, pos) =>
      match w.devices device with
      | none => (ebadf, w)
      | some dev =>
        let n := min (min data.length (dev.content.length - pos)) r.toNat
        (n, { w with
          devices := Function.update w.devices device (some (dev.write pos (data.take n)))
          deviceFds := Function.update w.deviceFds fd (some (device, pos + n)) })

def kCloseDevice (fd : SceUID) (w : World) : Int × World :=
  (0, { w with deviceFds := Function.update w.deviceFds fd none })

/-- The result and what is at the pointer afterwards. -/
def kGetDeviceSize (device : CString) (size : Nat) (w : World) : Int × Nat × World :=
  let (r, w) := w.outcome
  if r < 0 then (r, size, w)
  else match w.devices device with
    | none => (enodev, size, w)
    | some dev => (r, dev.content.length, w)

/-! ## Files -/

def sceIoOpen (path : CString) (flags : UInt32) (w : World) : SceUID × World :=
  let (r, w) := w.outcome
  if r < 0 then (r, w)
  else if (w.files path).isNone ∧ flags &&& oCreat = 0 then (enoent, w)
  else
    let content := if flags &&& oTrunc ≠ 0 then [] else (w.files path).getD []
    (r, { w with
      files := Function.update w.files path (some content)
      fileFds := Function.update w.fileFds r (some (path, 0)) })

/-- The result and `st_size`. -/
def sceIoGetstat (path : CString) (w : World) : Int × Nat × World :=
  let (r, w) := w.outcome
  if r < 0 then (r, 0, w)
  else match w.files path with
    | none => (enoent, 0, w)
    | some content => (r, content.length, w)

/-- As many bytes as the outcome says, as far as there are that many. -/
def sceIoRead (fd : SceUID) (size : Nat) (w : World) : ReadOutcome × World :=
  let (r, w) := w.outcome
  if h : r < 0 then (.error r h, w)
  else match w.file? fd with
    | none => (.error ebadf ebadf_neg, w)
    | some (path, pos) =>
      let rest := ((w.files path).getD []).drop pos
      let n := min (min size rest.length) r.toNat
      (.bytes (rest.take n),
        { w with fileFds := Function.update w.fileFds fd (some (path, pos + n)) })

/-- The first bytes of `data` are stored, as many as the outcome says. -/
def sceIoWrite (fd : SceUID) (data : List UInt8) (w : World) : Int × World :=
  let (r, w) := w.outcome
  if r < 0 then (r, w)
  else match w.file? fd with
    | none => (ebadf, w)
    | some (path, pos) =>
      let n := min data.length r.toNat
      let content := writeAt ((w.files path).getD []) pos (data.take n)
      (n, { w with
        files := Function.update w.files path (some content)
        fileFds := Function.update w.fileFds fd (some (path, pos + n)) })

/-- `sceIoLseek` with `SCE_SEEK_SET` -/
def sceIoLseek (fd : SceUID) (offset : Nat) (w : World) : Int × World :=
  let (r, w) := w.outcome
  if r < 0 then (r, w)
  else match w.file? fd with
    | none => (ebadf, w)
    | some (path, _) =>
      (offset, { w with fileFds := Function.update w.fileFds fd (some (path, offset)) })

def sceIoClose (fd : SceUID) (w : World) : Int × World :=
  (0, { w with fileFds := Function.update w.fileFds fd none })

def sceIoRemove (path : CString) (w : World) : Int × World :=
  let (r, w) := w.outcome
  if r < 0 then (r, w) else (r, { w with files := Function.update w.files path none })

/-! ## The network -/

/-- `sceNetConnect` -/
def sceNetConnect (socket : SceUID) (ipAddress : CString) (port : UInt16) (w : World) :
    Int × World :=
  let (r, w) := w.outcome
  if r < 0 then (r, w)
  else (r, { w with network := .connect socket ipAddress port :: w.network })

def sceNetSend (socket : SceUID) (data : List UInt8) (w : World) : Int × World :=
  let (r, w) := w.outcome
  if r < 0 then (r, w)
  else
    let n := min data.length r.toNat
    (n, { w with network := .send socket (data.take n) :: w.network })

def sceNetSocketClose (socket : SceUID) (w : World) : Int × World :=
  let (r, w) := w.outcome
  (r, { w with network := .close socket :: w.network })

end GcToolKit.App
