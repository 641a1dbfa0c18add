import Mathlib.Algebra.Group.Int.Defs
import GcToolKit.Lib.ByteFile
import GcToolKit.Lib.DoWhile
import GcToolKit.Net.Packet

/-!
# The receiver on the PC (pc/main.c)

`receive_packets` serves one connection. What a read on the socket comes to is
up to a parameter, and so is what depends on the platform of the PC; its files are
the state.
-/

namespace GcToolKit.Net

open ByteBuf ByteFile DoWhile LittleEndian

/-! ## File names -/

/-- `IS_ASCII` -/
def isAscii (c : UInt8) : Bool := c < 0x7F

/-- The bytes of `/\:?*"|>`, newline, carriage return and `<`. -/
def illegalChars : List UInt8 :=
  [0x2F, 0x5C, 0x3A, 0x3F, 0x2A, 0x22, 0x7C, 0x3E, 0x0A, 0x0D, 0x3C]

/-- What the loop of `remove_illegal_chars` leaves of one byte. -/
def removeIllegalChar (c : UInt8) : UInt8 :=
  if ¬ isAscii c then c else if c ∈ illegalChars then 0x20 else c

theorem removeIllegalChar_ne_zero (c : UInt8) (hc : c ≠ 0) : removeIllegalChar c ≠ 0 := by
  unfold removeIllegalChar
  split
  · exact hc
  · split
    · decide
    · exact hc

def removeIllegalChars (str : CString) : CString :=
  str.map removeIllegalChar removeIllegalChar_ne_zero

/-- `remove_illegal_chars` in its buffer, up to where the string ends. -/
def removeIllegalCharsIn {n : Nat} (str : Vector UInt8 n) : Vector UInt8 n :=
  let slen := (CString.ofBuffer str).bytes.length
  Vector.ofFn fun i => if i.val < slen then removeIllegalChar (str.get i) else str.get i

/-! ## Reads and files -/

/-- What `READ_SOCKET` comes to: bytes, none of them when the peer has closed
the connection, or an error. `stored` is what the `fwrite` behind it, which is then
given the length -1, puts into the file. -/
inductive ReadResult where
  | bytes (data : List UInt8)
  | error (stored : List UInt8)
deriving DecidableEq

def ReadResult.rd : ReadResult → Int
  | bytes data => data.length
  | error _ => -1

/-- What the `fwrite` behind the read puts into the file. -/
def ReadResult.data : ReadResult → List UInt8
  | bytes data => data
  | error stored => stored

/-- A socket: the result of a read of at most so many bytes. -/
abbrev Socket (κ : Type) := κ → Nat → ReadResult × κ

abbrev Files := CString → Option (List UInt8)

/-- The PC: for which names `fopen` succeeds, what lies behind the packet in
memory, and where `fseek` goes with the offset of a packet, which it takes for a
`long`. -/
structure Pc where
  canOpen : CString → Bool
  stack : Nat → UInt8
  /-- None where it fails. -/
  fseek : Nat → Option Nat
  /-- Every `long` has 32 bits at least. -/
  fseek_small : ∀ offset < 2 ^ 31, fseek offset = some offset

/-- `fseek` where a `long` has so many bits: the offset loses those above, and a
negative one fails. -/
def seekLong (bits offset : Nat) : Option Nat :=
  if offset % 2 ^ bits < 2 ^ (bits - 1) then some (offset % 2 ^ bits) else none

theorem seekLong_small {bits offset : Nat} (hbits : 32 ≤ bits) (h : offset < 2 ^ 31) :
    seekLong bits offset = some offset := by
  have hhalf : 2 ^ 31 ≤ 2 ^ (bits - 1) := Nat.pow_le_pow_right (by decide) (by omega)
  have hwhole : 2 ^ 31 ≤ 2 ^ bits := Nat.pow_le_pow_right (by decide) (by omega)
  unfold seekLong
  rw [Nat.mod_eq_of_lt (Nat.lt_of_lt_of_le h hwhole), if_pos (Nat.lt_of_lt_of_le h hhalf)]

/-- A PC on which every name can be opened, with a `long` of so many bits. -/
def Pc.ofLong (bits : Nat) (hbits : 32 ≤ bits) : Pc where
  canOpen _ := true
  stack _ := 0
  fseek := seekLong bits
  fseek_small _ := seekLong_small hbits

/-- What is printed. -/
inductive Report where
  | receiving (filename : CString) (totalSize : Nat)
  | received (filename : CString)
  | patching (filename : CString) (patchSize offset : Nat)
  | invalidMagic (magic : Nat)
  | incorrectSize (rd : Int)
deriving DecidableEq

structure Session where
  files : Files
  reports : List Report

/-! ## The receive loop -/

/-- `work_buffer` is an array of `WORKBUF_SIZE` pointers. Where a pointer has 4 bytes, a
read brings at most half as much, as a socket may do anyway. -/
def workBufferSize : Nat := 0x20000 * 8

/-- The variables of the loop, with the contents of the file so far and the
lengths given to `fwrite`, the latest first. -/
structure Receiving (κ : Type) where
  totalRead : Nat
  content : List UInt8
  lengths : List Int
  conn : κ

variable {κ : Type} (socket : Socket κ)

/-- One pass; `total_read` is a `uint64_t`. -/
def receiveBody (totalSize : Nat) (s : Receiving κ) : Pass (Receiving κ) (Receiving κ) :=
  let (r, conn) := socket s.conn workBufferSize
  let s : Receiving κ :=
    { totalRead := ((s.totalRead + r.rd) % 2 ^ 64).toNat
      content := s.content ++ r.data
      lengths := r.rd :: s.lengths
      conn := conn }
  if s.totalRead < totalSize then .again s else .exit s

def receiveFile (fuel totalSize : Nat) (conn : κ) : Option (Receiving κ) :=
  run (receiveBody socket totalSize) fuel ⟨0, [], [], conn⟩

/-! ## receive_packets -/

variable (pc : Pc)

/-- The bytes from `off` on, also behind the packet. -/
def readPacket (packet : Packet) (off size : Nat) : List UInt8 :=
  (List.range size).map fun i =>
    if h : off + i < packetSize then packet[off + i] else pc.stack (off + i - packetSize)

/-- Within a member the bytes are those of the member. -/
theorem readPacket_field {len k : Nat} (f : Field packetSize len) (packet : Packet)
    (hk : k ≤ len) : readPacket pc packet f.off k = (f.get packet).toList.take k := by
  have hbound := f.bound
  unfold readPacket
  apply List.ext_getElem
  · rw [List.length_map, List.length_range, List.length_take, Vector.length_toList,
      Nat.min_eq_left hk]
  · intro i hi hi'
    have hik : i < k := by
      rw [List.length_map, List.length_range] at hi
      exact hi
    have hin : f.off + i < packetSize := by omega
    have hmember : (f.get packet)[i] = packet[f.off + i] := getElem_slice ..
    rw [List.getElem_map, List.getElem_range, dif_pos hin, List.getElem_take,
      Vector.getElem_toList, hmember]

/-- The name a send packet is opened under. -/
def sendFilename (packet : Packet) : CString :=
  removeIllegalChars (CString.ofBuffer ((SendFile.filename.get packet).set 0x205 0))

/-- The name a patch packet is opened under. -/
def patchFilename (packet : Packet) : CString :=
  removeIllegalChars (CString.ofBuffer ((PatchFile.filename.get packet).set 0x4F 0))

/-! A name that is too long is cut where the member ends. -/

theorem sendFilename_sendFilePacket (filename : CString) (fileSize : Nat) :
    sendFilename (sendFilePacket filename fileSize) =
      removeIllegalChars (filename.take (0x206 - 1)) := by
  unfold sendFilename
  rw [sendFilePacket_filename]
  exact congrArg removeIllegalChars (CString.ofBuffer_set_strncpy filename (by decide))

theorem patchFilename_patchFilePacket (filename : CString) (offset : UInt32) (data : List UInt8) :
    patchFilename (patchFilePacket filename offset data) =
      removeIllegalChars (filename.take (0x50 - 1)) := by
  unfold patchFilename
  rw [patchFilePacket_filename]
  exact congrArg removeIllegalChars (CString.ofBuffer_set_strncpy filename (by decide))

def receiveSend (fuel : Nat) (packet : Packet) (files : Files) (conn : κ) : Option Session :=
  let filename := sendFilename packet
  let totalSize := getLe SendFile.totalSize packet
  if pc.canOpen filename then
    (receiveFile socket fuel totalSize conn).map fun s =>
      ⟨Function.update files filename (some s.content),
        [.receiving filename totalSize, .received filename]⟩
  else some ⟨files, [.receiving filename totalSize]⟩

theorem patchTerminator_lt : 0x4F < 0x50 := by decide

/-- A patch packet whose name has been terminated and rid of illegal bytes. -/
def patchInPlace (packet : Packet) : Packet :=
  PatchFile.filename.put packet
    (removeIllegalCharsIn ((PatchFile.filename.get packet).set 0x4F 0 patchTerminator_lt))

/-- The name stands behind the data. -/
theorem patchData_patchInPlace (packet : Packet) :
    PatchFile.patchData.get (patchInPlace packet) = PatchFile.patchData.get packet :=
  Field.get_put_apart _ _ _ _ (by decide)

/-- `fopen` with "r+b" wants the file to be there. What is written is taken from
the packet as it is then. -/
def receivePatch (packet : Packet) (files : Files) : Session :=
  let filename := patchFilename packet
  let offset := getLe PatchFile.offset packet
  let patchSize := getLe PatchFile.patchSize packet
  let reports := [.patching filename patchSize offset]
  match files filename with
  | some content =>
    if pc.canOpen filename then
      match pc.fseek offset with
      | some position =>
        let patch := readPacket pc (patchInPlace packet) PatchFile.patchData.off patchSize
        ⟨Function.update files filename (some (writeAt content position patch)), reports⟩
      | none => ⟨files, reports⟩
    else ⟨files, reports⟩
  | none => ⟨files, reports⟩

theorem reports_receivePatch (packet : Packet) (files : Files) :
    (receivePatch pc packet files).reports =
      [.patching (patchFilename packet) (getLe PatchFile.patchSize packet)
        (getLe PatchFile.offset packet)] := by
  unfold receivePatch
  dsimp only
  split
  · split
    · split <;> rfl
    · rfl
  · rfl

/-- `packet_data` after `memset` and the read. -/
def packetOf (data : List UInt8) : Packet := Vector.ofFn fun i => data.getD i 0

def receivePackets (fuel : Nat) (files : Files) (conn : κ) : Option Session :=
  let (r, conn) := socket conn packetSize
  if r.rd = -1 then some ⟨files, []⟩
  else if r.rd = packetSize then
    let packet := packetOf r.data
    if getLe magicField packet = sendFileMagic then receiveSend socket pc fuel packet files conn
    else if getLe magicField packet = patchFileMagic then some (receivePatch pc packet files)
    else some ⟨files, [.invalidMagic (getLe magicField packet)]⟩
  else some ⟨files, [.incorrectSize r.rd]⟩

/-- What is done with a whole packet. -/
def servePacket (fuel : Nat) (packet : Packet) (files : Files) (conn : κ) : Option Session :=
  if getLe magicField packet = sendFileMagic then receiveSend socket pc fuel packet files conn
  else if getLe magicField packet = patchFileMagic then some (receivePatch pc packet files)
  else some ⟨files, [.invalidMagic (getLe magicField packet)]⟩

/-! ## What the first read decides -/

section FirstRead

variable {socket} {conn conn' : κ} {r : ReadResult}

/-- Anything but a whole packet ends the connection. -/
theorem receivePackets_incorrectSize (hread : socket conn packetSize = (r, conn'))
    (herror : r.rd ≠ -1) (hsize : r.rd ≠ packetSize) (fuel : Nat) (files : Files) :
    receivePackets socket pc fuel files conn = some ⟨files, [.incorrectSize r.rd]⟩ := by
  unfold receivePackets
  rw [hread]
  dsimp only
  rw [if_neg herror, if_neg hsize]

theorem receivePackets_whole_packet (hread : socket conn packetSize = (r, conn'))
    (hsize : r.rd = packetSize) (fuel : Nat) (files : Files) :
    receivePackets socket pc fuel files conn =
      servePacket socket pc fuel (packetOf r.data) files conn' := by
  have herror : r.rd ≠ -1 := by
    rw [hsize]
    decide
  unfold receivePackets
  rw [hread]
  dsimp only
  rw [if_neg herror, if_pos hsize]
  rfl

theorem receivePackets_send (hread : socket conn packetSize = (r, conn'))
    (hsize : r.rd = packetSize) (hmagic : getLe magicField (packetOf r.data) = sendFileMagic)
    (fuel : Nat) (files : Files) :
    receivePackets socket pc fuel files conn =
      receiveSend socket pc fuel (packetOf r.data) files conn' := by
  rw [receivePackets_whole_packet pc hread hsize]
  unfold servePacket
  rw [if_pos hmagic]

end FirstRead

end GcToolKit.Net
