import GcToolKit.App.Formats
import GcToolKit.Lib.Run
import GcToolKit.Net.Segmentation
import GcToolKit.Net.Threads

/-!
# A PSV image and its patch at the receiver (app/device.c, pc/main.c)

`dump_device_network` sends a PSV image over one connection and, when the last
bytes are on their way, the patch with the hash over another. The receiver has a
thread for each, and nothing makes the second wait for the first: a patch that
comes before the file is there is lost, and one that comes before the header is
there is overwritten by the placeholder.
-/

namespace GcToolKit.App

open ByteBuf ByteFile Run GcToolKit.Crypto GcToolKit.Net

/-! ## What is sent -/

/-- What goes over the two connections. -/
structure PsvUpload where
  filename : CString
  cartSecret : Bytes 0x20
  packet20Sha1 : Bytes 0x14
  deviceSize : Nat
  sectors : List UInt8
  hash : Bytes 0x20
  size_lt : 0x200 + sectors.length < 2 ^ 64

namespace PsvUpload

variable (u : PsvUpload)

/-- The header `create_psv_header` sends. -/
def header : PsvHeader := psvHeader u.cartSecret u.packet20Sha1 u.deviceSize

/-- The first connection, behind its packet. -/
def image : List UInt8 := u.header.toBytes ++ u.sectors

theorem length_image : u.image.length = 0x200 + u.sectors.length := by
  unfold image
  rw [List.length_append, PsvHeader.length_toBytes]

def transfer : Transfer where
  filename := u.filename
  payload := u.image
  size_lt := by
    rw [length_image]
    exact u.size_lt

/-- The patch `finalize_psv_header` sends. -/
def patchPacket : Packet :=
  patchFilePacket u.filename (UInt32.ofNat PsvHeader.allSectorsSha256Offset) u.hash.toList

/-- The image with the hash in place. -/
def patchedImage : List UInt8 :=
  { u.header with allSectorsSha256 := u.hash }.toBytes ++ u.sectors

/-- The name the image is received under. -/
def name : CString := u.transfer.receivedName

/-- The name the patch is for. -/
def patchName : CString := Net.removeIllegalChars (u.filename.take (0x50 - 1))

/-- The hash is the placeholder itself. -/
def Blank : Prop := ∀ j : Fin 0x20, u.hash.get j = 0xFF

end PsvUpload

/-! ## The two threads -/

/-- The files, and the threads of the image and of the patch. -/
structure Race where
  files : Net.Files
  dump : Thread Conn
  patch : Thread Conn

inductive Who where
  | dump
  | patch
deriving DecidableEq

variable (seg seg' : Segmentation) (pc : Pc)

/-- One call of one of the threads; the connections are cut as `seg` and `seg'` say. -/
def receiver : Machine Race Who Unit where
  step s
    | .dump =>
      let (dump, files) := threadStep seg.socket pc s.dump s.files
      ({ s with dump, files }, ())
    | .patch =>
      let (patch, files) := threadStep seg'.socket pc s.patch s.files
      ({ s with patch, files }, ())

variable {seg seg' pc} in
theorem step_dump {s : Race} {r : Thread Conn × Net.Files}
    (hstep : threadStep seg.socket pc s.dump s.files = r) :
    ((receiver seg seg' pc).step s .dump).1 = { s with dump := r.1, files := r.2 } := by
  rw [← hstep]
  rfl

variable {seg seg' pc} in
theorem step_patch {s : Race} {r : Thread Conn × Net.Files}
    (hstep : threadStep seg'.socket pc s.patch s.files = r) :
    ((receiver seg seg' pc).step s .patch).1 = { s with patch := r.1, files := r.2 } := by
  rw [← hstep]
  rfl

variable (u : PsvUpload)

def Race.start (files : Net.Files) : Race where
  files := files
  dump := .accepted u.transfer.conn
  patch := .accepted ⟨u.patchPacket.toList, 0⟩

/-- Once both threads are finished, the file is the image with its hash. -/
def PatchArrives (files : Net.Files) (schedule : List Who) : Prop :=
  let s := ((receiver seg seg' pc).run (Race.start u files) schedule).1
  s.dump = .finished → s.patch = .finished → s.files u.name = some u.patchedImage

/-- How much of the image the first thread has put into the file. -/
def landed : Thread Conn → Nat
  | .reading file _ | .writing file _ _ => file.position
  | .finished => u.image.length
  | _ => 0

/-- The packet comes in one read and the file can be created. -/
def DumpInTime : Thread Conn → Prop
  | .accepted conn => packetSize ≤ seg.cut conn.reads
  | .creating _ _ => pc.canOpen u.name
  | _ => True

/-- The packet comes in one read, the patch finds the file under its name, and the
placeholder is in the file before it, as far as the hash is different. -/
def PatchInTime (dump : Thread Conn) (files : Net.Files) : Thread Conn → Prop
  | .accepted conn => u.Blank ∨ packetSize ≤ seg'.cut conn.reads
  | .opening _ => u.Blank ∨ u.patchName = u.name ∧ (files u.name).isSome ∧ pc.canOpen u.name
  | .patching _ => ∀ j : Fin 0x20, u.hash.get j = 0xFF ∨
      PsvHeader.allSectorsSha256Offset + j < landed u dump
  | _ => True

/-- The next call of the thread does not go wrong. -/
def InTime (s : Race) : Who → Prop
  | .dump => DumpInTime seg pc u s.dump
  | .patch => PatchInTime seg' pc u s.dump s.files s.patch

/-! ## The bytes of the hash -/

section Bytes

variable {u} {p i : Nat}

theorem patchedImage_eq :
    u.patchedImage = writeAt u.image PsvHeader.allSectorsSha256Offset u.hash.toList :=
  (PsvHeader.writeAt_toBytes u.header u.hash u.sectors).symm

theorem length_patchedImage : u.patchedImage.length = u.image.length := by
  unfold PsvUpload.patchedImage PsvUpload.image
  rw [List.length_append, List.length_append, PsvHeader.length_toBytes, PsvHeader.length_toBytes]

/-- The image has the placeholder where the hash goes. -/
theorem image_placeholder {j : Nat} (hj : j < 0x20) :
    u.image[PsvHeader.allSectorsSha256Offset + j]? = some 0xFF := by
  have hfront := u.header.length_front
  have hhash : u.header.allSectorsSha256.toList = List.replicate 0x20 0xFF := rfl
  unfold PsvUpload.image PsvHeader.toBytes
  rw [List.append_assoc, List.append_assoc, List.getElem?_append_right (by omega), hfront,
    Nat.add_sub_cancel_left, hhash, List.getElem?_append_left (by simpa using hj),
    List.getElem?_replicate_of_lt hj]

theorem patchedImage_hash (j : Fin 0x20) :
    u.patchedImage[PsvHeader.allSectorsSha256Offset + j]? = some (u.hash.get j) := by
  have hlen : u.hash.toList.length = 0x20 := Vector.length_toList
  rw [patchedImage_eq, getElem?_writeAt_inside _ _ (by omega) (by omega),
    Nat.add_sub_cancel_left, List.getElem?_eq_getElem (by omega)]
  rfl

/-- From `p` on the two images agree, if the placeholder comes before `p` wherever it
is not the hash itself. -/
theorem patchedImage_rest
    (h : ∀ j : Fin 0x20, u.hash.get j = 0xFF ∨ PsvHeader.allSectorsSha256Offset + j < p)
    (hi : p ≤ i) : u.image[i]? = u.patchedImage[i]? := by
  have hlen : u.hash.toList.length = 0x20 := Vector.length_toList
  by_cases hfront : i < PsvHeader.allSectorsSha256Offset
  · have himage : i < u.image.length := by
      rw [u.length_image]
      exact Nat.lt_of_lt_of_le hfront (Nat.le_add_right_of_le (by decide))
    rw [patchedImage_eq, getElem?_writeAt_before _ _ hfront himage]
  · by_cases hback : PsvHeader.allSectorsSha256Offset + 0x20 ≤ i
    · rw [patchedImage_eq, getElem?_writeAt_behind _ _ (by omega)]
    · obtain ⟨j, hj⟩ : ∃ j : Fin 0x20, i = PsvHeader.allSectorsSha256Offset + j :=
        ⟨⟨i - PsvHeader.allSectorsSha256Offset, by omega⟩, by dsimp only; omega⟩
      rcases h j with hblank | hbefore
      · rw [hj, image_placeholder j.isLt, patchedImage_hash, hblank]
      · omega

theorem patchedImage_blank (h : u.Blank) : u.patchedImage = u.image := by
  apply List.ext_getElem?
  intro i
  exact (patchedImage_rest (fun j => Or.inl (h j)) (Nat.zero_le i)).symm

end Bytes

/-! ## What a call of the first thread can do -/

/-- The file is open. -/
def Opened : Thread Conn → Prop
  | .reading _ _ | .writing _ _ _ | .finished => True
  | _ => False

/-- The variables of the loop after `position` bytes. -/
structure IncomingOk (file : Incoming) : Prop where
  filename : file.filename = u.name
  totalSize : file.totalSize = u.image.length
  totalRead : file.totalRead = file.position
  position : file.position ≤ u.image.length

/-- The thread is where the connection has brought it; it has lost nothing. -/
def DumpOk : Thread Conn → Prop
  | .accepted conn => conn = u.transfer.conn
  | .creating packet conn => packet = u.transfer.packet ∧ conn.left = u.image
  | .reading file conn => IncomingOk u file ∧ conn.left = u.image.drop file.position
  | .writing file r conn => IncomingOk u file ∧
      ∃ data, r = .bytes data ∧ u.image.drop file.position = data ++ conn.left
  | .finished => True
  | _ => False

/-- From `thread` to `thread'`, and from `files` to `files'`. -/
inductive DumpMove (thread thread' : Thread Conn) (files files' : Net.Files) : Prop where
  | idle (hfiles : files' = files) (hlanded : landed u thread' = landed u thread)
      (hopened : Opened thread' ↔ Opened thread)
  | creates (hbefore : ¬ Opened thread) (hafter : Opened thread')
      (hfiles : files' = Function.update files u.name (some []))
      (hlanded : landed u thread' = 0)
  | writes (hbefore : Opened thread) (hafter : Opened thread') (data left : List UInt8)
      (hdata : u.image.drop (landed u thread) = data ++ left)
      (hfiles : files' = Function.update files u.name
        (some (writeAt ((files u.name).getD []) (landed u thread) data)))
      (hlanded : landed u thread' = landed u thread + data.length)

section DumpCalls

variable {u seg seg' pc} {files : Net.Files}

/-- Less than a packet ends the thread. -/
theorem accepted_short {conn : Conn} (h : seg.cut conn.reads < packetSize) :
    threadStep seg.socket pc (.accepted conn) files = (.finished, files) := by
  rcases socket_short seg conn h with ⟨hsize, -⟩
  rcases hread : seg.socket conn packetSize with ⟨r, conn'⟩
  rw [hread] at hsize
  have hended : acceptedStep r conn' = .finished := if_neg hsize
  rw [threadStep_accepted hread, hended]

theorem dump_accepted (hwhole : packetSize ≤ seg.cut 0) :
    threadStep seg.socket pc (.accepted u.transfer.conn) files =
      (.creating u.transfer.packet ⟨u.image, 1⟩, files) :=
  u.transfer.threadStep_accepted hwhole

theorem dump_creating {conn : Conn} (hopen : pc.canOpen u.name = true) :
    threadStep seg.socket pc (.creating u.transfer.packet conn) files =
      (.reading ⟨u.name, u.image.length, 0, 0⟩ conn,
        Function.update files u.name (some [])) :=
  u.transfer.threadStep_creating hopen

theorem dump_writing (seg : Segmentation) (pc : Pc) (files : Net.Files) {file : Incoming}
    (hfile : IncomingOk u file) {data : List UInt8} {conn : Conn}
    (hdata : u.image.drop file.position = data ++ conn.left) :
    ∃ thread', threadStep seg.socket pc (.writing file (.bytes data) conn) files =
        (thread', written file (.bytes data) files) ∧
      DumpOk u thread' ∧ Opened thread' ∧ landed u thread' = file.position + data.length := by
  have hlen := congrArg List.length hdata
  rw [List.length_drop, List.length_append] at hlen
  have hle := hfile.position
  have hfits : file.position + data.length ≤ u.image.length := by omega
  have hsize : u.image.length < 2 ^ 64 := u.transfer.size_lt
  -- the sum does not wrap
  have htotal : (file.next (.bytes data)).totalRead = file.position + data.length := by
    unfold Incoming.next
    dsimp only [ReadResult.rd]
    rw [hfile.totalRead]
    omega
  have htotalSize : (file.next (.bytes data)).totalSize = u.image.length := hfile.totalSize
  by_cases hmore : (file.next (.bytes data)).totalRead < (file.next (.bytes data)).totalSize
  · refine ⟨_, threadStep_writing_more hmore, ⟨⟨hfile.filename, htotalSize, htotal, hfits⟩, ?_⟩,
      trivial, rfl⟩
    have hdrop : u.image.drop (file.position + data.length) = conn.left := by
      rw [← List.drop_drop, hdata, List.drop_left]
    exact hdrop.symm
  · refine ⟨_, threadStep_writing_last hmore, trivial, trivial, ?_⟩
    rw [htotal, htotalSize] at hmore
    exact Nat.le_antisymm (Nat.not_lt.mp hmore) hfits

/-- A call that does not go wrong. -/
theorem dump_move {thread : Thread Conn} (hok : DumpOk u thread)
    (htime : DumpInTime seg pc u thread) :
    let r := threadStep seg.socket pc thread files
    DumpOk u r.1 ∧ DumpMove u thread r.1 files r.2 := by
  cases thread with
  | accepted conn =>
    have hconn : conn = u.transfer.conn := hok
    subst hconn
    rw [dump_accepted htime]
    exact ⟨⟨rfl, rfl⟩, .idle rfl rfl Iff.rfl⟩
  | creating packet conn =>
    rcases hok with ⟨hpacket, hconn⟩
    rw [hpacket, dump_creating htime]
    exact ⟨⟨⟨rfl, rfl, rfl, Nat.zero_le _⟩, hconn⟩, .creates id trivial rfl rfl⟩
  | reading file conn =>
    rcases hok with ⟨hfile, hconn⟩
    rw [threadStep_reading rfl]
    refine ⟨⟨hfile, _, rfl, ?_⟩, .idle rfl rfl Iff.rfl⟩
    rw [← hconn]
    exact (List.take_append_drop _ _).symm
  | writing file r conn =>
    rcases hok with ⟨hfile, data, hr, hdata⟩
    subst hr
    rcases dump_writing seg pc files hfile hdata with
      ⟨thread', hstep, hok', hopened', hlanded'⟩
    rw [hstep]
    refine ⟨hok', .writes trivial hopened' data conn.left hdata ?_ hlanded'⟩
    unfold written
    rw [hfile.filename]
    rfl
  | finished => exact ⟨trivial, .idle rfl rfl Iff.rfl⟩
  -- only the thread of the patch gets there
  | opening packet => exact absurd hok id
  | patching packet => exact absurd hok id

end DumpCalls

/-! ## What a call of the second thread can do -/

def PatchOk : Thread Conn → Prop
  | .accepted conn => conn = ⟨u.patchPacket.toList, 0⟩
  | .opening packet | .patching packet => packet = u.patchPacket
  | .finished => True
  | _ => False

/-- From `thread` to `thread'`, and from `files` to `files'`. -/
inductive PatchMove (thread thread' : Thread Conn) (files files' : Net.Files) : Prop where
  | reads (hfiles : files' = files) (conn : Conn) (hbefore : thread = .accepted conn)
      (hafter : thread' = .opening u.patchPacket) (hwhole : packetSize ≤ seg'.cut conn.reads)
  | opens (hfiles : files' = files) (hbefore : thread = .opening u.patchPacket)
      (hafter : thread' = .patching u.patchPacket)
      (hopen : (files u.patchName).isSome ∧ pc.canOpen u.patchName)
  | givesUp (hfiles : files' = files) (hafter : thread' = .finished)
      (hlate : thread = .finished ∨ ∀ dump, PatchInTime seg' pc u dump files thread → u.Blank)
  | lands (hbefore : thread = .patching u.patchPacket) (hafter : thread' = .finished)
      (hfiles : files' = Function.update files u.patchName
        (some (writeAt ((files u.patchName).getD []) PsvHeader.allSectorsSha256Offset
          u.hash.toList)))

section PatchCalls

variable {u seg' pc} {files : Net.Files}

theorem patchFilename_patchPacket : patchFilename u.patchPacket = u.patchName :=
  patchFilename_patchFilePacket u.filename _ _

theorem offset_patchPacket :
    getLe PatchFile.offset u.patchPacket = PsvHeader.allSectorsSha256Offset :=
  patchFilePacket_offset _ _ _

/-- The bytes the packet carries are the hash. -/
theorem readPacket_patchPacket :
    readPacket pc (patchInPlace u.patchPacket) PatchFile.patchData.off
        (getLe PatchFile.patchSize u.patchPacket) =
      u.hash.toList := by
  have hlen : u.hash.toList.length = 0x20 := Vector.length_toList
  have hsize : getLe PatchFile.patchSize u.patchPacket = 0x20 := by
    unfold PsvUpload.patchPacket
    rw [patchFilePacket_patchSize _ _ _ (by omega), hlen]
  have hdata : PatchFile.patchData.get u.patchPacket =
      Vector.ofFn fun i => u.hash.toList.getD i 0 := patchFilePacket_patchData _ _ _
  rw [hsize, readPacket_field pc _ _ (by decide), patchData_patchInPlace, hdata]
  apply List.ext_getElem
  · rw [List.length_take, Vector.length_toList, hlen]
    rfl
  · intro i hi hi'
    rw [List.getElem_take, Vector.getElem_toList, Vector.getElem_ofFn, List.getD_eq_getElem?_getD,
      List.getElem?_eq_getElem hi', Option.getD_some]

theorem patch_accepted (hwhole : packetSize ≤ seg'.cut 0) :
    threadStep seg'.socket pc (.accepted ⟨u.patchPacket.toList, 0⟩) files =
      (.opening u.patchPacket, files) := by
  have hread : seg'.socket ⟨u.patchPacket.toList, 0⟩ packetSize =
      (.bytes u.patchPacket.toList, ⟨[], 1⟩) := by
    have hread := socket_whole_packet seg' u.patchPacket [] hwhole
    rw [List.append_nil] at hread
    exact hread
  have hmagic : getLe magicField u.patchPacket = patchFileMagic :=
    patchFilePacket_magic _ _ _
  rw [threadStep_accepted hread, acceptedStep_packet, hmagic, if_neg (by decide), if_pos rfl]

theorem patch_opening (hopen : (files u.patchName).isSome ∧ pc.canOpen u.patchName) :
    threadStep seg'.socket pc (.opening u.patchPacket) files =
      (.patching u.patchPacket, files) :=
  threadStep_opening (by rw [patchFilename_patchPacket]; exact hopen)

theorem patch_opening_fails (hopen : ¬ ((files u.patchName).isSome ∧ pc.canOpen u.patchName)) :
    threadStep seg'.socket pc (.opening u.patchPacket) files = (.finished, files) :=
  threadStep_opening_fails (by rw [patchFilename_patchPacket]; exact hopen)

theorem patch_patching :
    threadStep seg'.socket pc (.patching u.patchPacket) files =
      (.finished, Function.update files u.patchName
        (some (writeAt ((files u.patchName).getD []) PsvHeader.allSectorsSha256Offset
          u.hash.toList))) := by
  have hoffset : PsvHeader.allSectorsSha256Offset < 2 ^ 31 := by decide
  have hseek := pc.fseek_small PsvHeader.allSectorsSha256Offset hoffset
  rw [← offset_patchPacket (u := u)] at hseek
  rw [threadStep_patching hseek]
  unfold patched
  rw [patchFilename_patchPacket, offset_patchPacket, readPacket_patchPacket]

/-- Whatever the state, the thread does one of these. -/
theorem patch_move {thread : Thread Conn} (hok : PatchOk u thread) :
    let r := threadStep seg'.socket pc thread files
    PatchMove seg' pc u thread r.1 files r.2 := by
  cases thread with
  | accepted conn =>
    have hconn : conn = ⟨u.patchPacket.toList, 0⟩ := hok
    subst hconn
    rcases Nat.lt_or_ge (seg'.cut 0) packetSize with hshort | hwhole
    · -- a packet that is cut is given up, which is in time only where nothing is patched
      rw [accepted_short hshort]
      refine .givesUp rfl rfl (Or.inr fun dump htime => ?_)
      rcases htime with hblank | hwhole
      · exact hblank
      · exact absurd hshort (Nat.not_lt.mpr hwhole)
    · rw [patch_accepted hwhole]
      exact .reads rfl _ rfl rfl hwhole
  | opening packet =>
    have hpacket : packet = u.patchPacket := hok
    subst hpacket
    by_cases hopen : (files u.patchName).isSome ∧ pc.canOpen u.patchName
    · rw [patch_opening hopen]
      exact .opens rfl rfl rfl hopen
    · rw [patch_opening_fails hopen]
      refine .givesUp rfl rfl (Or.inr fun dump htime => ?_)
      rcases htime with hblank | ⟨hsame, hfile⟩
      · exact hblank
      · rw [hsame] at hopen
        exact absurd hfile hopen
  | patching packet =>
    have hpacket : packet = u.patchPacket := hok
    subst hpacket
    rw [patch_patching]
    exact .lands rfl rfl rfl
  | finished => exact .givesUp rfl rfl (Or.inl rfl)
  | creating packet conn => exact absurd hok id
  | reading file conn => exact absurd hok id
  | writing file r conn => exact absurd hok id

end PatchCalls

/-! ## Runs in time -/

/-- The patch is done: what has landed is the image with its hash, and so is what
is still to come. -/
structure Agrees (s : Race) : Prop where
  rest : ∀ i, landed u s.dump ≤ i → u.image[i]? = u.patchedImage[i]?
  content : Opened s.dump → ∃ bs, s.files u.name = some bs ∧
    (∀ i < landed u s.dump, bs[i]? = u.patchedImage[i]?) ∧ landed u s.dump ≤ bs.length ∧
    bs.length ≤ max (landed u s.dump) (PsvHeader.allSectorsSha256Offset + 0x20)

/-- Until then the file is as much of the image as has landed. -/
structure Good (s : Race) : Prop where
  dump : DumpOk u s.dump
  patch : PatchOk u s.patch
  target : ∀ packet, s.patch = .patching packet → u.Blank ∨ u.patchName = u.name
  pending : s.patch ≠ .finished → Opened s.dump →
    s.files u.name = some (u.image.take (landed u s.dump))
  done : s.patch = .finished → Agrees u s

section Runs

variable {u seg seg' pc}

theorem landed_le {thread : Thread Conn} (hok : DumpOk u thread) :
    landed u thread ≤ u.image.length := by
  cases thread with
  | accepted conn | creating packet conn => exact Nat.zero_le _
  | reading file conn | writing file r conn => exact hok.1.position
  | finished => exact Nat.le_refl _
  | opening packet | patching packet => exact absurd hok id

theorem landed_of_not_opened {thread : Thread Conn} (h : ¬ Opened thread) :
    landed u thread = 0 := by
  cases thread with
  | accepted conn | creating packet conn | opening packet | patching packet => rfl
  | reading file conn | writing file r conn | finished => exact absurd trivial h

/-- The next piece of the image, at its place. -/
theorem getElem?_image_next {p i : Nat} {data left : List UInt8}
    (hdata : u.image.drop p = data ++ left) (hi : p ≤ i) (hlt : i < p + data.length) :
    u.image[i]? = data[i - p]? := by
  have hsum : p + (i - p) = i := by omega
  have hpiece : (u.image.drop p)[i - p]? = (data ++ left)[i - p]? := by rw [hdata]
  rw [List.getElem?_drop, List.getElem?_append_left (by omega), hsum] at hpiece
  exact hpiece

/-- A write of the first thread keeps what is done. -/
theorem Agrees.writes {s s' : Race} (h : Agrees u s) {data left : List UInt8}
    (hopened : Opened s.dump)
    (hdata : u.image.drop (landed u s.dump) = data ++ left)
    (hfiles : s'.files = Function.update s.files u.name
      (some (writeAt ((s.files u.name).getD []) (landed u s.dump) data)))
    (hlanded : landed u s'.dump = landed u s.dump + data.length) : Agrees u s' := by
  rcases h.content hopened with ⟨bs, hfile, hagree, hreach, hlen⟩
  constructor
  · intro i hi
    exact h.rest i (by omega)
  · intro _
    refine ⟨writeAt bs (landed u s.dump) data, ?_, ?_, ?_, ?_⟩
    · rw [hfiles, hfile]
      exact Function.update_self ..
    · intro i hi
      by_cases hbefore : i < landed u s.dump
      · rw [getElem?_writeAt_before _ _ hbefore (by omega)]
        exact hagree i hbefore
      · rw [getElem?_writeAt_inside _ _ (by omega) (by omega), ← h.rest i (by omega)]
        exact (getElem?_image_next hdata (by omega) (by omega)).symm
    · rw [hlanded]
      exact le_length_writeAt _ _ hreach
    · have hle := length_writeAt_le bs data (landed u s.dump)
      omega

/-- The image as far as it has landed, one write on. -/
theorem writeAt_take {p : Nat} {data left : List UInt8} (hp : p ≤ u.image.length)
    (hdata : u.image.drop p = data ++ left) :
    writeAt (u.image.take p) p data = u.image.take (p + data.length) := by
  have hlen : (u.image.take p).length = p := List.length_take_of_le hp
  have hend := writeAt_end (u.image.take p) data
  rw [hlen] at hend
  rw [hend, List.take_add, hdata, List.take_left]

/-- The first thread keeps the invariant. -/
theorem Good.dump_step {s : Race} (h : Good u s) (htime : InTime seg seg' pc u s .dump) :
    Good u ((receiver seg seg' pc).step s .dump).1 := by
  obtain ⟨r, hstep⟩ : ∃ r, threadStep seg.socket pc s.dump s.files = r := ⟨_, rfl⟩
  have hmoves : DumpOk u r.1 ∧ DumpMove u s.dump r.1 s.files r.2 := by
    rw [← hstep]
    exact dump_move h.dump htime
  rcases hmoves with ⟨hok, hmove⟩
  rw [step_dump hstep]
  refine ⟨hok, h.patch, h.target, ?_, ?_⟩
  · -- before the patch the file is exactly what the dump has landed
    intro hpatch hopened
    cases hmove with
    | idle hfiles hlanded hopened' =>
      dsimp only
      rw [hfiles, hlanded]
      exact h.pending hpatch (hopened'.mp hopened)
    | creates hbefore hafter hfiles hlanded =>
      dsimp only
      rw [hfiles, hlanded, Function.update_self]
      rfl
    | writes hbefore hafter data left hdata hfiles hlanded =>
      have hfile := h.pending hpatch hbefore
      dsimp only
      rw [hfiles, hlanded, Function.update_self, hfile, Option.getD_some,
        writeAt_take (landed_le h.dump) hdata]
  · -- after it, the two agree on what either has written
    intro hpatch
    have hagrees := h.done hpatch
    cases hmove with
    | idle hfiles hlanded hopened' =>
      constructor
      · dsimp only
        rw [hlanded]
        exact hagrees.rest
      · intro hopened
        dsimp only
        rw [hfiles, hlanded]
        exact hagrees.content (hopened'.mp hopened)
    | creates hbefore hafter hfiles hlanded =>
      have hzero := landed_of_not_opened (u := u) hbefore
      constructor
      · dsimp only
        rw [hlanded, ← hzero]
        exact hagrees.rest
      · intro _
        dsimp only
        rw [hfiles, hlanded, Function.update_self]
        exact ⟨[], rfl, fun i hi => absurd hi (Nat.not_lt_zero i), Nat.le_refl _, Nat.zero_le _⟩
    | writes hbefore hafter data left hdata hfiles hlanded =>
      exact hagrees.writes hbefore hdata hfiles hlanded

/-- A patch that comes in time. -/
theorem Agrees.lands {s : Race} (hdump : DumpOk u s.dump) {patch : Thread Conn}
    (hname : u.patchName = u.name)
    (hfile : Opened s.dump → s.files u.name = some (u.image.take (landed u s.dump)))
    (htime : ∀ j : Fin 0x20, u.hash.get j = 0xFF ∨
      PsvHeader.allSectorsSha256Offset + j < landed u s.dump) :
    Agrees u { s with
      patch
      files := Function.update s.files u.patchName
        (some (writeAt ((s.files u.patchName).getD []) PsvHeader.allSectorsSha256Offset
          u.hash.toList)) } := by
  have hle := landed_le hdump
  have htake : (u.image.take (landed u s.dump)).length = landed u s.dump :=
    List.length_take_of_le hle
  have hhash : u.hash.toList.length = 0x20 := Vector.length_toList
  constructor
  · intro i hi
    exact patchedImage_rest htime hi
  · intro hopened
    dsimp only
    rw [hname, Function.update_self, hfile hopened, Option.getD_some]
    -- the image with the hash in it, nothing of what has landed gone, and nothing else behind
    refine ⟨_, rfl, ?_, ?_, ?_⟩
    · intro i hi
      rw [getElem?_writeAt_take _ _ hi hle, patchedImage_eq]
    · have hgrow := length_le_writeAt (u.image.take (landed u s.dump)) u.hash.toList
        PsvHeader.allSectorsSha256Offset
      omega
    · have hgrow := length_writeAt_le (u.image.take (landed u s.dump)) u.hash.toList
        PsvHeader.allSectorsSha256Offset
      rw [htake, hhash] at hgrow
      exact hgrow

/-- Without a patch that differs from the placeholder, nothing is missing. -/
theorem Agrees.blank {s : Race} (hdump : DumpOk u s.dump) (hblank : u.Blank)
    (hfile : Opened s.dump → s.files u.name = some (u.image.take (landed u s.dump))) :
    Agrees u s := by
  have hle := landed_le hdump
  have htake : (u.image.take (landed u s.dump)).length = landed u s.dump :=
    List.length_take_of_le hle
  constructor
  · intro i _
    rw [patchedImage_blank hblank]
  · intro hopened
    refine ⟨_, hfile hopened, ?_, ?_, ?_⟩
    · intro i hi
      rw [patchedImage_blank hblank]
      exact List.getElem?_take_of_lt hi
    · omega
    · omega

/-- So does the second. -/
theorem Good.patch_step {s : Race} (h : Good u s) (htime : InTime seg seg' pc u s .patch) :
    Good u ((receiver seg seg' pc).step s .patch).1 := by
  obtain ⟨r, hstep⟩ : ∃ r, threadStep seg'.socket pc s.patch s.files = r := ⟨_, rfl⟩
  have hmove : PatchMove seg' pc u s.patch r.1 s.files r.2 := by
    rw [← hstep]
    exact patch_move h.patch
  rw [step_patch hstep]
  have hpatch : PatchOk u r.1 := by
    cases hmove with
    | reads _ _ _ hafter _ | opens _ _ hafter _ =>
      rw [hafter]
      rfl
    | givesUp _ hafter _ | lands _ hafter _ =>
      rw [hafter]
      trivial
  cases hmove with
  | reads hfiles conn hbefore hafter hwhole =>
    have hpending : s.patch ≠ .finished := by
      rw [hbefore]
      exact fun heq => nomatch heq
    rw [hfiles]
    refine ⟨h.dump, hpatch, ?_, fun _ => h.pending hpending, ?_⟩
    · intro packet heq
      exact nomatch hafter.symm.trans heq
    · intro heq
      exact nomatch hafter.symm.trans heq
  | opens hfiles hbefore hafter hopen =>
    have hpending : s.patch ≠ .finished := by
      rw [hbefore]
      exact fun heq => nomatch heq
    have htarget : u.Blank ∨ u.patchName = u.name := by
      unfold InTime at htime
      rw [hbefore] at htime
      exact htime.imp_right And.left
    rw [hfiles]
    refine ⟨h.dump, hpatch, fun _ _ => htarget, fun _ => h.pending hpending, ?_⟩
    intro heq
    exact nomatch hafter.symm.trans heq
  | givesUp hfiles hafter hlate =>
    rw [hfiles]
    refine ⟨h.dump, hpatch, ?_, fun hneq => absurd hafter hneq, ?_⟩
    · intro packet heq
      exact nomatch hafter.symm.trans heq
    · intro _
      by_cases hdone : s.patch = .finished
      · have hagrees := h.done hdone
        exact ⟨hagrees.rest, hagrees.content⟩
      · have hblank := hlate.resolve_left hdone s.dump htime
        exact Agrees.blank h.dump hblank (h.pending hdone)
  | lands hbefore hafter hfiles =>
    have hpending : s.patch ≠ .finished := by
      rw [hbefore]
      exact fun heq => nomatch heq
    unfold InTime at htime
    rw [hbefore] at htime
    rw [hfiles]
    refine ⟨h.dump, hpatch, ?_, fun hneq => absurd hafter hneq, ?_⟩
    · intro packet heq
      exact nomatch hafter.symm.trans heq
    · intro _
      by_cases hname : u.patchName = u.name
      · exact Agrees.lands h.dump hname (h.pending hpending) htime
      · -- another file is patched, with what this one has anyway
        have hblank := (h.target _ hbefore).resolve_right hname
        refine Agrees.blank h.dump hblank fun hopened => ?_
        dsimp only
        rw [Function.update_of_ne (Ne.symm hname)]
        exact h.pending hpending hopened

theorem Good.start (files : Net.Files) : Good u (Race.start u files) where
  dump := rfl
  patch := rfl
  target := fun _ heq => nomatch heq
  pending := fun _ hopened => absurd hopened id
  done := fun heq => nomatch heq

/-- When both threads are finished, the whole image has landed. -/
theorem Good.arrived {s : Race} (h : Good u s) (hdump : s.dump = .finished)
    (hpatch : s.patch = .finished) : s.files u.name = some u.patchedImage := by
  have hagrees := h.done hpatch
  have hlanded : landed u s.dump = u.image.length := by
    rw [hdump]
    rfl
  rcases hagrees.content (by rw [hdump]; trivial) with ⟨bs, hfile, hagree, hreach, hlen⟩
  have himage := u.length_image
  have hend : bs.length = u.patchedImage.length := by
    have hbound : PsvHeader.allSectorsSha256Offset + 0x20 ≤ 0x200 := by decide
    rw [length_patchedImage]
    omega
  rw [hfile]
  congr 1
  apply List.ext_getElem?
  intro i
  rcases Nat.lt_or_ge i u.image.length with hi | hi
  · exact hagree i (by omega)
  · rw [← length_patchedImage] at hi
    rw [List.getElem?_eq_none (by omega), List.getElem?_eq_none hi]

/-- A run whose calls all come in time ends with the hash in the image. -/
theorem patchArrives_of_inTime {files : Net.Files} {schedule : List Who}
    (h : (receiver seg seg' pc).EveryStep (InTime seg seg' pc u) (Race.start u files) schedule) :
    PatchArrives seg seg' pc u files schedule := by
  have hgood : Good u ((receiver seg seg' pc).run (Race.start u files) schedule).1 := by
    refine h.run_induction ?_ (Good.start files)
    intro s who htime hs
    cases who with
    | dump => exact hs.dump_step htime
    | patch => exact hs.patch_step htime
  intro hdump hpatch
  exact hgood.arrived hdump hpatch

end Runs

end GcToolKit.App
