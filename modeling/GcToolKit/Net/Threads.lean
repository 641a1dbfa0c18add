import GcToolKit.Net.Segmentation

/-!
# The threads of the receiver (pc/main.c)

`main` starts a thread of `receive_packets` for every connection, and the
threads share the files. A step is one call: a read of the socket, an `fopen`,
or an `fwrite`, which puts its bytes into the file at once. A thread that is
left alone does what `receivePackets` says.
-/

namespace GcToolKit.Net

open ByteBuf ByteFile DoWhile

/-- A file being received: its variables in the loop and the position of the
`FILE`. -/
structure Incoming where
  filename : CString
  totalSize : Nat
  totalRead : Nat
  position : Nat

/-- Where a thread is: which call comes next. -/
inductive Thread (κ : Type) where
  /-- The read of the packet. -/
  | accepted (conn : κ)
  /-- `fopen` with "wb". -/
  | creating (packet : Packet) (conn : κ)
  /-- The read in the loop. -/
  | reading (file : Incoming) (conn : κ)
  /-- The `fwrite` behind it. -/
  | writing (file : Incoming) (r : ReadResult) (conn : κ)
  /-- `fopen` with "r+b". -/
  | opening (packet : Packet)
  /-- `fseek` and the `fwrite` of the patch. -/
  | patching (packet : Packet)
  | finished

variable {κ : Type} (socket : Socket κ) (pc : Pc)

/-- What the packet asks for. -/
def acceptedStep (r : ReadResult) (conn : κ) : Thread κ :=
  if r.rd = packetSize then
    let packet := packetOf r.data
    if getLe magicField packet = sendFileMagic then .creating packet conn
    else if getLe magicField packet = patchFileMagic then .opening packet
    else .finished
  else .finished

/-- The variables behind an `fwrite`; `total_read` is a `uint64_t`. -/
def Incoming.next (file : Incoming) (r : ReadResult) : Incoming :=
  { file with
    totalRead := ((file.totalRead + r.rd) % 2 ^ 64).toNat
    position := file.position + r.data.length }

/-- The next call of a thread. -/
def threadStep (thread : Thread κ) (files : Files) : Thread κ × Files :=
  match thread with
  | .accepted conn =>
    let (r, conn) := socket conn packetSize
    (acceptedStep r conn, files)
  | .creating packet conn =>
    let filename := sendFilename packet
    if pc.canOpen filename then
      (.reading ⟨filename, getLe SendFile.totalSize packet, 0, 0⟩ conn,
        Function.update files filename (some []))
    else (.finished, files)
  | .reading file conn =>
    let (r, conn) := socket conn workBufferSize
    (.writing file r conn, files)
  | .writing file r conn =>
    let content := writeAt ((files file.filename).getD []) file.position r.data
    let files := Function.update files file.filename (some content)
    if (file.next r).totalRead < (file.next r).totalSize then (.reading (file.next r) conn, files)
    else (.finished, files)
  | .opening packet =>
    let filename := patchFilename packet
    if (files filename).isSome ∧ pc.canOpen filename then (.patching packet, files)
    else (.finished, files)
  | .patching packet =>
    let filename := patchFilename packet
    let offset := getLe PatchFile.offset packet
    match pc.fseek offset with
    | some position =>
      let patch := readPacket pc (patchInPlace packet) PatchFile.patchData.off
        (getLe PatchFile.patchSize packet)
      let content := writeAt ((files filename).getD []) position patch
      (.finished, Function.update files filename (some content))
    | none => (.finished, files)
  | .finished => (.finished, files)

/-! ## One call -/

section Calls

variable {socket pc} {conn conn' : κ} {r : ReadResult} {packet : Packet} {file : Incoming}
  {files : Files}

theorem threadStep_accepted (hread : socket conn packetSize = (r, conn')) :
    threadStep socket pc (.accepted conn) files = (acceptedStep r conn', files) := by
  unfold threadStep
  dsimp only
  rw [hread]

theorem threadStep_creating (hopen : pc.canOpen (sendFilename packet) = true) :
    threadStep socket pc (.creating packet conn) files =
      (.reading ⟨sendFilename packet, getLe SendFile.totalSize packet, 0, 0⟩ conn,
        Function.update files (sendFilename packet) (some [])) :=
  if_pos hopen

theorem threadStep_creating_fails (hopen : ¬ pc.canOpen (sendFilename packet) = true) :
    threadStep socket pc (.creating packet conn) files = (.finished, files) :=
  if_neg hopen

theorem threadStep_reading (hread : socket conn workBufferSize = (r, conn')) :
    threadStep socket pc (.reading file conn) files = (.writing file r conn', files) := by
  unfold threadStep
  dsimp only
  rw [hread]

/-- What the file holds after the `fwrite`. -/
def written (file : Incoming) (r : ReadResult) (files : Files) : Files :=
  Function.update files file.filename
    (some (writeAt ((files file.filename).getD []) file.position r.data))

theorem threadStep_writing_more (hmore : (file.next r).totalRead < (file.next r).totalSize) :
    threadStep socket pc (.writing file r conn) files =
      (.reading (file.next r) conn, written file r files) :=
  if_pos hmore

theorem threadStep_writing_last (hlast : ¬ (file.next r).totalRead < (file.next r).totalSize) :
    threadStep socket pc (.writing file r conn) files = (.finished, written file r files) :=
  if_neg hlast

theorem threadStep_opening
    (hopen : (files (patchFilename packet)).isSome ∧ pc.canOpen (patchFilename packet)) :
    threadStep socket pc (.opening packet) files = (.patching packet, files) :=
  if_pos hopen

theorem threadStep_opening_fails
    (hopen : ¬ ((files (patchFilename packet)).isSome ∧ pc.canOpen (patchFilename packet))) :
    threadStep socket pc (.opening packet) files = (.finished, files) :=
  if_neg hopen

/-- What the file holds after the patch at a position. -/
def patched (pc : Pc) (packet : Packet) (position : Nat) (files : Files) : Files :=
  Function.update files (patchFilename packet)
    (some (writeAt ((files (patchFilename packet)).getD []) position
      (readPacket pc (patchInPlace packet) PatchFile.patchData.off
        (getLe PatchFile.patchSize packet))))

theorem threadStep_patching {position : Nat}
    (hseek : pc.fseek (getLe PatchFile.offset packet) = some position) :
    threadStep socket pc (.patching packet) files =
      (.finished, patched pc packet position files) := by
  unfold threadStep patched
  dsimp only
  rw [hseek]

theorem threadStep_patching_fails (hseek : pc.fseek (getLe PatchFile.offset packet) = none) :
    threadStep socket pc (.patching packet) files = (.finished, files) := by
  unfold threadStep
  dsimp only
  rw [hseek]

@[simp] theorem threadStep_finished :
    threadStep socket pc .finished files = (.finished, files) := rfl

end Calls

/-! ## The thread of a transfer -/

/-- A packet that came whole is taken for what it is. -/
theorem acceptedStep_packet (packet : Packet) (conn : Conn) :
    acceptedStep (.bytes packet.toList) conn =
      if getLe magicField packet = sendFileMagic then .creating packet conn
      else if getLe magicField packet = patchFileMagic then .opening packet
      else .finished := by
  have hsize : (ReadResult.bytes packet.toList).rd = packetSize := by
    rw [ReadResult.rd, length_packet]
  have hpacket : packetOf (ReadResult.bytes packet.toList).data = packet :=
    packetOf_toList packet
  unfold acceptedStep
  rw [if_pos hsize, hpacket]

namespace Transfer

variable (t : Transfer) {seg : Segmentation} {pc : Pc} {files : Files}

theorem threadStep_accepted (hwhole : packetSize ≤ seg.cut 0) :
    threadStep seg.socket pc (.accepted t.conn) files =
      (.creating t.packet ⟨t.payload, 1⟩, files) := by
  have hread : seg.socket t.conn packetSize = (.bytes t.packet.toList, ⟨t.payload, 1⟩) :=
    socket_whole_packet seg t.packet t.payload hwhole
  rw [Net.threadStep_accepted hread, acceptedStep_packet, if_pos t.magic_packet]

theorem threadStep_creating {conn : Conn} (hopen : pc.canOpen t.receivedName = true) :
    threadStep seg.socket pc (.creating t.packet conn) files =
      (.reading ⟨t.receivedName, t.payload.length, 0, 0⟩ conn,
        Function.update files t.receivedName (some [])) := by
  rw [Net.threadStep_creating (by rw [t.sendFilename_packet]; exact hopen),
    t.sendFilename_packet, t.totalSize_packet]

end Transfer

/-! ## A thread alone -/

/-- `n` calls with nobody else between them. -/
def aloneFor : Nat → Thread κ → Files → Thread κ × Files
  | 0, thread, files => (thread, files)
  | n + 1, thread, files =>
    let (thread, files) := threadStep socket pc thread files
    aloneFor n thread files

variable {socket pc}

theorem aloneFor_step {n : Nat} {thread thread' : Thread κ} {files files' : Files}
    (hstep : threadStep socket pc thread files = (thread', files')) :
    aloneFor socket pc (n + 1) thread files = aloneFor socket pc n thread' files' := by
  rw [aloneFor, hstep]

/-- A thread that is at the end after some calls. -/
def EndsWith (socket : Socket κ) (pc : Pc) (thread : Thread κ) (files files' : Files) : Prop :=
  ∃ n, aloneFor socket pc n thread files = (.finished, files')

theorem EndsWith.step {thread thread' : Thread κ} {files files' files'' : Files}
    (h : EndsWith socket pc thread' files' files'')
    (hstep : threadStep socket pc thread files = (thread', files')) :
    EndsWith socket pc thread files files'' := by
  rcases h with ⟨n, h⟩
  refine ⟨n + 1, ?_⟩
  rw [aloneFor_step hstep]
  exact h

theorem endsWith_finished (files : Files) : EndsWith socket pc (.finished : Thread κ) files files :=
  ⟨0, rfl⟩

/-- The loop, from a file that ends where the next write goes. -/
theorem endsWith_reading {fuel : Nat} {filename : CString} {totalSize : Nat} {files : Files}
    {s s' : Receiving κ} (hfile : files filename = some s.content)
    (hrun : run (receiveBody socket totalSize) fuel s = some s') :
    EndsWith socket pc (.reading ⟨filename, totalSize, s.totalRead, s.content.length⟩ s.conn)
      files (Function.update files filename (some s'.content)) := by
  induction fuel generalizing s files with
  | zero => cases hrun
  | succ fuel ih =>
    rcases hread : socket s.conn workBufferSize with ⟨r, conn⟩
    let file : Incoming := ⟨filename, totalSize, s.totalRead, s.content.length⟩
    have hwritten : written file r files =
        Function.update files filename (some (s.content ++ r.data)) := by
      unfold written
      dsimp only [file]
      rw [hfile, Option.getD_some, writeAt_end]
    let next : Receiving κ :=
      ⟨(file.next r).totalRead, s.content ++ r.data, r.rd :: s.lengths, conn⟩
    have hbody : receiveBody socket totalSize s =
        if (file.next r).totalRead < (file.next r).totalSize then .again next else .exit next := by
      unfold receiveBody
      rw [hread]
      rfl
    suffices hwriting : EndsWith socket pc (.writing file r conn) files
        (Function.update files filename (some s'.content)) from
      hwriting.step (threadStep_reading hread)
    by_cases hmore : (file.next r).totalRead < (file.next r).totalSize
    · -- another pass
      rw [if_pos hmore] at hbody
      rw [run_again hbody] at hrun
      have hnext : written file r files filename = some next.content := by
        rw [hwritten]
        exact Function.update_self ..
      have hrest := ih hnext hrun
      rw [hwritten, Function.update_idem, ← hwritten, List.length_append] at hrest
      exact hrest.step (threadStep_writing_more hmore)
    · rw [if_neg hmore] at hbody
      rw [run_exit hbody] at hrun
      have hlast : next = s' := Option.some.inj hrun
      rw [← hlast, ← hwritten]
      exact (endsWith_finished _).step (threadStep_writing_last hmore)

theorem endsWith_receivePatch (packet : Packet) (files : Files) :
    EndsWith socket pc (.opening packet) files (receivePatch pc packet files).files := by
  by_cases hopened : (files (patchFilename packet)).isSome ∧ pc.canOpen (patchFilename packet)
  · rcases Option.isSome_iff_exists.mp hopened.1 with ⟨content, hfile⟩
    refine EndsWith.step ?_ (threadStep_opening hopened)
    -- a seek that fails leaves the opened file unwritten
    cases hseek : pc.fseek (getLe PatchFile.offset packet) with
    | some position =>
      have hsession : (receivePatch pc packet files).files =
          patched pc packet position files := by
        unfold receivePatch patched
        dsimp only
        rw [hfile]
        dsimp only
        rw [if_pos hopened.2, hseek, Option.getD_some]
      rw [hsession]
      exact (endsWith_finished _).step (threadStep_patching hseek)
    | none =>
      have hsession : (receivePatch pc packet files).files = files := by
        unfold receivePatch
        dsimp only
        rw [hfile]
        dsimp only
        rw [if_pos hopened.2, hseek]
      rw [hsession]
      exact (endsWith_finished _).step (threadStep_patching_fails hseek)
  · have hsession : (receivePatch pc packet files).files = files := by
      unfold receivePatch
      dsimp only
      cases hfile : files (patchFilename packet) with
      | none => rfl
      | some content =>
        rw [hfile] at hopened
        dsimp only
        rw [if_neg (fun hcan => hopened ⟨rfl, hcan⟩)]
    rw [hsession]
    exact (endsWith_finished _).step (threadStep_opening_fails hopened)

/-- What `receivePackets` leaves is what a thread leaves that is not interrupted. -/
theorem endsWith_receivePackets {fuel : Nat} {files : Files} {conn : κ} {session : Session}
    (hrun : receivePackets socket pc fuel files conn = some session) :
    EndsWith socket pc (.accepted conn) files session.files := by
  rcases hread : socket conn packetSize with ⟨r, conn'⟩
  suffices haccepted : EndsWith socket pc (acceptedStep r conn') files session.files from
    haccepted.step (threadStep_accepted hread)
  unfold receivePackets at hrun
  rw [hread] at hrun
  dsimp only at hrun
  unfold acceptedStep
  dsimp only
  split at hrun
  · next herror =>
    -- an error is no packet
    cases hrun
    rw [if_neg (by rw [herror]; decide)]
    exact endsWith_finished _
  split at hrun
  case isFalse hsize =>
    cases hrun
    rw [if_neg hsize]
    exact endsWith_finished _
  next hsize =>
  rw [if_pos hsize]
  split at hrun
  · next hsend =>
    rw [if_pos hsend]
    unfold receiveSend at hrun
    dsimp only at hrun
    split at hrun
    · next hopen =>
      rcases Option.map_eq_some_iff.mp hrun with ⟨s, hfile, hsession⟩
      cases hsession
      have hcreated : Function.update files (sendFilename (packetOf r.data)) (some [])
          (sendFilename (packetOf r.data)) = some [] := Function.update_self ..
      have hloop : EndsWith socket pc _ _ _ := endsWith_reading hcreated hfile
      rw [Function.update_idem] at hloop
      exact hloop.step (threadStep_creating hopen)
    · next hopen =>
      cases hrun
      exact (endsWith_finished _).step (threadStep_creating_fails hopen)
  · next hsend =>
    rw [if_neg hsend]
    split at hrun
    · next hpatch =>
      rw [if_pos hpatch]
      cases hrun
      exact endsWith_receivePatch _ _
    · next hpatch =>
      cases hrun
      rw [if_neg hpatch]
      exact endsWith_finished _

end GcToolKit.Net
