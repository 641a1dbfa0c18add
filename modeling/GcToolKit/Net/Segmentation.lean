import GcToolKit.Net.Receiver

/-!
# Transfers and how the stream is cut

A transfer is the send packet followed by the file. The receiver gets it in
reads of any positive sizes. The loop for the file copes with every size, but
the packet is read once: the file arrives exactly when the first read brings the
whole packet.
-/

namespace GcToolKit.Net

open ByteBuf DoWhile LittleEndian

/-! ## Connections -/

/-- How many bytes each read brings at most. -/
structure Segmentation where
  cut : Nat → Nat
  cut_pos : ∀ i, 0 < cut i

/-- Every read brings what is asked for. -/
def wholeReads : Segmentation where
  cut _ := workBufferSize
  cut_pos _ := Nat.zero_lt_of_ne_zero (by decide)

/-- The bytes not read yet and the number of reads so far. -/
structure Conn where
  left : List UInt8
  reads : Nat

/-- A reliable stream, closed by the sender after the last byte. -/
def Segmentation.socket (seg : Segmentation) : Socket Conn := fun c size =>
  let n := min (seg.cut c.reads) size
  (.bytes (c.left.take n), ⟨c.left.drop n, c.reads + 1⟩)

/-- No read fails. -/
theorem Segmentation.rd_socket (seg : Segmentation) (c : Conn) (size : Nat) :
    (seg.socket c size).1.rd ≠ -1 := by
  have hlength : 0 ≤ (seg.socket c size).1.rd := Int.natCast_nonneg _
  omega

/-- A file to be sent; `total_size` is a `uint64_t`. -/
structure Transfer where
  filename : CString
  payload : List UInt8
  size_lt : payload.length < 2 ^ 64

namespace Transfer

variable (t : Transfer)

def packet : Packet := sendFilePacket t.filename t.payload.length

def conn : Conn := ⟨t.packet.toList ++ t.payload, 0⟩

/-- The name the file is created under. -/
def receivedName : CString := removeIllegalChars (t.filename.take (0x206 - 1))

theorem magic_packet : getLe magicField t.packet = sendFileMagic :=
  sendFilePacket_magic t.filename t.payload.length

theorem totalSize_packet : getLe SendFile.totalSize t.packet = t.payload.length :=
  sendFilePacket_totalSize t.filename t.payload.length t.size_lt

theorem sendFilename_packet : sendFilename t.packet = t.receivedName :=
  sendFilename_sendFilePacket t.filename t.payload.length

end Transfer

/-! ## The receive loop -/

variable (seg : Segmentation)

/-- Nothing is lost: what is in the file and what is still to come make up the
payload, and the count is that of the bytes in the file. -/
structure LoopInv (payload : List UInt8) (s : Receiving Conn) : Prop where
  split : s.content ++ s.conn.left = payload
  count : s.totalRead = s.content.length

variable {payload : List UInt8}

/-- One pass keeps the invariant. -/
theorem loopInv_pass {s : Receiving Conn} (hinv : LoopInv payload s)
    (hsize : payload.length < 2 ^ 64) : ∃ s', LoopInv payload s' ∧
      s'.conn.left.length ≤ s.conn.left.length - 1 ∧
      receiveBody seg.socket payload.length s =
        if s'.totalRead < payload.length then .again s' else .exit s' := by
  let n := min (seg.cut s.conn.reads) workBufferSize
  have hn : 0 < n := by
    have hcut := seg.cut_pos s.conn.reads
    have hbuf : 0 < workBufferSize := by decide
    omega
  have hsplit : (s.content ++ s.conn.left.take n) ++ s.conn.left.drop n = payload := by
    rw [List.append_assoc, List.take_append_drop]
    exact hinv.split
  have hle : (s.content ++ s.conn.left.take n).length ≤ payload.length := by
    have hlen := congrArg List.length hsplit
    rw [List.length_append] at hlen
    omega
  refine ⟨⟨(((s.totalRead : Int) + (s.conn.left.take n).length) % 2 ^ 64).toNat,
    s.content ++ s.conn.left.take n, (s.conn.left.take n).length :: s.lengths,
    ⟨s.conn.left.drop n, s.conn.reads + 1⟩⟩, ⟨hsplit, ?_⟩, ?_, rfl⟩
  · -- the sum does not wrap
    rw [List.length_append] at hle ⊢
    have hcount := hinv.count
    dsimp only
    omega
  · dsimp only
    rw [List.length_drop]
    omega

/-- The loop writes the payload, whatever the reads bring. -/
theorem receiveFile_payload (hsize : payload.length < 2 ^ 64) (reads : Nat) :
    ∃ fuel s, receiveFile seg.socket fuel payload.length ⟨payload, reads⟩ = some s ∧
      s.content = payload := by
  have hinit : LoopInv payload (⟨0, [], [], ⟨payload, reads⟩⟩ : Receiving Conn) := ⟨rfl, rfl⟩
  have hagain : ∀ s s', LoopInv payload s →
      receiveBody seg.socket payload.length s = .again s' →
        LoopInv payload s' ∧ s'.conn.left.length < s.conn.left.length := by
    intro s s' hinv hbody
    rcases loopInv_pass seg hinv hsize with ⟨s'', hinv', hleft, heq⟩
    rw [hbody] at heq
    split at heq
    · next hlt =>
      cases heq
      refine ⟨hinv', ?_⟩
      -- bytes are left over, so there were some before
      have hlen := congrArg List.length hinv'.split
      have hcount := hinv'.count
      rw [List.length_append] at hlen
      omega
    · cases heq
  have hexit : ∀ s r, LoopInv payload s →
      receiveBody seg.socket payload.length s = .exit r → r.content = payload := by
    intro s r hinv hbody
    rcases loopInv_pass seg hinv hsize with ⟨s', hinv', -, heq⟩
    rw [hbody] at heq
    split at heq
    · cases heq
    · next hge =>
      cases heq
      have hlen := congrArg List.length hinv'.split
      have hcount := hinv'.count
      rw [List.length_append] at hlen
      have hnil : r.conn.left = [] := by
        apply List.length_eq_zero_iff.mp
        omega
      have hsplit := hinv'.split
      rw [hnil, List.append_nil] at hsplit
      exact hsplit
  obtain ⟨s, hrun⟩ := run_returns (fun s : Receiving Conn => s.conn.left.length) hagain hinit
    (Nat.lt_succ_self _)
  exact ⟨payload.length + 1, s, hrun, run_invariant hexit (fun s s' hinv h => (hagain s s' hinv h).1) hinit hrun⟩

/-! ## The connection -/

variable (pc : Pc) (t : Transfer)

theorem packetOf_toList (packet : Packet) : packetOf packet.toList = packet := by
  ext i hi
  simp [packetOf, List.getD_eq_getElem?_getD]

theorem length_packet (packet : Packet) : packet.toList.length = packetSize :=
  Vector.length_toList

/-- The first read when it brings the whole packet. -/
theorem socket_whole_packet (packet : Packet) (rest : List UInt8) (h : packetSize ≤ seg.cut 0) :
    seg.socket ⟨packet.toList ++ rest, 0⟩ packetSize = (.bytes packet.toList, ⟨rest, 1⟩) := by
  have hlen := length_packet packet
  unfold Segmentation.socket
  dsimp only
  rw [Nat.min_eq_right h, List.take_left' hlen, List.drop_left' hlen]

/-- A read that brings less is no packet, and no error either. -/
theorem socket_short (conn : Conn) (h : seg.cut conn.reads < packetSize) :
    (seg.socket conn packetSize).1.rd ≠ packetSize ∧ (seg.socket conn packetSize).1.rd ≠ -1 := by
  have hrd : (seg.socket conn packetSize).1.rd =
      ((conn.left.take (min (seg.cut conn.reads) packetSize)).length : Int) := rfl
  rw [hrd, List.length_take]
  constructor <;> omega

/-- A short first read ends the connection. -/
theorem receivePackets_short (h : seg.cut 0 < packetSize) (fuel : Nat) (files : Files) :
    ∃ reports, receivePackets seg.socket pc fuel files t.conn = some ⟨files, reports⟩ := by
  rcases socket_short seg t.conn h with ⟨hsize, herror⟩
  exact ⟨_, receivePackets_incorrectSize pc rfl herror hsize fuel files⟩

/-- With the whole packet read, the file is received by the loop. -/
theorem receivePackets_whole (h : packetSize ≤ seg.cut 0) (fuel : Nat) (files : Files) :
    receivePackets seg.socket pc fuel files t.conn =
      receiveSend seg.socket pc fuel t.packet files ⟨t.payload, 1⟩ := by
  have hread : seg.socket t.conn packetSize = (.bytes t.packet.toList, ⟨t.payload, 1⟩) :=
    socket_whole_packet seg t.packet t.payload h
  have hrd : (ReadResult.bytes t.packet.toList).rd = packetSize := by
    rw [ReadResult.rd, length_packet]
  have hpacket : packetOf (ReadResult.bytes t.packet.toList).data = t.packet :=
    packetOf_toList t.packet
  have hmagic : getLe magicField (packetOf (ReadResult.bytes t.packet.toList).data) =
      sendFileMagic := by
    rw [hpacket]
    exact t.magic_packet
  rw [receivePackets_send pc hread hrd hmagic, hpacket]

/-- The receiver ends with the file in place, whatever was there before. -/
def Delivers : Prop :=
  ∀ files, ∃ fuel session, receivePackets seg.socket pc fuel files t.conn = some session ∧
    session.files t.receivedName = some t.payload

/-- A transfer arrives if and only if the first read brings the whole packet
(and the file can be created). -/
theorem delivers_iff :
    Delivers seg pc t ↔ packetSize ≤ seg.cut 0 ∧ pc.canOpen t.receivedName = true := by
  constructor
  · intro hdelivers
    -- with no file on the disk, one that appears was written by this session
    rcases hdelivers (fun _ => none) with ⟨fuel, session, hrun, hfile⟩
    rcases Nat.lt_or_ge (seg.cut 0) packetSize with hshort | hwhole
    · rcases receivePackets_short seg pc t hshort fuel (fun _ => none) with ⟨reports, heq⟩
      rw [heq] at hrun
      cases hrun
      cases hfile
    · refine ⟨hwhole, ?_⟩
      by_contra hopen
      rw [receivePackets_whole seg pc t hwhole] at hrun
      unfold receiveSend at hrun
      rw [t.sendFilename_packet] at hrun
      dsimp only at hrun
      rw [if_neg hopen] at hrun
      cases hrun
      cases hfile
  · rintro ⟨hwhole, hopen⟩ files
    rcases receiveFile_payload seg t.size_lt 1 with ⟨fuel, s, hrun, hcontent⟩
    refine ⟨fuel, ⟨Function.update files t.receivedName (some s.content),
      [.receiving t.receivedName t.payload.length, .received t.receivedName]⟩, ?_, ?_⟩
    · rw [receivePackets_whole seg pc t hwhole]
      unfold receiveSend
      rw [t.sendFilename_packet, t.totalSize_packet]
      dsimp only
      rw [if_pos hopen, hrun]
      rfl
    · rw [hcontent]
      exact Function.update_self ..

/-- A first segment of 100 bytes. -/
def shortFirstSegment : Segmentation where
  cut i := if i = 0 then 100 else 0x210
  cut_pos := by
    intro i
    split <;> decide

/-- "a", with one byte. -/
def oneByteTransfer : Transfer where
  filename := CString.ofBytes [0x61]
  payload := [1]
  size_lt := by decide

/-- The segments 100, 428 and 1 carry everything, and nothing arrives. -/
theorem not_delivers_shortFirstSegment :
    ¬ Delivers shortFirstSegment (Pc.ofLong 64 (by decide)) oneByteTransfer := by
  intro hdelivers
  rcases hdelivers (fun _ => none) with ⟨fuel, session, hrun, hfile⟩
  obtain ⟨reports, heq⟩ := receivePackets_short shortFirstSegment (Pc.ofLong 64 (by decide))
    oneByteTransfer (by decide) fuel (fun _ => none)
  rw [heq] at hrun
  cases hrun
  cases hfile

end GcToolKit.Net
