import Mathlib.Data.Fintype.Basic
import Mathlib.Data.List.GetD
import GcToolKit.Lib.SharedCell
import GcToolKit.Net.Segmentation
import GcToolKit.Net.Threads

/-!
# The buffer of the receiver's threads (pc/main.c)

`work_buffer` is static, so the threads of all the connections read into the
same bytes and write from them. A thread knows how many bytes its read has
brought; which bytes they are is up to the last read of any thread.

* `workBuffer_threads` — where no read of the loop fails, every file is what it
  would be with a buffer for each thread, exactly as long as every `fwrite` finds
  the bytes its thread has read; it does if nobody reads between a read and its
  `fwrite`.
-/

namespace GcToolKit.Net

open ByteFile Run SharedCell

/-- The bytes of `work_buffer`. -/
abbrev WorkBuffer := Nat → UInt8

/-- What a read puts into the buffer; one that fails leaves it as it is. -/
def WorkBuffer.store (buffer : WorkBuffer) : ReadResult → WorkBuffer
  | .bytes data => fun i => data.getD i (buffer i)
  | .error _ => buffer

/-- What the `fwrite` behind a read takes out of it, be it what an earlier read
has left there. -/
def WorkBuffer.fetch (buffer : WorkBuffer) : ReadResult → ReadResult
  | .bytes data => .bytes ((List.range data.length).map buffer)
  | .error stored => .error ((List.range stored.length).map buffer)

theorem WorkBuffer.fetch_store (buffer : WorkBuffer) {r : ReadResult} (hread : r.rd ≠ -1) :
    (buffer.store r).fetch r = r := by
  cases r with
  | error stored => exact absurd rfl hread
  | bytes data =>
    refine congrArg ReadResult.bytes (List.ext_getElem (by simp) ?_)
    intro i hi hi'
    rw [List.getElem_map, List.getElem_range]
    exact (List.getElem_eq_getD _).symm

theorem WorkBuffer.length_fetch (buffer : WorkBuffer) (r : ReadResult) :
    (buffer.fetch r).data.length = r.data.length := by
  cases r with
  | error stored => exact (List.length_map ..).trans List.length_range
  | bytes data => exact (List.length_map ..).trans List.length_range

theorem WorkBuffer.fetch_eq_of_data {buffer : WorkBuffer} {r : ReadResult}
    (h : (buffer.fetch r).data = r.data) : buffer.fetch r = r := by
  cases r with
  | error stored => exact congrArg ReadResult.error h
  | bytes data => exact congrArg ReadResult.bytes h

/-- The next call is the read of the loop. -/
def Thread.Reads {κ : Type} : Thread κ → Prop
  | .reading _ _ => True
  | _ => False

/-- The next call is the `fwrite` of the loop. -/
def Thread.Writes {κ : Type} : Thread κ → Prop
  | .writing _ _ _ => True
  | _ => False

instance {κ : Type} : DecidablePred (Thread.Reads (κ := κ)) := fun thread =>
  match thread with
  | .reading _ _ => .isTrue trivial
  | .accepted _ | .creating _ _ | .writing _ _ _ | .opening _ | .patching _ | .finished =>
    .isFalse id

instance {κ : Type} : DecidablePred (Thread.Writes (κ := κ)) := fun thread =>
  match thread with
  | .writing _ _ _ => .isTrue trivial
  | .accepted _ | .creating _ _ | .reading _ _ | .opening _ | .patching _ | .finished =>
    .isFalse id

theorem Thread.Reads.exists {κ : Type} {thread : Thread κ} (h : thread.Reads) :
    ∃ file conn, thread = .reading file conn := by
  cases thread with
  | reading file conn => exact ⟨file, conn, rfl⟩
  | _ => cases h

variable {κ : Type} (socket : Socket κ) (pc : Pc)

/-- The next call of a thread, with the buffer. -/
def bufferStep (thread : Thread κ) (buffer : WorkBuffer) (files : Files) :
    Thread κ × WorkBuffer × Files :=
  match thread with
  | .reading file conn =>
    let (r, conn) := socket conn workBufferSize
    (.writing file r conn, buffer.store r, files)
  | .writing file r conn =>
    let next := threadStep socket pc (.writing file (buffer.fetch r) conn) files
    (next.1, buffer, next.2)
  | thread =>
    let next := threadStep socket pc thread files
    (next.1, buffer, next.2)

/-- The bytes of the last read are in the buffer, if there is a write to come. -/
def HoldsRead : Thread κ → WorkBuffer → Prop
  | .writing _ r _, buffer => buffer.fetch r = r
  | _, _ => True

instance {κ : Type} (thread : Thread κ) (buffer : WorkBuffer) :
    Decidable (HoldsRead thread buffer) :=
  match thread with
  | .writing _ r _ => inferInstanceAs (Decidable (buffer.fetch r = r))
  | .accepted _ | .creating _ _ | .reading _ _ | .opening _ | .patching _ | .finished =>
    .isTrue trivial

/-- A thread of the receiver. -/
def receiverClient : Client (Thread κ) WorkBuffer Files where
  act := bufferStep socket pc
  Holds := HoldsRead

instance {ι : Type} [DecidableEq ι] (s : Shared ι (Thread κ) WorkBuffer Files) (i : ι) :
    Decidable (Finds (receiverClient socket pc) s i) :=
  inferInstanceAs (Decidable (HoldsRead _ _))

/-! ## One call -/

theorem holdsRead_of_not_writes {thread : Thread κ} (h : ¬ thread.Writes) (buffer : WorkBuffer) :
    HoldsRead thread buffer := by
  cases thread with
  | writing file r conn => exact absurd trivial h
  | _ => trivial

/-- Only the read of the loop stores anything, and leads to a write. -/
theorem bufferStep_keeps {thread : Thread κ} (h : ¬ thread.Reads) (buffer : WorkBuffer)
    (files : Files) :
    (bufferStep socket pc thread buffer files).2.1 = buffer ∧
      ¬ (bufferStep socket pc thread buffer files).1.Writes := by
  unfold bufferStep
  cases thread with
  | reading file conn => exact absurd trivial h
  | accepted conn =>
    -- a packet leads to a file that is opened or created, and to no write yet
    refine ⟨rfl, ?_⟩
    unfold threadStep acceptedStep
    dsimp only
    split
    · split
      · exact id
      · split <;> exact id
    · exact id
  | creating packet conn =>
    refine ⟨rfl, ?_⟩
    unfold threadStep
    dsimp only
    split <;> exact id
  | writing file r conn =>
    refine ⟨rfl, ?_⟩
    unfold threadStep
    dsimp only
    split <;> exact id
  | opening packet =>
    refine ⟨rfl, ?_⟩
    unfold threadStep
    dsimp only
    split <;> exact id
  | patching packet =>
    refine ⟨rfl, ?_⟩
    unfold threadStep
    dsimp only
    split <;> exact id
  | finished => exact ⟨rfl, id⟩

/-- With its own bytes in the buffer a call is that of a thread alone. -/
theorem bufferStep_own {thread : Thread κ} {buffer : WorkBuffer} (h : HoldsRead thread buffer)
    (files : Files) :
    (bufferStep socket pc thread buffer files).1 = (threadStep socket pc thread files).1 ∧
      (bufferStep socket pc thread buffer files).2.2 = (threadStep socket pc thread files).2 := by
  unfold bufferStep
  cases thread with
  | writing file r conn =>
    have hfetch : buffer.fetch r = r := h
    dsimp only
    rw [hfetch]
    exact ⟨rfl, rfl⟩
  | reading file conn =>
    unfold threadStep
    exact ⟨rfl, rfl⟩
  | _ =>
    dsimp only
    exact ⟨rfl, rfl⟩

/-- A call leaves what its thread has in the buffer. -/
theorem holdsRead_bufferStep (hread : ∀ conn, (socket conn workBufferSize).1.rd ≠ -1)
    (thread : Thread κ) (buffer : WorkBuffer) (files : Files) :
    HoldsRead (bufferStep socket pc thread buffer files).1
      (bufferStep socket pc thread buffer files).2.1 := by
  by_cases hreads : thread.Reads
  · rcases hreads.exists with ⟨file, conn, rfl⟩
    exact WorkBuffer.fetch_store _ (hread conn)
  · exact holdsRead_of_not_writes (bufferStep_keeps socket pc hreads buffer files).2 _

theorem receiverClient_faithful : (receiverClient socket pc).Faithful (threadStep socket pc) :=
  fun _ _ files h => bufferStep_own socket pc h files

theorem receiverClient_keeps (hread : ∀ conn, (socket conn workBufferSize).1.rd ≠ -1) :
    (receiverClient socket pc).Keeps :=
  fun thread buffer files _ => holdsRead_bufferStep socket pc hread thread buffer files

/-- Writes of equally many bytes to one place differ if the bytes do. -/
theorem data_of_writeAt {content data data' : List UInt8} {off : Nat}
    (hlen : data.length = data'.length)
    (h : writeAt content off data = writeAt content off data') : data = data' := by
  refine List.ext_getElem? ?_
  intro i
  by_cases hi : i < data.length
  · have hbyte := congrArg (fun content => content[off + i]?) h
    rw [getElem?_writeAt_inside _ _ (Nat.le_add_right ..) (by omega),
      getElem?_writeAt_inside _ _ (Nat.le_add_right ..) (by omega),
      Nat.add_sub_cancel_left] at hbyte
    exact hbyte
  · rw [List.getElem?_eq_none (by omega), List.getElem?_eq_none (by omega)]

theorem threadStep_writing_files (file : Incoming) (r : ReadResult) (conn : κ) (files : Files) :
    (threadStep socket pc (.writing file r conn) files).2 = written file r files := by
  unfold threadStep written
  dsimp only
  split <;> rfl

/-- Foreign bytes go into the file. -/
theorem receiverClient_sharp : (receiverClient socket pc).Sharp (threadStep socket pc) := by
  intro thread buffer files hlost hsame
  cases thread with
  | writing file r conn =>
    refine hlost ?_
    have hwritten : written file (buffer.fetch r) files = written file r files := by
      rw [← threadStep_writing_files socket pc file r conn,
        ← threadStep_writing_files socket pc file (buffer.fetch r) conn]
      exact hsame
    have hcontent := congrFun hwritten file.filename
    unfold written at hcontent
    rw [Function.update_self, Function.update_self, Option.some.injEq] at hcontent
    exact WorkBuffer.fetch_eq_of_data (data_of_writeAt (buffer.length_fetch r) hcontent)
  | _ => exact hlost trivial

/-! ## Runs -/

variable {ι : Type} [DecidableEq ι]

/-- A read of the loop comes while nobody else has a write to do. -/
def Quiet (s : Shared ι (Thread κ) WorkBuffer Files) (i : ι) : Prop :=
  (s.locals i).Reads → ∀ j, j ≠ i → ¬ (s.locals j).Writes

instance [Fintype ι] (s : Shared ι (Thread κ) WorkBuffer Files) (i : ι) : Decidable (Quiet s i) :=
  inferInstanceAs (Decidable (_ → ∀ j, j ≠ i → ¬ _))

theorem undisturbed_of_quiet {s : Shared ι (Thread κ) WorkBuffer Files} {i : ι} (h : Quiet s i) :
    Undisturbed (receiverClient socket pc) s i := by
  intro j hj hholds
  by_cases hreads : (s.locals i).Reads
  · exact holdsRead_of_not_writes (h hreads j hj) _
  · have hcell : ((shared (receiverClient socket pc)).step s i).1.cell = s.cell :=
      (bufferStep_keeps socket pc hreads s.cell s.world).1
    rw [hcell]
    exact hholds

/-- A thread for each connection, before its first call. -/
def accepting (conns : ι → κ) (buffer : WorkBuffer) (files : Files) :
    Shared ι (Thread κ) WorkBuffer Files :=
  ⟨fun i => .accepted (conns i), buffer, files⟩

/-- Where no read of the loop fails, the files are after every call those of
threads with buffers of their own if and only if every `fwrite` finds in
`work_buffer` what its thread has read, and that is so if no thread reads between
the read of another and its `fwrite`. -/
theorem workBuffer_threads (hread : ∀ conn, (socket conn workBufferSize).1.rd ≠ -1)
    (conns : ι → κ) (buffer : WorkBuffer) (files : Files) (schedule : List ι) :
    (AgreesThroughout (receiverClient socket pc) (threadStep socket pc)
        (accepting conns buffer files) schedule ↔
      (shared (receiverClient socket pc)).EveryStep (Finds (receiverClient socket pc))
        (accepting conns buffer files) schedule) ∧
    ((shared (receiverClient socket pc)).EveryStep Quiet (accepting conns buffer files) schedule →
      AgreesThroughout (receiverClient socket pc) (threadStep socket pc)
        (accepting conns buffer files) schedule) := by
  have hiff := agreesThroughout_iff (receiverClient_faithful socket pc)
    (receiverClient_sharp socket pc) (accepting conns buffer files) schedule
  refine ⟨hiff, ?_⟩
  intro hquiet
  refine hiff.mpr
    (finds_of_undisturbed (receiverClient_keeps socket pc hread) ?_ (fun _ => trivial))
  intro before i after heq
  exact undisturbed_of_quiet socket pc (hquiet before i after heq)

/-- "b", with two bytes. -/
def twoByteTransfer : Transfer where
  filename := CString.ofBytes [0x62]
  payload := [2, 3]
  size_lt := Nat.lt_of_le_of_lt (Nat.le_refl 2) (by decide)

/-- The transfers of "a" and of "b". -/
def twoTransfers : Bool → Conn
  | false => oneByteTransfer.conn
  | true => twoByteTransfer.conn

/-- Behind the first four calls both files are open. -/
def twoOpened : Shared Bool (Thread Conn) WorkBuffer Files where
  locals
    | false => .reading ⟨oneByteTransfer.receivedName, 1, 0, 0⟩ ⟨[1], 1⟩
    | true => .reading ⟨twoByteTransfer.receivedName, 2, 0, 0⟩ ⟨[2, 3], 1⟩
  cell _ := 0
  world := Function.update (Function.update (fun _ => none) oneByteTransfer.receivedName (some []))
    twoByteTransfer.receivedName (some [])

section Transfers

variable {ι : Type} [DecidableEq ι] {seg : Segmentation} {pc : Pc} (t : Transfer)
  {s : Shared ι (Thread Conn) WorkBuffer Files} {i : ι}

theorem step_accepted (hwhole : packetSize ≤ seg.cut 0) (hthread : s.locals i = .accepted t.conn) :
    ((shared (receiverClient seg.socket pc)).step s i).1 =
      ⟨Function.update s.locals i (.creating t.packet ⟨t.payload, 1⟩), s.cell, s.world⟩ := by
  have hact : (receiverClient seg.socket pc).act (s.locals i) s.cell s.world =
      (.creating t.packet ⟨t.payload, 1⟩, s.cell, s.world) := by
    rw [hthread]
    unfold receiverClient bufferStep
    dsimp only
    rw [t.threadStep_accepted hwhole]
  exact shared_step hact

theorem step_creating {conn : Conn} (hopen : pc.canOpen t.receivedName = true)
    (hthread : s.locals i = .creating t.packet conn) :
    ((shared (receiverClient seg.socket pc)).step s i).1 =
      ⟨Function.update s.locals i (.reading ⟨t.receivedName, t.payload.length, 0, 0⟩ conn), s.cell,
        Function.update s.world t.receivedName (some [])⟩ := by
  have hact : (receiverClient seg.socket pc).act (s.locals i) s.cell s.world =
      (.reading ⟨t.receivedName, t.payload.length, 0, 0⟩ conn, s.cell,
        Function.update s.world t.receivedName (some [])) := by
    rw [hthread]
    unfold receiverClient bufferStep
    dsimp only
    rw [t.threadStep_creating hopen]
  exact shared_step hact

end Transfers

/-- The calls that open the files do not touch the buffer. -/
theorem everyStep_twoTransfers {P : Shared Bool (Thread Conn) WorkBuffer Files → Bool → Prop}
    (hidle : ∀ s i, ¬ (s.locals i).Reads → ¬ (s.locals i).Writes → P s i) (schedule : List Bool) :
    (shared (receiverClient wholeReads.socket (Pc.ofLong 64 (by decide)))).EveryStep P
        (accepting twoTransfers (fun _ => 0) fun _ => none)
        (false :: true :: false :: true :: schedule) ↔
      (shared (receiverClient wholeReads.socket (Pc.ofLong 64 (by decide)))).EveryStep P
        twoOpened schedule := by
  have hwhole : packetSize ≤ wholeReads.cut 0 := by decide
  have hlocals : Function.update (Function.update (Function.update (Function.update
      (fun i => Thread.accepted (twoTransfers i))
      false (.creating oneByteTransfer.packet ⟨[1], 1⟩))
      true (.creating twoByteTransfer.packet ⟨[2, 3], 1⟩))
      false (.reading ⟨oneByteTransfer.receivedName, 1, 0, 0⟩ ⟨[1], 1⟩))
      true (.reading ⟨twoByteTransfer.receivedName, 2, 0, 0⟩ ⟨[2, 3], 1⟩) =
        twoOpened.locals := by
    funext i
    cases i <;> rfl
  rw [Machine.everyStep_cons, step_accepted oneByteTransfer hwhole rfl,
    Machine.everyStep_cons, step_accepted twoByteTransfer hwhole rfl,
    Machine.everyStep_cons, step_creating oneByteTransfer rfl rfl,
    Machine.everyStep_cons, step_creating twoByteTransfer rfl rfl]
  rw [and_iff_right (hidle _ _ id id), and_iff_right (hidle _ _ id id),
    and_iff_right (hidle _ _ id id), and_iff_right (hidle _ _ id id)]
  refine iff_of_eq (congrArg (fun s => Machine.EveryStep _ P s schedule) ?_)
  exact congrArg
    (fun locals => (⟨locals, twoOpened.cell, twoOpened.world⟩ : Shared Bool _ WorkBuffer Files))
    hlocals

/-- With both files open, each read is followed by its own `fwrite`; or "b" is read
before the byte of "a" is written, which is then a byte of "b". -/
theorem workBuffer_threads_twoTransfers :
    AgreesThroughout (receiverClient wholeReads.socket (Pc.ofLong 64 (by decide)))
        (threadStep wholeReads.socket (Pc.ofLong 64 (by decide)))
        (accepting twoTransfers (fun _ => 0) fun _ => none)
        [false, true, false, true, false, false, true, true] ∧
      ¬ AgreesThroughout (receiverClient wholeReads.socket (Pc.ofLong 64 (by decide)))
        (threadStep wholeReads.socket (Pc.ofLong 64 (by decide)))
        (accepting twoTransfers (fun _ => 0) fun _ => none)
        [false, true, false, true, false, true, false, true] := by
  have hread : ∀ conn, (wholeReads.socket conn workBufferSize).1.rd ≠ -1 :=
    fun conn => wholeReads.rd_socket conn workBufferSize
  constructor
  · refine (workBuffer_threads wholeReads.socket _ hread twoTransfers _ _ _).2 ?_
    rw [everyStep_twoTransfers fun _ _ hreads _ h => absurd h hreads]
    decide +kernel
  · intro hagrees
    have hfinds := (workBuffer_threads wholeReads.socket _ hread twoTransfers _ _ _).1.mp hagrees
    have hidle : ∀ (s : Shared Bool (Thread Conn) WorkBuffer Files) i,
        ¬ (s.locals i).Reads → ¬ (s.locals i).Writes →
        Finds (receiverClient wholeReads.socket (Pc.ofLong 64 (by decide))) s i :=
      fun s i _ hwrites => holdsRead_of_not_writes hwrites s.cell
    rw [everyStep_twoTransfers hidle] at hfinds
    revert hfinds
    decide +kernel

end GcToolKit.Net
