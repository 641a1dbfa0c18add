import Mathlib.Data.Nat.Find
import GcToolKit.Net.Receiver

/-!
# When the receive loop ends

The loop of `receive_packets` adds what a read returns to a `uint64_t` and looks
at the total only. A closed connection adds 0 forever, and an error adds -1: it
is handed to `fwrite` as a length, and the total wraps to a value that passes
for the whole file.

* `result_stateAt` — what the reads up to a pass leave in the variables;
* `finishesProperly_iff` — the connection is served as it should exactly when
  the reads bring the whole file before any of them fails.
-/

namespace GcToolKit.Net

open DoWhile

variable {κ : Type} (socket : Socket κ) (conn : κ)

/-! ## The reads one after the other -/

/-- The connection before each read of the loop. -/
def connAt : Nat → κ
  | 0 => conn
  | n + 1 => (socket (connAt n) workBufferSize).2

def readAt (n : Nat) : ReadResult := (socket (connAt socket conn n) workBufferSize).1

/-- How many bytes the first `n` reads put into the file. -/
def bytesRead : Nat → Nat
  | 0 => 0
  | n + 1 => bytesRead n + (readAt socket conn n).data.length

theorem rd_eq_length {r : ReadResult} (h : 0 ≤ r.rd) : r.rd = r.data.length := by
  cases r with
  | bytes data => rfl
  | error stored => exact absurd h (show ¬ (0 : Int) ≤ -1 by decide)

/-! ## The variables after each pass -/

/-- The body of the loop, before the test. -/
def receiveNext (s : Receiving κ) : Receiving κ :=
  let (r, conn) := socket s.conn workBufferSize
  { totalRead := ((s.totalRead + r.rd) % 2 ^ 64).toNat
    content := s.content ++ r.data
    lengths := r.rd :: s.lengths
    conn := conn }

theorem receiveBody_eq (totalSize : Nat) (s : Receiving κ) :
    receiveBody socket totalSize s =
      if (receiveNext socket s).totalRead < totalSize then .again (receiveNext socket s)
      else .exit (receiveNext socket s) := rfl

def stateAt (n : Nat) : Receiving κ := (receiveNext socket)^[n] ⟨0, [], [], conn⟩

/-- What `n` reads leave. The total is that of the file only as long as no read
has failed. -/
structure AfterReads (n : Nat) (s : Receiving κ) : Prop where
  conn_eq : s.conn = connAt socket conn n
  arrived : s.content.length = bytesRead socket conn n
  lengths_nonneg : (∀ l ∈ s.lengths, 0 ≤ l) ↔ ∀ i < n, 0 ≤ (readAt socket conn i).rd
  total : (∀ i < n, 0 ≤ (readAt socket conn i).rd) →
    s.totalRead = bytesRead socket conn n % 2 ^ 64

variable {socket conn}

/-- One read more. -/
theorem AfterReads.next {n : Nat} {s : Receiving κ} (h : AfterReads socket conn n s) :
    AfterReads socket conn (n + 1) (receiveNext socket s) := by
  have hread : socket s.conn workBufferSize = (readAt socket conn n, connAt socket conn (n + 1)) := by
    rw [h.conn_eq]
    rfl
  have hnext : receiveNext socket s =
      { totalRead := ((s.totalRead + (readAt socket conn n).rd) % 2 ^ 64).toNat
        content := s.content ++ (readAt socket conn n).data
        lengths := (readAt socket conn n).rd :: s.lengths
        conn := connAt socket conn (n + 1) } := by
    unfold receiveNext
    rw [hread]
  rw [hnext]
  refine ⟨rfl, ?_, ?_, ?_⟩
  · dsimp only
    rw [List.length_append, h.arrived]
    rfl
  · -- the length of this read is in front of the others
    dsimp only
    rw [List.forall_mem_cons, h.lengths_nonneg, Nat.forall_lt_succ_right]
    exact And.comm
  · intro hreads
    rcases Nat.forall_lt_succ_right.mp hreads with ⟨hbefore, hlast⟩
    -- a read that is no error counts what it brought
    have htotal := h.total hbefore
    have hrd := rd_eq_length hlast
    have hsum : bytesRead socket conn (n + 1) =
        bytesRead socket conn n + (readAt socket conn n).data.length := rfl
    dsimp only
    rw [hrd, hsum, htotal]
    omega

variable (socket conn) in
theorem result_stateAt (n : Nat) : AfterReads socket conn n (stateAt socket conn n) := by
  induction n with
  | zero =>
    refine ⟨rfl, rfl, ?_, fun _ => rfl⟩
    exact iff_of_true (fun l hl => absurd hl List.not_mem_nil)
      (fun i hi => absurd hi (Nat.not_lt_zero i))
  | succ n ih =>
    unfold stateAt
    rw [Function.iterate_succ_apply']
    exact ih.next

/-! ## The end of the loop -/

/-- The loop ends with the first total that is not below the size. -/
theorem receiveFile_eq_some_iff {fuel totalSize : Nat} {s : Receiving κ} :
    receiveFile socket fuel totalSize conn = some s ↔
      ∃ n < fuel, s = stateAt socket conn (n + 1) ∧
        ¬ (stateAt socket conn (n + 1)).totalRead < totalSize ∧
        ∀ m < n, (stateAt socket conn (m + 1)).totalRead < totalSize := by
  unfold receiveFile
  rw [run_eq_some_iff (receiveNext socket) (fun s => s.totalRead < totalSize)
    (receiveBody_eq socket totalSize)]
  constructor
  · rintro ⟨n, hn, rfl, hlast, hfirst⟩
    exact ⟨n, hn, rfl, hlast, hfirst⟩
  · rintro ⟨n, hn, rfl, hlast, hfirst⟩
    exact ⟨n, hn, rfl, hlast, hfirst⟩

variable (socket conn)

/-- Up to some read none has failed, and the total is that of the file. -/
def BringsAll (totalSize : Nat) : Prop :=
  ∃ n, (∀ i ≤ n, 0 ≤ (readAt socket conn i).rd) ∧
    totalSize ≤ bytesRead socket conn (n + 1) % 2 ^ 64

variable {socket conn}

/-- The loop that ends without a negative length had it all brought. -/
theorem bringsAll_of_receiveFile {fuel totalSize : Nat} {s : Receiving κ}
    (hrun : receiveFile socket fuel totalSize conn = some s) (hlengths : ∀ l ∈ s.lengths, 0 ≤ l) :
    BringsAll socket conn totalSize := by
  rcases receiveFile_eq_some_iff.mp hrun with ⟨n, -, rfl, hlast, -⟩
  have hstate := result_stateAt socket conn (n + 1)
  have hreads := hstate.lengths_nonneg.mp hlengths
  refine ⟨n, ?_, ?_⟩
  · intro i hi
    exact hreads i (Nat.lt_succ_of_le hi)
  · rw [← hstate.total hreads]
    exact Nat.le_of_not_lt hlast

/-- Then it does end, and at a read where it is. -/
theorem receiveFile_of_bringsAll {totalSize : Nat} (hall : BringsAll socket conn totalSize) :
    (∃ fuel s, receiveFile socket fuel totalSize conn = some s) ∧
      ∀ fuel s, receiveFile socket fuel totalSize conn = some s →
        (∀ l ∈ s.lengths, 0 ≤ l) ∧ totalSize ≤ s.content.length := by
  classical
  -- the first read at which the total is there, with no failed read up to it
  have hreads : ∀ i ≤ Nat.find hall, 0 ≤ (readAt socket conn i).rd := (Nat.find_spec hall).1
  have hsize := (Nat.find_spec hall).2
  have htotal : ∀ m ≤ Nat.find hall, (stateAt socket conn (m + 1)).totalRead =
      bytesRead socket conn (m + 1) % 2 ^ 64 := by
    intro m hm
    apply (result_stateAt socket conn (m + 1)).total
    intro i hi
    exact hreads i (Nat.le_trans (Nat.le_of_lt_succ hi) hm)
  have hbelow : ∀ m < Nat.find hall, (stateAt socket conn (m + 1)).totalRead < totalSize := by
    intro m hm
    rw [htotal m (Nat.le_of_lt hm)]
    -- otherwise it had been there before
    by_contra hge
    refine Nat.find_min hall hm ⟨?_, Nat.le_of_not_lt hge⟩
    intro i hi
    exact hreads i (Nat.le_trans hi (Nat.le_of_lt hm))
  have hthere : ¬ (stateAt socket conn (Nat.find hall + 1)).totalRead < totalSize := by
    rw [htotal _ (Nat.le_refl _)]
    exact Nat.not_lt.mpr hsize
  constructor
  · exact ⟨Nat.find hall + 1, _, receiveFile_eq_some_iff.mpr
      ⟨Nat.find hall, Nat.lt_succ_self _, rfl, hthere, hbelow⟩⟩
  · intro fuel s hrun
    rcases receiveFile_eq_some_iff.mp hrun with ⟨n, -, rfl, hlast, hfirst⟩
    -- a loop that ends, ends there: before, the total is below the size
    have hn : n = Nat.find hall := by
      rcases Nat.lt_trichotomy n (Nat.find hall) with hlt | heq | hgt
      · exact absurd (hbelow n hlt) hlast
      · exact heq
      · exact absurd (hfirst _ hgt) hthere
    subst hn
    have hstate := result_stateAt socket conn (Nat.find hall + 1)
    refine ⟨hstate.lengths_nonneg.mpr fun i hi => hreads i (Nat.le_of_lt_succ hi), ?_⟩
    rw [hstate.arrived]
    exact Nat.le_trans hsize (Nat.mod_le _ _)

/-! ## A packet served as it should be -/

section Served

variable (pc : Pc) (packet : Packet) (files : Files)

/-- The packet gets to the loop. -/
def FileOpens : Prop :=
  getLe magicField packet = sendFileMagic ∧ pc.canOpen (sendFilename packet) = true

variable (socket conn)

/-- It comes to an end, no length is negative, and a file that is reported as
received has the size the packet says. -/
structure FinishesProperly : Prop where
  ends : ∃ fuel session, servePacket socket pc fuel packet files conn = some session
  lengths : FileOpens pc packet → ∀ fuel s,
    receiveFile socket fuel (getLe SendFile.totalSize packet) conn = some s → ∀ l ∈ s.lengths, 0 ≤ l
  arrived : ∀ fuel session filename, servePacket socket pc fuel packet files conn = some session →
    .received filename ∈ session.reports →
      ∃ content, session.files filename = some content ∧
        getLe SendFile.totalSize packet ≤ content.length

variable {socket conn pc packet files}

theorem servePacket_fileOpens (hopen : FileOpens pc packet) (fuel : Nat) :
    servePacket socket pc fuel packet files conn =
      (receiveFile socket fuel (getLe SendFile.totalSize packet) conn).map fun s =>
        ⟨Function.update files (sendFilename packet) (some s.content),
          [.receiving (sendFilename packet) (getLe SendFile.totalSize packet),
            .received (sendFilename packet)]⟩ := by
  unfold servePacket receiveSend
  dsimp only
  rw [if_pos hopen.1, if_pos hopen.2]

variable (socket conn files) in
/-- Without the loop there is an end, and nothing is reported as received. -/
theorem servePacket_no_loop (hopen : ¬ FileOpens pc packet) (fuel : Nat) :
    ∃ session, servePacket socket pc fuel packet files conn = some session ∧
      ∀ filename, .received filename ∉ session.reports := by
  unfold servePacket
  split
  · next hsend =>
    -- the file cannot be created
    unfold receiveSend
    dsimp only
    rw [if_neg fun h => hopen ⟨hsend, h⟩]
    exact ⟨_, rfl, by simp⟩
  · split
    · refine ⟨_, rfl, ?_⟩
      rw [reports_receivePatch]
      simp
    · exact ⟨_, rfl, by simp⟩

theorem FinishesProperly.bringsAll (h : FinishesProperly socket conn pc packet files)
    (hopen : FileOpens pc packet) :
    BringsAll socket conn (getLe SendFile.totalSize packet) := by
  rcases h.ends with ⟨fuel, session, hserve⟩
  rw [servePacket_fileOpens hopen, Option.map_eq_some_iff] at hserve
  rcases hserve with ⟨s, hrun, -⟩
  exact bringsAll_of_receiveFile hrun (h.lengths hopen fuel s hrun)

theorem finishesProperly_iff :
    FinishesProperly socket conn pc packet files ↔
      (FileOpens pc packet → BringsAll socket conn (getLe SendFile.totalSize packet)) := by
  constructor
  · exact fun h => h.bringsAll
  · intro hall
    by_cases hopen : FileOpens pc packet
    · -- the loop ends, and whatever its passes, with the same content
      rcases receiveFile_of_bringsAll (hall hopen) with ⟨⟨fuel, s, hrun⟩, hresult⟩
      refine ⟨⟨fuel, _, (servePacket_fileOpens hopen fuel).trans (congrArg (Option.map _) hrun)⟩,
        fun _ fuel s hrun => (hresult fuel s hrun).1, ?_⟩
      · intro fuel session filename hserve hreceived
        rw [servePacket_fileOpens hopen, Option.map_eq_some_iff] at hserve
        rcases hserve with ⟨s, hrun, rfl⟩
        have hname : filename = sendFilename packet := by simpa using hreceived
        subst hname
        refine ⟨s.content, ?_, (hresult fuel s hrun).2⟩
        dsimp only
        rw [Function.update_self]
    · -- no loop, and no file that is received
      rcases servePacket_no_loop socket conn files hopen 0 with
        ⟨session, hserve, -⟩
      refine ⟨⟨0, session, hserve⟩, fun h => absurd h hopen, ?_⟩
      intro fuel session filename hserve hreceived
      rcases servePacket_no_loop socket conn files hopen fuel with
        ⟨session', hserve', hreports⟩
      rw [hserve'] at hserve
      cases hserve
      exact absurd hreceived (hreports filename)

end Served

/-! ## A peer that goes away -/

/-- The sender has closed the connection. -/
def closedSocket : Socket Unit := fun _ _ => (.bytes [], ())

theorem bytesRead_closedSocket (n : Nat) : bytesRead closedSocket () n = 0 := by
  induction n with
  | zero => rfl
  | succ n ih =>
    rw [bytesRead, ih]
    rfl

/-- The packet for "a" announces one byte, and none comes. -/
theorem not_finishesProperly_closed :
    ¬ FinishesProperly closedSocket () (Pc.ofLong 64 (by decide))
      (sendFilePacket (CString.ofBytes [0x61]) 1) (fun _ => none) := by
  intro h
  rcases h.bringsAll ⟨sendFilePacket_magic _ _, rfl⟩ with ⟨n, -, hsize⟩
  rw [sendFilePacket_totalSize _ _ (by decide), bytesRead_closedSocket] at hsize
  exact absurd hsize (by decide)

end GcToolKit.Net
