import GcToolKit.App.Backup
import GcToolKit.App.CopyLog

/-!
# The hash of a backup and what was written (app/device.c)

`device_access_loop` hashes the chunk it has read, and then goes on by what the write
function took of it. After a short write the rest of the chunk is hashed but lost, and
if the source is long enough the loop still ends with 0. The hash that is patched into
the header is the hash of the file exactly where no write was short
(`loggedLoop_hashesWritten_iff`).
-/

namespace GcToolKit.App

open ByteFile DoWhile GcToolKit.Crypto GcToolKit.Cmd56

/-! ## Short writes -/

theorem length_flatMap_stored_le (log : List Written) :
    (log.flatMap Written.stored).length ≤ (log.flatMap Written.data).length := by
  induction log with
  | nil => exact Nat.le_refl 0
  | cons e log ih =>
    rw [List.flatMap_cons, List.flatMap_cons, List.length_append, List.length_append]
    exact Nat.add_le_add (List.length_take_le' _ _) ih

/-- Bytes that were lost are missing: nothing behind them can make up for it. -/
theorem flatMap_data_eq_iff (log : List Written) :
    log.flatMap Written.data = log.flatMap Written.stored ↔
      ∀ e ∈ log, e.data.length ≤ e.taken := by
  induction log with
  | nil => exact iff_of_true rfl (List.forall_mem_nil _)
  | cons e log ih =>
    rw [List.flatMap_cons, List.flatMap_cons, List.forall_mem_cons, ← ih]
    constructor
    · intro heq
      have hlength := congrArg List.length heq
      have hrest := length_flatMap_stored_le log
      have hstored : e.stored.length = min e.taken e.data.length := List.length_take
      rw [List.length_append, List.length_append, hstored] at hlength
      have hwhole : e.data.length ≤ e.taken := by omega
      have hsame : e.stored = e.data := List.take_of_length_le hwhole
      rw [hsame] at heq
      exact ⟨hwhole, List.append_cancel_left heq⟩
    · rintro ⟨hwhole, heq⟩
      have hsame : e.stored = e.data := List.take_of_length_le hwhole
      rw [hsame, heq]

/-! ## The loop -/

section Loop

variable {κ ω : Type} (sha : StreamHash κ (Bytes 0x20)) (rdFunc : ReadFunc ω)
  (wrFunc : WriteFunc ω)

/-- The context has absorbed what the write function stored. -/
def HashesWritten (state : BackupState (κ × List UInt8)) (log : List Written) : Prop :=
  state.shaCtx.map Prod.snd = some (log.flatMap Written.stored)

/-- The context has absorbed what the write function was given. -/
def HashesHanded (s : BackupState (κ × List UInt8) × ω × List Written) : Prop :=
  s.1.shaCtx.map Prod.snd = some (s.2.2.flatMap Written.data)

variable {sha}

theorem HashesHanded.pass {s : BackupState (κ × List UInt8) × ω × List Written}
    (h : HashesHanded s) (data : List UInt8) (wr : Int) (w : ω) :
    HashesHanded (loggedPass sha s data wr w) := by
  rcases Option.map_eq_some_iff.mp h with ⟨ctx, hctx, hrecord⟩
  unfold HashesHanded loggedPass passed
  dsimp only
  rw [hctx, Option.map_some, Option.map_some, List.flatMap_append, List.flatMap_singleton,
    ← hrecord]
  rfl

theorem loggedLoop_hashesHanded {fuel : Nat} {state : BackupState κ} {w w' : ω}
    {state' : BackupState (κ × List UInt8)} {log : List Written}
    (hsha : state.shaCtx.isSome = true)
    (hrun : loggedLoop sha rdFunc wrFunc fuel state w = some (0, state', w', log)) :
    HashesHanded (state', w', log) := by
  have hstart : HashesHanded (state.mapCtx fun ctx => (ctx, ([] : List UInt8)), w, []) := by
    rcases Option.isSome_iff_exists.mp hsha with ⟨ctx, hctx⟩
    unfold HashesHanded BackupState.mapCtx
    dsimp only
    rw [hctx]
    rfl
  exact loggedLoop_invariant (I := HashesHanded)
    (fun s data _ wr w₂ hs _ _ _ => hs.pass data wr w₂) hstart hrun

/-- Whatever the source gives and the write function takes, a loop that ends with 0 has
hashed what was written exactly if every write took all it was given. -/
theorem loggedLoop_hashesWritten_iff {fuel : Nat} {state : BackupState κ} {w w' : ω}
    {state' : BackupState (κ × List UInt8)} {log : List Written}
    (hsha : state.shaCtx.isSome = true)
    (hrun : loggedLoop sha rdFunc wrFunc fuel state w = some (0, state', w', log)) :
    HashesWritten state' log ↔ ∀ e ∈ log, e.data.length ≤ e.taken := by
  have hhanded := loggedLoop_hashesHanded rdFunc wrFunc hsha hrun
  unfold HashesHanded at hhanded
  dsimp only at hhanded
  unfold HashesWritten
  rw [hhanded, Option.some_inj]
  exact flatMap_data_eq_iff log

end Loop

/-! ## What is stored in a file -/

section File

variable {κ : Type} (sha : StreamHash κ (Bytes 0x20)) (rdFd wrFd : SceUID) (path : CString)
  (content : List UInt8)

/-- The writes follow each other behind `content`. -/
structure Appends (s : BackupState (κ × List UInt8) × World × List Written) : Prop where
  source : s.1.rdFd = rdFd
  target : s.1.wrFd = wrFd
  file : s.2.1.files path = some (content ++ s.2.2.flatMap Written.stored)
  position : s.2.1.file? wrFd =
    some (path, (content ++ s.2.2.flatMap Written.stored).length)

variable {sha rdFd wrFd path content}

theorem Appends.pass {s : BackupState (κ × List UInt8) × World × List Written}
    (h : Appends rdFd wrFd path content s) {data : List UInt8} {wr : Int} {w₁ w₂ : World}
    (hread : kReadDevice rdFd bufferSize s.2.1 = (.bytes data, w₁))
    (hwrite : sceIoWrite wrFd data w₁ = (wr, w₂)) (hwr : 0 < wr) :
    Appends rdFd wrFd path content (loggedPass sha s data wr w₂) := by
  rcases kReadDevice_reads hread with ⟨-, -, -, -, -, -, -, -, hsame, -⟩
  have hfile₁ : w₁.files path = some (content ++ s.2.2.flatMap Written.stored) := by
    rw [hsame.files]
    exact h.file
  have hpos₁ := (hsame.file? wrFd).trans h.position
  rcases sceIoWrite_stores hpos₁ hfile₁ hwrite (Int.le_of_lt hwr) with
    ⟨n, hn, rfl, -, hfile₂, hpos₂⟩
  have hstored : (s.2.2 ++ [(⟨data, (n : Int).toNat⟩ : Written)]).flatMap Written.stored =
      s.2.2.flatMap Written.stored ++ data.take n := by
    rw [List.flatMap_append, List.flatMap_singleton]
    rfl
  constructor
  · exact h.source
  · exact h.target
  · unfold loggedPass
    dsimp only
    rw [hfile₂, writeAt_end, hstored, List.append_assoc]
  · unfold loggedPass
    dsimp only
    have hlength : (content ++ (s.2.2.flatMap Written.stored ++ data.take n)).length =
        (content ++ s.2.2.flatMap Written.stored).length + n := by
      rw [← List.append_assoc, List.length_append, List.length_take, Nat.min_eq_left hn]
    rw [hpos₂, hstored, hlength]

/-- What the log says was stored is what the file has grown by. -/
theorem loggedLoop_appends {fuel : Nat} {state : BackupState κ} {w w' : World}
    {state' : BackupState (κ × List UInt8)} {log : List Written}
    (hfile : w.files path = some content)
    (hpos : w.file? state.wrFd = some (path, content.length))
    (hrun : loggedLoop sha kReadDevice sceIoWrite fuel state w = some (0, state', w', log)) :
    w'.files path = some (content ++ log.flatMap Written.stored) := by
  have hstart : Appends state.rdFd state.wrFd path content
      (state.mapCtx fun ctx => (ctx, ([] : List UInt8)), w, []) := by
    constructor
    · rfl
    · rfl
    · rw [List.flatMap_nil, List.append_nil]
      exact hfile
    · rw [List.flatMap_nil, List.append_nil]
      exact hpos
  have hkept : Appends state.rdFd state.wrFd path content (state', w', log) := by
    refine loggedLoop_invariant (I := Appends state.rdFd state.wrFd path content) ?_ hstart hrun
    intro s data w₁ wr w₂ hs hread hwrite hwr
    rw [hs.source] at hread
    rw [hs.target] at hwrite
    exact hs.pass hread hwrite hwr
  exact hkept.file

end File

/-! ## A trimmed backup of two bytes -/

/-- The state for a card without partitions: its trimmed size is 0. -/
def trimmedState : BackupState Sha256Ctx :=
  { (BackupState.start gcdName imageName : BackupState Sha256Ctx) with
    deviceSize := 2
    headerSize := 0x200
    effectiveSize := 0x200
    shaCtx := some sha256.init
    rdFd := 1
    wrFd := 2
    format := .psvTrim }

/-- The header is written, and the next write takes `n` bytes. -/
def copyingWorld (n : Nat) : World :=
  { willingWorld with
    files := fun _ => some (List.replicate 0x200 0)
    fileFds := fun fd => if fd = 2 then some (imageName, 0x200) else none
    deviceFds := fun fd => if fd = 1 then some (gcdName, 0) else none
    outcomes := fun i => if i = 1 then (n : Int) else 0x20000 }

/-- What the loop leaves there: result, record and log. -/
def copyOutcome (n : Nat) : Option (Int × Option (List UInt8) × List Written) :=
  (loggedLoop sha256 kReadDevice sceIoWrite 1 trimmedState (copyingWorld n)).map fun r =>
    (r.1, r.2.1.shaCtx.map Prod.snd, r.2.2.2)

theorem copyOutcome_run {n : Nat} {record : Option (List UInt8)} {log : List Written}
    (h : copyOutcome n = some (0, record, log)) :
    ∃ state' w', loggedLoop sha256 kReadDevice sceIoWrite 1 trimmedState (copyingWorld n) =
      some (0, state', w', log) ∧ state'.shaCtx.map Prod.snd = record := by
  rcases Option.map_eq_some_iff.mp h with ⟨⟨res, state', w', log'⟩, hrun, heq⟩
  dsimp only at heq
  cases heq
  exact ⟨state', w', hrun, rfl⟩

/-- Both bytes are taken. -/
theorem loggedLoop_hashesWritten_whole :
    ∃ state' w' log, loggedLoop sha256 kReadDevice sceIoWrite 1 trimmedState (copyingWorld 2) =
      some (0, state', w', log) ∧ HashesWritten state' log := by
  have houtcome : copyOutcome 2 = some (0, some [0x13, 0x37], [⟨[0x13, 0x37], 2⟩]) := by
    decide +kernel
  rcases copyOutcome_run houtcome with ⟨state', w', hrun, -⟩
  refine ⟨state', w', _, hrun, ?_⟩
  apply (loggedLoop_hashesWritten_iff kReadDevice sceIoWrite rfl hrun).mpr
  intro e he
  rw [List.mem_singleton.mp he]
  exact Nat.le_refl 2

/-- One byte is taken: the hash is of both, and the loop ends with 0. -/
theorem not_hashesWritten_short :
    ∃ state' w' log, loggedLoop sha256 kReadDevice sceIoWrite 1 trimmedState (copyingWorld 1) =
      some (0, state', w', log) ∧ ¬ HashesWritten state' log := by
  have houtcome : copyOutcome 1 = some (0, some [0x13, 0x37], [⟨[0x13, 0x37], 1⟩]) := by
    decide +kernel
  rcases copyOutcome_run houtcome with ⟨state', w', hrun, hrecord⟩
  refine ⟨state', w', _, hrun, ?_⟩
  unfold HashesWritten
  rw [hrecord]
  decide

end GcToolKit.App
