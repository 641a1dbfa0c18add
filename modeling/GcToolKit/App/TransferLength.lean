import GcToolKit.App.CopyLog
import GcToolKit.App.WriteLoop
import GcToolKit.Lib.Limited

/-!
# How much the copy loop hands over (app/device.c)

`device_access_loop` asks for a whole buffer in every pass and compares with `to_read`
afterwards. Where all calls are served in full it therefore hands its write function
what the source has, up to the end of the buffer in which `to_read` is reached, and at
least one buffer: that is `to_read` exactly where the source ends there or `to_read` is
a positive multiple of the size of the buffer (`loggedLoop_handsExactly_iff`).
-/

namespace GcToolKit.App

open DoWhile Limited GcToolKit.Crypto GcToolKit.Cmd56
open GcToolKit.Kern (oRdonly oRdlock)

/-! ## What setup_state computes -/

def BackupState.toRead {κ : Type} (state : BackupState κ) : Nat :=
  subU64 state.effectiveSize state.headerSize

theorem getDeviceSize_lt {device : CString} {size : Nat} {w : World}
    (h : 0 ≤ (getDeviceSize device size w).1) : (getDeviceSize device size w).2.1 < 2 ^ 63 := by
  rcases getDeviceSize_cases device size w with ⟨r, hneg, n, hcall⟩ | ⟨dev, -, -, -, hcall⟩
  · rw [hcall] at h
    exact absurd h (not_le.mpr hneg)
  · rw [hcall]
    exact dev.size_lt

/-- Either the size is 0 or it is asked for. -/
theorem getTrimmedSize_lt {device : CString} {size : Nat} {w : World}
    (h : 0 ≤ (getTrimmedSize device size w).1) : (getTrimmedSize device size w).2.1 < 2 ^ 63 := by
  have hfailed : kernelModuleFailedStart < 0 := by decide
  unfold getTrimmedSize at h ⊢
  generalize isModuleStarted w = started at h ⊢
  dsimp only at h ⊢
  by_cases hstarted : started.1 = true
  · rw [if_neg (not_not.mpr hstarted)] at h ⊢
    generalize App.kOpenDevice device (oRdonly ||| oRdlock) started.2 = opened at h ⊢
    by_cases hopened : opened.1 < 0
    · rw [if_pos hopened] at h
      exact absurd h (not_le.mpr hopened)
    · rw [if_neg hopened] at h ⊢
      generalize App.kReadDevice opened.1 sectorSize opened.2 = mbr at h ⊢
      by_cases hnone : mbrDeviceSize mbr.1 ≤ 0
      · rw [if_pos hnone]
        exact Nat.lt_of_le_of_lt hnone (by decide)
      · rw [if_neg hnone] at h ⊢
        exact getDeviceSize_lt h
  · rw [if_pos hstarted] at h
    exact absurd h (not_le.mpr hfailed)

theorem getEffectiveSize_lt {device : CString} {format : BackupFormat} {size : Nat} {w : World}
    (h : 0 ≤ (getEffectiveSize device format size w).1) :
    subU64 (getEffectiveSize device format size w).2.1 (getHeaderSize format) < 2 ^ 63 := by
  unfold getEffectiveSize at h ⊢
  cases format with
  | vci | psv =>
    dsimp only at h ⊢
    have hlt := getDeviceSize_lt h
    rw [subU64_addU64 hlt]
    exact hlt
  | vciTrim | psvTrim =>
    dsimp only at h ⊢
    have hlt := getTrimmedSize_lt h
    rw [subU64_addU64 hlt]
    exact hlt
  | raw =>
    dsimp only [getHeaderSize] at h ⊢
    have hlt := getDeviceSize_lt h
    rw [subU64_zero hlt]
    exact hlt

section Setup

variable {κ : Type} (sha : StreamHash κ (Bytes 0x20)) (device path : CString)
  (format : BackupFormat) (keys : Option Cmd56Keys) (netInfo : Option NetworkInfo) (w : World)

/-- The state with which the loop is entered: `setup_state` has filled it in, and the
handles have been opened since. -/
def loopState (rdFd wrFd : SceUID) : BackupState κ :=
  { (setupState sha device path format keys netInfo w).2.1 with rdFd := rdFd, wrFd := wrFd }

theorem loopState_begins (rdFd wrFd : SceUID)
    (h : 0 ≤ (setupState sha device path format keys netInfo w).1) :
    (loopState sha device path format keys netInfo w rdFd wrFd).total = 0 ∧
      (loopState sha device path format keys netInfo w rdFd wrFd).toRead < 2 ^ 63 := by
  unfold loopState BackupState.toRead
  dsimp only
  unfold setupState at h ⊢
  dsimp only [BackupState.start] at h ⊢
  by_cases hsize : (getDeviceSize device 0 w).1 < 0
  · rw [if_pos hsize] at h
    exact absurd h (not_le.mpr hsize)
  · rw [if_neg hsize] at h ⊢
    generalize getDeviceSize device 0 w = sized at h ⊢
    by_cases htrim : (getTrimmedSize device 0 sized.2.2).1 < 0
    · rw [if_pos htrim] at h
      exact absurd h (not_le.mpr htrim)
    · rw [if_neg htrim] at h ⊢
      generalize getTrimmedSize device 0 sized.2.2 = trimmed at h ⊢
      by_cases heffective : (getEffectiveSize device format 0 trimmed.2.2).1 < 0
      · rw [if_pos heffective] at h
        exact absurd h (not_le.mpr heffective)
      · rw [if_neg heffective]
        exact ⟨rfl, getEffectiveSize_lt (not_lt.mp heffective)⟩

end Setup

/-! ## One pass -/

section Transfer

variable {κ ω : Type} (sha : StreamHash κ (Bytes 0x20)) (rdFunc : ReadFunc ω)
  (wrFunc : WriteFunc ω) (rdFd wrFd : SceUID) (source room : Option Nat)
  (ready : Nat → Nat → ω → Prop) (state : BackupState κ)

/-- Every read gives what it is asked for as far as the source has it, and every write
takes what it is given as far as the target has room; `ready p q w` says that `p` bytes
were asked for and `q` handed over. -/
structure ServesInFull : Prop where
  read : ∀ p q w, ready p q w → ∃ data w', rdFunc rdFd bufferSize w = (.bytes data, w') ∧
    data.length = ahead source p bufferSize ∧ ready (p + bufferSize) q w'
  write : ∀ p q w (data : List UInt8), ready p q w → data.length ≤ bufferSize →
    ∃ w', wrFunc wrFd data w = (((ahead room q data.length : Nat) : Int), w') ∧
      ready p (q + data.length) w'

/-- The bytes that were handed to the write function. -/
def handed (log : List Written) : Nat := (log.flatMap Written.data).length

theorem handed_append (log : List Written) (e : Written) :
    handed (log ++ [e]) = handed log + e.data.length := by
  unfold handed
  rw [List.flatMap_append, List.flatMap_singleton, List.length_append]

/-- What was handed over is what the source has of the `p` bytes asked for, and what was
counted is what the target had room for. -/
structure TransferInv (s : BackupState (κ × List UInt8) × ω × List Written) (p : Nat) : Prop where
  rdFd : s.1.rdFd = state.rdFd
  wrFd : s.1.wrFd = state.wrFd
  chunks : bufferSize ∣ p
  more : p = 0 ∨ p < state.toRead
  handed : handed s.2.2 = ahead source 0 p
  total : s.1.total = ahead room 0 (ahead source 0 p)
  ready : ready p (ahead source 0 p) s.2.1

variable {rdFunc wrFunc source room ready state}

section Passes

variable {s : BackupState (κ × List UInt8) × ω × List Written} {p n : Nat} {data : List UInt8}
  {w : ω}

theorem handed_loggedPass (hinv : TransferInv source room ready state s p)
    (hdata : data.length = ahead source p bufferSize) (wr : Int) :
    handed (loggedPass sha s data wr w).2.2 = ahead source 0 (p + bufferSize) := by
  unfold loggedPass
  dsimp only
  rw [handed_append, hinv.handed, ← ahead_add, ← hdata]

/-- The count after a write is what the target had room for; it does not wrap. -/
theorem total_loggedPass (hinv : TransferInv source room ready state s p)
    (hsize : state.toRead < 2 ^ 63) (hdata : data.length = ahead source p bufferSize)
    (hn : n = ahead room (ahead source 0 p) data.length) :
    (loggedPass sha s data n w).1.total = ahead room 0 (ahead source 0 (p + bufferSize)) := by
  have hsofar := ahead_add source p bufferSize
  have hroom := ahead_add room (ahead source 0 p) data.length
  have hle₁ := ahead_le source 0 (p + bufferSize)
  have hle₂ := ahead_le room 0 (ahead source 0 (p + bufferSize))
  have hsmall : bufferSize < 2 ^ 63 := by decide
  have hlimit : p + bufferSize < 2 ^ 64 := by
    rcases hinv.more with rfl | hlt
    · omega
    · omega
  rw [← hdata] at hsofar
  rw [← hn, hsofar] at hroom
  unfold loggedPass passed addU64
  dsimp only
  rw [hinv.total]
  omega

/-- A pass that hands something over and counts it. -/
theorem transferInv_passes (hsource : ahead source 0 state.toRead = state.toRead)
    (hroom : ahead room 0 state.toRead = state.toRead) (hsize : state.toRead < 2 ^ 63)
    (hinv : TransferInv source room ready state s p)
    (hdata : data.length = ahead source p bufferSize) (hsome : 0 < data.length)
    (hn : n = ahead room (ahead source 0 p) data.length)
    (hready : ready (p + bufferSize) (ahead source 0 p + data.length) w) :
    ((loggedPass sha s data n w).1.total < state.toRead ∧
        TransferInv source room ready state (loggedPass sha s data n w) (p + bufferSize) ∧
        handed s.2.2 < handed (loggedPass sha s data n w).2.2) ∨
      (¬ (loggedPass sha s data n w).1.total < state.toRead ∧
        (handed (loggedPass sha s data n w).2.2 = state.toRead ↔
          source = some state.toRead ∨ (0 < state.toRead ∧ bufferSize ∣ state.toRead))) := by
  have hsofar := ahead_add source p bufferSize
  have hhanded := handed_loggedPass sha hinv hdata (w := w) n
  have htotal := total_loggedPass sha hinv hsize hdata hn (w := w)
  have hcounted := ahead_lt_iff hsource hroom (p + bufferSize)
  rw [← htotal] at hcounted
  by_cases hmore : p + bufferSize < state.toRead
  · left
    refine ⟨hcounted.mpr hmore, ?_, ?_⟩
    · constructor
      · exact hinv.rdFd
      · exact hinv.wrFd
      · exact Nat.dvd_add hinv.chunks (Nat.dvd_refl bufferSize)
      · exact Or.inr hmore
      · exact hhanded
      · exact htotal
      · rw [← hsofar, ← hdata]
        exact hready
    · rw [hhanded, hinv.handed]
      omega
  · -- this was the buffer in which `to_read` is reached
    right
    refine ⟨fun hlt => hmore (hcounted.mp hlt), ?_⟩
    rw [hhanded]
    exact ahead_chunks_iff hinv.chunks hinv.more (not_lt.mp hmore) (by omega) hsource

end Passes

/-- One pass: the loop goes on behind another buffer, or it ends, and then what was
handed over is `to_read` only in the two cases. -/
theorem transferInv_pass (hserves : ServesInFull rdFunc wrFunc state.rdFd state.wrFd source room ready)
    (hsource : ahead source 0 state.toRead = state.toRead)
    (hroom : ahead room 0 state.toRead = state.toRead) (hsize : state.toRead < 2 ^ 63)
    {s : BackupState (κ × List UInt8) × ω × List Written} {p : Nat}
    (hinv : TransferInv source room ready state s p) :
    (∃ s', deviceAccessBody sha.recorded (readThrough rdFunc) (writeLogged wrFunc) state.toRead s =
        .again s' ∧ TransferInv source room ready state s' (p + bufferSize) ∧
        handed s.2.2 < handed s'.2.2) ∨
      ∃ res s', deviceAccessBody sha.recorded (readThrough rdFunc) (writeLogged wrFunc)
          state.toRead s = .exit (res, s') ∧
        (handed s'.2.2 = state.toRead ↔
          source = some state.toRead ∨ (0 < state.toRead ∧ bufferSize ∣ state.toRead)) := by
  rcases hserves.read p _ s.2.1 hinv.ready with ⟨data, w₁, hread, hdata, hready₁⟩
  have hread' : readThrough rdFunc s.1.rdFd bufferSize s.2 = (.bytes data, w₁, s.2.2) := by
    unfold readThrough
    rw [hinv.rdFd, hread]
  have hchunk : data.length ≤ bufferSize := by
    rw [hdata]
    exact ahead_le source p bufferSize
  by_cases hempty : data.length = 0
  · -- the source is at its end: it has nothing, and nothing was to be read
    right
    rw [hempty] at hdata
    rcases source_empty (by decide) hinv.more hsource hdata.symm with ⟨hfirst, hnone, hends⟩
    refine ⟨sizeIsZero, _, deviceAccessBody_empty sha.recorded hread' hempty state.toRead,
      iff_of_true ?_ (Or.inl ?_)⟩
    · dsimp only
      rw [hinv.handed, hfirst, hnone]
      exact Nat.le_zero.mp (ahead_le source 0 0)
    · rw [hnone]
      exact hends
  · rcases hserves.write _ _ w₁ data hready₁ hchunk with ⟨w₂, hwrite, hready₂⟩
    have hwrite' : writeLogged wrFunc s.1.wrFd data (w₁, s.2.2) =
        (((ahead room (ahead source 0 p) data.length : Nat) : Int), w₂,
          s.2.2 ++ [⟨data, ahead room (ahead source 0 p) data.length⟩]) := by
      unfold writeLogged
      rw [hinv.wrFd, hwrite]
      rfl
    by_cases hfull : ahead room (ahead source 0 p) data.length = 0
    · -- the target has no room: nothing was to be read, but something is handed over
      right
      rcases target_full (Nat.pos_of_ne_zero hempty) hinv.more hsource hroom hfull with
        ⟨hfirst, hnone⟩
      refine ⟨_, _, deviceAccessBody_refused sha.recorded hread' hempty hwrite' (by omega)
        state.toRead, iff_of_false ?_ ?_⟩
      · dsimp only
        rw [handed_append, hnone]
        dsimp only
        omega
      · rw [hnone]
        rintro (hsome | ⟨hpos, -⟩)
        · rw [hsome] at hdata
          have hle : ahead (some 0) p bufferSize ≤ 0 - p := Nat.min_le_right ..
          omega
        · exact Nat.lt_irrefl 0 hpos
    · have hbody := deviceAccessBody_passes sha.recorded hread' hempty hwrite' (by omega)
        state.toRead
      rcases transferInv_passes sha hsource hroom hsize hinv hdata (Nat.pos_of_ne_zero hempty) rfl
        hready₂ with ⟨hmore, hnext, hgrows⟩ | ⟨hdone, hiff⟩
      · exact Or.inl ⟨_, hbody.trans (if_pos hmore), hnext, hgrows⟩
      · exact Or.inr ⟨0, _, hbody.trans (if_neg hdone), hiff⟩

/-! ## The loop -/

theorem transferInv_start {w : ω} (htotal : state.total = 0) (hready : ready 0 0 w) :
    TransferInv source room ready state (state.mapCtx fun ctx => (ctx, ([] : List UInt8)), w, [])
      0 := by
  have hnothing : ∀ limit, ahead limit 0 0 = 0 := fun limit => Nat.le_zero.mp (ahead_le limit 0 0)
  constructor
  · rfl
  · rfl
  · exact Nat.dvd_zero bufferSize
  · exact Or.inl rfl
  · rw [hnothing]
    rfl
  · rw [hnothing, hnothing]
    exact htotal
  · rw [hnothing]
    exact hready

/-- Every pass that goes round again hands over some more of the bytes. -/
theorem loggedLoop_returns
    (hserves : ServesInFull rdFunc wrFunc state.rdFd state.wrFd source room ready)
    (hsource : ahead source 0 state.toRead = state.toRead)
    (hroom : ahead room 0 state.toRead = state.toRead) (hsize : state.toRead < 2 ^ 63)
    (htotal : state.total = 0) {w : ω} (hready : ready 0 0 w) {fuel : Nat}
    (hfuel : state.toRead < fuel) : ∃ r, loggedLoop sha rdFunc wrFunc fuel state w = some r := by
  refine run_returns (I := fun s => ∃ p, TransferInv source room ready state s p)
    (fun s => state.toRead - handed s.2.2) ?_ ⟨0, transferInv_start htotal hready⟩ ?_
  · rintro s s' ⟨p, hs⟩ hbody
    rcases transferInv_pass sha hserves hsource hroom hsize hs with
      ⟨s'', hagain, hs', hlt⟩ | ⟨res, s'', hexit, -⟩
    · have heq := hagain.symm.trans hbody
      cases heq
      -- going round again means that `to_read` is not reached yet
      have hbefore : handed s'.2.2 ≤ state.toRead := by
        have hmore : p + bufferSize < state.toRead := by
          have hchunk : p + bufferSize ≠ 0 := Nat.ne_of_gt (Nat.lt_of_lt_of_le (by decide) (Nat.le_add_left ..))
          exact hs'.more.resolve_left hchunk
        rw [hs'.handed, ahead_within hsource (Nat.le_of_lt hmore)]
        exact Nat.le_of_lt hmore
      refine ⟨⟨_, hs'⟩, ?_⟩
      omega
    · have heq := hexit.symm.trans hbody
      cases heq
  · dsimp only
    omega

theorem loggedLoop_handed_iff
    (hserves : ServesInFull rdFunc wrFunc state.rdFd state.wrFd source room ready)
    (hsource : ahead source 0 state.toRead = state.toRead)
    (hroom : ahead room 0 state.toRead = state.toRead) (hsize : state.toRead < 2 ^ 63)
    (htotal : state.total = 0) {w : ω} (hready : ready 0 0 w) {fuel : Nat} {res : Int}
    {s' : BackupState (κ × List UInt8) × ω × List Written}
    (hrun : loggedLoop sha rdFunc wrFunc fuel state w = some (res, s')) :
    handed s'.2.2 = state.toRead ↔
      source = some state.toRead ∨ (0 < state.toRead ∧ bufferSize ∣ state.toRead) := by
  refine run_invariant (I := fun s => ∃ p, TransferInv source room ready state s p)
    (Q := fun r => handed r.2.2.2 = state.toRead ↔
      source = some state.toRead ∨ (0 < state.toRead ∧ bufferSize ∣ state.toRead))
    ?_ ?_ ⟨0, transferInv_start htotal hready⟩ hrun
  -- the invariant says which passes are the last, and with which length
  · rintro s r ⟨p, hs⟩ hbody
    rcases transferInv_pass sha hserves hsource hroom hsize hs with
      ⟨s'', hagain, -⟩ | ⟨res, s'', hexit, hiff⟩
    · have heq := hagain.symm.trans hbody
      cases heq
    · have heq := hexit.symm.trans hbody
      cases heq
      exact hiff
  · rintro s s' ⟨p, hs⟩ hbody
    rcases transferInv_pass sha hserves hsource hroom hsize hs with
      ⟨s'', hagain, hs', -⟩ | ⟨res, s'', hexit, -⟩
    · have heq := hagain.symm.trans hbody
      cases heq
      exact ⟨_, hs'⟩
    · have heq := hexit.symm.trans hbody
      cases heq

end Transfer

/-- From the state that `setup_state` leaves, with a source of at least `to_read` bytes
and room for them, the loop ends, and what it has handed over is `to_read` bytes exactly
where the source has no more or whole buffers make up `to_read`. -/
theorem loggedLoop_handsExactly_iff {κ ω : Type} (sha : StreamHash κ (Bytes 0x20))
    {device path : CString} {format : BackupFormat} {keys : Option Cmd56Keys}
    {netInfo : Option NetworkInfo} {w₀ : World} {rdFd wrFd : SceUID} {rdFunc : ReadFunc ω}
    {wrFunc : WriteFunc ω} {source room : Option Nat} {ready : Nat → Nat → ω → Prop} {w : ω}
    {toRead : Nat} (hsetup : 0 ≤ (setupState sha device path format keys netInfo w₀).1)
    (htoRead : (loopState sha device path format keys netInfo w₀ rdFd wrFd).toRead = toRead)
    (hserves : ServesInFull rdFunc wrFunc rdFd wrFd source room ready) (hready : ready 0 0 w)
    (hsource : ahead source 0 toRead = toRead) (hroom : ahead room 0 toRead = toRead) :
    (∃ fuel r, loggedLoop sha rdFunc wrFunc fuel
        (loopState sha device path format keys netInfo w₀ rdFd wrFd) w = some r) ∧
      ∀ fuel res state' w' log, loggedLoop sha rdFunc wrFunc fuel
          (loopState sha device path format keys netInfo w₀ rdFd wrFd) w =
            some (res, state', w', log) →
        (handed log = toRead ↔ source = some toRead ∨ (0 < toRead ∧ bufferSize ∣ toRead)) := by
  rcases loopState_begins sha device path format keys netInfo w₀ rdFd wrFd hsetup with
    ⟨htotal, hsize⟩
  subst htoRead
  constructor
  · rcases loggedLoop_returns sha hserves hsource hroom hsize htotal hready (Nat.lt_succ_self _) with
      ⟨r, hrun⟩
    exact ⟨_, r, hrun⟩
  · intro fuel res state' w' log hrun
    exact loggedLoop_handed_iff sha hserves hsource hroom hsize htotal hready hrun

/-! ## Dumping, restoring and wiping -/

section Served

variable {κ : Type} {device : CString} {dev : BlockDevice} {rdFd wrFd : SceUID}
  {wrFunc : WriteFunc World} {target : World → Prop}

/-- The device is read up to `p` or its end, and the target is open. -/
structure DumpAt (device : CString) (dev : BlockDevice) (rdFd : SceUID) (target : World → Prop)
    (p : Nat) (w : World) : Prop where
  willing : Willing w
  there : w.devices device = some dev
  source : w.device? rdFd = some (device, min p dev.content.length)
  isOpen : target w

/-- A device is read up to its end, into a target that takes all there is. -/
theorem dump_servesInFull
    (hread : ∀ w w', w'.files = w.files → w'.fileFds = w.fileFds → target w → target w')
    (hwrite : ∀ (data : List UInt8) w, Willing w → target w → data.length ≤ bufferSize →
      ∃ w', wrFunc wrFd data w = ((data.length : Int), w') ∧ w'.outcomes = w.outcomes ∧
        w'.tick = w.tick + 1 ∧ SameDevices w w' ∧ target w') :
    ServesInFull kReadDevice wrFunc rdFd wrFd (some dev.content.length) none
      fun p _ w => DumpAt device dev rdFd target p w := by
  constructor
  · intro p q w h
    rcases h.willing.outcome with ⟨hr, hall⟩
    -- nothing but the end of the device cuts the read short
    have hasks : min bufferSize (dev.content.length - p) =
        min (min bufferSize (dev.content.drop (min p dev.content.length)).length)
          (max 1 (w.outcomes w.tick).toNat) := by
      rw [List.length_drop]
      omega
    rcases kReadDevice_takes bufferSize h.source h.there hr hasks with ⟨w', hcall, hfd, hasked⟩
    refine ⟨_, w', hcall, ?_, ?_⟩
    · rw [List.length_take, List.length_drop]
      unfold ahead
      dsimp only [Option.elim]
      omega
    · constructor
      · exact h.willing.next hasked.outcomes hasked.tick
      · exact hasked.device h.there
      · rw [hfd]
        congr 2
        omega
      · exact hread w w' hasked.same.files hasked.same.fileFds h.isOpen
  · intro p q w data h hsize
    rcases hwrite data w h.willing h.isOpen hsize with
      ⟨w', hcall, houtcomes, htick, hsame, hopen⟩
    refine ⟨w', hcall, ?_⟩
    constructor
    · exact h.willing.next houtcomes htick
    · rw [hsame.devices]
      exact h.there
    · rw [hsame.device?]
      exact h.source
    · exact hopen

theorem sceIoWrite_draws (fd : SceUID) (data : List UInt8) (w : World) :
    (sceIoWrite fd data w).2.outcomes = w.outcomes ∧
      (sceIoWrite fd data w).2.tick = w.tick + 1 := by
  unfold sceIoWrite World.outcome
  dsimp only
  split
  · exact ⟨rfl, rfl⟩
  · split
    · exact ⟨rfl, rfl⟩
    · exact ⟨rfl, rfl⟩

/-- `dump_device_phys` -/
theorem dumpPhys_servesInFull (path : CString) : ServesInFull kReadDevice sceIoWrite rdFd wrFd
    (some dev.content.length) none fun p _ w =>
      DumpAt device dev rdFd (fun w => ∃ pos, w.file? wrFd = some (path, pos)) p w := by
  apply dump_servesInFull
  · rintro w w' - hfds ⟨pos, hpos⟩
    refine ⟨pos, ?_⟩
    unfold World.file? at hpos ⊢
    rw [hfds]
    exact hpos
  · rintro data w hwilling ⟨pos, hpos⟩ hsize
    rcases hwilling.outcome with ⟨hr, hall⟩
    rcases sceIoWrite_takes data hpos hr rfl with ⟨w', hcall, hwritten⟩
    rcases sceIoWrite_draws wrFd data w with ⟨houtcomes, htick⟩
    rw [hcall] at houtcomes htick
    rw [Nat.min_eq_left (by omega)] at hcall
    exact ⟨w', hcall, houtcomes, htick, hwritten.same, _, hwritten.position⟩

/-- `dump_device_network` -/
theorem dumpNetwork_servesInFull : ServesInFull kReadDevice fileSendData rdFd wrFd
    (some dev.content.length) none fun p _ w =>
      DumpAt device dev rdFd (fun _ => True) p w := by
  apply dump_servesInFull
  · intro w w' _ _ _
    trivial
  · intro data w hwilling _ hsize
    rcases hwilling.outcome with ⟨hr, hall⟩
    have hwhole : (data.length : Int) ≤ w.outcomes w.tick := by omega
    rcases sceNetSend_whole wrFd hwhole with ⟨w', hcall, houtcomes, htick, hsame⟩
    exact ⟨w', hcall, houtcomes, htick, hsame, trivial⟩

/-- A device that is written up to `q` or its end, from a source that goes on with byte
`p`. -/
structure FillAt (device : CString) (len : Nat) (wrFd : SceUID) (ready : Nat → World → Prop)
    (p q : Nat) (w : World) : Prop where
  willing : Willing w
  source : ready p w
  target : w.device? wrFd = some (device, min q len)
  there : ∃ dev, w.devices device = some dev ∧ dev.content.length = len

/-- A source that never ends, and a device that takes what it has room for. -/
theorem fill_servesInFull {rdFunc : ReadFunc World} (start : BackupState κ) {len : Nat}
    {ready : Nat → World → Prop}
    (hfeeds : ∀ n, ∃ expected : List UInt8, n ≤ expected.length ∧
      Feeds rdFunc start expected ready) :
    ServesInFull rdFunc kWriteDevice start.rdFd wrFd none (some len)
      (FillAt device len wrFd ready) := by
  have hbuffer : 0 < bufferSize := by decide
  constructor
  · intro p q w h
    -- a source that is long enough for this read
    rcases hfeeds (p + bufferSize) with ⟨expected, hlen, hfeed⟩
    rcases hfeed.read p w h.willing h.source (by omega) with
      ⟨data, w', hcall, hdata, -, hsame, hwilling, hready⟩
    rcases h.there with ⟨dev, hdev, hlength⟩
    refine ⟨data, w', hcall, hdata, ?_⟩
    constructor
    · exact hwilling
    · exact hready hlen
    · rw [hsame.device?]
      exact h.target
    · exact ⟨dev, (congrFun hsame.devices device).trans hdev, hlength⟩
  · intro p q w data h hsize
    rcases h.willing.outcome with ⟨hr, hall⟩
    rcases h.there with ⟨dev, hdev, hlength⟩
    have htakes : ahead (some len) q data.length =
        min (min data.length (dev.content.length - min q len)) (w.outcomes w.tick).toNat := by
      unfold ahead
      dsimp only [Option.elim]
      omega
    rcases kWriteDevice_takes data h.target hdev hr htakes with ⟨w', hcall, hwrote⟩
    have hroom : ahead (some len) q data.length ≤ len - q := Nat.min_le_right ..
    -- the write leaves the files alone, and with them the source
    rcases hfeeds 0 with ⟨expected, -, hfeed⟩
    refine ⟨w', hcall, ?_⟩
    constructor
    · exact h.willing.next hwrote.outcomes hwrote.tick
    · exact hfeed.keep p w w' hwrote.files hwrote.fileFds h.source
    · rw [hwrote.position]
      congr 2
      unfold ahead
      dsimp only [Option.elim]
      omega
    · refine ⟨_, hwrote.content, ?_⟩
      rw [BlockDevice.length_write]
      · exact hlength
      · rw [List.length_take]
        omega

/-- `wipe_device` -/
theorem wipe_servesInFull (start : BackupState κ) (len : Nat) :
    ServesInFull readNull kWriteDevice start.rdFd wrFd none (some len)
      (FillAt device len wrFd fun _ _ => True) := by
  apply fill_servesInFull start
  intro n
  exact ⟨List.replicate n 0, Nat.le_of_eq List.length_replicate.symm, readNull_feeds start n⟩

/-- `restore_device` -/
theorem restore_servesInFull (start : BackupState κ) (len : Nat) (path : CString)
    (image : List UInt8) :
    ServesInFull readDataFromImage kWriteDevice start.rdFd wrFd none (some len)
      (FillAt device len wrFd (ImageAt start path image)) := by
  apply fill_servesInFull start
  intro n
  have hsize : image.length ≤ n + image.length := Nat.le_add_left ..
  have hlen := length_padded hsize
  exact ⟨padded image (n + image.length), by omega, readDataFromImage_feeds start path hsize⟩

end Served

/-! ## A device of two bytes -/

/-- The device is open, and so is the file. -/
def openedWorld : World :=
  { willingWorld with
    files := fun _ => some []
    fileFds := fun _ => some (imageName, 0)
    deviceFds := fun _ => some (gcdName, 0) }

theorem openedWorld_willing : Willing openedWorld := by
  have hall : (bufferSize : Int) ≤ 0x20000 := by decide
  intro i _
  exact hall

theorem setupState_twoBytes (format : BackupFormat) :
    0 ≤ (setupState sha256 gcdName imageName format none none willingWorld).1 := by
  cases format <;> decide +kernel

theorem loopState_twoBytes (format : BackupFormat) (hfull : fmtIsTrim format = false) :
    (loopState sha256 gcdName imageName format none none willingWorld 1 2).toRead = 2 := by
  cases format with
  | vci | psv | raw => decide +kernel
  | vciTrim | psvTrim => cases hfull

/-- A dump hands over the two bytes. -/
theorem loggedLoop_handsExactly_dump :
    ∃ fuel res state' w' log, loggedLoop sha256 kReadDevice sceIoWrite fuel
        (loopState sha256 gcdName imageName .vci none none willingWorld 1 2) openedWorld =
          some (res, state', w', log) ∧ handed log = 2 := by
  have hready : DumpAt gcdName twoByteDevice 1 (fun w => ∃ pos, w.file? 2 = some (imageName, pos)) 0
      openedWorld :=
    ⟨openedWorld_willing, willingWorld_device, rfl, 0, rfl⟩
  rcases loggedLoop_handsExactly_iff sha256 (setupState_twoBytes .vci) (loopState_twoBytes .vci rfl)
    (dumpPhys_servesInFull imageName) hready rfl rfl with
    ⟨⟨fuel, ⟨res, state', w', log⟩, hrun⟩, hiff⟩
  exact ⟨fuel, res, state', w', log, hrun, (hiff fuel res state' w' log hrun).mpr (Or.inl rfl)⟩

/-- A wipe hands over a whole buffer. -/
theorem not_handsExactly_wipe :
    ∃ fuel res state' w' log, loggedLoop sha256 readNull kWriteDevice fuel
        (loopState sha256 gcdName imageName .raw none none willingWorld 1 2) openedWorld =
          some (res, state', w', log) ∧ handed log ≠ 2 := by
  have htoRead := loopState_twoBytes .raw rfl
  rcases loopState_begins sha256 gcdName imageName .raw none none willingWorld 1 2
    (setupState_twoBytes .raw) with ⟨htotal, hsize⟩
  generalize hstate : loopState sha256 gcdName imageName .raw none none willingWorld 1 2 = state at *
  have hwrFd : state.wrFd = 2 := by rw [← hstate]; rfl
  have hserves : ServesInFull readNull kWriteDevice state.rdFd state.wrFd none (some 2)
      (FillAt gcdName 2 state.wrFd fun _ _ => True) :=
    wipe_servesInFull state 2
  have hready : FillAt gcdName 2 state.wrFd (fun _ _ => True) 0 0 openedWorld := by
    rw [hwrFd]
    exact ⟨openedWorld_willing, trivial, rfl, twoByteDevice, willingWorld_device, rfl⟩
  have hroom : ahead (some 2) 0 state.toRead = state.toRead := by
    rw [htoRead]
    rfl
  rcases loggedLoop_returns sha256 hserves rfl hroom hsize htotal hready (Nat.lt_succ_self _) with
    ⟨⟨res, state', w', log⟩, hrun⟩
  have hiff := loggedLoop_handed_iff sha256 hserves rfl hroom hsize htotal hready hrun
  rw [htoRead] at hiff
  refine ⟨_, res, state', w', log, hrun, ?_⟩
  intro hexact
  rcases hiff.mp hexact with hends | ⟨-, hdvd⟩
  · cases hends
  · exact absurd hdvd (by decide)

end GcToolKit.App
