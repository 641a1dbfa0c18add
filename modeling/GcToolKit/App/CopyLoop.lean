import GcToolKit.App.Calls
import GcToolKit.App.Device

/-!
# The copy loop of a physical dump

Bytes can get lost in the loop: a short write is counted as what it stored, but
the next read goes on behind all that was read. `CopyInv` keeps the two counts
apart. What was written is never more than what was read, and only if it is as
much is it the same; the loop counts up to the size of the device, which only a
copy without a loss can reach.
-/

namespace GcToolKit.App

open ByteFile DoWhile GcToolKit.Crypto GcToolKit.Cmd56 GcToolKit.Kern

variable {κ : Type}

/-! ## One pass -/

section Pass

variable {ω : Type} (sha : StreamHash κ (Bytes 0x20)) (rdFunc : ReadFunc ω)
  (wrFunc : WriteFunc ω)

/-- The state after a pass that read `data` and wrote `wr` bytes. -/
def passed (state : BackupState κ) (data : List UInt8) (wr : Int) : BackupState κ :=
  { state with
    shaCtx := state.shaCtx.map fun ctx => sha.update ctx data
    total := addU64 state.total wr.toNat }

variable {rdFunc wrFunc}

/-- A pass that reads some bytes and writes some. -/
theorem deviceAccessBody_passes {s : BackupState κ × ω} {data : List UInt8} {w₁ w₂ : ω} {wr : Int}
    (hread : rdFunc s.1.rdFd bufferSize s.2 = (.bytes data, w₁)) (hdata : data.length ≠ 0)
    (hwrite : wrFunc s.1.wrFd data w₁ = (wr, w₂)) (hwr : 0 < wr) (toRead : Nat) :
    deviceAccessBody sha rdFunc wrFunc toRead s =
      if (passed sha s.1 data wr).total < toRead then .again (passed sha s.1 data wr, w₂)
      else .exit (0, passed sha s.1 data wr, w₂) := by
  unfold deviceAccessBody
  dsimp only
  rw [hread]
  dsimp only
  rw [if_neg hdata, hwrite]
  dsimp only
  rw [if_neg (by omega), if_neg (by omega)]
  rfl

/-- One pass is enough where it reads and writes all there is to copy. -/
theorem deviceAccessLoop_onePass {state : BackupState κ} {data : List UInt8} {w w₁ w₂ : ω}
    (htotal : state.total = 0) (hpos : 0 < data.length) (hlt : data.length < 2 ^ 63)
    (htoRead : subU64 state.effectiveSize state.headerSize = data.length)
    (hread : rdFunc state.rdFd bufferSize w = (.bytes data, w₁))
    (hwrite : wrFunc state.wrFd data w₁ = ((data.length : Int), w₂)) (fuel : Nat) :
    deviceAccessLoop sha rdFunc wrFunc (fuel + 1) state w =
      some (0, passed sha state data data.length, w₂) := by
  have hbody := deviceAccessBody_passes sha (s := (state, w)) hread (by omega) hwrite (by omega)
    (subU64 state.effectiveSize state.headerSize)
  have hdone : (passed sha state data data.length).total =
      subU64 state.effectiveSize state.headerSize := by
    dsimp only [passed]
    rw [htotal, htoRead]
    unfold addU64
    omega
  rw [hdone, if_neg (Nat.lt_irrefl _)] at hbody
  exact run_exit hbody

/-- A read that gives nothing ends the loop. -/
theorem deviceAccessBody_empty {s : BackupState κ × ω} {data : List UInt8} {w₁ : ω}
    (hread : rdFunc s.1.rdFd bufferSize s.2 = (.bytes data, w₁)) (hdata : data.length = 0)
    (toRead : Nat) :
    deviceAccessBody sha rdFunc wrFunc toRead s = .exit (sizeIsZero, s.1, w₁) := by
  unfold deviceAccessBody
  dsimp only
  rw [hread]
  dsimp only
  rw [if_pos hdata]

/-- A write that takes nothing ends the loop, behind the hash. -/
theorem deviceAccessBody_refused {s : BackupState κ × ω} {data : List UInt8} {w₁ w₂ : ω} {wr : Int}
    (hread : rdFunc s.1.rdFd bufferSize s.2 = (.bytes data, w₁)) (hdata : data.length ≠ 0)
    (hwrite : wrFunc s.1.wrFd data w₁ = (wr, w₂)) (hwr : wr ≤ 0) (toRead : Nat) :
    deviceAccessBody sha rdFunc wrFunc toRead s =
      .exit (if wr = 0 then sizeIsZero else wr, { s.1 with
        shaCtx := s.1.shaCtx.map fun ctx => sha.update ctx data }, w₂) := by
  unfold deviceAccessBody
  dsimp only
  rw [hread]
  dsimp only
  rw [if_neg hdata, hwrite]
  dsimp only
  by_cases hzero : wr = 0
  · rw [if_pos hzero, if_pos hzero]
  · rw [if_neg hzero, if_neg hzero, if_pos (by omega)]

variable (rdFunc wrFunc)

/-- What the loop keeps of the state. -/
structure SameTask (state state' : BackupState κ) : Prop where
  outputPath : state'.outputPath = state.outputPath
  rdFd : state'.rdFd = state.rdFd
  wrFd : state'.wrFd = state.wrFd
  format : state'.format = state.format
  netInfo : state'.netInfo = state.netInfo
  hashed : state'.shaCtx.isSome = state.shaCtx.isSome

theorem passed_sameTask (state : BackupState κ) (data : List UInt8) (wr : Int) :
    SameTask state (passed sha state data wr) :=
  ⟨rfl, rfl, rfl, rfl, rfl, Option.isSome_map⟩

theorem SameTask.trans {s s' s'' : BackupState κ} (h : SameTask s s') (h' : SameTask s' s'') :
    SameTask s s'' where
  outputPath := h'.outputPath.trans h.outputPath
  rdFd := h'.rdFd.trans h.rdFd
  wrFd := h'.wrFd.trans h.wrFd
  format := h'.format.trans h.format
  netInfo := h'.netInfo.trans h.netInfo
  hashed := h'.hashed.trans h.hashed

/-- A pass leaves with an error, or reads some bytes, writes some, and counts
them. -/
theorem deviceAccessBody_cases (toRead : Nat) (s : BackupState κ × ω) :
    (∃ res s', deviceAccessBody sha rdFunc wrFunc toRead s = .exit (res, s') ∧ res < 0 ∧
      SameTask s.1 s'.1) ∨
      ∃ data w₁ wr w₂, rdFunc s.1.rdFd bufferSize s.2 = (.bytes data, w₁) ∧
        wrFunc s.1.wrFd data w₁ = (wr, w₂) ∧ 0 < wr ∧
        deviceAccessBody sha rdFunc wrFunc toRead s =
          if (passed sha s.1 data wr).total < toRead then .again (passed sha s.1 data wr, w₂)
          else .exit (0, passed sha s.1 data wr, w₂) := by
  rcases s with ⟨state, w⟩
  cases hread : rdFunc state.rdFd bufferSize w with
  | mk rd w₁ =>
    cases rd with
    | error code hneg =>
      left
      refine ⟨code, (state, w₁), ?_, hneg, rfl, rfl, rfl, rfl, rfl, rfl⟩
      unfold deviceAccessBody
      dsimp only
      rw [hread]
    | bytes data =>
      by_cases hdata : data.length = 0
      · left
        exact ⟨sizeIsZero, (state, w₁), deviceAccessBody_empty sha hread hdata toRead, by decide,
          rfl, rfl, rfl, rfl, rfl, rfl⟩
      · cases hwrite : wrFunc state.wrFd data w₁ with
        | mk wr w₂ =>
          by_cases hwr : 0 < wr
          · -- a short write passes as well
            right
            exact ⟨data, w₁, wr, w₂, rfl, hwrite, hwr,
              deviceAccessBody_passes sha hread hdata hwrite hwr toRead⟩
          · left
            refine ⟨_, _, deviceAccessBody_refused sha hread hdata hwrite (not_lt.mp hwr) toRead, ?_,
              rfl, rfl, rfl, rfl, rfl, Option.isSome_map⟩
            split
            · decide
            · omega

theorem deviceAccessBody_sameTask {toRead : Nat} {s : BackupState κ × ω} :
    (∀ r, deviceAccessBody sha rdFunc wrFunc toRead s = .exit r → SameTask s.1 r.2.1) ∧
      ∀ s', deviceAccessBody sha rdFunc wrFunc toRead s = .again s' → SameTask s.1 s'.1 := by
  rcases deviceAccessBody_cases sha rdFunc wrFunc toRead s with
    ⟨res, s₁, hexit, -, hsame⟩ | ⟨data, w₁, wr, w₂, -, -, -, heq⟩
  · rw [hexit]
    constructor
    · intro r hr
      cases hr
      exact hsame
    · intro s' hs'
      cases hs'
  · have hpassed := passed_sameTask sha s.1 data wr
    rw [heq]
    constructor
    · intro r hr
      split at hr
      · cases hr
      · cases hr
        exact hpassed
    · intro s' hs'
      split at hs'
      · cases hs'
        exact hpassed
      · cases hs'

theorem deviceAccessLoop_sameTask {fuel : Nat} {state state' : BackupState κ} {w w' : ω}
    {res : Int}
    (hrun : deviceAccessLoop sha rdFunc wrFunc fuel state w = some (res, state', w')) :
    SameTask state state' := by
  refine run_invariant (I := fun s => SameTask state s.1) (Q := fun r => SameTask state r.2.1)
    ?_ ?_ ⟨rfl, rfl, rfl, rfl, rfl, rfl⟩ hrun
  · intro s r hs hbody
    exact hs.trans ((deviceAccessBody_sameTask sha rdFunc wrFunc).1 r hbody)
  · intro s s' hs hbody
    exact hs.trans ((deviceAccessBody_sameTask sha rdFunc wrFunc).2 s' hbody)

/-- What every read and every write keeps, a pass keeps. -/
theorem deviceAccessBody_keeps {I : ω → Prop} {s : BackupState κ × ω}
    (hread : ∀ size w, I w → I (rdFunc s.1.rdFd size w).2)
    (hwrite : ∀ data w, I w → I (wrFunc s.1.wrFd data w).2) (toRead : Nat) (hs : I s.2) :
    (∀ r, deviceAccessBody sha rdFunc wrFunc toRead s = .exit r → I r.2.2) ∧
      ∀ s', deviceAccessBody sha rdFunc wrFunc toRead s = .again s' → I s'.2 := by
  rcases s with ⟨state, w⟩
  have hread₁ := hread bufferSize w hs
  unfold deviceAccessBody
  dsimp only at hread₁ hwrite ⊢
  generalize rdFunc state.rdFd bufferSize w = got at hread₁ ⊢
  rcases got with ⟨rd, w₁⟩
  -- the pass leaves behind the read, or behind the write
  cases rd with
  | error code hneg =>
    constructor
    · intro r hr
      cases hr
      exact hread₁
    · intro s' hs'
      cases hs'
  | bytes data =>
    have hwrite₁ := hwrite data w₁ hread₁
    dsimp only
    generalize wrFunc state.wrFd data w₁ = put at hwrite₁ ⊢
    constructor
    · intro r hr
      split at hr
      · cases hr
        exact hread₁
      · split at hr
        · cases hr
          exact hwrite₁
        · split at hr
          · cases hr
            exact hwrite₁
          · split at hr
            · cases hr
            · cases hr
              exact hwrite₁
    · intro s' hs'
      split at hs'
      · cases hs'
      · split at hs'
        · cases hs'
        · split at hs'
          · cases hs'
          · split at hs'
            · cases hs'
              exact hwrite₁
            · cases hs'

theorem deviceAccessLoop_keeps {I : ω → Prop} {fuel : Nat} {state state' : BackupState κ} {w w' : ω}
    {res : Int} (hread : ∀ size w, I w → I (rdFunc state.rdFd size w).2)
    (hwrite : ∀ data w, I w → I (wrFunc state.wrFd data w).2) (hw : I w)
    (hrun : deviceAccessLoop sha rdFunc wrFunc fuel state w = some (res, state', w')) : I w' := by
  refine run_invariant (I := fun s => SameTask state s.1 ∧ I s.2) (Q := fun r => I r.2.2)
    ?_ ?_ ⟨⟨rfl, rfl, rfl, rfl, rfl, rfl⟩, hw⟩ hrun
  · rintro s r ⟨hsame, hs⟩ hbody
    rw [← hsame.rdFd] at hread
    rw [← hsame.wrFd] at hwrite
    exact (deviceAccessBody_keeps sha rdFunc wrFunc hread hwrite _ hs).1 r hbody
  · rintro s s' ⟨hsame, hs⟩ hbody
    refine ⟨hsame.trans ((deviceAccessBody_sameTask sha rdFunc wrFunc).2 s' hbody), ?_⟩
    rw [← hsame.rdFd] at hread
    rw [← hsame.wrFd] at hwrite
    exact (deviceAccessBody_keeps sha rdFunc wrFunc hread hwrite _ hs).2 s' hbody

end Pass

/-! ## The calls of a pass -/

/-- A write that does not fail stores a first part and moves on behind it. -/
theorem sceIoWrite_stores {fd : SceUID} {data : List UInt8} {w w' : World} {wr : Int}
    {path : CString} {pos : Nat} {content : List UInt8} (hfd : w.file? fd = some (path, pos))
    (hfile : w.files path = some content) (h : sceIoWrite fd data w = (wr, w'))
    (hwr : 0 ≤ wr) : ∃ n ≤ data.length, wr = n ∧ SameDevices w w' ∧
      w'.files path = some (writeAt content pos (data.take n)) ∧
      w'.file? fd = some (path, pos + n) := by
  rcases sceIoWrite_cases fd data w with
    ⟨r, hneg, hcall⟩ | ⟨path', pos', n, w'', hfd', hn, hcall, hwritten⟩
  · rw [h] at hcall
    cases hcall
    exact absurd hneg (not_lt.mpr hwr)
  · rw [hfd] at hfd'
    cases hfd'
    rw [h] at hcall
    cases hcall
    refine ⟨n, hn, rfl, hwritten.same, ?_, hwritten.position⟩
    rw [hwritten.files, Function.update_self, hfile, Option.getD_some]

/-- A read that does not fail is on an open handle, gives the next bytes of the
device, and moves on behind them. -/
theorem kReadDevice_reads {fd : SceUID} {size : Nat} {w w' : World} {data : List UInt8}
    (h : kReadDevice fd size w = (.bytes data, w')) :
    ∃ device pos dev n, w.device? fd = some (device, pos) ∧ w.devices device = some dev ∧
      data = (dev.content.drop pos).take n ∧ n ≤ (dev.content.drop pos).length ∧
      SameFiles w w' ∧ w'.device? fd = some (device, pos + n) := by
  rcases kReadDevice_cases fd size w with
    ⟨r, hr, hcall⟩ | ⟨device, pos, dev, n, w'', hfd, hdev, hn, hcall, hfd', hasked⟩
  · rw [h] at hcall
    cases hcall
  · rw [h] at hcall
    cases hcall
    exact ⟨device, pos, dev, n, hfd, hdev, rfl, hn, hasked.same, hfd'⟩

/-! ## The invariant -/

section Copy

variable (sha : StreamHash κ (Bytes 0x20)) (start : BackupState κ) (x : AuthEmu)
  (dev : BlockDevice) (header : List UInt8)

/-- `p` bytes of the device were read, and `written` follows the header in the
file. -/
structure CopyInv (s : BackupState κ × World) (p : Nat) (written : List UInt8) : Prop where
  kernel : s.2.kernel = x
  devices : s.2.devices start.blockDevice = some dev
  /-- The device may have failed to open. -/
  rdPos : ∀ device q, s.2.device? start.rdFd = some (device, q) →
    device = start.blockDevice ∧ q = p
  wrPos : s.2.file? start.wrFd = some (start.outputPath, header.length + written.length)
  file : s.2.files start.outputPath = some (header ++ written)
  written_le : written.length ≤ p
  p_le : p ≤ dev.content.length
  exact_of_eq : written.length = p → written = dev.content.take p
  state : s.1 = { start with
    total := written.length
    shaCtx := start.shaCtx.map fun _ => sha.absorbed (dev.content.take p) }

variable {sha start x dev header}

/-- A copy of the full length is the device. -/
theorem CopyInv.complete {s : BackupState κ × World} {p : Nat} {written : List UInt8}
    (hinv : CopyInv sha start x dev header s p written)
    (hlen : dev.content.length ≤ written.length) :
    written = dev.content ∧ p = dev.content.length := by
  have hle := hinv.written_le
  have hp := hinv.p_le
  have heq : p = dev.content.length := by omega
  have hexact := hinv.exact_of_eq (by omega)
  rw [heq, List.take_length] at hexact
  exact ⟨hexact, heq⟩

/-- Bytes written behind an exact copy keep it exact if none was lost. -/
theorem copy_exact {content written data : List UInt8} {p n m : Nat}
    (hle : written.length ≤ p) (hexact : written.length = p → written = content.take p)
    (hdata : data = (content.drop p).take n) (hdlen : data.length = n) (hm : m ≤ data.length)
    (hlen : (written ++ data.take m).length = p + n) :
    written ++ data.take m = content.take (p + n) := by
  rw [List.length_append, List.length_take] at hlen
  have hwritten := hexact (by omega)
  have htake : data.take m = data := List.take_of_length_le (by omega)
  rw [htake, hwritten, hdata, List.take_add]

/-- The invariant after a read of `n` bytes and a write of the first `m`. -/
theorem CopyInv.advance {state : BackupState κ} {w w₁ w₂ : World} {p n m : Nat}
    {written data : List UInt8} (hinv : CopyInv sha start x dev header (state, w) p written)
    (hdata : data = (dev.content.drop p).take n) (hn : n ≤ (dev.content.drop p).length)
    (hm : m ≤ data.length) (hfiles : SameFiles w w₁) (hdevices : SameDevices w₁ w₂)
    (hfd : w₁.device? start.rdFd = some (start.blockDevice, p + n))
    (hfile : w₂.files start.outputPath =
      some (writeAt (header ++ written) (header.length + written.length) (data.take m)))
    (hpos : w₂.file? start.wrFd =
      some (start.outputPath, header.length + written.length + m)) :
    CopyInv sha start x dev header ({ state with
      shaCtx := state.shaCtx.map fun ctx => sha.update ctx data
      total := addU64 state.total m }, w₂) (p + n) (written ++ data.take m) := by
  have hstate := hinv.state
  dsimp only at hstate
  have hdlen : data.length = n := by
    rw [hdata, List.length_take]
    omega
  have hmlen : (data.take m).length = m := by
    rw [List.length_take]
    omega
  have hle := hinv.written_le
  have hp := hinv.p_le
  rw [List.length_drop] at hn
  constructor
  · exact hdevices.kernel.trans (hfiles.kernel.trans hinv.kernel)
  · dsimp only
    rw [hdevices.devices, hfiles.devices]
    exact hinv.devices
  · intro device q hq
    dsimp only at hq
    rw [hdevices.device?, hfd] at hq
    cases hq
    exact ⟨rfl, rfl⟩
  · dsimp only
    rw [hpos, List.length_append, hmlen, Nat.add_assoc]
  · dsimp only
    rw [hfile, ← List.length_append, writeAt_end, List.append_assoc]
  · rw [List.length_append, hmlen]
    omega
  · omega
  · exact copy_exact hle hinv.exact_of_eq hdata hdlen hm
  · -- the count does not wrap: it is at most the size of the device
    have htotal : addU64 written.length m = written.length + m := by
      have hlt := dev.size_lt
      unfold addU64
      omega
    have hsha : (start.shaCtx.map fun _ => sha.absorbed (dev.content.take p)).map
        (fun ctx => sha.update ctx data) =
          start.shaCtx.map fun _ => sha.absorbed (dev.content.take (p + n)) := by
      rw [Option.map_map, List.take_add, ← hdata]
      congr 1
      funext _
      exact sha.update_absorbed _ _
    dsimp only
    rw [hstate]
    dsimp only
    rw [htotal, hsha, List.length_append, hmlen]

/-- One pass: an error, or some more bytes were written and the invariant holds
again. -/
theorem copyInv_pass {s : BackupState κ × World} {p : Nat} {written : List UInt8}
    (hinv : CopyInv sha start x dev header s p written) (toRead : Nat) :
    (∃ res s', deviceAccessBody sha kReadDevice sceIoWrite toRead s = .exit (res, s') ∧ res < 0) ∨
      ∃ s' p' written', CopyInv sha start x dev header s' p' written' ∧
        written.length < written'.length ∧
        deviceAccessBody sha kReadDevice sceIoWrite toRead s =
          if s'.1.total < toRead then .again s' else .exit (0, s') := by
  rcases s with ⟨state, w⟩
  have hstate := hinv.state
  dsimp only at hstate
  have hrdFd : state.rdFd = start.rdFd := by rw [hstate]
  have hwrFd : state.wrFd = start.wrFd := by rw [hstate]
  rcases deviceAccessBody_cases sha kReadDevice sceIoWrite toRead (state, w) with
    ⟨res, s', hexit, hneg, -⟩ | ⟨data, w₁, wr, w₂, hread, hwrite, hpos, hbody⟩
  · exact Or.inl ⟨res, s', hexit, hneg⟩
  · right
    dsimp only at hread hwrite
    rw [hrdFd] at hread
    rw [hwrFd] at hwrite
    -- the read is at the position the invariant knows, since the handle is open
    rcases kReadDevice_reads hread with ⟨device, pos, dev', n, hfd, hdev', hbytes, hn, hsame, hfd'⟩
    rcases hinv.rdPos device pos hfd with ⟨rfl, rfl⟩
    obtain rfl : dev' = dev := by
      have hdev := hinv.devices
      rw [hdev'] at hdev
      exact Option.some.inj hdev
    have hfile₁ : w₁.files start.outputPath = some (header ++ written) := by
      rw [hsame.files]
      exact hinv.file
    have hpos₁ := (hsame.file? start.wrFd).trans hinv.wrPos
    rcases sceIoWrite_stores hpos₁ hfile₁ hwrite (by omega) with
      ⟨m, hm, rfl, hdevices, hfile₂, hpos₂⟩
    refine ⟨_, pos + n, written ++ data.take m,
      hinv.advance hbytes hn hm hsame hdevices hfd' hfile₂ hpos₂, ?_, hbody⟩
    rw [List.length_append, List.length_take]
    omega

/-! ## The loop -/

/-- The loop gives a result within as many passes as there are bytes to read. -/
theorem deviceAccessLoop_returns {w : World}
    (hinv : CopyInv sha start x dev header (start, w) 0 []) {fuel : Nat}
    (hfuel : subU64 start.effectiveSize start.headerSize < fuel) :
    ∃ r, deviceAccessLoop sha kReadDevice sceIoWrite fuel start w = some r := by
  have hagain : ∀ s s', (∃ p written, CopyInv sha start x dev header s p written) →
      deviceAccessBody sha kReadDevice sceIoWrite
        (subU64 start.effectiveSize start.headerSize) s = .again s' →
      (∃ p written, CopyInv sha start x dev header s' p written) ∧
        subU64 start.effectiveSize start.headerSize - s'.1.total <
          subU64 start.effectiveSize start.headerSize - s.1.total := by
    rintro s s' ⟨p, written, hs⟩ hbody
    rcases copyInv_pass hs (subU64 start.effectiveSize start.headerSize) with
      ⟨res, s'', hexit, -⟩ | ⟨s'', p', written', hs', hlt, heq⟩
    · rw [hexit] at hbody
      cases hbody
    · rw [heq] at hbody
      split at hbody
      · next hmore =>
        -- every pass that goes round again has written something
        cases hbody
        refine ⟨⟨p', written', hs'⟩, ?_⟩
        have htotal : s.1.total = written.length := by rw [hs.state]
        have htotal' : s'.1.total = written'.length := by rw [hs'.state]
        omega
      · cases hbody
  unfold deviceAccessLoop
  refine run_returns (fun s : BackupState κ × World =>
    subU64 start.effectiveSize start.headerSize - s.1.total) hagain ⟨0, [], hinv⟩ ?_
  dsimp only
  omega

/-- A result that is no error comes with all the bytes asked for. -/
theorem deviceAccessLoop_copies {w w' : World} {state' : BackupState κ} {res : Int}
    (hinv : CopyInv sha start x dev header (start, w) 0 []) {fuel : Nat}
    (hrun : deviceAccessLoop sha kReadDevice sceIoWrite fuel start w = some (res, state', w'))
    (hres : 0 ≤ res) : res = 0 ∧ ∃ p written, CopyInv sha start x dev header (state', w') p written ∧
      subU64 start.effectiveSize start.headerSize ≤ written.length := by
  refine run_invariant (I := fun s => ∃ p written, CopyInv sha start x dev header s p written)
    (Q := fun r => 0 ≤ r.1 → r.1 = 0 ∧ ∃ p written, CopyInv sha start x dev header r.2 p written ∧
      subU64 start.effectiveSize start.headerSize ≤ written.length)
    ?_ ?_ ⟨0, [], hinv⟩ hrun hres
  · rintro s r ⟨p, written, hs⟩ hbody hr
    rcases copyInv_pass hs (subU64 start.effectiveSize start.headerSize) with
      ⟨res', s'', hexit, hneg⟩ | ⟨s'', p', written', hs', -, heq⟩
    · rw [hexit] at hbody
      cases hbody
      exact absurd hr (by omega)
    · rw [heq] at hbody
      split at hbody
      · cases hbody
      · next hdone =>
        -- the count is no longer below what was to be read
        cases hbody
        have htotal : s''.1.total = written'.length := by rw [hs'.state]
        exact ⟨rfl, p', written', hs', by omega⟩
  · rintro s s' ⟨p, written, hs⟩ hbody
    rcases copyInv_pass hs (subU64 start.effectiveSize start.headerSize) with
      ⟨res', s'', hexit, -⟩ | ⟨s'', p', written', hs', -, heq⟩
    · rw [hexit] at hbody
      cases hbody
    · rw [heq] at hbody
      split at hbody
      · cases hbody
        exact ⟨p', written', hs'⟩
      · cases hbody

end Copy

end GcToolKit.App
