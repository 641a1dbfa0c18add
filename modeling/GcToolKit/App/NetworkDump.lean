import GcToolKit.App.Backup
import GcToolKit.App.Setup

/-!
# The hash of a network dump (app/device.c)

`dump_device_network` sends the placeholder with the header and patches the hash in
over a second connection. `finalize_psv_header` turns every result of the patch into
one that is no error: 0 without a connection, and the truth value of `res >= 0`
with one. So the dump reports success whenever the copy did, and the hash is on the
PC only where none of the four calls behind the copy fails and the last of them takes
the whole packet: the PC has no use for a part of it.
-/

namespace GcToolKit.App

open DoWhile GcToolKit.Crypto GcToolKit.Cmd56 GcToolKit.Net
open GcToolKit.Kern (KernelDigests oRdonly oRdlock kGetSecret kGetHash)

variable {κ : Type} (digests : KernelDigests) (sha : StreamHash κ (Bytes 0x20))

/-- `dump_device_network` up to the patch: the result, the state and the world. -/
def networkCopy (fuel : Nat) (state : BackupState κ) (netInfo : NetworkInfo) (w : World) :
    Option (Int × BackupState κ × World) :=
  let (rdFd, w) := kOpenDevice state.blockDevice (oRdonly ||| oRdlock) w
  let state := { state with rdFd := rdFd }
  if state.rdFd < 0 then some (state.rdFd, state, w)
  else
    let (wrFd, w) := beginConnection netInfo w
    let state := { state with wrFd := wrFd }
    if state.wrFd < 0 then some (state.wrFd, state, w)
    else
      let (res, w) := beginFileSend state.wrFd state.outputPath state.effectiveSize w
      if res < 0 then some (res, state, w)
      else
        (createHeader digests fileSendData state w).bind fun (res, w) =>
        if res < 0 then some (res, state, w)
        else deviceAccessLoop sha kReadDevice fileSendData fuel state w

/-- What `dump_device_network` does behind the copy. -/
def networkFinish (res : Int) (state : BackupState κ) (w : World) : Int × World :=
  if res < 0 then networkExit res state w
  else if fmtIsPsv state.format then
    let (res, w) := finalizePsvHeader sha state w
    networkExit res state w
  else networkExit res state w

theorem dumpDeviceNetwork_eq (fuel : Nat) (state : BackupState κ) (netInfo : NetworkInfo)
    (w : World) : dumpDeviceNetwork digests sha fuel state netInfo w =
      (networkCopy digests sha fuel state netInfo w).map
        fun (res, state, w) => networkFinish sha res state w := by
  unfold dumpDeviceNetwork networkCopy networkFinish
  dsimp only
  -- where the source goes to its exit, the error makes `networkFinish` go there too
  split
  · next hrd =>
    rw [Option.map_some]
    dsimp only
    rw [if_pos hrd]
  · split
    · next hwr =>
      rw [Option.map_some]
      dsimp only
      rw [if_pos hwr]
    · split
      · next hsend =>
        rw [Option.map_some]
        dsimp only
        rw [if_pos hsend]
      · rw [Option.map_bind]
        congr 1
        funext r
        rcases r with ⟨res, w'⟩
        dsimp only [Function.comp]
        split
        · next hheader =>
          rw [Option.map_some]
          dsimp only
          rw [if_pos hheader]
        · rfl

/-! ## The copy -/

/-- A copy without an error has its connection, and the patch is still to come. -/
structure Copied (state state' : BackupState κ) : Prop where
  connected : state'.wrFd ≥ 0
  format : state'.format = state.format
  netInfo : state'.netInfo = state.netInfo
  hashed : state'.shaCtx.isSome = state.shaCtx.isSome

theorem networkCopy_copied {fuel : Nat} {state state' : BackupState κ} {netInfo : NetworkInfo}
    {w w' : World} {res : Int}
    (h : networkCopy digests sha fuel state netInfo w = some (res, state', w')) (hres : 0 ≤ res) :
    Copied state state' := by
  unfold networkCopy at h
  dsimp only at h
  split at h
  · next hrd =>
    cases h
    exact absurd hrd (not_lt.mpr hres)
  · split at h
    · next hwr =>
      cases h
      exact absurd hwr (not_lt.mpr hres)
    · next hwr =>
      split at h
      · next hsend =>
        cases h
        exact absurd hsend (not_lt.mpr hres)
      · -- past the three early exits only the copy loop changes the state
        rcases Option.bind_eq_some_iff.mp h with ⟨⟨res₁, w₁⟩, -, hloop⟩
        dsimp only at hloop
        split at hloop
        · next hheader =>
          cases hloop
          exact absurd hheader (not_lt.mpr hres)
        · have htask := deviceAccessLoop_sameTask sha kReadDevice fileSendData hloop
          constructor
          · rw [htask.wrFd]
            exact not_lt.mp hwr
          · exact htask.format
          · exact htask.netInfo
          · exact htask.hashed

/-! ## The patch -/

/-- None of the calls of the patch fails: `sceNetSocket`, which must not give 0,
`sceNetInetPton`, `sceNetConnect` and `sceNetSend`, which must take the whole
packet. -/
def PatchAnswered (w : World) : Prop :=
  0 < w.outcomes w.tick ∧ 0 ≤ w.outcomes (w.tick + 1) ∧ 0 ≤ w.outcomes (w.tick + 2) ∧
    (packetSize : Int) ≤ w.outcomes (w.tick + 3)

instance (w : World) : Decidable (PatchAnswered w) := inferInstanceAs (Decidable (_ ∧ _))

/-- The second connection is established and `send_file_patch` has sent the whole
packet. -/
def HashSent (state : BackupState κ) (ctx : κ) (netInfo : NetworkInfo) (w : World) : Prop :=
  0 < (beginConnection netInfo w).1 ∧
    (sendFilePatch (beginConnection netInfo w).1 state.outputPath
      (UInt32.ofNat PsvHeader.allSectorsSha256Offset) (sha.final ctx).toList
      (beginConnection netInfo w).2).1 = packetSize

theorem sendFilePatch_sent_iff (socket : SceUID) (filename : CString) (offset : UInt32)
    (data : List UInt8) (w : World) :
    (sendFilePatch socket filename offset data w).1 = packetSize ↔
      (packetSize : Int) ≤ w.outcomes w.tick := by
  unfold sendFilePatch
  rcases sceNetSend_cases socket (patchFilePacket filename offset data).toList w with
    ⟨hrefused, hneg⟩ | ⟨htaken, hsent, -, -, -⟩
  · constructor <;> intro h <;> omega
  · -- the shorter of the packet and what the call takes
    rw [hsent, Vector.length_toList]
    constructor <;> intro h <;> omega

/-- A connection takes three calls, and the handle is that of the first. -/
theorem beginConnection_cases (netInfo : NetworkInfo) (w : World) :
    ((beginConnection netInfo w).1 < 0 ∧ ¬ (0 ≤ w.outcomes w.tick ∧
      0 ≤ w.outcomes (w.tick + 1) ∧ 0 ≤ w.outcomes (w.tick + 2))) ∨
      ((beginConnection netInfo w).1 = w.outcomes w.tick ∧ 0 ≤ w.outcomes w.tick ∧
        0 ≤ w.outcomes (w.tick + 1) ∧ 0 ≤ w.outcomes (w.tick + 2) ∧
        (beginConnection netInfo w).2.outcomes = w.outcomes ∧
        (beginConnection netInfo w).2.tick = w.tick + 3 ∧
        SameDevices w (beginConnection netInfo w).2) := by
  unfold beginConnection sceNetConnect World.outcome
  dsimp only
  -- socket, address and connection are asked for in turn, until one fails
  by_cases hsocket : w.outcomes w.tick < 0
  · left
    rw [if_pos hsocket]
    exact ⟨hsocket, fun h => absurd hsocket (not_lt.mpr h.1)⟩
  · rw [if_neg hsocket]
    by_cases hpton : w.outcomes (w.tick + 1) < 0
    · left
      rw [if_pos hpton]
      exact ⟨hpton, fun h => absurd hpton (not_lt.mpr h.2.1)⟩
    · have htick : w.tick + 1 + 1 = w.tick + 2 := rfl
      rw [if_neg hpton, htick]
      by_cases hconnect : w.outcomes (w.tick + 2) < 0
      · left
        rw [if_pos hconnect]
        dsimp only
        rw [if_pos hconnect]
        exact ⟨hconnect, fun h => absurd hconnect (not_lt.mpr h.2.2)⟩
      · right
        rw [if_neg hconnect]
        dsimp only
        rw [if_neg hconnect]
        exact ⟨rfl, not_lt.mp hsocket, not_lt.mp hpton, not_lt.mp hconnect, rfl, rfl, rfl, rfl, rfl⟩

theorem hashSent_iff (state : BackupState κ) (ctx : κ) (netInfo : NetworkInfo) (w : World) :
    HashSent sha state ctx netInfo w ↔ PatchAnswered w := by
  unfold HashSent PatchAnswered
  rw [sendFilePatch_sent_iff]
  rcases beginConnection_cases netInfo w with
    ⟨hneg, hfails⟩ | ⟨hsocket, -, hpton, hconnect, houtcomes, htick, -⟩
  · constructor
    · rintro ⟨hconnected, -⟩
      exact absurd hconnected (by omega)
    · rintro ⟨hpos, hpton, hconnect, -⟩
      exact absurd ⟨by omega, hpton, hconnect⟩ hfails
  · rw [hsocket, houtcomes, htick]
    constructor
    · rintro ⟨hpos, hsent⟩
      exact ⟨hpos, hpton, hconnect, hsent⟩
    · rintro ⟨hpos, -, -, hsent⟩
      exact ⟨hpos, hsent⟩

/-- Whatever becomes of the patch, the result is no error. -/
theorem finalizePsvHeader_network_nonneg {state : BackupState κ} {netInfo : NetworkInfo}
    (hnet : state.netInfo = some netInfo) (w : World) :
    0 ≤ (finalizePsvHeader sha state w).1 := by
  unfold finalizePsvHeader
  split
  · exact Int.le_refl 0
  · rw [hnet]
    dsimp only
    split
    · split
      · dsimp only
        split
        · decide
        · exact Int.le_refl 0
      · exact Int.le_refl 0
    · exact Int.le_refl 0

/-- So a copy without an error is reported as a success. -/
theorem networkFinish_nonneg {state state' : BackupState κ} {netInfo : NetworkInfo} {res : Int}
    (hcopied : Copied state state') (hpsv : fmtIsPsv state.format = true)
    (hnet : state.netInfo = some netInfo) (hres : ¬ res < 0) (w : World) :
    0 ≤ (networkFinish sha res state' w).1 := by
  unfold networkFinish networkExit
  rw [if_neg hres, hcopied.format, if_pos hpsv]
  exact finalizePsvHeader_network_nonneg sha (hcopied.netInfo.trans hnet) w

/-! ## What a success stands for -/

/-- A result that is no error means that the image was copied and its hash sent. -/
def HashReported (fuel : Nat) (state : BackupState κ) (netInfo : NetworkInfo) (w : World) :
    Prop :=
  ∀ ret w', dumpDeviceNetwork digests sha fuel state netInfo w = some (ret, w') → 0 ≤ ret →
    ∃ res state' w₁ ctx, networkCopy digests sha fuel state netInfo w = some (res, state', w₁) ∧
      0 ≤ res ∧ state'.shaCtx = some ctx ∧ HashSent sha state' ctx netInfo w₁

/-- What `setup_state` makes of a state for a PSV image over the network. -/
def psvTask (state : BackupState κ) (trim : Bool) (ctx : κ) (netInfo : NetworkInfo) :
    BackupState κ :=
  { state with
    format := if trim then .psvTrim else .psv
    shaCtx := some ctx
    netInfo := some netInfo }

theorem psvTask_psv (state : BackupState κ) (trim : Bool) (ctx : κ) (netInfo : NetworkInfo) :
    fmtIsPsv (psvTask state trim ctx netInfo).format = true := by
  unfold psvTask
  cases trim with
  | false => rfl
  | true => rfl

/-- Behind a copy without an error the calls of the patch do not fail, and the packet is
sent in one piece. -/
def PatchFollows (fuel : Nat) (state : BackupState κ) (netInfo : NetworkInfo) (w : World) : Prop :=
  ∀ res state' w₁, networkCopy digests sha fuel state netInfo w = some (res, state', w₁) →
    res < 0 ∨ PatchAnswered w₁

theorem patchFollows_of_reported {fuel : Nat} {state : BackupState κ} {netInfo : NetworkInfo}
    {w : World} (hpsv : fmtIsPsv state.format = true) (hnet : state.netInfo = some netInfo)
    (h : HashReported digests sha fuel state netInfo w) :
    PatchFollows digests sha fuel state netInfo w := by
  intro res state' w₁ hcopy
  by_cases hneg : res < 0
  · exact Or.inl hneg
  · right
    have hcopied := networkCopy_copied digests sha hcopy (not_lt.mp hneg)
    have hret := networkFinish_nonneg sha hcopied hpsv hnet hneg w₁
    unfold HashReported at h
    rw [dumpDeviceNetwork_eq, hcopy] at h
    rcases h _ _ rfl hret with ⟨res', state'', w₂, ctx, heq, -, -, hsent⟩
    cases heq
    exact (hashSent_iff sha state' ctx netInfo w₁).mp hsent

theorem hashReported_of_follows {fuel : Nat} {state : BackupState κ} {netInfo : NetworkInfo}
    {w : World} (hsha : state.shaCtx.isSome = true)
    (h : PatchFollows digests sha fuel state netInfo w) :
    HashReported digests sha fuel state netInfo w := by
  intro ret w' hrun hret
  rw [dumpDeviceNetwork_eq] at hrun
  rcases Option.map_eq_some_iff.mp hrun with ⟨⟨res, state', w₁⟩, hcopy, hfinish⟩
  dsimp only at hfinish
  have hres : ¬ res < 0 := by
    intro hneg
    unfold networkFinish networkExit at hfinish
    rw [if_pos hneg] at hfinish
    cases hfinish
    exact absurd hneg (not_lt.mpr hret)
  have hcopied := networkCopy_copied digests sha hcopy (not_lt.mp hres)
  obtain ⟨ctx, hctx⟩ : ∃ ctx, state'.shaCtx = some ctx := by
    rw [← Option.isSome_iff_exists, hcopied.hashed]
    exact hsha
  have hanswered := (h res state' w₁ hcopy).resolve_left hres
  exact ⟨res, state', w₁, ctx, hcopy, not_lt.mp hres, hctx,
    (hashSent_iff sha state' ctx netInfo w₁).mpr hanswered⟩

/-- For a PSV image a success stands for a sent hash exactly where the copy fails, or no
call behind it does and the whole packet is taken. -/
theorem hashReported_iff (fuel : Nat) (state : BackupState κ) (trim : Bool) (ctx : κ)
    (netInfo : NetworkInfo) (w : World) :
    HashReported digests sha fuel (psvTask state trim ctx netInfo) netInfo w ↔
      PatchFollows digests sha fuel (psvTask state trim ctx netInfo) netInfo w := by
  constructor
  · exact patchFollows_of_reported digests sha (psvTask_psv state trim ctx netInfo) rfl
  · exact hashReported_of_follows digests sha rfl

/-! ## A copy without its hash -/

/-- A read that is given all there is. -/
theorem kReadDevice_whole {fd : SceUID} {size : Nat} {w : World} {device : CString}
    {dev : BlockDevice} (hfd : w.device? fd = some (device, 0))
    (hdev : w.devices device = some dev) (hsize : dev.content.length ≤ size)
    (hall : (size : Int) ≤ w.outcomes w.tick) :
    ∃ w', kReadDevice fd size w = (.bytes dev.content, w') ∧ Asked 1 w w' := by
  have hdrop : dev.content.drop 0 = dev.content := List.drop_zero
  have hn : dev.content.length =
      min (min size (dev.content.drop 0).length) (max 1 (w.outcomes w.tick).toNat) := by
    rw [hdrop]
    omega
  rcases kReadDevice_takes size hfd hdev (by omega) hn with ⟨w', hread, -, hasked⟩
  rw [hdrop, List.take_length] at hread
  exact ⟨w', hread, hasked⟩

/-- A device that fits into the buffer is copied by eight calls that take all they are
given. -/
theorem networkCopy_small {state : BackupState κ} {w : World} {dev : BlockDevice} (ctx : κ)
    (netInfo : NetworkInfo) (hdev : w.devices state.blockDevice = some dev)
    (htotal : state.total = 0)
    (htoRead : subU64 state.effectiveSize state.headerSize = dev.content.length)
    (hpos : 0 < dev.content.length) (hsmall : dev.content.length ≤ bufferSize)
    (hcalls : ∀ i < 8, (bufferSize : Int) ≤ w.outcomes (w.tick + i)) :
    ∃ state' w', networkCopy digests sha 2 (psvTask state false ctx netInfo) netInfo w =
      some (0, state', w') ∧ w'.outcomes = w.outcomes ∧ w'.tick = w.tick + 8 := by
  have hcall : ∀ (w' : World) (n k : Nat), w'.outcomes = w.outcomes → w'.tick = w.tick + n →
      n + k < 8 → (0x20000 : Int) ≤ w'.outcomes (w'.tick + k) := by
    intro w' n k houtcomes htick hlt
    rw [houtcomes, htick, Nat.add_assoc]
    exact hcalls (n + k) hlt
  have hopens : 0 ≤ w.outcomes w.tick := Int.le_trans (by decide) (hcall w 0 0 rfl rfl (by decide))
  rcases kOpenDevice_opens (oRdonly ||| oRdlock) hdev hopens with ⟨w₁, hopen, hfd₁, hasked⟩
  have hdev₁ := hasked.device hdev
  have hcall₁ := hcall w₁ 1
  -- the connection
  rcases beginConnection_cases netInfo w₁ with
    ⟨-, hfails⟩ | ⟨hsocket, hsocket', -, -, houtcomes₂, htick₂, hsame₂⟩
  · have hcalls₁ := fun k hk => hcall w₁ 1 k hasked.outcomes hasked.tick hk
    have hfirst := hcalls₁ 0 (by decide)
    have hsecond := hcalls₁ 1 (by decide)
    have hthird := hcalls₁ 2 (by decide)
    rw [Nat.add_zero] at hfirst
    exact absurd ⟨by omega, by omega, by omega⟩ hfails
  · generalize hconnected : beginConnection netInfo w₁ = connected
      at hsocket houtcomes₂ htick₂ hsame₂
    rcases connected with ⟨socket, w₂⟩
    dsimp only at hsocket houtcomes₂ htick₂ hsame₂
    rw [hasked.outcomes] at houtcomes₂
    rw [hasked.tick, Nat.add_assoc] at htick₂
    have hvalid : ¬ socket < 0 := by omega
    -- the packet and the header
    have hroom₂ : ((sendFilePacket state.outputPath state.effectiveSize).toList.length : Int) ≤
        w₂.outcomes w₂.tick := by
      have hlarge := hcall w₂ _ 0 houtcomes₂ htick₂ (by decide)
      rw [Vector.length_toList]
      exact Int.le_trans (by decide) hlarge
    rcases sceNetSend_whole socket hroom₂ with ⟨w₃, hsend₃, houtcomes₃, htick₃, hsame₃⟩
    rw [houtcomes₂] at houtcomes₃
    rw [htick₂, Nat.add_assoc] at htick₃
    obtain ⟨psv, hpsv⟩ : ∃ psv, psv = psvHeader (kGetSecret digests w₃.kernel)
      (kGetHash digests w₃.kernel) state.deviceSize := ⟨_, rfl⟩
    have hheader := PsvHeader.length_toBytes psv
    have hroom₃ : (psv.toBytes.length : Int) ≤ w₃.outcomes w₃.tick := by
      have hlarge := hcall w₃ _ 0 houtcomes₃ htick₃ (by decide)
      rw [hheader]
      exact Int.le_trans (by decide) hlarge
    rcases sceNetSend_whole socket hroom₃ with ⟨w₄, hsend₄, houtcomes₄, htick₄, hsame₄⟩
    rw [houtcomes₃] at houtcomes₄
    rw [htick₃, Nat.add_assoc] at htick₄
    -- the only pass of the loop
    have hdev₄ : w₄.devices state.blockDevice = some dev := by
      rw [hsame₄.devices, hsame₃.devices, hsame₂.devices]
      exact hdev₁
    have hfd₄ : w₄.device? (w.outcomes w.tick) = some (state.blockDevice, 0) := by
      rw [hsame₄.device?, hsame₃.device?, hsame₂.device?]
      exact hfd₁
    have hroom₄ := hcall w₄ _ 0 houtcomes₄ htick₄ (by decide)
    rcases kReadDevice_whole hfd₄ hdev₄ hsmall hroom₄ with ⟨w₅, hread, hasked₅⟩
    have houtcomes₅ := hasked₅.outcomes
    rw [houtcomes₄] at houtcomes₅
    have htick₅ := hasked₅.tick
    rw [htick₄, Nat.add_assoc] at htick₅
    have hroom₅ : (dev.content.length : Int) ≤ w₅.outcomes w₅.tick := by
      have hlarge := hcall w₅ _ 0 houtcomes₅ htick₅ (by decide)
      have hbuffer : (bufferSize : Int) ≤ 0x20000 := by decide
      rw [Nat.add_zero] at hlarge
      omega
    rcases sceNetSend_whole socket hroom₅ with ⟨w₆, hsend₆, houtcomes₆, htick₆, -⟩
    rw [houtcomes₅] at houtcomes₆
    rw [htick₅, Nat.add_assoc] at htick₆
    let task : BackupState κ :=
      { psvTask state false ctx netInfo with rdFd := w.outcomes w.tick, wrFd := socket }
    have hcreate : createHeader digests fileSendData task w₃ = some (0, w₄) := by
      have hcreated : createPsvHeader digests fileSendData task w₃ = (0, w₄) := by
        unfold createPsvHeader fileSendData
        dsimp only [task, psvTask]
        rw [← hpsv, hsend₄, hheader]
        rfl
      exact congrArg some hcreated
    have hloop : deviceAccessLoop sha kReadDevice fileSendData 2 task w₄ =
        some (0, passed sha task dev.content dev.content.length, w₆) :=
      deviceAccessLoop_onePass sha (show task.total = 0 from htotal) hpos dev.size_lt htoRead
        hread hsend₆ 1
    have hsent : beginFileSend socket state.outputPath state.effectiveSize w₂ =
        (((sendFilePacket state.outputPath state.effectiveSize).toList.length : Int), w₃) := hsend₃
    refine ⟨passed sha task dev.content dev.content.length, w₆, ?_, houtcomes₆, htick₆⟩
    unfold networkCopy
    dsimp only [psvTask]
    rw [hopen]
    dsimp only
    rw [if_neg (not_lt.mpr hopens), hconnected]
    dsimp only
    rw [if_neg hvalid, hsent]
    dsimp only
    rw [if_neg (not_lt.mpr (Int.natCast_nonneg _))]
    change (createHeader digests fileSendData task w₃).bind _ = _
    rw [hcreate, Option.bind_some]
    dsimp only
    rw [if_neg (by decide)]
    exact hloop

/-- "gcd" with its two bytes, once the sizes are known. -/
def twoByteState : BackupState Sha256Ctx :=
  { BackupState.start gcdName imageName with
    deviceSize := 2
    headerSize := 0x200
    effectiveSize := 0x202 }

/-- Every call takes all it is given, up to the second `sceNetConnect`. -/
def unpatchedWorld : World :=
  { willingWorld with outcomes := fun i => if i = 10 then -1 else 0x20000 }

/-- A second connection that cannot be had is not reported. -/
theorem not_hashReported_unpatched :
    ¬ HashReported ⟨sha1OfZeros, sha256.digest⟩ sha256 2
      (psvTask twoByteState false sha256.init ⟨gcdName, 1337⟩) ⟨gcdName, 1337⟩ unpatchedWorld := by
  intro hreported
  have hcalls : ∀ i < 8, (bufferSize : Int) ≤ unpatchedWorld.outcomes (unpatchedWorld.tick + i) := by
    decide
  have hdev : unpatchedWorld.devices twoByteState.blockDevice = some twoByteDevice :=
    willingWorld_device
  rcases networkCopy_small ⟨sha1OfZeros, sha256.digest⟩ sha256 sha256.init ⟨gcdName, 1337⟩ hdev
    rfl rfl (by decide) (by decide) hcalls with ⟨state', w', hcopy, houtcomes, htick⟩
  have hfollows := patchFollows_of_reported ⟨sha1OfZeros, sha256.digest⟩ sha256
    (psvTask_psv twoByteState false sha256.init ⟨gcdName, 1337⟩) rfl hreported
  rcases hfollows 0 state' w' hcopy with hneg | ⟨-, -, hconnect, -⟩
  · exact absurd hneg (by decide)
  · rw [houtcomes, htick] at hconnect
    exact absurd hconnect (by decide)

end GcToolKit.App
