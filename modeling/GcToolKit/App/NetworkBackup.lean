import GcToolKit.App.PatchRace
import GcToolKit.App.Wire

/-!
# A network backup, from the device to the PC (app/device.c, app/net.c, pc/main.c)

Sender and receiver put together. The dump reports success only when the header and the
whole device are on its connection; behind a packet that was taken whole they are what the
PC writes into the file, and the patch behind them makes the file the one that a physical
backup would have left.

* `networkCopy_wire` — the connection after a copy without an error;
* `networkFinish_wire` — the connections after that;
* `receive_image`, `receive_patch` — what the PC makes of a whole connection;
* `networkBackup_arrives` — a dump that succeeds, at its other end.
-/

namespace GcToolKit.App

open ByteFile GcToolKit.Crypto GcToolKit.Cmd56 GcToolKit.Net
open GcToolKit.Kern (AuthEmu KernelDigests oRdonly oRdlock kGetSecret kGetHash kGetPerCartKeys)

variable {κ : Type} (digests : KernelDigests) (sha : StreamHash κ (Bytes 0x20))

/-! ## The dump's end -/

/-- The header goes out whole or the dump fails. -/
theorem createHeader_wire {state : BackupState κ} {keys : Cmd56Keys} {w w' : World} {res : Int}
    {bytes : List UInt8} {earlier : List Sent}
    (hkeys : state.keys = if ¬ fmtIsRaw state.format then some keys else none)
    (hwire : wire w.network = (state.wrFd, bytes) :: earlier)
    (h : createHeader digests fileSendData state w = some (res, w')) (hres : 0 ≤ res) :
    SameDevices w w' ∧ wire w'.network = (state.wrFd,
      bytes ++ initialHeader digests w.kernel state.deviceSize keys state.format) :: earlier := by
  -- a header that is not sent whole is an error
  have hwhole : ∀ {header : List UInt8} {wr : Int} {w'' : World}, header.length = 0x200 →
      fileSendData state.wrFd header w = (wr, w'') → 0 ≤ wholeWrite wr 0x200 →
        SameDevices w w'' ∧ wire w''.network = (state.wrFd, bytes ++ header) :: earlier := by
    intro header wr w'' hlen hsend hall
    have hwr := wholeWrite_nonneg hall
    rcases sceNetSend_wire hwire hsend (by omega) with ⟨n, hn, hnat, hsame, hsent⟩
    have htake : header.take n = header := List.take_of_length_le (by omega)
    rw [htake] at hsent
    exact ⟨hsame, hsent⟩
  have hvci (hformat : ¬ fmtIsRaw state.format)
      (hcreate : createVciHeader fileSendData state w = some (res, w')) :
      SameDevices w w' ∧ wire w'.network =
        (state.wrFd, bytes ++ (vciHeader state.deviceSize keys).toBytes) :: earlier := by
    unfold createVciHeader at hcreate
    rw [hkeys, if_pos hformat] at hcreate
    cases hcreate
    exact hwhole (VciHeader.length_toBytes _) rfl hres
  have hpsv (hcreate : some (createPsvHeader digests fileSendData state w) = some (res, w')) :
      SameDevices w w' ∧ wire w'.network = (state.wrFd, bytes ++ (psvHeader
        (kGetSecret digests w.kernel) (kGetHash digests w.kernel) state.deviceSize).toBytes) ::
          earlier := by
    cases hcreate
    exact hwhole (PsvHeader.length_toBytes _) rfl hres
  unfold createHeader at h
  cases hformat : state.format with
  | vci =>
    rw [hformat] at h
    exact hvci (by rw [hformat]; decide) h
  | vciTrim =>
    rw [hformat] at h
    exact hvci (by rw [hformat]; decide) h
  | psv =>
    rw [hformat] at h
    exact hpsv h
  | psvTrim =>
    rw [hformat] at h
    exact hpsv h
  | raw =>
    rw [hformat] at h
    cases h
    refine ⟨⟨rfl, rfl, rfl⟩, ?_⟩
    unfold initialHeader
    rw [List.append_nil]
    exact hwire

/-- What a copy without an error has done. -/
structure CopySent (state : BackupState κ) (dev : BlockDevice) (keys : Cmd56Keys) (w : World)
    (state' : BackupState κ) (w' : World) : Prop where
  connected : 0 ≤ state'.wrFd
  task : SameTask { state with rdFd := state'.rdFd, wrFd := state'.wrFd } state'
  shaCtx : state'.shaCtx = state.shaCtx.map fun _ => sha.absorbed dev.content
  sent : ∃ k ≤ packetSize, wire w'.network = (state'.wrFd,
    (sendFilePacket state.outputPath state.effectiveSize).toList.take k ++
      (initialHeader digests w.kernel dev.content.length keys state.format ++ dev.content)) ::
        wire w.network

section Copy

variable {device path : CString} {format : BackupFormat} {keys : Cmd56Keys} {dev : BlockDevice}
  {netInfo : Option NetworkInfo} {start : BackupState κ} {w : World}

/-- The invariant of the copy holds when the header is sent. -/
theorem copyTo_start {holds : List UInt8 → World → Prop} {keys : Option Cmd56Keys}
    (hready : Prepared sha device path format keys netInfo dev start)
    (hdev : w.devices device = some dev)
    (hpos : ∀ device' q, w.device? start.rdFd = some (device', q) → device' = device ∧ q = 0)
    (hholds : holds [] w) : CopyTo sha start w.kernel dev holds (start, w) 0 [] := by
  have hsha : (start.shaCtx.map fun _ => sha.absorbed (dev.content.take 0)) = start.shaCtx := by
    rw [hready.shaCtx, List.take_zero, StreamHash.absorbed_nil]
    split <;> rfl
  constructor
  · rfl
  · rw [hready.blockDevice]
    exact hdev
  · rw [hready.blockDevice]
    exact hpos
  · exact hholds
  · exact Nat.le_refl _
  · exact Nat.zero_le _
  · intro _
    rfl
  · rw [hsha, List.length_nil, ← hready.total]

/-- The handles are no part of what was prepared. -/
theorem Prepared.opened {keys : Option Cmd56Keys}
    (h : Prepared sha device path format keys netInfo dev start) (rdFd wrFd : SceUID) :
    Prepared sha device path format keys netInfo dev { start with rdFd := rdFd, wrFd := wrFd } :=
  ⟨h.blockDevice, h.outputPath, h.total, h.deviceSize, h.toRead, h.shaCtx, h.format, h.keys,
    h.netInfo⟩

/-- A copy without an error: every call in front of the loop has gone well. -/
theorem networkCopy_begun {net : NetworkInfo} {fuel : Nat} {res : Int} {state' : BackupState κ}
    {w' : World} (h : networkCopy digests sha fuel start net w = some (res, state', w'))
    (hres : 0 ≤ res) :
    ∃ rdFd w₁ wrFd w₂ begun w₃ headed w₄,
      App.kOpenDevice start.blockDevice (oRdonly ||| oRdlock) w = (rdFd, w₁) ∧
      beginConnection net w₁ = (wrFd, w₂) ∧ 0 ≤ wrFd ∧
      beginFileSend wrFd start.outputPath start.effectiveSize w₂ = (begun, w₃) ∧ 0 ≤ begun ∧
      createHeader digests fileSendData { start with rdFd := rdFd, wrFd := wrFd } w₃ =
        some (headed, w₄) ∧ 0 ≤ headed ∧
      deviceAccessLoop sha kReadDevice fileSendData fuel
        { start with rdFd := rdFd, wrFd := wrFd } w₄ = some (res, state', w') := by
  unfold networkCopy at h
  dsimp only at h
  split at h
  · next hneg =>
    cases h
    exact absurd hneg (not_lt.mpr hres)
  split at h
  · next hneg =>
    cases h
    exact absurd hneg (not_lt.mpr hres)
  next hwrFd =>
  split at h
  · next hneg =>
    cases h
    exact absurd hneg (not_lt.mpr hres)
  next hbegun =>
  rcases Option.bind_eq_some_iff.mp h with ⟨⟨headed, w₄⟩, hheader, hloop⟩
  dsimp only at hloop
  split at hloop
  · next hneg =>
    cases hloop
    exact absurd hneg (not_lt.mpr hres)
  next hheaded =>
  exact ⟨_, _, _, _, _, _, headed, w₄, rfl, rfl, not_lt.mp hwrFd, rfl, not_lt.mp hbegun, hheader,
    not_lt.mp hheaded, hloop⟩

/-- What it has sent: the packet, as far as it was taken, the header and the device. -/
theorem networkCopy_wire {net : NetworkInfo}
    (hready : Prepared sha device path format (if ¬ fmtIsRaw format then some keys else none)
      netInfo dev start)
    (hdev : w.devices device = some dev) {fuel : Nat} {res : Int} {state' : BackupState κ}
    {w' : World} (h : networkCopy digests sha fuel start net w = some (res, state', w'))
    (hres : 0 ≤ res) : CopySent digests sha start dev keys w state' w' := by
  obtain rfl := hready.blockDevice
  obtain rfl := hready.format
  rcases networkCopy_begun digests sha h hres with ⟨rdFd, w₁, wrFd, w₂, begun, w₃, headed, w₄,
    hopen, hconnect, hwrFd, hbegin, hbegun, hheader, hheaded, hloop⟩
  have hsame₁ := kOpenDevice_same start.blockDevice (oRdonly ||| oRdlock) w
  have hsilent := kOpenDevice_network start.blockDevice (oRdonly ||| oRdlock) w
  rw [hopen] at hsame₁ hsilent
  rcases beginConnection_wire hconnect hwrFd with ⟨hsame₂, hwire₂⟩
  rcases sceNetSend_wire hwire₂ hbegin hbegun with ⟨k, hk, -, hsame₃, hwire₃⟩
  rw [List.nil_append] at hwire₃
  have hready₁ := hready.opened sha rdFd wrFd
  rcases createHeader_wire digests hready₁.keys hwire₃ hheader hheaded with ⟨hsame₄, hwire₄⟩
  -- the device is as it was found, and the handle at its beginning
  have hdev₄ : w₄.devices start.blockDevice = some dev := by
    rw [hsame₄.devices, hsame₃.devices, hsame₂.devices, hsame₁.devices]
    exact hdev
  have hpos₄ : ∀ device' q, w₄.device? rdFd = some (device', q) →
      device' = start.blockDevice ∧ q = 0 := by
    rw [hsame₄.device?, hsame₃.device?, hsame₂.device?]
    exact kOpenDevice_position hopen
  -- what is on the connection in front of the device
  let front : List UInt8 := (sendFilePacket start.outputPath start.effectiveSize).toList.take k ++
    initialHeader digests w₃.kernel start.deviceSize keys start.format
  let holds (written : List UInt8) (w : World) : Prop :=
    wire w.network = (wrFd, front ++ written) :: wire w₁.network
  have hempty : holds [] w₄ := by
    dsimp only [holds]
    rw [List.append_nil]
    exact hwire₄
  have hsink : Sink fileSendData wrFd holds := wireSink wrFd front (wire w₁.network)
  have hinv : CopyTo sha { start with rdFd := rdFd, wrFd := wrFd } w₄.kernel dev holds (_, w₄) 0 [] :=
    copyTo_start sha hready₁ hdev₄ hpos₄ hempty
  rcases deviceAccessLoop_copiesTo hsink hinv hloop hres with ⟨p, written, hinv', hlen⟩
  rw [hready.toRead] at hlen
  rcases hinv'.complete hlen with ⟨rfl, rfl⟩
  have hstate := hinv'.state
  have hsent := hinv'.sink
  have hkernel : w₃.kernel = w.kernel := by
    rw [hsame₃.kernel, hsame₂.kernel, hsame₁.kernel]
  dsimp only [holds, front] at hstate hsent
  rw [List.take_length] at hstate
  rw [hkernel, hready.deviceSize, List.append_assoc, hsilent] at hsent
  subst hstate
  refine ⟨hwrFd, ⟨rfl, rfl, rfl, rfl, rfl, Option.isSome_map⟩, rfl, k, ?_, hsent⟩
  rw [length_packet] at hk
  exact hk

end Copy

/-! ## Behind the copy -/

theorem networkExit_wire (res : Int) (state : BackupState κ) (w : World) :
    wire (networkExit res state w).2.network = wire w.network := by
  have hended := endConnection_wire state.wrFd w
  unfold networkExit
  dsimp only
  by_cases hwrFd : state.wrFd ≥ 0
  · rw [if_pos hwrFd]
    split
    · exact hended
    · exact hended
  · rw [if_neg hwrFd]
    split <;> rfl

/-- The packet of the patch. -/
def hashPatch (path : CString) (hash : Bytes 0x20) : Packet :=
  patchFilePacket path (UInt32.ofNat PsvHeader.allSectorsSha256Offset) hash.toList

/-- What there may be on the wire for the hash: nothing, or a first part of its packet. -/
def PatchSent (path : CString) (hash : Bytes 0x20) (patches : List Sent) : Prop :=
  patches = [] ∨ ∃ socket m, patches = [(socket, (hashPatch path hash).toList.take m)]

theorem finalizePsvHeader_wire {state : BackupState κ} {ctx : κ} {net : NetworkInfo}
    (hsha : state.shaCtx = some ctx) (hnet : state.netInfo = some net) (hwrFd : 0 ≤ state.wrFd)
    (w : World) :
    ∃ patches, PatchSent state.outputPath (sha.final ctx) patches ∧
      wire (finalizePsvHeader sha state w).2.network = patches ++ wire w.network := by
  unfold finalizePsvHeader
  rw [hsha, hnet]
  dsimp only
  rw [if_pos hwrFd]
  cases hconnect : beginConnection net w with
  | mk connection w₁ =>
    dsimp only
    by_cases hpos : connection > 0
    · rw [if_pos hpos]
      rcases beginConnection_wire hconnect (Int.le_of_lt hpos) with ⟨-, hwire₁⟩
      cases hsend : sendFilePatch connection state.outputPath
          (UInt32.ofNat PsvHeader.allSectorsSha256Offset) (sha.final ctx).toList w₁ with
      | mk sent w₂ =>
        dsimp only
        rw [endConnection_wire]
        by_cases hsent : sent < 0
        · -- the packet was refused
          have hsilent : w₂.network = w₁.network := by
            unfold sendFilePatch sceNetSend World.outcome at hsend
            dsimp only at hsend
            split at hsend
            · cases hsend
              rfl
            · cases hsend
              exact absurd hsent (not_lt.mpr (Int.natCast_nonneg _))
          refine ⟨[(connection, [])], Or.inr ⟨connection, 0, rfl⟩, ?_⟩
          rw [hsilent]
          exact hwire₁
        · rcases sceNetSend_wire hwire₁ hsend (not_lt.mp hsent) with ⟨m, -, -, -, hwire₂⟩
          exact ⟨_, Or.inr ⟨connection, m, rfl⟩, hwire₂⟩
    · rw [if_neg hpos]
      by_cases hzero : connection = 0
      · rcases beginConnection_wire hconnect (Int.le_of_eq hzero.symm) with ⟨-, hwire₁⟩
        exact ⟨[(connection, [])], Or.inr ⟨connection, 0, rfl⟩, hwire₁⟩
      · have hneg : (beginConnection net w).1 < 0 := by
          rw [hconnect]
          omega
        have hrefused := beginConnection_refused hneg
        rw [hconnect] at hrefused
        exact ⟨[], Or.inl rfl, hrefused⟩

/-- Only a PSV image has a second connection. -/
theorem networkFinish_wire {state : BackupState κ} {net : NetworkInfo} {hash : Bytes 0x20}
    (res : Int) (hsha : state.shaCtx.map sha.final = if fmtIsPsv state.format then some hash else none)
    (hnet : state.netInfo = some net) (hwrFd : 0 ≤ state.wrFd) (w : World) :
    ∃ patches, (patches ≠ [] → fmtIsPsv state.format = true) ∧
      PatchSent state.outputPath hash patches ∧
      wire (networkFinish sha res state w).2.network = patches ++ wire w.network := by
  unfold networkFinish
  by_cases hneg : res < 0
  · rw [if_pos hneg]
    exact ⟨[], fun h => absurd rfl h, Or.inl rfl, networkExit_wire res state w⟩
  · rw [if_neg hneg]
    by_cases hpsv : fmtIsPsv state.format = true
    · rw [if_pos hpsv]
      rw [if_pos hpsv] at hsha
      rcases Option.map_eq_some_iff.mp hsha with ⟨ctx, hctx, rfl⟩
      rcases finalizePsvHeader_wire sha hctx hnet hwrFd w with ⟨patches, hpatch, hwire⟩
      refine ⟨patches, fun _ => hpsv, hpatch, ?_⟩
      dsimp only
      rw [networkExit_wire, hwire]
    · rw [if_neg hpsv]
      exact ⟨[], fun h => absurd rfl h, Or.inl rfl, networkExit_wire res state w⟩

/-! ## The other end -/

/-- Given the bytes over a connection of its own, with the packet in the first read, the PC
has `image` under the name. -/
def Saves (pc : Pc) (name : CString) (bytes image : List UInt8) : Prop :=
  ∀ (seg : Segmentation) (files : Net.Files), packetSize ≤ seg.cut 0 → pc.canOpen name = true →
    ∃ fuel session, receivePackets seg.socket pc fuel files ⟨bytes, 0⟩ = some session ∧
      session.files = Function.update files name (some image)

/-- The same, where it has `image` already. -/
def Replaces (pc : Pc) (name : CString) (bytes image image' : List UInt8) : Prop :=
  ∀ (seg : Segmentation) (files : Net.Files), packetSize ≤ seg.cut 0 → pc.canOpen name = true →
    files name = some image →
    ∃ fuel session, receivePackets seg.socket pc fuel files ⟨bytes, 0⟩ = some session ∧
      session.files = Function.update files name (some image')

theorem receive_image (pc : Pc) (t : Transfer) :
    Saves pc t.receivedName (t.packet.toList ++ t.payload) t.payload := by
  intro seg files hwhole hopen
  rcases receiveFile_payload seg t.size_lt 1 with ⟨fuel, s, hrun, hcontent⟩
  refine ⟨fuel, ⟨Function.update files t.receivedName (some t.payload),
    [.receiving t.receivedName t.payload.length, .received t.receivedName]⟩, ?_, rfl⟩
  have hreceive := receivePackets_whole seg pc t hwhole fuel files
  unfold Transfer.conn at hreceive
  rw [hreceive]
  unfold receiveSend
  rw [t.sendFilename_packet, t.totalSize_packet]
  dsimp only
  rw [if_pos hopen, hrun, Option.map_some, hcontent]

theorem receive_patch (pc : Pc) (u : PsvUpload) (hname : u.patchName = u.name) :
    Replaces pc u.name u.patchPacket.toList u.image u.patchedImage := by
  intro seg files hwhole hopen hfile
  have hread := socket_whole_packet seg u.patchPacket [] hwhole
  rw [List.append_nil] at hread
  have hrd : (ReadResult.bytes u.patchPacket.toList).rd = packetSize := by
    rw [ReadResult.rd, length_packet]
  have hpacket : packetOf (ReadResult.bytes u.patchPacket.toList).data = u.patchPacket :=
    packetOf_toList u.patchPacket
  have hmagic : getLe magicField u.patchPacket = patchFileMagic := patchFilePacket_magic ..
  have hsend : ¬ patchFileMagic = sendFileMagic := by decide
  have hpatch : receivePackets seg.socket pc 0 files ⟨u.patchPacket.toList, 0⟩ =
      some (receivePatch pc u.patchPacket files) := by
    rw [receivePackets_whole_packet pc hread hrd, hpacket]
    unfold servePacket
    rw [hmagic, if_neg hsend, if_pos rfl]
  refine ⟨0, receivePatch pc u.patchPacket files, hpatch, ?_⟩
  have hoffset : PsvHeader.allSectorsSha256Offset < 2 ^ 31 := by decide
  unfold receivePatch
  rw [patchFilename_patchPacket, offset_patchPacket, hname]
  dsimp only
  rw [hfile]
  dsimp only
  rw [if_pos hopen, pc.fseek_small _ hoffset]
  dsimp only
  rw [readPacket_patchPacket, ← patchedImage_eq]

/-! ## The dump -/

/-- A format that is not trimmed takes the header and the whole device. -/
theorem getEffectiveSize_full {device : CString} {format : BackupFormat} {dev : BlockDevice}
    {size size' : Nat} {w w' : World} {res : Int} (hfull : fmtIsTrim format = false)
    (hdev : w.devices device = some dev)
    (hget : getEffectiveSize device format size w = (res, size', w')) (hres : 0 ≤ res) :
    size' = getHeaderSize format + dev.content.length := by
  have hlt := dev.size_lt
  unfold getEffectiveSize at hget
  cases hsize : getDeviceSize device size w with
  | mk res' r =>
    rcases r with ⟨size'', w''⟩
    have hlen := getDeviceSize_spec hdev hsize
    dsimp only at hget
    rw [hsize] at hget
    cases format with
    | vci | psv =>
      simp only [Prod.mk.injEq] at hget
      rcases hget with ⟨rfl, rfl, -⟩
      rw [hlen hres]
      unfold addU64 getHeaderSize
      dsimp only
      omega
    | raw =>
      simp only [Prod.mk.injEq] at hget
      rcases hget with ⟨rfl, rfl, -⟩
      rw [hlen hres]
      exact (Nat.zero_add _).symm
    | vciTrim | psvTrim => cases hfull

/-- For a format that is not trimmed, the size that is announced is that of the header and
the device. -/
theorem setupState_effective {device path : CString} {format : BackupFormat}
    {keys : Option Cmd56Keys} {netInfo : Option NetworkInfo} {w w' : World} {res : Int}
    {state : BackupState κ} {dev : BlockDevice} (hfull : fmtIsTrim format = false)
    (hdev : w.devices device = some dev)
    (h : setupState sha device path format keys netInfo w = (res, state, w')) (hres : 0 ≤ res) :
    state.effectiveSize = getHeaderSize format + dev.content.length := by
  unfold setupState BackupState.start at h
  dsimp only at h
  have hsame₁ := getDeviceSize_same device 0 w
  generalize getDeviceSize device 0 w = sized at h hsame₁
  split at h
  · next hneg =>
    cases h
    exact absurd hneg (not_lt.mpr hres)
  · have hsame₂ := getTrimmedSize_same device 0 sized.2.2
    generalize getTrimmedSize device 0 sized.2.2 = trimmed at h hsame₂
    split at h
    · next hneg =>
      cases h
      exact absurd hneg (not_lt.mpr hres)
    · have hdev₂ : trimmed.2.2.devices device = some dev := by
        rw [hsame₂.devices, hsame₁.devices]
        exact hdev
      cases heffective : getEffectiveSize device format 0 trimmed.2.2 with
      | mk res₃ r =>
        rcases r with ⟨size₃, w₃⟩
        rw [heffective] at h
        dsimp only at h
        split at h
        · next hneg =>
          cases h
          exact absurd hneg (not_lt.mpr hres)
        · cases h
          exact getEffectiveSize_full hfull hdev₂ heffective hres

theorem length_initialHeader (x : AuthEmu) (deviceSize : Nat) (keys : Cmd56Keys)
    (format : BackupFormat) :
    (initialHeader digests x deviceSize keys format).length = getHeaderSize format := by
  cases format with
  | vci | vciTrim => exact VciHeader.length_toBytes _
  | psv | psvTrim => exact PsvHeader.length_toBytes _
  | raw => rfl

/-- The image as it is sent. -/
def sentImage (x : AuthEmu) (content : List UInt8) (keys : Cmd56Keys) (format : BackupFormat) :
    List UInt8 :=
  initialHeader digests x content.length keys format ++ content

theorem length_sentImage (x : AuthEmu) (content : List UInt8) (keys : Cmd56Keys)
    (format : BackupFormat) :
    (sentImage digests x content keys format).length = getHeaderSize format + content.length := by
  unfold sentImage
  rw [List.length_append, length_initialHeader]

/-- The image of a finished backup. -/
def finalImage (x : AuthEmu) (content : List UInt8) (keys : Cmd56Keys) (format : BackupFormat) :
    List UInt8 :=
  backupHeader digests sha x content keys format ++ content

/-- Only a PSV header is sent before it is complete. -/
theorem finalImage_of_not_psv (x : AuthEmu) (content : List UInt8) (keys : Cmd56Keys)
    {format : BackupFormat} (h : fmtIsPsv format = false) :
    finalImage digests sha x content keys format = sentImage digests x content keys format := by
  cases format with
  | vci | vciTrim | raw => rfl
  | psv | psvTrim => cases h

/-- The name that the PC saves an image under, and the one it looks for with a patch. -/
def savedName (path : CString) : CString := Net.removeIllegalChars (path.take (0x206 - 1))

def patchedName (path : CString) : CString := Net.removeIllegalChars (path.take (0x50 - 1))

/-- The connections that a dump has added, and what the PC makes of them. -/
structure Arrives (path : CString) (format : BackupFormat) (image final : List UInt8)
    (before after : List Sent) : Prop where
  /-- The image is sent whole; the packet in front of it may be cut off. -/
  wire : ∃ socket k patches, k ≤ packetSize ∧ after = patches ++
    (socket, (sendFilePacket path image.length).toList.take k ++ image) :: before ∧
    (patches ≠ [] → fmtIsPsv format = true) ∧ patches.length ≤ 1 ∧
    (k = packetSize → ∀ pc, Saves pc (savedName path)
      ((sendFilePacket path image.length).toList.take k ++ image) image) ∧
    ∀ patch ∈ patches, patch.2.length = packetSize → patchedName path = savedName path →
      ∀ pc, Replaces pc (savedName path) patch.2 image final
  /-- Where there is no patch to come, the image is the final one. -/
  final : fmtIsPsv format = false → final = image

/-- Behind its packet the PC saves what is sent. -/
theorem saves_sent (path : CString) {image : List UInt8} (hlt : image.length < 2 ^ 64) (pc : Pc) :
    Saves pc (savedName path)
      ((sendFilePacket path image.length).toList.take packetSize ++ image) image := by
  let t : Transfer := { filename := path, payload := image, size_lt := hlt }
  have hsaves := receive_image pc t
  have hall : t.packet.toList.take packetSize = t.packet.toList :=
    List.take_of_length_le (Nat.le_of_eq (length_packet t.packet))
  rw [← hall] at hsaves
  exact hsaves

/-- A patch that was taken whole makes the image in its place the final one. -/
theorem replaces_sent {path : CString} {format : BackupFormat} (x : AuthEmu)
    {content : List UInt8} (keys : Cmd56Keys) {m : Nat} (hpsv : fmtIsPsv format = true)
    (hlt : 0x200 + content.length < 2 ^ 64)
    (hwhole : ((hashPatch path (sha.digest content)).toList.take m).length = packetSize)
    (hname : patchedName path = savedName path) (pc : Pc) :
    Replaces pc (savedName path) ((hashPatch path (sha.digest content)).toList.take m)
      (sentImage digests x content keys format) (finalImage digests sha x content keys format) := by
  have hall : (hashPatch path (sha.digest content)).toList.take m =
      (hashPatch path (sha.digest content)).toList := by
    apply List.take_of_length_le
    rw [List.length_take, length_packet] at hwhole
    rw [length_packet]
    omega
  rw [hall]
  let u : PsvUpload :=
    { filename := path
      cartSecret := kGetSecret digests x
      packet20Sha1 := kGetHash digests x
      deviceSize := content.length
      sectors := content
      hash := sha.digest content
      size_lt := hlt }
  have hreplaces := receive_patch pc u hname
  cases format with
  | psv | psvTrim => exact hreplaces
  | vci | vciTrim | raw => cases hpsv

theorem dumpNetwork_arrives {device path : CString} {format : BackupFormat} {dev : BlockDevice}
    {keys : Cmd56Keys} {net : NetworkInfo} {state : BackupState κ} {w w' : World} {fuel : Nat}
    {ret : Int}
    (hready : Prepared sha device path format (if ¬ fmtIsRaw format then some keys else none)
      (some net) dev state)
    (heffective : state.effectiveSize = getHeaderSize format + dev.content.length)
    (hdev : w.devices device = some dev)
    (hrun : dumpDeviceNetwork digests sha fuel state net w = some (ret, w')) (hret : 0 ≤ ret) :
    Arrives path format (sentImage digests w.kernel dev.content keys format)
      (finalImage digests sha w.kernel dev.content keys format) (wire w.network)
      (wire w'.network) := by
  have hlt := dev.size_lt
  rw [dumpDeviceNetwork_eq] at hrun
  rcases Option.map_eq_some_iff.mp hrun with ⟨⟨res, state', w₁⟩, hcopy, hfinish⟩
  dsimp only at hfinish
  have hres : ¬ res < 0 := by
    intro hneg
    unfold networkFinish networkExit at hfinish
    rw [if_pos hneg] at hfinish
    cases hfinish
    exact absurd hneg (not_lt.mpr hret)
  have hsent := networkCopy_wire digests sha hready hdev hcopy (not_lt.mp hres)
  rcases hsent.sent with ⟨k, hk, hwire⟩
  rw [hready.outputPath, heffective, hready.format] at hwire
  have hlength := length_sentImage digests w.kernel dev.content keys format
  have hsize : getHeaderSize format ≤ 0x200 := by
    cases format with
    | vci | vciTrim | psv | psvTrim => exact Nat.le_refl _
    | raw => exact Nat.zero_le _
  rw [← hlength] at hwire
  have hformat : state'.format = format := hsent.task.format.trans hready.format
  have hpath : state'.outputPath = path := hsent.task.outputPath.trans hready.outputPath
  have hnet : state'.netInfo = some net := hsent.task.netInfo.trans hready.netInfo
  have hsha : state'.shaCtx.map sha.final =
      if fmtIsPsv state'.format then some (sha.digest dev.content) else none := by
    rw [hsent.shaCtx, hready.shaCtx, hformat]
    split <;> rfl
  rcases networkFinish_wire sha res hsha hnet hsent.connected w₁ with
    ⟨patches, hpsv, hpatch, hwire'⟩
  rw [hfinish, hwire] at hwire'
  rw [hformat] at hpsv
  rw [hpath] at hpatch
  refine ⟨⟨state'.wrFd, k, patches, hk, hwire', hpsv, ?_, ?_, ?_⟩,
    fun h => finalImage_of_not_psv digests sha w.kernel dev.content keys h⟩
  · rcases hpatch with rfl | ⟨socket, m, rfl⟩
    · exact Nat.zero_le 1
    · exact Nat.le_refl 1
  · rintro rfl pc
    exact saves_sent path (by omega) pc
  · intro patch hmem hwhole hname pc
    have hformat' := hpsv (List.ne_nil_of_mem hmem)
    rcases hpatch with rfl | ⟨socket, m, rfl⟩
    · cases hmem
    · rw [List.mem_singleton.mp hmem] at hwhole ⊢
      exact replaces_sent digests sha w.kernel keys hformat' (by omega) hwhole hname pc

/-- A dump over the network, whatever its calls come to: if its result is no error, the whole
image is on its connection, and behind a packet that was taken whole the PC saves it; the
patch of a PSV image that was taken whole makes it the image of a physical backup. -/
theorem networkBackup_arrives {device : CString} (path : CString) {format : BackupFormat}
    {dev : BlockDevice} {net : NetworkInfo} {w w' : World} {fuel : Nat} {ret : Int}
    (hfull : fmtIsTrim format = false) (hdev : w.devices device = some dev)
    (hrun : doDeviceDump digests sha fuel device path format (some net) w = some (ret, w'))
    (hret : 0 ≤ ret) :
    Arrives path format
      (sentImage digests w.kernel dev.content (kGetPerCartKeys w.kernel) format)
      (finalImage digests sha w.kernel dev.content (kGetPerCartKeys w.kernel) format)
      (wire w.network) (wire w'.network) := by
  unfold doDeviceDump dumpDevice at hrun
  dsimp only [Option.map_some] at hrun
  have hstarted := isModuleStarted_same w
  have hsilent : (isModuleStarted w).2.network = w.network := rfl
  generalize isModuleStarted w = started at hrun hstarted hsilent
  by_cases hmodule : ¬ started.1 = true
  · -- without the kernel module nothing is sent
    rw [if_pos hmodule] at hrun
    cases hrun
    exact absurd hret (show ¬ (0 : Int) ≤ kernelModuleFailedStart by decide)
  · rw [if_neg hmodule] at hrun
    have hdev₁ : started.2.devices device = some dev := by
      rw [hstarted.devices]
      exact hdev
    generalize hnet : ({ net with ipAddress := net.ipAddress.take (0x20 - 1) } : NetworkInfo) = net'
      at hrun
    cases hsetup : setupState sha device path format
        (if ¬ fmtIsRaw format then some (kGetPerCartKeys w.kernel) else none) (some net')
        started.2 with
    | mk res r =>
      rcases r with ⟨state, w₁⟩
      rw [hsetup] at hrun
      dsimp only at hrun
      by_cases hneg : res < 0
      · rw [if_pos hneg] at hrun
        cases hrun
        exact absurd hneg (not_lt.mpr hret)
      · rw [if_neg hneg] at hrun
        have hsame := setupState_same sha device path format
          (if ¬ fmtIsRaw format then some (kGetPerCartKeys w.kernel) else none) (some net')
          started.2
        have hquiet := setupState_network sha device path format
          (if ¬ fmtIsRaw format then some (kGetPerCartKeys w.kernel) else none) (some net')
          started.2
        rw [hsetup] at hsame hquiet
        rcases setupState_prepares sha hfull hdev₁ hsetup (not_lt.mp hneg) with ⟨hready, -⟩
        have heffective := setupState_effective sha hfull hdev₁ hsetup (not_lt.mp hneg)
        have hdev₂ : w₁.devices device = some dev := by
          rw [hsame.devices]
          exact hdev₁
        have harrives := dumpNetwork_arrives digests sha hready heffective hdev₂ hrun hret
        rw [hsame.kernel, hstarted.kernel, hquiet, hsilent] at harrives
        exact harrives

set_option maxRecDepth 4096 in
theorem networkBackup_arrives_twoBytes :
    ∃ w', doDeviceDump ⟨sha1OfZeros, sha256.digest⟩ sha256 3 gcdName imageName .psv
        (some ⟨gcdName, 1337⟩) willingWorld = some (1, w') ∧
      Arrives imageName .psv
        (sentImage ⟨sha1OfZeros, sha256.digest⟩ willingWorld.kernel twoByteDevice.content
          (kGetPerCartKeys willingWorld.kernel) .psv)
        (finalImage ⟨sha1OfZeros, sha256.digest⟩ sha256 willingWorld.kernel twoByteDevice.content
          (kGetPerCartKeys willingWorld.kernel) .psv) [] (wire w'.network) := by
  have hres : (doDeviceDump ⟨sha1OfZeros, sha256.digest⟩ sha256 3 gcdName imageName .psv
      (some ⟨gcdName, 1337⟩) willingWorld).map (·.1) = some 1 := by
    decide +kernel
  rcases Option.map_eq_some_iff.mp hres with ⟨⟨ret, w'⟩, hout, rfl⟩
  exact ⟨w', hout, networkBackup_arrives ⟨sha1OfZeros, sha256.digest⟩ sha256 imageName
    (show fmtIsTrim .psv = false from rfl) willingWorld_device hout (by decide)⟩

end GcToolKit.App
