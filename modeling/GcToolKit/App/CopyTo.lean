import GcToolKit.App.CopyLoop

/-!
# The copy loop into any sink

What `CopyInv` says of a file holds of everything that keeps what is put behind the rest. A
sink may take less than it is given, and then the copy has a hole; but the loop counts what
was taken, and the device ends before a copy with a hole is long enough.

* `Sink` — reads leave it alone, and a write puts a first part of its data behind the rest;
* `copyTo_pass` — what a pass does;
* `deviceAccessLoop_returnsTo`, `deviceAccessLoop_copiesTo` — the loop ends, and without an
  error the sink has the device.
-/

namespace GcToolKit.App

open DoWhile GcToolKit.Crypto GcToolKit.Kern

variable {κ : Type}

/-- `holds written w`: in `w`, `written` is what was put into the sink. -/
structure Sink (wrFunc : WriteFunc World) (fd : SceUID) (holds : List UInt8 → World → Prop) :
    Prop where
  read : ∀ {written : List UInt8} {w : World} (fd' : SceUID) (size : Nat), holds written w →
    holds written (App.kReadDevice fd' size w).2
  write : ∀ {written data : List UInt8} {w w' : World} {wr : Int}, holds written w →
    wrFunc fd data w = (wr, w') → 0 ≤ wr →
      ∃ n ≤ data.length, wr = n ∧ SameDevices w w' ∧ holds (written ++ data.take n) w'

section Copy

variable (sha : StreamHash κ (Bytes 0x20)) (start : BackupState κ) (x : AuthEmu)
  (dev : BlockDevice) (holds : List UInt8 → World → Prop)

/-- `p` bytes of the device were read, and `written` is in the sink. -/
structure CopyTo (s : BackupState κ × World) (p : Nat) (written : List UInt8) : Prop where
  kernel : s.2.kernel = x
  devices : s.2.devices start.blockDevice = some dev
  rdPos : ∀ device q, s.2.device? start.rdFd = some (device, q) →
    device = start.blockDevice ∧ q = p
  sink : holds written s.2
  written_le : written.length ≤ p
  p_le : p ≤ dev.content.length
  exact_of_eq : written.length = p → written = dev.content.take p
  state : s.1 = { start with
    total := written.length
    shaCtx := start.shaCtx.map fun _ => sha.absorbed (dev.content.take p) }

variable {sha start x dev holds} {wrFunc : WriteFunc World}

/-- A copy of the full length is the device. -/
theorem CopyTo.complete {s : BackupState κ × World} {p : Nat} {written : List UInt8}
    (hinv : CopyTo sha start x dev holds s p written)
    (hlen : dev.content.length ≤ written.length) :
    written = dev.content ∧ p = dev.content.length := by
  have hle := hinv.written_le
  have hp := hinv.p_le
  have heq : p = dev.content.length := by omega
  have hexact := hinv.exact_of_eq (by omega)
  rw [heq, List.take_length] at hexact
  exact ⟨hexact, heq⟩

/-- The state counts what was taken and hashes what was read. -/
theorem CopyTo.passed_state {s : BackupState κ × World} {p n m : Nat} {written data : List UInt8}
    (hinv : CopyTo sha start x dev holds s p written)
    (hdata : data = (dev.content.drop p).take n) (hm : m ≤ data.length) :
    passed sha s.1 data m = { start with
      total := (written ++ data.take m).length
      shaCtx := start.shaCtx.map fun _ => sha.absorbed (dev.content.take (p + n)) } := by
  have hle := hinv.written_le
  have hp := hinv.p_le
  have hlt := dev.size_lt
  have hrest : data.length ≤ dev.content.length - p := by
    rw [hdata, List.length_take, List.length_drop]
    omega
  -- the count is at most the size of the device
  have htotal : addU64 written.length m = written.length + m := by
    unfold addU64
    omega
  have hsha : (start.shaCtx.map fun _ => sha.absorbed (dev.content.take p)).map
      (fun ctx => sha.update ctx data) =
        start.shaCtx.map fun _ => sha.absorbed (dev.content.take (p + n)) := by
    rw [Option.map_map, List.take_add, ← hdata]
    congr 1
    funext _
    exact sha.update_absorbed _ _
  unfold passed
  rw [hinv.state, hsha, List.length_append, List.length_take, Nat.min_eq_left hm]
  dsimp only
  rw [Int.toNat_natCast, htotal]

/-- One pass: an error, or some more bytes were taken and the invariant holds again. -/
theorem copyTo_pass (hsink : Sink wrFunc start.wrFd holds) {s : BackupState κ × World} {p : Nat}
    {written : List UInt8} (hinv : CopyTo sha start x dev holds s p written) (toRead : Nat) :
    (∃ res s', deviceAccessBody sha kReadDevice wrFunc toRead s = .exit (res, s') ∧ res < 0) ∨
      ∃ s' p' written', CopyTo sha start x dev holds s' p' written' ∧
        written.length < written'.length ∧
        deviceAccessBody sha kReadDevice wrFunc toRead s =
          if s'.1.total < toRead then .again s' else .exit (0, s') := by
  have hrdFd : s.1.rdFd = start.rdFd := by rw [hinv.state]
  have hwrFd : s.1.wrFd = start.wrFd := by rw [hinv.state]
  rcases deviceAccessBody_cases sha kReadDevice wrFunc toRead s with
    ⟨res, s', hexit, hneg, -⟩ | ⟨data, w₁, wr, w₂, hread, hwrite, hpos, hbody⟩
  · exact Or.inl ⟨res, s', hexit, hneg⟩
  · right
    have hsink₁ := hsink.read s.1.rdFd bufferSize hinv.sink
    rw [hread] at hsink₁
    rw [hrdFd] at hread
    rw [hwrFd] at hwrite
    rcases kReadDevice_reads hread with ⟨device, pos, dev', n, hfd, hdev', hbytes, hn, hsame, hfd'⟩
    rcases hinv.rdPos device pos hfd with ⟨rfl, rfl⟩
    obtain rfl : dev' = dev := by
      have hdev := hinv.devices
      rw [hdev'] at hdev
      exact Option.some.inj hdev
    rcases hsink.write hsink₁ hwrite (by omega) with ⟨m, hm, rfl, hdevices, hsink₂⟩
    have hdlen : data.length = n := by
      rw [hbytes, List.length_take]
      omega
    have hle := hinv.written_le
    have hp := hinv.p_le
    rw [List.length_drop] at hn
    have htaken : (written ++ data.take m).length = written.length + m := by
      rw [List.length_append, List.length_take, Nat.min_eq_left hm]
    refine ⟨(passed sha s.1 data m, w₂), pos + n, written ++ data.take m, ?_, by omega, hbody⟩
    constructor
    · exact hdevices.kernel.trans (hsame.kernel.trans hinv.kernel)
    · dsimp only
      rw [hdevices.devices, hsame.devices]
      exact hinv.devices
    · intro device q hq
      dsimp only at hq
      rw [hdevices.device?, hfd'] at hq
      cases hq
      exact ⟨rfl, rfl⟩
    · exact hsink₂
    · omega
    · omega
    · exact copy_exact hle hinv.exact_of_eq hbytes hdlen hm
    · exact hinv.passed_state hbytes hm

/-- The loop goes on with the invariant, more bytes taken and some to come. -/
theorem copyTo_again (hsink : Sink wrFunc start.wrFd holds) {s s' : BackupState κ × World}
    {p : Nat} {written : List UInt8} (hinv : CopyTo sha start x dev holds s p written)
    {toRead : Nat} (hbody : deviceAccessBody sha kReadDevice wrFunc toRead s = .again s') :
    ∃ p' written', CopyTo sha start x dev holds s' p' written' ∧
      written.length < written'.length ∧ s'.1.total < toRead := by
  rcases copyTo_pass hsink hinv toRead with
    ⟨res, s'', hexit, -⟩ | ⟨s'', p', written', hs', hlt, heq⟩
  · rw [hexit] at hbody
    cases hbody
  · rw [heq] at hbody
    split at hbody
    · next hmore =>
      cases hbody
      exact ⟨p', written', hs', hlt, hmore⟩
    · cases hbody

/-- Where it stops without an error, the bytes asked for are taken. -/
theorem copyTo_exit (hsink : Sink wrFunc start.wrFd holds) {s : BackupState κ × World}
    {p : Nat} {written : List UInt8} (hinv : CopyTo sha start x dev holds s p written)
    {toRead : Nat} {r : Int × BackupState κ × World}
    (hbody : deviceAccessBody sha kReadDevice wrFunc toRead s = .exit r) (hr : 0 ≤ r.1) :
    ∃ p' written', CopyTo sha start x dev holds r.2 p' written' ∧ toRead ≤ written'.length := by
  rcases copyTo_pass hsink hinv toRead with
    ⟨res, s'', hexit, hneg⟩ | ⟨s'', p', written', hs', -, heq⟩
  · rw [hexit] at hbody
    cases hbody
    exact absurd hneg (not_lt.mpr hr)
  · rw [heq] at hbody
    split at hbody
    · cases hbody
    · next hdone =>
      cases hbody
      have htotal : s''.1.total = written'.length := by rw [hs'.state]
      exact ⟨p', written', hs', by omega⟩

/-- The loop gives a result within as many passes as there are bytes to read. -/
theorem deviceAccessLoop_returnsTo (hsink : Sink wrFunc start.wrFd holds) {w : World}
    (hinv : CopyTo sha start x dev holds (start, w) 0 []) {fuel : Nat}
    (hfuel : subU64 start.effectiveSize start.headerSize < fuel) :
    ∃ r, deviceAccessLoop sha kReadDevice wrFunc fuel start w = some r := by
  have hagain : ∀ s s', (∃ p written, CopyTo sha start x dev holds s p written) →
      deviceAccessBody sha kReadDevice wrFunc
        (subU64 start.effectiveSize start.headerSize) s = .again s' →
      (∃ p written, CopyTo sha start x dev holds s' p written) ∧
        subU64 start.effectiveSize start.headerSize - s'.1.total <
          subU64 start.effectiveSize start.headerSize - s.1.total := by
    rintro s s' ⟨p, written, hs⟩ hbody
    rcases copyTo_again hsink hs hbody with ⟨p', written', hs', hlt, hmore⟩
    refine ⟨⟨p', written', hs'⟩, ?_⟩
    -- what is still to be read gets less
    have htotal : s.1.total = written.length := by rw [hs.state]
    have htotal' : s'.1.total = written'.length := by rw [hs'.state]
    omega
  unfold deviceAccessLoop
  refine run_returns (fun s : BackupState κ × World =>
    subU64 start.effectiveSize start.headerSize - s.1.total) hagain ⟨0, [], hinv⟩ ?_
  dsimp only
  omega

/-- A result that is no error comes with all the bytes asked for. -/
theorem deviceAccessLoop_copiesTo (hsink : Sink wrFunc start.wrFd holds) {w w' : World}
    {state' : BackupState κ} {res : Int} (hinv : CopyTo sha start x dev holds (start, w) 0 [])
    {fuel : Nat}
    (hrun : deviceAccessLoop sha kReadDevice wrFunc fuel start w = some (res, state', w'))
    (hres : 0 ≤ res) : ∃ p written, CopyTo sha start x dev holds (state', w') p written ∧
      subU64 start.effectiveSize start.headerSize ≤ written.length := by
  refine run_invariant (I := fun s => ∃ p written, CopyTo sha start x dev holds s p written)
    (Q := fun r => 0 ≤ r.1 → ∃ p written, CopyTo sha start x dev holds r.2 p written ∧
      subU64 start.effectiveSize start.headerSize ≤ written.length)
    ?_ ?_ ⟨0, [], hinv⟩ hrun hres
  · rintro s r ⟨p, written, hs⟩ hbody hr
    exact copyTo_exit hsink hs hbody hr
  · rintro s s' ⟨p, written, hs⟩ hbody
    rcases copyTo_again hsink hs hbody with ⟨p', written', hs', -, -⟩
    exact ⟨p', written', hs'⟩

end Copy

end GcToolKit.App
