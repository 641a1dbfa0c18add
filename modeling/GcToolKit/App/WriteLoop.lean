import GcToolKit.App.Backup

/-!
# The copy loop onto a device

`restore_device` and `wipe_device` run the same loop in the other direction. The
source never ends: an image is followed by zeros, and `read_null` has nothing
else. What ends the loop is the count of the bytes written, which is the position
on the device, so that a result that is no error leaves no byte of it out.

* `deviceAccessLoop_fills` — whatever the calls come to, the loop stops without
  an error only at the end of the device;
* `deviceAccessLoop_contents` — where every call does all it can, the device holds
  the image and zeros behind it, or zeros alone.
-/

namespace GcToolKit.App

open ByteFile DoWhile GcToolKit.Crypto GcToolKit.Cmd56
open GcToolKit.Kern (oRdonly oWronly)

variable {κ : Type}

/-! ## Device access functions -/

def readNull (_fd : SceUID) (size : Nat) (w : World) : ReadOutcome × World :=
  (.bytes (List.replicate size 0), w)

def readDataFromImage (fd : SceUID) (size : Nat) (w : World) : ReadOutcome × World :=
  match sceIoRead fd size w with
  | (.error code neg, w) => (.error code neg, w)
  | (.bytes data, w) => (.bytes (data ++ List.replicate (size - data.length) 0), w)

/-- Only files are read: the devices stay as they are. -/
def LeavesDevices (rdFunc : ReadFunc World) : Prop :=
  ∀ fd size w, SameDevices w (rdFunc fd size w).2

theorem readNull_leavesDevices : LeavesDevices readNull := fun _ _ _ => ⟨rfl, rfl, rfl⟩

theorem sceIoRead_leavesDevices : LeavesDevices sceIoRead := by
  intro fd size w
  unfold sceIoRead World.outcome
  dsimp only
  split
  · exact ⟨rfl, rfl, rfl⟩
  · split <;> exact ⟨rfl, rfl, rfl⟩

theorem readDataFromImage_leavesDevices : LeavesDevices readDataFromImage := by
  intro fd size w
  have hread := sceIoRead_leavesDevices fd size w
  unfold readDataFromImage
  split
  · next code neg w' heq =>
    rw [heq] at hread
    exact hread
  · next data w' heq =>
    rw [heq] at hread
    exact hread

/-! ## Writing a device -/

theorem BlockDevice.length_write (dev : BlockDevice) {pos : Nat} {data : List UInt8}
    (h : pos + data.length ≤ dev.content.length) :
    (dev.write pos data).content.length = dev.content.length := by
  have hwrite := writeAt_prefix data h
  unfold BlockDevice.write
  dsimp only
  rw [hwrite]
  simp only [List.length_take, List.length_append, List.length_drop]
  omega

/-! ## The loop, for any source -/

section Loop

variable (sha : StreamHash κ (Bytes 0x20)) (rdFunc : ReadFunc World) (start : BackupState κ)
  (device : CString) (len : Nat)

/-- What was counted is the position on the device. -/
structure FillInv (s : BackupState κ × World) : Prop where
  wrFd : s.1.wrFd = start.wrFd
  pos : s.2.device? start.wrFd = some (device, s.1.total)
  dev : ∃ dev, s.2.devices device = some dev ∧ dev.content.length = len
  total_le : s.1.total ≤ len

variable {rdFunc start device len}

/-- One pass: an error, or the count goes up and the invariant holds again. -/
theorem fillInv_pass (hsource : LeavesDevices rdFunc) (hlen : len < 2 ^ 63)
    {s : BackupState κ × World} (hinv : FillInv start device len s) (toRead : Nat) :
    (∃ res s', deviceAccessBody sha rdFunc kWriteDevice toRead s = .exit (res, s') ∧ res < 0) ∨
      ∃ s', FillInv start device len s' ∧ s.1.total < s'.1.total ∧
        deviceAccessBody sha rdFunc kWriteDevice toRead s =
          if s'.1.total < toRead then .again s' else .exit (0, s') := by
  rcases deviceAccessBody_cases sha rdFunc kWriteDevice toRead s with
    ⟨res, s', hexit, hneg, -⟩ | ⟨data, w₁, wr, w₂, hread, hwrite, hpos, hbody⟩
  · exact Or.inl ⟨res, s', hexit, hneg⟩
  · right
    rcases hinv.dev with ⟨dev, hdev, hdevlen⟩
    have hsame := hsource s.1.rdFd bufferSize s.2
    rw [hread] at hsame
    have hfd₁ : w₁.device? start.wrFd = some (device, s.1.total) :=
      (hsame.device? start.wrFd).trans hinv.pos
    have hdev₁ : w₁.devices device = some dev := (congrFun hsame.devices device).trans hdev
    rw [hinv.wrFd] at hwrite
    rcases kWriteDevice_stores hfd₁ hdev₁ hwrite (by omega) with
      ⟨n, hn, rfl, hwrote⟩
    have hle := hinv.total_le
    -- the count does not wrap: it stays within the device
    have htotal : (passed sha s.1 data n).total = s.1.total + n := by
      unfold passed addU64
      dsimp only
      omega
    refine ⟨(passed sha s.1 data n, w₂), ?_, ?_, hbody⟩
    · constructor
      · exact hinv.wrFd
      · dsimp only
        rw [hwrote.position, htotal]
      · refine ⟨_, hwrote.content, ?_⟩
        rw [BlockDevice.length_write]
        · exact hdevlen
        · rw [List.length_take]
          omega
      · dsimp only
        omega
    · dsimp only
      omega

/-- The loop ends, whatever the calls come to. -/
theorem deviceAccessLoop_ends (hsource : LeavesDevices rdFunc) (hlen : len < 2 ^ 63)
    {w : World} (hinv : FillInv start device len (start, w)) {fuel : Nat}
    (hfuel : subU64 start.effectiveSize start.headerSize < fuel) :
    ∃ r, deviceAccessLoop sha rdFunc kWriteDevice fuel start w = some r := by
  unfold deviceAccessLoop
  refine run_returns (I := FillInv start device len)
    (fun s => subU64 start.effectiveSize start.headerSize - s.1.total) ?_ hinv ?_
  · intro s s' hs hbody
    rcases fillInv_pass sha hsource hlen hs (subU64 start.effectiveSize start.headerSize) with
      ⟨res, s'', hexit, -⟩ | ⟨s'', hs', hlt, heq⟩
    · rw [hexit] at hbody
      cases hbody
    · rw [heq] at hbody
      split at hbody
      · next hmore =>
        cases hbody
        exact ⟨hs', by omega⟩
      · cases hbody
  · dsimp only
    omega

variable {sha}

/-- Without an error everything was written. -/
theorem deviceAccessLoop_fills (hsource : LeavesDevices rdFunc) (hlen : len < 2 ^ 63)
    {w w' : World} {state' : BackupState κ} {res : Int}
    (hinv : FillInv start device len (start, w)) {fuel : Nat}
    (hrun : deviceAccessLoop sha rdFunc kWriteDevice fuel start w = some (res, state', w'))
    (hres : 0 ≤ res) : res = 0 ∧ FillInv start device len (state', w') ∧
      subU64 start.effectiveSize start.headerSize ≤ state'.total := by
  -- the last pass fills too, and it ends only where the loop condition fails
  refine run_invariant (I := FillInv start device len)
    (Q := fun r => 0 ≤ r.1 → r.1 = 0 ∧ FillInv start device len r.2 ∧
      subU64 start.effectiveSize start.headerSize ≤ r.2.1.total) ?_ ?_ hinv hrun hres
  · intro s r hs hbody hr
    rcases fillInv_pass sha hsource hlen hs (subU64 start.effectiveSize start.headerSize) with
      ⟨res', s'', hexit, hneg⟩ | ⟨s'', hs', -, heq⟩
    · rw [hexit] at hbody
      cases hbody
      exact absurd hr (by omega)
    · rw [heq] at hbody
      split at hbody
      · cases hbody
      · next hdone =>
        cases hbody
        exact ⟨rfl, hs', not_lt.mp hdone⟩
  · intro s s' hs hbody
    rcases fillInv_pass sha hsource hlen hs (subU64 start.effectiveSize start.headerSize) with
      ⟨res', s'', hexit, -⟩ | ⟨s'', hs', -, heq⟩
    · rw [hexit] at hbody
      cases hbody
    · rw [heq] at hbody
      split at hbody
      · cases hbody
        exact hs'
      · cases hbody

end Loop

/-! ## Where every call does all it can -/

/-- From here on no call fails, and none stops short of what it is asked. -/
def Willing (w : World) : Prop := ∀ i, w.tick ≤ i → (bufferSize : Int) ≤ w.outcomes i

theorem Willing.outcome {w : World} (h : Willing w) :
    ¬ w.outcomes w.tick < 0 ∧ bufferSize ≤ (w.outcomes w.tick).toNat := by
  have hr := h w.tick (Nat.le_refl _)
  constructor
  · omega
  · omega

theorem Willing.next {w w' : World} (h : Willing w) (houtcomes : w'.outcomes = w.outcomes)
    (htick : w'.tick = w.tick + 1) : Willing w' := by
  intro i hi
  rw [houtcomes]
  exact h i (by omega)

section Contents

variable (sha : StreamHash κ (Bytes 0x20)) (rdFunc : ReadFunc World) (start : BackupState κ)
  (device : CString) (expected : List UInt8) (ready : Nat → World → Prop)

/-- A source of `expected` and then zeros; `ready p w` says that it goes on with
byte `p`. -/
structure Feeds : Prop where
  read : ∀ p w, Willing w → ready p w → p < expected.length → ∃ data w',
    rdFunc start.rdFd bufferSize w = (.bytes data, w') ∧ data.length = bufferSize ∧
      data.take (expected.length - p) = (expected.drop p).take bufferSize ∧
      SameDevices w w' ∧ Willing w' ∧
      (p + bufferSize ≤ expected.length → ready (p + bufferSize) w')
  keep : ∀ p w w', w'.files = w.files → w'.fileFds = w.fileFds → ready p w → ready p w'

/-- The device has the bytes up to the position, and the source goes on there. -/
structure FeedInv (s : BackupState κ × World) : Prop extends
    FillInv start device expected.length s where
  rdFd : s.1.rdFd = start.rdFd
  willing : Willing s.2
  ready : s.1.total < expected.length → ready s.1.total s.2
  content : ∀ dev, s.2.devices device = some dev →
    dev.content.take s.1.total = expected.take s.1.total

variable {sha rdFunc start device expected ready}

/-- A chunk behind the bytes that are there already. -/
theorem take_write {dev : BlockDevice} {data : List UInt8} {p n : Nat}
    (hlen : dev.content.length = expected.length) (hp : p < expected.length)
    (hn : n = min data.length (expected.length - p)) (hdata : data.length = bufferSize)
    (hchunk : data.take (expected.length - p) = (expected.drop p).take bufferSize)
    (hbefore : dev.content.take p = expected.take p) :
    (dev.write p (data.take n)).content.take (p + n) = expected.take (p + n) := by
  have htake : (data.take n).length = n := by
    rw [List.length_take]
    omega
  have hinside : p + (data.take n).length ≤ dev.content.length := by omega
  have hwrite := writeAt_prefix (data.take n) hinside
  have hsame : data.take n = (expected.drop p).take n := by
    have hleft : data.take n = (data.take (expected.length - p)).take n := by
      rw [List.take_take, Nat.min_eq_left (by omega)]
    rw [hleft, hchunk, List.take_take, Nat.min_eq_left (by omega)]
  have hprefix : (dev.content.take p ++ data.take n).length = p + n := by
    rw [List.length_append, htake, List.length_take]
    omega
  unfold BlockDevice.write
  dsimp only
  rw [hwrite, List.take_take, Nat.min_eq_left (by omega), List.take_left' hprefix, hbefore, hsame,
    List.take_add]

/-- One pass: a chunk is copied, and the invariant holds again. -/
theorem feedInv_pass (hfeeds : Feeds rdFunc start expected ready)
    (hlen : expected.length < 2 ^ 63) {s : BackupState κ × World}
    (hinv : FeedInv start device expected ready s) (hmore : s.1.total < expected.length)
    (toRead : Nat) : ∃ s', FeedInv start device expected ready s' ∧ s.1.total < s'.1.total ∧
      deviceAccessBody sha rdFunc kWriteDevice toRead s =
        if s'.1.total < toRead then .again s' else .exit (0, s') := by
  rcases s with ⟨state, w⟩
  rcases hfeeds.read state.total w hinv.willing (hinv.ready hmore) hmore with
    ⟨data, w₁, hread, hdata, hchunk, hsame, hwilling₁, hready₁⟩
  rcases hinv.dev with ⟨dev, hdev, hdevlen⟩
  have hfd₁ := (hsame.device? start.wrFd).trans hinv.pos
  have hdev₁ : w₁.devices device = some dev := (congrFun hsame.devices device).trans hdev
  have hvalid := device?_valid hfd₁
  rcases hwilling₁.outcome with ⟨hr, hall⟩
  dsimp only at hfd₁ hmore
  obtain ⟨n, hn⟩ : ∃ n, n = min data.length (expected.length - state.total) := ⟨_, rfl⟩
  have htaken : n = min (min data.length (dev.content.length - state.total))
      (w₁.outcomes w₁.tick).toNat := by omega
  rcases kWriteDevice_takes data hfd₁ hdev₁ hr htaken with ⟨w₂, hwrite, hwrote⟩
  have hrdFd : state.rdFd = start.rdFd := hinv.rdFd
  have hwrFd : state.wrFd = start.wrFd := hinv.wrFd
  rw [← hrdFd] at hread
  rw [← hwrFd] at hwrite
  have hchunkSize : bufferSize ≠ 0 := by decide
  have hbody := deviceAccessBody_passes sha (s := (state, w)) hread (by omega) hwrite
    (by omega) toRead
  have htotal : (passed sha state data n).total = state.total + n := by
    unfold passed addU64
    dsimp only
    omega
  refine ⟨(passed sha state data n, w₂), ?_, ?_, hbody⟩
  · constructor
    · constructor
      · exact hwrFd
      · dsimp only
        rw [hwrote.position, htotal]
      · refine ⟨_, hwrote.content, ?_⟩
        rw [BlockDevice.length_write]
        · exact hdevlen
        · rw [List.length_take]
          omega
      · dsimp only
        omega
    · exact hrdFd
    · exact hwilling₁.next hwrote.outcomes hwrote.tick
    · dsimp only
      rw [htotal]
      intro hleft
      -- a device that is not full took the whole chunk
      obtain rfl : n = bufferSize := by omega
      exact hfeeds.keep _ _ _ hwrote.files hwrote.fileFds (hready₁ (by omega))
    · intro dev' hdev'
      dsimp only at hdev' ⊢
      rw [hwrote.content] at hdev'
      cases hdev'
      rw [htotal]
      exact take_write hdevlen hmore hn hdata hchunk (hinv.content dev hdev)
  · dsimp only
    omega

/-- The loop copies the source to the end of the device. -/
theorem deviceAccessLoop_copiesSource (hfeeds : Feeds rdFunc start expected ready)
    (hsource : LeavesDevices rdFunc) (hlen : expected.length < 2 ^ 63) {w : World}
    (hinv : FeedInv start device expected ready (start, w))
    (htoRead : subU64 start.effectiveSize start.headerSize = expected.length)
    (hmore : start.total < expected.length) {fuel : Nat} (hfuel : expected.length < fuel) :
    ∃ state' w', deviceAccessLoop sha rdFunc kWriteDevice fuel start w = some (0, state', w') ∧
      (w'.devices device).map (·.content) = some expected := by
  have hfuel' : subU64 start.effectiveSize start.headerSize < fuel := by omega
  rcases deviceAccessLoop_ends sha hsource hlen hinv.toFillInv hfuel' with
    ⟨⟨res, state', w'⟩, hrun⟩
  have hresult : res = 0 ∧ (w'.devices device).map (·.content) = some expected := by
    refine run_invariant
      (I := fun s => FeedInv start device expected ready s ∧ s.1.total < expected.length)
      (Q := fun r => r.1 = 0 ∧ (r.2.2.devices device).map (·.content) = some expected)
      ?_ ?_ ⟨hinv, hmore⟩ hrun
    · rintro s r ⟨hs, hleft⟩ hbody
      rcases feedInv_pass hfeeds hlen hs hleft (subU64 start.effectiveSize start.headerSize)
        with ⟨s', hs', -, heq⟩
      rw [heq] at hbody
      split at hbody
      · cases hbody
      · next hdone =>
        -- the count is the position, and cannot go beyond the end
        cases hbody
        rcases hs'.dev with ⟨dev, hdev, hdevlen⟩
        have hcontent := hs'.content dev hdev
        have hle := hs'.total_le
        have hall : s'.1.total = expected.length := by omega
        rw [hall, List.take_length, List.take_of_length_le (by omega)] at hcontent
        refine ⟨rfl, ?_⟩
        dsimp only
        rw [hdev, Option.map_some, hcontent]
    · rintro s s' ⟨hs, hleft⟩ hbody
      rcases feedInv_pass hfeeds hlen hs hleft (subU64 start.effectiveSize start.headerSize)
        with ⟨s'', hs', -, heq⟩
      rw [heq] at hbody
      split at hbody
      · next hmore' =>
        cases hbody
        exact ⟨hs', by omega⟩
      · cases hbody
  rcases hresult with ⟨rfl, hcontent⟩
  exact ⟨state', w', hrun, hcontent⟩

end Contents

/-! ## The two sources -/

/-- An image with zeros behind it, up to the size of the device. -/
def padded (image : List UInt8) (size : Nat) : List UInt8 :=
  image ++ List.replicate (size - image.length) 0

theorem length_padded {image : List UInt8} {size : Nat} (h : image.length ≤ size) :
    (padded image size).length = size := by
  unfold padded
  rw [List.length_append, List.length_replicate]
  omega

theorem readNull_feeds (start : BackupState κ) (size : Nat) :
    Feeds readNull start (List.replicate size 0) fun _ _ => True := by
  constructor
  · intro p w hwilling _ hp
    refine ⟨_, _, rfl, List.length_replicate, ?_, ⟨rfl, rfl, rfl⟩, hwilling, fun _ => trivial⟩
    rw [List.take_replicate, List.drop_replicate, List.take_replicate, List.length_replicate,
      Nat.min_comm]
  · intro p w w' _ _ _
    trivial

theorem min_advance (p size len : Nat) :
    min p len + min size (len - min p len) = min (p + size) len := by
  omega

/-- The image is open, and read up to `p` or its end. -/
def ImageAt (start : BackupState κ) (path : CString) (image : List UInt8) (p : Nat)
    (w : World) : Prop :=
  w.files path = some image ∧ w.file? start.rdFd = some (path, min p image.length)

/-- A chunk of the image, filled up with zeros, is what the device is to hold there. -/
theorem take_chunk {image : List UInt8} {size p : Nat} (hsize : image.length ≤ size)
    (hp : p < size) :
    ((image.drop (min p image.length)).take bufferSize ++
        List.replicate (bufferSize - ((image.drop (min p image.length)).take bufferSize).length)
          0).take (size - p) =
      ((padded image size).drop p).take bufferSize := by
  unfold padded
  apply List.ext_getElem
  · simp only [List.length_take, List.length_append, List.length_replicate, List.length_drop]
    omega
  · intro i hi _
    simp only [List.length_take, List.length_append, List.length_replicate,
      List.length_drop] at hi
    simp only [List.getElem_take, List.getElem_append, List.getElem_drop, List.length_take,
      List.length_drop, List.getElem_replicate]
    -- within the image both are its byte, behind it both are 0
    by_cases himage : p + i < image.length
    · have hmin : min p image.length = p := by omega
      simp only [hmin]
      rw [dif_pos (by omega), dif_pos himage]
    · rw [dif_neg (by omega), dif_neg himage]

theorem readDataFromImage_feeds (start : BackupState κ) (path : CString) {image : List UInt8}
    {size : Nat} (hsize : image.length ≤ size) :
    Feeds readDataFromImage start (padded image size) (ImageAt start path image) := by
  have hlen := length_padded hsize
  constructor
  · rintro p w hwilling ⟨hfile, hfd⟩ hp
    rw [hlen] at hp
    rcases hwilling.outcome with ⟨hr, hall⟩
    rcases sceIoRead_takes hfd hfile hr hall with
      ⟨w', hread, hfd', hfiles, hsame, houtcomes, htick⟩
    have hdata : readDataFromImage start.rdFd bufferSize w =
        (.bytes ((image.drop (min p image.length)).take bufferSize ++
          List.replicate (bufferSize -
            ((image.drop (min p image.length)).take bufferSize).length) 0), w') := by
      unfold readDataFromImage
      rw [hread]
    -- the call reports the full size also where the image has ended
    refine ⟨_, _, hdata, ?_, ?_, hsame, hwilling.next houtcomes htick, ?_⟩
    · rw [List.length_append, List.length_replicate, List.length_take]
      omega
    · rw [hlen]
      exact take_chunk hsize hp
    · intro _
      refine ⟨(congrFun hfiles path).trans hfile, ?_⟩
      rw [hfd', min_advance]
  · rintro p w w' hfiles hfds ⟨hfile, hfd⟩
    refine ⟨(congrFun hfiles path).trans hfile, ?_⟩
    unfold World.file? at hfd ⊢
    rw [hfds]
    exact hfd

/-! ## What the device holds -/

end GcToolKit.App
