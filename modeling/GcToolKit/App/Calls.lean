import GcToolKit.App.World

/-!
# What one call can do

Every call draws one outcome. What may come of it is said here once for each call,
the error it returns and what it does otherwise, so that the stages built on the calls
need not look into them.
-/

namespace GcToolKit.App

open ByteFile
open GcToolKit.Kern (oCreat oTrunc)

/-! ## What a call leaves alone -/

/-- A call on files leaves the kernel and the devices alone. -/
structure SameDevices (w w' : World) : Prop where
  kernel : w'.kernel = w.kernel
  devices : w'.devices = w.devices
  deviceFds : w'.deviceFds = w.deviceFds

/-- A call on a device leaves the kernel and the files alone. -/
structure SameFiles (w w' : World) : Prop where
  kernel : w'.kernel = w.kernel
  devices : w'.devices = w.devices
  files : w'.files = w.files
  fileFds : w'.fileFds = w.fileFds

theorem SameDevices.device? {w w' : World} (h : SameDevices w w') (fd : SceUID) :
    w'.device? fd = w.device? fd := by
  unfold World.device?
  rw [h.deviceFds]

theorem SameFiles.trans {w w' w'' : World} (h : SameFiles w w') (h' : SameFiles w' w'') :
    SameFiles w w'' where
  kernel := h'.kernel.trans h.kernel
  devices := h'.devices.trans h.devices
  files := h'.files.trans h.files
  fileFds := h'.fileFds.trans h.fileFds

theorem SameFiles.file? {w w' : World} (h : SameFiles w w') (fd : SceUID) :
    w'.file? fd = w.file? fd := by
  unfold World.file?
  rw [h.fileFds]

theorem device?_valid {w : World} {fd : SceUID} {v : CString × Nat}
    (h : w.device? fd = some v) : ¬ fd < 0 := by
  intro hneg
  unfold World.device? at h
  rw [if_pos hneg] at h
  cases h

theorem file?_valid {w : World} {fd : SceUID} {v : CString × Nat} (h : w.file? fd = some v) :
    ¬ fd < 0 := by
  intro hneg
  unfold World.file? at h
  rw [if_pos hneg] at h
  cases h

theorem device?_update (w : World) {fd : SceUID} (h : ¬ fd < 0) (v : Option (CString × Nat)) :
    World.device? { w with deviceFds := Function.update w.deviceFds fd v } fd = v := by
  unfold World.device?
  rw [if_neg h]
  exact Function.update_self ..

theorem file?_update (w : World) {fd : SceUID} (h : ¬ fd < 0) (v : Option (CString × Nat)) :
    World.file? { w with fileFds := Function.update w.fileFds fd v } fd = v := by
  unfold World.file?
  rw [if_neg h]
  exact Function.update_self ..

/-- Calls that leave everything but the open devices. -/
structure Asked (calls : Nat) (w w' : World) : Prop where
  same : SameFiles w w'
  outcomes : w'.outcomes = w.outcomes
  tick : w'.tick = w.tick + calls

theorem Asked.trans {m n : Nat} {w w' w'' : World} (h : Asked m w w') (h' : Asked n w' w'') :
    Asked (m + n) w w'' := by
  constructor
  · constructor
    · exact h'.same.kernel.trans h.same.kernel
    · exact h'.same.devices.trans h.same.devices
    · exact h'.same.files.trans h.same.files
    · exact h'.same.fileFds.trans h.same.fileFds
  · exact h'.outcomes.trans h.outcomes
  · rw [h'.tick, h.tick, Nat.add_assoc]

theorem Asked.device {n : Nat} {w w' : World} (h : Asked n w w') {device : CString}
    {dev : BlockDevice} (hdev : w.devices device = some dev) : w'.devices device = some dev :=
  (congrFun h.same.devices device).trans hdev

/-- A call that has failed. -/
theorem Asked.failed (w : World) : Asked 1 w { w with tick := w.tick + 1 } :=
  ⟨⟨rfl, rfl, rfl, rfl⟩, rfl, rfl⟩

/-! ## Devices -/

section Devices

variable {w : World} {device : CString} {dev : BlockDevice} {fd : SceUID}

theorem isModuleStarted_same (w : World) : SameFiles w (isModuleStarted w).2 :=
  ⟨rfl, rfl, rfl, rfl⟩

theorem isModuleStarted_started (h : 0 < w.outcomes w.tick) :
    ∃ w', isModuleStarted w = (true, w') ∧ Asked 1 w w' := by
  unfold isModuleStarted World.outcome
  dsimp only
  rw [decide_eq_true h]
  exact ⟨_, rfl, ⟨rfl, rfl, rfl, rfl⟩, rfl, rfl⟩

theorem kOpenDevice_refused (device : CString) (permission : UInt32)
    (h : w.outcomes w.tick < 0) :
    kOpenDevice device permission w = (w.outcomes w.tick, { w with tick := w.tick + 1 }) := by
  unfold kOpenDevice World.outcome
  dsimp only
  rw [if_pos h]

theorem kOpenDevice_missing (permission : UInt32) (hdev : w.devices device = none)
    (h : ¬ w.outcomes w.tick < 0) :
    kOpenDevice device permission w = (enodev, { w with tick := w.tick + 1 }) := by
  unfold kOpenDevice World.outcome
  dsimp only
  rw [if_neg h, hdev]

/-- A handle starts at the beginning of its device. -/
theorem kOpenDevice_opens (permission : UInt32) (hdev : w.devices device = some dev)
    (h : 0 ≤ w.outcomes w.tick) :
    ∃ w', kOpenDevice device permission w = (w.outcomes w.tick, w') ∧
      w'.device? (w.outcomes w.tick) = some (device, 0) ∧ Asked 1 w w' := by
  have hvalid : ¬ w.outcomes w.tick < 0 := not_lt.mpr h
  unfold kOpenDevice World.outcome
  dsimp only
  rw [if_neg hvalid, hdev]
  refine ⟨_, rfl, ?_, ⟨rfl, rfl, rfl, rfl⟩, rfl, rfl⟩
  exact device?_update { w with tick := w.tick + 1 } hvalid _

theorem kOpenDevice_cases (device : CString) (permission : UInt32) (w : World) :
    (∃ r < 0, kOpenDevice device permission w = (r, { w with tick := w.tick + 1 })) ∨
      ∃ dev w', w.devices device = some dev ∧ 0 ≤ w.outcomes w.tick ∧
        kOpenDevice device permission w = (w.outcomes w.tick, w') ∧
        w'.device? (w.outcomes w.tick) = some (device, 0) ∧ Asked 1 w w' := by
  have hmissing : enodev < 0 := by decide
  by_cases hneg : w.outcomes w.tick < 0
  · exact Or.inl ⟨_, hneg, kOpenDevice_refused device permission hneg⟩
  · cases hdev : w.devices device with
    | none => exact Or.inl ⟨_, hmissing, kOpenDevice_missing permission hdev hneg⟩
    | some dev =>
      have hopens := not_lt.mp hneg
      rcases kOpenDevice_opens permission hdev hopens with ⟨w', hcall, hfd, hasked⟩
      exact Or.inr ⟨dev, w', rfl, hopens, hcall, hfd, hasked⟩

theorem kReadDevice_refused (fd : SceUID) (size : Nat) (h : w.outcomes w.tick < 0) :
    kReadDevice fd size w = (.error (w.outcomes w.tick) h, { w with tick := w.tick + 1 }) := by
  unfold kReadDevice World.outcome
  dsimp only
  rw [dif_pos h]

/-- The next bytes of the device, and the handle moves on behind them. -/
theorem kReadDevice_takes (size : Nat) {pos n : Nat} (hfd : w.device? fd = some (device, pos))
    (hdev : w.devices device = some dev) (h : ¬ w.outcomes w.tick < 0)
    (hn : n = min (min size (dev.content.drop pos).length) (max 1 (w.outcomes w.tick).toNat)) :
    ∃ w', kReadDevice fd size w = (.bytes ((dev.content.drop pos).take n), w') ∧
      w'.device? fd = some (device, pos + n) ∧ Asked 1 w w' := by
  have hfd' : World.device? { w with tick := w.tick + 1 } fd = some (device, pos) := hfd
  subst hn
  unfold kReadDevice World.outcome
  dsimp only
  rw [dif_neg h, hfd']
  dsimp only
  rw [hdev]
  refine ⟨_, rfl, ?_, ⟨rfl, rfl, rfl, rfl⟩, rfl, rfl⟩
  exact device?_update { w with tick := w.tick + 1 } (device?_valid hfd) _

theorem kReadDevice_cases (fd : SceUID) (size : Nat) (w : World) :
    (∃ r hr, kReadDevice fd size w = (.error r hr, { w with tick := w.tick + 1 })) ∨
      ∃ device pos dev n w', w.device? fd = some (device, pos) ∧
        w.devices device = some dev ∧ n ≤ (dev.content.drop pos).length ∧
        kReadDevice fd size w = (.bytes ((dev.content.drop pos).take n), w') ∧
        w'.device? fd = some (device, pos + n) ∧ Asked 1 w w' := by
  by_cases hneg : w.outcomes w.tick < 0
  · exact Or.inl ⟨_, hneg, kReadDevice_refused fd size hneg⟩
  -- a handle that is not open, or a card that was taken out, is an error too
  cases hfd : w.device? fd with
  | none =>
    left
    have hfd' : World.device? { w with tick := w.tick + 1 } fd = none := hfd
    unfold kReadDevice World.outcome
    dsimp only
    rw [dif_neg hneg, hfd']
    exact ⟨_, _, rfl⟩
  | some open' =>
    rcases open' with ⟨device, pos⟩
    cases hdev : w.devices device with
    | none =>
      left
      have hfd' : World.device? { w with tick := w.tick + 1 } fd = some (device, pos) := hfd
      unfold kReadDevice World.outcome
      dsimp only
      rw [dif_neg hneg, hfd']
      dsimp only
      rw [hdev]
      exact ⟨_, _, rfl⟩
    | some dev =>
      right
      rcases kReadDevice_takes size hfd hdev hneg rfl with ⟨w', hread, hfd', hasked⟩
      refine ⟨device, pos, dev, _, w', rfl, hdev, ?_, hread, hfd', hasked⟩
      exact Nat.le_trans (Nat.min_le_left ..) (Nat.min_le_right ..)

/-- What a write of `n` bytes changes. -/
structure WroteDevice (fd : SceUID) (device : CString) (pos n : Nat) (dev : BlockDevice)
    (data : List UInt8) (w w' : World) : Prop where
  content : w'.devices device = some (dev.write pos (data.take n))
  position : w'.device? fd = some (device, pos + n)
  files : w'.files = w.files
  fileFds : w'.fileFds = w.fileFds
  outcomes : w'.outcomes = w.outcomes
  tick : w'.tick = w.tick + 1

theorem kWriteDevice_refused (fd : SceUID) (data : List UInt8) (h : w.outcomes w.tick < 0) :
    kWriteDevice fd data w = (w.outcomes w.tick, { w with tick := w.tick + 1 }) := by
  unfold kWriteDevice World.outcome
  dsimp only
  rw [if_pos h]

/-- A write that the kernel takes. -/
theorem kWriteDevice_takes (data : List UInt8) {pos n : Nat}
    (hfd : w.device? fd = some (device, pos)) (hdev : w.devices device = some dev)
    (hr : ¬ w.outcomes w.tick < 0)
    (hn : n = min (min data.length (dev.content.length - pos)) (w.outcomes w.tick).toNat) :
    ∃ w', kWriteDevice fd data w = ((n : Int), w') ∧
      WroteDevice fd device pos n dev data w w' := by
  have hvalid := device?_valid hfd
  have hfd' : World.device? { w with tick := w.tick + 1 } fd = some (device, pos) := hfd
  subst hn
  unfold kWriteDevice World.outcome
  dsimp only
  rw [if_neg hr, hfd']
  dsimp only
  rw [hdev]
  refine ⟨_, rfl, Function.update_self .., ?_, rfl, rfl, rfl, rfl⟩
  exact device?_update { w with tick := _, devices := _ } hvalid _

/-- A write that does not fail moves on behind what it stored, and not beyond the
end. -/
theorem kWriteDevice_stores {data : List UInt8} {w' : World} {wr : Int} {pos : Nat}
    (hfd : w.device? fd = some (device, pos)) (hdev : w.devices device = some dev)
    (h : kWriteDevice fd data w = (wr, w')) (hwr : 0 ≤ wr) :
    ∃ n ≤ min data.length (dev.content.length - pos), wr = n ∧
      WroteDevice fd device pos n dev data w w' := by
  by_cases hr : w.outcomes w.tick < 0
  · rw [kWriteDevice_refused fd data hr] at h
    cases h
    exact absurd hr (by omega)
  · rcases kWriteDevice_takes data hfd hdev hr rfl with ⟨w'', hwrite, hwrote⟩
    rw [hwrite] at h
    cases h
    exact ⟨_, Nat.min_le_left .., rfl, hwrote⟩

theorem kCloseDevice_asked (fd : SceUID) (w : World) : Asked 0 w (App.kCloseDevice fd w).2 :=
  ⟨⟨rfl, rfl, rfl, rfl⟩, rfl, rfl⟩

end Devices

/-! ## Files -/

section Files

variable {w : World} {path : CString} {fd : SceUID}

/-- The file is open at its start; `SCE_O_CREAT` and `SCE_O_TRUNC` have done their work. -/
structure FileOpened (path : CString) (flags : UInt32) (fd : SceUID) (w w' : World) : Prop where
  files : w'.files = Function.update w.files path
    (some (if flags &&& oTrunc ≠ 0 then [] else (w.files path).getD []))
  position : w'.file? fd = some (path, 0)
  same : SameDevices w w'
  outcomes : w'.outcomes = w.outcomes
  tick : w'.tick = w.tick + 1

theorem sceIoOpen_refused (path : CString) (flags : UInt32) (h : w.outcomes w.tick < 0) :
    sceIoOpen path flags w = (w.outcomes w.tick, { w with tick := w.tick + 1 }) := by
  unfold sceIoOpen World.outcome
  dsimp only
  rw [if_pos h]

theorem sceIoOpen_missing {flags : UInt32} (hnone : w.files path = none)
    (hflags : flags &&& oCreat = 0) (h : ¬ w.outcomes w.tick < 0) :
    sceIoOpen path flags w = (enoent, { w with tick := w.tick + 1 }) := by
  have hmissing : (w.files path).isNone = true ∧ flags &&& oCreat = 0 := by
    rw [hnone]
    exact ⟨rfl, hflags⟩
  unfold sceIoOpen World.outcome
  dsimp only
  rw [if_neg h, if_pos hmissing]

theorem sceIoOpen_succeeds (path : CString) (flags : UInt32) (h : ¬ w.outcomes w.tick < 0)
    (hthere : flags &&& oCreat = 0 → w.files path ≠ none) :
    ∃ w', sceIoOpen path flags w = (w.outcomes w.tick, w') ∧
      FileOpened path flags (w.outcomes w.tick) w w' := by
  have hfound : ¬ ((w.files path).isNone = true ∧ flags &&& oCreat = 0) := by
    rintro ⟨hnone, hflags⟩
    exact hthere hflags (Option.isNone_iff_eq_none.mp hnone)
  unfold sceIoOpen World.outcome
  dsimp only
  rw [if_neg h, if_neg hfound]
  refine ⟨_, rfl, rfl, ?_, ⟨rfl, rfl, rfl⟩, rfl, rfl⟩
  exact file?_update { w with tick := _, files := _ } h _

theorem sceIoOpen_cases (path : CString) (flags : UInt32) (w : World) :
    (∃ r < 0, sceIoOpen path flags w = (r, { w with tick := w.tick + 1 })) ∨
      ∃ w', sceIoOpen path flags w = (w.outcomes w.tick, w') ∧
        FileOpened path flags (w.outcomes w.tick) w w' := by
  have herror : enoent < 0 := by decide
  by_cases hneg : w.outcomes w.tick < 0
  · exact Or.inl ⟨_, hneg, sceIoOpen_refused path flags hneg⟩
  · by_cases hmissing : flags &&& oCreat = 0 ∧ w.files path = none
    · exact Or.inl ⟨_, herror, sceIoOpen_missing hmissing.2 hmissing.1 hneg⟩
    · exact Or.inr (sceIoOpen_succeeds path flags hneg fun hflags hnone => hmissing ⟨hflags, hnone⟩)

/-- The first `n` bytes of the data are in the file, and the handle is behind them. -/
structure FileWritten (fd : SceUID) (path : CString) (pos n : Nat) (data : List UInt8)
    (w w' : World) : Prop where
  files : w'.files = Function.update w.files path
    (some (writeAt ((w.files path).getD []) pos (data.take n)))
  position : w'.file? fd = some (path, pos + n)
  same : SameDevices w w'

theorem sceIoWrite_refused (fd : SceUID) (data : List UInt8) (h : w.outcomes w.tick < 0) :
    sceIoWrite fd data w = (w.outcomes w.tick, { w with tick := w.tick + 1 }) := by
  unfold sceIoWrite World.outcome
  dsimp only
  rw [if_pos h]

theorem sceIoWrite_takes (data : List UInt8) {pos n : Nat} (hfd : w.file? fd = some (path, pos))
    (h : ¬ w.outcomes w.tick < 0) (hn : n = min data.length (w.outcomes w.tick).toNat) :
    ∃ w', sceIoWrite fd data w = ((n : Int), w') ∧ FileWritten fd path pos n data w w' := by
  have hfd' : World.file? { w with tick := w.tick + 1 } fd = some (path, pos) := hfd
  subst hn
  unfold sceIoWrite World.outcome
  dsimp only
  rw [if_neg h, hfd']
  refine ⟨_, rfl, rfl, ?_, ⟨rfl, rfl, rfl⟩⟩
  exact file?_update { w with tick := _, files := _ } (file?_valid hfd) _

theorem sceIoWrite_cases (fd : SceUID) (data : List UInt8) (w : World) :
    (∃ r < 0, sceIoWrite fd data w = (r, { w with tick := w.tick + 1 })) ∨
      ∃ path pos n w', w.file? fd = some (path, pos) ∧ n ≤ data.length ∧
        sceIoWrite fd data w = ((n : Int), w') ∧ FileWritten fd path pos n data w w' := by
  by_cases hneg : w.outcomes w.tick < 0
  · exact Or.inl ⟨_, hneg, sceIoWrite_refused fd data hneg⟩
  cases hfd : w.file? fd with
  | none =>
    left
    have hfd' : World.file? { w with tick := w.tick + 1 } fd = none := hfd
    unfold sceIoWrite World.outcome
    dsimp only
    rw [if_neg hneg, hfd']
    exact ⟨_, ebadf_neg, rfl⟩
  | some open' =>
    rcases open' with ⟨path, pos⟩
    rcases sceIoWrite_takes data hfd hneg rfl with ⟨w', hwrite, hwritten⟩
    exact Or.inr ⟨path, pos, _, w', rfl, Nat.min_le_left .., hwrite, hwritten⟩

/-- A read that is given all it asks for. -/
theorem sceIoRead_takes {size pos : Nat} {content : List UInt8}
    (hfd : w.file? fd = some (path, pos)) (hfile : w.files path = some content)
    (hr : ¬ w.outcomes w.tick < 0) (hall : size ≤ (w.outcomes w.tick).toNat) :
    ∃ w', sceIoRead fd size w = (.bytes ((content.drop pos).take size), w') ∧
      w'.file? fd = some (path, pos + min size (content.length - pos)) ∧
      w'.files = w.files ∧ SameDevices w w' ∧ w'.outcomes = w.outcomes ∧
      w'.tick = w.tick + 1 := by
  have hvalid := file?_valid hfd
  have hfd' : World.file? { w with tick := w.tick + 1 } fd = some (path, pos) := hfd
  have hwhole : min (min size (content.drop pos).length) (w.outcomes w.tick).toNat =
      min size (content.drop pos).length := by omega
  have htake : (content.drop pos).take (min size (content.drop pos).length) =
      (content.drop pos).take size := by
    rw [← List.take_take, List.take_length]
  unfold sceIoRead World.outcome
  dsimp only
  rw [dif_neg hr, hfd']
  dsimp only
  rw [hfile, Option.getD_some, hwhole, htake]
  refine ⟨_, rfl, ?_, rfl, ⟨rfl, rfl, rfl⟩, rfl, rfl⟩
  rw [← List.length_drop]
  exact file?_update { w with tick := w.tick + 1 } hvalid _

/-- No more is read than is asked for. -/
theorem sceIoRead_length_le {size : Nat} {data : List UInt8}
    (h : (sceIoRead fd size w).1 = .bytes data) : data.length ≤ size := by
  unfold sceIoRead World.outcome at h
  dsimp only at h
  split at h
  · cases h
  · split at h
    · cases h
    · cases h
      rw [List.length_take]
      omega

theorem sceIoLseek_cases (fd : SceUID) (offset : Nat) (w : World) :
    (∃ r < 0, sceIoLseek fd offset w = (r, { w with tick := w.tick + 1 })) ∨
      ∃ path pos w', w.file? fd = some (path, pos) ∧
        sceIoLseek fd offset w = ((offset : Int), w') ∧ w'.files = w.files ∧
        w'.file? fd = some (path, offset) ∧ SameDevices w w' := by
  unfold sceIoLseek World.outcome
  dsimp only
  by_cases hneg : w.outcomes w.tick < 0
  · rw [if_pos hneg]
    exact Or.inl ⟨_, hneg, rfl⟩
  · rw [if_neg hneg]
    cases hfd : w.file? fd with
    | none =>
      have hfd' : World.file? { w with tick := w.tick + 1 } fd = none := hfd
      rw [hfd']
      exact Or.inl ⟨_, ebadf_neg, rfl⟩
    | some open' =>
      rcases open' with ⟨path, pos⟩
      have hfd' : World.file? { w with tick := w.tick + 1 } fd = some (path, pos) := hfd
      rw [hfd']
      refine Or.inr ⟨path, pos, _, rfl, rfl, rfl, ?_, rfl, rfl, rfl⟩
      exact file?_update { w with tick := w.tick + 1 } (file?_valid hfd) _

end Files

/-! ## The network -/

/-- A packet is taken or refused whole; the outcome says which. -/
theorem sceNetSend_cases (socket : SceUID) (data : List UInt8) (w : World) :
    (w.outcomes w.tick < 0 ∧ (sceNetSend socket data w).1 < 0) ∨
      (0 ≤ w.outcomes w.tick ∧
        (sceNetSend socket data w).1 = (min data.length (w.outcomes w.tick).toNat : Nat) ∧
        (sceNetSend socket data w).2.outcomes = w.outcomes ∧
        (sceNetSend socket data w).2.tick = w.tick + 1 ∧
        SameDevices w (sceNetSend socket data w).2) := by
  unfold sceNetSend World.outcome
  dsimp only
  by_cases hneg : w.outcomes w.tick < 0
  · left
    rw [if_pos hneg]
    exact ⟨hneg, hneg⟩
  · right
    rw [if_neg hneg]
    exact ⟨not_lt.mp hneg, rfl, rfl, rfl, rfl, rfl, rfl⟩

theorem sceNetSend_whole (socket : SceUID) {data : List UInt8} {w : World}
    (h : (data.length : Int) ≤ w.outcomes w.tick) :
    ∃ w', sceNetSend socket data w = ((data.length : Int), w') ∧ w'.outcomes = w.outcomes ∧
      w'.tick = w.tick + 1 ∧ SameDevices w w' := by
  rcases sceNetSend_cases socket data w with
    ⟨hrefused, -⟩ | ⟨-, hsent, houtcomes, htick, hsame⟩
  · exact absurd hrefused (by omega)
  · rw [Nat.min_eq_left (by omega)] at hsent
    exact ⟨_, Prod.ext hsent rfl, houtcomes, htick, hsame⟩

end GcToolKit.App
