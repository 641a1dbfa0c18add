import GcToolKit.App.Dump

/-!
# When the sizes are known

`setup_state` asks the kernel for sizes up to four times before anything is
opened, and every caller stops at the first error. `SizesAnswered` says of the
outcomes that none of these calls fails; the calls are counted, since whatever
is asked next draws the outcome behind them.
-/

namespace GcToolKit.App

open GcToolKit.Crypto GcToolKit.Cmd56 GcToolKit.Kern

variable {κ : Type} (sha : StreamHash κ (Bytes 0x20))

/-- The module runs, and the call behind that check does not fail. -/
def Answered (w : World) (t : Nat) : Prop := 0 < w.outcomes t ∧ 0 ≤ w.outcomes (t + 1)

instance (w : World) (t : Nat) : Decidable (Answered w t) := inferInstanceAs (Decidable (_ ∧ _))

/-- The size the partition table gives, where reading it comes to `r`. -/
def tableSize (dev : BlockDevice) (r : Int) : Nat :=
  if r < 0 then 0
  else lastPartitionEnd (dev.content.take (min (min sectorSize dev.content.length) (max 1 r.toNat)))

/-- `get_trimmed_size` from the call `t` on: the size is asked for once more where
there is a partition table. -/
def TrimmedAnswered (dev : BlockDevice) (w : World) (t : Nat) : Prop :=
  Answered w t ∧ (0 < tableSize dev (w.outcomes (t + 2)) → Answered w (t + 3))

/-- The calls of `get_trimmed_size`. -/
def trimmedCalls (dev : BlockDevice) (w : World) (t : Nat) : Nat :=
  if 0 < tableSize dev (w.outcomes (t + 2)) then 5 else 3

/-- `setup_state` for an image that is not trimmed, from the call `t` on: none of its calls
fails. -/
def SizesAnswered (dev : BlockDevice) (w : World) (t : Nat) : Prop :=
  Answered w t ∧ TrimmedAnswered dev w (t + 2) ∧
    Answered w (t + 2 + trimmedCalls dev w (t + 2))

/-- The calls of `setup_state` for such an image. -/
def setupCalls (dev : BlockDevice) (w : World) (t : Nat) : Nat :=
  2 + trimmedCalls dev w (t + 2) + 2

theorem Asked.answered {n : Nat} {w w' : World} (h : Asked n w w') (t : Nat) :
    Answered w' t ↔ Answered w t := by
  unfold Answered
  rw [h.outcomes]

theorem Asked.trimmedCalls {n : Nat} {w w' : World} (h : Asked n w w') (dev : BlockDevice)
    (t : Nat) : trimmedCalls dev w' t = trimmedCalls dev w t := by
  unfold App.trimmedCalls
  rw [h.outcomes]

theorem Asked.trimmedAnswered {n : Nat} {w w' : World} (h : Asked n w w') (dev : BlockDevice)
    (t : Nat) : TrimmedAnswered dev w' t ↔ TrimmedAnswered dev w t := by
  unfold TrimmedAnswered
  rw [h.answered, h.answered, h.outcomes]

theorem Asked.sizesAnswered {n : Nat} {w w' : World} (h : Asked n w w') (dev : BlockDevice)
    (t : Nat) : SizesAnswered dev w' t ↔ SizesAnswered dev w t := by
  unfold SizesAnswered
  rw [h.answered, h.answered, h.trimmedAnswered, h.trimmedCalls]

theorem Asked.setupCalls {n : Nat} {w w' : World} (h : Asked n w w') (dev : BlockDevice)
    (t : Nat) : setupCalls dev w' t = setupCalls dev w t := by
  unfold App.setupCalls
  rw [h.trimmedCalls]

/-! ## One size -/

theorem getDeviceSize_answered {device : CString} {dev : BlockDevice} {w : World} (size : Nat)
    (hdev : w.devices device = some dev) (h : Answered w w.tick) :
    ∃ res w', getDeviceSize device size w = (res, dev.content.length, w') ∧ 0 ≤ res ∧
      Asked 2 w w' := by
  rcases h with ⟨hstarted, hquery⟩
  unfold getDeviceSize isModuleStarted kGetDeviceSize World.outcome
  dsimp only
  rw [if_neg (by simpa using hstarted), if_neg (by omega), hdev]
  exact ⟨_, _, rfl, hquery, ⟨⟨rfl, rfl, rfl, rfl⟩, rfl, rfl⟩⟩

theorem getDeviceSize_unanswered (device : CString) (size : Nat) {w : World}
    (h : ∀ dev, w.devices device = some dev → ¬ Answered w w.tick) :
    (getDeviceSize device size w).1 < 0 := by
  rcases getDeviceSize_cases device size w with
    ⟨r, hneg, n, hcall⟩ | ⟨dev, hdev, hstarted, hquery, -⟩
  · rw [hcall]
    exact hneg
  · exact absurd ⟨hstarted, hquery⟩ (h dev hdev)

/-- The size of the partition table as it is read from the start of the device. -/
theorem kReadDevice_table {fd : SceUID} {w : World} {device : CString} {dev : BlockDevice}
    (hfd : w.device? fd = some (device, 0)) (hdev : w.devices device = some dev) :
    mbrDeviceSize (App.kReadDevice fd sectorSize w).1 = tableSize dev (w.outcomes w.tick) ∧
      Asked 1 w (App.kReadDevice fd sectorSize w).2 := by
  unfold tableSize
  by_cases hneg : w.outcomes w.tick < 0
  · rw [kReadDevice_refused fd sectorSize hneg, if_pos hneg]
    exact ⟨rfl, Asked.failed w⟩
  · rcases kReadDevice_takes sectorSize hfd hdev hneg rfl with ⟨w', hread, -, hasked⟩
    rw [hread, if_neg hneg]
    exact ⟨rfl, hasked⟩

/-- `get_trimmed_size` on a device that opens: the table is read, and where it has an
entry the size is asked for. -/
theorem getTrimmedSize_opens {device : CString} {dev : BlockDevice} {w : World} (size : Nat)
    (hdev : w.devices device = some dev) (h : Answered w w.tick) :
    ∃ w', Asked 3 w w' ∧ getTrimmedSize device size w =
      if tableSize dev (w.outcomes (w.tick + 2)) ≤ 0 then
        (0, tableSize dev (w.outcomes (w.tick + 2)), w')
      else getDeviceSize device size w' := by
  rcases h with ⟨hstarted, hopens⟩
  rcases isModuleStarted_started hstarted with ⟨w₁, hmodule, hasked₁⟩
  have hdev₁ : w₁.devices device = some dev := hasked₁.device hdev
  have hopens₁ : 0 ≤ w₁.outcomes w₁.tick := by
    rw [hasked₁.outcomes, hasked₁.tick]
    exact hopens
  rcases kOpenDevice_opens (oRdonly ||| oRdlock) hdev₁ hopens₁ with ⟨w₂, hopen, hfd₂, hasked₂⟩
  have hasked₁₂ := hasked₁.trans hasked₂
  have hdev₂ : w₂.devices device = some dev := hasked₁₂.device hdev
  rcases kReadDevice_table hfd₂ hdev₂ with ⟨htable, hasked₃⟩
  rw [hasked₁₂.tick, hasked₁₂.outcomes] at htable
  refine ⟨_, (hasked₁₂.trans hasked₃).trans (kCloseDevice_asked (w₁.outcomes w₁.tick) _), ?_⟩
  unfold getTrimmedSize
  rw [hmodule]
  dsimp only
  rw [if_neg (by decide), hopen]
  dsimp only
  rw [if_neg (not_lt.mpr hopens₁), htable]

theorem getTrimmedSize_answered {device : CString} {dev : BlockDevice} {w : World} (size : Nat)
    (hdev : w.devices device = some dev) (h : TrimmedAnswered dev w w.tick) :
    ∃ res size' w', getTrimmedSize device size w = (res, size', w') ∧ 0 ≤ res ∧
      Asked (trimmedCalls dev w w.tick) w w' := by
  rcases h with ⟨hopens, hagain⟩
  rcases getTrimmedSize_opens size hdev hopens with ⟨w₃, hasked, heq⟩
  rw [heq]
  unfold trimmedCalls
  by_cases hentry : 0 < tableSize dev (w.outcomes (w.tick + 2))
  · rw [if_pos hentry, if_neg (by omega)]
    have hdev₃ : w₃.devices device = some dev := hasked.device hdev
    have hquery : Answered w₃ w₃.tick := by
      rw [hasked.answered, hasked.tick]
      exact hagain hentry
    rcases getDeviceSize_answered size hdev₃ hquery with ⟨res, w', hsize, hres, hasked'⟩
    exact ⟨res, _, w', hsize, hres, hasked.trans hasked'⟩
  · rw [if_neg hentry, if_pos (by omega)]
    exact ⟨0, _, w₃, rfl, Int.le_refl 0, hasked⟩

theorem getTrimmedSize_unanswered (device : CString) (size : Nat) {w : World}
    (h : ∀ dev, w.devices device = some dev → ¬ TrimmedAnswered dev w w.tick) :
    (getTrimmedSize device size w).1 < 0 := by
  by_cases hopens : ∃ dev, w.devices device = some dev ∧ Answered w w.tick
  · rcases hopens with ⟨dev, hdev, hopens⟩
    rcases getTrimmedSize_opens size hdev hopens with ⟨w₃, hasked, heq⟩
    rw [heq]
    -- what is left to fail is the size asked for behind the table
    have hentry : 0 < tableSize dev (w.outcomes (w.tick + 2)) ∧ ¬ Answered w (w.tick + 3) := by
      by_contra hnot
      refine h dev hdev ⟨hopens, fun hpos => ?_⟩
      by_contra hquery
      exact hnot ⟨hpos, hquery⟩
    rw [if_neg (by omega)]
    apply getDeviceSize_unanswered
    intro dev' _
    rw [hasked.answered, hasked.tick]
    exact hentry.2
  · have hfailed : kernelModuleFailedStart < 0 := by decide
    unfold getTrimmedSize
    by_cases hstarted : 0 < w.outcomes w.tick
    · rcases isModuleStarted_started hstarted with ⟨w₁, hmodule, hasked⟩
      rw [hmodule]
      dsimp only
      rw [if_neg (by decide)]
      rcases kOpenDevice_cases device (oRdonly ||| oRdlock) w₁ with
        ⟨r, hneg, hopen⟩ | ⟨dev, w₂, hdev, hopened, -⟩
      · rw [hopen]
        dsimp only
        rw [if_pos hneg]
        exact hneg
      · rw [hasked.same.devices] at hdev
        rw [hasked.outcomes, hasked.tick] at hopened
        exact absurd ⟨dev, hdev, hstarted, hopened⟩ hopens
    · unfold isModuleStarted World.outcome
      dsimp only
      rw [if_pos (by simpa using hstarted)]
      exact hfailed

/-! ## All sizes -/

/-- The handles are 0 after the `memset`, also where nothing was opened. -/
theorem setupState_handles (device path : CString) (format : BackupFormat)
    (keys : Option Cmd56Keys) (netInfo : Option NetworkInfo) (w : World) :
    (setupState sha device path format keys netInfo w).2.1.rdFd = 0 ∧
      (setupState sha device path format keys netInfo w).2.1.wrFd = 0 := by
  unfold setupState BackupState.start
  dsimp only
  split
  · exact ⟨rfl, rfl⟩
  · split
    · exact ⟨rfl, rfl⟩
    · split
      · exact ⟨rfl, rfl⟩
      · exact ⟨rfl, rfl⟩

/-- A format that is not trimmed asks for the device size once more. -/
theorem getEffectiveSize_answered {device : CString} {format : BackupFormat} {dev : BlockDevice}
    {w : World} (hfull : fmtIsTrim format = false) (size : Nat)
    (hdev : w.devices device = some dev) (h : Answered w w.tick) :
    ∃ res w', getEffectiveSize device format size w =
        (res, getHeaderSize format + dev.content.length, w') ∧ 0 ≤ res ∧ Asked 2 w w' := by
  rcases getDeviceSize_answered size hdev h with ⟨res, w', hsize, hres, hasked⟩
  refine ⟨res, w', ?_, hres, hasked⟩
  have hlt := dev.size_lt
  unfold getEffectiveSize
  dsimp only
  cases format with
  | vci | psv =>
    rw [hsize]
    unfold addU64 getHeaderSize
    dsimp only
    rw [Nat.mod_eq_of_lt (by omega), Nat.add_comm]
  | raw =>
    have hnone : getHeaderSize .raw + dev.content.length = dev.content.length := Nat.zero_add _
    rw [hnone]
    exact hsize
  | vciTrim | psvTrim => cases hfull

theorem setupState_full {device : CString} (path : CString) {format : BackupFormat}
    {dev : BlockDevice} {w : World} (hfull : fmtIsTrim format = false) (keys : Option Cmd56Keys)
    (netInfo : Option NetworkInfo) (hdev : w.devices device = some dev)
    (h : SizesAnswered dev w w.tick) :
    ∃ res state w', setupState sha device path format keys netInfo w = (res, state, w') ∧ 0 ≤ res ∧
      state.total = 0 ∧ state.effectiveSize = getHeaderSize format + dev.content.length ∧
      state.headerSize = getHeaderSize format ∧ Asked (setupCalls dev w w.tick) w w' := by
  rcases h with ⟨hsize, htrimmed, heffective⟩
  -- the device size, the trimmed size, and the device size again
  rcases getDeviceSize_answered 0 hdev hsize with ⟨res₁, w₁, heq₁, hres₁, hasked₁⟩
  have hdev₁ : w₁.devices device = some dev := hasked₁.device hdev
  have htrimmed₁ : TrimmedAnswered dev w₁ w₁.tick := by
    rw [hasked₁.trimmedAnswered, hasked₁.tick]
    exact htrimmed
  rcases getTrimmedSize_answered 0 hdev₁ htrimmed₁ with
    ⟨res₂, size₂, w₂, heq₂, hres₂, hasked₂⟩
  rw [hasked₁.trimmedCalls, hasked₁.tick] at hasked₂
  have hasked₁₂ := hasked₁.trans hasked₂
  have hdev₂ : w₂.devices device = some dev := hasked₁₂.device hdev
  have heffective₂ : Answered w₂ w₂.tick := by
    rw [hasked₁₂.answered, hasked₁₂.tick, ← Nat.add_assoc]
    exact heffective
  rcases getEffectiveSize_answered hfull 0 hdev₂ heffective₂ with
    ⟨res₃, w₃, heq₃, hres₃, hasked₃⟩
  unfold setupState BackupState.start
  dsimp only
  rw [heq₁]
  dsimp only
  rw [if_neg (by omega), heq₂]
  dsimp only
  rw [if_neg (by omega), heq₃]
  dsimp only
  rw [if_neg (by omega)]
  exact ⟨res₃, _, w₃, rfl, hres₃, rfl, rfl, rfl, hasked₁₂.trans hasked₃⟩

theorem setupState_answered {device : CString} (path : CString) {dev : BlockDevice} {w : World}
    (hdev : w.devices device = some dev) (h : SizesAnswered dev w w.tick) :
    ∃ res state w', setupState sha device path .raw none none w = (res, state, w') ∧ 0 ≤ res ∧
      state.total = 0 ∧ state.effectiveSize = dev.content.length ∧ state.headerSize = 0 ∧
      Asked (setupCalls dev w w.tick) w w' := by
  rcases setupState_full sha path (show fmtIsTrim .raw = false from rfl) none none hdev h with
    ⟨res, state, w', heq, hres, htotal, heffective, hheader, hasked⟩
  exact ⟨res, state, w', heq, hres, htotal, heffective.trans (Nat.zero_add _), hheader, hasked⟩

theorem setupState_unanswered (device path : CString) {w : World}
    (h : ∀ dev, w.devices device = some dev → ¬ SizesAnswered dev w w.tick) :
    (setupState sha device path .raw none none w).1 < 0 := by
  unfold setupState getEffectiveSize BackupState.start
  dsimp only
  by_cases hsize : ∃ dev, w.devices device = some dev ∧ Answered w w.tick
  · rcases hsize with ⟨dev, hdev, hsize⟩
    rcases getDeviceSize_answered 0 hdev hsize with ⟨res₁, w₁, heq₁, hres₁, hasked₁⟩
    have hdev₁ : w₁.devices device = some dev := hasked₁.device hdev
    rw [heq₁]
    dsimp only
    rw [if_neg (by omega)]
    by_cases htrimmed : TrimmedAnswered dev w₁ w₁.tick
    · -- the first two sizes are answered, so the third one is not
      rcases getTrimmedSize_answered 0 hdev₁ htrimmed with
        ⟨res₂, size₂, w₂, heq₂, hres₂, hasked₂⟩
      have hasked₁₂ := hasked₁.trans hasked₂
      rw [heq₂]
      dsimp only
      rw [if_neg (by omega)]
      have heffective : ∀ dev', w₂.devices device = some dev' → ¬ Answered w₂ w₂.tick := by
        intro dev' _ hanswered
        rw [hasked₁.trimmedAnswered, hasked₁.tick] at htrimmed
        rw [hasked₁.trimmedCalls, hasked₁.tick] at hasked₁₂
        rw [hasked₁₂.answered, hasked₁₂.tick, ← Nat.add_assoc] at hanswered
        exact h dev hdev ⟨hsize, htrimmed, hanswered⟩
      have hneg := getDeviceSize_unanswered device 0 heffective
      generalize getDeviceSize device 0 w₂ = asked at hneg ⊢
      rw [if_pos hneg]
      exact hneg
    · have hneg : (getTrimmedSize device 0 w₁).1 < 0 := by
        apply getTrimmedSize_unanswered
        intro dev' hdev'
        rw [hdev₁] at hdev'
        cases hdev'
        exact htrimmed
      generalize getTrimmedSize device 0 w₁ = asked at hneg ⊢
      rw [if_pos hneg]
      exact hneg
  · have hneg : (getDeviceSize device 0 w).1 < 0 := by
      apply getDeviceSize_unanswered
      intro dev hdev hanswered
      exact hsize ⟨dev, hdev, hanswered⟩
    generalize getDeviceSize device 0 w = asked at hneg ⊢
    rw [if_pos hneg]
    exact hneg

end GcToolKit.App
