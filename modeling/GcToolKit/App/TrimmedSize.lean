import Mathlib.Order.Bounds.Basic
import GcToolKit.App.Backup
import GcToolKit.App.Setup
import GcToolKit.Lib.Largest

/-!
# The size of a trimmed backup (app/device.c, app/mbr.h)

A trimmed backup ends where the last partition ends. `get_trimmed_size` computes
that end, but the test behind the loop is the wrong way round: the end that was
found is dropped for the size of the device, and where none was found the 0 it
began with is stored.

`IsTrimmedSize` says what should be stored. The largest end is computed correctly
(`isGreatest_lastPartitionEnd`), so that the result is right exactly where the two
sizes coincide.
-/

namespace GcToolKit.App

open GcToolKit.Crypto GcToolKit.Cmd56
open GcToolKit.Kern (AuthEmu)

/-! ## Partition tables -/

/-- The members of `ScePartiton` that count for the size. -/
structure ScePartiton where
  off : Nat
  sz : Nat
  code : Nat

/-- `mbr.partitions[i]` -/
def partition (mbr : List UInt8) (i : Nat) : ScePartiton where
  off := mbrInt mbr (0x50 + 0x11 * i) 4
  sz := mbrInt mbr (0x54 + 0x11 * i) 4
  code := mbrInt mbr (0x58 + 0x11 * i) 1

/-- Where a partition ends on the device, in bytes. -/
def ScePartiton.endsAt (p : ScePartiton) : Nat := (p.off + p.sz) * sectorSize

/-- A whole sector, with the magic and the version. -/
def ValidMbr (sector : List UInt8) : Prop :=
  sector.length = sectorSize ∧ sector.take 0x20 = sceMbrMagic ∧ mbrInt sector 0x20 4 = 0x03

/-- The ends of the partitions that are not empty. -/
def usedEnds (sector : List UInt8) : Set Nat :=
  {e | ∃ i < 0x10, (partition sector i).code ≠ 0 ∧ e = (partition sector i).endsAt}

def HasPartitions (sector : List UInt8) : Prop := ValidMbr sector ∧ (usedEnds sector).Nonempty

/-- The end of the last partition, and without one the size of the device. -/
def IsTrimmedSize (sector : List UInt8) (deviceSize size : Nat) : Prop :=
  (HasPartitions sector → IsGreatest (usedEnds sector) size) ∧
    (¬ HasPartitions sector → size = deviceSize)

/-- The partitions end within the device and below 4 GiB. -/
def PartitionsFit (sector : List UInt8) (deviceSize : Nat) : Prop :=
  ValidMbr sector → ∀ e ∈ usedEnds sector, e ≤ deviceSize ∧ e < 2 ^ 32

/-! ## The largest end -/

theorem partitionEnd_empty {sector : List UInt8} {i : Nat}
    (h : (partition sector i).code = 0) : partitionEnd sector i = 0 := by
  unfold partitionEnd
  exact if_pos h

/-- Below 4 GiB the 32 bit products do not wrap. -/
theorem partitionEnd_used {sector : List UInt8} {i : Nat}
    (h : (partition sector i).code ≠ 0) (hfits : (partition sector i).endsAt < 2 ^ 32) :
    partitionEnd sector i = (partition sector i).endsAt := by
  have hend : partitionEnd sector i = (partition sector i).off * sectorSize % 2 ^ 32 +
      (partition sector i).sz * sectorSize % 2 ^ 32 := if_neg h
  unfold ScePartiton.endsAt at hfits ⊢
  rw [Nat.add_mul] at hfits ⊢
  rw [hend, Nat.mod_eq_of_lt (by omega), Nat.mod_eq_of_lt (by omega)]

theorem lastPartitionEnd_valid {sector : List UInt8} (h : ValidMbr sector) :
    (∀ i < 0x10, partitionEnd sector i ≤ lastPartitionEnd sector) ∧
      (lastPartitionEnd sector = 0 ∨
        ∃ i < 0x10, lastPartitionEnd sector = partitionEnd sector i) := by
  rcases Largest.foldl_larger (partitionEnd sector) (List.range 0x10) 0 with ⟨-, hall, hfound⟩
  have hlast : lastPartitionEnd sector = (List.range 0x10).foldl
      (fun m i => if partitionEnd sector i > m then partitionEnd sector i else m) 0 := if_pos h
  rw [hlast]
  constructor
  · intro i hi
    exact hall i (List.mem_range.mpr hi)
  · rcases hfound with hzero | ⟨i, hi, heq⟩
    · exact Or.inl hzero
    · exact Or.inr ⟨i, List.mem_range.mp hi, heq⟩

theorem isGreatest_lastPartitionEnd {sector : List UInt8} {deviceSize : Nat}
    (h : HasPartitions sector) (hfit : PartitionsFit sector deviceSize) :
    IsGreatest (usedEnds sector) (lastPartitionEnd sector) := by
  rcases h with ⟨hvalid, hused⟩
  rcases lastPartitionEnd_valid hvalid with ⟨hall, hfound⟩
  have hupper : lastPartitionEnd sector ∈ upperBounds (usedEnds sector) := by
    rintro e ⟨i, hi, hcode, rfl⟩
    have hend := partitionEnd_used hcode (hfit hvalid _ ⟨i, hi, hcode, rfl⟩).2
    rw [← hend]
    exact hall i hi
  refine ⟨?_, hupper⟩
  by_cases hzero : lastPartitionEnd sector = 0
  · -- a partition there is ends at 0 too
    rcases hused with ⟨e, he⟩
    have hle := hupper he
    rw [hzero] at hle ⊢
    rw [← Nat.le_zero.mp hle]
    exact he
  · rcases hfound with heq | ⟨i, hi, heq⟩
    · exact absurd heq hzero
    · have hcode : (partition sector i).code ≠ 0 := by
        intro hempty
        rw [partitionEnd_empty hempty] at heq
        exact hzero heq
      refine ⟨i, hi, hcode, ?_⟩
      rw [heq]
      exact partitionEnd_used hcode (hfit hvalid _ ⟨i, hi, hcode, rfl⟩).2

theorem lastPartitionEnd_none {sector : List UInt8} (h : ¬ HasPartitions sector) :
    lastPartitionEnd sector = 0 := by
  by_cases hvalid : ValidMbr sector
  · -- a table of empty entries
    rcases lastPartitionEnd_valid hvalid with ⟨-, hzero | ⟨i, hi, heq⟩⟩
    · exact hzero
    · rw [heq]
      apply partitionEnd_empty
      by_contra hcode
      exact h ⟨hvalid, _, i, hi, hcode, rfl⟩
  · unfold lastPartitionEnd
    exact if_neg hvalid

/-! ## get_trimmed_size -/

/-- What reading the first sector gives, where the outcome of the read is `r`. -/
def firstSector (dev : BlockDevice) (r : Int) : List UInt8 :=
  if r < 0 then []
  else dev.content.take (min (min sectorSize dev.content.length) (max 1 r.toNat))

theorem tableSize_eq (dev : BlockDevice) (r : Int) :
    tableSize dev r = lastPartitionEnd (firstSector dev r) := by
  have hnothing : lastPartitionEnd [] = 0 := by decide
  unfold tableSize firstSector
  split
  · exact hnothing.symm
  · rfl

/-- Where no call fails the end that was found is stored if it is 0, and the size of
the device if it is not. -/
theorem getTrimmedSize_stores {device : CString} {dev : BlockDevice} {w : World} (size : Nat)
    (hdev : w.devices device = some dev) (h : TrimmedAnswered dev w w.tick) :
    (getTrimmedSize device size w).2.1 =
      if lastPartitionEnd (firstSector dev (w.outcomes (w.tick + 2))) = 0 then 0
      else dev.content.length := by
  rcases h with ⟨hopens, hagain⟩
  rcases getTrimmedSize_opens size hdev hopens with ⟨w₃, hasked, heq⟩
  rw [heq, ← tableSize_eq]
  by_cases hzero : tableSize dev (w.outcomes (w.tick + 2)) = 0
  · rw [if_pos (Nat.le_zero.mpr hzero), if_pos hzero]
    exact hzero
  · rw [if_neg (by omega), if_neg hzero]
    have hquery : Answered w₃ w₃.tick := by
      rw [hasked.answered, hasked.tick]
      exact hagain (Nat.pos_of_ne_zero hzero)
    rcases getDeviceSize_answered size (hasked.device hdev) hquery with ⟨res, w', hcall, -⟩
    rw [hcall]

theorem trimmedAnswered_of_returns {device : CString} {dev : BlockDevice} {w : World} {size : Nat}
    (hdev : w.devices device = some dev) (hres : 0 ≤ (getTrimmedSize device size w).1) :
    TrimmedAnswered dev w w.tick := by
  by_contra hfails
  have hneg : (getTrimmedSize device size w).1 < 0 := by
    apply getTrimmedSize_unanswered
    intro dev' hdev'
    rw [hdev] at hdev'
    cases hdev'
    exact hfails
  omega

/-- The branch that is taken makes no difference: the last partition ends where the device
does, or all of them end at 0, or there are none and the device is empty. -/
def SizesCoincide (sector : List UInt8) (deviceSize : Nat) : Prop :=
  (HasPartitions sector ∧ (deviceSize ∈ usedEnds sector ∨ ∀ e ∈ usedEnds sector, e = 0)) ∨
    (¬ HasPartitions sector ∧ deviceSize = 0)

/-- The size of the device in place of the end that was found, and 0 in place of none. -/
theorem isTrimmedSize_stored {sector : List UInt8} {deviceSize : Nat}
    (hfit : PartitionsFit sector deviceSize) :
    IsTrimmedSize sector deviceSize (if lastPartitionEnd sector = 0 then 0 else deviceSize) ↔
      SizesCoincide sector deviceSize := by
  unfold IsTrimmedSize SizesCoincide
  by_cases hpartitions : HasPartitions sector
  · have hgreatest := isGreatest_lastPartitionEnd hpartitions hfit
    have hwithin : deviceSize ∈ upperBounds (usedEnds sector) := by
      intro e he
      exact (hfit hpartitions.1 e he).1
    constructor
    · rintro ⟨hsize, -⟩
      left
      refine ⟨hpartitions, ?_⟩
      have hstored := hsize hpartitions
      by_cases hzero : lastPartitionEnd sector = 0
      · -- nothing is behind 0
        right
        intro e he
        have hle := hgreatest.2 he
        rw [hzero] at hle
        exact Nat.le_zero.mp hle
      · left
        rw [if_neg hzero] at hstored
        exact hstored.1
    · rintro (⟨-, hwhole | hempty⟩ | ⟨hnone, -⟩)
      · -- the last partition ends at the end of the device
        refine ⟨fun _ => ?_, fun hnone => absurd hpartitions hnone⟩
        have heq : lastPartitionEnd sector = deviceSize :=
          hgreatest.unique ⟨hwhole, hwithin⟩
        split
        · next hzero =>
          rw [← hzero]
          exact hgreatest
        · exact ⟨hwhole, hwithin⟩
      · refine ⟨fun _ => ?_, fun hnone => absurd hpartitions hnone⟩
        have hzero := hempty _ hgreatest.1
        rw [if_pos hzero]
        rw [hzero] at hgreatest
        exact hgreatest
      · exact absurd hpartitions hnone
  · rw [if_pos (lastPartitionEnd_none hpartitions)]
    constructor
    · rintro ⟨-, hsize⟩
      exact Or.inr ⟨hpartitions, (hsize hpartitions).symm⟩
    · rintro (⟨hhas, -⟩ | ⟨-, hempty⟩)
      · exact absurd hhas hpartitions
      · exact ⟨fun hhas => absurd hhas hpartitions, fun _ => hempty.symm⟩

/-- A `get_trimmed_size` that succeeds stores the end of the last partition, or without one
the size of the device, exactly where its test makes no difference. -/
theorem getTrimmedSize_isTrimmedSize_iff {device : CString} {dev : BlockDevice} {w : World}
    {size : Nat} (hdev : w.devices device = some dev)
    (hres : 0 ≤ (getTrimmedSize device size w).1)
    (hfit : PartitionsFit (firstSector dev (w.outcomes (w.tick + 2))) dev.content.length) :
    IsTrimmedSize (firstSector dev (w.outcomes (w.tick + 2))) dev.content.length
        (getTrimmedSize device size w).2.1 ↔
      SizesCoincide (firstSector dev (w.outcomes (w.tick + 2))) dev.content.length := by
  rw [getTrimmedSize_stores size hdev (trimmedAnswered_of_returns hdev hres)]
  exact isTrimmedSize_stored hfit

/-! ## One partition of one sector -/

/-- A sector of a valid table; the first partition is the sector itself. -/
def mbrSector : List UInt8 :=
  sceMbrMagic ++ [3, 0, 0, 0] ++ List.replicate 0x2C 0 ++ [0, 0, 0, 0, 1, 0, 0, 0, 3] ++
    List.replicate 0x1A7 0

theorem length_mbrSector : mbrSector.length = 0x200 := by decide +kernel

/-- The sector with `n` bytes behind it. -/
def mbrDevice (n : UInt16) : BlockDevice where
  content := mbrSector ++ List.replicate n.toNat 0
  size_lt := by
    have hlt := n.toNat_lt
    rw [List.length_append, length_mbrSector, List.length_replicate]
    omega

/-- Every call succeeds, and every device is this one. -/
def mbrWorld (dev : BlockDevice) : World := { willingWorld with devices := fun _ => some dev }

theorem length_mbrDevice (n : UInt16) : (mbrDevice n).content.length = 0x200 + n.toNat := by
  unfold mbrDevice
  dsimp only
  rw [List.length_append, length_mbrSector, List.length_replicate]

theorem usedEnds_mbrSector : usedEnds mbrSector = {0x200} := by
  have hfirst : (partition mbrSector 0).code ≠ 0 ∧ 0x200 = (partition mbrSector 0).endsAt := by
    decide
  have hothers : ∀ i < 0x10, (partition mbrSector i).code ≠ 0 →
      (partition mbrSector i).endsAt = 0x200 := by
    decide
  apply Set.eq_singleton_iff_unique_mem.mpr
  constructor
  · exact ⟨0, by omega, hfirst⟩
  · rintro e ⟨i, hi, hcode, rfl⟩
    exact hothers i hi hcode

theorem hasPartitions_mbrSector : HasPartitions mbrSector := by
  constructor
  · exact ⟨length_mbrSector, by decide, by decide⟩
  · rw [usedEnds_mbrSector]
    exact Set.singleton_nonempty _

theorem partitionsFit_mbrSector {deviceSize : Nat} (h : 0x200 ≤ deviceSize) :
    PartitionsFit mbrSector deviceSize := by
  intro _ e he
  rw [usedEnds_mbrSector] at he
  rw [Set.mem_singleton_iff.mp he]
  exact ⟨h, by decide⟩

theorem firstSector_mbrDevice (n : UInt16) :
    firstSector (mbrDevice n) ((mbrWorld (mbrDevice n)).outcomes 2) = mbrSector := by
  have houtcome : (mbrWorld (mbrDevice n)).outcomes 2 = 0x20000 := rfl
  have hlen : min (min sectorSize (mbrDevice n).content.length) (max 1 (0x20000 : Int).toNat) =
      mbrSector.length := by
    rw [length_mbrDevice, length_mbrSector]
    unfold sectorSize
    omega
  rw [houtcome]
  unfold firstSector
  rw [if_neg (by decide), hlen]
  exact List.take_left

theorem mbrWorld_answered (dev : BlockDevice) : TrimmedAnswered dev (mbrWorld dev) 0 := by
  have hanswered : ∀ t, Answered (mbrWorld dev) t := by
    intro t
    have houtcome : ∀ i, (mbrWorld dev).outcomes i = 0x20000 := fun _ => rfl
    unfold Answered
    rw [houtcome, houtcome]
    omega
  exact ⟨hanswered 0, fun _ => hanswered 3⟩

theorem getTrimmedSize_mbrWorld_succeeds (dev : BlockDevice) :
    0 ≤ (getTrimmedSize gcdName 0 (mbrWorld dev)).1 := by
  have hdev : (mbrWorld dev).devices gcdName = some dev := rfl
  rcases getTrimmedSize_answered 0 hdev (mbrWorld_answered dev) with
    ⟨res, size, w', hcall, hres, -⟩
  rw [hcall]
  exact hres

/-- Nothing is behind the partition: the size of the device is its end. -/
theorem getTrimmedSize_isTrimmedSize_sector :
    IsTrimmedSize mbrSector 0x200 (getTrimmedSize gcdName 0 (mbrWorld (mbrDevice 0))).2.1 := by
  have hsector := firstSector_mbrDevice 0
  have hlength : (mbrDevice 0).content.length = 0x200 := length_mbrDevice 0
  have hfit := partitionsFit_mbrSector (Nat.le_refl 0x200)
  have hend : 0x200 ∈ usedEnds mbrSector := by
    rw [usedEnds_mbrSector]
    exact Set.mem_singleton _
  rw [← hsector, ← hlength] at hfit
  have hdev : (mbrWorld (mbrDevice 0)).devices gcdName = some (mbrDevice 0) := rfl
  have hiff := getTrimmedSize_isTrimmedSize_iff hdev (getTrimmedSize_mbrWorld_succeeds _) hfit
  have hwhole : SizesCoincide mbrSector 0x200 := Or.inl ⟨hasPartitions_mbrSector, Or.inl hend⟩
  rw [← hsector, ← hlength] at hwhole
  have hright := hiff.mpr hwhole
  rw [← hlength, ← hsector]
  exact hright

/-- Behind the partition there is another sector, which the size stored takes in. -/
theorem not_isTrimmedSize_twoSectors :
    0 ≤ (getTrimmedSize gcdName 0 (mbrWorld (mbrDevice 0x200))).1 ∧
      PartitionsFit mbrSector 0x400 ∧
      ¬ IsTrimmedSize mbrSector 0x400
        (getTrimmedSize gcdName 0 (mbrWorld (mbrDevice 0x200))).2.1 := by
  have hlength : (mbrDevice 0x200).content.length = 0x400 := length_mbrDevice 0x200
  have hfit := partitionsFit_mbrSector (show 0x200 ≤ 0x400 by omega)
  refine ⟨getTrimmedSize_mbrWorld_succeeds _, hfit, ?_⟩
  have hstored : (getTrimmedSize gcdName 0 (mbrWorld (mbrDevice 0x200))).2.1 =
      if lastPartitionEnd mbrSector = 0 then 0 else 0x400 := by
    rw [← firstSector_mbrDevice 0x200, ← hlength]
    exact getTrimmedSize_stores 0 rfl (mbrWorld_answered _)
  rw [hstored, isTrimmedSize_stored hfit]
  unfold SizesCoincide
  rw [usedEnds_mbrSector]
  rintro (⟨-, hwhole | hempty⟩ | ⟨hnone, -⟩)
  · exact absurd (Set.mem_singleton_iff.mp hwhole) (by decide)
  · exact absurd (hempty 0x200 (Set.mem_singleton _)) (by decide)
  · exact hnone hasPartitions_mbrSector

end GcToolKit.App
