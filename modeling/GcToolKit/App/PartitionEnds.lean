import GcToolKit.App.TrimmedSize

/-!
# Partitions beyond 4 GiB (app/device.c, app/mbr.h)

`off` and `sz` are 32 bit integers, and so are their products with `SECTOR_SIZE`, which are
put into 64 bit variables only afterwards. From 2^23 sectors on a product loses its upper bits.

* `partitionEnd_le`, `partitionEnd_eq_iff` — an end comes out too small, or right;
* `lastPartitionEnd_eq_largestEnd_iff` — the largest is right when one that is largest is.
-/

namespace GcToolKit.App

/-- The entries that are not empty. -/
def usedPartitions (sector : List UInt8) : Finset Nat :=
  (Finset.range 0x10).filter fun i => (partition sector i).code ≠ 0

/-- Where the last partition ends, and 0 without any. -/
def largestEnd (sector : List UInt8) : Nat :=
  (usedPartitions sector).sup fun i => (partition sector i).endsAt

/-- Both products have 32 bits. -/
def ScePartiton.Below4GiB (p : ScePartiton) : Prop := p.off < 2 ^ 23 ∧ p.sz < 2 ^ 23

/-- No partition ends behind one whose products have 32 bits, if there are any. -/
def LastBelow4GiB (sector : List UInt8) : Prop :=
  usedPartitions sector = ∅ ∨
    ∃ i ∈ usedPartitions sector,
      (∀ j ∈ usedPartitions sector, (partition sector j).endsAt ≤ (partition sector i).endsAt) ∧
        (partition sector i).Below4GiB

theorem mem_usedPartitions {sector : List UInt8} {i : Nat} :
    i ∈ usedPartitions sector ↔ i < 0x10 ∧ (partition sector i).code ≠ 0 := by
  unfold usedPartitions
  rw [Finset.mem_filter, Finset.mem_range]

section Entry

variable {sector : List UInt8} {i : Nat} (h : (partition sector i).code ≠ 0)

include h

theorem partitionEnd_eq : partitionEnd sector i =
    (partition sector i).off * sectorSize % 2 ^ 32 +
      (partition sector i).sz * sectorSize % 2 ^ 32 := if_neg h

theorem partitionEnd_le : partitionEnd sector i ≤ (partition sector i).endsAt := by
  have hoff := Nat.mod_le ((partition sector i).off * sectorSize) (2 ^ 32)
  have hsz := Nat.mod_le ((partition sector i).sz * sectorSize) (2 ^ 32)
  rw [partitionEnd_eq h]
  unfold ScePartiton.endsAt
  rw [Nat.add_mul]
  exact Nat.add_le_add hoff hsz

/-- The end is right exactly where no product wraps around. -/
theorem partitionEnd_eq_iff :
    partitionEnd sector i = (partition sector i).endsAt ↔ (partition sector i).Below4GiB := by
  rw [partitionEnd_eq h]
  unfold ScePartiton.endsAt ScePartiton.Below4GiB sectorSize
  omega

end Entry

/-- Empty entries do not count. -/
theorem lastPartitionEnd_eq_sup {sector : List UInt8} (h : ValidMbr sector) :
    lastPartitionEnd sector = (usedPartitions sector).sup (partitionEnd sector) := by
  have hloop : lastPartitionEnd sector = (List.range 0x10).foldl
      (fun m i => if partitionEnd sector i > m then partitionEnd sector i else m) 0 := if_pos h
  have hmem (i : Nat) : i ∈ List.range 0x10 ↔ i ∈ Finset.range 0x10 := by
    rw [List.mem_range, Finset.mem_range]
  rw [hloop, Largest.foldl_larger_eq_sup (partitionEnd sector) hmem]
  apply Nat.le_antisymm
  · apply Finset.sup_le
    intro i hi
    by_cases hcode : (partition sector i).code = 0
    · rw [partitionEnd_empty hcode]
      exact Nat.zero_le _
    · exact Finset.le_sup (mem_usedPartitions.mpr ⟨Finset.mem_range.mp hi, hcode⟩)
  · exact Finset.sup_mono (Finset.filter_subset _ _)

/-- The loop finds the end of the last partition exactly where one that ends there has
products of 32 bits. -/
theorem lastPartitionEnd_eq_largestEnd_iff {sector : List UInt8} (h : ValidMbr sector) :
    lastPartitionEnd sector = largestEnd sector ↔ LastBelow4GiB sector := by
  have hle : ∀ i ∈ usedPartitions sector,
      partitionEnd sector i ≤ (partition sector i).endsAt := by
    intro i hi
    exact partitionEnd_le (mem_usedPartitions.mp hi).2
  rw [lastPartitionEnd_eq_sup h]
  unfold largestEnd LastBelow4GiB
  rw [Largest.sup_eq_sup_iff hle]
  apply or_congr_right
  constructor
  · rintro ⟨i, hi, hlargest, hsame⟩
    exact ⟨i, hi, hlargest, (partitionEnd_eq_iff (mem_usedPartitions.mp hi).2).mp hsame⟩
  · rintro ⟨i, hi, hlargest, hbelow⟩
    exact ⟨i, hi, hlargest, (partitionEnd_eq_iff (mem_usedPartitions.mp hi).2).mpr hbelow⟩

theorem lastPartitionEnd_eq_largestEnd_iff_sector :
    lastPartitionEnd mbrSector = largestEnd mbrSector ↔ LastBelow4GiB mbrSector :=
  lastPartitionEnd_eq_largestEnd_iff hasPartitions_mbrSector.1

/-- A partition of one sector that begins at 4 GiB. -/
def farSector : List UInt8 :=
  sceMbrMagic ++ [3, 0, 0, 0] ++ List.replicate 0x2C 0 ++ [0, 0, 0x80, 0, 1, 0, 0, 0, 3] ++
    List.replicate 0x1A7 0

theorem farSector_valid : ValidMbr farSector := ⟨by decide +kernel, by decide, by decide⟩

/-- It seems to end behind the first sector. -/
theorem not_lastPartitionEnd_farSector :
    ValidMbr farSector ∧ lastPartitionEnd farSector ≠ largestEnd farSector := by
  have hfound : lastPartitionEnd farSector = 0x200 := by
    rw [lastPartitionEnd_eq_sup farSector_valid]
    decide
  have hend : largestEnd farSector = 0x100000200 := by decide
  refine ⟨farSector_valid, ?_⟩
  rw [hfound, hend]
  decide

end GcToolKit.App
