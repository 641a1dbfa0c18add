import GcToolKit.App.Sfo

/-!
# What is read of an SFO file in memory (app/sfo.c)

The table is checked to be inside the buffer as a whole, but of a name or a value only the
start is, which may even be the end of the buffer. The copy goes on until a terminator, or
for 63 bytes.

* `forall_readKeysReads_iff` — what is read in the loop is read at an entry it comes to;
* `readSfoKeyReads_inside_iff` — all of it is in the buffer exactly if the strings are, as far as
  they are copied.
-/

namespace GcToolKit.App

open CMemory

/-- A copy of up to 63 bytes ends in the file. -/
def CopyFits (data : List UInt8) (off : Nat) : Prop :=
  off + keyCopied ≤ data.length ∨ 0 ∈ data.drop off

namespace SfoSearch

/-- The copies of the strings that the loop comes to, and does not refuse, end in the file. -/
def CopiesFit (s : SfoSearch) : Prop :=
  ∀ i, s.Reaches i → (s.entry i).type = psfTypeStr →
    (s.header.nameOffset (s.entry i)).toNat ≤ s.data.length →
    (s.header.dataOffset (s.entry i)).toNat ≤ s.data.length →
    CopyFits s.data (s.header.nameOffset (s.entry i)).toNat ∧
      CopyFits s.data (s.header.dataOffset (s.entry i)).toNat

variable {s : SfoSearch}

/-- In the buffer, by its offset. -/
def Inside (s : SfoSearch) (a : Int) : Prop := 0 ≤ a ∧ a < s.data.length

theorem strncpyReads_inside_iff (off : Nat) :
    (∀ a ∈ strncpyReads s.sfoBuffer off keyCopied, s.Inside a) ↔ CopyFits s.data off := by
  have hcopied : 0 < keyCopied := by decide
  have hstore := strncpyReads_store_iff s.mem.around 0 s.data off hcopied
  rw [Int.zero_add, Int.zero_add] at hstore
  refine Iff.trans ⟨fun h a ha => (h a ha).2, fun h a ha => ⟨?_, h a ha⟩⟩ hstore
  have hle := le_of_mem_strncpyReads a ha
  omega

theorem visitReads_inside_iff {i : Nat} (h : s.Reaches i) :
    (∀ a ∈ s.visitReads (sfoPtr i), s.Inside a) ↔
      ((s.entry i).type = psfTypeStr →
        (s.header.nameOffset (s.entry i)).toNat ≤ s.data.length →
        (s.header.dataOffset (s.entry i)).toNat ≤ s.data.length →
        CopyFits s.data (s.header.nameOffset (s.entry i)).toNat ∧
          CopyFits s.data (s.header.dataOffset (s.entry i)).toNat) := by
  -- the check of the table has covered the entry itself
  have hroom := h.entry_inside
  have hptr : ¬ (sfoPtr i).toNat > s.data.length := by omega
  have htable : ∀ a ∈ (List.range sizeofSfoKey).map
      (fun k => (((sfoPtr i).toNat + k : Nat) : Int)), s.Inside a := by
    intro a ha
    rcases List.mem_map.mp ha with ⟨k, hk, rfl⟩
    have hlt := List.mem_range.mp hk
    exact ⟨Int.natCast_nonneg _, Int.ofNat_lt.mpr (by omega)⟩
  unfold visitReads
  rw [if_neg hptr, List.forall_mem_append, and_iff_right htable]
  change (∀ a ∈ if (s.entry i).type ≠ psfTypeStr then [] else _, s.Inside a) ↔ _
  by_cases hstr : (s.entry i).type = psfTypeStr
  · rw [if_neg (not_not.mpr hstr), forall_prop_of_true hstr]
    change (∀ a ∈ if (s.header.nameOffset (s.entry i)).toNat > s.data.length then [] else _,
      s.Inside a) ↔ _
    by_cases hname : (s.header.nameOffset (s.entry i)).toNat ≤ s.data.length
    · rw [if_neg (Nat.not_lt.mpr hname), forall_prop_of_true hname]
      change (∀ a ∈ if (s.header.dataOffset (s.entry i)).toNat > s.data.length then [] else _,
        s.Inside a) ↔ _
      by_cases hdata : (s.header.dataOffset (s.entry i)).toNat ≤ s.data.length
      · rw [if_neg (Nat.not_lt.mpr hdata), forall_prop_of_true hdata, List.forall_mem_append]
        exact and_congr (strncpyReads_inside_iff _) (strncpyReads_inside_iff _)
      · rw [if_pos (Nat.not_le.mp hdata)]
        exact iff_of_true (List.forall_mem_nil _) fun h => absurd h hdata
    · rw [if_pos (Nat.not_le.mp hname)]
      exact iff_of_true (List.forall_mem_nil _) fun h => absurd h hname
  · rw [if_pos hstr]
    exact iff_of_true (List.forall_mem_nil _) fun h => absurd h hstr

/-- What is read in the loop is read at an entry it comes to. -/
theorem forall_readKeysReads_iff {P : Int → Prop} {n i : Nat} :
    (∀ a ∈ s.readKeysReads n i (sfoPtr i), P a) ↔
      ∀ m < n, (∀ j < m, s.visitAt (i + j) = .next) →
        ∀ a ∈ s.visitReads (sfoPtr (i + m)), P a := by
  induction n generalizing i with
  | zero =>
    exact iff_of_true (List.forall_mem_nil _) fun m hm => absurd hm (Nat.not_lt_zero m)
  | succ n ih =>
    rw [readKeysReads, List.forall_mem_append]
    constructor
    · rintro ⟨hfirst, hrest⟩ m hm hbefore
      cases m with
      | zero => exact hfirst
      | succ m =>
        -- the loop goes on behind this entry, so the later one is read in the rest
        have hnext : s.visit i (sfoPtr i) = .next := hbefore 0 (Nat.succ_pos m)
        rw [hnext] at hrest
        dsimp only at hrest
        rw [sfoPtr_succ, ih] at hrest
        have hlater := hrest m (by omega) fun j hj => by
          have hj' := hbefore (j + 1) (by omega)
          rwa [show i + (j + 1) = i + 1 + j by omega] at hj'
        rwa [show i + 1 + m = i + (m + 1) by omega] at hlater
    · intro h
      refine ⟨h 0 (Nat.succ_pos n) fun j hj => absurd hj (Nat.not_lt_zero j), ?_⟩
      cases hvisit : s.visit i (sfoPtr i) with
      | next =>
        dsimp only
        rw [sfoPtr_succ, ih]
        intro m hm hbefore
        rw [show i + 1 + m = i + (m + 1) by omega]
        refine h (m + 1) (by omega) ?_
        intro j hj
        cases j with
        | zero => exact hvisit
        | succ j =>
          rw [show i + (j + 1) = i + 1 + j by omega]
          exact hbefore j (by omega)
      | outside => exact List.forall_mem_nil _
      | found => exact List.forall_mem_nil _

theorem searchReads_inside_iff : (∀ a ∈ s.searchReads, s.Inside a) ↔ s.CopiesFit := by
  unfold searchReads
  by_cases hshort : s.data.length ≤ sizeofSfoHeader
  · -- no header fits, so it is not looked at and no key is reached
    have herror : s.headerError = some sizeNotMatch := by
      unfold headerError
      rw [if_pos hshort]
    rw [if_pos hshort]
    refine iff_of_true (List.forall_mem_nil _) fun i hreaches => ?_
    rw [hreaches.header] at herror
    cases herror
  · have hheader : ∀ a ∈ (List.range sizeofSfoHeader).map Int.ofNat, s.Inside a := by
      intro a ha
      rcases List.mem_map.mp ha with ⟨k, hk, rfl⟩
      have hlt := List.mem_range.mp hk
      exact ⟨Int.natCast_nonneg k, Int.ofNat_lt.mpr (by omega)⟩
    rw [if_neg hshort, List.forall_mem_append, and_iff_right hheader]
    cases herror : s.headerError with
    | some err =>
      -- the search ends with the header
      refine iff_of_true (List.forall_mem_nil _) fun i hreaches => ?_
      have hnone := hreaches.header
      rw [herror] at hnone
      cases hnone
    | none =>
      refine Iff.trans (forall_readKeysReads_iff (s := s) (i := 0)) ?_
      constructor
      · intro h i hreaches
        have hreads := h i hreaches.lt fun j hj => by
          rw [Nat.zero_add]
          exact hreaches.before j hj
        rw [Nat.zero_add] at hreads
        exact (visitReads_inside_iff hreaches).mp hreads
      · intro h i hi hbefore
        simp only [Nat.zero_add] at hbefore
        have hreaches : s.Reaches i := ⟨herror, hi, hbefore⟩
        rw [Nat.zero_add]
        exact (visitReads_inside_iff hreaches).mpr (h i hreaches)

end SfoSearch

/-- The buffer has the size of the file. -/
theorem readSfoKeyReads_inside_iff (sfoFile sfoKey : CString) (outKeySize : UInt32)
    (mem : SfoMemory) (w : World) :
    (∀ a ∈ readSfoKeyReads sfoFile sfoKey outKeySize mem w,
        0 ≤ a ∧ a < (getFileSize sfoFile w).1) ↔
      ∀ data, (loadSfo sfoFile mem.allocated w).1 = .read data →
        SfoSearch.CopiesFit ⟨data, sfoKey, outKeySize, mem⟩ := by
  have hnothing (res : Int) (h : (loadSfo sfoFile mem.allocated w).1 = .failed res) :
      (∀ a ∈ readSfoKeyReads sfoFile sfoKey outKeySize mem w,
        0 ≤ a ∧ a < (getFileSize sfoFile w).1) ↔
      ∀ data, (loadSfo sfoFile mem.allocated w).1 = .read data →
        SfoSearch.CopiesFit ⟨data, sfoKey, outKeySize, mem⟩ := by
    unfold readSfoKeyReads
    rw [h]
    exact iff_of_true (List.forall_mem_nil _) fun data hdata => nomatch hdata
  rcases loadSfo_cases sfoFile mem.allocated w with
    ⟨-, hfailed⟩ | ⟨-, ⟨res, -, hfailed⟩ | ⟨data, hlength, hread⟩⟩
  · exact hnothing 0 hfailed
  · exact hnothing res hfailed
  · unfold readSfoKeyReads
    rw [hread, ← hlength]
    refine Iff.trans SfoSearch.searchReads_inside_iff ?_
    constructor
    · rintro h data' hdata
      cases hdata
      exact h
    · exact fun h => h data rfl

/-- A table with one string, and nothing behind it. -/
def nothingBehindTable : List UInt8 :=
  [0x00, 0x50, 0x53, 0x46, 0x01, 0x01, 0x00, 0x00, 0x24, 0x00, 0x00, 0x00, 0x24, 0x00, 0x00, 0x00,
    0x01, 0x00, 0x00, 0x00,
    0x00, 0x00, 0x04, 0x02, 0x00, 0x00, 0x00, 0x00, 0x00, 0x00, 0x00, 0x00, 0x00, 0x00, 0x00, 0x00]

theorem not_readSfoKeyReads_inside :
    ¬ ∀ a ∈ readSfoKeyReads (CString.ofBytes [0x61]) (CString.ofBytes [0x42]) 63
        ⟨true, fun _ => 0, fun _ _ => 0, fun _ _ => 0⟩ (sfoWorld (some nothingBehindTable)),
      0 ≤ a ∧ a < (getFileSize (CString.ofBytes [0x61]) (sfoWorld (some nothingBehindTable))).1 := by
  intro h
  have hend := h 36 (by decide)
  exact absurd hend.2 (by decide)

end GcToolKit.App
