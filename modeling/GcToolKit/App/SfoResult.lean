import GcToolKit.App.Sfo

/-!
# What a result of read_sfo_key means (app/sfo.c)

A size that is 0, also one that could not be had, is the result itself. And the copies leave
no terminator where the value is too long for them, so what was in `key_value` or at `out_key`
before decides where the string ends.

* `outKey_string` — without a terminator before, `out_key` holds a string only if both copies
  had room for it;
* `usableOnSuccess_iff` — when a caller may use the string.
-/

namespace GcToolKit.App

open CMemory

namespace SfoSearch

/-- Entry `i` is the one that is found. -/
structure Finds (s : SfoSearch) (i : Nat) : Prop where
  reaches : s.Reaches i
  found : s.visitAt i = .found

/-- The value of an entry, which ends with the file at the latest. -/
def value (s : SfoSearch) (i : Nat) : CString :=
  .ofBytes (s.data.drop (s.header.dataOffset (s.entry i)).toNat)

/-- There is a zero behind the value, and both copies get that far. -/
structure FitsCopies (s : SfoSearch) (i : Nat) : Prop where
  ends : CMemory.Holds s.sfoBuffer (s.header.dataOffset (s.entry i)).toNat (s.value i)
  copied : (s.value i).bytes.length < keyCopied
  fits : (s.value i).bytes.length + 1 < s.outKeySize.toNat

end SfoSearch

/-- `out_key` holds a string of fewer than `out_key_size` bytes with which the value found
begins, if the result is no error. -/
def UsableOnSuccess (sfoFile sfoKey : CString) (outKeySize : UInt32) (w : World) : Prop :=
  ∀ mem out, 0 ≤ (readSfoKey sfoFile sfoKey outKeySize mem out w).1 →
    ∃ data i text, (loadSfo sfoFile mem.allocated w).1 = .read data ∧
      SfoSearch.Finds ⟨data, sfoKey, outKeySize, mem⟩ i ∧
      text.bytes.length < outKeySize.toNat ∧
      CMemory.Holds (readSfoKey sfoFile sfoKey outKeySize mem out w).2.1 0 text ∧
      text.bytes <+: (SfoSearch.value ⟨data, sfoKey, outKeySize, mem⟩ i).bytes

/-- Nothing but ones, so no terminator. -/
def ones : Memory := fun _ => 1

theorem ones_ne_zero (i : Int) : ones i ≠ 0 := by
  change (1 : UInt8) ≠ 0
  decide

/-- Without a terminator before, there is a string only if both copies had room for it. -/
theorem outKey_string {s : SfoSearch} {i : Nat} {text : CString}
    (hvalue : s.mem.keyValue i = ones) (h : CMemory.Holds (s.outKey i (sfoPtr i) ones) 0 text) :
    text.bytes.length < keyCopied ∧ text.bytes.length < (s.outKeySize - 1).toNat ∧
      CMemory.Holds s.sfoBuffer (s.header.dataOffset (s.entry i)).toNat text := by
  rcases CMemory.Holds.of_strncpy ones_ne_zero h with ⟨hout, hcopy⟩
  unfold SfoSearch.keyValue at hcopy
  rw [hvalue] at hcopy
  rcases CMemory.Holds.of_strncpy ones_ne_zero hcopy with ⟨hcopied, hholds⟩
  exact ⟨hcopied, hout, hholds⟩

/-- A usable string is all of the value. -/
theorem fitsCopies_of_string {s : SfoSearch} {i : Nat} {text : CString}
    (hvalue : s.mem.keyValue i = ones) (h : CMemory.Holds (s.outKey i (sfoPtr i) ones) 0 text)
    (hlt : text.bytes.length < s.outKeySize.toNat) (hbegins : text.bytes <+: (s.value i).bytes) :
    s.FitsCopies i := by
  rcases outKey_string hvalue h with ⟨hcopied, hout, hholds⟩
  have hholds' : CMemory.Holds (store s.mem.around 0 s.data)
      (0 + (s.header.dataOffset (s.entry i)).toNat) text := by
    rw [Int.zero_add]
    exact hholds
  have hwhole : text = s.value i := hholds'.eq_of_prefix hbegins
  subst hwhole
  rw [SfoSearch.toNat_sub_one (by omega)] at hout
  exact ⟨hholds, hcopied, by omega⟩

theorem usableOnSuccess_iff (sfoFile sfoKey : CString) (outKeySize : UInt32) (w : World) :
    UsableOnSuccess sfoFile sfoKey outKeySize w ↔
      (getFileSize sfoFile w).1 ≠ 0 ∧
        ∀ mem data, (loadSfo sfoFile mem.allocated w).1 = .read data →
          ∀ i, SfoSearch.Finds ⟨data, sfoKey, outKeySize, mem⟩ i →
            SfoSearch.FitsCopies ⟨data, sfoKey, outKeySize, mem⟩ i := by
  constructor
  · intro h
    refine ⟨?_, ?_⟩
    · intro hzero
      rcases loadSfo_cases sfoFile true w with ⟨-, hfailed⟩ | ⟨hne, -⟩
      · have hres := readSfoKey_failed sfoKey outKeySize
          ⟨true, ones, fun _ => ones, fun _ => ones⟩ ones hfailed
        rcases h _ ones (Int.le_of_eq hres.symm) with ⟨data, i, text, hread, -⟩
        rw [hfailed] at hread
        cases hread
      · exact hne hzero
    · intro mem data hread i hfinds
      -- neither array had a terminator before
      have hfinds' : SfoSearch.Finds
          ⟨data, sfoKey, outKeySize, { mem with keyValue := fun _ => ones }⟩ i :=
        ⟨⟨hfinds.reaches.header, hfinds.reaches.lt, hfinds.reaches.before⟩, hfinds.found⟩
      have hsearch := hfinds'.reaches.search_found hfinds'.found ones
      rcases readSfoKey_read sfoKey outKeySize { mem with keyValue := fun _ => ones } ones hread
        with ⟨hres, hout⟩
      rw [hsearch] at hres hout
      rcases h _ ones (Int.le_of_eq hres.symm) with
        ⟨data', j, text, hread', hfinds'', hlt, hholds, hbegins⟩
      have hdata : data' = data := LoadedSfo.read.inj (hread'.symm.trans hread)
      subst hdata
      have hsame : j = i :=
        hfinds''.reaches.found_unique hfinds''.found hfinds'.reaches hfinds'.found
      subst hsame
      rw [hout] at hholds
      rcases fitsCopies_of_string rfl hholds hlt hbegins with ⟨hends, hcopied, hfits⟩
      exact ⟨hends, hcopied, hfits⟩
  · rintro ⟨hne, hvalues⟩ mem out hnonneg
    rcases loadSfo_cases sfoFile mem.allocated w with
      ⟨hzero, -⟩ | ⟨-, ⟨res, hneg, hfailed⟩ | ⟨data, -, hread⟩⟩
    · exact absurd hzero hne
    · rw [readSfoKey_failed sfoKey outKeySize mem out hfailed] at hnonneg
      exact absurd hnonneg (Int.not_le.mpr hneg)
    · rcases readSfoKey_read sfoKey outKeySize mem out hread with ⟨hres, hout⟩
      rw [hres] at hnonneg
      rcases SfoSearch.search_nonneg hnonneg with ⟨i, hreaches, hfound⟩
      have hfits := hvalues mem data hread i ⟨hreaches, hfound⟩
      refine ⟨data, i, _, hread, ⟨hreaches, hfound⟩, Nat.lt_of_succ_lt hfits.fits, ?_,
        List.prefix_rfl⟩
      rw [hout, hreaches.search_found hfound]
      exact SfoSearch.holds_outKey hfits.ends hfits.copied hfits.fits out

/-- There is no file. -/
theorem not_usableOnSuccess_missing :
    ¬ UsableOnSuccess (CString.ofBytes [0x61]) (CString.ofBytes [0x42]) 63 (sfoWorld none) := by
  intro h
  have hfailed : (loadSfo (CString.ofBytes [0x61]) true (sfoWorld none)).1 = .failed 0 := rfl
  rcases h ⟨true, ones, fun _ => ones, fun _ => ones⟩ ones (by decide) with
    ⟨data, i, text, hread, -⟩
  cases hfailed.symm.trans hread

end GcToolKit.App
