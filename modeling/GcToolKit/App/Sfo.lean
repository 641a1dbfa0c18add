import GcToolKit.App.Restore
import GcToolKit.Lib.CMemory
import GcToolKit.Lib.LittleEndian

/-!
# Reading a key of an SFO file (app/sfo.c)

A file is a header, a table of entries, and two areas with the names and the values, to
which the header and the entries give offsets. `read_sfo_key` copies at most 63 bytes of
each into arrays of 64 that nothing was written to before.

* `SfoSearch.readKeys_skip`, `SfoSearch.reaches_or_next` — the loop ends at the first entry
  that is not passed over;
* `SfoSearch.holds_outKey` — a value arrives if both copies have room for it;
* `loadSfo_cases` — what is there before the search.
-/

namespace GcToolKit.App

open CMemory LittleEndian
open GcToolKit.Kern (AuthEmu oRdonly)

def pointerWasNull : Int := -1132
def invalidMagic : Int := -2329
def sfoTooManyEntries : Int := -253
def sfoKeyNotFound : Int := -2327

/-! ## The file -/

def sizeofSfoHeader : Nat := 20

def sizeofSfoKey : Nat := 16

/-- `sizeof(key_name)-1`, and the same for `key_value` -/
def keyCopied : Nat := 63

/-- "\0PSF" -/
def sfoMagic : List UInt8 := [0x00, 0x50, 0x53, 0x46]

/-- `PSF_TYPE_STR` -/
def psfTypeStr : UInt8 := 2

structure GcSfoHeader where
  magic : List UInt8
  version : UInt32
  keyOffset : UInt32
  valueOffset : UInt32
  count : UInt32
deriving DecidableEq

structure GcSfoKey where
  nameOffset : UInt16
  alignment : UInt8
  type : UInt8
  valueSize : UInt32
  totalSize : UInt32
  dataOffset : UInt32
deriving DecidableEq

/-- `memcpy` into a `GcSfoHeader`. -/
def GcSfoHeader.ofBytes (bs : List UInt8) : GcSfoHeader where
  magic := bs.take 4
  version := UInt32.ofNat (ofLeAt bs 4 4)
  keyOffset := UInt32.ofNat (ofLeAt bs 8 4)
  valueOffset := UInt32.ofNat (ofLeAt bs 12 4)
  count := UInt32.ofNat (ofLeAt bs 16 4)

/-- `memcpy` into a `GcSfoKey`. -/
def GcSfoKey.ofBytes (bs : List UInt8) : GcSfoKey where
  nameOffset := UInt16.ofNat (ofLeAt bs 0 2)
  alignment := UInt8.ofNat (ofLeAt bs 2 1)
  type := UInt8.ofNat (ofLeAt bs 3 1)
  valueSize := UInt32.ofNat (ofLeAt bs 4 4)
  totalSize := UInt32.ofNat (ofLeAt bs 8 4)
  dataOffset := UInt32.ofNat (ofLeAt bs 12 4)

/-- `name_offset` in the loop, a sum of 32 bits. -/
def GcSfoHeader.nameOffset (header : GcSfoHeader) (sKey : GcSfoKey) : UInt32 :=
  header.keyOffset + sKey.nameOffset.toUInt32

/-- `data_offset` in the loop. -/
def GcSfoHeader.dataOffset (header : GcSfoHeader) (sKey : GcSfoKey) : UInt32 :=
  header.valueOffset + sKey.dataOffset

/-! ## read_sfo_key -/

/-- What the function cannot know: whether `malloc` succeeds, what lies around the buffer,
and what is in the arrays of each turn of the loop before the copy. -/
structure SfoMemory where
  allocated : Bool
  around : Memory
  keyName : Nat → Memory
  keyValue : Nat → Memory

/-- The arguments of the search, with the file in the buffer. -/
structure SfoSearch where
  data : List UInt8
  sfoKey : CString
  outKeySize : UInt32
  mem : SfoMemory

/-- What becomes of an entry. -/
inductive SfoVisit where
  | next
  | outside
  | found
deriving DecidableEq

namespace SfoSearch

variable (s : SfoSearch)

/-- The memory as seen from `sfo_buffer`. -/
def sfoBuffer : Memory := store s.mem.around 0 s.data

def header : GcSfoHeader := .ofBytes s.data

/-- The checks before the loop. -/
def headerError : Option Int :=
  if s.data.length ≤ sizeofSfoHeader then some sizeNotMatch
  else if s.header.magic ≠ sfoMagic then some invalidMagic
  else if s.header.count > 200 then some sfoTooManyEntries
  else if s.data.length < sizeofSfoHeader + sizeofSfoKey * s.header.count.toNat then
    some sizeNotMatch
  else none

def sKey (ptr : UInt32) : GcSfoKey := .ofBytes (s.data.drop ptr.toNat)

/-- `key_name` after the copy. -/
def keyName (i : Nat) (ptr : UInt32) : Memory :=
  strncpy (s.mem.keyName i) 0 s.sfoBuffer (s.header.nameOffset (s.sKey ptr)).toNat keyCopied

/-- `key_value` after the copy. -/
def keyValue (i : Nat) (ptr : UInt32) : Memory :=
  strncpy (s.mem.keyValue i) 0 s.sfoBuffer (s.header.dataOffset (s.sKey ptr)).toNat keyCopied

/-- The checks of the loop. -/
def visit (i : Nat) (ptr : UInt32) : SfoVisit :=
  if ptr.toNat > s.data.length then .outside
  else if (s.sKey ptr).type ≠ psfTypeStr then .next
  else if (s.header.nameOffset (s.sKey ptr)).toNat > s.data.length then .outside
  else if (s.header.dataOffset (s.sKey ptr)).toNat > s.data.length then .outside
  else if strncmp (s.keyName i ptr) 0 s.sfoKey.bytes s.outKeySize.toNat then .found
  else .next

/-- `out_key` after the second copy. -/
def outKey (i : Nat) (ptr : UInt32) (out : Memory) : Memory :=
  strncpy out 0 (s.keyValue i ptr) 0 (s.outKeySize - 1).toNat

/-- The loop, with the number of entries left, the index and the pointer. -/
def readKeys (out : Memory) : Nat → Nat → UInt32 → Int × Memory
  | 0, _, _ => (sfoKeyNotFound, out)
  | n + 1, i, ptr =>
    match s.visit i ptr with
    | .next => readKeys out n (i + 1) (ptr + 16)
    | .outside => (sizeNotMatch, out)
    | .found => (0, s.outKey i ptr out)

/-- From the header on. -/
def search (out : Memory) : Int × Memory :=
  match s.headerError with
  | some err => (err, out)
  | none => s.readKeys out s.header.count.toNat 0 20

/-! The bytes read through `sfo_buffer`, by their offsets. -/

def visitReads (ptr : UInt32) : List Int :=
  if ptr.toNat > s.data.length then []
  else
    (List.range sizeofSfoKey).map (fun k => ((ptr.toNat + k : Nat) : Int)) ++
    if (s.sKey ptr).type ≠ psfTypeStr then []
    else if (s.header.nameOffset (s.sKey ptr)).toNat > s.data.length then []
    else if (s.header.dataOffset (s.sKey ptr)).toNat > s.data.length then []
    else
      strncpyReads s.sfoBuffer (s.header.nameOffset (s.sKey ptr)).toNat keyCopied ++
        strncpyReads s.sfoBuffer (s.header.dataOffset (s.sKey ptr)).toNat keyCopied

def readKeysReads : Nat → Nat → UInt32 → List Int
  | 0, _, _ => []
  | n + 1, i, ptr =>
    s.visitReads ptr ++
      match s.visit i ptr with
      | .next => readKeysReads n (i + 1) (ptr + 16)
      | .outside => []
      | .found => []

def searchReads : List Int :=
  if s.data.length ≤ sizeofSfoHeader then []
  else
    (List.range sizeofSfoHeader).map Int.ofNat ++
      match s.headerError with
      | some _ => []
      | none => s.readKeysReads s.header.count.toNat 0 20

end SfoSearch

/-- What the buffer is filled with, or the result without it. -/
inductive LoadedSfo where
  | failed (res : Int)
  | read (data : List UInt8)

/-- Up to the first `sceIoClose`, with `sfo_fd` then. The comparison of `rd`, an `int`, with
the size, an `uint64_t`, fails for the errors. -/
def loadSfo (sfoFile : CString) (allocated : Bool) (w : World) : LoadedSfo × SceUID × World :=
  let (sfoSize, w) := getFileSize sfoFile w
  if sfoSize ≤ 0 then (.failed sfoSize, -1, w)
  else if ¬ allocated then (.failed pointerWasNull, -1, w)
  else
    let (sfoFd, w) := sceIoOpen sfoFile oRdonly w
    if sfoFd < 0 then (.failed sfoFd, sfoFd, w)
    else
      match sceIoRead sfoFd (sfoSize % 2 ^ 32) w with
      | (.error _ _, w) => (.failed sizeNotMatch, sfoFd, w)
      | (.bytes data, w) =>
        if (data.length : Int).bmod (2 ^ 32) ≠ sfoSize then (.failed sizeNotMatch, sfoFd, w)
        else
          let (closed, w) := sceIoClose sfoFd w
          (.read data, if closed ≥ 0 then 0 else sfoFd, w)

section ReadSfoKey

variable (sfoFile sfoKey : CString) (outKeySize : UInt32) (mem : SfoMemory)

/-- The result, and the memory from `out_key` on. -/
def readSfoKey (out : Memory) (w : World) : Int × Memory × World :=
  let (loaded, sfoFd, w) := loadSfo sfoFile mem.allocated w
  let (res, out) := match loaded with
    | .failed res => (res, out)
    | .read data => SfoSearch.search ⟨data, sfoKey, outKeySize, mem⟩ out
  (res, out, if sfoFd > 0 then (sceIoClose sfoFd w).2 else w)

/-- The bytes that are read through `sfo_buffer`. -/
def readSfoKeyReads (w : World) : List Int :=
  match (loadSfo sfoFile mem.allocated w).1 with
  | .failed _ => []
  | .read data => SfoSearch.searchReads ⟨data, sfoKey, outKeySize, mem⟩

end ReadSfoKey

/-! ## The loop -/

/-- The pointer at entry `i`. -/
def sfoPtr (i : Nat) : UInt32 := UInt32.ofNat (sizeofSfoHeader + sizeofSfoKey * i)

theorem sfoPtr_succ (i : Nat) : sfoPtr i + 16 = sfoPtr (i + 1) :=
  (UInt32.ofNat_add (sizeofSfoHeader + sizeofSfoKey * i) 16).symm

theorem sfoPtr_toNat {i : Nat} (hi : i ≤ 200) :
    (sfoPtr i).toNat = sizeofSfoHeader + sizeofSfoKey * i := by
  unfold sfoPtr sizeofSfoHeader sizeofSfoKey
  exact UInt32.toNat_ofNat_of_lt' (show 20 + 16 * i < 2 ^ 32 by omega)

namespace SfoSearch

variable (s : SfoSearch)

/-- Entry `i` at its place in the table. -/
def entry (i : Nat) : GcSfoKey := s.sKey (sfoPtr i)

/-- What becomes of entry `i` when the loop comes to it. -/
def visitAt (i : Nat) : SfoVisit := s.visit i (sfoPtr i)

/-- The loop comes to entry `i`. -/
structure Reaches (i : Nat) : Prop where
  header : s.headerError = none
  lt : i < s.header.count.toNat
  before : ∀ j < i, s.visitAt j = .next

/-- Entries that are passed over are left behind. -/
theorem readKeys_skip (out : Memory) {n m i : Nat}
    (h : ∀ j < m, s.visitAt (i + j) = .next) :
    s.readKeys out (m + n) i (sfoPtr i) = s.readKeys out n (i + m) (sfoPtr (i + m)) := by
  induction m generalizing i with
  | zero =>
    rw [Nat.zero_add]
    rfl
  | succ m ih =>
    have hfirst : s.visit i (sfoPtr i) = .next := h 0 (Nat.succ_pos m)
    have hrest : ∀ j < m, s.visitAt (i + 1 + j) = .next := by
      intro j hj
      have hj' := h (j + 1) (by omega)
      rwa [show i + (j + 1) = i + 1 + j by omega] at hj'
    rw [Nat.succ_add, readKeys, hfirst]
    dsimp only
    rw [sfoPtr_succ, ih hrest, show i + 1 + m = i + (m + 1) by omega]

theorem headerError_none (h : s.headerError = none) :
    s.header.count.toNat ≤ 200 ∧
      sizeofSfoHeader + sizeofSfoKey * s.header.count.toNat ≤ s.data.length := by
  unfold headerError at h
  split at h
  · cases h
  · split at h
    · cases h
    · split at h
      · cases h
      case isFalse hcount =>
        split at h
        · cases h
        · exact ⟨UInt32.le_iff_toNat_le.mp (UInt32.not_lt.mp hcount), by omega⟩

theorem headerError_neg {err : Int} (h : s.headerError = some err) : err < 0 := by
  have hmatch : sizeNotMatch < 0 := by decide
  have hmagic : invalidMagic < 0 := by decide
  have hmany : sfoTooManyEntries < 0 := by decide
  unfold headerError at h
  split at h
  · cases h
    exact hmatch
  · split at h
    · cases h
      exact hmagic
    · split at h
      · cases h
        exact hmany
      · split at h
        · cases h
          exact hmatch
        · cases h

variable {s}

theorem Reaches.ptr_toNat {i : Nat} (h : s.Reaches i) :
    (sfoPtr i).toNat = sizeofSfoHeader + sizeofSfoKey * i := by
  have hcount := (s.headerError_none h.header).1
  have hlt := h.lt
  exact sfoPtr_toNat (by omega)

/-- All of the entry is in the buffer. -/
theorem Reaches.entry_inside {i : Nat} (h : s.Reaches i) :
    (sfoPtr i).toNat + sizeofSfoKey ≤ s.data.length := by
  have hroom := (s.headerError_none h.header).2
  have hlt := h.lt
  rw [h.ptr_toNat]
  unfold sizeofSfoKey sizeofSfoHeader at *
  omega

theorem Reaches.search_eq {i : Nat} (h : s.Reaches i) (out : Memory) :
    s.search out = s.readKeys out (s.header.count.toNat - i) i (sfoPtr i) := by
  have hlt := h.lt
  have hbefore : ∀ j < i, s.visitAt (0 + j) = .next := by
    intro j hj
    rw [Nat.zero_add]
    exact h.before j hj
  have hskip := s.readKeys_skip out (n := s.header.count.toNat - i) hbefore
  rw [Nat.zero_add, Nat.add_sub_cancel' (Nat.le_of_lt hlt)] at hskip
  unfold search
  rw [h.header]
  exact hskip

theorem Reaches.search_found {i : Nat} (h : s.Reaches i) (hfound : s.visitAt i = .found)
    (out : Memory) : s.search out = (0, s.outKey i (sfoPtr i) out) := by
  obtain ⟨n, hn⟩ : ∃ n, s.header.count.toNat - i = n + 1 :=
    ⟨s.header.count.toNat - i - 1, by have hlt := h.lt; omega⟩
  have hvisit : s.visit i (sfoPtr i) = .found := hfound
  rw [h.search_eq out, hn, readKeys, hvisit]

theorem Reaches.search_outside {i : Nat} (h : s.Reaches i) (houtside : s.visitAt i = .outside)
    (out : Memory) : s.search out = (sizeNotMatch, out) := by
  obtain ⟨n, hn⟩ : ∃ n, s.header.count.toNat - i = n + 1 :=
    ⟨s.header.count.toNat - i - 1, by have hlt := h.lt; omega⟩
  have hvisit : s.visit i (sfoPtr i) = .outside := houtside
  rw [h.search_eq out, hn, readKeys, hvisit]

theorem search_notFound (hheader : s.headerError = none)
    (hnext : ∀ i < s.header.count.toNat, s.visitAt i = .next) (out : Memory) :
    s.search out = (sfoKeyNotFound, out) := by
  have hall : ∀ j < s.header.count.toNat, s.visitAt (0 + j) = .next := by
    intro j hj
    rw [Nat.zero_add]
    exact hnext j hj
  unfold search
  rw [hheader]
  exact s.readKeys_skip out (n := 0) hall

/-- The loop ends at the first entry that is not passed over, if there is one. -/
theorem reaches_or_next (hheader : s.headerError = none) :
    (∃ i, s.Reaches i ∧ s.visitAt i ≠ .next) ∨
      ∀ i < s.header.count.toNat, s.visitAt i = .next := by
  by_cases hnext : ∀ i < s.header.count.toNat, s.visitAt i = .next
  · exact Or.inr hnext
  · push Not at hnext
    have hfirst := Nat.find_spec hnext
    refine Or.inl ⟨Nat.find hnext, ⟨hheader, hfirst.1, ?_⟩, hfirst.2⟩
    intro j hj
    by_contra hne
    exact Nat.find_min hnext hj ⟨by omega, hne⟩

/-- An entry is found where the result is no error. -/
theorem search_nonneg {out : Memory} (h : 0 ≤ (s.search out).1) :
    ∃ i, s.Reaches i ∧ s.visitAt i = .found := by
  have hmatch : ¬ 0 ≤ sizeNotMatch := by decide
  have hnotFound : ¬ 0 ≤ sfoKeyNotFound := by decide
  cases hheader : s.headerError with
  | some err =>
    have hneg := s.headerError_neg hheader
    unfold search at h
    rw [hheader] at h
    exact absurd h (Int.not_le.mpr hneg)
  | none =>
    rcases reaches_or_next hheader with ⟨i, hreaches, hne⟩ | hnext
    · cases hvisit : s.visitAt i with
      | next => exact absurd hvisit hne
      | outside =>
        rw [hreaches.search_outside hvisit] at h
        exact absurd h hmatch
      | found => exact ⟨i, hreaches, hvisit⟩
    · rw [search_notFound hheader hnext] at h
      exact absurd h hnotFound

/-- One entry is found at most. -/
theorem Reaches.found_unique {i j : Nat} (hi : s.Reaches i) (hfound : s.visitAt i = .found)
    (hj : s.Reaches j) (hfound' : s.visitAt j = .found) : i = j := by
  have hne : SfoVisit.found ≠ .next := by decide
  rcases Nat.lt_trichotomy i j with hlt | heq | hlt
  · exact absurd (hfound.symm.trans (hj.before i hlt)) hne
  · exact heq
  · exact absurd (hfound'.symm.trans (hi.before j hlt)) hne

theorem toNat_sub_one {n : UInt32} (h : 0 < n.toNat) : (n - 1).toNat = n.toNat - 1 :=
  UInt32.toNat_sub_of_le n 1 (UInt32.le_iff_toNat_le.mpr h)

/-- A value that both copies have room for arrives. -/
theorem holds_outKey {i : Nat} {ptr : UInt32} {value : CString}
    (h : CMemory.Holds s.sfoBuffer (s.header.dataOffset (s.sKey ptr)).toNat value)
    (hcopied : value.bytes.length < keyCopied)
    (hout : value.bytes.length + 1 < s.outKeySize.toNat) (out : Memory) :
    CMemory.Holds (s.outKey i ptr out) 0 value := by
  refine (h.strncpy hcopied _ 0).strncpy ?_ out 0
  rw [toNat_sub_one (by omega)]
  omega

end SfoSearch

/-! ## The file is read -/

/-- The size is the result when it is 0; otherwise the file is read whole, or there is an error. -/
theorem loadSfo_cases (sfoFile : CString) (allocated : Bool) (w : World) :
    ((getFileSize sfoFile w).1 = 0 ∧ (loadSfo sfoFile allocated w).1 = .failed 0) ∨
      (getFileSize sfoFile w).1 ≠ 0 ∧
        ((∃ res < 0, (loadSfo sfoFile allocated w).1 = .failed res) ∨
          ∃ data, data.length = (getFileSize sfoFile w).1 ∧
            (loadSfo sfoFile allocated w).1 = .read data) := by
  have hnull : pointerWasNull < 0 := by decide
  have hmatch : sizeNotMatch < 0 := by decide
  unfold loadSfo
  rcases getFileSize sfoFile w with ⟨sfoSize, w₁⟩
  dsimp only
  by_cases hzero : sfoSize = 0
  · subst hzero
    exact Or.inl ⟨rfl, rfl⟩
  · rw [if_neg (by omega)]
    refine Or.inr ⟨hzero, ?_⟩
    by_cases hallocated : ¬ allocated = true
    · rw [if_pos hallocated]
      exact Or.inl ⟨_, hnull, rfl⟩
    · rw [if_neg hallocated]
      rcases sceIoOpen sfoFile oRdonly w₁ with ⟨sfoFd, w₂⟩
      dsimp only
      by_cases hfd : sfoFd < 0
      · rw [if_pos hfd]
        exact Or.inl ⟨_, hfd, rfl⟩
      · rw [if_neg hfd]
        rcases hread : sceIoRead sfoFd (sfoSize % 2 ^ 32) w₂ with ⟨data | ⟨code, hneg⟩, w₃⟩
        · dsimp only
          by_cases hsize : (data.length : Int).bmod (2 ^ 32) ≠ sfoSize
          · rw [if_pos hsize]
            exact Or.inl ⟨_, hmatch, rfl⟩
          · rw [if_neg hsize]
            -- no more than 2^32 bytes can have been read
            have hle := sceIoRead_length_le (congrArg Prod.fst hread)
            rw [not_not, Int.bmod_def] at hsize
            exact Or.inr ⟨data, by omega, rfl⟩
        · exact Or.inl ⟨_, hmatch, rfl⟩

section Result

variable {sfoFile : CString} {w : World}

theorem readSfoKey_failed (sfoKey : CString) (outKeySize : UInt32) (mem : SfoMemory) (out : Memory)
    {res : Int}
    (h : (loadSfo sfoFile mem.allocated w).1 = .failed res) :
    (readSfoKey sfoFile sfoKey outKeySize mem out w).1 = res := by
  unfold readSfoKey
  rcases hloaded : loadSfo sfoFile mem.allocated w with ⟨loaded, sfoFd, w'⟩
  rw [hloaded] at h
  cases h
  rfl

theorem readSfoKey_read (sfoKey : CString) (outKeySize : UInt32) (mem : SfoMemory) (out : Memory)
    {data : List UInt8} (h : (loadSfo sfoFile mem.allocated w).1 = .read data) :
    (readSfoKey sfoFile sfoKey outKeySize mem out w).1 =
        (SfoSearch.search ⟨data, sfoKey, outKeySize, mem⟩ out).1 ∧
      (readSfoKey sfoFile sfoKey outKeySize mem out w).2.1 =
        (SfoSearch.search ⟨data, sfoKey, outKeySize, mem⟩ out).2 := by
  unfold readSfoKey
  rcases hloaded : loadSfo sfoFile mem.allocated w with ⟨loaded, sfoFd, w'⟩
  rw [hloaded] at h
  cases h
  exact ⟨rfl, rfl⟩

end Result

/-- No call on the file fails, and all of it is read. -/
structure ReadsInFull (sfoFile : CString) (content : List UInt8) (w : World) : Prop where
  file : w.files sfoFile = some content
  length_lt : content.length < 2 ^ 31
  getstat : 0 ≤ w.outcomes w.tick
  opened : 0 ≤ w.outcomes (w.tick + 1)
  read : content.length ≤ w.outcomes (w.tick + 1 + 1)

theorem ReadsInFull.getFileSize {sfoFile : CString} {content : List UInt8} {w : World}
    (h : ReadsInFull sfoFile content w) :
    App.getFileSize sfoFile w = (content.length, { w with tick := w.tick + 1 }) := by
  unfold App.getFileSize sceIoGetstat World.outcome
  dsimp only
  rw [if_neg (Int.not_lt.mpr h.getstat), h.file]
  dsimp only
  rw [if_pos h.getstat]

theorem ReadsInFull.loadSfo {sfoFile : CString} {content : List UInt8} {w : World}
    (h : ReadsInFull sfoFile content w) (hne : content ≠ []) :
    (App.loadSfo sfoFile true w).1 = .read content := by
  have hlength : 0 < content.length := List.length_pos_iff.mpr hne
  have hlt := h.length_lt
  have hopened : ¬ w.outcomes (w.tick + 1) < 0 := Int.not_lt.mpr h.opened
  have hthere : w.files sfoFile ≠ none := by
    rw [h.file]
    exact Option.some_ne_none content
  rcases sceIoOpen_succeeds (w := { w with tick := w.tick + 1 }) sfoFile oRdonly hopened
    (fun _ => hthere) with ⟨w', hopen, hw'⟩
  have hfile : w'.files sfoFile = some content := by
    rw [hw'.files, Function.update_self, if_neg (by decide)]
    dsimp only
    rw [h.file, Option.getD_some]
  have houtcome : w'.outcomes w'.tick = w.outcomes (w.tick + 1 + 1) := by
    rw [hw'.outcomes, hw'.tick]
  have hread := h.read
  have hall : content.length ≤ (w'.outcomes w'.tick).toNat := by
    rw [houtcome]
    omega
  have hmod : content.length % 2 ^ 32 = content.length := Nat.mod_eq_of_lt (by omega)
  rcases sceIoRead_takes hw'.position hfile (by omega) hall with ⟨w'', hread, -⟩
  rw [List.drop_zero, List.take_length] at hread
  -- `rd` is an `int`, so the size has to be below 2^31
  have hrd : ¬ (content.length : Int).bmod (2 ^ 32) ≠ content.length := by
    rw [not_not, Int.bmod_def]
    omega
  unfold App.loadSfo
  rw [h.getFileSize]
  dsimp only
  rw [if_neg (by omega), if_neg (by decide), hopen]
  dsimp only
  rw [if_neg hopened, hmod, hread]
  dsimp only
  rw [if_neg hrd]

/-- A file system with one content for every path, if any; every call succeeds. -/
def sfoWorld (content : Option (List UInt8)) : World where
  kernel := AuthEmu.init
  devices _ := none
  deviceFds _ := none
  files _ := content
  fileFds _ := none
  network := []
  outcomes _ := 0x20000
  tick := 0

theorem sfoWorld_reads (sfoFile : CString) {content : List UInt8}
    (h : content.length ≤ 0x20000) : ReadsInFull sfoFile content (sfoWorld (some content)) := by
  have hcalls : (0 : Int) ≤ 0x20000 := by decide
  exact ⟨rfl, by omega, hcalls, hcalls, Int.ofNat_le.mpr h⟩

end GcToolKit.App
