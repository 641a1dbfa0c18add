import Mathlib.Data.List.GetD
import GcToolKit.App.KeyDump
import GcToolKit.Lib.CMemory

/-!
# The files of a folder (app/io.c)

`get_files_in_folder` reads so many entries of a folder, not so many files: an entry
that the filter drops is counted as well. The end of a name is compared with the
extension from where it would start, which is before a name that is too short. A first
character `*` turns that comparison off, whatever follows it.

* `readFolder_listing` — the names are those of the entries that pass;
* `passesFilter_iff` — an entry passes when it satisfies the filter, if its name is long
  enough;
* `filterCorrect_iff` — where the list is right.
-/

namespace GcToolKit.App

open CMemory

/-! ## get_files_in_folder -/

/-- `sizeof(ent.d_name)` -/
def sizeofDName : Nat := 256

/-- `SceIoDirent`; the other bytes around the name are part of it, or of the stack. -/
structure DirEnt where
  name : CString
  name_fits : name.bytes.length < sizeofDName
  size : UInt64
  isDir : Bool
  around : Memory

/-- The memory as seen from `d_name`. -/
def DirEnt.memory (ent : DirEnt) : Memory := fun i =>
  if 0 ≤ i ∧ i ≤ ent.name.bytes.length then ent.name.bytes.getD i.toNat 0 else ent.around i

structure SearchFilter where
  maxFilesize : UInt64
  fileOnly : Bool
  matchExtension : CString

/-- '*' -/
def asterisk : UInt8 := 0x2A

/-- The start of the comparison; the difference of the lengths wraps around with the address. -/
def suffixStart (filter : SearchFilter) (ent : DirEnt) : Int :=
  (ent.name.bytes.length : Int) - (filter.matchExtension.bytes.length : Int)

section Filter

variable (filter : SearchFilter) (ent : DirEnt)

/-- The checks of the loop. -/
def passesFilter : Bool :=
  if ent.size > filter.maxFilesize then false
  else if filter.fileOnly && ent.isDir then false
  else if filter.matchExtension.bytes.head? ≠ some asterisk then
    strcasecmp ent.memory (suffixStart filter ent) filter.matchExtension.bytes
  else true

/-- The bytes of a name that `strlen` and `strncpy` read. -/
def nameReads : List Int := (List.range (ent.name.bytes.length + 1)).map Int.ofNat

/-- The bytes the checks read, as seen from `d_name`. -/
def filterReads : List Int :=
  if ent.size > filter.maxFilesize then []
  else if filter.fileOnly && ent.isDir then []
  else if filter.matchExtension.bytes.head? ≠ some asterisk then
    nameReads ent ++
      strcasecmpReads ent.memory (suffixStart filter ent) filter.matchExtension.bytes
  else []

end Filter

/-- What `sceIoDread` gives before the end of the folder. -/
inductive Dread where
  | error (res : Int)
  | entry (ent : DirEnt)

structure Folder where
  dopen : Int
  dreads : List Dread
  dclose : Int

/-- `total_folders` and `out_filenames`, with the memory behind it. -/
structure Listing where
  totalFolders : Nat
  outFilenames : Nat → Vector UInt8 maxPathLength

/-- The list after `memset`. -/
def Listing.cleared (maxFiles : Nat) (outFilenames : Nat → Vector UInt8 maxPathLength) :
    Listing where
  totalFolders := 0
  outFilenames i :=
    if i < maxFiles then Vector.replicate maxPathLength 0 else outFilenames i

def Listing.add (listing : Listing) (ent : DirEnt) : Listing where
  totalFolders := listing.totalFolders + 1
  outFilenames := Function.update listing.outFilenames listing.totalFolders
    (CString.strncpy (listing.outFilenames listing.totalFolders) ent.name (maxPathLength - 1))

section Loop

/-- An entry is listed; without a filter each is. -/
def passes (filter : Option SearchFilter) (ent : DirEnt) : Bool :=
  match filter with
  | none => true
  | some filter => passesFilter filter ent

variable (filter : Option SearchFilter)

/-- The loop: whether it leaves for `error`, and the list. -/
def readFolder : Nat → List Dread → Listing → Bool × Listing
  | 0, _, listing => (false, listing)
  | _ + 1, [], listing => (false, listing)
  | _ + 1, .error _ :: _, listing => (true, listing)
  | n + 1, .entry ent :: dreads, listing =>
    if ent.name.bytes = [] then (false, listing)
    else if passes filter ent then readFolder n dreads (listing.add ent)
    else readFolder n dreads listing

/-- The bytes that are read of an entry. -/
def entryReads (ent : DirEnt) : List Int :=
  0 ::
    ((match filter with
      | none => []
      | some filter => filterReads filter ent) ++
    if passes filter ent then nameReads ent else [])

/-- The reads of the loop, each with the entry it is of. -/
def folderReads : Nat → List Dread → List (DirEnt × Int)
  | n + 1, .entry ent :: dreads =>
    if ent.name.bytes = [] then [(ent, 0)]
    else (entryReads filter ent).map (fun i => (ent, i)) ++ folderReads n dreads
  | _, _ => []

/-- The result with the list. The `res` of the loop is another one than that of the
function, which is -1 when `sceIoDread` fails. -/
def getFilesInFolder (folder : Folder) (outFilenames : Nat → Vector UInt8 maxPathLength)
    (maxFiles : Nat) : Int × Listing :=
  if folder.dopen < 0 then (folder.dopen, .cleared maxFiles outFilenames)
  else
    let (failed, listing) :=
      readFolder filter maxFiles folder.dreads (.cleared maxFiles outFilenames)
    if failed then (-1, listing)
    else (if folder.dclose > 0 then folder.dclose else 0, listing)

end Loop

/-! ## What the list should be -/

/-- The extension that is every extension. -/
def anyExtension : CString := CString.ofBytes [asterisk]

/-- The name ends in the extension, in capitals or not. -/
def EndsIn (name extension : CString) : Prop :=
  extension.bytes.map toLower <:+ name.bytes.map toLower

instance (name extension : CString) : Decidable (EndsIn name extension) :=
  inferInstanceAs (Decidable (_ <:+ _))

/-- Neither too large nor a directory where only files are wanted. -/
def candidate (filter : SearchFilter) (ent : DirEnt) : Bool :=
  ent.size ≤ filter.maxFilesize && !(filter.fileOnly && ent.isDir)

def satisfies (filter : SearchFilter) (ent : DirEnt) : Bool :=
  candidate filter ent &&
    (filter.matchExtension = anyExtension || decide (EndsIn ent.name filter.matchExtension))

/-- A folder with these entries, which opens and closes. -/
structure Folder.Contains (folder : Folder) (entries : List DirEnt) : Prop where
  opens : 0 ≤ folder.dopen
  reads : folder.dreads = entries.map .entry
  closes : folder.dclose ≤ 0

section Correct

variable (filter : SearchFilter) (maxFiles : Nat) (entries : List DirEnt)

/-- The first entries that satisfy the filter. -/
def expected : List DirEnt := (entries.filter (satisfies filter)).take maxFiles

/-- Their names are the list, and only names were read. -/
structure FilterCorrect (folder : Folder) (out : Nat → Vector UInt8 maxPathLength) : Prop where
  res : (getFilesInFolder (some filter) folder out maxFiles).1 = 0
  total : (getFilesInFolder (some filter) folder out maxFiles).2.totalFolders =
    (expected filter maxFiles entries).length
  names : ∀ i (h : i < (expected filter maxFiles entries).length),
    let filename := (getFilesInFolder (some filter) folder out maxFiles).2.outFilenames i
    CString.ofBuffer filename = (expected filter maxFiles entries)[i].name ∧ 0 ∈ filename.toList
  reads : ∀ read ∈ folderReads (some filter) maxFiles folder.dreads,
    0 ≤ read.2 ∧ read.2 ≤ read.1.name.bytes.length

/-- The entries the loop looks at. -/
def seen : List DirEnt := (entries.take maxFiles).takeWhile (·.name.bytes ≠ [])

/-- Every name that is compared is long enough, an extension that only begins with `*`
is matched all the same, and nothing is missed behind the entries that are read. -/
structure Clean : Prop where
  compared : ∀ ent ∈ seen maxFiles entries, candidate filter ent = true →
    filter.matchExtension ≠ anyExtension →
    if filter.matchExtension.bytes.head? = some asterisk then EndsIn ent.name filter.matchExtension
    else filter.matchExtension.bytes.length ≤ ent.name.bytes.length
  complete : (∀ ent ∈ entries.drop (seen maxFiles entries).length, satisfies filter ent = false) ∨
    (seen maxFiles entries).length = maxFiles ∧
      ∀ ent ∈ seen maxFiles entries, satisfies filter ent = true

end Correct

/-! ## The entries that pass -/

theorem DirEnt.holds (ent : DirEnt) : Holds ent.memory 0 ent.name := by
  refine ⟨?_, ?_⟩
  · intro i h
    unfold DirEnt.memory
    rw [if_pos (by omega), Int.zero_add, Int.toNat_natCast, List.getD_eq_getElem _ _ h]
  · unfold DirEnt.memory
    rw [if_pos (by omega), Int.zero_add, Int.toNat_natCast,
      List.getD_eq_default _ _ (Nat.le_refl _)]

theorem head?_anyExtension : anyExtension.bytes.head? = some asterisk := rfl

section Passes

variable {filter : SearchFilter} {ent : DirEnt}

theorem suffixStart_of_le (hle : filter.matchExtension.bytes.length ≤ ent.name.bytes.length) :
    suffixStart filter ent =
      0 + ((ent.name.bytes.length - filter.matchExtension.bytes.length : Nat) : Int) := by
  unfold suffixStart
  omega

/-- The checks before that of the extension are those of a candidate. -/
theorem passesFilter_eq_candidate :
    passesFilter filter ent =
      (candidate filter ent &&
        if filter.matchExtension.bytes.head? ≠ some asterisk then
          strcasecmp ent.memory (suffixStart filter ent) filter.matchExtension.bytes
        else true) := by
  unfold passesFilter candidate
  by_cases hsize : ent.size > filter.maxFilesize
  · have hlarge : ¬ ent.size ≤ filter.maxFilesize := UInt64.not_le.mpr hsize
    rw [if_pos hsize, decide_eq_false hlarge, Bool.false_and, Bool.false_and]
  · have hfits : ent.size ≤ filter.maxFilesize := UInt64.not_lt.mp hsize
    rw [if_neg hsize, decide_eq_true hfits, Bool.true_and]
    cases filter.fileOnly && ent.isDir with
    | true => rfl
    | false => rfl

/-- With a name that is long enough an entry passes when it satisfies the filter. -/
theorem passesFilter_iff
    (h : candidate filter ent = true → filter.matchExtension ≠ anyExtension →
      if filter.matchExtension.bytes.head? = some asterisk then
        EndsIn ent.name filter.matchExtension
      else filter.matchExtension.bytes.length ≤ ent.name.bytes.length) :
    passesFilter filter ent = satisfies filter ent := by
  rw [passesFilter_eq_candidate]
  unfold satisfies
  by_cases hcandidate : candidate filter ent = true
  · rw [hcandidate, Bool.true_and, Bool.true_and]
    by_cases hany : filter.matchExtension = anyExtension
    · rw [decide_eq_true hany, Bool.true_or, hany, if_neg (not_not.mpr head?_anyExtension)]
    · have hlong := h hcandidate hany
      rw [decide_eq_false hany, Bool.false_or]
      by_cases hstar : filter.matchExtension.bytes.head? = some asterisk
      · rw [if_pos hstar] at hlong
        rw [if_neg (not_not.mpr hstar), decide_eq_true hlong]
      · rw [if_neg hstar] at hlong
        rw [if_pos hstar, suffixStart_of_le hlong, Bool.eq_iff_iff, decide_eq_true_iff]
        exact ent.holds.strcasecmp_iff_suffix hlong
  · rw [Bool.eq_false_of_not_eq_true hcandidate, Bool.false_and, Bool.false_and]

end Passes

/-! ## The list -/

section Add

variable {listing : Listing}

theorem foldl_add_total (ents : List DirEnt) (listing : Listing) :
    (ents.foldl Listing.add listing).totalFolders = listing.totalFolders + ents.length := by
  induction ents generalizing listing with
  | nil => rfl
  | cons ent ents ih =>
    rw [List.foldl_cons, ih, List.length_cons]
    change listing.totalFolders + 1 + ents.length = _
    omega

/-- Only the next rows of the list are written. -/
theorem foldl_add_of_not_mem {ents : List DirEnt} {i : Nat}
    (hi : i < listing.totalFolders ∨ listing.totalFolders + ents.length ≤ i) :
    (ents.foldl Listing.add listing).outFilenames i = listing.outFilenames i := by
  induction ents generalizing listing with
  | nil => rfl
  | cons ent ents ih =>
    rw [List.length_cons] at hi
    have hne : i ≠ listing.totalFolders := by omega
    have hnext : (listing.add ent).totalFolders = listing.totalFolders + 1 := rfl
    rw [List.foldl_cons, ih (by omega)]
    exact Function.update_of_ne hne _ _

theorem foldl_add_of_lt (listing : Listing) {ents : List DirEnt} {j : Nat}
    (hj : j < ents.length) :
    (ents.foldl Listing.add listing).outFilenames (listing.totalFolders + j) =
      CString.strncpy (listing.outFilenames (listing.totalFolders + j)) ents[j].name
        (maxPathLength - 1) := by
  induction ents generalizing listing j with
  | nil => exact absurd hj (Nat.not_lt_zero j)
  | cons ent ents ih =>
    have hnext : (listing.add ent).totalFolders = listing.totalFolders + 1 := rfl
    rw [List.foldl_cons]
    cases j with
    | zero =>
      rw [foldl_add_of_not_mem (by omega)]
      exact Function.update_self _ _ _
    | succ j =>
      have hrow : listing.totalFolders + (j + 1) = (listing.add ent).totalFolders + j := by omega
      rw [hrow, ih _ (Nat.lt_of_succ_lt_succ hj)]
      congr 1
      exact Function.update_of_ne (by omega) _ _

end Add

/-- The entries the loop looks at, when a read may fail. -/
def seenEntries : Nat → List Dread → List DirEnt
  | n + 1, .entry ent :: dreads =>
    if ent.name.bytes = [] then [] else ent :: seenEntries n dreads
  | _, _ => []

/-- A read fails before the loop has come to its end. -/
def readFails : Nat → List Dread → Bool
  | _ + 1, .error _ :: _ => true
  | n + 1, .entry ent :: dreads => if ent.name.bytes = [] then false else readFails n dreads
  | _, _ => false

/-- The list has the names of the entries that pass. -/
theorem readFolder_listing (filter : Option SearchFilter) (n : Nat) (dreads : List Dread)
    (listing : Listing) :
    readFolder filter n dreads listing =
      (readFails n dreads,
        ((seenEntries n dreads).filter (passes filter)).foldl Listing.add listing) := by
  induction n generalizing dreads listing with
  | zero => rfl
  | succ n ih =>
    cases dreads with
    | nil => rfl
    | cons dread dreads =>
      cases dread with
      | error res => rfl
      | entry ent =>
        rw [readFolder, readFails, seenEntries]
        by_cases hend : ent.name.bytes = []
        · rw [if_pos hend, if_pos hend, if_pos hend]
          rfl
        · rw [if_neg hend, if_neg hend, if_neg hend, ih, ih]
          cases hpass : passes filter ent with
          | true =>
            rw [List.filter_cons_of_pos hpass]
            rfl
          | false =>
            rw [List.filter_cons_of_neg (by rw [hpass]; exact Bool.false_ne_true)]
            rfl

theorem seenEntries_length_le (n : Nat) (dreads : List Dread) :
    (seenEntries n dreads).length ≤ n := by
  induction n generalizing dreads with
  | zero => exact Nat.le_refl 0
  | succ n ih =>
    cases dreads with
    | nil => exact Nat.zero_le _
    | cons dread dreads =>
      cases dread with
      | error res => exact Nat.zero_le _
      | entry ent =>
        rw [seenEntries]
        split
        · exact Nat.zero_le _
        · exact Nat.succ_le_succ (ih dreads)

theorem seenEntries_map_entry (n : Nat) (entries : List DirEnt) :
    seenEntries n (entries.map .entry) = seen n entries := by
  unfold seen
  induction n generalizing entries with
  | zero => rfl
  | succ n ih =>
    cases entries with
    | nil => rfl
    | cons ent entries =>
      rw [List.map_cons, seenEntries, List.take_succ_cons, List.takeWhile_cons, ih]
      by_cases hend : ent.name.bytes = []
      · rw [if_pos hend, decide_eq_false (not_not.mpr hend)]
        rfl
      · rw [if_neg hend, decide_eq_true hend]
        rfl

theorem readFails_map_entry (n : Nat) (entries : List DirEnt) :
    readFails n (entries.map .entry) = false := by
  induction n generalizing entries with
  | zero => rfl
  | succ n ih =>
    cases entries with
    | nil => rfl
    | cons ent entries =>
      rw [List.map_cons, readFails, ih, ite_self]

/-- A name of an entry fits into its row, with a terminator behind it. -/
theorem ofBuffer_row (ent : DirEnt) :
    CString.ofBuffer (CString.strncpy (Vector.replicate maxPathLength 0) ent.name
      (maxPathLength - 1)) = ent.name := by
  have hfits : ent.name.bytes.length ≤ maxPathLength - 1 :=
    Nat.le_of_lt (Nat.lt_of_lt_of_le ent.name_fits (by decide))
  rw [CString.ofBuffer_strncpy _ (by decide)]
  exact CString.ext (List.take_of_length_le hfits)

theorem zero_mem_row (ent : DirEnt) :
    0 ∈ (CString.strncpy (Vector.replicate maxPathLength 0) ent.name
      (maxPathLength - 1)).toList := by
  have hlast : maxPathLength - 1 < maxPathLength := by decide
  rw [Vector.mem_toList_iff, Vector.mem_iff_getElem]
  refine ⟨maxPathLength - 1, hlast, ?_⟩
  unfold CString.strncpy
  rw [Vector.getElem_ofFn, if_neg (Nat.lt_irrefl _)]
  exact Vector.getElem_replicate hlast

/-! ## The reads -/

theorem mem_nameReads {ent : DirEnt} {i : Int} (h : i ∈ nameReads ent) :
    0 ≤ i ∧ i ≤ ent.name.bytes.length := by
  rcases List.mem_map.mp h with ⟨j, hj, rfl⟩
  have hlt := List.mem_range.mp hj
  change (0 : Int) ≤ (j : Int) ∧ (j : Int) ≤ _
  omega

theorem mem_folderReads {filter : Option SearchFilter} {n : Nat} {dreads : List Dread}
    {ent : DirEnt} {i : Int} (h : (ent, i) ∈ folderReads filter n dreads) :
    i = 0 ∨ ent ∈ seenEntries n dreads ∧ i ∈ entryReads filter ent := by
  induction n generalizing dreads with
  | zero => cases h
  | succ n ih =>
    cases dreads with
    | nil => cases h
    | cons dread dreads =>
      cases dread with
      | error res => cases h
      | entry first =>
        rw [folderReads] at h
        rw [seenEntries]
        by_cases hend : first.name.bytes = []
        · rw [if_pos hend] at h
          exact Or.inl (Prod.mk.inj (List.mem_singleton.mp h)).2
        · rw [if_neg hend] at h
          rw [if_neg hend]
          rcases List.mem_append.mp h with hhere | hrest
          · rcases List.mem_map.mp hhere with ⟨j, hj, heq⟩
            cases heq
            exact Or.inr ⟨List.mem_cons_self, hj⟩
          · rcases ih hrest with hzero | ⟨hmem, hread⟩
            · exact Or.inl hzero
            · exact Or.inr ⟨List.mem_cons_of_mem _ hmem, hread⟩

theorem mem_folderReads_of_seen {filter : Option SearchFilter} {n : Nat} {dreads : List Dread}
    {ent : DirEnt} {i : Int} (hseen : ent ∈ seenEntries n dreads)
    (hread : i ∈ entryReads filter ent) : (ent, i) ∈ folderReads filter n dreads := by
  induction n generalizing dreads with
  | zero => cases hseen
  | succ n ih =>
    cases dreads with
    | nil => cases hseen
    | cons dread dreads =>
      cases dread with
      | error res => cases hseen
      | entry first =>
        rw [seenEntries] at hseen
        rw [folderReads]
        by_cases hend : first.name.bytes = []
        · rw [if_pos hend] at hseen
          cases hseen
        · rw [if_neg hend] at hseen
          rw [if_neg hend]
          rcases List.mem_cons.mp hseen with rfl | hseen
          · exact List.mem_append_left _ (List.mem_map.mpr ⟨i, hread, rfl⟩)
          · exact List.mem_append_right _ (ih hseen)

section Reads

variable {filter : SearchFilter} {ent : DirEnt}

theorem filterReads_eq (hcandidate : candidate filter ent = true) :
    filterReads filter ent =
      if filter.matchExtension.bytes.head? ≠ some asterisk then
        nameReads ent ++
          strcasecmpReads ent.memory (suffixStart filter ent) filter.matchExtension.bytes
      else [] := by
  unfold candidate at hcandidate
  rcases Bool.and_eq_true_iff.mp hcandidate with ⟨hsize, hkind⟩
  have hfits : ¬ ent.size > filter.maxFilesize := UInt64.not_lt.mpr (of_decide_eq_true hsize)
  have hfile : ¬ (filter.fileOnly && ent.isDir) = true := by
    intro hboth
    rw [hboth] at hkind
    cases hkind
  unfold filterReads
  rw [if_neg hfits, if_neg hfile]

theorem filterReads_of_not (hcandidate : candidate filter ent ≠ true) :
    filterReads filter ent = [] := by
  unfold filterReads
  by_cases hsize : ent.size > filter.maxFilesize
  · rw [if_pos hsize]
  · rw [if_neg hsize]
    by_cases hkind : (filter.fileOnly && ent.isDir) = true
    · rw [if_pos hkind]
    · refine absurd ?_ hcandidate
      unfold candidate
      rw [decide_eq_true (UInt64.not_lt.mp hsize), Bool.true_and, Bool.eq_false_of_not_eq_true hkind]
      rfl

/-- With a name that is long enough nothing else is read. -/
theorem entryReads_range
    (h : candidate filter ent = true → filter.matchExtension ≠ anyExtension →
      if filter.matchExtension.bytes.head? = some asterisk then
        EndsIn ent.name filter.matchExtension
      else filter.matchExtension.bytes.length ≤ ent.name.bytes.length) :
    ∀ i ∈ entryReads (some filter) ent, 0 ≤ i ∧ i ≤ ent.name.bytes.length := by
  intro i hi
  unfold entryReads at hi
  rcases List.mem_cons.mp hi with rfl | hi
  · omega
  rcases List.mem_append.mp hi with hfilter | hcopy
  · dsimp only at hfilter
    by_cases hcandidate : candidate filter ent = true
    · rw [filterReads_eq hcandidate] at hfilter
      by_cases hstar : filter.matchExtension.bytes.head? = some asterisk
      · -- the comparison is turned off
        rw [if_neg (not_not.mpr hstar)] at hfilter
        cases hfilter
      · have hany : filter.matchExtension ≠ anyExtension := by
          intro hany
          rw [hany] at hstar
          exact hstar head?_anyExtension
        have hlong := h hcandidate hany
        rw [if_neg hstar] at hlong
        rw [if_pos hstar] at hfilter
        rcases List.mem_append.mp hfilter with hname | hcompare
        · exact mem_nameReads hname
        · have hrange := strcasecmpReads_range i hcompare
          unfold suffixStart at hrange
          omega
    · rw [filterReads_of_not hcandidate] at hfilter
      cases hfilter
  · split at hcopy
    · exact mem_nameReads hcopy
    · cases hcopy

/-- With a name that is too short the comparison starts before it. -/
theorem suffixStart_mem_entryReads (hcandidate : candidate filter ent = true)
    (hstar : filter.matchExtension.bytes.head? ≠ some asterisk) :
    suffixStart filter ent ∈ entryReads (some filter) ent := by
  unfold entryReads
  dsimp only
  rw [filterReads_eq hcandidate, if_pos hstar]
  apply List.mem_cons_of_mem
  apply List.mem_append_left
  apply List.mem_append_right
  exact mem_strcasecmpReads _ _ _

end Reads

/-! ## Where the list is right -/

section Right

variable {filter : SearchFilter} {maxFiles : Nat} {entries : List DirEnt} {folder : Folder}

/-- What is listed of a folder without errors. -/
theorem getFilesInFolder_contains (hfolder : folder.Contains entries)
    (filter : Option SearchFilter) (maxFiles : Nat) (out : Nat → Vector UInt8 maxPathLength) :
    getFilesInFolder filter folder out maxFiles =
      (0, ((seen maxFiles entries).filter (passes filter)).foldl Listing.add
        (.cleared maxFiles out)) := by
  have hopens := hfolder.opens
  have hcloses := hfolder.closes
  unfold getFilesInFolder
  rw [if_neg (by omega), hfolder.reads, readFolder_listing, readFails_map_entry,
    seenEntries_map_entry, if_neg (by omega)]
  rfl

theorem seen_length_le (maxFiles : Nat) (entries : List DirEnt) :
    (seen maxFiles entries).length ≤ maxFiles := by
  rw [← seenEntries_map_entry]
  exact seenEntries_length_le _ _

/-- The rows of the list are the names of the entries that pass, each with its terminator. -/
theorem listed_row (filter : Option SearchFilter) (out : Nat → Vector UInt8 maxPathLength) {j : Nat}
    (hj : j < ((seen maxFiles entries).filter (passes filter)).length) :
    let filename := (((seen maxFiles entries).filter (passes filter)).foldl Listing.add
      (.cleared maxFiles out)).outFilenames j
    CString.ofBuffer filename = ((seen maxFiles entries).filter (passes filter))[j].name ∧
      0 ∈ filename.toList := by
  have hle : ((seen maxFiles entries).filter (passes filter)).length ≤ maxFiles :=
    Nat.le_trans (List.length_filter_le _ _) (seen_length_le _ _)
  have hrow := foldl_add_of_lt (.cleared maxFiles out) hj
  have hzero : (Listing.cleared maxFiles out).totalFolders + j = j := Nat.zero_add j
  have hcleared : (Listing.cleared maxFiles out).outFilenames j =
      Vector.replicate maxPathLength 0 := if_pos (by omega)
  rw [hzero, hcleared] at hrow
  dsimp only
  rw [hrow]
  exact ⟨ofBuffer_row _, zero_mem_row _⟩

theorem entries_eq_seen_append (maxFiles : Nat) (entries : List DirEnt) :
    entries = seen maxFiles entries ++ entries.drop (seen maxFiles entries).length := by
  have hprefix : seen maxFiles entries <+: entries :=
    (List.takeWhile_prefix _).trans (List.take_prefix _ _)
  exact (List.prefix_iff_eq_append.mp hprefix).symm

/-- Taking the first of all that satisfy a test finds those among the first, when there
is no other or they all are. -/
theorem expected_eq_seen_filter
    (hcomplete : (∀ ent ∈ entries.drop (seen maxFiles entries).length,
        satisfies filter ent = false) ∨
      (seen maxFiles entries).length = maxFiles ∧
        ∀ ent ∈ seen maxFiles entries, satisfies filter ent = true) :
    expected filter maxFiles entries = (seen maxFiles entries).filter (satisfies filter) := by
  have hle : ((seen maxFiles entries).filter (satisfies filter)).length ≤ maxFiles :=
    Nat.le_trans (List.length_filter_le _ _) (seen_length_le _ _)
  unfold expected
  conv_lhs => rw [entries_eq_seen_append maxFiles entries]
  rw [List.filter_append]
  rcases hcomplete with hnone | ⟨hlength, hall⟩
  · have hrest : (entries.drop (seen maxFiles entries).length).filter (satisfies filter) = [] := by
      rw [List.filter_eq_nil_iff]
      intro ent hent
      rw [hnone ent hent]
      exact Bool.false_ne_true
    rw [hrest, List.append_nil, List.take_of_length_le hle]
  · have hkept : (seen maxFiles entries).filter (satisfies filter) = seen maxFiles entries :=
      List.filter_eq_self.mpr hall
    rw [hkept]
    exact List.take_left' hlength

theorem complete_of_length
    (hlength : ((seen maxFiles entries).filter (satisfies filter)).length =
      (expected filter maxFiles entries).length) :
    (∀ ent ∈ entries.drop (seen maxFiles entries).length, satisfies filter ent = false) ∨
      (seen maxFiles entries).length = maxFiles ∧
        ∀ ent ∈ seen maxFiles entries, satisfies filter ent = true := by
  have hseen := seen_length_le maxFiles entries
  have hkept := List.length_filter_le (satisfies filter) (seen maxFiles entries)
  have hsplit : (entries.filter (satisfies filter)).length =
      ((seen maxFiles entries).filter (satisfies filter)).length +
        ((entries.drop (seen maxFiles entries).length).filter (satisfies filter)).length := by
    conv_lhs => rw [entries_eq_seen_append maxFiles entries]
    rw [List.filter_append, List.length_append]
  unfold expected at hlength
  rw [List.length_take, hsplit] at hlength
  by_cases hnone : ((entries.drop (seen maxFiles entries).length).filter
      (satisfies filter)).length = 0
  · left
    intro ent hent
    have hnil := List.length_eq_zero_iff.mp hnone
    exact Bool.eq_false_of_not_eq_true (List.filter_eq_nil_iff.mp hnil ent hent)
  · -- then the budget is used up, by entries that all satisfy the filter
    right
    exact ⟨by omega, List.length_filter_eq_length_iff.mp (by omega)⟩

theorem clean_of_filterCorrect {out : Nat → Vector UInt8 maxPathLength}
    (hfolder : folder.Contains entries)
    (h : FilterCorrect filter maxFiles entries folder out) : Clean filter maxFiles entries := by
  have hlisting := getFilesInFolder_contains hfolder (some filter) maxFiles out
  have htotal := h.total
  rw [hlisting, foldl_add_total] at htotal
  change 0 + ((seen maxFiles entries).filter (passesFilter filter)).length = _ at htotal
  have hcompared : ∀ ent ∈ seen maxFiles entries, candidate filter ent = true →
      filter.matchExtension ≠ anyExtension →
      if filter.matchExtension.bytes.head? = some asterisk then
        EndsIn ent.name filter.matchExtension
      else filter.matchExtension.bytes.length ≤ ent.name.bytes.length := by
    intro ent hent hcandidate hany
    by_cases hstar : filter.matchExtension.bytes.head? = some asterisk
    · -- the entry is listed, so its name is one that is expected
      rw [if_pos hstar]
      have hpass : passesFilter filter ent = true := by
        rw [passesFilter_eq_candidate, hcandidate, if_neg (not_not.mpr hstar)]
        rfl
      rcases List.mem_iff_getElem.mp (List.mem_filter.mpr ⟨hent, hpass⟩) with ⟨j, hj, hget⟩
      have hrow := (listed_row (some filter) out hj).1
      rcases h.names j (by omega) with ⟨hname, -⟩
      rw [hlisting] at hname
      dsimp only at hname hrow
      rw [hrow] at hname
      change ((seen maxFiles entries).filter (passesFilter filter))[j].name = _ at hname
      rw [hget] at hname
      rw [hname]
      have hlt : j < (expected filter maxFiles entries).length := by omega
      have hmem : (expected filter maxFiles entries)[j] ∈
          (entries.filter (satisfies filter)).take maxFiles := List.getElem_mem hlt
      have hsatisfies := (List.mem_filter.mp (List.mem_of_mem_take hmem)).2
      rcases Bool.or_eq_true_iff.mp (Bool.and_eq_true_iff.mp hsatisfies).2 with heq | hends
      · exact absurd (of_decide_eq_true heq) hany
      · exact of_decide_eq_true hends
    · rw [if_neg hstar]
      have hseen : ent ∈ seenEntries maxFiles folder.dreads := by
        rw [hfolder.reads, seenEntries_map_entry]
        exact hent
      have hread := (h.reads _ (mem_folderReads_of_seen hseen
        (suffixStart_mem_entryReads hcandidate hstar))).1
      unfold suffixStart at hread
      dsimp only at hread
      omega
  refine ⟨hcompared, complete_of_length ?_⟩
  rw [← htotal, Nat.zero_add]
  congr 1
  apply List.filter_congr
  intro ent hent
  exact (passesFilter_iff (hcompared ent hent)).symm

theorem filterCorrect_of_clean {out : Nat → Vector UInt8 maxPathLength}
    (hfolder : folder.Contains entries) (h : Clean filter maxFiles entries) :
    FilterCorrect filter maxFiles entries folder out := by
  have hlisting := getFilesInFolder_contains hfolder (some filter) maxFiles out
  have hlisted : (seen maxFiles entries).filter (passes (some filter)) =
      expected filter maxFiles entries := by
    rw [expected_eq_seen_filter h.complete]
    apply List.filter_congr
    intro ent hent
    exact passesFilter_iff (h.compared ent hent)
  -- the result, the number, the names and what is read
  refine ⟨?_, ?_, ?_, ?_⟩
  · rw [hlisting]
  · rw [hlisting, foldl_add_total, hlisted]
    exact Nat.zero_add _
  · intro i hi
    rw [hlisting]
    rw [← hlisted] at hi
    have hrow := listed_row (some filter) out hi
    dsimp only at hrow ⊢
    refine ⟨?_, hrow.2⟩
    rw [hrow.1]
    congr 1
    exact List.getElem_of_eq hlisted _
  · rintro ⟨ent, i⟩ hread
    dsimp only
    rcases mem_folderReads hread with rfl | ⟨hent, hi⟩
    · omega
    · rw [hfolder.reads, seenEntries_map_entry] at hent
      exact entryReads_range (h.compared ent hent) i hi

/-- The list is right exactly where every name that is compared is long enough, an
extension with `*` in front of something is no difference, and the entries that are read
are enough. -/
theorem filterCorrect_iff {out : Nat → Vector UInt8 maxPathLength}
    (hfolder : folder.Contains entries) :
    FilterCorrect filter maxFiles entries folder out ↔ Clean filter maxFiles entries := by
  constructor
  · exact clean_of_filterCorrect hfolder
  · exact filterCorrect_of_clean hfolder

end Right

/-- ".img" -/
def dotImg : CString := CString.ofBytes [0x2E, 0x69, 0x6D, 0x67]

/-- The filter for images of at most 4 KiB. -/
def imgFilter : SearchFilter := ⟨4096, true, dotImg⟩

/-- "a.img", of 512 bytes -/
def imgEntry : DirEnt where
  name := CString.ofBytes [0x61, 0x2E, 0x69, 0x6D, 0x67]
  name_fits := by decide
  size := 512
  isDir := false
  around _ := 0

/-- "a", of 512 bytes -/
def shortEntry : DirEnt where
  name := CString.ofBytes [0x61]
  name_fits := by decide
  size := 512
  isDir := false
  around _ := 0

def folderOf (entries : List DirEnt) : Folder := ⟨3, entries.map .entry, 0⟩

theorem folderOf_contains (entries : List DirEnt) : (folderOf entries).Contains entries :=
  ⟨Int.natCast_nonneg 3, rfl, Int.le_refl 0⟩

/-- "b.txt", of 512 bytes -/
def txtEntry : DirEnt where
  name := CString.ofBytes [0x62, 0x2E, 0x74, 0x78, 0x74]
  name_fits := by decide
  size := 512
  isDir := false
  around _ := 0

/-- "c.img", of 8 KiB -/
def largeEntry : DirEnt where
  name := CString.ofBytes [0x63, 0x2E, 0x69, 0x6D, 0x67]
  name_fits := by decide
  size := 8192
  isDir := false
  around _ := 0

/-- The directory "d" -/
def dirEntry : DirEnt where
  name := CString.ofBytes [0x64]
  name_fits := by decide
  size := 0
  isDir := true
  around _ := 0

/-- One image, behind entries that the filter leaves out. -/
def mixedEntries : List DirEnt := [txtEntry, dirEntry, largeEntry, imgEntry]

/-- With eight places the image is found; with three the loop ends before it. -/
theorem filterCorrect_iff_mixed :
    FilterCorrect imgFilter 8 mixedEntries (folderOf mixedEntries) (fun _ => Vector.replicate _ 0) ∧
      ¬ FilterCorrect imgFilter 3 mixedEntries (folderOf mixedEntries)
        (fun _ => Vector.replicate _ 0) := by
  have hfolder := folderOf_contains mixedEntries
  constructor
  · refine (filterCorrect_iff hfolder).mpr ⟨?_, Or.inl ?_⟩
    · decide
    · decide
  · intro h
    have hseen : seen 3 mixedEntries = [txtEntry, dirEntry, largeEntry] := rfl
    have hcomplete := ((filterCorrect_iff hfolder).mp h).complete
    rw [hseen] at hcomplete
    rcases hcomplete with hbehind | ⟨-, hall⟩
    · exact absurd (hbehind imgEntry List.mem_cons_self) (by decide)
    · exact absurd (hall txtEntry List.mem_cons_self) (by decide)

/-- Three bytes before the name "a" are compared with ".img". -/
theorem not_filterCorrect_short :
    ¬ FilterCorrect imgFilter 8 [shortEntry] (folderOf [shortEntry])
      (fun _ => Vector.replicate _ 0) := by
  intro h
  have hclean := clean_of_filterCorrect (folderOf_contains [shortEntry]) h
  have hseen : seen 8 [shortEntry] = [shortEntry] := rfl
  have hmem : shortEntry ∈ seen 8 [shortEntry] := by
    rw [hseen]
    exact List.mem_cons_self
  have hcompared := hclean.compared shortEntry hmem (by decide) (by decide)
  rw [if_neg (by decide)] at hcompared
  exact absurd hcompared (by decide)

end GcToolKit.App
