import GcToolKit.App.Sfo

/-!
# Looking a name up in a well-formed file (app/sfo.c)

On a file as its format has it, the table is a list of entries, each with a name and a
value of its own, and `read_sfo_key` finds the first string with the name it is asked for.

* `visitAt_wellFormed` — one turn of the loop compares the entry's name with the key;
* `readSfoKey_lookup` — the whole call.
-/

namespace GcToolKit.App

open CMemory

/-! ## The format -/

/-- The entries of the table. -/
def sfoEntries (content : List UInt8) : List GcSfoKey :=
  (List.range (GcSfoHeader.ofBytes content).count.toNat).map fun i =>
    .ofBytes (content.drop (sizeofSfoHeader + sizeofSfoKey * i))

section Format

variable (content : List UInt8) (sKey : GcSfoKey)

def nameStart : Nat := (GcSfoHeader.ofBytes content).keyOffset.toNat + sKey.nameOffset.toNat

def valueStart : Nat := (GcSfoHeader.ofBytes content).valueOffset.toNat + sKey.dataOffset.toNat

/-- The string in the file that the entry is named by. -/
def nameOf : CString := .ofBytes (content.drop (nameStart content sKey))

def valueOf : CString := .ofBytes (content.drop (valueStart content sKey))

end Format

/-- The strings begin inside the file and have a terminator there. -/
structure WellFormedSfo (content : List UInt8) : Prop where
  magic : (GcSfoHeader.ofBytes content).magic = sfoMagic
  count_pos : 1 ≤ (GcSfoHeader.ofBytes content).count.toNat
  count_le : (GcSfoHeader.ofBytes content).count.toNat ≤ 200
  table : sizeofSfoHeader + sizeofSfoKey * (GcSfoHeader.ofBytes content).count.toNat ≤
    content.length
  name : ∀ sKey ∈ sfoEntries content, sKey.type = psfTypeStr →
    0 ∈ content.drop (nameStart content sKey)
  name_short : ∀ sKey ∈ sfoEntries content, sKey.type = psfTypeStr →
    (nameOf content sKey).bytes.length ≤ 62
  value : ∀ sKey ∈ sfoEntries content, sKey.type = psfTypeStr →
    0 ∈ content.drop (valueStart content sKey)

/-- A string entry with exactly that name. -/
def isNamed (content : List UInt8) (sfoKey : CString) (sKey : GcSfoKey) : Bool :=
  sKey.type = psfTypeStr ∧ nameOf content sKey = sfoKey

/-- What a lookup is to give, with `out_key` before and afterwards. -/
def LookedUp (content : List UInt8) (sfoKey : CString) (out out' : Memory) (res : Int) : Prop :=
  match (sfoEntries content).find? (isNamed content sfoKey) with
  | some sKey => res = 0 ∧ CMemory.Holds out' 0 (valueOf content sKey)
  | none => res = sfoKeyNotFound ∧ out' = out

/-! ## One turn of the loop -/

theorem sfoEntries_length (content : List UInt8) :
    (sfoEntries content).length = (GcSfoHeader.ofBytes content).count.toNat := by
  unfold sfoEntries
  rw [List.length_map, List.length_range]

theorem lt_of_mem_drop {content : List UInt8} {off : Nat} {b : UInt8} (h : b ∈ content.drop off) :
    off < content.length := by
  have hpos := List.length_pos_of_mem h
  rw [List.length_drop] at hpos
  omega

/-- An offset inside the file is a sum that does not wrap around. -/
theorem toNat_add_of_lt {a b : UInt32} {size : Nat} (hsize : size < 2 ^ 31)
    (h : a.toNat + b.toNat < size) : (a + b).toNat = a.toNat + b.toNat := by
  rw [UInt32.toNat_add, Nat.mod_eq_of_lt (by omega)]

section Turn

variable {s : SfoSearch} (hfile : WellFormedSfo s.data) (hsize : s.data.length < 2 ^ 31)

include hfile

theorem headerError_wellFormed : s.headerError = none := by
  have hpos := hfile.count_pos
  have htable := hfile.table
  have hmany : ¬ s.header.count > 200 := by
    intro hgt
    have hlt := UInt32.lt_iff_toNat_lt.mp hgt
    exact absurd hfile.count_le (Nat.not_le.mpr hlt)
  have hlong : ¬ s.data.length ≤ sizeofSfoHeader := by
    unfold sizeofSfoKey at htable
    omega
  have hmagic : ¬ s.header.magic ≠ sfoMagic := not_not.mpr hfile.magic
  have hroom : ¬ s.data.length < sizeofSfoHeader + sizeofSfoKey * s.header.count.toNat :=
    Nat.not_lt.mpr htable
  unfold SfoSearch.headerError
  rw [if_neg hlong, if_neg hmagic, if_neg hmany, if_neg hroom]

/-- The pointer leads to the entry of the table. -/
theorem entry_wellFormed {i : Nat} (h : i < (sfoEntries s.data).length) :
    s.entry i = (sfoEntries s.data)[i] := by
  have hlt := h
  rw [sfoEntries_length] at hlt
  have hcount := hfile.count_le
  apply Option.some.inj
  rw [← List.getElem?_eq_getElem h]
  unfold SfoSearch.entry SfoSearch.sKey sfoEntries
  rw [List.getElem?_map, List.getElem?_range hlt, sfoPtr_toNat (by omega)]
  rfl

include hsize

theorem nameOffset_wellFormed {sKey : GcSfoKey} (hmem : sKey ∈ sfoEntries s.data)
    (hstr : sKey.type = psfTypeStr) :
    (s.header.nameOffset sKey).toNat = nameStart s.data sKey := by
  have hlt := lt_of_mem_drop (hfile.name sKey hmem hstr)
  exact toNat_add_of_lt hsize hlt

theorem dataOffset_wellFormed {sKey : GcSfoKey} (hmem : sKey ∈ sfoEntries s.data)
    (hstr : sKey.type = psfTypeStr) :
    (s.header.dataOffset sKey).toNat = valueStart s.data sKey := by
  have hlt := lt_of_mem_drop (hfile.value sKey hmem hstr)
  exact toNat_add_of_lt hsize hlt

theorem holds_value {sKey : GcSfoKey} (hmem : sKey ∈ sfoEntries s.data)
    (hstr : sKey.type = psfTypeStr) :
    CMemory.Holds s.sfoBuffer (s.header.dataOffset sKey).toNat (valueOf s.data sKey) := by
  have hholds := holds_ofBytes_drop s.mem.around 0 (hfile.value sKey hmem hstr)
  rw [Int.zero_add] at hholds
  rw [dataOffset_wellFormed hfile hsize hmem hstr]
  exact hholds

theorem holds_name {sKey : GcSfoKey} (hmem : sKey ∈ sfoEntries s.data)
    (hstr : sKey.type = psfTypeStr) :
    CMemory.Holds s.sfoBuffer (s.header.nameOffset sKey).toNat (nameOf s.data sKey) := by
  have hholds := holds_ofBytes_drop s.mem.around 0 (hfile.name sKey hmem hstr)
  rw [Int.zero_add] at hholds
  rw [nameOffset_wellFormed hfile hsize hmem hstr]
  exact hholds

variable (hkey : s.sfoKey.bytes.length < s.outKeySize.toNat)

include hkey

/-- An entry is found if it is a string with the name, and is passed over otherwise. -/
theorem visitAt_wellFormed {i : Nat} (h : i < (sfoEntries s.data).length) :
    s.visitAt i = if isNamed s.data s.sfoKey (sfoEntries s.data)[i] then .found else .next := by
  have hentry : s.sKey (sfoPtr i) = (sfoEntries s.data)[i] := entry_wellFormed hfile h
  have hmem : (sfoEntries s.data)[i] ∈ sfoEntries s.data := List.getElem_mem h
  generalize (sfoEntries s.data)[i] = sKey at hentry hmem
  have hptr : ¬ (sfoPtr i).toNat > s.data.length := by
    have htable := hfile.table
    have hcount := hfile.count_le
    rw [sfoEntries_length] at h
    rw [sfoPtr_toNat (by omega)]
    unfold sizeofSfoKey sizeofSfoHeader at *
    omega
  unfold SfoSearch.visitAt SfoSearch.visit
  rw [if_neg hptr, hentry]
  by_cases hstr : sKey.type = psfTypeStr
  · have hname := lt_of_mem_drop (hfile.name sKey hmem hstr)
    have hvalue := lt_of_mem_drop (hfile.value sKey hmem hstr)
    rw [if_neg (not_not.mpr hstr), nameOffset_wellFormed hfile hsize hmem hstr,
      if_neg (by omega), dataOffset_wellFormed hfile hsize hmem hstr, if_neg (by omega)]
    -- the name and its terminator fit into the array
    have hcopied : (nameOf s.data sKey).bytes.length < keyCopied :=
      Nat.lt_succ_of_le (hfile.name_short sKey hmem hstr)
    have hkeyName : CMemory.Holds (s.keyName i (sfoPtr i)) 0 (nameOf s.data sKey) := by
      unfold SfoSearch.keyName
      rw [hentry]
      exact (holds_name hfile hsize hmem hstr).strncpy hcopied _ 0
    have hnamed : isNamed s.data s.sfoKey sKey = true ↔ nameOf s.data sKey = s.sfoKey := by
      unfold isNamed
      rw [decide_eq_true_iff]
      exact and_iff_right hstr
    have hsame := (hkeyName.strncmp_iff hkey).trans hnamed.symm
    by_cases hfound : isNamed s.data s.sfoKey sKey = true
    · rw [if_pos hfound, if_pos (hsame.mpr hfound)]
    · rw [if_neg hfound, if_neg (fun h => hfound (hsame.mp h))]
  · have hnamed : ¬ isNamed s.data s.sfoKey sKey = true := by
      unfold isNamed
      rw [decide_eq_true_iff]
      exact fun h => hstr h.1
    rw [if_pos hstr, if_neg hnamed]

variable (hvalues : ∀ sKey ∈ sfoEntries s.data, sKey.type = psfTypeStr →
  (valueOf s.data sKey).bytes.length < min 63 (s.outKeySize.toNat - 1))

include hvalues

theorem search_wellFormed (out : Memory) :
    LookedUp s.data s.sfoKey out (s.search out).2 (s.search out).1 := by
  have hheader := headerError_wellFormed hfile
  have hvisit {i : Nat} (h : i < (sfoEntries s.data).length) :=
    visitAt_wellFormed hfile hsize hkey h
  have hlength := sfoEntries_length s.data
  unfold LookedUp
  cases hfind : (sfoEntries s.data).find? (isNamed s.data s.sfoKey) with
  | none =>
    have hnone := List.find?_eq_none.mp hfind
    have hnext : ∀ i < s.header.count.toNat, s.visitAt i = .next := by
      intro i hi
      have h : i < (sfoEntries s.data).length := Nat.lt_of_lt_of_eq hi hlength.symm
      rw [hvisit h, if_neg (hnone _ (List.getElem_mem h))]
    rw [SfoSearch.search_notFound hheader hnext]
    exact ⟨rfl, rfl⟩
  | some sKey =>
    -- the entries before the first with the name are passed over
    obtain ⟨hnamed, i, h, hget, hbefore⟩ := List.find?_eq_some_iff_getElem.mp hfind
    have hreaches : s.Reaches i := by
      refine ⟨hheader, Nat.lt_of_lt_of_eq h hlength, ?_⟩
      intro j hj
      have hnot := hbefore j hj
      rw [Bool.not_eq_true'] at hnot
      rw [hvisit (Nat.lt_trans hj h), if_neg (Bool.not_eq_true _ ▸ hnot)]
    have hfound : s.visitAt i = .found := by
      rw [hvisit h, hget, if_pos hnamed]
    have hmem : sKey ∈ sfoEntries s.data := List.mem_of_find?_eq_some hfind
    have hentry : s.sKey (sfoPtr i) = sKey := (entry_wellFormed hfile h).trans hget
    unfold isNamed at hnamed
    have hstr := (of_decide_eq_true hnamed).1
    have hshort := hvalues sKey hmem hstr
    have hholds := holds_value hfile hsize hmem hstr
    rw [← hentry] at hholds
    rw [hreaches.search_found hfound]
    refine ⟨rfl, ?_⟩
    rw [← hentry] at hshort ⊢
    exact SfoSearch.holds_outKey hholds (by unfold keyCopied; omega) (by omega) out

end Turn

/-! ## The whole call -/

theorem readSfoKey_lookup {sfoFile sfoKey : CString} {outKeySize : UInt32} {mem : SfoMemory}
    {content : List UInt8} {w : World} (hread : ReadsInFull sfoFile content w)
    (hallocated : mem.allocated = true) (hfile : WellFormedSfo content)
    (hkey : sfoKey.bytes.length < outKeySize.toNat)
    (hvalues : ∀ sKey ∈ sfoEntries content, sKey.type = psfTypeStr →
      (valueOf content sKey).bytes.length < min 63 (outKeySize.toNat - 1))
    (out : Memory) :
    LookedUp content sfoKey out (readSfoKey sfoFile sfoKey outKeySize mem out w).2.1
      (readSfoKey sfoFile sfoKey outKeySize mem out w).1 := by
  have hne : content ≠ [] := by
    rintro rfl
    have htable := hfile.table
    have hpos := hfile.count_pos
    unfold sizeofSfoHeader at htable
    exact absurd htable (by rw [List.length_nil]; omega)
  have hload := hread.loadSfo hne
  have hsearch := search_wellFormed (s := ⟨content, sfoKey, outKeySize, mem⟩) hfile
    hread.length_lt hkey hvalues out
  rw [← hallocated] at hload
  rcases readSfoKey_read sfoKey outKeySize mem out hload with ⟨hres, hout⟩
  rw [hres, hout]
  exact hsearch

/-- An integer named "A" and a string "x" named "B". -/
def twoEntries : List UInt8 :=
  [0x00, 0x50, 0x53, 0x46, 0x01, 0x01, 0x00, 0x00, 0x34, 0x00, 0x00, 0x00, 0x38, 0x00, 0x00, 0x00,
    0x02, 0x00, 0x00, 0x00,
    0x00, 0x00, 0x04, 0x04, 0x04, 0x00, 0x00, 0x00, 0x04, 0x00, 0x00, 0x00, 0x00, 0x00, 0x00, 0x00,
    0x02, 0x00, 0x04, 0x02, 0x02, 0x00, 0x00, 0x00, 0x04, 0x00, 0x00, 0x00, 0x04, 0x00, 0x00, 0x00,
    0x41, 0x00, 0x42, 0x00,
    0x07, 0x00, 0x00, 0x00, 0x78, 0x00, 0x00, 0x00]

def valueEntry : GcSfoKey := ⟨0, 4, 4, 4, 4, 0⟩

def stringEntry : GcSfoKey := ⟨2, 4, 2, 2, 4, 4⟩

theorem twoEntries_entries : sfoEntries twoEntries = [valueEntry, stringEntry] := by decide

/-- What holds of the only string holds of every string. -/
theorem twoEntries_strings {p : GcSfoKey → Prop} (h : p stringEntry) :
    ∀ sKey ∈ sfoEntries twoEntries, sKey.type = psfTypeStr → p sKey := by
  rw [twoEntries_entries]
  refine List.forall_mem_cons.mpr ⟨fun hstr => ?_, List.forall_mem_singleton.mpr fun _ => h⟩
  exact absurd hstr (by decide)

theorem twoEntries_wellFormed : WellFormedSfo twoEntries where
  magic := by decide
  count_pos := by decide
  count_le := by decide
  table := by decide
  name := twoEntries_strings (by decide)
  name_short := twoEntries_strings (by decide)
  value := twoEntries_strings (by decide)

/-- "B" -/
def keyB : CString := CString.ofBytes [0x42]

theorem readSfoKey_lookup_twoEntries :
    LookedUp twoEntries keyB (fun _ => 1)
      (readSfoKey keyB keyB 63 ⟨true, fun _ => 1, fun _ _ => 1, fun _ _ => 1⟩ (fun _ => 1)
        (sfoWorld (some twoEntries))).2.1
      (readSfoKey keyB keyB 63 ⟨true, fun _ => 1, fun _ _ => 1, fun _ _ => 1⟩ (fun _ => 1)
        (sfoWorld (some twoEntries))).1 :=
  readSfoKey_lookup (sfoWorld_reads keyB (by decide)) rfl twoEntries_wellFormed (by decide)
    (twoEntries_strings (by decide)) _

end GcToolKit.App
