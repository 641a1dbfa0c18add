import GcToolKit.App.KeyDump

/-!
# The name of the key file (app/io.c, app/main.c)

`handle_dump_device` makes it from the path of the image, in the buffer that holds the
path: `change_extension` looks for a dot from the front, and the first one it finds need
not be that of the extension.

* `ofBuffer_changeExtensionIn` — the buffer holds what `changeExtension` says;
* `keepsName_iff` — it is "dir/base.keys.bin" exactly where there is no dot before the
  extension and room for the new one;
* `keysFile_ne` — other images then have other key files.
-/

namespace GcToolKit.App

/-! ## change_extension -/

variable {n : Nat}

/-- `path_length` is the size of the buffer: without a terminator the loop ends there. -/
def changeExtensionIn (path : Vector UInt8 n) (newExtension : CString) : Vector UInt8 n :=
  let str := (CString.ofBuffer path).bytes
  let i := (str.takeWhile (· ≠ 0x2E)).length
  if i < str.length then
    Vector.ofFn fun j => if j.val < i then path.get j else newExtension.bytes.getD (j.val - i) 0
  else path

/-- The bytes a buffer starts with, up to its terminator. -/
theorem toList_take_ofBuffer (path : Vector UInt8 n) {k : Nat}
    (hk : k ≤ (CString.ofBuffer path).bytes.length) :
    path.toList.take k = (CString.ofBuffer path).bytes.take k := by
  have hprefix : (CString.ofBuffer path).bytes <+: path.toList := List.takeWhile_prefix _
  rcases hprefix with ⟨rest, hpath⟩
  rw [← hpath, List.take_append_of_le_length hk]

/-- The new extension stands where the first dot was, with zeros behind it. -/
theorem toList_changeExtensionIn {path : Vector UInt8 n} (newExtension : CString)
    (hdot : ((CString.ofBuffer path).bytes.takeWhile (· ≠ 0x2E)).length <
      (CString.ofBuffer path).bytes.length) :
    (changeExtensionIn path newExtension).toList =
      ((CString.ofBuffer path).bytes.takeWhile (· ≠ 0x2E) ++
        (newExtension.bytes ++ List.replicate n 0)).take n := by
  have hhead : path.toList.take ((CString.ofBuffer path).bytes.takeWhile (· ≠ 0x2E)).length =
      (CString.ofBuffer path).bytes.takeWhile (· ≠ 0x2E) := by
    rw [toList_take_ofBuffer path (Nat.le_of_lt hdot)]
    exact (List.prefix_iff_eq_take.mp (List.takeWhile_prefix _)).symm
  unfold changeExtensionIn
  dsimp only
  rw [if_pos hdot]
  generalize (CString.ofBuffer path).bytes.takeWhile (· ≠ 0x2E) = head at hhead ⊢
  apply List.ext_getElem
  · rw [Vector.length_toList, List.length_take, List.length_append, List.length_append,
      List.length_replicate]
    omega
  · intro i hi _
    have hin : i < n := by simpa using hi
    rw [Vector.getElem_toList, Vector.getElem_ofFn, List.getElem_take]
    dsimp only
    -- in front of the dot, in the extension, and behind it
    by_cases hi' : i < head.length
    · rw [if_pos hi', List.getElem_append_left hi']
      have hbyte := List.getElem_of_eq hhead.symm hi'
      rw [List.getElem_take, Vector.getElem_toList] at hbyte
      exact hbyte.symm
    · rw [if_neg hi', List.getElem_append_right (by omega)]
      by_cases hext : i - head.length < newExtension.bytes.length
      · rw [List.getElem_append_left hext]
        rw [List.getD_eq_getElem?_getD, List.getElem?_eq_getElem hext, Option.getD_some]
      · rw [List.getElem_append_right (by omega), List.getElem_replicate]
        rw [List.getD_eq_getElem?_getD, List.getElem?_eq_none (by omega), Option.getD_none]

/-- As a string, the buffer holds what `changeExtension` gives. -/
theorem ofBuffer_changeExtensionIn (path : Vector UInt8 n) (newExtension : CString) :
    CString.ofBuffer (changeExtensionIn path newExtension) =
      changeExtension (CString.ofBuffer path) n newExtension := by
  have hle : (CString.ofBuffer path).bytes.length ≤ n := by
    have hprefix := (List.takeWhile_prefix (p := (· ≠ 0)) (l := path.toList)).length_le
    rw [Vector.length_toList] at hprefix
    exact hprefix
  unfold changeExtension
  dsimp only
  rw [List.take_of_length_le hle, Nat.min_eq_left hle]
  by_cases hdot : ((CString.ofBuffer path).bytes.takeWhile (· ≠ 0x2E)).length <
      (CString.ofBuffer path).bytes.length
  · rw [if_pos hdot]
    have hlist := toList_changeExtensionIn newExtension hdot
    generalize (CString.ofBuffer path).bytes.takeWhile (· ≠ 0x2E) = head at hlist ⊢
    unfold CString.ofBuffer
    rw [hlist, ← List.append_assoc, List.take_append, List.take_replicate,
      CString.ofBytes_append_zeros]
  · rw [if_neg hdot]
    unfold changeExtensionIn
    dsimp only
    rw [if_neg hdot]

/-- The buffer holds the string with its terminator. -/
def Holds (buffer : Vector UInt8 n) (str : CString) : Prop :=
  ∃ rest, buffer.toList = str.bytes ++ 0 :: rest

theorem Holds.ofBuffer {buffer : Vector UInt8 n} {str : CString} (h : Holds buffer str) :
    CString.ofBuffer buffer = str := by
  rcases h with ⟨rest, hbuffer⟩
  unfold CString.ofBuffer
  rw [hbuffer]
  exact CString.ofBytes_append_zero str rest

theorem Holds.length_lt {buffer : Vector UInt8 n} {str : CString} (h : Holds buffer str) :
    str.bytes.length < n := by
  rcases h with ⟨rest, hbuffer⟩
  have hlen := congrArg List.length hbuffer
  rw [Vector.length_toList, List.length_append, List.length_cons] at hlen
  omega

theorem Holds.zero_mem {buffer : Vector UInt8 n} {str : CString} (h : Holds buffer str) :
    0 ∈ buffer.toList := by
  rcases h with ⟨rest, hbuffer⟩
  rw [hbuffer]
  exact List.mem_append_right _ List.mem_cons_self

/-- What the buffer holds afterwards: the path up to its first dot with the new extension,
where there is room for all of it. -/
theorem holds_changeExtensionIn_iff {path : Vector UInt8 n} {head rest : CString}
    (newExtension : CString) (hpath : Holds path (head.append rest))
    (hhead : 0x2E ∉ head.bytes) (hrest : rest.bytes.head? = some 0x2E) (str : CString) :
    Holds (changeExtensionIn path newExtension) str ↔
      str = head.append newExtension ∧ (head.append newExtension).bytes.length < n := by
  rcases List.head?_eq_some_iff.mp hrest with ⟨tail, htail⟩
  have hbytes : (CString.ofBuffer path).bytes = head.bytes ++ 0x2E :: tail := by
    rw [hpath.ofBuffer, ← htail]
    rfl
  have hdots : ∀ b ∈ head.bytes, decide (b ≠ 0x2E) = true := by
    intro b hb
    rw [decide_eq_true_iff]
    rintro rfl
    exact hhead hb
  have hbefore : (CString.ofBuffer path).bytes.takeWhile (· ≠ 0x2E) = head.bytes := by
    rw [hbytes, List.takeWhile_append_of_pos hdots]
    exact List.append_nil _
  have hdot : ((CString.ofBuffer path).bytes.takeWhile (· ≠ 0x2E)).length <
      (CString.ofBuffer path).bytes.length := by
    rw [hbefore, hbytes, List.length_append, List.length_cons]
    omega
  have hlist := toList_changeExtensionIn newExtension hdot
  rw [hbefore, ← List.append_assoc] at hlist
  change _ = ((head.append newExtension).bytes ++ List.replicate n 0).take n at hlist
  generalize head.append newExtension = new at hlist ⊢
  by_cases hroom : new.bytes.length < n
  · -- there is room for a zero behind it
    obtain ⟨k, hk⟩ : ∃ k, n = new.bytes.length + (k + 1) := ⟨n - new.bytes.length - 1, by omega⟩
    have hnew : Holds (changeExtensionIn path newExtension) new := by
      refine ⟨List.replicate k 0, ?_⟩
      rw [hlist, List.take_append, List.take_of_length_le (by omega), List.take_replicate,
        show min (n - new.bytes.length) n = k + 1 by omega, List.replicate_succ]
    constructor
    · intro h
      exact ⟨h.ofBuffer.symm.trans hnew.ofBuffer, hroom⟩
    · rintro ⟨rfl, -⟩
      exact hnew
  · rw [List.take_append_of_le_length (by omega)] at hlist
    refine iff_of_false ?_ (fun h => hroom h.2)
    intro h
    have hzero := h.zero_mem
    rw [hlist] at hzero
    exact new.ne_zero 0 (List.mem_of_mem_take hzero) rfl

/-- A string with a dot in it, cut before the first one. -/
theorem exists_cut_of_mem {str : CString} (hdot : 0x2E ∈ str.bytes) :
    ∃ head rest : CString, str = head.append rest ∧ 0x2E ∉ head.bytes ∧
      rest.bytes.head? = some 0x2E := by
  rcases List.eq_append_cons_of_mem hdot with ⟨front, tail, hbytes, hfront⟩
  have hne := str.ne_zero
  rw [hbytes] at hne
  refine ⟨⟨front, fun b hb => hne b (List.mem_append_left _ hb)⟩,
    ⟨0x2E :: tail, fun b hb => hne b (List.mem_append_right _ hb)⟩, ?_, hfront, rfl⟩
  exact CString.ext hbytes

/-! ## Images and their key files -/

/-- The formats whose keys go to a file of their own. -/
inductive ImageExtension where
  | psv
  | trimPsv
  | img

/-- With the dot before it. -/
def ImageExtension.suffix : ImageExtension → CString
  | .psv => CString.ofBytes [0x2E, 0x70, 0x73, 0x76]
  | .trimPsv => CString.ofBytes [0x2E, 0x74, 0x72, 0x69, 0x6D, 0x2E, 0x70, 0x73, 0x76]
  | .img => CString.ofBytes [0x2E, 0x69, 0x6D, 0x67]

/-- A base name has no slash in it. -/
structure Image where
  dir : CString
  base : CString
  base_slash : 0x2F ∉ base.bytes
  extension : ImageExtension

/-- "dir/base" -/
def Image.stem (image : Image) : CString :=
  (image.dir.append (CString.ofBytes [0x2F])).append image.base

def Image.path (image : Image) : CString := image.stem.append image.extension.suffix

/-- "dir/base.keys.bin" -/
def Image.keysFile (image : Image) : CString := image.stem.append keysBin

/-- The buffer with the path of the image then holds that of its key file. -/
def KeepsName (image : Image) (path : Vector UInt8 maxPathLength) : Prop :=
  Holds (changeExtensionIn path keysBin) image.keysFile

/-- The first dot is that of the extension only where there is none before it. -/
theorem keepsName_iff {image : Image} {path : Vector UInt8 maxPathLength}
    (hpath : Holds path image.path) :
    KeepsName image path ↔
      0x2E ∉ image.stem.bytes ∧ image.keysFile.bytes.length < maxPathLength := by
  unfold KeepsName
  by_cases hdot : 0x2E ∈ image.stem.bytes
  · -- the key file of a shorter path
    rcases exists_cut_of_mem hdot with ⟨head, rest, hstem, hhead, hrest⟩
    have hcut : Holds path (head.append (rest.append image.extension.suffix)) := by
      unfold Image.path at hpath
      rw [hstem] at hpath
      exact (CString.append_assoc head rest _) ▸ hpath
    have hrest' : (rest.append image.extension.suffix).bytes.head? = some 0x2E := by
      rcases List.head?_eq_some_iff.mp hrest with ⟨tail, htail⟩
      unfold CString.append
      dsimp only
      rw [htail]
      rfl
    rw [holds_changeExtensionIn_iff keysBin hcut hhead hrest']
    refine iff_of_false ?_ (fun h => h.1 hdot)
    rintro ⟨hsame, -⟩
    have hlen := congrArg (fun s : CString => s.bytes.length) hsame
    unfold Image.keysFile at hlen
    rw [hstem] at hlen
    simp only [CString.append, List.length_append] at hlen
    have hzero : rest.bytes.length = 0 := by omega
    rw [List.length_eq_zero_iff.mp hzero] at hrest
    cases hrest
  · have hsuffix : image.extension.suffix.bytes.head? = some 0x2E := by
      cases image.extension <;> rfl
    rw [holds_changeExtensionIn_iff keysBin hpath hdot hsuffix]
    constructor
    · rintro ⟨-, hroom⟩
      exact ⟨hdot, hroom⟩
    · rintro ⟨-, hroom⟩
      exact ⟨rfl, hroom⟩

/-- The last slash is the one between the two. -/
theorem stem_inj {image image' : Image} (h : image.stem = image'.stem) :
    image.dir = image'.dir ∧ image.base = image'.base := by
  have hslash := image.base_slash
  have hslash' := image'.base_slash
  have hbytes : image.dir.bytes ++ 0x2F :: image.base.bytes =
      image'.dir.bytes ++ 0x2F :: image'.base.bytes := by
    have hstem := congrArg CString.bytes h
    unfold Image.stem CString.append at hstem
    dsimp only at hstem
    rw [List.append_assoc, List.append_assoc] at hstem
    exact hstem
  rcases List.append_eq_append_iff.mp hbytes with ⟨between, hdir, hbase⟩ | ⟨between, hdir, hbase⟩
  · rcases List.cons_eq_append_iff.mp hbase with ⟨rfl, hbase'⟩ | ⟨more, -, hbase'⟩
    · rw [List.append_nil] at hdir
      exact ⟨CString.ext hdir.symm, CString.ext (List.tail_eq_of_cons_eq hbase').symm⟩
    · rw [hbase'] at hslash
      exact absurd (List.mem_append_right _ List.mem_cons_self) hslash
  · rcases List.cons_eq_append_iff.mp hbase with ⟨rfl, hbase'⟩ | ⟨more, -, hbase'⟩
    · rw [List.append_nil] at hdir
      exact ⟨CString.ext hdir, CString.ext (List.tail_eq_of_cons_eq hbase')⟩
    · rw [hbase'] at hslash'
      exact absurd (List.mem_append_right _ List.mem_cons_self) hslash'

theorem keysFile_ne {image image' : Image} (h : image.dir ≠ image'.dir ∨ image.base ≠ image'.base) :
    image.keysFile ≠ image'.keysFile := by
  intro hsame
  have hstem : image.stem = image'.stem :=
    CString.ext (List.append_cancel_right (congrArg CString.bytes hsame))
  rcases stem_inj hstem with ⟨hdir, hbase⟩
  exact h.elim (absurd hdir) (absurd hbase)

/-- The key file has the folder and the base name of its image exactly where neither has a
dot and the name has room; then those of different folders or base names are different. -/
theorem keysFileNamed_iff {image : Image} {path : Vector UInt8 maxPathLength}
    (hpath : Holds path image.path) :
    (KeepsName image path ↔
        0x2E ∉ image.stem.bytes ∧ image.keysFile.bytes.length < maxPathLength) ∧
      ∀ (image' : Image) (path' : Vector UInt8 maxPathLength),
        KeepsName image path → KeepsName image' path' →
          image.dir ≠ image'.dir ∨ image.base ≠ image'.base →
          CString.ofBuffer (changeExtensionIn path keysBin) ≠
            CString.ofBuffer (changeExtensionIn path' keysBin) := by
  refine ⟨keepsName_iff hpath, ?_⟩
  intro image' path' hkeeps hkeeps' hother
  rw [hkeeps.ofBuffer, hkeeps'.ofBuffer]
  exact keysFile_ne hother

/-- The buffer `snprintf` leaves. -/
def pathBuffer (str : CString) : Vector UInt8 n := CString.strncpy (Vector.replicate n 0) str n

theorem holds_pathBuffer {str : CString} (h : str.bytes.length < n) :
    Holds (pathBuffer str : Vector UInt8 n) str := by
  obtain ⟨k, hk⟩ : ∃ k, n = str.bytes.length + (k + 1) := ⟨n - str.bytes.length - 1, by omega⟩
  refine ⟨List.replicate k 0, ?_⟩
  unfold pathBuffer
  rw [CString.toList_strncpy_zeros]
  unfold CString.take
  dsimp only
  rw [List.take_of_length_le (Nat.le_of_lt h), List.take_append,
    List.take_of_length_le (Nat.le_of_lt h), List.take_replicate,
    show min (n - str.bytes.length) n = k + 1 by omega, List.replicate_succ]

/-- "ux0:bak/S.psv", with more of a base name behind the "S". -/
def savedImage (more : CString) (hslash : 0x2F ∉ more.bytes) : Image where
  dir := CString.ofBytes [0x75, 0x78, 0x30, 0x3A, 0x62, 0x61, 0x6B]
  base := (CString.ofBytes [0x53]).append more
  base_slash := by
    intro hmem
    rcases List.mem_append.mp hmem with hfirst | hmore
    · exact absurd hfirst (by decide)
    · exact hslash hmore
  extension := .psv

/-- ".1" and ".2" -/
def numbered (digit : UInt8) : CString := CString.ofBytes [0x2E, digit]

theorem slash_plain : 0x2F ∉ (CString.ofBytes []).bytes := by decide
theorem slash_one : 0x2F ∉ (numbered 0x31).bytes := by decide
theorem slash_two : 0x2F ∉ (numbered 0x32).bytes := by decide

/-- "ux0:bak/S.psv" and "ux0:bak/S.keys.bin" -/
theorem keysFileNamed_iff_plain :
    let image := savedImage (CString.ofBytes []) slash_plain
    let path : Vector UInt8 maxPathLength := pathBuffer image.path
    (KeepsName image path ↔
        0x2E ∉ image.stem.bytes ∧ image.keysFile.bytes.length < maxPathLength) ∧
      ∀ (image' : Image) (path' : Vector UInt8 maxPathLength),
        KeepsName image path → KeepsName image' path' →
          image.dir ≠ image'.dir ∨ image.base ≠ image'.base →
          CString.ofBuffer (changeExtensionIn path keysBin) ≠
            CString.ofBuffer (changeExtensionIn path' keysBin) :=
  keysFileNamed_iff (holds_pathBuffer (by decide))

/-- The base names "S.1" and "S.2" share "ux0:bak/S.keys.bin". -/
theorem not_keepsName_numbered :
    let image := savedImage (numbered 0x31) slash_one
    let image' := savedImage (numbered 0x32) slash_two
    ¬ KeepsName image (pathBuffer image.path) ∧ image.base ≠ image'.base ∧
      CString.ofBuffer (changeExtensionIn (pathBuffer image.path : Vector UInt8 maxPathLength)
        keysBin) =
      CString.ofBuffer (changeExtensionIn (pathBuffer image'.path : Vector UInt8 maxPathLength)
        keysBin) := by
  intro image image'
  have hpath : Holds (pathBuffer image.path : Vector UInt8 maxPathLength) image.path :=
    holds_pathBuffer (by decide)
  have hpath' : Holds (pathBuffer image'.path : Vector UInt8 maxPathLength) image'.path :=
    holds_pathBuffer (by decide)
  refine ⟨?_, by decide, ?_⟩
  · rw [keepsName_iff hpath]
    intro h
    exact absurd h.1 (by decide)
  · rw [ofBuffer_changeExtensionIn, ofBuffer_changeExtensionIn, hpath.ofBuffer, hpath'.ofBuffer]
    decide

end GcToolKit.App
