import GcToolKit.App.NetworkDump

/-!
# Dumping the keys (app/auth.c, app/io.c)

`key_dump` writes the keys of the cart to a file, `key_dump_network` sends them.
`write_file` opens the file without truncating it, so of a file that is there the
bytes behind the keys stay.

* `writeFile_files`, `keyDump_files` — what becomes of the files;
* `keyDump_ok_iff`, `keyDumpNetwork_ok_iff` — on which outcomes the dumps succeed.
-/

namespace GcToolKit.App

open ByteFile GcToolKit.Crypto GcToolKit.Cmd56 GcToolKit.Kern

/-! ## Files -/

/-- The result is still -1 where the handle is 0. -/
def writeFile (path : CString) (data : List UInt8) (w : World) : Int × World :=
  let (wfd, w) := sceIoOpen path (oWronly ||| oCreat) w
  let (res, w) :=
    if wfd < 0 then (wfd, w)
    else if wfd > 0 then
      let (res, w) := sceIoWrite wfd data w
      (if res < 0 then res else if res ≠ data.length then sizeNotMatch else res, w)
    else (-1, w)
  let (_, w) := sceIoClose wfd w
  (res, w)

/-- `MAX_PATH` -/
def maxPathLength : Nat := 0x512

/-- ".keys.bin" -/
def keysBin : CString := CString.ofBytes [0x2E, 0x6B, 0x65, 0x79, 0x73, 0x2E, 0x62, 0x69, 0x6E]

/-- The path from its first dot on becomes the new extension, as far as there is room;
a path without a dot stays as it is. -/
def changeExtension (path : CString) (pathLength : Nat) (newExtension : CString) : CString :=
  let head := (path.bytes.take pathLength).takeWhile (· ≠ 0x2E)
  if head.length < min path.bytes.length pathLength then
    CString.ofBytes ((head ++ newExtension.bytes).take pathLength)
  else path

/-! ## Keys -/

def keyDump (outputFile : CString) (w : World) : Int × World :=
  let keys := kGetPerCartKeys w.kernel
  let (wr, w) := writeFile outputFile (cmd56KeysBytes keys) w
  (wholeWrite wr 0x40, w)

def keyDumpNetwork (netInfo : NetworkInfo) (outputFile : CString) (w : World) : Int × World :=
  let keys := kGetPerCartKeys w.kernel
  let (fd, w) := beginConnection netInfo w
  if fd < 0 then (fd, w)
  else
    let (res, w) := beginFileSend fd outputFile 0x40 w
    let (netwr, w) := if res < 0 then (-1, w) else fileSendData fd (cmd56KeysBytes keys) w
    let (_, w) := endConnection fd w
    (if netwr = 0 then sizeIsZero else if netwr ≠ 0x40 then sizeNotMatch else res, w)

/-! ## What a written file holds -/

/-- The bytes of `data` that come into a file. -/
def stored (data : List UInt8) (w : World) : List UInt8 :=
  if 0 < w.outcomes w.tick then data.take (w.outcomes (w.tick + 1)).toNat else []

/-- Without `SCE_O_TRUNC` the content stays. -/
theorem sceIoOpen_creates (path : CString) {w : World} (h : ¬ w.outcomes w.tick < 0) :
    ∃ w', sceIoOpen path (oWronly ||| oCreat) w = (w.outcomes w.tick, w') ∧
      w'.files = Function.update w.files path (some ((w.files path).getD [])) ∧
      w'.file? (w.outcomes w.tick) = some (path, 0) ∧ w'.outcomes = w.outcomes ∧
      w'.tick = w.tick + 1 := by
  have hcreat : ¬ (oWronly ||| oCreat) &&& oCreat = 0 := by decide
  have htrunc : ¬ (oWronly ||| oCreat) &&& oTrunc ≠ 0 := by decide
  rcases sceIoOpen_succeeds path _ h (fun hflags => absurd hflags hcreat) with
    ⟨w', hopen, hopened⟩
  have hfiles := hopened.files
  rw [if_neg htrunc] at hfiles
  exact ⟨w', hopen, hfiles, hopened.position, hopened.outcomes, hopened.tick⟩

/-- The file is whole if it was opened with a handle above 0 and took all. -/
theorem writeFile_whole_iff (path : CString) (data : List UInt8) (w : World) :
    (writeFile path data w).1 = data.length ↔
      0 < w.outcomes w.tick ∧ (data.length : Int) ≤ w.outcomes (w.tick + 1) := by
  have hmatch : sizeNotMatch < 0 := by decide
  unfold writeFile
  by_cases hneg : w.outcomes w.tick < 0
  · rw [sceIoOpen_refused path _ hneg]
    dsimp only
    rw [if_pos hneg]
    dsimp only
    omega
  · rcases sceIoOpen_creates path hneg with ⟨w₁, hopen, hfiles, hfd, houtcomes, htick⟩
    rw [hopen]
    dsimp only
    rw [if_neg hneg]
    -- a handle of 0 passes the check for an error but is never written through
    by_cases hpos : w.outcomes w.tick > 0
    · rw [if_pos hpos]
      dsimp only
      by_cases hrefused : w₁.outcomes w₁.tick < 0
      · rw [sceIoWrite_refused _ data hrefused]
        dsimp only
        rw [if_pos hrefused]
        rw [houtcomes, htick] at hrefused ⊢
        omega
      · rcases sceIoWrite_takes data hfd hrefused rfl with ⟨w₂, hwrite, -⟩
        rw [hwrite, houtcomes, htick]
        rw [houtcomes, htick] at hrefused
        dsimp only
        rw [if_neg (by omega)]
        by_cases hwhole : data.length ≤ (w.outcomes (w.tick + 1)).toNat
        · rw [Nat.min_eq_left hwhole, if_neg (not_not.mpr rfl)]
          exact iff_of_true rfl ⟨hpos, by omega⟩
        · rw [Nat.min_eq_right (by omega), if_pos (by omega)]
          omega
    · rw [if_neg hpos]
      dsimp only
      omega

/-- Only the file at the path changes, and only in the bytes that are stored; it is
made where it was not there. -/
theorem writeFile_files (path : CString) (data : List UInt8) (w : World) :
    (writeFile path data w).2.files =
      if w.outcomes w.tick < 0 then w.files
      else Function.update w.files path
        (some (writeAt ((w.files path).getD []) 0 (stored data w))) := by
  unfold writeFile sceIoClose stored
  by_cases hneg : w.outcomes w.tick < 0
  · rw [sceIoOpen_refused path _ hneg, if_pos hneg]
    dsimp only
    rw [if_pos hneg]
  · rcases sceIoOpen_creates path hneg with ⟨w₁, hopen, hfiles, hfd, houtcomes, htick⟩
    rw [hopen, if_neg hneg]
    dsimp only
    rw [if_neg hneg]
    -- no `SCE_O_TRUNC`: what the file held is written over from its start
    have hold : (w₁.files path).getD [] = (w.files path).getD [] := by
      rw [hfiles, Function.update_self, Option.getD_some]
    by_cases hpos : w.outcomes w.tick > 0
    · rw [if_pos hpos, if_pos hpos]
      dsimp only
      by_cases hrefused : w₁.outcomes w₁.tick < 0
      · rw [sceIoWrite_refused _ data hrefused]
        rw [houtcomes, htick] at hrefused
        have hzero : (w.outcomes (w.tick + 1)).toNat = 0 := by omega
        dsimp only
        rw [hfiles, hzero, List.take_zero]
        rfl
      · rcases sceIoWrite_takes data hfd hrefused rfl with ⟨w₂, hwrite, hwritten⟩
        rw [hwrite]
        dsimp only
        rw [hwritten.files, hold, hfiles, houtcomes, htick, Function.update_idem]
        have htake : data.take (min data.length (w.outcomes (w.tick + 1)).toNat) =
            data.take (w.outcomes (w.tick + 1)).toNat := by
          rw [Nat.min_comm, ← List.take_take, List.take_length]
        rw [htake]
    · rw [if_neg hpos, if_neg hpos]
      exact hfiles

/-! ## The key dumps -/

theorem wholeWrite_nonneg_iff (wr : Int) (size : Nat) (hsize : 0 < size) :
    0 ≤ wholeWrite wr size ↔ wr = size := by
  constructor
  · exact wholeWrite_nonneg
  · rintro rfl
    unfold wholeWrite
    rw [if_neg (by omega), if_neg (by omega), if_neg (not_not.mpr rfl)]

theorem keyDump_ok_iff (outputFile : CString) (w : World) :
    0 ≤ (keyDump outputFile w).1 ↔
      0 < w.outcomes w.tick ∧ 0x40 ≤ w.outcomes (w.tick + 1) := by
  have hlen := length_cmd56KeysBytes (kGetPerCartKeys w.kernel)
  have hwhole := writeFile_whole_iff outputFile (cmd56KeysBytes (kGetPerCartKeys w.kernel)) w
  rw [hlen] at hwhole
  unfold keyDump
  dsimp only
  rw [wholeWrite_nonneg_iff _ _ (by decide)]
  exact hwhole

theorem keyDump_files (outputFile : CString) (w : World) :
    (keyDump outputFile w).2.files =
      if w.outcomes w.tick < 0 then w.files
      else Function.update w.files outputFile (some (writeAt ((w.files outputFile).getD []) 0
        (stored (cmd56KeysBytes (kGetPerCartKeys w.kernel)) w))) :=
  writeFile_files outputFile _ w

theorem keyDumpNetwork_ok_iff (netInfo : NetworkInfo) (outputFile : CString) (w : World) :
    0 ≤ (keyDumpNetwork netInfo outputFile w).1 ↔
      0 ≤ w.outcomes w.tick ∧ 0 ≤ w.outcomes (w.tick + 1) ∧ 0 ≤ w.outcomes (w.tick + 2) ∧
        0 ≤ w.outcomes (w.tick + 3) ∧ 0x40 ≤ w.outcomes (w.tick + 4) := by
  have hlen := length_cmd56KeysBytes (kGetPerCartKeys w.kernel)
  have hzero : sizeIsZero < 0 := by decide
  have hmatch : sizeNotMatch < 0 := by decide
  unfold keyDumpNetwork
  dsimp only
  -- ticks 0 to 2 connect, tick 3 sends the packet, tick 4 the keys
  rcases beginConnection_cases netInfo w with
    ⟨hneg, hfails⟩ | ⟨hsocket, hsocket', hpton, hconnect, houtcomes, htick, -⟩
  · rw [if_pos hneg]
    dsimp only
    exact iff_of_false (not_le.mpr hneg) fun h => hfails ⟨h.1, h.2.1, h.2.2.1⟩
  · generalize beginConnection netInfo w = connected at hsocket houtcomes htick ⊢
    rw [if_neg (by omega)]
    dsimp only
    unfold beginFileSend fileSendData
    rcases sceNetSend_cases connected.1 (Net.sendFilePacket outputFile 0x40).toList connected.2 with
      ⟨hrefused, hneg⟩ | ⟨htaken, hsent, houtcomes', htick', -⟩
    · rw [houtcomes, htick] at hrefused
      rw [if_pos hneg]
      dsimp only
      rw [if_neg (by omega), if_pos (by omega)]
      omega
    · generalize sceNetSend connected.1 (Net.sendFilePacket outputFile 0x40).toList connected.2 =
        packet at hsent houtcomes' htick' ⊢
      have hpacket : 0 ≤ packet.1 := by
        rw [hsent]
        exact Int.natCast_nonneg _
      rw [if_neg (not_lt.mpr hpacket)]
      rw [houtcomes, htick] at htaken
      rw [houtcomes] at houtcomes'
      rw [htick] at htick'
      have hnext : w.tick + 3 + 1 = w.tick + 4 := rfl
      rw [hnext] at htick'
      -- only here does a short write show: the packet's own length is never checked
      rcases sceNetSend_cases connected.1 (cmd56KeysBytes (kGetPerCartKeys w.kernel)) packet.2 with
        ⟨hrefused', hneg'⟩ | ⟨htaken', hsent', -, -, -⟩
      · rw [houtcomes', htick'] at hrefused'
        rw [if_neg (by omega), if_pos (by omega)]
        omega
      · rw [hlen, houtcomes', htick'] at hsent'
        rw [houtcomes', htick'] at htaken'
        rw [hsent']
        -- a part of the keys is `SIZE_NOT_MATCH`, none of them `SIZE_IS_ZERO`
        by_cases hwhole : 0x40 ≤ w.outcomes (w.tick + 4)
        · have hmin : min 0x40 (w.outcomes (w.tick + 4)).toNat = 0x40 := by omega
          rw [hmin, if_neg (by decide), if_neg (by decide)]
          exact iff_of_true hpacket ⟨hsocket', hpton, hconnect, htaken, hwhole⟩
        · have hpart : (min 0x40 (w.outcomes (w.tick + 4)).toNat : Nat) ≠ 0x40 := by omega
          split
          · omega
          · rw [if_pos (by omega)]
            omega

end GcToolKit.App
