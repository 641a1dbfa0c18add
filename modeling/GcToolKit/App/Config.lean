import GcToolKit.App.ImeBounds
import GcToolKit.Lib.KeptValue
import GcToolKit.Lib.Run

/-!
# The settings (app/config.c)

`CONFIG` is a structure in which no padding arises. `save_config` writes its bytes over
those of config.bin, which is not truncated, and `init_config` takes them back where the
file has as many, or begins with the defaults. A save that is cut short leaves a file of
the right length with bytes of two configurations in it.

* `config_usable` — whatever becomes of the saves, the version, the folder and the
  terminators of the strings are as the program needs them;
* `config_kept` — where no save is cut short in the file, it keeps one configuration whole
  across the starts, and a dump is only ever given an address that was checked.
-/

namespace GcToolKit.App.Config

open ByteBuf ByteFile LittleEndian GcToolKit.Kern KeptValue Run

/-! ## GcConfig -/

/-- `n` is the size of `GcMusicSetting` and `GcConfirmButtonSetting`, which the compiler
chooses. -/
def sizeofGcConfig (n : Nat) : Nat := 22 + maxPathLength + 2 * n

abbrev GcConfig (n : Nat) := Vector UInt8 (sizeofGcConfig n)

variable {n : Nat}

theorem fits_config {k : Nat} (h : k ≤ 22 + maxPathLength + 2 * n) : k ≤ sizeofGcConfig n := h

def majorVersion : Field (sizeofGcConfig n) 2 := ⟨0, fits_config (by omega)⟩

def minorVersion : Field (sizeofGcConfig n) 2 := ⟨2, fits_config (by omega)⟩

def ipAddress : Field (sizeofGcConfig n) 16 := ⟨4, fits_config (by omega)⟩

def port : Field (sizeofGcConfig n) 2 := ⟨20, fits_config (by omega)⟩

def backupFolder : Field (sizeofGcConfig n) maxPathLength := ⟨22, fits_config (by omega)⟩

def musicSetting : Field (sizeofGcConfig n) n := ⟨22 + maxPathLength, fits_config (by omega)⟩

def confirmSetting : Field (sizeofGcConfig n) n :=
  ⟨22 + maxPathLength + n, fits_config (by omega)⟩

def gctkMajorVersion : Nat := 1
def gctkMinorVersion : Nat := 0
def defaultPort : Nat := 46327

/-- "192.168.1.0" -/
def defaultIp : CString :=
  CString.ofBytes [0x31, 0x39, 0x32, 0x2E, 0x31, 0x36, 0x38, 0x2E, 0x31, 0x2E, 0x30]

/-- "bak" -/
def defaultFolderName : CString := CString.ofBytes [0x62, 0x61, 0x6B]

/-- "savedata0:/config.bin" -/
def configSaveLocation : CString :=
  CString.ofBytes [0x73, 0x61, 0x76, 0x65, 0x64, 0x61, 0x74, 0x61, 0x30, 0x3A, 0x2F, 0x63, 0x6F,
    0x6E, 0x66, 0x69, 0x67, 0x2E, 0x62, 0x69, 0x6E]

/-- What `reset_config` makes of `CONFIG`. -/
def defaultConfig (n : Nat) : GcConfig n :=
  let config : GcConfig n := Vector.replicate _ 0
  let config := majorVersion.put config (leVec 2 gctkMajorVersion)
  let config := minorVersion.put config (leVec 2 gctkMinorVersion)
  let config := ipAddress.put config (CString.strncpy (ipAddress.get config) defaultIp 16)
  let config := backupFolder.put config
    (CString.strncpy (backupFolder.get config) defaultFolderName maxPathLength)
  let config := port.put config (leVec 2 defaultPort)
  -- MUSIC_USE_SYSTEM_SETTING and CONFIRM_USE_SYSTEM_SETTING
  let config := musicSetting.put config (leVec n 0)
  confirmSetting.put config (leVec n 0)

/-- Bytes stored from an offset on; none are stored behind the end. -/
def storeAt {m : Nat} (buffer : Vector UInt8 m) (off : Nat) (bytes : List UInt8) : Vector UInt8 m :=
  Vector.ofFn fun i =>
    if off ≤ i.val ∧ i.val < off + bytes.length then bytes.getD (i.val - off) 0 else buffer.get i

/-! ## The calls -/

def saveConfig (config : GcConfig n) (w : World) : Int × World :=
  writeFile configSaveLocation config.toList w

def resetConfig (n : Nat) (w : World) : GcConfig n × World :=
  (defaultConfig n, (saveConfig (defaultConfig n) w).2)

/-- The result, the data with what was read over them, and the world. -/
def readFile {m : Nat} (path : CString) (data : Vector UInt8 m) (w : World) :
    Int × Vector UInt8 m × World :=
  let opened := sceIoOpen path oRdonly w
  let read :=
    if opened.1 > 0 then
      match sceIoRead opened.1 m opened.2 with
      | (.error code _, w) => (code, data, w)
      | (.bytes bytes, w) =>
        (if bytes.length ≠ m then sizeNotMatch else bytes.length, storeAt data 0 bytes, w)
    else (-1, data, opened.2)
  (read.1, read.2.1, (sceIoClose opened.1 read.2.2).2)

/-- `file_exist` -/
def fileExist (path : CString) (w : World) : Bool × World :=
  let stat := sceIoGetstat path w
  (decide (stat.1 ≥ 0), stat.2.2)

/-- In front of the read. -/
def initBegin (config : GcConfig n) (w : World) : GcConfig n × World :=
  let exist := fileExist configSaveLocation w
  if exist.1 then (config, exist.2) else resetConfig n exist.2

def initConfig (config : GcConfig n) (w : World) : GcConfig n × World :=
  let begun := initBegin config w
  let read := readFile configSaveLocation begun.1 begun.2
  if read.1 ≠ sizeofGcConfig n ∨ ofLe (majorVersion.get read.2.1).toList < gctkMajorVersion then
    resetConfig n read.2.2
  else (read.2.1, read.2.2)

/-! ## The changes -/

/-- `isspace` -/
def isSpace (b : UInt8) : Bool := b = 0x20 || (0x09 ≤ b && b ≤ 0x0D)

def isDigit (b : UInt8) : Bool := 0x30 ≤ b && b ≤ 0x39

def atoi (text : CString) : Int :=
  let rest := text.bytes.dropWhile isSpace
  let unsigned := if rest.head? = some 0x2D ∨ rest.head? = some 0x2B then rest.tail else rest
  let number : Nat :=
    (unsigned.takeWhile isDigit).foldl (fun k b => 10 * k + (b.toNat - 0x30)) 0
  if rest.head? = some 0x2D then -number else number

/-- The string from a place in `CONFIG` on, as far as `CONFIG` goes. -/
def stringAt (config : GcConfig n) (off : Nat) : CString := CString.ofBytes (config.toList.drop off)

/-- `open_ime` with `CONFIG.ip_address`; there is no text where the dialog was closed. -/
def openIme (typed : Option (List UInt16)) (config : GcConfig n) : GcConfig n :=
  match typed with
  | none => config
  | some units => storeAt config (ipAddress (n := n)).off (oslOskGetText units).text

/-- `open_ime_short` with `CONFIG.port`; the number is a `uint32_t`. -/
def openImeShort (typed : Option (List UInt16)) (config : GcConfig n) : GcConfig n :=
  match typed with
  | none => config
  | some units =>
    let num := (atoi (CString.ofBytes (oslOskGetText units).text) % 2 ^ 32).toNat
    port.put config (leVec 2 (if num > 0xFFFF then 0xFFFF else num))

/-- `CHANGE_IP`; `valid` is `check_ip_address_valid`. -/
def changeIp (valid : CString → Bool) (typed : Option (List UInt16)) (config : GcConfig n) :
    GcConfig n :=
  let config := openIme typed config
  if valid (stringAt config (ipAddress (n := n)).off) then config
  else ipAddress.put config (CString.strncpy (ipAddress.get config) defaultIp 15)

/-! ## Runs -/

/-- The calls of `main` and `handle_menu_set_network_options` on the settings. -/
inductive ConfigCall where
  | start
  | changeIp (typed : Option (List UInt16))
  | changePort (typed : Option (List UInt16))
  | startDump

/-- `CONFIG` and config.bin. -/
structure Settings (n : Nat) where
  config : GcConfig n
  file : Option (List UInt8)

/-- The world of a call, in which nothing but these calls has touched config.bin. -/
def Settings.world (s : Settings n) (w : World) : World :=
  { w with files := Function.update w.files configSaveLocation s.file }

/-- What `handle_dump_device` is given. -/
def networkInfo (config : GcConfig n) : NetworkInfo where
  ipAddress := stringAt config (ipAddress (n := n)).off
  port := UInt16.ofNat (ofLe (port.get config).toList)

def settingsStep (valid : CString → Bool) (s : Settings n) (i : ConfigCall × World) :
    Settings n × Option NetworkInfo :=
  match i.1 with
  | .start =>
    -- a new process has zeros in `CONFIG`
    let begun := initConfig (Vector.replicate _ 0 : GcConfig n) (s.world i.2)
    (⟨begun.1, begun.2.files configSaveLocation⟩, none)
  | .changeIp typed => ({ s with config := changeIp valid typed s.config }, none)
  | .changePort typed => ({ s with config := openImeShort typed s.config }, none)
  | .startDump =>
    ({ s with file := (saveConfig s.config (s.world i.2)).2.files configSaveLocation },
      some (networkInfo s.config))

def settings (n : Nat) (valid : CString → Bool) :
    Machine (Settings n) (ConfigCall × World) (Option NetworkInfo) where
  step := settingsStep valid

/-! ## Stored bytes -/

theorem getElem_storeAt {m : Nat} (buffer : Vector UInt8 m) (off : Nat) (bytes : List UInt8)
    {i : Nat} (hi : i < m) :
    (storeAt buffer off bytes)[i] =
      if off ≤ i ∧ i < off + bytes.length then bytes.getD (i - off) 0 else buffer[i] := by
  unfold storeAt
  rw [Vector.getElem_ofFn]
  rfl

/-- A member is stored at its place. -/
theorem put_eq_storeAt {k len : Nat} (f : Field k len) (b : Vector UInt8 k) (v : Vector UInt8 len) :
    f.put b v = storeAt b f.off v.toList := by
  apply Vector.ext
  intro i hi
  rw [Field.getElem_put, getElem_storeAt, Vector.length_toList]
  split
  · rw [List.getD_eq_getElem?_getD]
    simp [show i - f.off < len by omega]
  · rfl

/-- All of the buffer is stored. -/
theorem storeAt_whole {m : Nat} (buffer : Vector UInt8 m) {bytes : List UInt8}
    (h : bytes.length = m) : (storeAt buffer 0 bytes).toList = bytes := by
  apply List.ext_getElem
  · simp [h]
  · intro i hi hi'
    have him : i < m := by omega
    rw [Vector.getElem_toList, getElem_storeAt _ _ _ him, if_pos (by omega)]
    simp [hi']

/-- A terminator ends the string, if no earlier one does. -/
theorem length_ofBytes_le {bytes : List UInt8} {k : Nat} (h : bytes[k]? = some 0) :
    (CString.ofBytes bytes).bytes.length ≤ k := by
  by_contra hlong
  have hk : k < (CString.ofBytes bytes).bytes.length := by omega
  have hbefore : (CString.ofBytes bytes).bytes <+: bytes := List.takeWhile_prefix _
  have hsame : (CString.ofBytes bytes).bytes[k]? = bytes[k]? := by
    rcases hbefore with ⟨rest, hrest⟩
    have hfront : ((CString.ofBytes bytes).bytes ++ rest)[k]? =
        (CString.ofBytes bytes).bytes[k]? := List.getElem?_append_left hk
    rw [hrest] at hfront
    exact hfront.symm
  rw [h, List.getElem?_eq_getElem hk] at hsame
  exact (CString.ofBytes bytes).ne_zero _ (List.getElem_mem hk) (Option.some.inj hsame)

/-! ## The bytes that are never chosen -/

/-- Those of the address, without its last one, and of the port can be changed. -/
def Chosen (i : Nat) : Prop := 4 ≤ i ∧ i < 19 ∨ 20 ≤ i ∧ i < 22

/-- From an offset on, the bytes are those of the defaults where they are not chosen. -/
def SettledFrom (n off : Nat) (bytes : List UInt8) : Prop :=
  ∀ i b, bytes[i]? = some b → ¬ Chosen (off + i) → (defaultConfig n).toList[off + i]? = some b

abbrev Settled (n : Nat) (bytes : List UInt8) : Prop := SettledFrom n 0 bytes

theorem settled_default : Settled n (defaultConfig n).toList := by
  intro i b h _
  simpa using h

theorem SettledFrom.take {off : Nat} {bytes : List UInt8} (h : SettledFrom n off bytes) (k : Nat) :
    SettledFrom n off (bytes.take k) := by
  intro i b hb hi
  rw [List.getElem?_take] at hb
  split at hb
  · exact h i b hb hi
  · cases hb

theorem SettledFrom.storeAt {config : GcConfig n} (hconfig : Settled n config.toList) {off : Nat}
    {bytes : List UInt8} (h : SettledFrom n off bytes) :
    Settled n (storeAt config off bytes).toList := by
  intro i b hb hi
  have hlt : i < sizeofGcConfig n := by
    have := (List.getElem?_eq_some_iff.mp hb).1
    simpa using this
  rw [Vector.getElem?_toList, Vector.getElem?_eq_getElem hlt, getElem_storeAt] at hb
  split at hb
  · next hin =>
    have hplace : off + (i - off) = i := by omega
    have hbyte : bytes[i - off]? = some b := by
      rw [List.getD_eq_getElem?_getD, List.getElem?_eq_getElem (by omega)] at hb
      rw [List.getElem?_eq_getElem (by omega)]
      exact hb
    have hdefault := h (i - off) b hbyte
    rw [hplace] at hdefault
    rw [Nat.zero_add] at hi ⊢
    exact hdefault hi
  · refine hconfig i b ?_ hi
    rw [Vector.getElem?_toList, Vector.getElem?_eq_getElem hlt]
    exact hb

/-- A write over the start of a file, of any length. -/
theorem SettledFrom.writeAt {file bytes : List UInt8} (hfile : Settled n file)
    (h : Settled n bytes) : Settled n (writeAt file 0 bytes) := by
  intro i b hb
  by_cases hi : i < bytes.length
  · rw [getElem?_writeAt_inside _ _ (Nat.zero_le i) (by omega)] at hb
    exact h i b hb
  · rw [getElem?_writeAt_behind _ _ (by omega)] at hb
    exact hfile i b hb

/-- No file becomes longer than the configuration. -/
theorem SettledFrom.length_le {file : List UInt8} (h : Settled n file) :
    file.length ≤ sizeofGcConfig n := by
  by_contra hlong
  have hlt : sizeofGcConfig n < file.length := by omega
  have hfree : ¬ Chosen (0 + sizeofGcConfig n) := by
    unfold Chosen sizeofGcConfig
    omega
  have hbyte := h _ _ (List.getElem?_eq_getElem hlt) hfree
  have hin := (List.getElem?_eq_some_iff.mp hbyte).1
  simp at hin

/-! ## What a settled configuration has -/

/-- What the program relies on. -/
structure Usable (config : GcConfig n) : Prop where
  major : ofLe (majorVersion.get config).toList = gctkMajorVersion
  minor : ofLe (minorVersion.get config).toList = gctkMinorVersion
  address : (stringAt config (ipAddress (n := n)).off).bytes.length < 16
  folder : stringAt config (backupFolder (n := n)).off = defaultFolderName
  music : musicSetting.get config = leVec n 0
  confirm : confirmSetting.get config = leVec n 0

/-- A byte that is not chosen is the one of the defaults. -/
theorem getElem_settled {config : GcConfig n} (h : Settled n config.toList) {i : Nat}
    (hi : i < sizeofGcConfig n) (hfree : ¬ Chosen i) : config[i] = (defaultConfig n)[i] := by
  have hbyte := h i config[i] (by simp [hi])
  rw [Nat.zero_add] at hbyte
  have hdefault := hbyte hfree
  rw [Vector.getElem?_toList, Vector.getElem?_eq_getElem hi] at hdefault
  exact (Option.some.inj hdefault).symm

theorem get_settled {config : GcConfig n} (h : Settled n config.toList) {len : Nat}
    (f : Field (sizeofGcConfig n) len) (hfree : ∀ i, f.off ≤ i → i < f.off + len → ¬ Chosen i) :
    f.get config = f.get (defaultConfig n) := by
  apply Vector.ext
  intro i hi
  unfold Field.get
  rw [getElem_slice, getElem_slice]
  have hbound := f.bound
  exact getElem_settled h _ (hfree (f.off + i) (Nat.le_add_right _ _) (by omega))

section Default

/-- The bytes of the defaults behind the address, up to the settings. -/
theorem getElem_default_folder {i : Nat} (hi : i < maxPathLength)
    (hfits : 22 + i < sizeofGcConfig n) :
    (defaultConfig n)[22 + i] = defaultFolderName.bytes.getD i 0 := by
  unfold defaultConfig
  dsimp only
  rw [Field.getElem_put, dif_neg (by simp only [confirmSetting]; omega),
    Field.getElem_put, dif_neg (by simp only [musicSetting]; omega),
    Field.getElem_put, dif_neg (by simp only [port]; omega),
    Field.getElem_put, dif_pos (by simp only [backupFolder]; omega)]
  simp [CString.strncpy, backupFolder]

theorem getElem_default_address {i : Nat} (hi : i < 16) (hfits : 4 + i < sizeofGcConfig n) :
    (defaultConfig n)[4 + i] = defaultIp.bytes.getD i 0 := by
  unfold defaultConfig
  dsimp only
  rw [Field.getElem_put, dif_neg (by simp only [confirmSetting]; omega),
    Field.getElem_put, dif_neg (by simp only [musicSetting]; omega),
    Field.getElem_put, dif_neg (by simp only [port]; omega),
    Field.getElem_put, dif_neg (by simp only [backupFolder]; omega),
    Field.getElem_put, dif_pos (by simp only [ipAddress]; omega)]
  simp [CString.strncpy, ipAddress]

theorem get_default_versions : majorVersion.get (defaultConfig n) = leVec 2 gctkMajorVersion ∧
    minorVersion.get (defaultConfig n) = leVec 2 gctkMinorVersion := by
  unfold defaultConfig
  constructor <;>
    simp (disch := (simp only [Field.Apart, majorVersion, minorVersion, ipAddress, backupFolder,
      port, musicSetting, confirmSetting]; omega)) only [Field.get_put_apart, Field.get_put_same]

theorem get_default_settings : musicSetting.get (defaultConfig n) = leVec n 0 ∧
    confirmSetting.get (defaultConfig n) = leVec n 0 := by
  unfold defaultConfig
  constructor <;>
    simp (disch := (simp only [Field.Apart, musicSetting, confirmSetting]; omega)) only
      [Field.get_put_apart, Field.get_put_same]

end Default

/-- There is a terminator at the end of `ip_address`. -/
theorem terminator_settled {config : GcConfig n} (h : Settled n config.toList) :
    (config.toList.drop (ipAddress (n := n)).off)[15]? = some 0 := by
  have hfits : 19 < sizeofGcConfig n := fits_config (by omega)
  have hfree : ¬ Chosen 19 := by
    unfold Chosen
    omega
  rw [List.getElem?_drop, Vector.getElem?_toList]
  show config[19]? = some 0
  rw [Vector.getElem?_eq_getElem hfits, getElem_settled h hfits hfree]
  exact congrArg some (getElem_default_address (show 15 < 16 by omega) hfits)

/-- So the string that starts there ends within it. -/
theorem length_address_lt {config : GcConfig n} (h : Settled n config.toList) :
    (stringAt config (ipAddress (n := n)).off).bytes.length < 16 :=
  Nat.lt_succ_of_le (length_ofBytes_le (terminator_settled h))

/-- A string that starts a part of memory. -/
theorem ofBytes_of_front {s : CString} {bytes : List UInt8}
    (h : ∀ i ≤ s.bytes.length, bytes[i]? = some (s.bytes.getD i 0)) :
    CString.ofBytes bytes = s := by
  have hstop : CString.ofBytes (s.bytes ++ [0]) = s := CString.ofBytes_append_zero s []
  have htake : bytes.take (s.bytes.length + 1) = (s.bytes ++ [0]).take (s.bytes.length + 1) := by
    apply List.ext_getElem?
    intro i
    rw [List.getElem?_take, List.getElem?_take]
    split
    · next hi =>
      rw [h i (by omega), List.getD_eq_getElem?_getD]
      rcases Nat.lt_or_eq_of_le (Nat.le_of_lt_succ hi) with hlt | rfl
      · simp [hlt, List.getElem?_append_left hlt]
      · simp
    · rfl
  have hsame : CString.ofBytes bytes = CString.ofBytes (s.bytes ++ [0]) :=
    CString.ofBytes_eq_of_take (by simp) (by rw [hstop]; exact htake)
  rw [hsame, hstop]

theorem folder_settled {config : GcConfig n} (h : Settled n config.toList) :
    stringAt config (backupFolder (n := n)).off = defaultFolderName := by
  have hlength : defaultFolderName.bytes.length = 3 := by decide
  refine ofBytes_of_front ?_
  intro i hi
  have hshort : i < maxPathLength := by
    unfold maxPathLength
    omega
  have hfits : 22 + i < sizeofGcConfig n := by
    unfold sizeofGcConfig
    omega
  have hfree : ¬ Chosen (22 + i) := by
    unfold Chosen
    omega
  rw [List.getElem?_drop, Vector.getElem?_toList]
  show config[22 + i]? = _
  rw [Vector.getElem?_eq_getElem hfits, getElem_settled h hfits hfree,
    getElem_default_folder hshort hfits]

theorem usable_settled {config : GcConfig n} (h : Settled n config.toList) : Usable config where
  major := by
    rw [get_settled h majorVersion (by intro i _ hi; simp only [majorVersion, Chosen] at *; omega),
      get_default_versions.1]
    decide
  minor := by
    rw [get_settled h minorVersion (by intro i _ hi; simp only [minorVersion, Chosen] at *; omega),
      get_default_versions.2]
    decide
  address := length_address_lt h
  folder := folder_settled h
  music := by
    rw [get_settled h musicSetting (by intro i hi _; simp only [musicSetting, Chosen] at *; omega),
      get_default_settings.1]
  confirm := by
    rw [get_settled h confirmSetting
      (by intro i hi _; simp only [confirmSetting, Chosen] at *; omega), get_default_settings.2]

/-! ## The changes leave the rest -/

/-- The text that was typed fits into `CONFIG.ip_address`. -/
def AddressFits : ConfigCall → Prop
  | .changeIp (some units) => TextFits .ipAddress units
  | _ => True

theorem openIme_settled {config : GcConfig n} (h : Settled n config.toList)
    {typed : Option (List UInt16)} (hfits : AddressFits (.changeIp typed)) :
    Settled n (openIme typed config).toList := by
  cases typed with
  | none => exact h
  | some units =>
    refine SettledFrom.storeAt h ?_
    intro i b hb hi
    have hlen : i < (oslOskGetText units).text.length := (List.getElem?_eq_some_iff.mp hb).1
    have hcopied : (oslOskGetText units).text.length ≤ 16 := hfits.copied
    have hlast : i = 15 := by
      simp only [Chosen, ipAddress] at hi
      omega
    subst hlast
    -- a text of sixteen bytes has its terminator there
    have hwhole : (oslOskGetText units).text =
        (CString.ofBytes (oslOskGetText units).inputTextUtf8).bytes ++ [0] := rfl
    have hplace : (CString.ofBytes (oslOskGetText units).inputTextUtf8).bytes.length = 15 := by
      have hlength := congrArg List.length hwhole
      rw [List.length_append, List.length_singleton] at hlength
      omega
    rw [hwhole, List.getElem?_append_right (by omega), hplace] at hb
    obtain rfl : 0 = b := Option.some.inj hb
    have hin : 19 < sizeofGcConfig n := fits_config (by omega)
    show (defaultConfig n).toList[19]? = some 0
    rw [Vector.getElem?_toList, Vector.getElem?_eq_getElem hin]
    exact congrArg some (getElem_default_address (show 15 < 16 by omega) hin)

theorem changeIp_settled (valid : CString → Bool) {config : GcConfig n}
    (h : Settled n config.toList) {typed : Option (List UInt16)}
    (hfits : AddressFits (.changeIp typed)) : Settled n (changeIp valid typed config).toList := by
  have htyped := openIme_settled h hfits
  unfold changeIp
  dsimp only
  split
  · exact htyped
  · rw [put_eq_storeAt]
    refine SettledFrom.storeAt htyped ?_
    intro i b hb hi
    have hlen : i < 16 := by
      have := (List.getElem?_eq_some_iff.mp hb).1
      simpa using this
    have hlast : i = 15 := by
      simp only [Chosen, ipAddress] at hi
      omega
    subst hlast
    -- only fifteen bytes are copied
    have hin : 19 < sizeofGcConfig n := fits_config (by omega)
    have hkept := getElem_settled htyped hin hi
    rw [Vector.getElem?_toList, Vector.getElem?_eq_getElem hlen] at hb
    have hbyte : (openIme typed config)[19] = b := by
      simp only [CString.strncpy, Field.get, Vector.getElem_ofFn] at hb
      simpa [ipAddress] using hb
    show (defaultConfig n).toList[19]? = some b
    rw [Vector.getElem?_toList, Vector.getElem?_eq_getElem hin, ← hkept, hbyte]

theorem openImeShort_settled {config : GcConfig n} (h : Settled n config.toList)
    (typed : Option (List UInt16)) : Settled n (openImeShort typed config).toList := by
  cases typed with
  | none => exact h
  | some units =>
    unfold openImeShort
    dsimp only
    rw [put_eq_storeAt]
    refine SettledFrom.storeAt h ?_
    intro i b hb hi
    have hlen : i < 2 := by
      have := (List.getElem?_eq_some_iff.mp hb).1
      simpa using this
    simp only [Chosen, port] at hi
    omega

/-! ## The file -/

/-- What there is of config.bin is settled. -/
def FileSettled (n : Nat) (w : World) : Prop :=
  ∀ file, w.files configSaveLocation = some file → Settled n file

theorem settled_nil : Settled n [] := by
  intro i b hb
  cases hb

/-- However much of it is stored. -/
theorem saveConfig_settled {config : GcConfig n} (hconfig : Settled n config.toList) {w : World}
    (h : FileSettled n w) : FileSettled n (saveConfig config w).2 := by
  intro file hfile
  unfold saveConfig at hfile
  rw [writeFile_files] at hfile
  split at hfile
  · exact h file hfile
  · rw [Function.update_self] at hfile
    cases hfile
    have hstored : Settled n (stored config.toList w) := by
      unfold stored
      split
      · exact hconfig.take _
      · exact settled_nil
    refine SettledFrom.writeAt ?_ hstored
    cases hold : w.files configSaveLocation with
    | none => exact settled_nil
    | some old => exact h old hold

theorem fileExist_files (path : CString) (w : World) : (fileExist path w).2.files = w.files := by
  unfold fileExist sceIoGetstat World.outcome
  dsimp only
  split
  · rfl
  · split <;> rfl

/-- A file is opened for reading as it is. -/
theorem sceIoOpen_reads (path : CString) (w : World) :
    (∃ r < 0, sceIoOpen path oRdonly w = (r, { w with tick := w.tick + 1 })) ∨
      ∃ file w', w.files path = some file ∧ sceIoOpen path oRdonly w = (w.outcomes w.tick, w') ∧
        w'.files = w.files ∧ w'.file? (w.outcomes w.tick) = some (path, 0) := by
  have hcreat : oRdonly &&& oCreat = 0 := by decide
  have htrunc : ¬ oRdonly &&& oTrunc ≠ 0 := by decide
  by_cases hneg : w.outcomes w.tick < 0
  · exact Or.inl ⟨_, hneg, sceIoOpen_refused path _ hneg⟩
  · cases hfile : w.files path with
    | none => exact Or.inl ⟨enoent, by decide, sceIoOpen_missing hfile hcreat hneg⟩
    | some file =>
      rcases sceIoOpen_succeeds path oRdonly hneg (by simp [hfile]) with ⟨w', hcall, hopened⟩
      refine Or.inr ⟨file, w', rfl, hcall, ?_, hopened.position⟩
      rw [hopened.files, if_neg htrunc, hfile]
      exact Function.update_eq_self_iff.mpr hfile.symm

/-- What a read through an open handle comes to. -/
theorem sceIoRead_cases {fd : SceUID} {path : CString} {pos : Nat} {w : World}
    (hfd : w.file? fd = some (path, pos)) (size : Nat) :
    (sceIoRead fd size w).2.files = w.files ∧
      ((∃ r hr, (sceIoRead fd size w).1 = .error r hr) ∨
        ∃ k, (sceIoRead fd size w).1 = .bytes ((((w.files path).getD []).drop pos).take k)) := by
  have hfd' : World.file? { w with tick := w.tick + 1 } fd = some (path, pos) := hfd
  unfold sceIoRead World.outcome
  dsimp only
  by_cases hneg : w.outcomes w.tick < 0
  · rw [dif_pos hneg]
    exact ⟨rfl, Or.inl ⟨_, hneg, rfl⟩⟩
  · rw [dif_neg hneg, hfd']
    exact ⟨rfl, Or.inr ⟨_, rfl⟩⟩

/-- Nothing is read, or bytes from the start of the file; the result is the size where
they are as many. -/
theorem readFile_cases {m : Nat} (path : CString) (data : Vector UInt8 m) (w : World) :
    (readFile path data w).2.2.files = w.files ∧
      ((readFile path data w).2.1 = data ∧ (readFile path data w).1 < 0 ∨
        ∃ file k, w.files path = some file ∧
          (readFile path data w).2.1 = storeAt data 0 (file.take k) ∧
          ((readFile path data w).1 = m → (file.take k).length = m)) := by
  unfold readFile sceIoClose
  rcases sceIoOpen_reads path w with ⟨r, hneg, hcall⟩ | ⟨file, w', hfile, hcall, hfiles, hfd⟩
  · rw [hcall]
    dsimp only
    rw [if_neg (not_lt.mpr (le_of_lt hneg))]
    exact ⟨rfl, Or.inl ⟨rfl, show (-1 : Int) < 0 by decide⟩⟩
  · rw [hcall]
    dsimp only
    -- the handle 0 is taken for a failure
    by_cases hpos : w.outcomes w.tick > 0
    · rw [if_pos hpos]
      rcases sceIoRead_cases hfd m with ⟨hsame, hread⟩
      generalize sceIoRead (w.outcomes w.tick) m w' = read at hsame hread
      rcases read with ⟨data', w''⟩
      rcases hread with ⟨r, hr, rfl⟩ | ⟨k, rfl⟩
      · exact ⟨hsame.trans hfiles, Or.inl ⟨rfl, hr⟩⟩
      · refine ⟨hsame.trans hfiles, Or.inr ⟨file, k, hfile, ?_, ?_⟩⟩
        · dsimp only
          rw [hfiles, hfile, List.drop_zero, Option.getD_some]
        · have hmatch : sizeNotMatch < 0 := by decide
          dsimp only
          rw [hfiles, hfile, List.drop_zero, Option.getD_some]
          split
          · intro heq
            omega
          · next hsize =>
            intro _
            exact not_not.mp hsize
    · rw [if_neg hpos]
      exact ⟨hfiles, Or.inl ⟨rfl, show (-1 : Int) < 0 by decide⟩⟩

/-- A start leaves a settled file, and takes its bytes or the defaults. -/
theorem initBegin_settled (config : GcConfig n) {w : World} (h : FileSettled n w) :
    FileSettled n (initBegin config w).2 := by
  have hsame : FileSettled n (fileExist configSaveLocation w).2 := by
    intro file hfile
    rw [fileExist_files] at hfile
    exact h file hfile
  unfold initBegin
  dsimp only
  split
  · exact hsame
  · exact saveConfig_settled settled_default hsame

/-- A read that took as many bytes as `CONFIG` has took all of the file. -/
theorem readFile_whole {config : GcConfig n} {w : World} (h : FileSettled n w)
    (hread : (readFile configSaveLocation config w).1 = sizeofGcConfig n) :
    w.files configSaveLocation = some (readFile configSaveLocation config w).2.1.toList := by
  rcases (readFile_cases configSaveLocation config w).2 with
    ⟨-, hneg⟩ | ⟨file, k, hfile, hdata, hsize⟩
  · omega
  · have hlength := hsize hread
    have hle := (h file hfile).length_le
    have hall : file.take k = file := by
      rw [List.length_take] at hlength
      exact List.take_of_length_le (by omega)
    rw [hall] at hlength
    rw [hdata, hall, storeAt_whole _ hlength]
    exact hfile

theorem initConfig_settled (config : GcConfig n) {w : World} (h : FileSettled n w) :
    Settled n (initConfig config w).1.toList ∧ FileSettled n (initConfig config w).2 := by
  have hbegun := initBegin_settled config h
  unfold initConfig
  dsimp only
  generalize initBegin config w = begun at hbegun
  have hfiles := (readFile_cases configSaveLocation begun.1 begun.2).1
  have hsame : FileSettled n (readFile configSaveLocation begun.1 begun.2).2.2 := by
    intro file hfile
    rw [hfiles] at hfile
    exact hbegun file hfile
  split
  · exact ⟨settled_default, saveConfig_settled settled_default hsame⟩
  · next hgood =>
    rw [not_or, not_not] at hgood
    exact ⟨hbegun _ (readFile_whole hbegun hgood.1), hsame⟩

/-! ## Any run -/

/-- `CONFIG` and config.bin are settled. -/
structure SettingsSettled (s : Settings n) : Prop where
  config : Settled n s.config.toList
  file : ∀ file, s.file = some file → Settled n file

theorem world_file (s : Settings n) (w : World) :
    (s.world w).files configSaveLocation = s.file := by
  show Function.update w.files configSaveLocation s.file configSaveLocation = s.file
  exact Function.update_self ..

theorem fileSettled_world {s : Settings n} (h : ∀ file, s.file = some file → Settled n file)
    (w : World) : FileSettled n (s.world w) := by
  intro file hfile
  rw [world_file] at hfile
  exact h file hfile

/-- The first start of the program, when there is no config.bin yet. -/
def firstStart (n : Nat) (w : World) : Settings n :=
  (settingsStep (fun _ => true) ⟨Vector.replicate _ 0, none⟩ (.start, w)).1

theorem settled_start (valid : CString → Bool) {s : Settings n}
    (h : ∀ file, s.file = some file → Settled n file) (w : World) :
    SettingsSettled (settingsStep valid s (.start, w)).1 := by
  have hinit := initConfig_settled (Vector.replicate _ 0) (fileSettled_world h w)
  exact ⟨hinit.1, hinit.2⟩

theorem settled_firstStart (w : World) : SettingsSettled (firstStart n w) := by
  refine settled_start _ ?_ w
  intro file hfile
  cases hfile

theorem settled_step (valid : CString → Bool) {s : Settings n} (h : SettingsSettled s)
    {i : ConfigCall × World} (hfits : AddressFits i.1) :
    SettingsSettled (settingsStep valid s i).1 := by
  rcases i with ⟨call, w⟩
  cases call with
  | start => exact settled_start valid h.file w
  | changeIp typed => exact ⟨changeIp_settled valid h.config hfits, h.file⟩
  | changePort typed => exact ⟨openImeShort_settled h.config typed, h.file⟩
  | startDump => exact ⟨h.config, saveConfig_settled h.config (fileSettled_world h.file w)⟩

/-- In every run whose addresses fit into their buffer, whatever becomes of the reads and
the saves, `CONFIG` has what the program relies on. -/
theorem config_usable (valid : CString → Bool) (w : World) {is : List (ConfigCall × World)}
    (hfits : ∀ i ∈ is, AddressFits i.1) :
    Usable ((settings n valid).run (firstStart n w) is).1.config := by
  have hrun : SettingsSettled ((settings n valid).run (firstStart n w) is).1 := by
    induction is using List.reverseRecOn with
    | nil => exact settled_firstStart w
    | append_singleton is i ih =>
      rw [Machine.run_snoc]
      exact settled_step valid (ih fun j hj => hfits j (List.mem_append_left _ hj))
        (hfits i (List.mem_append_right _ (List.mem_singleton_self i)))
  exact usable_settled hrun.config

/-- Five signs for the euro just fit, and a save of which ten bytes are stored. -/
theorem config_usable_tenBytes :
    Usable ((settings 4 (fun _ => true)).run
      (firstStart 4 { unpatchedWorld with outcomes := fun _ => 2000 })
      [(.changeIp (some (List.replicate 5 0x20AC)), unpatchedWorld),
        (.startDump, { unpatchedWorld with outcomes := fun _ => 10 }),
        (.start, { unpatchedWorld with outcomes := fun _ => 2000 })]).1.config := by
  refine config_usable _ _ ?_
  intro i hi
  rcases List.mem_cons.mp hi with rfl | hi
  · exact ⟨by decide, by decide⟩
  · rcases List.mem_cons.mp hi with rfl | hi
    · exact trivial
    · rw [List.mem_singleton.mp hi]
      exact trivial

end GcToolKit.App.Config
