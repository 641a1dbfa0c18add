import GcToolKit.App.Config

/-!
# Settings across starts (app/config.c, app/main.c)

Where no save is cut short in a file that was complete, config.bin keeps one configuration
whole: the next start finds the one that was saved last, or begins with the defaults. So the
address a dump is given has passed `check_ip_address_valid`, in this process or in one before.

* `config_kept` — every step of a run is one of the store that keeps a value whole.
-/

namespace GcToolKit.App.Config

open ByteBuf ByteFile LittleEndian GcToolKit.Kern KeptValue Run

variable {n : Nat}

/-! ## The configuration in the file -/

/-- A file of the right length has one. -/
def keptOf (n : Nat) (file : Option (List UInt8)) : Option (GcConfig n) :=
  file.bind fun bytes =>
    if bytes.length = sizeofGcConfig n then some (Vector.ofFn fun i => bytes.getD i 0) else none

theorem keptOf_some (config : GcConfig n) : keptOf n (some config.toList) = some config := by
  unfold keptOf
  rw [Option.bind_some, if_pos (Vector.length_toList ..)]
  refine congrArg some (Vector.ext ?_)
  intro i hi
  simp

theorem keptOf_eq_some {file : Option (List UInt8)} {config : GcConfig n} :
    keptOf n file = some config ↔ file = some config.toList := by
  constructor
  · intro h
    cases file with
    | none => cases h
    | some bytes =>
      unfold keptOf at h
      rw [Option.bind_some] at h
      split at h
      · next hlength =>
        cases h
        refine congrArg some (List.ext_getElem (by simp [hlength]) ?_)
        intro i hi hi'
        simp [hi]
      · cases h
  · rintro rfl
    exact keptOf_some config

theorem keptOf_short {bytes : List UInt8} (h : bytes.length < sizeofGcConfig n) :
    keptOf n (some bytes) = none := by
  unfold keptOf
  rw [Option.bind_some, if_neg (by omega)]

theorem length_lt_of_keptOf {file : Option (List UInt8)} (h : keptOf n file = none)
    (hle : (file.getD []).length ≤ sizeofGcConfig n) :
    (file.getD []).length < sizeofGcConfig n := by
  cases file with
  | none =>
    show 0 < sizeofGcConfig n
    exact fits_config (by omega)
  | some bytes =>
    refine Nat.lt_of_le_of_ne hle ?_
    intro heq
    unfold keptOf at h
    rw [Option.bind_some, if_pos (show bytes.length = sizeofGcConfig n from heq)] at h
    cases h

/-- A save is cut short in a configuration if it takes some bytes of another one, but not all. -/
def Torn (config : GcConfig n) (w : World) : Prop :=
  ∃ old, keptOf n (w.files configSaveLocation) = some old ∧ old ≠ config ∧
    stored config.toList w ≠ [] ∧ stored config.toList w ≠ config.toList

theorem stored_take (data : List UInt8) (w : World) : ∃ k, stored data w = data.take k := by
  unfold stored
  split
  · exact ⟨_, rfl⟩
  · exact ⟨0, List.take_zero.symm⟩

theorem stored_whole {data : List UInt8} {w : World} (hsome : 0 < data.length)
    (h : ∀ k, (data.length : Int) ≤ w.outcomes k) : stored data w = data := by
  have hopen := h w.tick
  have hwrite := h (w.tick + 1)
  unfold stored
  rw [if_pos (by omega)]
  exact List.take_of_length_le (by omega)

theorem writeAt_take_self (data : List UInt8) (k : Nat) : writeAt data 0 (data.take k) = data := by
  apply List.ext_getElem?
  intro i
  by_cases hi : i < (data.take k).length
  · rw [getElem?_writeAt_inside _ _ (Nat.zero_le i) (by omega), Nat.sub_zero]
    rw [List.length_take] at hi
    exact List.getElem?_take_of_lt (by omega)
  · exact getElem?_writeAt_behind _ _ (by omega)

theorem writeAt_all {old data : List UInt8} (h : old.length ≤ data.length) :
    writeAt old 0 data = data := by
  apply List.ext_getElem?
  intro i
  by_cases hi : i < data.length
  · rw [getElem?_writeAt_inside _ _ (Nat.zero_le i) (by omega), Nat.sub_zero]
  · rw [getElem?_writeAt_behind _ _ (by omega), List.getElem?_eq_none (by omega),
      List.getElem?_eq_none (by omega)]

/-- A save that is not cut short replaces the configuration in the file, or leaves it. -/
theorem saveConfig_kept {config : GcConfig n} {w : World} (hfile : FileSettled n w)
    (h : ¬ Torn config w) :
    keptOf n ((saveConfig config w).2.files configSaveLocation) =
        keptOf n (w.files configSaveLocation) ∨
      keptOf n ((saveConfig config w).2.files configSaveLocation) = some config := by
  unfold saveConfig
  rw [writeFile_files]
  split
  · exact Or.inl rfl
  · rw [Function.update_self]
    rcases stored_take config.toList w with ⟨k, hstored⟩
    have hlen : config.toList.length = sizeofGcConfig n := Vector.length_toList ..
    have hshort : ((w.files configSaveLocation).getD []).length ≤ sizeofGcConfig n := by
      cases hold : w.files configSaveLocation with
      | none => exact Nat.zero_le _
      | some old => exact (hfile old hold).length_le
    by_cases hall : stored config.toList w = config.toList
    · right
      rw [hall, writeAt_all (by omega), keptOf_some]
    left
    cases hold : keptOf n (w.files configSaveLocation) with
    | some old =>
      have hbytes := keptOf_eq_some.mp hold
      rw [hbytes, Option.getD_some]
      by_cases hsame : old = config
      · rw [hsame, hstored, writeAt_take_self, keptOf_some]
      · have hnone : stored config.toList w = [] := by
          by_contra hsome
          exact h ⟨old, hold, hsame, hsome, hall⟩
        rw [hnone]
        exact keptOf_some old
    | none =>
      -- the file stays too short
      have hold' := length_lt_of_keptOf hold hshort
      have hpart : (stored config.toList w).length < sizeofGcConfig n := by
        rw [hstored, List.length_take, hlen]
        by_contra hlong
        refine hall ?_
        rw [hstored, List.take_of_length_le (by omega)]
      refine keptOf_short (Nat.lt_of_le_of_lt (length_writeAt_le _ _ 0) ?_)
      omega

/-! ## One step -/

/-- The worlds in which `init_config` saves the defaults. -/
def initSaves (config : GcConfig n) (w : World) : List World :=
  let exist := fileExist configSaveLocation w
  let begun := initBegin config w
  let read := readFile configSaveLocation begun.1 begun.2
  (if exist.1 then [] else [exist.2]) ++
    if read.1 ≠ sizeofGcConfig n ∨ ofLe (majorVersion.get read.2.1).toList < gctkMajorVersion then
      [read.2.2]
    else []

/-- No save of the step is cut short. -/
def Untorn (s : Settings n) (i : ConfigCall × World) : Prop :=
  match i.1 with
  | .start =>
    ∀ w ∈ initSaves (Vector.replicate _ 0 : GcConfig n) (s.world i.2), ¬ Torn (defaultConfig n) w
  | .startDump => ¬ Torn s.config (s.world i.2)
  | _ => True

def ConfigCall.kind : ConfigCall → Kind
  | .start => .start
  | .changeIp _ => .edit
  | .changePort _ => .edit
  | .startDump => .save

def storeOf (s : Settings n) : Store (GcConfig n) := ⟨s.config, keptOf n s.file⟩

/-- In front of the read the file keeps what it kept, or the defaults. -/
theorem initBegin_kept (config : GcConfig n) {w : World} (hfile : FileSettled n w)
    (h : ¬ (fileExist configSaveLocation w).1 = true →
      ¬ Torn (defaultConfig n) (fileExist configSaveLocation w).2) :
    keptOf n ((initBegin config w).2.files configSaveLocation) =
        keptOf n (w.files configSaveLocation) ∨
      keptOf n ((initBegin config w).2.files configSaveLocation) = some (defaultConfig n) := by
  have hsame := fileExist_files configSaveLocation w
  unfold initBegin
  dsimp only
  split
  · rw [hsame]
    exact Or.inl rfl
  · next hmissing =>
    have hsettled : FileSettled n (fileExist configSaveLocation w).2 := by
      intro file hthere
      rw [hsame] at hthere
      exact hfile file hthere
    have hsaved := saveConfig_kept hsettled (h hmissing)
    rw [hsame] at hsaved
    exact hsaved

/-- What is read has a version that is new enough, so all of it is taken. -/
theorem initConfig_step {config : GcConfig n} {w : World} (hfile : FileSettled n w)
    (h : ∀ w' ∈ initSaves config w, ¬ Torn (defaultConfig n) w') (memory : GcConfig n) :
    Step (defaultConfig n) .start ⟨memory, keptOf n (w.files configSaveLocation)⟩
      ⟨(initConfig config w).1, keptOf n ((initConfig config w).2.files configSaveLocation)⟩ := by
  have hbegun := initBegin_settled config hfile
  have hkept := initBegin_kept config hfile (by
    intro hmissing
    refine h _ (List.mem_append_left _ ?_)
    rw [if_neg hmissing]
    exact List.mem_singleton_self _)
  unfold initSaves at h
  unfold initConfig
  dsimp only at h ⊢
  generalize initBegin config w = begun at hbegun hkept h
  have hread := (readFile_cases configSaveLocation begun.1 begun.2).1
  have hsettled : FileSettled n (readFile configSaveLocation begun.1 begun.2).2.2 := by
    intro file hthere
    rw [hread] at hthere
    exact hbegun file hthere
  split
  · next hbad =>
    -- too short or too old: the defaults are saved over it
    rw [if_pos hbad] at h
    have htorn := h _ (List.mem_append_right _ (List.mem_singleton_self _))
    refine Step.begun _ ?_
    rcases saveConfig_kept hsettled htorn with hleft | hsaved
    · rw [hread] at hleft
      rcases hkept with hold | hdefault
      · exact Or.inl (hleft.trans hold)
      · exact Or.inr (hleft.trans hdefault)
    · exact Or.inr hsaved
  · next hgood =>
    rw [not_or, not_not] at hgood
    have hfound := keptOf_eq_some.mpr (readFile_whole hbegun hgood.1)
    rw [hread]
    rcases hkept with hold | hdefault
    · rw [hold] at hfound ⊢
      exact Step.found hfound _ rfl
    · have hsame : (readFile configSaveLocation begun.1 begun.2).2.1 = defaultConfig n :=
        Option.some.inj (hfound.symm.trans hdefault)
      rw [hsame]
      exact Step.begun _ (Or.inr hdefault)

theorem settings_step (valid : CString → Bool) {s : Settings n} (h : SettingsSettled s)
    {i : ConfigCall × World} (huntorn : Untorn s i) :
    Step (defaultConfig n) i.1.kind (storeOf s) (storeOf (settingsStep valid s i).1) := by
  rcases i with ⟨call, w⟩
  have hfile := fileSettled_world h.file w
  cases call with
  | start =>
    have hstep := initConfig_step hfile huntorn s.config
    rw [world_file] at hstep
    exact hstep
  | changeIp typed => exact Step.edited _ _
  | changePort typed => exact Step.edited _ _
  | startDump =>
    have hsaved := saveConfig_kept hfile huntorn
    rw [world_file] at hsaved
    rcases hsaved with hleft | hnew
    · have hsame : storeOf (settingsStep valid s (.startDump, w)).1 = storeOf s :=
        congrArg (Store.mk s.config) hleft
      rw [hsame]
      exact Step.notSaved _
    · have hsame : storeOf (settingsStep valid s (.startDump, w)).1 =
          ⟨s.config, some s.config⟩ := congrArg (Store.mk s.config) hnew
      rw [hsame]
      exact Step.saved (storeOf s)

/-! ## The address -/

/-- The string at `ip_address`. -/
def addressOf (config : GcConfig n) : CString := stringAt config (ipAddress (n := n)).off

theorem addressOf_default_put (config : GcConfig n) :
    addressOf (ipAddress.put config (CString.strncpy (ipAddress.get config) defaultIp 15)) =
      defaultIp := by
  have hlength : defaultIp.bytes.length = 11 := by decide
  refine ofBytes_of_front ?_
  intro i hi
  have hfits : 4 + i < sizeofGcConfig n := fits_config (by omega)
  rw [List.getElem?_drop, Vector.getElem?_toList]
  show _[4 + i]? = _
  rw [Vector.getElem?_eq_getElem hfits, Field.getElem_put,
    dif_pos (by simp only [ipAddress]; omega)]
  simp [CString.strncpy, ipAddress, show i < 15 by omega]

theorem addressOf_default : addressOf (defaultConfig n) = defaultIp := by
  have hlength : defaultIp.bytes.length = 11 := by decide
  refine ofBytes_of_front ?_
  intro i hi
  have hfits : 4 + i < sizeofGcConfig n := fits_config (by omega)
  rw [List.getElem?_drop, Vector.getElem?_toList]
  show _[4 + i]? = _
  rw [Vector.getElem?_eq_getElem hfits, getElem_default_address (by omega) hfits]

/-- Whatever was typed, the address is one that was checked, or the default. -/
theorem changeIp_checked {valid : CString → Bool} (hdefault : valid defaultIp = true)
    (typed : Option (List UInt16)) (config : GcConfig n) :
    valid (addressOf (changeIp valid typed config)) = true := by
  unfold changeIp
  dsimp only
  split
  · next hvalid => exact hvalid
  · rw [addressOf_default_put]
    exact hdefault

/-- The port is behind the end of the address. -/
theorem addressOf_openImeShort {config : GcConfig n} (h : Settled n config.toList)
    (typed : Option (List UInt16)) : addressOf (openImeShort typed config) = addressOf config := by
  cases typed with
  | none => rfl
  | some units =>
    have hshort := length_address_lt h
    refine CString.ofBytes_eq_of_take (List.mem_of_getElem? (terminator_settled h)) ?_
    apply List.ext_getElem?
    intro i
    rw [List.getElem?_take, List.getElem?_take]
    split
    · next hi =>
      have hend : i < 16 := Nat.lt_of_lt_of_le hi hshort
      have hfits : 4 + i < sizeofGcConfig n := fits_config (by omega)
      rw [List.getElem?_drop, List.getElem?_drop, Vector.getElem?_toList, Vector.getElem?_toList]
      show (openImeShort (some units) config)[4 + i]? = config[4 + i]?
      rw [Vector.getElem?_eq_getElem hfits, Vector.getElem?_eq_getElem hfits]
      unfold openImeShort
      dsimp only
      rw [Field.getElem_put, dif_neg (by simp only [port]; omega)]
    · rfl

/-! ## Runs without a torn save -/

/-- The addresses in `CONFIG` and in the file are checked ones. -/
structure Checked (valid : CString → Bool) (s : Settings n) : Prop where
  settled : SettingsSettled s
  holds : Holds (fun config => valid (addressOf config) = true) (storeOf s)

theorem checked_step {valid : CString → Bool} (hdefault : valid defaultIp = true) {s : Settings n}
    (h : Checked valid s) {i : ConfigCall × World} (huntorn : Untorn s i)
    (hfits : AddressFits i.1) : Checked valid (settingsStep valid s i).1 := by
  refine ⟨settled_step valid h.settled hfits, ?_⟩
  refine (settings_step valid h.settled huntorn).holds (by rw [addressOf_default]; exact hdefault)
    h.holds ?_
  intro hkind
  rcases i with ⟨call, w⟩
  cases call with
  | start => cases hkind
  | changeIp typed => exact changeIp_checked hdefault typed s.config
  | changePort typed =>
    show valid (addressOf (openImeShort typed s.config)) = true
    rw [addressOf_openImeShort h.settled.config]
    exact h.holds.memory
  | startDump => cases hkind

/-- With no file there is nothing to be cut short but the defaults. -/
theorem checked_firstStart {valid : CString → Bool} (hdefault : valid defaultIp = true)
    (w : World) : Checked valid (firstStart n w) := by
  have hnone : ∀ file : List UInt8, (none : Option (List UInt8)) = some file → Settled n file := by
    intro file hfile
    cases hfile
  have hfile := fileSettled_world (s := ⟨Vector.replicate _ 0, none⟩) hnone w
  have hempty : ((⟨Vector.replicate _ 0, none⟩ : Settings n).world w).files configSaveLocation =
      none := world_file _ w
  have hfirst : ¬ Torn (defaultConfig n) (fileExist configSaveLocation
      ((⟨Vector.replicate _ 0, none⟩ : Settings n).world w)).2 := by
    rintro ⟨old, hold, -⟩
    rw [fileExist_files, hempty] at hold
    cases hold
  have hkept := initBegin_kept (Vector.replicate _ 0) hfile (fun _ => hfirst)
  have huntorn : Untorn (⟨Vector.replicate _ 0, none⟩ : Settings n) (.start, w) := by
    intro w' hw'
    rcases List.mem_append.mp hw' with hbegin | hend
    · split at hbegin
      · cases hbegin
      · rw [List.mem_singleton.mp hbegin]
        exact hfirst
    · split at hend
      · rw [List.mem_singleton.mp hend]
        rintro ⟨old, hold, hother, -⟩
        rw [(readFile_cases configSaveLocation _ _).1] at hold
        rcases hkept with hleft | hsaved
        · rw [hleft, hempty] at hold
          cases hold
        · rw [hsaved] at hold
          exact hother (Option.some.inj hold).symm
      · cases hend
  have hstep := initConfig_step hfile huntorn (defaultConfig n)
  have hvalid : valid (addressOf (defaultConfig n)) = true := by
    rw [addressOf_default]
    exact hdefault
  refine ⟨settled_firstStart w, hstep.holds hvalid ⟨hvalid, ?_⟩ (fun hkind => nomatch hkind)⟩
  rw [hempty]
  intro v hv
  cases hv

/-- Where no save is cut short, `CONFIG` and config.bin are a store that keeps one
configuration whole, and every dump is given an address that was checked. -/
theorem config_kept {valid : CString → Bool} (hdefault : valid defaultIp = true) (w : World)
    {is : List (ConfigCall × World)} (hfits : ∀ i ∈ is, AddressFits i.1)
    (huntorn : (settings n valid).EveryStep Untorn (firstStart n w) is) :
    (settings n valid).EveryStep (fun s i =>
      Step (defaultConfig n) i.1.kind (storeOf s) (storeOf ((settings n valid).step s i).1) ∧
        ∀ info, ((settings n valid).step s i).2 = some info → valid info.ipAddress = true)
      (firstStart n w) is := by
  have hkeeps : ∀ s i, Untorn s i ∧ AddressFits i.1 → Checked valid s →
      Checked valid ((settings n valid).step s i).1 := by
    rintro s i ⟨huntorn, hfits⟩ hs
    exact checked_step hdefault hs huntorn hfits
  have hboth : (settings n valid).EveryStep (fun s i => Untorn s i ∧ AddressFits i.1)
      (firstStart n w) is := by
    intro before i after heq
    refine ⟨huntorn before i after heq, hfits i ?_⟩
    rw [heq]
    exact List.mem_append_right _ (List.mem_cons_self ..)
  intro before i after heq
  rcases hboth.keeps hkeeps (checked_firstStart hdefault w) before i after heq with
    ⟨⟨hwhole, -⟩, hchecked⟩
  refine ⟨settings_step valid hchecked.settled hwhole, ?_⟩
  intro info hinfo
  rcases i with ⟨call, w'⟩
  cases call with
  | start => cases hinfo
  | changeIp typed => cases hinfo
  | changePort typed => cases hinfo
  | startDump =>
    cases hinfo
    exact hchecked.holds.memory

theorem untorn_changeIp (s : Settings n) (typed : Option (List UInt16)) (w : World) :
    Untorn s (.changeIp typed, w) := trivial

/-- A save that takes all is not cut short. -/
theorem untorn_startDump (s : Settings n) {w : World}
    (h : ∀ k, (sizeofGcConfig n : Int) ≤ w.outcomes k) : Untorn s (.startDump, w) := by
  rintro ⟨old, -, -, -, hpart⟩
  refine hpart (stored_whole ?_ ?_)
  · rw [Vector.length_toList]
    exact fits_config (by omega)
  · intro k
    rw [Vector.length_toList]
    exact h k

/-- "1.1.1.1" -/
def typedAddress : List UInt16 := [0x31, 0x2E, 0x31, 0x2E, 0x31, 0x2E, 0x31]

/-- Digits and dots. -/
def dotted (address : CString) : Bool := address.bytes.all fun b => isDigit b || b = 0x2E

/-- The address is changed, a dump is begun, and every call takes all. -/
theorem config_kept_roomy :
    let roomy : World := { unpatchedWorld with outcomes := fun _ => 2000 }
    (settings 4 dotted).EveryStep (fun s i =>
      Step (defaultConfig 4) i.1.kind (storeOf s) (storeOf ((settings 4 dotted).step s i).1) ∧
        ∀ info, ((settings 4 dotted).step s i).2 = some info → dotted info.ipAddress = true)
      (firstStart 4 roomy) [(.changeIp (some typedAddress), roomy), (.startDump, roomy)] := by
  intro roomy
  refine config_kept (by decide) roomy ?_ ?_
  · intro i hi
    rcases List.mem_cons.mp hi with rfl | hi
    · exact ⟨by decide, by decide⟩
    · rw [List.mem_singleton.mp hi]
      exact trivial
  · rw [← List.singleton_append, Machine.everyStep_snoc, ← List.nil_append [_],
      Machine.everyStep_snoc]
    have hsize : ∀ k : Nat, (sizeofGcConfig 4 : Int) ≤ roomy.outcomes k := by
      intro k
      show ((sizeofGcConfig 4 : Nat) : Int) ≤ 2000
      decide
    exact ⟨⟨Machine.everyStep_nil _ _ _, untorn_changeIp _ _ _⟩, untorn_startDump _ hsize⟩

end GcToolKit.App.Config
