import GcToolKit.App.SetOutput
import GcToolKit.Lib.Fresh

/-!
# A name that is not taken (app/main.c)

`handle_menu_set_output` puts the numbers 1, 2, ... into the name until there is no file
of that name. `%02d` writes different numbers differently, `remove_illegal_chars` does not
touch digits, and what is around the number stays, so the paths are all different.

* `formatNumber_injective` — different numbers are written differently;
* `numberedPath_injective` — and where nothing is cut off, they give different paths;
* `renameLoop_fresh` — the loop ends, with the first path that is free.
-/

namespace GcToolKit.App

open DoWhile Fresh

/-! ## Numbers -/

def charOfByte (b : UInt8) : Char := Char.ofNat b.toNat

/-- The value of digits. -/
def digitsValue (bs : List UInt8) : Nat := Nat.ofDigitChars 10 (bs.map charOfByte) 0

theorem isDigit_toNat {c : Char} (hc : c.isDigit = true) : 0x30 ≤ c.toNat ∧ c.toNat ≤ 0x39 :=
  Char.isDigit_iff_toNat.mp hc

theorem charOfByte_ofNat {c : Char} (hc : c.isDigit = true) :
    charOfByte (UInt8.ofNat c.toNat) = c := by
  have hrange := isDigit_toNat hc
  unfold charOfByte
  rw [UInt8.toNat_ofNat', Nat.mod_eq_of_lt (by omega)]
  exact Char.ofNat_toNat c

theorem isDigit_of_mem {n : Nat} {c : Char} (hc : c ∈ Nat.toDigits 10 n) : c.isDigit = true :=
  Nat.isDigit_of_mem_toDigits (by decide) (by decide) hc

theorem digitsValue_decimal (n : Nat) : digitsValue (decimal n) = n := by
  have hchars : (decimal n).map charOfByte = Nat.toDigits 10 n := by
    unfold decimal
    rw [List.map_map]
    conv_rhs => rw [← List.map_id (Nat.toDigits 10 n)]
    apply List.map_congr_left
    intro c hc
    exact charOfByte_ofNat (isDigit_of_mem hc)
  unfold digitsValue
  rw [hchars, Nat.ofDigitChars_ten_toDigits]

theorem toNat_mem_decimal {n : Nat} {b : UInt8} (hb : b ∈ decimal n) :
    0x30 ≤ b.toNat ∧ b.toNat ≤ 0x39 := by
  rcases List.mem_map.mp hb with ⟨c, hc, rfl⟩
  have hrange := isDigit_toNat (isDigit_of_mem hc)
  rw [UInt8.toNat_ofNat', Nat.mod_eq_of_lt (by omega)]
  exact hrange

/-- A number without a sign: at least two digits. -/
theorem formatNumber_value {number : UInt32} (hpos : ¬ number.toInt32.toInt < 0) :
    digitsValue (formatNumber number) = number.toInt32.toInt.natAbs ∧
      ∀ b ∈ formatNumber number, 0x30 ≤ b.toNat ∧ b.toNat ≤ 0x39 := by
  unfold formatNumber
  dsimp only
  rw [if_neg hpos]
  split
  · constructor
    · exact digitsValue_decimal _
    · intro b hb
      rcases List.mem_cons.mp hb with rfl | hb
      · decide
      · exact toNat_mem_decimal hb
  · exact ⟨digitsValue_decimal _, fun b hb => toNat_mem_decimal hb⟩

theorem formatNumber_of_neg {number : UInt32} (hneg : number.toInt32.toInt < 0) :
    formatNumber number = 0x2D :: decimal number.toInt32.toInt.natAbs := by
  unfold formatNumber
  dsimp only
  rw [if_pos hneg]

theorem minus_ne_of_digits {bs bs' : List UInt8}
    (hdigits : ∀ b ∈ bs, 0x30 ≤ b.toNat ∧ b.toNat ≤ 0x39) : bs ≠ 0x2D :: bs' := by
  rintro rfl
  exact absurd (hdigits 0x2D List.mem_cons_self).1 (by decide)

theorem formatNumber_injective : Function.Injective formatNumber := by
  intro number number' heq
  have hint : number.toInt32.toInt = number'.toInt32.toInt := by
    by_cases hneg : number.toInt32.toInt < 0
    · by_cases hneg' : number'.toInt32.toInt < 0
      · rw [formatNumber_of_neg hneg, formatNumber_of_neg hneg'] at heq
        have habs := congrArg digitsValue (List.tail_eq_of_cons_eq heq)
        rw [digitsValue_decimal, digitsValue_decimal] at habs
        omega
      · rw [formatNumber_of_neg hneg] at heq
        exact absurd heq.symm (minus_ne_of_digits (formatNumber_value hneg').2)
    · by_cases hneg' : number'.toInt32.toInt < 0
      · rw [formatNumber_of_neg hneg'] at heq
        exact absurd heq (minus_ne_of_digits (formatNumber_value hneg).2)
      · have habs := congrArg digitsValue heq
        rw [(formatNumber_value hneg).1, (formatNumber_value hneg').1] at habs
        omega
  exact congrArg Int32.toUInt32 (Int32.toInt_inj.mp hint)

theorem digit_legal {b : UInt8} (hb : 0x30 ≤ b.toNat ∧ b.toNat ≤ 0x39) :
    isIllegalChar b = false := by
  rw [Bool.eq_false_iff]
  intro hillegal
  have hmem := of_decide_eq_true hillegal
  simp only [List.mem_cons, List.not_mem_nil, or_false] at hmem
  rcases hmem with rfl | rfl | rfl | rfl | rfl | rfl | rfl | rfl | rfl | rfl | rfl <;>
    exact absurd hb (by decide)

/-- None of its characters is replaced. -/
theorem formatNumber_legal (number : UInt32) :
    ∀ b ∈ formatNumber number, isIllegalChar b = false := by
  intro b hb
  by_cases hneg : number.toInt32.toInt < 0
  · rw [formatNumber_of_neg hneg] at hb
    rcases List.mem_cons.mp hb with rfl | hb
    · decide
    · exact digit_legal (toNat_mem_decimal hb)
  · exact digit_legal ((formatNumber_value hneg).2 b hb)

/-! ## Numbered paths -/

section Rename

variable (game : GameInfo) (ext outputDevice backupFolder : CString)

/-- "title [id] (01).ext", with what is illegal. -/
def formattedName (number : UInt32) : List UInt8 :=
  game.title.bytes ++ [0x20, 0x5B] ++ game.titleId.bytes ++ [0x5D] ++ [0x20, 0x28] ++
    formatNumber number ++ [0x29, 0x2E] ++ ext.bytes

/-- What is formatted is not cut off: the name in `output_filename`, the path in
`output_folder`. -/
structure FitsBuffers (number : UInt32) : Prop where
  name : (formattedName game ext number).length ≤ maxPathLength - 1
  path : outputDevice.bytes.length + backupFolder.bytes.length + 1 +
    (formattedName game ext number).length ≤ maxPathLength - 2

/-- The path with a number in it. -/
def numberedPath (number : UInt32) : CString :=
  outputFolder outputDevice backupFolder (getOutputFilename game ext number maxPathLength)

end Rename

section Rename

variable {game : GameInfo} {ext outputDevice backupFolder : CString}

theorem formattedName_ne_zero (game : GameInfo) (ext : CString) (number : UInt32) :
    ∀ b ∈ formattedName game ext number, b ≠ 0 := by
  have hnumber : ∀ b ∈ formatNumber number, b ≠ 0 := by
    intro b hb
    by_cases hneg : number.toInt32.toInt < 0
    · rw [formatNumber_of_neg hneg] at hb
      rcases List.mem_cons.mp hb with rfl | hb
      · decide
      · have hrange := toNat_mem_decimal hb
        rintro rfl
        exact absurd hrange.1 (by decide)
    · have hrange := (formatNumber_value hneg).2 b hb
      rintro rfl
      exact absurd hrange.1 (by decide)
  have hone {a : UInt8} (ha : a ≠ 0) : ∀ b ∈ [a], b ≠ 0 := List.forall_mem_singleton.mpr ha
  have htwo {a c : UInt8} (ha : a ≠ 0) (hc : c ≠ 0) : ∀ b ∈ [a, c], b ≠ 0 :=
    List.forall_mem_cons.mpr ⟨ha, hone hc⟩
  unfold formattedName
  simp only [List.forall_mem_append]
  exact ⟨⟨⟨⟨⟨⟨⟨game.title.ne_zero, htwo (by decide) (by decide)⟩, game.titleId.ne_zero⟩,
    hone (by decide)⟩, htwo (by decide) (by decide)⟩, hnumber⟩, htwo (by decide) (by decide)⟩,
    ext.ne_zero⟩

/-- What `remove_illegal_chars` leaves of one byte. -/
def legalChar (c : UInt8) : UInt8 := if isIllegalChar c then 0x20 else c

/-- The name is what is formatted, with spaces for what is illegal. -/
theorem getOutputFilename_fits {number : UInt32} (hpos : 0 < number)
    (hfits : (formattedName game ext number).length ≤ maxPathLength - 1) :
    (getOutputFilename game ext number maxPathLength).bytes =
      (formattedName game ext number).map legalChar := by
  have hformat : getOutputFilename game ext number maxPathLength =
      removeIllegalChars ((CString.ofBytes (formattedName game ext number)).take
        (maxPathLength - 1)) := by
    unfold getOutputFilename
    dsimp only
    rw [if_pos hpos]
    rfl
  rw [hformat]
  change (List.take (maxPathLength - 1)
    (CString.ofBytes (formattedName game ext number)).bytes).map legalChar = _
  rw [CString.bytes_ofBytes (formattedName_ne_zero game ext number), List.take_of_length_le hfits]

theorem numberedPath_fits {number : UInt32} (hpos : 0 < number)
    (hfits : FitsBuffers game ext outputDevice backupFolder number) :
    (numberedPath game ext outputDevice backupFolder number).bytes =
      outputDevice.bytes ++ backupFolder.bytes ++ [0x2F] ++
        (formattedName game ext number).map legalChar := by
  have hname := getOutputFilename_fits hpos hfits.name
  have hne : ∀ b ∈ outputDevice.bytes ++ backupFolder.bytes ++ [0x2F] ++
      (getOutputFilename game ext number maxPathLength).bytes, b ≠ 0 := by
    simp only [List.forall_mem_append]
    exact ⟨⟨⟨outputDevice.ne_zero, backupFolder.ne_zero⟩,
      List.forall_mem_singleton.mpr (by decide)⟩, CString.ne_zero _⟩
  have hlen := hfits.path
  unfold numberedPath outputFolder CString.take
  dsimp only
  rw [CString.bytes_ofBytes hne, hname, List.take_of_length_le]
  simp only [List.length_append, List.length_map, List.length_singleton]
  omega

/-- Only the number differs, and it is still there. -/
theorem numberedPath_injective {number number' : UInt32} (hpos : 0 < number) (hpos' : 0 < number')
    (hfits : FitsBuffers game ext outputDevice backupFolder number)
    (hfits' : FitsBuffers game ext outputDevice backupFolder number')
    (h : numberedPath game ext outputDevice backupFolder number =
      numberedPath game ext outputDevice backupFolder number') : number = number' := by
  have hkept (k : UInt32) : (formatNumber k).map legalChar = formatNumber k := by
    conv_rhs => rw [← List.map_id (formatNumber k)]
    apply List.map_congr_left
    intro b hb
    unfold legalChar
    rw [formatNumber_legal k b hb, if_neg (by decide)]
    rfl
  have hpath := congrArg CString.bytes h
  rw [numberedPath_fits hpos hfits, numberedPath_fits hpos' hfits'] at hpath
  have hname := List.append_cancel_left hpath
  unfold formattedName at hname
  simp only [List.map_append, List.append_cancel_left_eq, List.append_cancel_right_eq, hkept]
    at hname
  exact formatNumber_injective hname

/-! ## The loop -/

/-- The numbers as they are counted. -/
theorem ofNat_pos {k : Nat} (hk : k + 1 < 2 ^ 32) : 0 < UInt32.ofNat (k + 1) := by
  rw [UInt32.lt_iff_toNat_lt, UInt32.toNat_ofNat', Nat.mod_eq_of_lt hk]
  exact Nat.zero_lt_succ k

/-- The paths of the numbers from 1 on are free from some number on at the latest. -/
theorem exists_first_number {taken : Finset CString} (hcard : taken.card < 2 ^ 31)
    (hfits : ∀ number : UInt32, 0 < number → number.toNat ≤ taken.card + 1 →
      FitsBuffers game ext outputDevice backupFolder number) :
    ∃ n ≤ taken.card, First
      (fun k => numberedPath game ext outputDevice backupFolder (UInt32.ofNat (k + 1))) taken n := by
  have hcount (k : Nat) (hk : k ≤ taken.card) : (UInt32.ofNat (k + 1)).toNat = k + 1 := by
    rw [UInt32.toNat_ofNat', Nat.mod_eq_of_lt (by omega)]
  have hroom (k : Nat) (hk : k ≤ taken.card) :
      FitsBuffers game ext outputDevice backupFolder (UInt32.ofNat (k + 1)) := by
    refine hfits _ (ofNat_pos (by omega)) ?_
    rw [hcount k hk]
    omega
  apply exists_first
  intro i hi j hj heq
  have hnumber := congrArg UInt32.toNat (numberedPath_injective (ofNat_pos (by omega))
    (ofNat_pos (by omega)) (hroom i hi) (hroom j hj) heq)
  rw [hcount i hi, hcount j hj] at hnumber
  omega

end Rename

section Loop

variable (files : Files) (game : GameInfo) (ext outputDevice backupFolder outputFilename : CString)

/-- The state after so many renamings. -/
def renamed : Nat → UInt32 × CString
  | 0 => (1, outputFilename)
  | k + 1 => (UInt32.ofNat (k + 2), getOutputFilename game ext (UInt32.ofNat (k + 1)) maxPathLength)

/-- The path that is tested then. -/
def renamedPath (k : Nat) : CString :=
  outputFolder outputDevice backupFolder (renamed game ext outputFilename k).2

theorem renamed_number (k : Nat) : (renamed game ext outputFilename k).1 = UInt32.ofNat (k + 1) := by
  cases k <;> rfl

theorem renameBody_renamed (k : Nat) :
    renameBody files game ext outputDevice backupFolder (renamed game ext outputFilename k) =
      if fileExist files (renamedPath game ext outputDevice backupFolder outputFilename k) then
        .again (renamed game ext outputFilename (k + 1))
      else .exit (renamedPath game ext outputDevice backupFolder outputFilename k,
        (renamed game ext outputFilename k).2) := by
  have hnext : (renamed game ext outputFilename k).1 + 1 = UInt32.ofNat (k + 2) := by
    rw [renamed_number, UInt32.ofNat_add (k + 1) 1]
    rfl
  unfold renameBody renamedPath
  dsimp only
  split
  · rw [hnext, renamed_number]
    rfl
  · rfl

variable {files game ext outputDevice backupFolder outputFilename}

/-- With the paths up to the `n`-th taken and that one free, the loop ends there. -/
theorem renameLoop_first {taken : Finset CString} {n : Nat}
    (htaken : ∀ path, fileExist files path = true ↔ path ∈ taken)
    (hfirst : First (renamedPath game ext outputDevice backupFolder outputFilename) taken n)
    {fuel : Nat} (hfuel : n < fuel) :
    renameLoop files game ext outputDevice backupFolder fuel outputFilename =
      some (renamedPath game ext outputDevice backupFolder outputFilename n,
        (renamed game ext outputFilename n).2) := by
  unfold renameLoop
  refine run_passes (s := renamed game ext outputFilename) ?_ ?_ hfuel
  · intro k hk
    rw [renameBody_renamed, if_pos ((htaken _).mpr (hfirst.before k hk))]
  · rw [renameBody_renamed, if_neg (mt (htaken _).mp hfirst.free)]

/-- The loop ends with the first path that is free: that of the name itself, or the one
with the smallest number. -/
theorem renameLoop_fresh (taken : Finset CString)
    (htaken : ∀ path, fileExist files path = true ↔ path ∈ taken) (hcard : taken.card < 2 ^ 31)
    (hfits : ∀ number : UInt32, 0 < number → number.toNat ≤ taken.card + 1 →
      FitsBuffers game ext outputDevice backupFolder number) :
    ∃ path name,
      (∀ fuel, taken.card + 1 < fuel →
        renameLoop files game ext outputDevice backupFolder fuel outputFilename =
          some (path, name)) ∧
      path ∉ taken ∧
      (path = outputFolder outputDevice backupFolder outputFilename ∨
        outputFolder outputDevice backupFolder outputFilename ∈ taken ∧
          ∃ number, 0 < number ∧
            path = numberedPath game ext outputDevice backupFolder number ∧
            ∀ m, 0 < m → m < number →
              numberedPath game ext outputDevice backupFolder m ∈ taken) := by
  by_cases hinitial : outputFolder outputDevice backupFolder outputFilename ∈ taken
  · rcases exists_first_number hcard hfits with ⟨n, hn, hfirst⟩
    have hrenamed : First (renamedPath game ext outputDevice backupFolder outputFilename) taken
        (n + 1) := by
      refine ⟨hfirst.free, ?_⟩
      intro k hk
      cases k with
      | zero => exact hinitial
      | succ k => exact hfirst.before k (Nat.lt_of_succ_lt_succ hk)
    refine ⟨_, _, fun fuel hfuel => renameLoop_first htaken hrenamed (by omega), hfirst.free, ?_⟩
    refine Or.inr ⟨hinitial, UInt32.ofNat (n + 1), ofNat_pos (by omega), rfl, ?_⟩
    intro m hpos hm
    -- every number below is the one of an earlier pass
    rw [UInt32.lt_iff_toNat_lt] at hpos hm
    rw [UInt32.toNat_ofNat', Nat.mod_eq_of_lt (by omega)] at hm
    obtain ⟨j, hj⟩ : ∃ j, m.toNat = j + 1 := ⟨m.toNat - 1, by
      have hzero : (0 : UInt32).toNat = 0 := rfl
      omega⟩
    have hnumber : m = UInt32.ofNat (j + 1) := by
      rw [← hj, UInt32.ofNat_toNat]
    rw [hnumber]
    exact hfirst.before j (by omega)
  · have hrenamed : First (renamedPath game ext outputDevice backupFolder outputFilename) taken 0 :=
      ⟨hinitial, fun k hk => absurd hk (Nat.not_lt_zero k)⟩
    exact ⟨_, _, fun fuel hfuel => renameLoop_first htaken hrenamed (by omega), hinitial,
      Or.inl rfl⟩

end Loop

/-- "T" with the id "I" and the extension "img". -/
def shortGame : GameInfo := ⟨CString.ofBytes [0x49], CString.ofBytes [0x54]⟩

def imgExtension : CString := CString.ofBytes [0x69, 0x6D, 0x67]

/-- "ux0:/T [I].img" -/
def firstPath : CString :=
  outputFolder OutputLocation.ux0.device (CString.ofBytes [])
    (getOutputFilename shortGame imgExtension 0 maxPathLength)

theorem shortGame_fits (number : UInt32) (hpos : 0 < number) (hle : number.toNat ≤ 2) :
    FitsBuffers shortGame imgExtension OutputLocation.ux0.device (CString.ofBytes []) number := by
  obtain rfl | rfl : number = 1 ∨ number = 2 := by
    rw [UInt32.lt_iff_toNat_lt] at hpos
    rw [← UInt32.toNat_inj, ← UInt32.toNat_inj]
    have hzero : (0 : UInt32).toNat = 0 := rfl
    have hone : (1 : UInt32).toNat = 1 := rfl
    have htwo : (2 : UInt32).toNat = 2 := rfl
    omega
  · exact ⟨by decide, by decide⟩
  · exact ⟨by decide, by decide⟩

/-- With one file there the first number is free. -/
theorem renameLoop_fresh_second :
    ∃ path name,
      (∀ fuel, 2 < fuel →
        renameLoop (fun path => if path = firstPath then some [] else none) shortGame imgExtension
          OutputLocation.ux0.device (CString.ofBytes []) fuel
          (getOutputFilename shortGame imgExtension 0 maxPathLength) = some (path, name)) ∧
      path ∉ ({firstPath} : Finset CString) ∧
      (path = firstPath ∨ firstPath ∈ ({firstPath} : Finset CString) ∧
        ∃ number, 0 < number ∧
          path = numberedPath shortGame imgExtension OutputLocation.ux0.device
            (CString.ofBytes []) number ∧
          ∀ m, 0 < m → m < number →
            numberedPath shortGame imgExtension OutputLocation.ux0.device
              (CString.ofBytes []) m ∈ ({firstPath} : Finset CString)) := by
  refine renameLoop_fresh {firstPath} ?_ (by decide) shortGame_fits
  intro path
  unfold fileExist
  dsimp only
  rw [Finset.mem_singleton]
  by_cases hpath : path = firstPath
  · rw [if_pos hpath]
    exact iff_of_true rfl hpath
  · rw [if_neg hpath]
    exact iff_of_false (by decide) hpath

end GcToolKit.App
