import GcToolKit.App.Ime
import GcToolKit.App.KeyDump

/-!
# Where the text entry reads and writes (app/ime.c)

`utf8_to_utf16` takes as many bytes as the first one of a sequence announces, even if the
string ends before. And the dialog counts a text in units of UTF-16, of which one takes up to
three bytes, while the buffers are as long as if each took one.

* `staysInside_iff` — no byte behind the terminator is read of a string of whole sequences;
* `wholeSequences_utf8Encode` — a text that is not cut is such a string;
* `utf16ToUtf8_written` — what is written of a text, and how much;
* `textFits_iff` — the buffers are long enough for a text that is short enough in UTF-8.
-/

namespace GcToolKit.App

open DoWhile Utf16

/-! ## The bytes that utf8_to_utf16 reads -/

section Reads

variable (src : Nat → UInt8)

/-- The indices of one round. -/
def utf8BodyReads (i : Nat) : List Nat :=
  i ::
    if src i = 0 then []
    else if (src i).toNat &&& 0xE0 = 0xE0 then [i + 1, i + 2]
    else if (src i).toNat &&& 0xC0 = 0xC0 then [i + 1]
    else []

/-- The indices of so many rounds. -/
def utf8ToUtf16Reads (fuel : Nat) : List Nat :=
  gather (utf8Body src) (fun s => utf8BodyReads src s.1) fuel (0, [])

/-- Nothing behind the terminator is read, and the loop comes to its end. -/
structure StaysInside (length : Nat) : Prop where
  reads : ∀ fuel, ∀ i ∈ utf8ToUtf16Reads src fuel, i ≤ length
  ends : ∃ fuel units, utf8ToUtf16 src fuel = some units

end Reads

/-- The bytes that are taken from a first one on. -/
def sequenceLength (b : UInt8) : Nat :=
  if 0xE0 ≤ b.toNat then 3 else if 0xC0 ≤ b.toNat then 2 else 1

/-- Every first byte is followed by the bytes that are taken with it. -/
inductive WholeSequences : List UInt8 → Prop
  | nil : WholeSequences []
  | cons {b : UInt8} {tail rest : List UInt8} (h : tail.length + 1 = sequenceLength b) :
      WholeSequences rest → WholeSequences (b :: tail ++ rest)

theorem sequenceLength_pos (b : UInt8) : 0 < sequenceLength b := by
  unfold sequenceLength
  split
  · decide
  · split
    · decide
    · decide

theorem WholeSequences.append {bytes bytes' : List UInt8} (h : WholeSequences bytes)
    (h' : WholeSequences bytes') : WholeSequences (bytes ++ bytes') := by
  induction h with
  | nil => exact h'
  | cons hlength _ ih =>
    rw [List.append_assoc]
    exact .cons hlength ih

section Round

variable {src : Nat → UInt8} {i : Nat}

/-- One round goes on behind the sequence. -/
theorem utf8Body_again (hne : src i ≠ 0) (dst : List UInt16) :
    ∃ dst', utf8Body src (i, dst) = .again (i + sequenceLength (src i), dst') := by
  have hbyte : src i = UInt8.ofNat (src i).toNat := UInt8.ofNat_toNat.symm
  have hlt := (src i).toNat_lt
  have hpos : (src i).toNat ≠ 0 := fun hzero => hne (UInt8.toNat_inj.mp hzero)
  unfold sequenceLength
  by_cases hthree : 0xE0 ≤ (src i).toNat
  · rw [if_pos hthree]
    exact ⟨_, utf8Body_three hbyte hthree hlt⟩
  · rw [if_neg hthree]
    by_cases htwo : 0xC0 ≤ (src i).toNat
    · rw [if_pos htwo]
      exact ⟨_, utf8Body_two hbyte htwo (by omega)⟩
    · rw [if_neg htwo]
      exact ⟨_, utf8Body_one hbyte hpos (by omega)⟩

theorem utf8Body_exit (hzero : src i = 0) (dst : List UInt16) :
    utf8Body src (i, dst) = .exit dst := by
  unfold utf8Body
  dsimp only
  rw [if_pos hzero]

theorem utf8BodyReads_exit (hzero : src i = 0) : utf8BodyReads src i = [i] := by
  unfold utf8BodyReads
  rw [if_pos hzero]

/-- A round reads the sequence and nothing else. -/
theorem utf8BodyReads_lt : ∀ k ∈ utf8BodyReads src i, k < i + sequenceLength (src i) := by
  have hlt := (src i).toNat_lt
  have hthree := and_0xE0 hlt
  have htwo := and_0xC0 hlt
  have hpos := sequenceLength_pos (src i)
  intro k hk
  unfold utf8BodyReads at hk
  simp only [hthree, htwo] at hk
  rcases List.mem_cons.mp hk with rfl | hk
  · omega
  · unfold sequenceLength
    split at hk
    · cases hk
    · split at hk
      case isTrue hle =>
        rw [if_pos hle]
        rcases List.mem_pair.mp hk with rfl | rfl
        · omega
        · omega
      case isFalse hnot =>
        rw [if_neg hnot]
        split at hk
        case isTrue hle =>
          rw [if_pos hle, List.mem_singleton.mp hk]
          omega
        case isFalse => cases hk

end Round

section Loop

variable {src : Nat → UInt8}

/-- A round leaves the sequence that the string begins with. -/
theorem utf8Body_sequence {b : UInt8} {tail rest : List UInt8}
    (hlength : tail.length + 1 = sequenceLength b) (hb : b ≠ 0) {i : Nat}
    (h : HoldsFrom src i (b :: tail ++ rest ++ [0])) (dst : List UInt16) :
    ∃ dst', utf8Body src (i, dst) = .again (i + sequenceLength (src i), dst') ∧
      HoldsFrom src (i + sequenceLength (src i)) (rest ++ [0]) ∧
      i + (b :: tail ++ rest).length = i + sequenceLength (src i) + rest.length := by
  have hfirst : src i = b := h.1
  have hne : src i ≠ 0 := by
    rw [hfirst]
    exact hb
  rcases utf8Body_again hne dst with ⟨dst', hagain⟩
  rw [List.append_assoc, holdsFrom_append, List.length_cons, hlength, ← hfirst] at h
  refine ⟨dst', hagain, h.2, ?_⟩
  rw [List.length_append, List.length_cons, hlength, hfirst]
  omega

/-- Whole sequences are left one after the other, up to the terminator. -/
theorem WholeSequences.reads_le {bytes : List UInt8} (hwhole : WholeSequences bytes)
    (hne : ∀ b ∈ bytes, b ≠ 0) {i : Nat} (h : HoldsFrom src i (bytes ++ [0]))
    (dst : List UInt16) (fuel : Nat) :
    ∀ k ∈ gather (utf8Body src) (fun s => utf8BodyReads src s.1) fuel (i, dst),
      k ≤ i + bytes.length := by
  intro k hk
  -- one round for each sequence, and the last one for the terminator
  induction hwhole generalizing i dst fuel with
  | nil =>
    cases fuel with
    | zero => cases hk
    | succ fuel =>
      rw [gather_exit (utf8Body_exit h.1 dst)] at hk
      dsimp only at hk
      rw [utf8BodyReads_exit h.1, List.mem_singleton] at hk
      omega
  | @cons b tail rest hlength _ ih =>
    rcases utf8Body_sequence hlength (hne b List.mem_cons_self) h dst with
      ⟨dst', hagain, hrest, hend⟩
    cases fuel with
    | zero => cases hk
    | succ fuel =>
      rw [gather_again hagain] at hk
      rw [hend]
      rcases List.mem_append.mp hk with hround | hlater
      · have hlt : k < i + sequenceLength (src i) := utf8BodyReads_lt k hround
        omega
      · exact ih (fun c hc => hne c (List.mem_append_right _ hc)) hrest dst' fuel hlater

theorem WholeSequences.ends {bytes : List UInt8} (hwhole : WholeSequences bytes)
    (hne : ∀ b ∈ bytes, b ≠ 0) {i : Nat} (h : HoldsFrom src i (bytes ++ [0]))
    (dst : List UInt16) : ∃ fuel units, run (utf8Body src) fuel (i, dst) = some units := by
  induction hwhole generalizing i dst with
  | nil => exact ⟨1, dst, run_exit (utf8Body_exit h.1 dst)⟩
  | @cons b tail rest hlength _ ih =>
    rcases utf8Body_sequence hlength (hne b List.mem_cons_self) h dst with ⟨dst', hagain, hrest, -⟩
    rcases ih (fun c hc => hne c (List.mem_append_right _ hc)) hrest dst' with ⟨fuel, units, hrun⟩
    refine ⟨fuel + 1, units, ?_⟩
    rw [run_again hagain]
    exact hrun

/-- The byte behind a sequence is read in the next round, so it is the terminator at most. -/
theorem sequenceLength_le {b : UInt8} {rest : List UInt8} (hb : b ≠ 0) {i : Nat}
    (h : src i = b) (dst : List UInt16)
    (hreads : ∀ fuel,
      ∀ k ∈ gather (utf8Body src) (fun s => utf8BodyReads src s.1) fuel (i, dst),
        k ≤ i + (b :: rest).length) : sequenceLength b ≤ (b :: rest).length := by
  have hne : src i ≠ 0 := by
    rw [h]
    exact hb
  rcases utf8Body_again hne dst with ⟨dst', hagain⟩
  -- two rounds are enough to see it
  have hnext : i + sequenceLength (src i) ≤ i + (b :: rest).length := by
    apply hreads 2
    rw [gather_again hagain]
    exact List.mem_append_right _ (List.mem_append_left _ List.mem_cons_self)
  rw [h] at hnext
  exact Nat.le_of_add_le_add_left hnext

/-- A string that is read inside is whole sequences: one is in it, and so are those behind. -/
theorem wholeSequences_of_reads (bytes : List UInt8) (hne : ∀ b ∈ bytes, b ≠ 0) {i : Nat}
    (h : HoldsFrom src i (bytes ++ [0])) (dst : List UInt16)
    (hreads : ∀ fuel,
      ∀ k ∈ gather (utf8Body src) (fun s => utf8BodyReads src s.1) fuel (i, dst),
        k ≤ i + bytes.length) : WholeSequences bytes := by
  induction hn : bytes.length using Nat.strong_induction_on generalizing bytes i dst with
  | _ n ih =>
    cases bytes with
    | nil => exact .nil
    | cons b rest =>
      have hb := hne b List.mem_cons_self
      have hle := sequenceLength_le hb h.1 dst hreads
      have hpos := sequenceLength_pos b
      rw [List.length_cons] at hn hle
      -- the bytes that are taken with the first, and those behind them
      have hsplit : b :: rest = b :: rest.take (sequenceLength b - 1) ++
          rest.drop (sequenceLength b - 1) := by
        rw [List.cons_append, List.take_append_drop]
      have htaken : (rest.take (sequenceLength b - 1)).length + 1 = sequenceLength b := by
        rw [List.length_take]
        omega
      have hleft : (rest.drop (sequenceLength b - 1)).length < n := by
        rw [List.length_drop]
        omega
      rw [hsplit] at h hreads ⊢
      rcases utf8Body_sequence htaken hb h dst with ⟨dst', hagain, hrest, hend⟩
      refine .cons htaken (ih _ hleft _ ?_ hrest dst' ?_ rfl)
      · intro c hc
        exact hne c (List.mem_cons_of_mem _ (List.mem_of_mem_drop hc))
      · intro fuel k hk
        rw [← hend]
        apply hreads (fuel + 1)
        rw [gather_again hagain]
        exact List.mem_append_right _ hk

end Loop

theorem WholeSequences.staysInside {src : Nat → UInt8} {s : CString}
    (hwhole : WholeSequences s.bytes) (h : HoldsFrom src 0 (s.bytes ++ [0])) :
    StaysInside src s.bytes.length := by
  refine ⟨?_, hwhole.ends s.ne_zero h []⟩
  have hreads := hwhole.reads_le s.ne_zero h []
  rw [Nat.zero_add] at hreads
  exact hreads

/-- A string is read up to its terminator exactly where it is not cut inside a sequence. -/
theorem staysInside_iff {src : Nat → UInt8} {s : CString}
    (h : HoldsFrom src 0 (s.bytes ++ [0])) :
    StaysInside src s.bytes.length ↔ WholeSequences s.bytes := by
  constructor
  · rintro ⟨hreads, -⟩
    apply wholeSequences_of_reads s.bytes s.ne_zero h []
    intro fuel k hk
    rw [Nat.zero_add]
    exact hreads fuel k hk
  · exact fun hwhole => hwhole.staysInside h

/-- "Aé" -/
def wholeString : CString := CString.ofBytes [0x41, 0xC3, 0xA9]

theorem staysInside_iff_whole :
    StaysInside (memoryOf (wholeString.bytes ++ [0])) wholeString.bytes.length ↔
      WholeSequences wholeString.bytes :=
  staysInside_iff (holdsFrom_memoryOf [] (wholeString.bytes ++ [0]))

/-- The same string without its last byte. -/
def cutString : CString := CString.ofBytes [0x41, 0xC3]

/-- The round after the last character begins behind the terminator. -/
theorem not_staysInside_cut :
    HoldsFrom (memoryOf (cutString.bytes ++ [0])) 0 (cutString.bytes ++ [0]) ∧
      ¬ StaysInside (memoryOf (cutString.bytes ++ [0])) cutString.bytes.length := by
  refine ⟨holdsFrom_memoryOf [] (cutString.bytes ++ [0]), ?_⟩
  intro h
  have hread : 3 ∈ utf8ToUtf16Reads (memoryOf (cutString.bytes ++ [0])) 3 := by decide
  have hlast : ¬ 3 ≤ cutString.bytes.length := by decide
  exact hlast (h.reads 3 3 hread)

/-! ## Strings of whole sequences -/

section Sequences

theorem wholeSequences_one {v : Nat} (hlt : v < 0xC0) : WholeSequences [UInt8.ofNat v] := by
  change WholeSequences (UInt8.ofNat v :: [] ++ [])
  refine .cons ?_ .nil
  unfold sequenceLength
  rw [toNat_byte (by omega), if_neg (by omega), if_neg (by omega)]
  rfl

theorem wholeSequences_two {v : Nat} (hle : 0xC0 ≤ v) (hlt : v < 0xE0) (b : UInt8) :
    WholeSequences [UInt8.ofNat v, b] := by
  change WholeSequences (UInt8.ofNat v :: [b] ++ [])
  refine .cons ?_ .nil
  unfold sequenceLength
  rw [toNat_byte (by omega), if_neg (by omega), if_pos hle]
  rfl

theorem wholeSequences_three {v : Nat} (hle : 0xE0 ≤ v) (hlt : v < 0x100) (b b' : UInt8) :
    WholeSequences [UInt8.ofNat v, b, b'] := by
  change WholeSequences (UInt8.ofNat v :: [b, b'] ++ [])
  refine .cons ?_ .nil
  unfold sequenceLength
  rw [toNat_byte hlt, if_pos hle]
  rfl

/-- Four bytes are taken as three and one. -/
theorem wholeSequences_four {v v' : Nat} (hle : 0xE0 ≤ v) (hlt : v < 0x100) (hlt' : v' < 0xC0)
    (b b' : UInt8) : WholeSequences [UInt8.ofNat v, b, b', UInt8.ofNat v'] :=
  (wholeSequences_three hle hlt b b').append (wholeSequences_one hlt')

end Sequences

/-- A text in UTF-8 is read inside if no character is cut. -/
theorem wholeSequences_utf8Encode (text : List Char) : WholeSequences (utf8Encode text) := by
  induction text with
  | nil => exact .nil
  | cons c text ih =>
    have hcases := toNat_cases c
    unfold utf8Encode at ih ⊢
    rw [List.flatMap_cons]
    refine WholeSequences.append ?_ ih
    by_cases hone : c.toNat < 0x80
    · rw [utf8EncodeChar_one hone]
      exact wholeSequences_one (by omega)
    · by_cases htwo : c.toNat < 0x800
      · rw [utf8EncodeChar_two (by omega) htwo]
        exact wholeSequences_two (by omega) (by omega) _
      · by_cases hthree : c.toNat < 0x10000
        · rw [utf8EncodeChar_three (by omega) hthree]
          exact wholeSequences_three (by omega) (by omega) _ _
        · rw [utf8EncodeChar_four (by omega)]
          exact wholeSequences_four (by omega) (by omega) (by omega) _ _

/-! ## The bytes that utf16_to_utf8 writes -/

/-- A byte with a mark in it. -/
theorem marked_ne_zero {v mark : Nat} (hv : v < 256) (hmark : mark < 256) (hne : mark ≠ 0) :
    UInt8.ofNat (v ||| mark) ≠ 0 := by
  have hlt : v ||| mark < 2 ^ 8 := Nat.or_lt_two_pow hv hmark
  have hle : mark ≤ v ||| mark := Nat.right_le_or
  exact byte_ne_zero hlt (by omega)

theorem masked_lt (v : Nat) {mask : Nat} (hmask : mask < 256) : v &&& mask < 256 :=
  Nat.lt_of_le_of_lt Nat.and_le_right hmask

theorem twoBytes_ne_zero (u : UInt16) : ∀ b ∈ twoBytes u, b ≠ 0 := by
  intro b hb
  rcases List.mem_pair.mp hb with rfl | rfl
  · exact marked_ne_zero (masked_lt _ (by decide)) (by decide) (by decide)
  · exact marked_ne_zero (masked_lt _ (by decide)) (by decide) (by decide)

theorem threeBytes_ne_zero (u : UInt16) : ∀ b ∈ threeBytes u, b ≠ 0 := by
  intro b hb
  rcases List.mem_cons.mp hb with rfl | hb
  · exact marked_ne_zero (masked_lt _ (by decide)) (by decide) (by decide)
  · rcases List.mem_pair.mp hb with rfl | rfl
    · exact marked_ne_zero (masked_lt _ (by decide)) (by decide) (by decide)
    · exact marked_ne_zero (masked_lt _ (by decide)) (by decide) (by decide)

theorem fourBytes_ne_zero (u v : UInt16) : ∀ b ∈ fourBytes u v, b ≠ 0 := by
  intro b hb
  rcases List.mem_cons.mp hb with rfl | hb
  · exact marked_ne_zero (masked_lt _ (by decide)) (by decide) (by decide)
  · rcases List.mem_cons.mp hb with rfl | hb
    · exact marked_ne_zero (masked_lt _ (by decide)) (by decide) (by decide)
    · rcases List.mem_pair.mp hb with rfl | rfl
      · -- the mark stands between the two fields
        rw [Nat.or_right_comm]
        have hfields : (u.toNat >>> 4 &&& 0x30) ||| (v.toNat <<< 2 &&& 0xF) < 2 ^ 8 :=
          Nat.or_lt_two_pow (masked_lt _ (by decide)) (masked_lt _ (by decide))
        exact marked_ne_zero hfields (by decide) (by decide)
      · exact marked_ne_zero (masked_lt _ (by decide)) (by decide) (by decide)

/-- What is written of a text: so many bytes, none of them a terminator, in whole sequences. -/
structure WrittenUtf8 (size : Nat) (bytes : List UInt8) : Prop where
  length : bytes.length = size
  ne_zero : ∀ b ∈ bytes, b ≠ 0
  whole : WholeSequences bytes

theorem WrittenUtf8.append {size size' : Nat} {bytes bytes' : List UInt8} (h : WrittenUtf8 size bytes)
    (h' : WrittenUtf8 size' bytes') : WrittenUtf8 (size + size') (bytes ++ bytes') where
  length := by rw [List.length_append, h.length, h'.length]
  ne_zero := by
    intro b hb
    rcases List.mem_append.mp hb with hb | hb
    · exact h.ne_zero b hb
    · exact h'.ne_zero b hb
  whole := h.whole.append h'.whole

section Pieces

variable {u v : UInt16}

theorem oneByte_written (hne : u ≠ 0) (hascii : u.toNat < 0x80) : WrittenUtf8 1 (oneByte u) := by
  have hpos : u.toNat ≠ 0 := fun hzero => hne (UInt16.toNat_inj.mp hzero)
  rw [oneByte_eq hascii]
  exact ⟨rfl, List.forall_mem_singleton.mpr (byte_ne_zero (by omega) hpos),
    wholeSequences_one (by omega)⟩

theorem twoBytes_written (hshort : u.toNat < 0x800) : WrittenUtf8 2 (twoBytes u) := by
  refine ⟨rfl, twoBytes_ne_zero u, ?_⟩
  rw [twoBytes_eq hshort]
  exact wholeSequences_two (by omega) (by omega) _

theorem threeBytes_written (u : UInt16) : WrittenUtf8 3 (threeBytes u) := by
  refine ⟨rfl, threeBytes_ne_zero u, ?_⟩
  rw [threeBytes_eq]
  exact wholeSequences_three (by omega) (by omega) _ _

theorem fourBytes_written (u v : UInt16) : WrittenUtf8 4 (fourBytes u v) := by
  refine ⟨rfl, fourBytes_ne_zero u v, ?_⟩
  rcases fourBytes_eq u v with ⟨v0, b1, b2, v3, heq, hle, hlt, -, hlt'⟩
  rw [heq]
  exact wholeSequences_four hle hlt hlt' b1 b2

theorem unitBytes_written (hne : u ≠ 0) : WrittenUtf8 (unitSize u) (unitBytes u) := by
  unfold unitSize unitBytes
  by_cases hascii : u.toNat < 0x80
  · rw [if_pos hascii, if_pos hascii]
    exact oneByte_written hne hascii
  · rw [if_neg hascii, if_neg hascii]
    by_cases hshort : u.toNat < 0x800
    · rw [if_pos hshort, if_pos hshort]
      exact twoBytes_written hshort
    · rw [if_neg hshort, if_neg hshort]
      exact threeBytes_written u

end Pieces

theorem utf16ToUtf8_written {units : List UInt16} (h : ∀ u ∈ units, u ≠ 0) :
    WrittenUtf8 (utf8Size units) (utf16ToUtf8 units) := by
  -- as the size is counted: pairs first, then units on their own
  induction units using utf8Size.induct with
  | case1 => exact ⟨rfl, List.forall_mem_nil _, .nil⟩
  | case2 u =>
    have hne := h u List.mem_cons_self
    have hsingle : ∀ v ∈ ([] : List UInt16).head?, ¬ IsPair u v := fun v hv => nomatch hv
    rw [utf16ToUtf8_cons hne hsingle]
    change WrittenUtf8 (unitSize u) (unitBytes u ++ [])
    rw [List.append_nil]
    exact unitBytes_written hne
  | case3 u v units hpair ih =>
    rw [utf16ToUtf8_cons_pair hpair, utf8Size_pair hpair]
    apply (fourBytes_written u v).append
    exact ih fun w hw => h w (List.mem_cons_of_mem _ (List.mem_cons_of_mem _ hw))
  | case4 u v units hpair ih =>
    have hne := h u List.mem_cons_self
    have hsingle : ∀ w ∈ (v :: units).head?, ¬ IsPair u w := by
      rintro w hw
      cases hw
      exact hpair
    rw [utf16ToUtf8_cons hne hsingle, utf8Size_cons hsingle]
    apply (unitBytes_written hne).append
    exact ih fun w hw => h w (List.mem_cons_of_mem _ hw)

/-! ## osl_osk_get_text -/

/-- `SCE_IME_DIALOG_MAX_TEXT_LENGTH` -/
def sceImeDialogMaxTextLength : Nat := 2048

/-- `sizeof(ime_input_text_utf8)` -/
def sizeofInputTextUtf8 : Nat := sceImeDialogMaxTextLength + 1

/-- What is stored in `ime_input_text_utf8` and at `text`, from their starts on. -/
structure OskText where
  inputTextUtf8 : List UInt8
  text : List UInt8

/-- `strcpy` copies up to the first terminator. -/
def oslOskGetText (inputTextUtf16 : List UInt16) : OskText :=
  let inputTextUtf8 := utf16ToUtf8 inputTextUtf16 ++ [0]
  { inputTextUtf8 := inputTextUtf8
    text := (CString.ofBytes inputTextUtf8).bytes ++ [0] }

/-- The calls of `open_ime`. -/
inductive ImeCall where
  | ipAddress
  | outputFilename
deriving DecidableEq

/-- The size of the buffer the call is given, of `CONFIG.ip_address` and `output_filename`. -/
def ImeCall.size : ImeCall → Nat
  | ipAddress => 16
  | outputFilename => maxPathLength

/-- The `max_len` of the call. -/
def ImeCall.maxLen : ImeCall → Nat
  | ipAddress => ImeCall.size .ipAddress - 1
  | outputFilename => ImeCall.size .outputFilename

/-- A text that the dialog can give, in front of its terminator. -/
structure DialogText (maxLen : Nat) (units : List UInt16) : Prop where
  length_le : units.length ≤ maxLen
  ne_zero : ∀ u ∈ units, u ≠ 0

/-- No byte behind either buffer is written. -/
structure TextFits (call : ImeCall) (units : List UInt16) : Prop where
  converted : (oslOskGetText units).inputTextUtf8.length ≤ sizeofInputTextUtf8
  copied : (oslOskGetText units).text.length ≤ call.size

/-- All of the converted text is copied. -/
theorem oslOskGetText_text {units : List UInt16} (h : ∀ u ∈ units, u ≠ 0) :
    (oslOskGetText units).text = utf16ToUtf8 units ++ [0] := by
  have hcopied : (CString.ofBytes (utf16ToUtf8 units ++ [0])).bytes = utf16ToUtf8 units :=
    congrArg CString.bytes
      (CString.ofBytes_append_zero ⟨_, (utf16ToUtf8_written h).ne_zero⟩ [])
  unfold oslOskGetText
  dsimp only
  rw [hcopied]

theorem oslOskGetText_lengths {units : List UInt16} (h : ∀ u ∈ units, u ≠ 0) :
    (oslOskGetText units).inputTextUtf8.length = utf8Size units + 1 ∧
      (oslOskGetText units).text.length = utf8Size units + 1 := by
  have hlength : (utf16ToUtf8 units ++ [0]).length = utf8Size units + 1 := by
    rw [List.length_append, (utf16ToUtf8_written h).length, List.length_singleton]
  rw [oslOskGetText_text h]
  exact ⟨hlength, hlength⟩

/-- A text of characters takes what it should take in UTF-8, right or not. -/
theorem oslOskGetText_encode {text : List Char} (hnul : ∀ c ∈ text, c.toNat ≠ 0) :
    (oslOskGetText (encode text)).text.length = (utf8Encode text).length + 1 := by
  rw [(oslOskGetText_lengths (encode_ne_zero hnul)).2, utf8Size_encode]

/-- A text that was entered can be shown in the dialog again. -/
theorem oslOskGetText_staysInside {units : List UInt16} (h : ∀ u ∈ units, u ≠ 0)
    {src : Nat → UInt8} (hsrc : HoldsFrom src 0 (oslOskGetText units).text) :
    StaysInside src (utf8Size units) := by
  have hwritten := utf16ToUtf8_written h
  rw [oslOskGetText_text h] at hsrc
  rw [← hwritten.length]
  have hwhole : WholeSequences (⟨_, hwritten.ne_zero⟩ : CString).bytes := hwritten.whole
  exact hwhole.staysInside hsrc

/-- A text fits exactly where it takes fewer bytes in UTF-8 than the caller's buffer has. -/
theorem textFits_iff {call : ImeCall} {units : List UInt16}
    (h : DialogText call.maxLen units) : TextFits call units ↔ utf8Size units < call.size := by
  rcases oslOskGetText_lengths h.ne_zero with ⟨hconverted, hcopied⟩
  have hsmaller : call.size ≤ sizeofInputTextUtf8 := by
    cases call with
    | ipAddress => decide
    | outputFilename => decide
  constructor
  · rintro ⟨-, hfits⟩
    rw [hcopied] at hfits
    exact hfits
  · intro hlt
    refine ⟨?_, ?_⟩
    · rw [hconverted]
      exact Nat.le_trans hlt hsmaller
    · rw [hcopied]
      exact hlt

/-- "1€" -/
def euroUnits : List UInt16 := [0x31, 0x20AC]

theorem textFits_iff_euro : TextFits .ipAddress euroUnits ↔ utf8Size euroUnits < 16 :=
  textFits_iff ⟨by decide, List.forall_mem_cons.mpr
    ⟨by decide, List.forall_mem_singleton.mpr (by decide)⟩⟩

/-- Six signs for the euro take eighteen bytes. -/
theorem not_textFits_sixEuros :
    DialogText (ImeCall.maxLen .ipAddress) (List.replicate 6 0x20AC) ∧
      ¬ TextFits .ipAddress (List.replicate 6 0x20AC) := by
  have hne : ∀ u ∈ List.replicate 6 (0x20AC : UInt16), u ≠ 0 := by
    intro u hu
    rw [List.eq_of_mem_replicate hu]
    decide
  refine ⟨⟨by decide, hne⟩, ?_⟩
  intro h
  have hcopied := h.copied
  rw [(oslOskGetText_lengths hne).2] at hcopied
  exact absurd hcopied (by decide)

end GcToolKit.App
