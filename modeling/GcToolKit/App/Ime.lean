import Mathlib.Data.List.GetD
import GcToolKit.Lib.BitFields
import GcToolKit.Lib.DoWhile
import GcToolKit.Lib.Utf16

/-!
# Text entry (app/ime.c)

The dialog takes and gives UTF-16, everything else is UTF-8. The four bytes that
`utf16_to_utf8` makes of two surrogates have bits missing, and `utf8_to_utf16` knows no
such form: it takes three of the bytes for one unit and the last for another.

* `utf16ToUtf8_basic`, `utf8ToUtf16_basic` — a text without surrogates is converted right;
* `utf8ToUtf16_text` — what comes back in any case;
* `roundTrips_iff` — a text comes back when it has no surrogates.
-/

namespace GcToolKit.App

open BitFields DoWhile Utf16

/-! ## utf16_to_utf8 -/

section Branches

variable (u v : UInt16)

def oneByte : List UInt8 := [UInt8.ofNat (u.toNat &&& 0xFF)]

def twoBytes : List UInt8 :=
  [UInt8.ofNat (((u.toNat >>> 6) &&& 0xFF) ||| 0xC0), UInt8.ofNat ((u.toNat &&& 0x3F) ||| 0x80)]

/-- Of two surrogates. -/
def fourBytes : List UInt8 :=
  [UInt8.ofNat ((((u.toNat + 64) >>> 8) &&& 0x3) ||| 0xF0),
    UInt8.ofNat ((((u.toNat >>> 2) + 16) &&& 0x3F) ||| 0x80),
    UInt8.ofNat (((u.toNat >>> 4) &&& 0x30) ||| 0x80 ||| ((v.toNat <<< 2) &&& 0xF)),
    UInt8.ofNat ((v.toNat &&& 0x3F) ||| 0x80)]

def threeBytes : List UInt8 :=
  [UInt8.ofNat (((u.toNat >>> 12) &&& 0xF) ||| 0xE0),
    UInt8.ofNat (((u.toNat >>> 6) &&& 0x3F) ||| 0x80), UInt8.ofNat ((u.toNat &&& 0x3F) ||| 0x80)]

end Branches

/-- The bytes in front of the terminator. The list is `src` up to its own, which is the
unit behind the last. -/
def utf16ToUtf8 : List UInt16 → List UInt8
  | [] => []
  | u :: src =>
    if u = 0 then []
    else if u.toNat &&& 0xFF80 = 0 then oneByte u ++ utf16ToUtf8 src
    else if u.toNat &&& 0xF800 = 0 then twoBytes u ++ utf16ToUtf8 src
    else
      match src with
      | [] => threeBytes u
      | v :: rest =>
        if u.toNat &&& 0xFC00 = 0xD800 ∧ v.toNat &&& 0xFC00 = 0xDC00 then
          fourBytes u v ++ utf16ToUtf8 rest
        else threeBytes u ++ utf16ToUtf8 (v :: rest)

/-! ## utf8_to_utf16 -/

/-- The unit of two bytes. -/
def twoUnit (b0 b1 : UInt8) : UInt16 :=
  UInt16.ofNat (((b0.toNat &&& 0x1F) <<< 6) ||| (b1.toNat &&& 0x3F))

/-- The unit of three bytes. -/
def threeUnit (b0 b1 b2 : UInt8) : UInt16 :=
  UInt16.ofNat (((b0.toNat &&& 0x0F) <<< 12) ||| ((b1.toNat &&& 0x3F) <<< 6) |||
    (b2.toNat &&& 0x3F))

section Decode

variable (src : Nat → UInt8)

/-- One round: `i`, and the units so far. -/
def utf8Body (s : Nat × List UInt16) : Pass (Nat × List UInt16) (List UInt16) :=
  let (i, dst) := s
  if src i = 0 then .exit dst
  else if (src i).toNat &&& 0xE0 = 0xE0 then
    .again (i + 3, dst ++ [threeUnit (src i) (src (i + 1)) (src (i + 2))])
  else if (src i).toNat &&& 0xC0 = 0xC0 then
    .again (i + 2, dst ++ [twoUnit (src i) (src (i + 1))])
  else .again (i + 1, dst ++ [UInt16.ofNat (src i).toNat])

/-- The units in front of the terminator. -/
def utf8ToUtf16 (fuel : Nat) : Option (List UInt16) := run (utf8Body src) fuel (0, [])

end Decode

/-! ## The bytes of a unit -/

/-- One byte for a unit below 0x80. -/
theorem and_0xFF80 {u : Nat} (h : u < 0x10000) : u &&& 0xFF80 = 0 ↔ u < 0x80 := by
  have hfield := and_field u 9 7
  change u &&& 0xFF80 = u / 128 % 512 * 128 at hfield
  rw [hfield]
  omega

theorem and_0xF800 {u : Nat} (h : u < 0x10000) : u &&& 0xF800 = 0 ↔ u < 0x800 := by
  have hfield := and_field u 5 11
  change u &&& 0xF800 = u / 2048 % 32 * 2048 at hfield
  rw [hfield]
  omega

/-- The upper six bits are those of a range of 0x400 units. -/
theorem and_0xFC00 {u : Nat} (h : u < 0x10000) (k : Nat) :
    u &&& 0xFC00 = k * 0x400 ↔ k * 0x400 ≤ u ∧ u < (k + 1) * 0x400 := by
  have hfield := and_field u 6 10
  change u &&& 0xFC00 = u / 1024 % 64 * 1024 at hfield
  rw [hfield]
  omega

theorem and_0x3F (u : Nat) : u &&& 0x3F = u % 0x40 := Nat.and_two_pow_sub_one_eq_mod u 6

/-- A continuation byte. -/
theorem continuation (u : Nat) : (u &&& 0x3F) ||| 0x80 = u % 0x40 + 0x80 := by
  have hor := or_field 2 (b := u % 0x40) (k := 6) (Nat.mod_lt _ (by decide))
  change 0x80 ||| u % 0x40 = 0x80 + u % 0x40 at hor
  rw [and_0x3F, Nat.or_comm, hor, Nat.add_comm]

theorem twoBytes_eq {u : UInt16} (h : u.toNat < 0x800) :
    twoBytes u = [UInt8.ofNat (u.toNat / 64 % 0x20 + 0xC0), UInt8.ofNat (u.toNat % 0x40 + 0x80)] := by
  have hmask := Nat.and_two_pow_sub_one_eq_mod (u.toNat / 64) 8
  change u.toNat / 64 &&& 0xFF = u.toNat / 64 % 256 at hmask
  have hlt : u.toNat / 64 % 0x20 < 2 ^ 6 := by omega
  have hsmall : u.toNat / 64 % 256 = u.toNat / 64 % 0x20 := by omega
  have hor := or_field 3 hlt
  change 0xC0 ||| u.toNat / 64 % 0x20 = 0xC0 + u.toNat / 64 % 0x20 at hor
  unfold twoBytes
  rw [Nat.shiftRight_eq_div_pow, hmask, hsmall, continuation, Nat.or_comm, hor, Nat.add_comm]

theorem threeBytes_eq {u : UInt16} :
    threeBytes u = [UInt8.ofNat (u.toNat / 4096 % 0x10 + 0xE0),
      UInt8.ofNat (u.toNat / 64 % 0x40 + 0x80), UInt8.ofNat (u.toNat % 0x40 + 0x80)] := by
  have hmask := Nat.and_two_pow_sub_one_eq_mod (u.toNat / 4096) 4
  change u.toNat / 4096 &&& 0xF = u.toNat / 4096 % 16 at hmask
  have hlt : u.toNat / 4096 % 16 < 2 ^ 5 := by omega
  have hor := or_field 7 hlt
  change 0xE0 ||| u.toNat / 4096 % 16 = 0xE0 + u.toNat / 4096 % 16 at hor
  unfold threeBytes
  rw [Nat.shiftRight_eq_div_pow, Nat.shiftRight_eq_div_pow, continuation, continuation]
  rw [hmask, Nat.or_comm, hor, Nat.add_comm]

/-- The bytes of a unit that is no half of a pair. -/
def unitBytes (u : UInt16) : List UInt8 :=
  if u.toNat < 0x80 then oneByte u else if u.toNat < 0x800 then twoBytes u else threeBytes u

/-- The test for two surrogates. -/
theorem isPair_iff (u v : UInt16) :
    u.toNat &&& 0xFC00 = 0xD800 ∧ v.toNat &&& 0xFC00 = 0xDC00 ↔ IsPair u v := by
  have hhigh := and_0xFC00 u.toNat_lt 54
  change u.toNat &&& 0xFC00 = 0xD800 ↔ 0xD800 ≤ u.toNat ∧ u.toNat < 0xDC00 at hhigh
  have hlow := and_0xFC00 v.toNat_lt 55
  change v.toNat &&& 0xFC00 = 0xDC00 ↔ 0xDC00 ≤ v.toNat ∧ v.toNat < 0xE000 at hlow
  exact and_congr hhigh hlow

section Units

variable {u v : UInt16}

theorem oneByte_eq (hascii : u.toNat < 0x80) : oneByte u = [UInt8.ofNat u.toNat] := by
  have hmask := Nat.and_two_pow_sub_one_eq_mod u.toNat 8
  change u.toNat &&& 0xFF = u.toNat % 256 at hmask
  unfold oneByte
  rw [hmask, Nat.mod_eq_of_lt (by omega)]

theorem utf16ToUtf8_cons (hne : u ≠ 0) {src : List UInt16}
    (hpair : ∀ v ∈ src.head?, ¬ IsPair u v) :
    utf16ToUtf8 (u :: src) = unitBytes u ++ utf16ToUtf8 src := by
  have hone := and_0xFF80 u.toNat_lt
  have htwo := and_0xF800 u.toNat_lt
  rw [utf16ToUtf8.eq_def]
  dsimp only
  rw [if_neg hne]
  unfold unitBytes
  by_cases hascii : u.toNat < 0x80
  · rw [if_pos hascii, if_pos (hone.mpr hascii)]
  · rw [if_neg hascii, if_neg (mt hone.mp hascii)]
    by_cases hshort : u.toNat < 0x800
    · rw [if_pos hshort, if_pos (htwo.mpr hshort)]
    · rw [if_neg hshort, if_neg (mt htwo.mp hshort)]
      cases src with
      | nil => exact (List.append_nil _).symm
      | cons v rest =>
        dsimp only
        rw [if_neg (mt (isPair_iff u v).mp (hpair v rfl))]

theorem utf16ToUtf8_cons_pair (hpair : IsPair u v) (src : List UInt16) :
    utf16ToUtf8 (u :: v :: src) = fourBytes u v ++ utf16ToUtf8 src := by
  have hhigh := hpair.1.1
  have hone := and_0xFF80 u.toNat_lt
  have htwo := and_0xF800 u.toNat_lt
  have hne : u ≠ 0 := by
    rintro rfl
    exact absurd hhigh (by decide)
  rw [utf16ToUtf8.eq_def]
  dsimp only
  rw [if_neg hne, if_neg (by rw [hone]; omega), if_neg (by rw [htwo]; omega),
    if_pos ((isPair_iff u v).mpr hpair)]

end Units

/-! ## The bytes of a character -/

/-- The bytes that are made of a character. -/
def charBytes (c : Char) : List UInt8 :=
  match encodeChar c with
  | [high, low] => fourBytes high low
  | _ => String.utf8EncodeChar c

theorem charBytes_basic {c : Char} (h : Basic c) : charBytes c = String.utf8EncodeChar c := by
  unfold charBytes
  rw [encodeChar_basic h]

theorem unitBytes_basic {c : Char} (h : Basic c) :
    unitBytes (UInt16.ofNat c.toNat) = String.utf8EncodeChar c := by
  have hunit : (UInt16.ofNat c.toNat).toNat = c.toNat := toNat_unit h
  unfold unitBytes
  by_cases hascii : c.toNat < 0x80
  · rw [if_pos (by omega), oneByte_eq (by omega), utf8EncodeChar_one hascii, hunit]
  · by_cases hshort : c.toNat < 0x800
    · rw [if_neg (by omega), if_pos (by omega), twoBytes_eq (by omega),
        utf8EncodeChar_two (by omega) hshort, hunit]
    · rw [if_neg (by omega), if_neg (by omega), threeBytes_eq,
        utf8EncodeChar_three (by omega) h, hunit]

/-- A unit that is no surrogate is encoded as its character. -/
theorem utf16ToUtf8_basic {c : Char} (h : Basic c) (hne : c.toNat ≠ 0) (src : List UInt16) :
    utf16ToUtf8 (UInt16.ofNat c.toNat :: src) = String.utf8EncodeChar c ++ utf16ToUtf8 src := by
  rw [← unitBytes_basic h]
  exact utf16ToUtf8_cons (unit_ne_zero h hne) fun v _ => not_isPair_basic h v

/-- The bytes of a text are those of its characters. -/
theorem utf16ToUtf8_encode {text : List Char} (hnul : ∀ c ∈ text, c.toNat ≠ 0) :
    utf16ToUtf8 (encode text) = text.flatMap charBytes := by
  induction text with
  | nil => rfl
  | cons c text ih =>
    have hrest := ih fun d hd => hnul d (List.mem_cons_of_mem _ hd)
    unfold encode at hrest ⊢
    rw [List.flatMap_cons, List.flatMap_cons, ← hrest]
    by_cases hbasic : Basic c
    · rw [encodeChar_basic hbasic, charBytes_basic hbasic]
      exact utf16ToUtf8_basic hbasic (hnul c List.mem_cons_self) _
    · rcases encodeChar_supplementary hbasic with ⟨high, low, hhigh, hlow, hpair⟩
      unfold charBytes
      rw [hpair]
      exact utf16ToUtf8_cons_pair (isPair_surrogates hhigh hlow) _

/-! ## The units of the bytes -/

theorem and_0xE0 {b : Nat} (h : b < 0x100) : b &&& 0xE0 = 0xE0 ↔ 0xE0 ≤ b := by
  have hfield := and_field b 3 5
  change b &&& 0xE0 = b / 32 % 8 * 32 at hfield
  rw [hfield]
  omega

theorem and_0xC0 {b : Nat} (h : b < 0x100) : b &&& 0xC0 = 0xC0 ↔ 0xC0 ≤ b := by
  have hfield := and_field b 2 6
  change b &&& 0xC0 = b / 64 % 4 * 64 at hfield
  rw [hfield]
  omega

theorem toNat_byte {v : Nat} (h : v < 0x100) : (UInt8.ofNat v).toNat = v :=
  UInt8.toNat_ofNat_of_lt' h

theorem byte_ne_zero {v : Nat} (h : v < 0x100) (hne : v ≠ 0) : UInt8.ofNat v ≠ 0 := by
  intro heq
  have hzero := congrArg UInt8.toNat heq
  rw [toNat_byte h] at hzero
  exact hne hzero

/-- Six bits of a continuation byte. -/
theorem and_continuation {v : Nat} (h : v < 0x40) : (v + 0x80) &&& 0x3F = v := by
  rw [and_0x3F]
  omega

theorem twoUnit_eq {u : Nat} (h : u < 0x800) :
    twoUnit (UInt8.ofNat (u / 64 % 0x20 + 0xC0)) (UInt8.ofNat (u % 0x40 + 0x80)) =
      UInt16.ofNat u := by
  have hmask := Nat.and_two_pow_sub_one_eq_mod (u / 64 % 0x20 + 0xC0) 5
  change u / 64 % 0x20 + 0xC0 &&& 0x1F = (u / 64 % 0x20 + 0xC0) % 32 at hmask
  have hhigh : (u / 64 % 0x20 + 0xC0) % 32 = u / 64 := by omega
  have hor := or_field (u / 64) (b := u % 0x40) (k := 6) (Nat.mod_lt _ (by decide))
  change u / 64 * 64 ||| u % 0x40 = u / 64 * 64 + u % 0x40 at hor
  unfold twoUnit
  rw [toNat_byte (by omega), toNat_byte (by omega), and_continuation (by omega), hmask, hhigh,
    Nat.shiftLeft_eq]
  change UInt16.ofNat (u / 64 * 64 ||| u % 0x40) = _
  rw [hor]
  congr 1
  omega

theorem threeUnit_eq {u : Nat} (h : u < 0x10000) :
    threeUnit (UInt8.ofNat (u / 4096 % 0x10 + 0xE0)) (UInt8.ofNat (u / 64 % 0x40 + 0x80))
      (UInt8.ofNat (u % 0x40 + 0x80)) = UInt16.ofNat u := by
  have hmask := Nat.and_two_pow_sub_one_eq_mod (u / 4096 % 0x10 + 0xE0) 4
  change u / 4096 % 0x10 + 0xE0 &&& 0x0F = (u / 4096 % 0x10 + 0xE0) % 16 at hmask
  have hhigh : (u / 4096 % 0x10 + 0xE0) % 16 = u / 4096 := by omega
  have hmiddle : u / 64 % 0x40 * 64 < 2 ^ 12 := by omega
  have hor := or_field (u / 4096) hmiddle
  change u / 4096 * 4096 ||| u / 64 % 0x40 * 64 = u / 4096 * 4096 + u / 64 % 0x40 * 64 at hor
  have hor' := or_field (u / 4096 * 64 + u / 64 % 0x40) (b := u % 0x40) (k := 6)
    (Nat.mod_lt _ (by decide))
  have hfields : u / 4096 * 4096 + u / 64 % 0x40 * 64 = (u / 4096 * 64 + u / 64 % 0x40) * 2 ^ 6 := by
    omega
  unfold threeUnit
  rw [toNat_byte (by omega), toNat_byte (by omega), toNat_byte (by omega),
    and_continuation (by omega), and_continuation (by omega), hmask, hhigh, Nat.shiftLeft_eq,
    Nat.shiftLeft_eq]
  change UInt16.ofNat (u / 4096 * 4096 ||| u / 64 % 0x40 * 64 ||| u % 0x40) = _
  rw [hor, hfields, hor']
  congr 1
  omega

/-- The bytes stand in memory from an index on. -/
def HoldsFrom (src : Nat → UInt8) (i : Nat) : List UInt8 → Prop
  | [] => True
  | b :: bytes => src i = b ∧ HoldsFrom src (i + 1) bytes

theorem holdsFrom_append {src : Nat → UInt8} {i : Nat} {bytes bytes' : List UInt8} :
    HoldsFrom src i (bytes ++ bytes') ↔
      HoldsFrom src i bytes ∧ HoldsFrom src (i + bytes.length) bytes' := by
  induction bytes generalizing i with
  | nil => exact (and_iff_right trivial).symm
  | cons b bytes ih =>
    have hnext : i + 1 + bytes.length = i + (b :: bytes).length := by
      rw [List.length_cons]
      omega
    change src i = b ∧ HoldsFrom src (i + 1) (bytes ++ bytes') ↔
      (src i = b ∧ HoldsFrom src (i + 1) bytes) ∧ _
    rw [ih, hnext, and_assoc]

section Passes

variable {src : Nat → UInt8} {i : Nat} {dst : List UInt16}

theorem utf8Body_one {v : Nat} (hbyte : src i = UInt8.ofNat v) (hne : v ≠ 0) (hlt : v < 0xC0) :
    utf8Body src (i, dst) = .again (i + 1, dst ++ [UInt16.ofNat v]) := by
  have htoNat := toNat_byte (v := v) (by omega)
  have hthree := and_0xE0 (b := v) (by omega)
  have htwo := and_0xC0 (b := v) (by omega)
  unfold utf8Body
  dsimp only
  rw [hbyte, if_neg (byte_ne_zero (by omega) hne), htoNat, if_neg (by rw [hthree]; omega),
    if_neg (by rw [htwo]; omega)]

theorem utf8Body_two {v : Nat} (hbyte : src i = UInt8.ofNat v) (hle : 0xC0 ≤ v) (hlt : v < 0xE0) :
    utf8Body src (i, dst) = .again (i + 2, dst ++ [twoUnit (src i) (src (i + 1))]) := by
  have htoNat := toNat_byte (v := v) (by omega)
  have hthree := and_0xE0 (b := v) (by omega)
  have htwo := and_0xC0 (b := v) (by omega)
  unfold utf8Body
  dsimp only
  rw [hbyte, if_neg (byte_ne_zero (by omega) (by omega)), htoNat, if_neg (by rw [hthree]; omega),
    if_pos (htwo.mpr hle)]

theorem utf8Body_three {v : Nat} (hbyte : src i = UInt8.ofNat v) (hle : 0xE0 ≤ v)
    (hlt : v < 0x100) :
    utf8Body src (i, dst) =
      .again (i + 3, dst ++ [threeUnit (src i) (src (i + 1)) (src (i + 2))]) := by
  have htoNat := toNat_byte hlt
  have hthree := and_0xE0 hlt
  unfold utf8Body
  dsimp only
  rw [hbyte, if_neg (byte_ne_zero hlt (by omega)), htoNat, if_pos (hthree.mpr hle)]

end Passes

/-! ## What comes back -/

/-- The units that come back of two surrogates. -/
def pairUnits (high low : UInt16) : List UInt16 :=
  match fourBytes high low with
  | [b0, b1, b2, b3] => [threeUnit b0 b1 b2, UInt16.ofNat b3.toNat]
  | _ => []

/-- The units that come back of a character. -/
def charUnits (c : Char) : List UInt16 :=
  match encodeChar c with
  | [high, low] => pairUnits high low
  | units => units

/-- The first of the four bytes announces three, and the last is a continuation byte. -/
theorem fourBytes_eq (high low : UInt16) :
    ∃ v0 b1 b2 v3, fourBytes high low = [UInt8.ofNat v0, b1, b2, UInt8.ofNat v3] ∧
      0xE0 ≤ v0 ∧ v0 < 0x100 ∧ 0x80 ≤ v3 ∧ v3 < 0xC0 := by
  have hmask := Nat.and_two_pow_sub_one_eq_mod ((high.toNat + 64) >>> 8) 2
  change (high.toNat + 64) >>> 8 &&& 0x3 = (high.toNat + 64) >>> 8 % 4 at hmask
  have hlt : (high.toNat + 64) >>> 8 % 4 < 2 ^ 4 := by omega
  have hor := or_field 15 hlt
  change 0xF0 ||| (high.toNat + 64) >>> 8 % 4 = 0xF0 + (high.toNat + 64) >>> 8 % 4 at hor
  have hcontinuation := continuation low.toNat
  refine ⟨_, _, _, _, rfl, ?_, ?_, ?_, ?_⟩
  · rw [hmask, Nat.or_comm, hor]
    omega
  · rw [hmask, Nat.or_comm, hor]
    omega
  · rw [hcontinuation]
    omega
  · rw [hcontinuation]
    omega

section Runs

variable {src : Nat → UInt8}

/-- The rounds for one character. -/
theorem run_char {c : Char} (hne : c.toNat ≠ 0) {i : Nat}
    (h : HoldsFrom src i (charBytes c)) (dst : List UInt16) :
    ∃ n, ∀ fuel, run (utf8Body src) (fuel + n) (i, dst) =
      run (utf8Body src) fuel (i + (charBytes c).length, dst ++ charUnits c) := by
  by_cases hbasic : Basic c
  · have hlt : c.toNat < 0x10000 := hbasic
    have hunits : charUnits c = [UInt16.ofNat c.toNat] := by
      unfold charUnits
      rw [encodeChar_basic hbasic]
    rw [charBytes_basic hbasic] at h ⊢
    rw [hunits]
    refine ⟨1, fun fuel => run_again ?_⟩
    by_cases hascii : c.toNat < 0x80
    · rw [utf8EncodeChar_one hascii] at h ⊢
      exact utf8Body_one h.1 hne (by omega)
    · by_cases hshort : c.toNat < 0x800
      · rw [utf8EncodeChar_two (by omega) hshort] at h ⊢
        rcases h with ⟨h0, h1, -⟩
        rw [utf8Body_two h0 (by omega) (by omega), h0, h1, twoUnit_eq hshort]
        rfl
      · rw [utf8EncodeChar_three (by omega) hlt] at h ⊢
        rcases h with ⟨h0, h1, h2, -⟩
        rw [utf8Body_three h0 (by omega) (by omega), h0, h1, h2, threeUnit_eq hlt]
        rfl
  · -- one round for three of the bytes, and one for the last
    rcases encodeChar_supplementary hbasic with ⟨high, low, -, -, hpair⟩
    unfold charBytes at h ⊢
    unfold charUnits pairUnits
    rw [hpair] at h ⊢
    dsimp only at h ⊢
    rcases fourBytes_eq (UInt16.ofNat (0xD800 + high)) (UInt16.ofNat (0xDC00 + low)) with
      ⟨v0, b1, b2, v3, heq, hle, hlt, hle', hlt'⟩
    rw [heq] at h ⊢
    dsimp only at h ⊢
    rcases h with ⟨h0, h1, h2, h3, -⟩
    refine ⟨2, fun fuel => ?_⟩
    rw [run_again (utf8Body_three h0 hle hlt), run_again (utf8Body_one h3 (by omega) (by omega)),
      h0, h1, h2, toNat_byte (by omega), List.append_assoc]
    rfl

/-- The rounds for a text. -/
theorem run_text {text : List Char} (hnul : ∀ c ∈ text, c.toNat ≠ 0) {i : Nat}
    (h : HoldsFrom src i (text.flatMap charBytes ++ [0])) (dst : List UInt16) :
    ∃ n, ∀ fuel, run (utf8Body src) (fuel + n) (i, dst) =
      some (dst ++ text.flatMap charUnits) := by
  induction text generalizing i dst with
  | nil =>
    refine ⟨1, fun fuel => run_exit ?_⟩
    unfold utf8Body
    dsimp only
    rw [if_pos h.1, List.flatMap_nil, List.append_nil]
  | cons c text ih =>
    rw [List.flatMap_cons, List.append_assoc, holdsFrom_append] at h
    rcases run_char (hnul c List.mem_cons_self) h.1 dst with ⟨n, hchar⟩
    rcases ih (fun d hd => hnul d (List.mem_cons_of_mem _ hd)) h.2 (dst ++ charUnits c) with
      ⟨m, hrest⟩
    refine ⟨m + n, fun fuel => ?_⟩
    rw [← Nat.add_assoc, hchar, hrest, List.flatMap_cons, List.append_assoc]

end Runs

/-! ## The round trip -/

/-- Memory with the result of `utf16_to_utf8` and its terminator is converted back to the
units, when `utf8_to_utf16` is given the rounds it needs. -/
def ComesBack (src : List UInt16) : Prop :=
  ∀ bytes : Nat → UInt8, HoldsFrom bytes 0 (utf16ToUtf8 src ++ [0]) →
    ∃ n, ∀ fuel, n ≤ fuel → utf8ToUtf16 bytes fuel = some src

/-- A text is encoded as it should be, and comes back. -/
def RoundTrips (text : List Char) : Prop :=
  utf16ToUtf8 (encode text) = utf8Encode text ∧ ComesBack (encode text)

/-- What comes back of a text. -/
theorem utf8ToUtf16_text {text : List Char} (hnul : ∀ c ∈ text, c.toNat ≠ 0)
    {bytes : Nat → UInt8} (h : HoldsFrom bytes 0 (utf16ToUtf8 (encode text) ++ [0])) :
    ∃ n, ∀ fuel, n ≤ fuel → utf8ToUtf16 bytes fuel = some (text.flatMap charUnits) := by
  rw [utf16ToUtf8_encode hnul] at h
  rcases run_text hnul h [] with ⟨n, hrun⟩
  refine ⟨n, fun fuel hfuel => ?_⟩
  obtain ⟨more, rfl⟩ : ∃ more, fuel = more + n := ⟨fuel - n, by omega⟩
  exact hrun more

theorem charUnits_basic {c : Char} (h : Basic c) : charUnits c = encodeChar c := by
  unfold charUnits
  rw [encodeChar_basic h]

/-- The second unit that comes back of two surrogates is no surrogate. -/
theorem charUnits_supplementary {c : Char} (h : ¬ Basic c) :
    (charUnits c).length = (encodeChar c).length ∧ charUnits c ≠ encodeChar c := by
  rcases encodeChar_supplementary h with ⟨high, low, -, hlow, hpair⟩
  rcases fourBytes_eq (UInt16.ofNat (0xD800 + high)) (UInt16.ofNat (0xDC00 + low)) with
    ⟨v0, b1, b2, v3, heq, -, -, -, hlt⟩
  unfold charUnits pairUnits
  rw [hpair]
  dsimp only
  rw [heq]
  refine ⟨rfl, ?_⟩
  intro hsame
  have hunit := congrArg UInt16.toNat (List.cons.inj (List.cons.inj hsame).2).1
  rw [toNat_byte (by omega), toNat_unit (by omega), toNat_unit (by omega)] at hunit
  omega

theorem charUnits_eq_iff (c : Char) : charUnits c = encodeChar c ↔ Basic c := by
  constructor
  · intro heq
    by_contra hbasic
    exact (charUnits_supplementary hbasic).2 heq
  · exact charUnits_basic

theorem flatMap_charUnits_iff (text : List Char) :
    text.flatMap charUnits = encode text ↔ ∀ c ∈ text, Basic c := by
  have hlength : ∀ c ∈ text, (charUnits c).length = (encodeChar c).length := by
    intro c _
    by_cases hbasic : Basic c
    · rw [charUnits_basic hbasic]
    · exact (charUnits_supplementary hbasic).1
  have hpieces := flatMap_eq_iff hlength
  unfold encode
  rw [hpieces]
  constructor
  · intro h c hc
    exact (charUnits_eq_iff c).mp (h c hc)
  · intro h c hc
    exact (charUnits_eq_iff c).mpr (h c hc)

/-- Memory with some bytes in it. -/
def memoryOf (bytes : List UInt8) (i : Nat) : UInt8 := bytes.getD i 0

theorem holdsFrom_memoryOf (front bytes : List UInt8) :
    HoldsFrom (memoryOf (front ++ bytes)) front.length bytes := by
  induction bytes generalizing front with
  | nil => trivial
  | cons b bytes ih =>
    refine ⟨?_, ?_⟩
    · unfold memoryOf
      rw [List.getD_append_right _ _ _ _ (Nat.le_refl _), Nat.sub_self, List.getD_cons_zero]
    · have hrest := ih (front ++ [b])
      rw [List.append_assoc, List.length_append, List.length_singleton] at hrest
      exact hrest

theorem comesBack_iff {text : List Char} (hnul : ∀ c ∈ text, c.toNat ≠ 0) :
    ComesBack (encode text) ↔ ∀ c ∈ text, Basic c := by
  rw [← flatMap_charUnits_iff]
  constructor
  · intro h
    have hholds : HoldsFrom (memoryOf (utf16ToUtf8 (encode text) ++ [0])) 0
        (utf16ToUtf8 (encode text) ++ [0]) := holdsFrom_memoryOf [] _
    rcases h _ hholds with ⟨n, hback⟩
    rcases utf8ToUtf16_text hnul hholds with ⟨m, htext⟩
    have hsame := (hback (max n m) (Nat.le_max_left n m)).symm.trans
      (htext (max n m) (Nat.le_max_right n m))
    exact (Option.some.inj hsame).symm
  · intro h bytes hholds
    rcases utf8ToUtf16_text hnul hholds with ⟨n, htext⟩
    rw [h] at htext
    exact ⟨n, htext⟩

theorem utf16ToUtf8_of_basic {text : List Char} (hnul : ∀ c ∈ text, c.toNat ≠ 0)
    (h : ∀ c ∈ text, Basic c) : utf16ToUtf8 (encode text) = utf8Encode text := by
  rw [utf16ToUtf8_encode hnul]
  unfold utf8Encode
  refine (flatMap_eq_iff ?_).mpr ?_
  · intro c hc
    rw [charBytes_basic (h c hc)]
  · intro c hc
    exact charBytes_basic (h c hc)

/-- A text is encoded right and comes back exactly where it has no surrogates. -/
theorem roundTrips_iff {text : List Char} (hnul : ∀ c ∈ text, c.toNat ≠ 0) :
    RoundTrips text ↔ ∀ c ∈ text, Basic c := by
  constructor
  · rintro ⟨-, hback⟩
    exact (comesBack_iff hnul).mp hback
  · intro h
    exact ⟨utf16ToUtf8_of_basic hnul h, (comesBack_iff hnul).mpr h⟩

/-- "a" and the sign for the euro. -/
def euroText : List Char := [Char.ofNat 0x61, Char.ofNat 0x20AC]

theorem roundTrips_iff_euro : RoundTrips euroText ↔ ∀ c ∈ euroText, Basic c :=
  roundTrips_iff (List.forall_mem_cons.mpr ⟨by decide, List.forall_mem_singleton.mpr (by decide)⟩)

/-- U+1F600, which takes two surrogates, does not come back. -/
theorem not_roundTrips_face : ¬ RoundTrips [Char.ofNat 0x1F600] := by
  rintro ⟨-, hback⟩
  have hbasic := (comesBack_iff (List.forall_mem_singleton.mpr (by decide))).mp hback
    (Char.ofNat 0x1F600) List.mem_cons_self
  exact absurd hbasic (by decide)

end GcToolKit.App
