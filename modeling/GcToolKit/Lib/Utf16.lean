import Mathlib.Data.List.Basic
import Mathlib.Tactic.Common

/-!
# UTF-16 and UTF-8

The two encodings of a text, which is a list of characters. In UTF-16 a character above
0xFFFF takes two units, a high and a low surrogate; no character is a surrogate itself.

* `encodeChar_supplementary` — the surrogates of such a character;
* `utf8Size_encode` — the size of a text in UTF-8, by its units;
* `flatMap_eq_iff` — two encodings with the same lengths agree where they do on every
  character.
-/

namespace Utf16

/-- The units of a character. -/
def encodeChar (c : Char) : List UInt16 :=
  if c.toNat < 0x10000 then [UInt16.ofNat c.toNat]
  else
    [UInt16.ofNat (0xD800 + (c.toNat - 0x10000) / 0x400),
      UInt16.ofNat (0xDC00 + (c.toNat - 0x10000) % 0x400)]

/-- The units of a text. -/
def encode (text : List Char) : List UInt16 := text.flatMap encodeChar

/-- The bytes of a text in UTF-8. -/
def utf8Encode (text : List Char) : List UInt8 := text.flatMap String.utf8EncodeChar

/-- A character of the basic plane takes one unit. -/
def Basic (c : Char) : Prop := c.toNat < 0x10000

instance (c : Char) : Decidable (Basic c) := inferInstanceAs (Decidable (_ < _))

theorem toNat_unit {v : Nat} (h : v < 0x10000) : (UInt16.ofNat v).toNat = v :=
  UInt16.toNat_ofNat_of_lt' h

theorem unit_ne_zero {v : Nat} (h : v < 0x10000) (hne : v ≠ 0) : UInt16.ofNat v ≠ 0 := by
  intro heq
  have hzero := congrArg UInt16.toNat heq
  rw [toNat_unit h] at hzero
  exact hne hzero

/-- No character is a surrogate. -/
theorem toNat_cases (c : Char) : c.toNat < 0xD800 ∨ 0xE000 ≤ c.toNat ∧ c.toNat < 0x110000 := by
  rcases c.valid with hlow | ⟨hhigh, hlast⟩
  · exact Or.inl hlow
  · exact Or.inr ⟨hhigh, hlast⟩

theorem encodeChar_basic {c : Char} (h : Basic c) : encodeChar c = [UInt16.ofNat c.toNat] :=
  if_pos h

/-- The two surrogates of any other character. -/
theorem encodeChar_supplementary {c : Char} (h : ¬ Basic c) :
    ∃ high low, high < 0x400 ∧ low < 0x400 ∧
      encodeChar c = [UInt16.ofNat (0xD800 + high), UInt16.ofNat (0xDC00 + low)] := by
  unfold Basic at h
  have hcases := toNat_cases c
  refine ⟨(c.toNat - 0x10000) / 0x400, (c.toNat - 0x10000) % 0x400, by omega, by omega, ?_⟩
  exact if_neg h

theorem encode_ne_zero {text : List Char} (hnul : ∀ c ∈ text, c.toNat ≠ 0) :
    ∀ u ∈ encode text, u ≠ 0 := by
  intro u hu
  rcases List.mem_flatMap.mp hu with ⟨c, hc, hunit⟩
  by_cases hbasic : Basic c
  · rw [encodeChar_basic hbasic] at hunit
    rw [List.mem_singleton.mp hunit]
    exact unit_ne_zero hbasic (hnul c hc)
  · rcases encodeChar_supplementary hbasic with ⟨high, low, hhigh, hlow, hpair⟩
    rw [hpair] at hunit
    rcases List.mem_pair.mp hunit with rfl | rfl
    · exact unit_ne_zero (by omega) (by omega)
    · exact unit_ne_zero (by omega) (by omega)

section Utf8

variable {c : Char}

theorem utf8EncodeChar_one (h : c.toNat < 0x80) :
    String.utf8EncodeChar c = [UInt8.ofNat c.toNat] := by
  have hone : c.toNat ≤ 0x7F := by omega
  exact if_pos hone

theorem utf8EncodeChar_two (h : 0x80 ≤ c.toNat) (h' : c.toNat < 0x800) :
    String.utf8EncodeChar c =
      [UInt8.ofNat (c.toNat / 64 % 0x20 + 0xC0), UInt8.ofNat (c.toNat % 0x40 + 0x80)] := by
  have hone : ¬ c.toNat ≤ 0x7F := by omega
  have htwo : c.toNat ≤ 0x7FF := by omega
  exact (if_neg hone).trans (if_pos htwo)

theorem utf8EncodeChar_three (h : 0x800 ≤ c.toNat) (h' : c.toNat < 0x10000) :
    String.utf8EncodeChar c =
      [UInt8.ofNat (c.toNat / 4096 % 0x10 + 0xE0), UInt8.ofNat (c.toNat / 64 % 0x40 + 0x80),
        UInt8.ofNat (c.toNat % 0x40 + 0x80)] := by
  have hone : ¬ c.toNat ≤ 0x7F := by omega
  have htwo : ¬ c.toNat ≤ 0x7FF := by omega
  have hthree : c.toNat ≤ 0xFFFF := by omega
  exact (if_neg hone).trans ((if_neg htwo).trans (if_pos hthree))

theorem utf8EncodeChar_four (h : 0x10000 ≤ c.toNat) :
    String.utf8EncodeChar c =
      [UInt8.ofNat (c.toNat / 262144 % 0x08 + 0xF0), UInt8.ofNat (c.toNat / 4096 % 0x40 + 0x80),
        UInt8.ofNat (c.toNat / 64 % 0x40 + 0x80), UInt8.ofNat (c.toNat % 0x40 + 0x80)] := by
  have hone : ¬ c.toNat ≤ 0x7F := by omega
  have htwo : ¬ c.toNat ≤ 0x7FF := by omega
  have hthree : ¬ c.toNat ≤ 0xFFFF := by omega
  exact (if_neg hone).trans ((if_neg htwo).trans (if_neg hthree))

end Utf8

/-! ## The size in UTF-8 -/

/-- A high surrogate and a low one. -/
def IsPair (u v : UInt16) : Prop :=
  (0xD800 ≤ u.toNat ∧ u.toNat < 0xDC00) ∧ 0xDC00 ≤ v.toNat ∧ v.toNat < 0xE000

instance (u v : UInt16) : Decidable (IsPair u v) := inferInstanceAs (Decidable (_ ∧ _))

/-- The bytes of a unit that is no half of a pair. -/
def unitSize (u : UInt16) : Nat :=
  if u.toNat < 0x80 then 1 else if u.toNat < 0x800 then 2 else 3

/-- The bytes that units take in UTF-8. -/
def utf8Size : List UInt16 → Nat
  | [] => 0
  | [u] => unitSize u
  | u :: v :: units =>
    if IsPair u v then 4 + utf8Size units else unitSize u + utf8Size (v :: units)

theorem utf8Size_pair {u v : UInt16} (h : IsPair u v) (units : List UInt16) :
    utf8Size (u :: v :: units) = 4 + utf8Size units := by
  rw [utf8Size, if_pos h]

theorem utf8Size_cons {u : UInt16} {units : List UInt16}
    (h : ∀ v ∈ units.head?, ¬ IsPair u v) :
    utf8Size (u :: units) = unitSize u + utf8Size units := by
  cases units with
  | nil => rfl
  | cons v units => rw [utf8Size, if_neg (h v rfl)]

/-- A unit of the basic plane is no half of a pair. -/
theorem not_isPair_basic {c : Char} (h : Basic c) (v : UInt16) :
    ¬ IsPair (UInt16.ofNat c.toNat) v := by
  have hcases := toNat_cases c
  have hunit : (UInt16.ofNat c.toNat).toNat = c.toNat := toNat_unit h
  rintro ⟨⟨hle, hlt⟩, -⟩
  rw [hunit] at hle hlt
  omega

theorem isPair_surrogates {high low : Nat} (hhigh : high < 0x400) (hlow : low < 0x400) :
    IsPair (UInt16.ofNat (0xD800 + high)) (UInt16.ofNat (0xDC00 + low)) := by
  unfold IsPair
  rw [toNat_unit (by omega), toNat_unit (by omega)]
  omega

theorem unitSize_basic {c : Char} (h : Basic c) :
    unitSize (UInt16.ofNat c.toNat) = (String.utf8EncodeChar c).length := by
  unfold unitSize
  rw [toNat_unit h]
  by_cases hone : c.toNat < 0x80
  · rw [if_pos hone, utf8EncodeChar_one hone]
    rfl
  · rw [if_neg hone]
    by_cases htwo : c.toNat < 0x800
    · rw [if_pos htwo, utf8EncodeChar_two (by omega) htwo]
      rfl
    · rw [if_neg htwo, utf8EncodeChar_three (by omega) h]
      rfl

/-- For a text it is the length of what it is encoded to. -/
theorem utf8Size_encode (text : List Char) : utf8Size (encode text) = (utf8Encode text).length := by
  induction text with
  | nil => rfl
  | cons c text ih =>
    unfold encode utf8Encode at ih ⊢
    rw [List.flatMap_cons, List.flatMap_cons, List.length_append, ← ih]
    by_cases hbasic : Basic c
    · rw [encodeChar_basic hbasic, List.singleton_append, ← unitSize_basic hbasic]
      exact utf8Size_cons fun v _ => not_isPair_basic hbasic v
    · rcases encodeChar_supplementary hbasic with ⟨high, low, hhigh, hlow, hpair⟩
      rw [hpair, utf8EncodeChar_four (Nat.not_lt.mp hbasic)]
      exact utf8Size_pair (isPair_surrogates hhigh hlow) _

/-- Two lists made of pieces of the same lengths are the same only if the pieces are. -/
theorem flatMap_eq_iff {α β : Type} {f g : α → List β} {l : List α}
    (hlength : ∀ a ∈ l, (f a).length = (g a).length) :
    l.flatMap f = l.flatMap g ↔ ∀ a ∈ l, f a = g a := by
  induction l with
  | nil => exact iff_of_true rfl (fun a ha => by cases ha)
  | cons a l ih =>
    have hrest := ih fun b hb => hlength b (List.mem_cons_of_mem _ hb)
    rw [List.flatMap_cons, List.flatMap_cons, List.forall_mem_cons, ← hrest]
    constructor
    · intro h
      exact List.append_inj h (hlength a List.mem_cons_self)
    · rintro ⟨hfirst, htail⟩
      rw [hfirst, htail]

end Utf16
