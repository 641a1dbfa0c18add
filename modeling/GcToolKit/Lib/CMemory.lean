import Mathlib.Data.List.GetD
import Mathlib.Data.List.Infix
import GcToolKit.Lib.CString

/-!
# Strings in memory

A pointer may lead outside the string it was computed from, so the functions here work
on the bytes by their addresses. What they read is a list of addresses.

* `strcmpBy_iff` — two strings are compared up to the terminator;
* `Holds.strcasecmp_iff_suffix` — at the right distance from its end a name ends in the
  other string;
* `Holds.strncmp_iff`, `Holds.strncpy` — a string shorter than the bound is compared, and
  copied, with its terminator;
* `Holds.of_strncpy` — where no terminator was before, it has come with the copy;
* `strncpyReads_store_iff` — a copy stays inside an array when it has that many bytes more,
  or a terminator.
-/

namespace CMemory

/-- The bytes by their addresses. -/
abbrev Memory := Int → UInt8

/-- The string stands at the address, with its terminator. -/
structure Holds (mem : Memory) (start : Int) (s : CString) : Prop where
  byte : ∀ i (h : i < s.bytes.length), mem (start + i) = s.bytes[i]
  zero : mem (start + s.bytes.length) = 0

/-- The next byte of the rest is the one after the next. -/
theorem add_succ_natCast (a : Int) (i : Nat) : a + ((i + 1 : Nat) : Int) = a + 1 + i := by
  omega

theorem add_natCast_zero (a : Int) : a + ((0 : Nat) : Int) = a := Int.add_zero a

/-- `tolower` for the letters A to Z. -/
def toLower (b : UInt8) : UInt8 := if 0x41 ≤ b ∧ b ≤ 0x5A then b + 0x20 else b

section Strcasecmp

variable (mem : Memory)

/-- Whether the string at an address is another one, up to what `norm` does to the bytes. -/
def strcmpBy (norm : UInt8 → UInt8) : Int → List UInt8 → Bool
  | s1, [] => mem s1 = 0
  | s1, c :: s2 => if norm (mem s1) = norm c then strcmpBy norm (s1 + 1) s2 else false

/-- `strcasecmp(s1, s2) == 0` for the `s1` at an address. -/
def strcasecmp (s1 : Int) (s2 : List UInt8) : Bool := strcmpBy mem toLower s1 s2

/-- The bytes of `s1` it reads. -/
def strcasecmpReads : Int → List UInt8 → List Int
  | s1, [] => [s1]
  | s1, c :: s2 =>
    s1 :: if toLower (mem s1) = toLower c then strcasecmpReads (s1 + 1) s2 else []

variable {mem}

theorem strcmpBy_iff {norm : UInt8 → UInt8} {s1 : Int} {s2 : List UInt8} :
    strcmpBy mem norm s1 s2 = true ↔
      (∀ i (h : i < s2.length), norm (mem (s1 + i)) = norm s2[i]) ∧
        mem (s1 + s2.length) = 0 := by
  induction s2 generalizing s1 with
  | nil =>
    have hend : s1 + (([] : List UInt8).length : Int) = s1 := add_natCast_zero s1
    rw [strcmpBy, decide_eq_true_iff, hend]
    constructor
    · intro hzero
      exact ⟨fun i h => absurd h (Nat.not_lt_zero i), hzero⟩
    · exact fun h => h.2
  | cons c s2 ih =>
    have hend : s1 + ((c :: s2).length : Int) = s1 + 1 + (s2.length : Int) :=
      add_succ_natCast s1 s2.length
    rw [strcmpBy, hend]
    -- the first byte, then the others and the terminator
    by_cases hsame : norm (mem s1) = norm c
    · rw [if_pos hsame, ih]
      constructor
      · rintro ⟨hbytes, hzero⟩
        refine ⟨?_, hzero⟩
        intro i h
        cases i with
        | zero =>
          rw [add_natCast_zero]
          exact hsame
        | succ i =>
          rw [add_succ_natCast]
          exact hbytes i (Nat.lt_of_succ_lt_succ h)
      · rintro ⟨hbytes, hzero⟩
        refine ⟨?_, hzero⟩
        intro i h
        rw [← add_succ_natCast]
        exact hbytes (i + 1) (Nat.succ_lt_succ h)
    · rw [if_neg hsame]
      constructor
      · intro hfalse
        cases hfalse
      · rintro ⟨hbytes, -⟩
        have hfirst := hbytes 0 (Nat.succ_pos _)
        rw [add_natCast_zero] at hfirst
        exact absurd hfirst hsame

/-- Nothing is read behind the end of `s2` or before the start of `s1`. -/
theorem strcasecmpReads_range {s1 : Int} {s2 : List UInt8} :
    ∀ i ∈ strcasecmpReads mem s1 s2, s1 ≤ i ∧ i ≤ s1 + s2.length := by
  induction s2 generalizing s1 with
  | nil =>
    intro i hi
    rw [List.mem_singleton.mp hi, List.length_nil]
    omega
  | cons c s2 ih =>
    intro i hi
    rw [strcasecmpReads] at hi
    rw [List.length_cons]
    rcases List.mem_cons.mp hi with rfl | hi
    · omega
    · split at hi
      · have hrest := ih i hi
        omega
      · cases hi

/-- The first byte of `s1` is read in any case. -/
theorem mem_strcasecmpReads (mem : Memory) (s1 : Int) (s2 : List UInt8) :
    s1 ∈ strcasecmpReads mem s1 s2 := by
  cases s2 with
  | nil => exact List.mem_cons_self
  | cons c s2 => exact List.mem_cons_self

/-- A string compared from so far before its end ends in the other. -/
theorem Holds.strcasecmp_iff_suffix {start : Int} {name s2 : CString} (h : Holds mem start name)
    (hle : s2.bytes.length ≤ name.bytes.length) :
    strcasecmp mem (start + (name.bytes.length - s2.bytes.length : Nat)) s2.bytes = true ↔
      s2.bytes.map toLower <:+ name.bytes.map toLower := by
  have hend : start + ((name.bytes.length - s2.bytes.length : Nat) : Int) + s2.bytes.length =
      start + name.bytes.length := by omega
  -- the byte compared with the i-th of the suffix, as one of the name
  have hbyte (i : Nat) (hi : i < s2.bytes.length) :
      ∃ h : name.bytes.length - s2.bytes.length + i < name.bytes.length,
        mem (start + ((name.bytes.length - s2.bytes.length : Nat) : Int) + i) =
          name.bytes[name.bytes.length - s2.bytes.length + i] := by
    refine ⟨by omega, ?_⟩
    rw [← h.byte _ (by omega)]
    congr 1
    omega
  unfold strcasecmp
  rw [strcmpBy_iff, hend, List.suffix_iff_eq_drop, List.length_map, List.length_map]
  constructor
  · rintro ⟨hsame, -⟩
    apply List.ext_getElem
    · rw [List.length_map, List.length_drop, List.length_map]
      omega
    · intro i hi _
      rw [List.length_map] at hi
      rcases hbyte i hi with ⟨hlt, heq⟩
      rw [List.getElem_map, List.getElem_drop, List.getElem_map, ← hsame i hi, heq]
  · intro hsuffix
    refine ⟨?_, h.zero⟩
    intro i hi
    have hget : (s2.bytes.map toLower)[i]? =
        ((name.bytes.map toLower).drop (name.bytes.length - s2.bytes.length))[i]? := by
      rw [← hsuffix]
    rw [List.getElem?_drop, List.getElem?_map, List.getElem?_map,
      List.getElem?_eq_getElem hi, List.getElem?_eq_getElem (by omega)] at hget
    rcases hbyte i hi with ⟨hlt, heq⟩
    rw [heq]
    exact (Option.some.inj hget).symm

end Strcasecmp

/-! ## strncpy and strncmp -/

section Strncpy

variable (mem : Memory)

/-- The string at an address, as far as it goes in `n` bytes. -/
def stringBytes : Int → Nat → List UInt8
  | _, 0 => []
  | src, n + 1 => if mem src = 0 then [] else mem src :: stringBytes (src + 1) n

/-- The bytes `strncpy(dst, src, n)` stores. -/
def strncpyBytes : Int → Nat → List UInt8
  | _, 0 => []
  | src, n + 1 =>
    if mem src = 0 then List.replicate (n + 1) 0 else mem src :: strncpyBytes (src + 1) n

/-- The bytes of `src` it reads. -/
def strncpyReads : Int → Nat → List Int
  | _, 0 => []
  | src, n + 1 => src :: if mem src = 0 then [] else strncpyReads (src + 1) n

/-- `strncmp(s1, s2, n) == 0` for the `s1` at an address. -/
def strncmp : Int → List UInt8 → Nat → Bool
  | _, _, 0 => true
  | s1, [], _ + 1 => mem s1 = 0
  | s1, c :: s2, n + 1 => if mem s1 = c then strncmp (s1 + 1) s2 n else false

/-- The bytes are stored from an address on. -/
def store (dst : Int) (bytes : List UInt8) : Memory := fun i =>
  if dst ≤ i ∧ i < dst + bytes.length then bytes.getD (i - dst).toNat 0 else mem i

/-- `strncpy(dst, src, n)` between two memories. -/
def strncpy (mem' : Memory) (dst : Int) (mem : Memory) (src : Int) (n : Nat) : Memory :=
  store mem' dst (strncpyBytes mem src n)

theorem stringBytes_ne_zero {src : Int} {n : Nat} : ∀ b ∈ stringBytes mem src n, b ≠ 0 := by
  induction n generalizing src with
  | zero =>
    intro b hb
    cases hb
  | succ n ih =>
    intro b hb
    rw [stringBytes] at hb
    split at hb
    case isTrue => cases hb
    case isFalse hne =>
      rcases List.mem_cons.mp hb with rfl | hb
      · exact hne
      · exact ih b hb

/-- The string at an address, as far as it goes in `n` bytes. -/
def stringWithin (src : Int) (n : Nat) : CString := ⟨stringBytes mem src n, stringBytes_ne_zero mem⟩

variable {mem}

theorem stringBytes_length_le (mem : Memory) (src : Int) (n : Nat) :
    (stringBytes mem src n).length ≤ n := by
  induction n generalizing src with
  | zero => exact Nat.le_refl 0
  | succ n ih =>
    rw [stringBytes]
    split
    · exact Nat.zero_le _
    · exact Nat.succ_le_succ (ih _)

/-- The bytes of the string are those in memory, up to a terminator if it is that short. -/
theorem stringBytes_spec (mem : Memory) (src : Int) (n : Nat) :
    (∀ i (h : i < (stringBytes mem src n).length),
        mem (src + i) = (stringBytes mem src n)[i]) ∧
      ((stringBytes mem src n).length < n → mem (src + (stringBytes mem src n).length) = 0) := by
  -- on the limit; the bytes behind the first are a string from the next address
  induction n generalizing src with
  | zero =>
    exact ⟨fun i h => absurd h (Nat.not_lt_zero i), fun h => absurd h (Nat.not_lt_zero 0)⟩
  | succ n ih =>
    by_cases hzero : mem src = 0
    · have hnil : stringBytes mem src (n + 1) = [] := by
        rw [stringBytes, if_pos hzero]
      rw [hnil]
      refine ⟨fun i h => absurd h (Nat.not_lt_zero i), fun _ => ?_⟩
      rw [List.length_nil, add_natCast_zero]
      exact hzero
    · have hcons : stringBytes mem src (n + 1) = mem src :: stringBytes mem (src + 1) n := by
        rw [stringBytes, if_neg hzero]
      rcases ih (src + 1) with ⟨hbytes, hend⟩
      rw [hcons]
      refine ⟨?_, ?_⟩
      · intro i h
        cases i with
        | zero =>
          rw [add_natCast_zero]
          rfl
        | succ i =>
          rw [add_succ_natCast]
          exact hbytes i (Nat.lt_of_succ_lt_succ h)
      · intro h
        rw [List.length_cons, add_succ_natCast]
        exact hend (Nat.lt_of_succ_lt_succ h)

theorem holds_stringWithin {src : Int} {n : Nat} (h : (stringBytes mem src n).length < n) :
    Holds mem src (stringWithin mem src n) :=
  ⟨(stringBytes_spec mem src n).1, (stringBytes_spec mem src n).2 h⟩

/-- There is one string at an address. -/
theorem Holds.unique {src : Int} {s t : CString} (hs : Holds mem src s) (ht : Holds mem src t) :
    s = t := by
  have hle {s t : CString} (hs : Holds mem src s) (ht : Holds mem src t) :
      s.bytes.length ≤ t.bytes.length := by
    by_contra hlt
    have hbyte := hs.byte t.bytes.length (by omega)
    rw [ht.zero] at hbyte
    exact s.ne_zero _ (List.getElem_mem _) hbyte.symm
  apply CString.ext
  apply List.ext_getElem (Nat.le_antisymm (hle hs ht) (hle ht hs))
  intro i hi hi'
  rw [← hs.byte i hi, ← ht.byte i hi']

theorem Holds.stringWithin {src : Int} {s : CString} (h : Holds mem src s) {n : Nat}
    (hn : s.bytes.length < n) : CMemory.stringWithin mem src n = s := by
  refine Holds.unique (holds_stringWithin ?_) h
  by_contra hlong
  -- the terminator would be one of the bytes of the string
  have hlt : s.bytes.length < (stringBytes mem src n).length := by omega
  have hbyte := (stringBytes_spec mem src n).1 s.bytes.length hlt
  rw [h.zero] at hbyte
  exact stringBytes_ne_zero mem _ (List.getElem_mem hlt) hbyte.symm

/-- What is stored is the string with zeros behind it. -/
theorem strncpyBytes_eq (mem : Memory) (src : Int) (n : Nat) :
    strncpyBytes mem src n =
      stringBytes mem src n ++ List.replicate (n - (stringBytes mem src n).length) 0 := by
  induction n generalizing src with
  | zero => rfl
  | succ n ih =>
    rw [strncpyBytes, stringBytes]
    by_cases hzero : mem src = 0
    · rw [if_pos hzero, if_pos hzero]
      rfl
    · rw [if_neg hzero, if_neg hzero, ih, List.cons_append, List.length_cons,
        Nat.succ_sub_succ]

theorem store_of_lt {dst : Int} {bytes : List UInt8} {i : Nat} (h : i < bytes.length) :
    store mem dst bytes (dst + i) = bytes[i] := by
  have hindex : (dst + (i : Int) - dst).toNat = i := by omega
  unfold store
  rw [if_pos (by omega), hindex, List.getD_eq_getElem _ _ h]

theorem store_of_le {dst : Int} {bytes : List UInt8} {i : Int} (h : dst + bytes.length ≤ i) :
    store mem dst bytes i = mem i := by
  unfold store
  rw [if_neg (by omega)]

/-- A string shorter than the bound is copied with its terminator. -/
theorem Holds.strncpy {src : Int} {s : CString} (h : Holds mem src s) {n : Nat}
    (hn : s.bytes.length < n) (mem' : Memory) (dst : Int) :
    Holds (CMemory.strncpy mem' dst mem src n) dst s := by
  have hstring : stringBytes mem src n = s.bytes := congrArg CString.bytes (h.stringWithin hn)
  have hbytes := strncpyBytes_eq mem src n
  rw [hstring] at hbytes
  have hlength : (s.bytes ++ List.replicate (n - s.bytes.length) (0 : UInt8)).length = n := by
    rw [List.length_append, List.length_replicate]
    omega
  unfold CMemory.strncpy
  rw [hbytes]
  refine ⟨?_, ?_⟩
  · intro i hi
    rw [store_of_lt (by omega), List.getElem_append_left hi]
  · rw [store_of_lt (by omega), List.getElem_append_right (Nat.le_refl _),
      List.getElem_replicate]

/-- A copy to where no terminator is has one only from a string shorter than the bound. -/
theorem Holds.of_strncpy {mem' : Memory} {dst src : Int} {s : CString} {n : Nat}
    (hne : ∀ i, mem' i ≠ 0) (h : Holds (CMemory.strncpy mem' dst mem src n) dst s) :
    s.bytes.length < n ∧ Holds mem src s := by
  by_cases hlt : (stringBytes mem src n).length < n
  · have hstring := holds_stringWithin hlt
    have heq := h.unique (hstring.strncpy hlt mem' dst)
    rw [heq]
    exact ⟨hlt, hstring⟩
  · have hle := stringBytes_length_le mem src n
    have hbytes : strncpyBytes mem src n = stringBytes mem src n := by
      rw [strncpyBytes_eq, Nat.sub_eq_zero_of_le (by omega), List.replicate_zero, List.append_nil]
    have hzero := h.zero
    unfold CMemory.strncpy at hzero
    rw [hbytes] at hzero
    by_cases hin : s.bytes.length < (stringBytes mem src n).length
    · rw [store_of_lt hin] at hzero
      exact absurd hzero (stringBytes_ne_zero mem _ (List.getElem_mem hin))
    · rw [store_of_le (by omega)] at hzero
      exact absurd hzero (hne _)

/-- The string in a list of bytes is at the same place where they are stored. -/
theorem store_ofBytes_drop (mem : Memory) (dst : Int) (bytes : List UInt8) (off : Nat) :
    ∀ i (h : i < (CString.ofBytes (bytes.drop off)).bytes.length),
      store mem dst bytes (dst + off + i) = (CString.ofBytes (bytes.drop off)).bytes[i] := by
  intro i h
  have hbegins : (CString.ofBytes (bytes.drop off)).bytes <+: bytes.drop off :=
    List.takeWhile_prefix _
  have hle := hbegins.length_le
  rw [List.length_drop] at hle
  have haddr : dst + (off : Int) + (i : Int) = dst + ((off + i : Nat) : Int) := by omega
  rw [haddr, store_of_lt (by omega), hbegins.getElem h, List.getElem_drop]

theorem holds_ofBytes_drop (mem : Memory) (dst : Int) {bytes : List UInt8} {off : Nat}
    (h : 0 ∈ bytes.drop off) :
    Holds (store mem dst bytes) (dst + off) (CString.ofBytes (bytes.drop off)) := by
  refine ⟨store_ofBytes_drop mem dst bytes off, ?_⟩
  rcases CString.split_ofBytes h with ⟨rest, hsplit⟩
  have hlt := CString.length_ofBytes_lt h
  rw [List.length_drop] at hlt
  have haddr : dst + (off : Int) + ((CString.ofBytes (bytes.drop off)).bytes.length : Int) =
      dst + ((off + (CString.ofBytes (bytes.drop off)).bytes.length : Nat) : Int) := by omega
  have hget : (bytes.drop off)[(CString.ofBytes (bytes.drop off)).bytes.length]? = some 0 := by
    calc (bytes.drop off)[(CString.ofBytes (bytes.drop off)).bytes.length]?
        = ((CString.ofBytes (bytes.drop off)).bytes ++
            0 :: rest)[(CString.ofBytes (bytes.drop off)).bytes.length]? := by rw [← hsplit]
      _ = some 0 := by
        rw [List.getElem?_append_right (Nat.le_refl _), Nat.sub_self]
        rfl
  rw [List.getElem?_drop, List.getElem?_eq_getElem (by omega)] at hget
  rw [haddr, store_of_lt (by omega)]
  exact Option.some.inj hget

/-- Where a prefix of that string has a terminator behind it, it is all of it. -/
theorem Holds.eq_of_prefix {dst : Int} {bytes : List UInt8} {off : Nat} {s : CString}
    (h : Holds (store mem dst bytes) (dst + off) s)
    (hbegins : s.bytes <+: (CString.ofBytes (bytes.drop off)).bytes) :
    s = CString.ofBytes (bytes.drop off) := by
  apply CString.ext
  apply hbegins.eq_of_length_le
  by_contra hlong
  have hlt : s.bytes.length < (CString.ofBytes (bytes.drop off)).bytes.length := by omega
  have hbyte := store_ofBytes_drop mem dst bytes off s.bytes.length hlt
  rw [h.zero] at hbyte
  exact (CString.ofBytes (bytes.drop off)).ne_zero _ (List.getElem_mem hlt) hbyte.symm

theorem strncmp_of_lt {s1 : Int} {s2 : List UInt8} {n : Nat} (hn : s2.length < n) :
    strncmp mem s1 s2 n = strcmpBy mem id s1 s2 := by
  induction s2 generalizing s1 n with
  | nil =>
    obtain ⟨k, rfl⟩ : ∃ k, n = k + 1 := ⟨n - 1, by omega⟩
    rfl
  | cons c s2 ih =>
    rw [List.length_cons] at hn
    obtain ⟨k, rfl⟩ : ∃ k, n = k + 1 := ⟨n - 1, by omega⟩
    rw [strncmp, strcmpBy, ih (by omega)]
    rfl

/-- A string is compared with one that is shorter than the bound. -/
theorem Holds.strncmp_iff {s1 : Int} {s key : CString} (h : Holds mem s1 s) {n : Nat}
    (hn : key.bytes.length < n) : strncmp mem s1 key.bytes n = true ↔ s = key := by
  rw [strncmp_of_lt hn, strcmpBy_iff]
  constructor
  · rintro ⟨hbytes, hzero⟩
    exact h.unique ⟨hbytes, hzero⟩
  · rintro rfl
    exact ⟨h.byte, h.zero⟩

/-- A copy stays inside an array that has so many bytes more, or a terminator. -/
theorem strncpyReads_inside_iff {src : Int} {n : Nat} {size : Int} (hn : 0 < n) :
    (∀ i ∈ strncpyReads mem src n, i < size) ↔
      src + n ≤ size ∨ ∃ z : Nat, z < n ∧ src + z < size ∧ mem (src + z) = 0 := by
  induction n generalizing src with
  | zero => exact absurd hn (Nat.lt_irrefl 0)
  | succ n ih =>
    rw [strncpyReads, List.forall_mem_cons]
    by_cases hzero : mem src = 0
    · rw [if_pos hzero]
      constructor
      · rintro ⟨hsrc, -⟩
        refine Or.inr ⟨0, Nat.succ_pos _, ?_⟩
        rw [add_natCast_zero]
        exact ⟨hsrc, hzero⟩
      · rintro (hroom | ⟨z, -, hlt, -⟩)
        · exact ⟨by omega, fun i hi => by cases hi⟩
        · exact ⟨by omega, fun i hi => by cases hi⟩
    · rw [if_neg hzero]
      -- the last byte that may be read has no rest behind it
      by_cases hlast : n = 0
      · subst hlast
        constructor
        · rintro ⟨hsrc, -⟩
          exact Or.inl (by omega)
        · rintro (hroom | ⟨z, -, hlt, -⟩)
          · exact ⟨by omega, fun i hi => by cases hi⟩
          · exact ⟨by omega, fun i hi => by cases hi⟩
      · rw [ih (by omega)]
        constructor
        · rintro ⟨hsrc, hroom | ⟨z, hz, hlt, hterm⟩⟩
          · exact Or.inl (by omega)
          · rw [← add_succ_natCast] at hlt hterm
            exact Or.inr ⟨z + 1, by omega, hlt, hterm⟩
        · rintro (hroom | ⟨z, hz, hlt, hterm⟩)
          · exact ⟨by omega, Or.inl (by omega)⟩
          · cases z with
            | zero =>
              rw [add_natCast_zero] at hterm
              exact absurd hterm hzero
            | succ z =>
              rw [add_succ_natCast] at hlt hterm
              exact ⟨by omega, Or.inr ⟨z, by omega, hlt, hterm⟩⟩

/-- A copy out of an array stays inside it when it has so many bytes more, or a terminator. -/
theorem strncpyReads_store_iff (mem : Memory) (dst : Int) (bytes : List UInt8) (off : Nat) {n : Nat}
    (hn : 0 < n) :
    (∀ i ∈ strncpyReads (store mem dst bytes) (dst + off) n, i < dst + bytes.length) ↔
      off + n ≤ bytes.length ∨ 0 ∈ bytes.drop off := by
  rw [strncpyReads_inside_iff hn]
  constructor
  · rintro (hroom | ⟨z, -, hlt, hzero⟩)
    · exact Or.inl (by omega)
    · have haddr : dst + (off : Int) + (z : Int) = dst + ((off + z : Nat) : Int) := by omega
      rw [haddr, store_of_lt (by omega)] at hzero
      refine Or.inr (List.mem_of_getElem? (i := z) ?_)
      rw [List.getElem?_drop, List.getElem?_eq_getElem (by omega), hzero]
  · rintro (hroom | hzero)
    · exact Or.inl (by omega)
    · by_cases hroom : off + n ≤ bytes.length
      · exact Or.inl (by omega)
      · have hlt := CString.length_ofBytes_lt hzero
        rw [List.length_drop] at hlt
        exact Or.inr ⟨_, by omega, by omega, (holds_ofBytes_drop mem dst hzero).zero⟩

theorem le_of_mem_strncpyReads {src : Int} {n : Nat} :
    ∀ i ∈ strncpyReads mem src n, src ≤ i := by
  induction n generalizing src with
  | zero =>
    intro i hi
    cases hi
  | succ n ih =>
    intro i hi
    rw [strncpyReads] at hi
    rcases List.mem_cons.mp hi with rfl | hi
    · exact Int.le_refl _
    · split at hi
      · cases hi
      · have hle := ih i hi
        omega

end Strncpy

end CMemory
