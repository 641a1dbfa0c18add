import Mathlib.Data.List.TakeWhile
import Mathlib.Tactic.Common

/-!
# Strings with a terminator

A `CString` is the bytes before the terminator, none of which is 0. `strncpy`
puts one into a buffer, `ofBuffer` reads the one a buffer starts with.
-/

/-- The bytes before the terminator. -/
structure CString where
  bytes : List UInt8
  ne_zero : ∀ b ∈ bytes, b ≠ 0
deriving DecidableEq

namespace CString

variable {n : Nat}

@[ext] theorem ext {s t : CString} (h : s.bytes = t.bytes) : s = t := by
  cases s
  cases t
  cases h
  rfl

def map (s : CString) (f : UInt8 → UInt8) (hf : ∀ b, b ≠ 0 → f b ≠ 0) : CString where
  bytes := s.bytes.map f
  ne_zero := by
    intro b hb
    rcases List.mem_map.mp hb with ⟨c, hc, rfl⟩
    exact hf c (s.ne_zero c hc)

def take (s : CString) (k : Nat) : CString where
  bytes := s.bytes.take k
  ne_zero := fun b hb => s.ne_zero b (List.mem_of_mem_take hb)

def append (s t : CString) : CString where
  bytes := s.bytes ++ t.bytes
  ne_zero := by
    intro b hb
    rcases List.mem_append.mp hb with hs | ht
    · exact s.ne_zero b hs
    · exact t.ne_zero b ht

theorem append_assoc (s t u : CString) : (s.append t).append u = s.append (t.append u) :=
  ext (List.append_assoc ..)

/-- The string a list of bytes starts with. -/
def ofBytes (bs : List UInt8) : CString where
  bytes := bs.takeWhile (· ≠ 0)
  ne_zero := fun _ hb => by simpa using List.mem_takeWhile_imp hb

theorem bytes_ofBytes {bs : List UInt8} (h : ∀ b ∈ bs, b ≠ 0) : (ofBytes bs).bytes = bs := by
  unfold ofBytes
  dsimp only
  rw [List.takeWhile_eq_self_iff]
  intro b hb
  rw [decide_eq_true_iff]
  exact h b hb

/-- The string a buffer starts with. -/
def ofBuffer (b : Vector UInt8 n) : CString := ofBytes b.toList

/-- `strncpy(dst, src, k)` -/
def strncpy (dst : Vector UInt8 n) (src : CString) (k : Nat) : Vector UInt8 n :=
  Vector.ofFn fun i => if i.val < k then src.bytes.getD i 0 else dst[i]

/-- The first terminator ends the string. -/
theorem ofBytes_append_zero (s : CString) (rest : List UInt8) :
    ofBytes (s.bytes ++ 0 :: rest) = s := by
  ext1
  have hpos : ∀ b ∈ s.bytes, decide (b ≠ 0) = true := by
    intro b hb
    simpa using s.ne_zero b hb
  simp only [ofBytes]
  rw [List.takeWhile_append_of_pos hpos]
  simp

/-- Zeros behind it are no part of the string. -/
theorem ofBytes_append_zeros (bs : List UInt8) (k : Nat) :
    ofBytes (bs ++ List.replicate k 0) = ofBytes bs := by
  ext1
  unfold ofBytes
  dsimp only
  induction bs with
  | nil =>
    cases k with
    | zero => rfl
    | succ k => rfl
  | cons b bs ih =>
    rw [List.cons_append, List.takeWhile_cons, List.takeWhile_cons, ih]

/-- With a terminator in it, a list is the string, the terminator and what is
behind. -/
theorem split_ofBytes {bs : List UInt8} (h : 0 ∈ bs) :
    ∃ rest, bs = (ofBytes bs).bytes ++ 0 :: rest := by
  have hsplit : bs = (ofBytes bs).bytes ++ bs.dropWhile (· ≠ 0) :=
    List.takeWhile_append_dropWhile.symm
  cases hdrop : bs.dropWhile (· ≠ 0) with
  | nil =>
    -- then every byte is one of the string
    rw [hdrop, List.append_nil] at hsplit
    rw [hsplit] at h
    exact absurd rfl ((ofBytes bs).ne_zero 0 h)
  | cons b rest =>
    have hb : b = 0 := by
      have hhead := List.head_dropWhile_not (fun b : UInt8 => decide (b ≠ 0)) (l := bs)
        (by rw [hdrop]; exact List.cons_ne_nil _ _)
      simp only [hdrop, List.head_cons] at hhead
      simpa using hhead
    rw [hdrop, hb] at hsplit
    exact ⟨rest, hsplit⟩

theorem length_ofBytes_lt {bs : List UInt8} (h : 0 ∈ bs) :
    (ofBytes bs).bytes.length < bs.length := by
  rcases split_ofBytes h with ⟨rest, hsplit⟩
  have hlen := congrArg List.length hsplit
  rw [List.length_append, List.length_cons] at hlen
  omega

/-- The string depends on the bytes up to the terminator only. -/
theorem ofBytes_eq_of_take {bs bs' : List UInt8} (h : 0 ∈ bs)
    (htake : bs'.take ((ofBytes bs).bytes.length + 1) =
      bs.take ((ofBytes bs).bytes.length + 1)) : ofBytes bs' = ofBytes bs := by
  rcases split_ofBytes h with ⟨rest, hsplit⟩
  have hfront : bs.take ((ofBytes bs).bytes.length + 1) = (ofBytes bs).bytes ++ [0] := by
    calc bs.take ((ofBytes bs).bytes.length + 1)
        = ((ofBytes bs).bytes ++ 0 :: rest).take ((ofBytes bs).bytes.length + 1) :=
          congrArg (List.take ((ofBytes bs).bytes.length + 1)) hsplit
      _ = (ofBytes bs).bytes ++ [0] := by
          rw [List.take_length_add_append]
          rfl
  rw [hfront] at htake
  have hsplit' : bs' = (ofBytes bs).bytes ++
      0 :: bs'.drop ((ofBytes bs).bytes.length + 1) := by
    calc bs' = bs'.take ((ofBytes bs).bytes.length + 1) ++
          bs'.drop ((ofBytes bs).bytes.length + 1) := (List.take_append_drop _ _).symm
      _ = _ := by rw [htake, List.append_assoc]; rfl
  rw [hsplit']
  exact ofBytes_append_zero _ _

theorem toList_strncpy_zeros (src : CString) (k : Nat) :
    (strncpy (Vector.replicate n 0) src k).toList =
      ((src.take k).bytes ++ List.replicate n 0).take n := by
  apply List.ext_getElem
  · simp [take]
  · intro i hi _
    have hin : i < n := by simpa using hi
    simp only [strncpy, Vector.getElem_toList, Vector.getElem_ofFn, List.getElem_take]
    by_cases hk : i < k
    · rw [if_pos hk]
      by_cases hs : i < src.bytes.length
      · have hi' : i < (src.take k).bytes.length := by
          simp only [take, List.length_take]
          omega
        rw [List.getElem_append_left hi']
        simp [take, List.getD_eq_getElem?_getD, hs]
      · rw [List.getElem_append_right (by simp [take]; omega)]
        simp [List.getD_eq_getElem?_getD, hs]
    · rw [if_neg hk, List.getElem_append_right (by simp [take]; omega)]
      simp

/-- What is read back after `strncpy` into zeros that leaves room for the
terminator. -/
theorem ofBuffer_strncpy (src : CString) {k : Nat} (hk : k < n) :
    ofBuffer (strncpy (Vector.replicate n 0) src k) = src.take k := by
  have hlen : (src.take k).bytes.length < n := by
    have hle := List.length_take_le k src.bytes
    exact Nat.lt_of_le_of_lt hle hk
  obtain ⟨j, hj⟩ : ∃ j, n = (src.take k).bytes.length + (j + 1) :=
    ⟨n - (src.take k).bytes.length - 1, by omega⟩
  have hzeros : (List.replicate n (0 : UInt8)).take (j + 1) = 0 :: List.replicate j 0 := by
    rw [List.take_replicate, Nat.min_eq_left (by omega), List.replicate_succ]
  have hread : ((src.take k).bytes ++ List.replicate n 0).take n =
      (src.take k).bytes ++ 0 :: List.replicate j 0 := by
    rw [List.take_append, List.take_of_length_le (by omega),
      show n - (src.take k).bytes.length = j + 1 by omega, hzeros]
  unfold ofBuffer
  rw [toList_strncpy_zeros, hread, ofBytes_append_zero]

/-- So it is when the terminator is set behind it, where it stands already. -/
theorem ofBuffer_set_strncpy (src : CString) {k : Nat} (hk : k < n) :
    ofBuffer ((strncpy (Vector.replicate n 0) src k).set k 0) = src.take k := by
  have hset : (strncpy (Vector.replicate n 0) src k).set k 0 =
      strncpy (Vector.replicate n 0) src k := by
    ext i hi
    by_cases hlast : i = k
    · subst hlast
      simp [strncpy]
    · rw [Vector.getElem_set_ne _ _ (Ne.symm hlast)]
  rw [hset, ofBuffer_strncpy src hk]

/-- `strncpy` of a string that is shorter than the buffer into all of it. -/
theorem ofBuffer_strncpy_all (dst : Vector UInt8 n) {src : CString} (h : src.bytes.length < n) :
    ofBuffer (strncpy dst src n) = src := by
  have hdst : strncpy dst src n = strncpy (Vector.replicate n 0) src n := by
    ext i hi
    unfold strncpy
    rw [Vector.getElem_ofFn, Vector.getElem_ofFn, if_pos hi, if_pos hi]
  have hwhole : (src.take n).bytes = src.bytes := List.take_of_length_le (Nat.le_of_lt h)
  obtain ⟨j, hj⟩ : ∃ j, n = src.bytes.length + (j + 1) :=
    ⟨n - src.bytes.length - 1, by omega⟩
  have hread : (src.bytes ++ List.replicate n 0).take n =
      src.bytes ++ 0 :: List.replicate j 0 := by
    rw [List.take_append, List.take_of_length_le (Nat.le_of_lt h),
      show n - src.bytes.length = j + 1 by omega, List.take_replicate,
      Nat.min_eq_left (by omega), List.replicate_succ]
  unfold ofBuffer
  rw [hdst, toList_strncpy_zeros, hwhole, hread, ofBytes_append_zero]

end CString
