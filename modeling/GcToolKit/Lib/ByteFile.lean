import Mathlib.Tactic.Common

/-!
# Files as lists of bytes

`writeAt` is a write at a position: it overwrites, extends, and fills a gap
with zeros.
-/

namespace ByteFile

def writeAt (content : List UInt8) (off : Nat) (data : List UInt8) : List UInt8 :=
  if data = [] then content
  else content.take off ++ List.replicate (off - content.length) 0 ++ data ++
    content.drop (off + data.length)

/-- A write at the end appends. -/
theorem writeAt_end (content data : List UInt8) :
    writeAt content content.length data = content ++ data := by
  unfold writeAt
  split
  · next hnil => simp [hnil]
  · simp

/-- The write of a middle part. -/
theorem writeAt_middle (a v b w : List UInt8) (h : v.length = w.length) :
    writeAt (a ++ v ++ b) a.length w = a ++ w ++ b := by
  unfold writeAt
  split
  · next hnil =>
    subst hnil
    rw [List.length_eq_zero_iff.mp h]
  · simp [List.append_assoc, ← h]

/-- A write into the file, seen from behind a part that is done. -/
theorem writeAt_prefix {content : List UInt8} {off : Nat} (data : List UInt8)
    (h : off + data.length ≤ content.length) :
    writeAt content off data = content.take off ++ data ++ content.drop (off + data.length) := by
  unfold writeAt
  split
  · next hnil =>
    subst hnil
    simp
  · have hgap : off - content.length = 0 := by omega
    rw [hgap, List.replicate_zero, List.append_nil]

/-- A write at the start changes nothing where the file begins with the data. -/
theorem writeAt_eq_self_iff (content data : List UInt8) :
    writeAt content 0 data = content ↔ data <+: content := by
  unfold writeAt
  split
  · next hnil =>
    subst hnil
    exact iff_of_true rfl List.nil_prefix
  · rw [Nat.zero_sub, List.replicate_zero, List.take_zero, List.nil_append, List.nil_append,
      Nat.zero_add]
    constructor
    · intro h
      exact ⟨_, h⟩
    · rintro ⟨rest, rfl⟩
      rw [List.drop_left]

/-! ## Byte by byte -/

section Bytes

variable (content data : List UInt8) {off i : Nat}

/-- Inside its range a write decides. -/
theorem getElem?_writeAt_inside (hoff : off ≤ i) (hi : i < off + data.length) :
    (writeAt content off data)[i]? = data[i - off]? := by
  have hdata : data ≠ [] := by
    rintro rfl
    rw [List.length_nil] at hi
    omega
  have hfront : (content.take off ++ List.replicate (off - content.length) 0).length = off := by
    rw [List.length_append, List.length_take, List.length_replicate]
    omega
  unfold writeAt
  rw [if_neg hdata, List.append_assoc, List.getElem?_append_right (by omega), hfront,
    List.getElem?_append_left (by omega)]

/-- Before its range a write leaves what there is. -/
theorem getElem?_writeAt_before (hi : i < off) (hlen : i < content.length) :
    (writeAt content off data)[i]? = content[i]? := by
  unfold writeAt
  split
  · rfl
  · rw [List.append_assoc, List.append_assoc, List.getElem?_append_left
      (by rw [List.length_take]; omega), List.getElem?_take_of_lt hi]

/-- So it does behind its range. -/
theorem getElem?_writeAt_behind (hi : off + data.length ≤ i) :
    (writeAt content off data)[i]? = content[i]? := by
  unfold writeAt
  split
  · rfl
  · have hfront : (content.take off ++ List.replicate (off - content.length) 0 ++ data).length =
        off + data.length := by
      rw [List.length_append, List.length_append, List.length_take, List.length_replicate]
      omega
    rw [List.getElem?_append_right (by omega), hfront, List.getElem?_drop]
    congr 1
    omega

/-- A file grows no further than the write goes. -/
theorem length_writeAt_le (off : Nat) :
    (writeAt content off data).length ≤ max content.length (off + data.length) := by
  unfold writeAt
  split
  · exact Nat.le_max_left _ _
  · simp only [List.length_append, List.length_take, List.length_replicate, List.length_drop]
    omega

/-- It does not shrink, -/
theorem length_le_writeAt (off : Nat) : content.length ≤ (writeAt content off data).length := by
  unfold writeAt
  split
  · exact Nat.le_refl _
  · simp only [List.length_append, List.length_take, List.length_replicate, List.length_drop]
    omega

/-- and a write from within reaches its end. -/
theorem le_length_writeAt (hoff : off ≤ content.length) :
    off + data.length ≤ (writeAt content off data).length := by
  unfold writeAt
  split
  · next hdata => simpa [hdata] using hoff
  · simp only [List.length_append, List.length_take, List.length_replicate, List.length_drop]
    omega

/-- A write into the first `p` bytes of a file is seen there as in the whole file. -/
theorem getElem?_writeAt_take {p : Nat} (hi : i < p) (hp : p ≤ content.length) :
    (writeAt (content.take p) off data)[i]? = (writeAt content off data)[i]? := by
  have htake : (content.take p)[i]? = content[i]? := List.getElem?_take_of_lt hi
  have hlen : (content.take p).length = p := List.length_take_of_le hp
  by_cases hfront : i < off
  · rw [getElem?_writeAt_before _ _ hfront (by omega), htake,
      getElem?_writeAt_before _ _ hfront (by omega)]
  · by_cases hback : off + data.length ≤ i
    · rw [getElem?_writeAt_behind _ _ hback, htake, getElem?_writeAt_behind _ _ hback]
    · rw [getElem?_writeAt_inside _ _ (by omega) (by omega),
        getElem?_writeAt_inside _ _ (by omega) (by omega)]

end Bytes

/-- Reading the middle part back. -/
theorem take_drop_middle (a v b : List UInt8) {off len : Nat} (ha : a.length = off)
    (hv : v.length = len) : ((a ++ v ++ b).drop off).take len = v := by
  rw [List.append_assoc, List.drop_left' ha, List.take_left' hv]

end ByteFile
