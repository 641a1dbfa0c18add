import Mathlib.Tactic.Common

/-!
# Fixed-size buffers with range reads and writes

`slice b off len` reads a range, `splice b off v` overwrites one. Both carry
the bound of their range, so a read or a write outside the buffer cannot be
written down. The lemmas below say how a read sees an earlier write: the same
range, a range inside it, a range around it, or a disjoint one.
-/

namespace ByteBuf

variable {α : Type} {n m : Nat}

/-- The `len` elements of `b` from `off` on. -/
def slice (b : Vector α n) (off len : Nat) (h : off + len ≤ n := by decide) : Vector α len :=
  Vector.ofFn fun i => b[off + i.val]

/-- `b` with the range from `off` on overwritten by `v`. -/
def splice (b : Vector α n) (off : Nat) (v : Vector α m) (_ : off + m ≤ n := by decide) :
    Vector α n :=
  Vector.ofFn fun i => if h : off ≤ i.val ∧ i.val < off + m then v[i.val - off] else b[i.val]

/-- The ends of a buffer that has them. -/
def first (b : Vector α (n + 1)) : α := b[0]

def second (b : Vector α (n + 2)) : α := b[1]

def last (b : Vector α (n + 1)) : α := b[n]

def setLast (b : Vector α (n + 1)) (a : α) : Vector α (n + 1) := b.set n a

@[simp] theorem getElem_slice (b : Vector α n) (off len : Nat) (h : off + len ≤ n)
    (i : Nat) (hi : i < len) : (slice b off len h)[i] = b[off + i] := by
  simp [slice]

theorem getElem_splice (b : Vector α n) (off : Nat) (v : Vector α m) (h : off + m ≤ n)
    (i : Nat) (hi : i < n) :
    (splice b off v h)[i] = if hr : off ≤ i ∧ i < off + m then v[i - off] else b[i] := by
  simp [splice]

/-! ## A read after a write -/

@[simp] theorem slice_splice_same (b : Vector α n) (off : Nat) (v : Vector α m)
    (h : off + m ≤ n) : slice (splice b off v h) off m h = v := by
  ext i hi
  have hr : off ≤ off + i ∧ off + i < off + m := by omega
  simp [getElem_splice, hr]

/-- A range that misses the written one. -/
theorem slice_splice_disjoint (b : Vector α n) (off : Nat) (v : Vector α m) (h : off + m ≤ n)
    (off' len : Nat) (h' : off' + len ≤ n) (hd : off' + len ≤ off ∨ off + m ≤ off') :
    slice (splice b off v h) off' len h' = slice b off' len h' := by
  ext i hi
  have hr : ¬ (off ≤ off' + i ∧ off' + i < off + m) := by omega
  simp [getElem_splice, hr]

/-! ## A write after a write -/

theorem splice_splice_same (b : Vector α n) (off : Nat) (v w : Vector α m) (h : off + m ≤ n) :
    splice (splice b off v h) off w h = splice b off w h := by
  ext i hi
  simp only [getElem_splice]
  split <;> rfl

@[simp] theorem splice_slice_self (b : Vector α n) (off : Nat) (h : off + m ≤ n) :
    splice b off (slice b off m h) h = b := by
  ext i hi
  simp only [getElem_splice, getElem_slice]
  split
  · next hr => congr 1; omega
  · rfl

/-- A write of everything. -/
theorem splice_whole (b v : Vector α n) (h : 0 + n ≤ n) : splice b 0 v h = v := by
  ext i hi
  have hr : 0 ≤ i ∧ i < 0 + n := by omega
  rw [getElem_splice, dif_pos hr]
  rfl

theorem splice_comm {m' : Nat} (b : Vector α n) (off : Nat) (v : Vector α m) (h : off + m ≤ n)
    (off' : Nat) (w : Vector α m') (h' : off' + m' ≤ n)
    (hd : off' + m' ≤ off ∨ off + m ≤ off') :
    splice (splice b off v h) off' w h' = splice (splice b off' w h') off v h := by
  ext i hi
  simp only [getElem_splice]
  by_cases hr : off ≤ i ∧ i < off + m
  · have hr' : ¬ (off' ≤ i ∧ i < off' + m') := by omega
    simp [hr, hr']
  · simp [hr]

/-- A write into a range that is then written back is a write in the whole
buffer. -/
theorem splice_splice_inside {k : Nat} (b : Vector α n) (off : Nat) (v : Vector α m)
    (h : off + m ≤ n) (off' : Nat) (w : Vector α k) (h' : off' + k ≤ m) :
    splice b off (splice v off' w h') h =
      splice (splice b off v h) (off + off') w (Nat.le_trans (by omega) h) := by
  ext i hi
  simp only [getElem_splice]
  by_cases hin : off + off' ≤ i ∧ i < off + off' + k
  · have hout : off ≤ i ∧ i < off + m := by omega
    have hin' : off' ≤ i - off ∧ i - off < off' + k := by omega
    rw [dif_pos hout, dif_pos hin', dif_pos hin]
    congr 1
    omega
  · rw [dif_neg hin]
    by_cases hout : off ≤ i ∧ i < off + m
    · have hin' : ¬ (off' ≤ i - off ∧ i - off < off' + k) := by omega
      rw [dif_pos hout, dif_neg hin', dif_pos hout]
    · rw [dif_neg hout, dif_neg hout]

/-! ## Fields

A packed structure laid over a buffer: each member is a range with its bound. -/

/-- A member of `len` elements in a buffer of `n`. -/
structure Field (n len : Nat) where
  off : Nat
  bound : off + len ≤ n

namespace Field

variable {k len : Nat}

def get (f : Field n len) (b : Vector α n) : Vector α len := slice b f.off len f.bound

def put (f : Field n len) (b : Vector α n) (v : Vector α len) : Vector α n :=
  splice b f.off v f.bound

/-- The two members do not overlap. -/
def Apart (f : Field n len) (g : Field n k) : Prop :=
  f.off + len ≤ g.off ∨ g.off + k ≤ f.off

instance (f : Field n len) (g : Field n k) : Decidable (f.Apart g) :=
  inferInstanceAs (Decidable (_ ∨ _))

/-- A member written back as it is. -/
theorem put_get_self (f : Field n len) (b : Vector α n) : f.put b (f.get b) = b :=
  splice_slice_self _ _ _

theorem getElem_put (f : Field n len) (b : Vector α n) (v : Vector α len) (i : Nat) (hi : i < n) :
    (f.put b v)[i] = if hr : f.off ≤ i ∧ i < f.off + len then v[i - f.off] else b[i] :=
  getElem_splice ..

@[simp] theorem get_put_same (f : Field n len) (b : Vector α n) (v : Vector α len) :
    f.get (f.put b v) = v :=
  slice_splice_same _ _ _ _

theorem get_put_apart (f : Field n len) (g : Field n k) (b : Vector α n) (v : Vector α k)
    (h : f.Apart g) : f.get (g.put b v) = f.get b :=
  slice_splice_disjoint _ _ _ _ _ _ _ h

end Field

end ByteBuf
