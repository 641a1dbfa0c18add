import GcToolKit.Lib.ByteBuf

/-!
# Stores into memory

Memory is a function from offsets; a `Store` overwrites the range its data is
long. A buffer is what the memory `Holds` at its front, and a store need not
keep within it.

* `Holds.put` — a store of a range is a `splice` of the buffer;
* `runAll_behind` — stores inside the buffer leave what is behind it.
-/

namespace Stores

open ByteBuf

variable {α : Type} {n : Nat}

/-- Data stored from an offset on. -/
structure Store (α : Type) where
  off : Nat
  data : List α

namespace Store

/-- The store keeps within the first `n` elements. -/
def Inside (n : Nat) (s : Store α) : Prop := s.off + s.data.length ≤ n

/-- The memory after the store. -/
def run (mem : Nat → α) (s : Store α) : Nat → α := fun i =>
  if h : s.off ≤ i ∧ i - s.off < s.data.length then s.data[i - s.off] else mem i

/-- A whole vector stored. -/
def ofVector {m : Nat} (off : Nat) (v : Vector α m) : Store α := ⟨off, v.toList⟩

theorem inside_ofVector {m : Nat} (off : Nat) (v : Vector α m) (h : off + m ≤ n) :
    (ofVector off v).Inside n := by
  unfold Inside ofVector
  dsimp only
  rw [Vector.length_toList]
  exact h

end Store

/-- The memory after all of the stores, in their order. -/
def runAll (mem : Nat → α) (ss : List (Store α)) : Nat → α := ss.foldl Store.run mem

theorem runAll_append (mem : Nat → α) (ss ss' : List (Store α)) :
    runAll mem (ss ++ ss') = runAll (runAll mem ss) ss' :=
  List.foldl_append

/-- Stores inside the buffer leave what is behind it. -/
theorem runAll_behind (mem : Nat → α) (ss : List (Store α)) (h : ∀ s ∈ ss, s.Inside n) {i : Nat}
    (hi : n ≤ i) : runAll mem ss i = mem i := by
  induction ss generalizing mem with
  | nil => rfl
  | cons s ss ih =>
    have hs : s.Inside n := h s List.mem_cons_self
    have hmiss : ¬ (s.off ≤ i ∧ i - s.off < s.data.length) := by
      unfold Store.Inside at hs
      omega
    have hrest := ih (s.run mem) fun s' hs' => h s' (List.mem_cons_of_mem _ hs')
    unfold runAll at hrest ⊢
    rw [List.foldl_cons, hrest]
    exact dif_neg hmiss

/-! ## Buffers in memory -/

/-- The buffer is at the front of the memory. -/
def Holds (mem : Nat → α) (b : Vector α n) : Prop := ∀ i (hi : i < n), mem i = b[i]

theorem holds_ofFn (mem : Nat → α) : Holds mem (Vector.ofFn fun i : Fin n => mem i) := by
  intro i hi
  rw [Vector.getElem_ofFn]

variable {mem : Nat → α} {b : Vector α n}

/-- A range of the buffer is overwritten. -/
theorem Holds.put {m : Nat} (h : Holds mem b) (off : Nat) (v : Vector α m) (hv : off + m ≤ n) :
    Holds ((Store.ofVector off v).run mem) (splice b off v hv) := by
  intro i hi
  rw [getElem_splice]
  unfold Store.run Store.ofVector
  dsimp only
  by_cases hr : off ≤ i ∧ i < off + m
  · have hin : off ≤ i ∧ i - off < v.toList.length := by
      rw [Vector.length_toList]
      omega
    rw [dif_pos hin, dif_pos hr, Vector.getElem_toList]
  · have hout : ¬ (off ≤ i ∧ i - off < v.toList.length) := by
      rw [Vector.length_toList]
      omega
    rw [dif_neg hout, dif_neg hr]
    exact h i hi

/-- A `memset` that may go beyond the buffer. -/
theorem Holds.fill (h : Holds mem b) (off size : Nat) (a : α) :
    Holds ((Store.mk off (List.replicate size a)).run mem)
      (Vector.ofFn fun i : Fin n => if off ≤ i.val ∧ i.val < off + size then a else b.get i) := by
  intro i hi
  rw [Vector.getElem_ofFn]
  unfold Store.run
  dsimp only
  by_cases hr : off ≤ i ∧ i < off + size
  · have hin : off ≤ i ∧ i - off < (List.replicate size a).length := by
      rw [List.length_replicate]
      omega
    rw [dif_pos hin, if_pos hr, List.getElem_replicate]
  · have hout : ¬ (off ≤ i ∧ i - off < (List.replicate size a).length) := by
      rw [List.length_replicate]
      omega
    rw [dif_neg hout, if_neg hr]
    exact h i hi

end Stores
