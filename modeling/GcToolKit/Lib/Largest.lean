import Mathlib.Data.Finset.Lattice.Fold
import Mathlib.Data.Finset.Range
import Mathlib.Order.Lattice.Nat
import Mathlib.Tactic.Common

/-!
# The largest of some numbers

A loop that keeps the larger of two values ends with the largest of all. Where every value is
replaced by a smaller one, the largest stays what it was only if it is one of those that did
not change.

* `foldl_larger` — what the loop ends with;
* `foldl_larger_eq_sup` — from 0 on it is the least upper bound;
* `sup_eq_sup_iff` — when smaller values have the same bound.
-/

namespace Largest

/-- The loop keeps the largest of the values it has seen, and the one it began with. -/
theorem foldl_larger {α : Type} (f : α → Nat) (l : List α) (start : Nat) :
    start ≤ l.foldl (fun m a => if f a > m then f a else m) start ∧
      (∀ a ∈ l, f a ≤ l.foldl (fun m a => if f a > m then f a else m) start) ∧
      (l.foldl (fun m a => if f a > m then f a else m) start = start ∨
        ∃ a ∈ l, l.foldl (fun m a => if f a > m then f a else m) start = f a) := by
  induction l generalizing start with
  | nil =>
    refine ⟨Nat.le_refl start, ?_, Or.inl rfl⟩
    intro a ha
    cases ha
  | cons b l ih =>
    rcases ih (if f b > start then f b else start) with ⟨hkept, hall, hfound⟩
    have hlarger : start ≤ (if f b > start then f b else start) ∧
        f b ≤ (if f b > start then f b else start) := by
      split
      · next hlt => exact ⟨Nat.le_of_lt hlt, Nat.le_refl _⟩
      · next hnot => exact ⟨Nat.le_refl _, not_lt.mp hnot⟩
    rw [List.foldl_cons]
    refine ⟨Nat.le_trans hlarger.1 hkept, ?_, ?_⟩
    · intro a ha
      rcases List.mem_cons.mp ha with rfl | ha
      · exact Nat.le_trans hlarger.2 hkept
      · exact hall a ha
    · rcases hfound with heq | ⟨a, ha, heq⟩
      · by_cases hnew : f b > start
        · -- the value of this pass was kept to the end
          right
          refine ⟨b, List.mem_cons_self .., ?_⟩
          rw [heq, if_pos hnew]
        · left
          rw [heq, if_neg hnew]
      · exact Or.inr ⟨a, List.mem_cons_of_mem b ha, heq⟩

theorem foldl_larger_eq_sup {α : Type} (f : α → Nat) {l : List α} {s : Finset α}
    (hmem : ∀ a, a ∈ l ↔ a ∈ s) :
    l.foldl (fun m a => if f a > m then f a else m) 0 = s.sup f := by
  rcases foldl_larger f l 0 with ⟨-, hall, hfound⟩
  apply Nat.le_antisymm
  · rcases hfound with heq | ⟨a, ha, heq⟩
    · rw [heq]
      exact Nat.zero_le _
    · rw [heq]
      exact Finset.le_sup ((hmem a).mp ha)
  · apply Finset.sup_le
    intro a ha
    exact hall a ((hmem a).mpr ha)

section Smaller

variable {ι α : Type} [LinearOrder α] [OrderBot α]

/-- Of smaller values the bound is the same exactly where one that reaches it is unchanged. -/
theorem sup_eq_sup_iff {s : Finset ι} {f g : ι → α} (hle : ∀ i ∈ s, f i ≤ g i) :
    s.sup f = s.sup g ↔ s = ∅ ∨ ∃ i ∈ s, (∀ j ∈ s, g j ≤ g i) ∧ f i = g i := by
  constructor
  · intro hsup
    rcases s.eq_empty_or_nonempty with hempty | hsome
    · exact Or.inl hempty
    · -- the largest of the smaller values is as large as any of the others
      rcases Finset.exists_mem_eq_sup s hsome f with ⟨i, hi, heq⟩
      have hlargest : ∀ j ∈ s, g j ≤ f i := by
        intro j hj
        rw [← heq, hsup]
        exact Finset.le_sup hj
      refine Or.inr ⟨i, hi, ?_, le_antisymm (hle i hi) (hlargest i hi)⟩
      intro j hj
      exact le_trans (hlargest j hj) (hle i hi)
  · rintro (rfl | ⟨i, hi, hlargest, hsame⟩)
    · rw [Finset.sup_empty, Finset.sup_empty]
    · apply le_antisymm
      · exact Finset.sup_mono_fun hle
      · apply Finset.sup_le
        intro j hj
        calc g j ≤ g i := hlargest j hj
          _ = f i := hsame.symm
          _ ≤ s.sup f := Finset.le_sup hi

end Smaller

end Largest
