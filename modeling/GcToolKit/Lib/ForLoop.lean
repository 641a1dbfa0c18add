import Mathlib.Tactic.Common
import Mathlib.Data.List.FinRange

/-!
# Loops with a counter

A `for` loop over a fixed range is a fold over its indices. An invariant may name the index
that is next.

* `foldl_finRange_induction` — an invariant of one pass holds behind the last;
* `foldl_range_succ` — the last pass, taken off.
-/

namespace ForLoop

variable {β : Type}

/-- The invariant rule: `P k` holds in front of pass `k`. -/
theorem foldl_finRange_induction {n : Nat} {f : β → Fin n → β} {P : Nat → β → Prop} {b : β}
    (hstart : P 0 b) (hpass : ∀ (i : Fin n) (b : β), P i b → P (i + 1) (f b i)) :
    P n ((List.finRange n).foldl f b) := by
  -- on the number of passes, with the last one taken off
  induction n with
  | zero => exact hstart
  | succ n ih =>
    rw [List.finRange_succ_last, List.foldl_append, List.foldl_map]
    have hfront : P n ((List.finRange n).foldl (fun b i => f b i.castSucc) b) :=
      ih fun i b hb => hpass i.castSucc b hb
    exact hpass (Fin.last n) _ hfront

theorem foldl_range_succ (f : β → Nat → β) (b : β) (k : Nat) :
    (List.range (k + 1)).foldl f b = f ((List.range k).foldl f b) k := by
  rw [List.range_succ, List.foldl_append]
  rfl

/-- Two loops with the same passes end alike. -/
theorem foldl_range_congr {f g : β → Nat → β} {k : Nat} (h : ∀ i < k, ∀ b, f b i = g b i)
    (b : β) : (List.range k).foldl f b = (List.range k).foldl g b := by
  induction k with
  | zero => rfl
  | succ k ih =>
    rw [foldl_range_succ, foldl_range_succ, ih fun i hi => h i (Nat.lt_succ_of_lt hi)]
    exact h k (Nat.lt_succ_self k) _

end ForLoop
