import Mathlib.Data.Finset.Card
import Mathlib.Data.Nat.Find
import Mathlib.Tactic.Common

/-!
# The first name that is free

Names that are all different, tried one after the other against a finite set: at most as
many as the set has can be taken.
-/

namespace Fresh

variable {α : Type} [DecidableEq α]

/-- The `n`-th name is free, and those before it are taken. -/
structure First (name : Nat → α) (taken : Finset α) (n : Nat) : Prop where
  free : name n ∉ taken
  before : ∀ m < n, name m ∈ taken

theorem exists_free {name : Nat → α} {taken : Finset α}
    (hne : ∀ i ≤ taken.card, ∀ j ≤ taken.card, name i = name j → i = j) :
    ∃ n ≤ taken.card, name n ∉ taken := by
  by_contra hall
  have hsubset : (Finset.range (taken.card + 1)).image name ⊆ taken := by
    intro a ha
    rcases Finset.mem_image.mp ha with ⟨i, hi, rfl⟩
    by_contra hfree
    exact hall ⟨i, Nat.lt_succ_iff.mp (Finset.mem_range.mp hi), hfree⟩
  have hcard : ((Finset.range (taken.card + 1)).image name).card = taken.card + 1 := by
    rw [Finset.card_image_of_injOn, Finset.card_range]
    intro i hi j hj heq
    have hi' := Finset.mem_range.mp hi
    have hj' := Finset.mem_range.mp hj
    exact hne i (by omega) j (by omega) heq
  have hle := Finset.card_le_card hsubset
  omega

theorem exists_first {name : Nat → α} {taken : Finset α}
    (hne : ∀ i ≤ taken.card, ∀ j ≤ taken.card, name i = name j → i = j) :
    ∃ n ≤ taken.card, First name taken n := by
  rcases exists_free hne with ⟨k, hk, hfree⟩
  have hsome : ∃ n, name n ∉ taken := ⟨k, hfree⟩
  refine ⟨Nat.find hsome, (Nat.find_min' hsome hfree).trans hk, Nat.find_spec hsome, ?_⟩
  intro m hm
  exact not_not.mp (Nat.find_min hsome hm)

end Fresh
