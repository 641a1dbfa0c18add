import Mathlib.Data.List.Induction
import Mathlib.Tactic.Common

/-!
# A view that follows a cursor

A view shows the positions from `first` to `first + extent`. It moves no further than it
must for the cursor to be in it. Where it ends up at the top can be told from the
positions alone, without the view.

* `follow_eq` — what the view does about one position, near it or beyond its ends;
* `foldl_follow_eq_zero_iff` — the view is at the top exactly where the cursor was home
  after every position that is not in the first view.
-/

namespace Scroll

/-- The start of the view when the cursor is at `position`. -/
def follow (extent first position : Nat) : Nat := max (min first position) (position - extent)

variable {extent first position : Nat}

theorem follow_of_mem (h : first ≤ position) (h' : position ≤ first + extent) :
    follow extent first position = first := by
  unfold follow
  omega

theorem follow_up (h : position ≤ first) : follow extent first position = position := by
  unfold follow
  omega

theorem follow_down (h : first + extent ≤ position) :
    follow extent first position = position - extent := by
  unfold follow
  omega

/-- Only home brings the view back to the top. -/
theorem follow_eq_zero_iff :
    follow extent first position = 0 ↔ position = 0 ∨ first = 0 ∧ position ≤ extent := by
  unfold follow
  omega

/-- Every position beyond the first view has been followed by home. -/
def Home (extent : Nat) (positions : List Nat) : Prop :=
  ∀ before position after, positions = before ++ position :: after → extent < position → 0 ∈ after

theorem home_concat_iff (positions : List Nat) (position : Nat) :
    Home extent (positions ++ [position]) ↔
      position = 0 ∨ Home extent positions ∧ position ≤ extent := by
  constructor
  · intro h
    by_cases hzero : position = 0
    · exact Or.inl hzero
    · right
      constructor
      · intro before q after heq hfar
        have hmem := h before q (after ++ [position]) (by rw [heq, List.append_assoc]; rfl) hfar
        rcases List.mem_append.mp hmem with hafter | hlast
        · exact hafter
        · exact absurd (List.mem_singleton.mp hlast).symm hzero
      · by_contra hfar
        have hmem := h positions position [] rfl (by omega)
        cases hmem
  · intro h before q after heq hfar
    rcases List.eq_nil_or_concat after with rfl | ⟨after', last, rfl⟩
    · -- the far position is the last one
      have hlast : position = q := by
        have hrev := congrArg List.getLast? heq
        simpa using hrev
      rcases h with hzero | ⟨-, hle⟩
      · omega
      · omega
    · have hsplit : positions ++ [position] = (before ++ q :: after') ++ [last] := by
        rw [heq]
        simp
      rcases List.append_inj' hsplit rfl with ⟨hpositions, hlast⟩
      cases hlast
      rcases h with hzero | ⟨hhome, -⟩
      · rw [hzero]
        simp
      · have hmem := hhome before q after' hpositions hfar
        simp [hmem]

theorem foldl_follow_eq_zero_iff (extent : Nat) (positions : List Nat) :
    positions.foldl (follow extent) 0 = 0 ↔ Home extent positions := by
  induction positions using List.reverseRecOn with
  | nil =>
    refine iff_of_true rfl ?_
    intro before position after heq
    cases before <;> cases heq
  | append_singleton positions position ih =>
    rw [List.foldl_append, List.foldl_cons, List.foldl_nil, follow_eq_zero_iff, ih,
      home_concat_iff]

end Scroll
