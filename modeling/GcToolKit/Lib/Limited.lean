import Mathlib.Algebra.Group.Nat.Defs
import Mathlib.Tactic.Common

/-!
# Transfers in chunks

A source or a target may have a limit, and `ahead limit pos n` of the `n` bytes behind
`pos` lie within it. A transfer that always asks for whole chunks moves `size` bytes
exactly where the source ends there or the chunks divide `size`
(`ahead_chunks_iff`).
-/

namespace Limited

/-- How many of the `n` bytes behind `pos` there are, where `none` is no limit. -/
def ahead (limit : Option Nat) (pos n : Nat) : Nat := limit.elim n fun len => min n (len - pos)

theorem ahead_add (limit : Option Nat) (p n : Nat) :
    ahead limit 0 p + ahead limit p n = ahead limit 0 (p + n) := by
  cases limit with
  | none => rfl
  | some len =>
    unfold ahead
    dsimp only [Option.elim]
    omega

theorem ahead_le (limit : Option Nat) (p n : Nat) : ahead limit p n ≤ n := by
  cases limit with
  | none => exact Nat.le_refl n
  | some len => exact Nat.min_le_left ..

/-- A source that gives nothing at first has nothing. -/
theorem eq_some_zero_of_ahead {limit : Option Nat} {n : Nat} (h : ahead limit 0 n = 0)
    (hn : 0 < n) : limit = some 0 := by
  cases limit with
  | none => exact absurd h (Nat.ne_of_gt hn)
  | some len =>
    unfold ahead at h
    dsimp only [Option.elim] at h
    rw [Option.some_inj]
    omega

/-- Up to `size` bytes nothing is missing. -/
theorem ahead_within {limit : Option Nat} {size : Nat} (h : ahead limit 0 size = size) {n : Nat}
    (hn : n ≤ size) : ahead limit 0 n = n := by
  cases limit with
  | none => rfl
  | some len =>
    unfold ahead at h ⊢
    dsimp only [Option.elim] at h ⊢
    omega

theorem ahead_pos {limit : Option Nat} {size : Nat} (h : ahead limit 0 size = size) {p n : Nat}
    (hp : p < size) (hn : 0 < n) : 0 < ahead limit p n := by
  cases limit with
  | none => exact hn
  | some len =>
    unfold ahead at h ⊢
    dsimp only [Option.elim] at h ⊢
    omega

/-- On the way to `size` bytes only a source of none has nothing ahead. -/
theorem source_empty {source : Option Nat} {chunk size p : Nat} (hchunk : 0 < chunk)
    (hmore : p = 0 ∨ p < size) (hsource : ahead source 0 size = size)
    (h : ahead source p chunk = 0) : p = 0 ∧ size = 0 ∧ source = some 0 := by
  have hdone : ¬ p < size := by
    intro hlt
    exact Nat.ne_of_gt (ahead_pos hsource hlt hchunk) h
  have hfirst : p = 0 := hmore.resolve_right hdone
  rw [hfirst] at h hdone
  exact ⟨hfirst, Nat.eq_zero_of_not_pos hdone, eq_some_zero_of_ahead h hchunk⟩

/-- On the way to `size` bytes only a target of no room is full. -/
theorem target_full {source room : Option Nat} {size p n : Nat} (hn : 0 < n)
    (hmore : p = 0 ∨ p < size) (hsource : ahead source 0 size = size)
    (hroom : ahead room 0 size = size) (h : ahead room (ahead source 0 p) n = 0) :
    p = 0 ∧ size = 0 := by
  have hdone : ¬ p < size := by
    intro hlt
    rw [ahead_within hsource (Nat.le_of_lt hlt)] at h
    exact Nat.ne_of_gt (ahead_pos hroom hlt hn) h
  have hfirst : p = 0 := hmore.resolve_right hdone
  rw [hfirst] at hdone
  exact ⟨hfirst, Nat.eq_zero_of_not_pos hdone⟩

/-- Nothing is missing before `size` bytes, neither in the source nor in the target. -/
theorem ahead_lt_iff {source room : Option Nat} {size : Nat} (hsource : ahead source 0 size = size)
    (hroom : ahead room 0 size = size) (n : Nat) :
    ahead room 0 (ahead source 0 n) < size ↔ n < size := by
  constructor
  · intro hlt
    -- behind `size` there is at least what was there at it
    by_contra hge
    have hsource' := ahead_add source size (n - size)
    have hroom' := ahead_add room size (ahead source 0 n - size)
    rw [hsource, Nat.add_sub_cancel' (Nat.le_of_not_lt hge)] at hsource'
    rw [hroom, Nat.add_sub_cancel' (by omega)] at hroom'
    omega
  · intro hlt
    rw [ahead_within hsource (Nat.le_of_lt hlt), ahead_within hroom (Nat.le_of_lt hlt)]
    exact hlt

/-- The last of the chunks ends at `size` only if the source does, or if the chunks
divide it. -/
theorem ahead_chunks_iff {source : Option Nat} {chunk size p : Nat} (hchunks : chunk ∣ p)
    (hmore : p = 0 ∨ p < size) (hdone : size ≤ p + chunk) (hdata : 0 < ahead source p chunk)
    (hsource : ahead source 0 size = size) :
    ahead source 0 (p + chunk) = size ↔ source = some size ∨ (0 < size ∧ chunk ∣ size) := by
  -- both `p` and `size` are on a boundary, and `size` is not beyond the next one
  have hdivides : 0 < size → chunk ∣ size → size = p + chunk := by
    intro hpos hdvd
    have hleft : chunk ∣ size - p := Nat.dvd_sub hdvd hchunks
    have hle : chunk ≤ size - p := Nat.le_of_dvd (by omega) hleft
    omega
  have hends : p + chunk = size → 0 < size ∧ chunk ∣ size := by
    rintro rfl
    have hle := ahead_le source p chunk
    exact ⟨by omega, Nat.dvd_add hchunks (Nat.dvd_refl chunk)⟩
  cases source with
  | none =>
    constructor
    · intro heq
      exact Or.inr (hends heq)
    · rintro (hsome | ⟨hpos, hdvd⟩)
      · cases hsome
      · exact (hdivides hpos hdvd).symm
  | some len =>
    unfold ahead at hsource hdata ⊢
    dsimp only [Option.elim] at hsource hdata ⊢
    rw [Option.some_inj]
    constructor
    · intro heq
      by_cases hlen : len = size
      · exact Or.inl hlen
      · exact Or.inr (hends (by omega))
    · rintro (rfl | ⟨hpos, hdvd⟩)
      · omega
      · have heq := hdivides hpos hdvd
        omega

end Limited
