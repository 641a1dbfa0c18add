import Mathlib.Logic.Function.Iterate
import Mathlib.Tactic.Common

/-!
# Loops that test at the end

The body of a `do ... while` loop leaves with a result or goes round again;
`run` makes at most `fuel` passes.

* `run_invariant` — what an invariant says of the result, if there is one;
* `run_returns` — a variant that drops with every pass gives a result;
* `run_passes` — the result of a run whose states are known;
* `gather_again` — what the passes of a run read or write, one pass at a time;
* `run_map` — a body that simulates another one has the other one's results;
* `run_eq_some_iff` — a body that computes and then tests ends with the first
  value that fails the test.
-/

namespace DoWhile

/-- What one pass comes to. -/
inductive Pass (σ ρ : Type) where
  | exit (r : ρ)
  | again (s : σ)

variable {σ ρ : Type} (body : σ → Pass σ ρ)

def run : Nat → σ → Option ρ
  | 0, _ => none
  | fuel + 1, s =>
    match body s with
    | .exit r => some r
    | .again s' => run fuel s'

variable {body}

theorem run_exit {fuel : Nat} {s : σ} {r : ρ} (h : body s = .exit r) :
    run body (fuel + 1) s = some r := by
  rw [run, h]

theorem run_again {fuel : Nat} {s s' : σ} (h : body s = .again s') :
    run body (fuel + 1) s = run body fuel s' := by
  rw [run, h]

/-- Partial correctness. -/
theorem run_invariant {I : σ → Prop} {Q : ρ → Prop}
    (hexit : ∀ s r, I s → body s = .exit r → Q r)
    (hagain : ∀ s s', I s → body s = .again s' → I s') {fuel : Nat} {s : σ} {r : ρ}
    (hs : I s) (hrun : run body fuel s = some r) : Q r := by
  induction fuel generalizing s with
  | zero => cases hrun
  | succ fuel ih =>
    cases hbody : body s with
    | exit r' =>
      rw [run_exit hbody] at hrun
      cases hrun
      exact hexit s r hs hbody
    | again s' =>
      rw [run_again hbody] at hrun
      exact ih (hagain s s' hs hbody) hrun

/-- Termination within the value of the variant, plus the last pass. -/
theorem run_returns {I : σ → Prop} (m : σ → Nat)
    (hagain : ∀ s s', I s → body s = .again s' → I s' ∧ m s' < m s) {fuel : Nat} {s : σ}
    (hs : I s) (hfuel : m s < fuel) : ∃ r, run body fuel s = some r := by
  induction fuel generalizing s with
  | zero => exact absurd hfuel (Nat.not_lt_zero _)
  | succ fuel ih =>
    cases hbody : body s with
    | exit r => exact ⟨r, run_exit hbody⟩
    | again s' =>
      rcases hagain s s' hs hbody with ⟨hs', hlt⟩
      rw [run_again hbody]
      exact ih hs' (by omega)

/-- A run whose states are known. -/
theorem run_passes {s : Nat → σ} {n : Nat} {r : ρ}
    (hagain : ∀ k < n, body (s k) = .again (s (k + 1))) (hexit : body (s n) = .exit r)
    {fuel : Nat} (hfuel : n < fuel) : run body fuel (s 0) = some r := by
  obtain ⟨more, rfl⟩ : ∃ more, fuel = n + (more + 1) := ⟨fuel - n - 1, by omega⟩
  induction n generalizing s with
  | zero =>
    rw [Nat.zero_add]
    exact run_exit hexit
  | succ n ih =>
    rw [Nat.succ_add, run_again (hagain 0 (Nat.zero_lt_succ n))]
    refine ih (s := fun k => s (k + 1)) ?_ hexit (by omega)
    intro k hk
    exact hagain (k + 1) (Nat.succ_lt_succ hk)

section Gather

variable {β : Type} (body) (f : σ → List β)

/-- What the passes of a run come to, each in the state it begins with. -/
def gather : Nat → σ → List β
  | 0, _ => []
  | fuel + 1, s =>
    f s ++
      match body s with
      | .exit _ => []
      | .again s' => gather fuel s'

variable {body f}

theorem gather_exit {fuel : Nat} {s : σ} {r : ρ} (h : body s = .exit r) :
    gather body f (fuel + 1) s = f s := by
  rw [gather, h]
  exact List.append_nil _

theorem gather_again {fuel : Nat} {s s' : σ} (h : body s = .again s') :
    gather body f (fuel + 1) s = f s ++ gather body f fuel s' := by
  rw [gather, h]

end Gather

section Map

variable {σ' ρ' : Type} (f : σ → σ') (g : ρ → ρ')

def Pass.map : Pass σ ρ → Pass σ' ρ'
  | .exit r => .exit (g r)
  | .again s => .again (f s)

theorem run_map {body' : σ' → Pass σ' ρ'} (h : ∀ s, body' (f s) = (body s).map f g) (fuel : Nat)
    (s : σ) : run body' fuel (f s) = (run body fuel s).map g := by
  induction fuel generalizing s with
  | zero => rfl
  | succ fuel ih =>
    have hpass := h s
    cases hbody : body s with
    | exit r =>
      rw [hbody] at hpass
      rw [run_exit hpass, run_exit hbody, Option.map_some]
    | again s' =>
      rw [hbody] at hpass
      rw [run_again hpass, run_again hbody]
      exact ih s'

end Map

/-- The result of `do s = f(s); while (test(s))`. -/
theorem run_eq_some_iff {body : σ → Pass σ σ} (f : σ → σ) (test : σ → Prop)
    [DecidablePred test]
    (hbody : ∀ s, body s = if test (f s) then .again (f s) else .exit (f s)) {fuel : Nat}
    {s r : σ} : run body fuel s = some r ↔
      ∃ n < fuel, r = f^[n + 1] s ∧ ¬ test r ∧ ∀ m < n, test (f^[m + 1] s) := by
  -- on the number of passes, with the first one taken off
  induction fuel generalizing s with
  | zero =>
    constructor
    · intro hrun
      cases hrun
    · rintro ⟨n, hn, -⟩
      exact absurd hn (Nat.not_lt_zero n)
  | succ fuel ih =>
    by_cases htest : test (f s)
    · rw [run_again ((hbody s).trans (if_pos htest)), ih]
      constructor
      · rintro ⟨n, hn, hr, hlast, hfirst⟩
        refine ⟨n + 1, Nat.succ_lt_succ hn, hr, hlast, ?_⟩
        intro m hm
        cases m with
        | zero => exact htest
        | succ m => exact hfirst m (Nat.lt_of_succ_lt_succ hm)
      · rintro ⟨n, hn, hr, hlast, hfirst⟩
        cases n with
        | zero =>
          rw [hr] at hlast
          exact absurd htest hlast
        | succ n =>
          refine ⟨n, Nat.lt_of_succ_lt_succ hn, hr, hlast, ?_⟩
          intro m hm
          exact hfirst (m + 1) (Nat.succ_lt_succ hm)
    · rw [run_exit ((hbody s).trans (if_neg htest))]
      constructor
      · intro hr
        cases hr
        exact ⟨0, Nat.zero_lt_succ _, rfl, htest, fun m hm => absurd hm (Nat.not_lt_zero m)⟩
      · rintro ⟨n, -, hr, -, hfirst⟩
        cases n with
        | zero => rw [hr]; rfl
        | succ n => exact absurd (hfirst 0 (Nat.zero_lt_succ n)) htest

end DoWhile
