import Mathlib.Data.List.Induction
import Mathlib.Tactic.Common

/-!
# Runs and their histories

A `Machine` takes one input at a time and answers it. A run keeps the history
of inputs and outputs, newest first, so that an invariant can relate the state
reached to what happened on the way.

* `Machine.run_induction` — an invariant of state and history that one step
  preserves holds after every run;
* `Machine.EveryStep` — a property of every step of a run;
* `Machine.everyStep_or` — what becomes of a run in which a step is without it;
* `latest?` — the most recent event of a kind, with the history before it.
-/

namespace Run

variable {σ ι ο : Type}

structure Machine (σ ι ο : Type) where
  step : σ → ι → σ × ο

/-- What happened, newest first. -/
abbrev History (ι ο : Type) := List (ι × ο)

namespace Machine

variable (m : Machine σ ι ο)

def extend (c : σ × History ι ο) (i : ι) : σ × History ι ο :=
  ((m.step c.1 i).1, (i, (m.step c.1 i).2) :: c.2)

def run (s : σ) (is : List ι) : σ × History ι ο := is.foldl m.extend (s, [])

/-- One more input. -/
theorem run_snoc (s : σ) (is : List ι) (i : ι) :
    m.run s (is ++ [i]) = m.extend (m.run s is) i := by
  simp [run, List.foldl_append]

/-- Invariant induction over runs. -/
theorem run_induction {s : σ} (P : σ → History ι ο → Prop) (hinit : P s [])
    (hstep : ∀ s' log i, P s' log → P (m.step s' i).1 ((i, (m.step s' i).2) :: log))
    (is : List ι) : P (m.run s is).1 (m.run s is).2 := by
  induction is using List.reverseRecOn with
  | nil => exact hinit
  | append_singleton is i ih =>
    rw [run_snoc]
    exact hstep _ _ i ih

/-- `P` holds of the state and the input at every step of the run. -/
def EveryStep (P : σ → ι → Prop) (s : σ) (is : List ι) : Prop :=
  ∀ before i after, is = before ++ i :: after → P (m.run s before).1 i

theorem everyStep_congr {P Q : σ → ι → Prop} (h : ∀ s i, P s i ↔ Q s i) (s : σ)
    (is : List ι) : m.EveryStep P s is ↔ m.EveryStep Q s is := by
  unfold EveryStep
  constructor
  · intro hP before i after heq
    exact (h _ i).mp (hP before i after heq)
  · intro hQ before i after heq
    exact (h _ i).mpr (hQ before i after heq)

theorem everyStep_nil (P : σ → ι → Prop) (s : σ) : m.EveryStep P s [] := by
  intro before i after heq
  exact absurd heq.symm (by simp)

theorem everyStep_snoc (P : σ → ι → Prop) (s : σ) (is : List ι) (i : ι) :
    m.EveryStep P s (is ++ [i]) ↔ m.EveryStep P s is ∧ P (m.run s is).1 i := by
  constructor
  · intro h
    constructor
    · intro before j after heq
      refine h before j (after ++ [i]) ?_
      rw [heq, List.append_assoc, List.cons_append]
    · exact h is i [] rfl
  · rintro ⟨h, hlast⟩ before j after heq
    rcases List.eq_nil_or_concat after with rfl | ⟨after', k, rfl⟩
    · -- the last step
      rcases List.append_inj' heq rfl with ⟨rfl, hi⟩
      obtain rfl : i = j := List.head_eq_of_cons_eq hi
      exact hlast
    · rw [List.concat_eq_append, ← List.cons_append, ← List.append_assoc] at heq
      exact h before j after' (List.append_inj' heq rfl).1

/-- The first input apart, the rest is a run from where it leads. -/
theorem run_cons (s : σ) (i : ι) (is : List ι) :
    (m.run s (i :: is)).1 = (m.run (m.step s i).1 is).1 := by
  induction is using List.reverseRecOn with
  | nil => rfl
  | append_singleton is j ih =>
    rw [← List.cons_append, run_snoc, run_snoc]
    unfold extend
    rw [ih]

theorem everyStep_cons (P : σ → ι → Prop) (s : σ) (i : ι) (is : List ι) :
    m.EveryStep P s (i :: is) ↔ P s i ∧ m.EveryStep P (m.step s i).1 is := by
  constructor
  · intro h
    refine ⟨h [] i is rfl, ?_⟩
    intro before j after heq
    have hstep := h (i :: before) j after (congrArg (i :: ·) heq)
    rw [run_cons] at hstep
    exact hstep
  · rintro ⟨hfirst, hrest⟩ before j after heq
    cases before with
    | nil =>
      cases heq
      exact hfirst
    | cons k before =>
      cases heq
      rw [run_cons]
      exact hrest before j after rfl

instance decidableEveryStep (P : σ → ι → Prop) [∀ s i, Decidable (P s i)] :
    (s : σ) → (is : List ι) → Decidable (m.EveryStep P s is)
  | s, [] => .isTrue (m.everyStep_nil P s)
  | s, i :: is =>
    have := decidableEveryStep P (m.step s i).1 is
    decidable_of_iff _ (m.everyStep_cons P s i is).symm

/-- A run in two parts. -/
theorem run_append (s : σ) (is js : List ι) :
    (m.run s (is ++ js)).1 = (m.run (m.run s is).1 js).1 := by
  induction is generalizing s with
  | nil => rfl
  | cons i is ih => rw [List.cons_append, run_cons, run_cons, ih]

/-- What every step of a run keeps holds at its end. -/
theorem EveryStep.run_induction {m : Machine σ ι ο} {P : σ → ι → Prop} {I : σ → Prop}
    (hkeeps : ∀ s i, P s i → I s → I (m.step s i).1) {s : σ} {is : List ι}
    (h : m.EveryStep P s is) (hs : I s) : I (m.run s is).1 := by
  induction is using List.reverseRecOn with
  | nil => exact hs
  | append_singleton is i ih =>
    rw [run_snoc]
    rcases (m.everyStep_snoc P s is i).mp h with ⟨hbefore, hlast⟩
    exact hkeeps _ i hlast (ih hbefore)

/-- So it holds at every step. -/
theorem EveryStep.keeps {m : Machine σ ι ο} {P : σ → ι → Prop} {I : σ → Prop}
    (hkeeps : ∀ s i, P s i → I s → I (m.step s i).1) {s : σ} {is : List ι}
    (h : m.EveryStep P s is) (hs : I s) : m.EveryStep (fun s i => P s i ∧ I s) s is := by
  intro before i after heq
  refine ⟨h before i after heq, ?_⟩
  have hbefore : m.EveryStep P s before := by
    intro before' j after' heq'
    refine h before' j (after' ++ i :: after) ?_
    rw [heq, heq', List.append_assoc, List.cons_append]
  exact EveryStep.run_induction hkeeps hbefore hs

/-- A run keeps `I`, or a step without `P` has taken it to `J`, where it stays. -/
theorem everyStep_or {m : Machine σ ι ο} {P : σ → ι → Prop} {I J : σ → Prop}
    (hkeeps : ∀ s i, P s i → I s → I (m.step s i).1)
    (hbreaks : ∀ s i, ¬ P s i → I s → J (m.step s i).1)
    (hstays : ∀ s i, J s → J (m.step s i).1) {s : σ} (hs : I s) (is : List ι) :
    m.EveryStep P s is ∧ I (m.run s is).1 ∨ J (m.run s is).1 := by
  induction is using List.reverseRecOn with
  | nil => exact Or.inl ⟨m.everyStep_nil P s, hs⟩
  | append_singleton is i ih =>
    rw [everyStep_snoc, run_snoc]
    rcases ih with ⟨hbefore, hinv⟩ | hbroken
    · by_cases hlast : P (m.run s is).1 i
      · exact Or.inl ⟨⟨hbefore, hlast⟩, hkeeps _ i hlast hinv⟩
      · exact Or.inr (hbreaks _ i hlast hinv)
    · exact Or.inr (hstays _ i hbroken)

end Machine

/-! ## The latest event of a kind -/

variable {α : Type} (p : α → Bool)

/-- The most recent event satisfying `p`, and the history before it. -/
def latest? : List α → Option (α × List α)
  | [] => none
  | e :: older => if p e then some (e, older) else latest? older

variable {p} {e : α} {log : List α}

theorem latest?_cons_of_pos (h : p e = true) : latest? p (e :: log) = some (e, log) := by
  simp [latest?, h]

theorem latest?_cons_of_neg (h : p e = false) : latest? p (e :: log) = latest? p log := by
  simp [latest?, h]

/-- Nothing of the kind happened since. -/
theorem latest?_eq_some {older : List α} :
    latest? p log = some (e, older) ↔
      ∃ newer, log = newer ++ e :: older ∧ p e = true ∧ ∀ e' ∈ newer, p e' = false := by
  induction log with
  | nil => simp [latest?]
  | cons a log ih =>
    cases ha : p a with
    -- the newest entry is the one found, so nothing may stand before it
    | true =>
      rw [latest?_cons_of_pos ha]
      constructor
      · intro h
        obtain ⟨rfl, rfl⟩ : a = e ∧ log = older := by simpa using h
        exact ⟨[], rfl, ha, by simp⟩
      · rintro ⟨newer, hlog, -, hnewer⟩
        cases newer with
        | nil =>
          obtain ⟨rfl, rfl⟩ : a = e ∧ log = older := by simpa using hlog
          rfl
        | cons b newer =>
          obtain ⟨rfl, -⟩ : a = b ∧ log = newer ++ e :: older := by simpa using hlog
          have hb := hnewer a (List.mem_cons_self ..)
          rw [ha] at hb
          cases hb
    -- the newest entry is passed over and joins those before the one found
    | false =>
      rw [latest?_cons_of_neg ha, ih]
      constructor
      · rintro ⟨newer, rfl, he, hnewer⟩
        refine ⟨a :: newer, rfl, he, ?_⟩
        intro e' he'
        rcases List.mem_cons.mp he' with rfl | hmem
        · exact ha
        · exact hnewer e' hmem
      · rintro ⟨newer, hlog, he, hnewer⟩
        cases newer with
        | nil =>
          obtain ⟨rfl, rfl⟩ : a = e ∧ log = older := by simpa using hlog
          rw [ha] at he
          cases he
        | cons b newer =>
          obtain ⟨rfl, rfl⟩ : a = b ∧ log = newer ++ e :: older := by simpa using hlog
          exact ⟨newer, rfl, he, fun e' he' => hnewer e' (List.mem_cons_of_mem _ he')⟩

end Run
