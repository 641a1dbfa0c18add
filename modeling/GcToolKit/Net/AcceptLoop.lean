import GcToolKit.Lib.Run

/-!
# The accept loop of the receiver (pc/main.c)

`main` hands every thread a pointer to the one variable `connection_fd`, which
the next `ACCEPT_SOCKET` overwrites; between them it sleeps for a second. What
the thread reads through the pointer is what `connection_fd` holds by then.

* `le_served` — a thread never gets a connection older than its own;
* `served_iff` — every connection gets its one thread exactly if each thread has
  read the pointer before the next connection is accepted.
-/

namespace GcToolKit.Net

open Run

/-- `accepted` connections so far, numbered as they came; `connection_fd`; and the
connection each thread has read through its pointer. Thread `i` is the one made
for connection `i`. -/
structure Accepting where
  accepted : Nat
  connectionFd : Nat
  served : Nat → Option Nat

inductive AcceptCall where
  /-- `ACCEPT_SOCKET` and `pthread_create`, which succeed. -/
  | accept
  /-- The first statement of `receive_packets`. -/
  | start (thread : Nat)

def Accepting.init (connectionFd : Nat) : Accepting where
  accepted := 0
  connectionFd := connectionFd
  served _ := none

def acceptLoop : Machine Accepting AcceptCall Unit where
  step s
    | .accept => ({ s with accepted := s.accepted + 1, connectionFd := s.accepted }, ())
    | .start thread =>
      if thread < s.accepted ∧ s.served thread = none then
        ({ s with served := Function.update s.served thread (some s.connectionFd) }, ())
      else (s, ())

/-- When a connection is accepted, the threads of the earlier ones have read. -/
def InTime (s : Accepting) : AcceptCall → Prop
  | .accept => ∀ i, i < s.accepted → s.served i ≠ none
  | .start _ => True

/-! ## One call -/

section Calls

variable {s : Accepting} {thread : Nat}

theorem step_accept : (acceptLoop.step s .accept).1 =
    { s with accepted := s.accepted + 1, connectionFd := s.accepted } := rfl

theorem step_start (h : thread < s.accepted ∧ s.served thread = none) :
    (acceptLoop.step s (.start thread)).1 =
      { s with served := Function.update s.served thread (some s.connectionFd) } := by
  show (ite _ _ _ : Accepting × Unit).1 = _
  rw [if_pos h]

theorem step_start_again (h : ¬ (thread < s.accepted ∧ s.served thread = none)) :
    (acceptLoop.step s (.start thread)).1 = s := by
  show (ite _ _ _ : Accepting × Unit).1 = _
  rw [if_neg h]

end Calls

/-! ## What holds in every run -/

/-- `connection_fd` is the last connection, and a thread has its own or a later one. -/
structure Bounds (s : Accepting) : Prop where
  latest : s.accepted ≠ 0 → s.connectionFd + 1 = s.accepted
  served : ∀ i c, s.served i = some c → i ≤ c ∧ c < s.accepted

theorem bounds_init (connectionFd : Nat) : Bounds (.init connectionFd) :=
  ⟨fun h => absurd rfl h, nofun⟩

theorem bounds_step {s : Accepting} (h : Bounds s) (call : AcceptCall) :
    Bounds (acceptLoop.step s call).1 := by
  cases call with
  | accept =>
    refine ⟨fun _ => rfl, ?_⟩
    intro i c hc
    rcases h.served i c hc with ⟨hle, hlt⟩
    exact ⟨hle, Nat.lt_succ_of_lt hlt⟩
  | start thread =>
    by_cases hstart : thread < s.accepted ∧ s.served thread = none
    · rw [step_start hstart]
      refine ⟨h.latest, ?_⟩
      intro i c hc
      have hlatest := h.latest (by omega)
      by_cases hi : i = thread
      · subst hi
        dsimp only at hc ⊢
        rw [Function.update_self, Option.some.injEq] at hc
        omega
      · dsimp only at hc
        rw [Function.update_of_ne hi] at hc
        exact h.served i c hc
    · rw [step_start_again hstart]
      exact h

/-- What is accepted and read so far. -/
def afterCalls (connectionFd : Nat) (calls : List AcceptCall) : Accepting :=
  (acceptLoop.run (.init connectionFd) calls).1

theorem bounds_run (connectionFd : Nat) (calls : List AcceptCall) :
    Bounds (afterCalls connectionFd calls) :=
  acceptLoop.run_induction (fun s _ => Bounds s) (bounds_init connectionFd)
    (fun _ _ call h => bounds_step h call) calls

theorem le_served {connectionFd : Nat} {calls : List AcceptCall} {i c : Nat}
    (h : (afterCalls connectionFd calls).served i = some c) : i ≤ c :=
  ((bounds_run connectionFd calls).served i c h).1

/-! ## In time -/

/-- The threads that have read have their own connections; only the last one may
not have read yet. -/
structure Matched (s : Accepting) : Prop where
  own : ∀ i c, s.served i = some c → c = i
  read : ∀ i, i + 1 < s.accepted → s.served i ≠ none

theorem matched_init (connectionFd : Nat) : Matched (.init connectionFd) := by
  constructor
  · intro i c hc
    cases hc
  · intro i hi
    exact absurd hi (Nat.not_lt_zero _)

/-- A thread is past its own connection. -/
def Overtaken (s : Accepting) : Prop :=
  ∃ i, i < s.connectionFd ∧ i < s.accepted ∧ ∀ c, s.served i = some c → i < c

theorem matched_step {s : Accepting} {call : AcceptCall} (hintime : InTime s call)
    (hbounds : Bounds s) (h : Matched s) : Matched (acceptLoop.step s call).1 := by
  cases call with
  | accept =>
    refine ⟨h.own, ?_⟩
    intro i hi
    exact hintime i (Nat.lt_of_succ_lt_succ hi)
  | start thread =>
    by_cases hstart : thread < s.accepted ∧ s.served thread = none
    · -- nobody else has still to read, so the variable holds its connection
      have hlast : ¬ thread + 1 < s.accepted := fun hlt => h.read thread hlt hstart.2
      have hlatest := hbounds.latest (by omega)
      rw [step_start hstart]
      constructor
      · intro i c hc
        by_cases hi : i = thread
        · subst hi
          dsimp only at hc
          rw [Function.update_self, Option.some.injEq] at hc
          omega
        · dsimp only at hc
          rw [Function.update_of_ne hi] at hc
          exact h.own i c hc
      · intro i hi
        dsimp only at hi ⊢
        rw [Function.update_of_ne (by omega)]
        exact h.read i hi
    · rw [step_start_again hstart]
      exact h

/-- A connection accepted before a thread has read takes its place. -/
theorem overtaken_accept {s : Accepting} (h : ¬ InTime s .accept) :
    Overtaken (acceptLoop.step s .accept).1 := by
  unfold InTime at h
  simp only [not_forall, ne_eq, not_not] at h
  rcases h with ⟨i, hi, hnone⟩
  refine ⟨i, hi, Nat.lt_succ_of_lt hi, ?_⟩
  intro c hc
  rw [step_accept] at hc
  dsimp only at hc
  rw [hnone] at hc
  cases hc

theorem overtaken_step {s : Accepting} {call : AcceptCall} (h : Overtaken s) :
    Overtaken (acceptLoop.step s call).1 := by
  rcases h with ⟨i, hfd, hi, hserved⟩
  cases call with
  | accept => exact ⟨i, hi, Nat.lt_succ_of_lt hi, hserved⟩
  | start thread =>
    by_cases hstart : thread < s.accepted ∧ s.served thread = none
    · rw [step_start hstart]
      refine ⟨i, hfd, hi, ?_⟩
      intro c hc
      by_cases hthread : i = thread
      · subst hthread
        dsimp only at hc
        rw [Function.update_self, Option.some.injEq] at hc
        rw [← hc]
        exact hfd
      · dsimp only at hc
        rw [Function.update_of_ne hthread] at hc
        exact hserved c hc
    · rw [step_start_again hstart]
      exact ⟨i, hfd, hi, hserved⟩

/-- Either every thread reads in time, or one is overtaken for good. -/
theorem matched_or_overtaken (connectionFd : Nat) (calls : List AcceptCall) :
    acceptLoop.EveryStep InTime (.init connectionFd) calls ∧
        (Matched (afterCalls connectionFd calls) ∧ Bounds (afterCalls connectionFd calls)) ∨
      Overtaken (afterCalls connectionFd calls) ∧ Bounds (afterCalls connectionFd calls) := by
  refine Machine.everyStep_or (I := fun s => Matched s ∧ Bounds s)
    (J := fun s => Overtaken s ∧ Bounds s) ?_ ?_ ?_ ⟨matched_init connectionFd, bounds_init connectionFd⟩ calls
  · intro s call hintime h
    exact ⟨matched_step hintime h.2 h.1, bounds_step h.2 call⟩
  · intro s call hlate h
    cases call with
    | accept => exact ⟨overtaken_accept hlate, bounds_step h.2 _⟩
    | start thread => exact absurd trivial hlate
  · intro s call h
    exact ⟨overtaken_step h.1, bounds_step h.2 call⟩

/-- If every connection has a thread, and no thread an older one, they match. -/
theorem served_own {s : Accepting} (hbounds : Bounds s)
    (h : ∀ c, c < s.accepted → ∃ i, s.served i = some c) :
    ∀ c, c < s.accepted → s.served c = some c := by
  intro c
  induction c using Nat.strongRecOn with
  | ind c ih =>
    intro hc
    rcases h c hc with ⟨i, hi⟩
    rcases Nat.lt_or_eq_of_le (hbounds.served i c hi).1 with hlt | rfl
    · -- an earlier thread has its own connection already
      have hown := ih i hlt (Nat.lt_trans hlt hc)
      rw [hi, Option.some.injEq] at hown
      omega
    · exact hi

/-- When all threads have read, every connection accepted is served by exactly one
of them if and only if no connection was accepted before the threads of the earlier
ones had read `connection_fd`. -/
theorem served_iff {connectionFd : Nat} {calls : List AcceptCall}
    (hread : ∀ i, i < (afterCalls connectionFd calls).accepted →
      (afterCalls connectionFd calls).served i ≠ none) :
    (∀ c, c < (afterCalls connectionFd calls).accepted →
        ∃! i, (afterCalls connectionFd calls).served i = some c) ↔
      acceptLoop.EveryStep InTime (.init connectionFd) calls := by
  have hbounds := bounds_run connectionFd calls
  constructor
  · intro hserved
    rcases matched_or_overtaken connectionFd calls with ⟨hintime, -⟩ | ⟨⟨i, -, hi, hpast⟩, -⟩
    · exact hintime
    · have hown := served_own hbounds (fun c hc => (hserved c hc).exists) i hi
      exact absurd (hpast i hown) (Nat.lt_irrefl i)
  · intro hintime
    have hmatched : Matched (afterCalls connectionFd calls) := by
      have hinv := hintime.run_induction (I := fun s => Matched s ∧ Bounds s)
        (fun s call hstep h => ⟨matched_step hstep h.2 h.1, bounds_step h.2 call⟩)
        ⟨matched_init connectionFd, bounds_init connectionFd⟩
      exact hinv.1
    intro c hc
    rcases Option.ne_none_iff_exists'.mp (hread c hc) with ⟨c', hc'⟩
    obtain rfl := hmatched.own c c' hc'
    exact ⟨_, hc', fun i hi => (hmatched.own i _ hi).symm⟩

/-- Two connections, the second accepted before the first thread has read. -/
theorem served_iff_late :
    let s := afterCalls 7 [.accept, .accept, .start 0, .start 1]
    (∀ c, c < s.accepted → ∃! i, s.served i = some c) ↔
      acceptLoop.EveryStep InTime (.init 7) [.accept, .accept, .start 0, .start 1] :=
  served_iff (by decide)

end GcToolKit.Net
