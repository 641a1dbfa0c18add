import GcToolKit.Lib.Run

/-!
# The power lock (app/lock.c)

While a card is dumped, restored or wiped, a thread of its own keeps ticking the
power, so that the console does not fall asleep. The thread sets `disable_power`
itself, by its first statement, and goes on until it finds the flag clear.
`unlock_power` clears it, and need not come after that statement.

* `ticks_while_locked` — until the next `unlock_power` a started thread does not
  return, and the power is ticked in every second step it takes;
* `released_iff` — after an `unlock_power` all threads end exactly if each of them
  has set the flag before it.
-/

namespace GcToolKit.App

open Run

/-- Where a `power_tick_thread` is. -/
inductive TickThread where
  /-- It has been started and has not set the flag. -/
  | started
  /-- The condition of the loop is next. -/
  | testing
  /-- The body of the loop is next. -/
  | ticking
  | returned
  deriving DecidableEq

/-- `disable_power`, the threads in the order they were started, and how often the
power has been ticked. -/
structure PowerLock where
  disablePower : UInt8
  threads : List TickThread
  ticks : Nat

/-- The next step of `power_tick_thread`. Its body ends with a call that deletes the
thread numbered 1000000, and there is none. -/
def powerTickThread (thread : TickThread) (disablePower : UInt8) (ticks : Nat) :
    TickThread × UInt8 × Nat :=
  match thread with
  | .started => (.testing, 1, ticks)
  | .testing => (if disablePower ≠ 0 then .ticking else .returned, disablePower, ticks)
  | .ticking => (.testing, disablePower, ticks + 1)
  | .returned => (.returned, disablePower, ticks)

def unlockPower (s : PowerLock) : PowerLock := { s with disablePower := 0 }

/-- `threadId` and `startResult` are what `sceKernelCreateThread` and
`sceKernelStartThread` return. -/
def lockPower (threadId startResult : Int) (s : PowerLock) : PowerLock × Int :=
  if threadId < 0 then (s, threadId)
  else if startResult < 0 then (s, startResult)
  else ({ s with threads := s.threads ++ [.started] }, startResult)

inductive PowerCall where
  | lockPower (threadId startResult : Int)
  | unlockPower
  /-- One of the threads takes a step. -/
  | tick (thread : Nat)

def PowerLock.step (s : PowerLock) (i : Nat) : PowerLock :=
  match s.threads[i]? with
  | none => s
  | some thread =>
    let r := powerTickThread thread s.disablePower s.ticks
    ⟨r.2.1, s.threads.set i r.1, r.2.2⟩

def powerLock : Machine PowerLock PowerCall (Option Int) where
  step s
    | .lockPower threadId startResult =>
      let r := lockPower threadId startResult s
      (r.1, some r.2)
    | .unlockPower => (unlockPower s, none)
    | .tick i => (s.step i, none)

/-- The lock after these calls of the program and steps of its threads. -/
def afterPowerCalls (calls : List PowerCall) : PowerLock :=
  (powerLock.run ⟨0, [], 0⟩ calls).1

theorem afterPowerCalls_append (before after : List PowerCall) :
    afterPowerCalls (before ++ after) = (powerLock.run (afterPowerCalls before) after).1 :=
  powerLock.run_append _ before after

/-! ## One step -/

section Step

variable {s : PowerLock} {i j : Nat} {thread : TickThread}

theorem PowerLock.step_some (h : s.threads[i]? = some thread) :
    s.step i = ⟨(powerTickThread thread s.disablePower s.ticks).2.1,
      s.threads.set i (powerTickThread thread s.disablePower s.ticks).1,
      (powerTickThread thread s.disablePower s.ticks).2.2⟩ := by
  unfold PowerLock.step
  rw [h]

theorem PowerLock.step_none (h : s.threads[i]? = none) : s.step i = s := by
  unfold PowerLock.step
  rw [h]

@[simp] theorem PowerLock.length_step : (s.step i).threads.length = s.threads.length := by
  cases h : s.threads[i]? with
  | none => rw [step_none h]
  | some thread => rw [step_some h, List.length_set]

/-- A thread moves no other one. -/
theorem PowerLock.getElem?_step_ne (hij : i ≠ j) : (s.step i).threads[j]? = s.threads[j]? := by
  cases h : s.threads[i]? with
  | none => rw [step_none h]
  | some thread => rw [step_some h, List.getElem?_set_ne hij]

theorem PowerLock.getElem?_step_self (h : s.threads[i]? = some thread) :
    (s.step i).threads[i]? = some (powerTickThread thread s.disablePower s.ticks).1 := by
  rw [step_some h]
  exact List.getElem?_set_self (List.getElem?_eq_some_iff.mp h).1

/-- Only `unlock_power` clears the flag. -/
theorem PowerLock.disablePower_step (h : s.disablePower = 1) : (s.step i).disablePower = 1 := by
  cases hthread : s.threads[i]? with
  | none => rw [step_none hthread, h]
  | some thread =>
    rw [step_some hthread]
    cases thread with
    | started => rfl
    | _ => exact h

/-- A power tick is not taken back. -/
theorem PowerLock.le_ticks_step : s.ticks ≤ (s.step i).ticks := by
  cases hthread : s.threads[i]? with
  | none => exact Nat.le_of_eq (congrArg PowerLock.ticks (step_none hthread)).symm
  | some thread =>
    rw [step_some hthread]
    cases thread with
    | ticking => exact Nat.le_succ _
    | _ => exact Nat.le_refl _

/-- `lock_power` starts one more thread, or nothing changes. -/
theorem lockPower_cases (s : PowerLock) (threadId startResult : Int) :
    (lockPower threadId startResult s).1 = s ∨
      (lockPower threadId startResult s).1 = { s with threads := s.threads ++ [.started] } := by
  unfold lockPower
  split
  · exact Or.inl rfl
  · split
    · exact Or.inl rfl
    · exact Or.inr rfl

theorem lockPower_starts {threadId startResult : Int} (hcreated : 0 ≤ threadId)
    (hstarted : 0 ≤ startResult) :
    (lockPower threadId startResult s).1 = { s with threads := s.threads ++ [.started] } := by
  unfold lockPower
  rw [if_neg (Int.not_lt.mpr hcreated), if_neg (Int.not_lt.mpr hstarted)]

end Step

/-! ## A locked console stays awake -/

/-- Where a thread is after `taken` steps that all found the flag set. -/
def TickThread.awake : Nat → TickThread
  | 0 => .started
  | taken + 1 => if taken % 2 = 0 then .testing else .ticking

theorem TickThread.awake_testing {taken : Nat} (h : taken % 2 = 0) :
    awake (taken + 1) = .testing :=
  if_pos h

theorem TickThread.awake_ticking {taken : Nat} (h : taken % 2 = 1) :
    awake (taken + 1) = .ticking :=
  if_neg (by omega)

theorem TickThread.awake_ne_returned (taken : Nat) : awake taken ≠ .returned := by
  cases taken with
  | zero => decide
  | succ taken =>
    rcases Nat.mod_two_eq_zero_or_one taken with hmod | hmod
    · rw [awake_testing hmod]
      decide
    · rw [awake_ticking hmod]
      decide

/-- Thread `i` has taken `taken` steps, and `unlock_power` has not come in between;
`ticks` is how often the power was ticked before. -/
structure Awake (i taken ticks : Nat) (s : PowerLock) : Prop where
  thread : s.threads[i]? = some (.awake taken)
  flag : 0 < taken → s.disablePower = 1
  ticked : ticks + (taken - 1) / 2 ≤ s.ticks

/-- The thread's own step. -/
theorem Awake.step_self {i taken ticks : Nat} {s : PowerLock} (h : Awake i taken ticks s) :
    Awake i (taken + 1) ticks (s.step i) := by
  have hnext := PowerLock.getElem?_step_self h.thread
  have hle := h.ticked
  cases taken with
  | zero =>
    refine ⟨hnext, fun _ => ?_, ?_⟩
    · rw [PowerLock.step_some h.thread]
      rfl
    · rw [PowerLock.step_some h.thread]
      exact hle
  | succ taken =>
    have hflag := h.flag (Nat.succ_pos taken)
    have hthread := h.thread
    rcases Nat.mod_two_eq_zero_or_one taken with hmod | hmod
    · -- it tests the flag
      rw [TickThread.awake_testing hmod] at hthread hnext
      refine ⟨?_, fun _ => PowerLock.disablePower_step hflag, ?_⟩
      · rw [hnext, TickThread.awake_ticking (by omega), hflag]
        rfl
      · rw [PowerLock.step_some hthread]
        show _ ≤ s.ticks
        omega
    · -- it ticks the power
      rw [TickThread.awake_ticking hmod] at hthread hnext
      refine ⟨?_, fun _ => PowerLock.disablePower_step hflag, ?_⟩
      · rw [hnext, TickThread.awake_testing (by omega)]
        rfl
      · rw [PowerLock.step_some hthread]
        show _ ≤ s.ticks + 1
        omega

/-- A step of another thread. -/
theorem Awake.step_ne {i j taken ticks : Nat} {s : PowerLock} (h : Awake i taken ticks s)
    (hji : j ≠ i) : Awake i taken ticks (s.step j) where
  thread := (PowerLock.getElem?_step_ne hji).trans h.thread
  flag hpos := PowerLock.disablePower_step (h.flag hpos)
  ticked := Nat.le_trans h.ticked PowerLock.le_ticks_step

theorem Awake.after_lockPower {i taken ticks : Nat} {s : PowerLock} (h : Awake i taken ticks s)
    (threadId startResult : Int) : Awake i taken ticks (lockPower threadId startResult s).1 := by
  rcases lockPower_cases s threadId startResult with heq | heq
  · rw [heq]
    exact h
  · rw [heq]
    -- the new thread comes after those there are
    have hlt := (List.getElem?_eq_some_iff.mp h.thread).1
    exact ⟨(List.getElem?_append_left hlt).trans h.thread, h.flag, h.ticked⟩

/-- The steps of thread `i` among the calls. -/
def PowerCall.ofThread (i : Nat) : PowerCall → Bool
  | .tick j => j == i
  | _ => false

def PowerCall.isUnlock : PowerCall → Bool
  | .unlockPower => true
  | _ => false

theorem Awake.run {i ticks : Nat} {s : PowerLock} (h : Awake i 0 ticks s) {calls : List PowerCall}
    (hlocked : ∀ call ∈ calls, call.isUnlock = false) :
    Awake i (calls.countP (PowerCall.ofThread i)) ticks (powerLock.run s calls).1 := by
  induction calls using List.reverseRecOn with
  | nil => exact h
  | append_singleton calls call ih =>
    have hbefore := ih fun c hc => hlocked c (List.mem_append_left _ hc)
    rw [Machine.run_snoc, List.countP_append, List.countP_singleton]
    cases call with
    | lockPower threadId startResult => exact hbefore.after_lockPower threadId startResult
    | unlockPower => cases hlocked _ (List.mem_append_right _ (List.mem_singleton_self _))
    | tick j =>
      by_cases hji : j = i
      · subst hji
        have hself : PowerCall.ofThread j (.tick j) = true := beq_self_eq_true j
        rw [if_pos hself]
        exact hbefore.step_self
      · have hother : ¬ PowerCall.ofThread i (.tick j) = true := by
          intro heq
          exact hji (beq_iff_eq.mp heq)
        rw [if_neg hother]
        exact hbefore.step_ne hji

/-- Whatever came before: from a `lock_power` that starts its thread to the next
`unlock_power`, whatever other threads do meanwhile, the thread does not return, and
the power is ticked at least once for every two steps it takes after its first. -/
theorem ticks_while_locked (before : List PowerCall) {threadId startResult : Int}
    (hcreated : 0 ≤ threadId) (hstarted : 0 ≤ startResult) {during : List PowerCall}
    (hlocked : ∀ call ∈ during, call.isUnlock = false) :
    let i := (afterPowerCalls before).threads.length
    let s := afterPowerCalls (before ++ .lockPower threadId startResult :: during)
    (∃ thread, s.threads[i]? = some thread ∧ thread ≠ .returned) ∧
      (afterPowerCalls before).ticks + (during.countP (PowerCall.ofThread i) - 1) / 2 ≤ s.ticks := by
  have hfirst : Awake (afterPowerCalls before).threads.length 0 (afterPowerCalls before).ticks
      (lockPower threadId startResult (afterPowerCalls before)).1 := by
    rw [lockPower_starts hcreated hstarted]
    exact ⟨List.getElem?_concat_length, nofun, Nat.le_refl _⟩
  have hrun := hfirst.run hlocked
  dsimp only
  rw [afterPowerCalls_append, Machine.run_cons]
  exact ⟨⟨_, hrun.thread, TickThread.awake_ne_returned _⟩, hrun.ticked⟩

theorem ticks_while_locked_threeSteps :
    let s := afterPowerCalls [.lockPower 0x40010003 0, .tick 0, .tick 0, .tick 0]
    (∃ thread, s.threads[0]? = some thread ∧ thread ≠ .returned) ∧ 1 ≤ s.ticks :=
  ticks_while_locked [] (by decide) (by decide) (by decide)

/-! ## An unlocked console -/

/-- How many steps a thread still takes when the flag is clear. -/
def TickThread.left : TickThread → Nat
  | .started => 0
  | .testing => 1
  | .ticking => 2
  | .returned => 0

theorem TickThread.left_le (thread : TickThread) : thread.left ≤ 2 := by
  cases thread <;> decide

/-- With the flag clear every thread comes one step closer to its end. -/
theorem powerTickThread_clear {thread : TickThread} (h : thread ≠ .started) (ticks : Nat) :
    (powerTickThread thread 0 ticks).1 ≠ .started ∧
      (powerTickThread thread 0 ticks).1.left = thread.left - 1 ∧
      (powerTickThread thread 0 ticks).2.1 = 0 := by
  cases thread with
  | started => exact absurd rfl h
  | testing => exact ⟨nofun, rfl, rfl⟩
  | ticking => exact ⟨nofun, rfl, rfl⟩
  | returned => exact ⟨nofun, rfl, rfl⟩

/-- The flag is clear for good; thread `i` has taken `taken i` steps since. -/
structure Released (taken : Nat → Nat) (s : PowerLock) : Prop where
  flag : s.disablePower = 0
  begun : ∀ (i : Nat) thread, s.threads[i]? = some thread → thread ≠ TickThread.started
  left : ∀ (i : Nat) (thread : TickThread), s.threads[i]? = some thread → thread.left ≤ 2 - taken i

theorem Released.step {taken taken' : Nat → Nat} {s : PowerLock} (h : Released taken s) {i : Nat}
    (hself : taken' i = taken i + 1) (hne : ∀ j, i ≠ j → taken' j = taken j) :
    Released taken' (s.step i) := by
  cases hthread : s.threads[i]? with
  | none =>
    rw [PowerLock.step_none hthread]
    refine ⟨h.flag, h.begun, ?_⟩
    intro j thread hj
    have hij : i ≠ j := by
      rintro rfl
      rw [hthread] at hj
      cases hj
    rw [hne j hij]
    exact h.left j thread hj
  | some thread =>
    have hnext := PowerLock.getElem?_step_self hthread
    rw [h.flag] at hnext
    rcases powerTickThread_clear (h.begun i thread hthread) s.ticks with ⟨hbegun, hleft, hflag⟩
    constructor
    · rw [PowerLock.step_some hthread, h.flag]
      exact hflag
    · intro j thread' hj
      by_cases hij : i = j
      · subst hij
        rw [hnext, Option.some.injEq] at hj
        rw [← hj]
        exact hbegun
      · rw [PowerLock.getElem?_step_ne hij] at hj
        exact h.begun j thread' hj
    · intro j thread' hj
      by_cases hij : i = j
      · subst hij
        have hle := h.left i thread hthread
        rw [hnext, Option.some.injEq] at hj
        rw [← hj, hleft, hself]
        omega
      · rw [PowerLock.getElem?_step_ne hij] at hj
        rw [hne j hij]
        exact h.left j thread' hj

/-- Only the threads go on, each step by the one that is named. -/
theorem released_run {s : PowerLock} (h : Released (fun _ => 0) s) (steps : List Nat) :
    Released (fun i => steps.count i) (powerLock.run s (steps.map .tick)).1 := by
  induction steps using List.reverseRecOn with
  | nil => exact h
  | append_singleton steps i ih =>
    rw [List.map_append, List.map_singleton, Machine.run_snoc]
    refine ih.step ?_ ?_
    · rw [List.count_append, List.count_singleton_self]
    · intro j hij
      rw [List.count_append, List.count_singleton, if_neg (by simpa using hij), Nat.add_zero]

theorem length_run_tick (s : PowerLock) (steps : List Nat) :
    (powerLock.run s (steps.map .tick)).1.threads.length = s.threads.length := by
  induction steps using List.reverseRecOn with
  | nil => rfl
  | append_singleton steps i ih =>
    rw [List.map_append, List.map_singleton, Machine.run_snoc]
    exact PowerLock.length_step.trans ih

/-- A thread that has not begun sets the flag again, and nothing clears it then. -/
theorem not_returned_of_started {s : PowerLock} {i : Nat}
    (h : s.threads[i]? = some TickThread.started) (steps : List Nat) :
    ∃ thread, (powerLock.run s (steps.map .tick)).1.threads[i]? = some thread ∧
      thread ≠ TickThread.returned := by
  have hfirst : Awake i 0 s.ticks s := ⟨h, nofun, Nat.le_refl _⟩
  have hlocked : ∀ call ∈ steps.map PowerCall.tick, call.isUnlock = false := by
    intro call hcall
    rcases List.mem_map.mp hcall with ⟨j, -, rfl⟩
    rfl
  exact ⟨_, (hfirst.run hlocked).thread, TickThread.awake_ne_returned _⟩

/-- Whatever came before, and in whatever order the threads go on after an
`unlock_power`, as long as each takes two steps: all of them end if and only if each
had set the flag when it came. -/
theorem released_iff (before : List PowerCall) (steps : List Nat)
    (hfair : ∀ i, i < (afterPowerCalls before).threads.length → 2 ≤ steps.count i) :
    (∀ thread ∈ (afterPowerCalls (before ++ .unlockPower :: steps.map .tick)).threads,
        thread = .returned) ↔
      ∀ thread ∈ (afterPowerCalls before).threads, thread ≠ .started := by
  rw [afterPowerCalls_append, Machine.run_cons]
  constructor
  · intro hall thread hthread hstarted
    -- it sets the flag again, and goes on
    subst hstarted
    rcases List.getElem?_of_mem hthread with ⟨i, hi⟩
    rcases not_returned_of_started (s := unlockPower (afterPowerCalls before)) hi steps with
      ⟨thread, hlast, hgoing⟩
    exact hgoing (hall thread (List.mem_of_getElem? hlast))
  · intro hbegun thread hthread
    have hreleased : Released (fun _ => 0) (unlockPower (afterPowerCalls before)) := by
      refine ⟨rfl, ?_, fun _ thread _ => thread.left_le⟩
      intro i thread hi
      exact hbegun thread (List.mem_of_getElem? hi)
    have hrun := released_run hreleased steps
    rcases List.getElem?_of_mem hthread with ⟨i, hi⟩
    have hlt : i < (afterPowerCalls before).threads.length := by
      have hlast := (List.getElem?_eq_some_iff.mp hi).1
      rw [show (powerLock.step (afterPowerCalls before) .unlockPower).1 =
        unlockPower (afterPowerCalls before) from rfl, length_run_tick] at hlast
      exact hlast
    -- two steps are enough wherever it was
    have hleft := hrun.left i thread hi
    have hstarted := hrun.begun i thread hi
    have htwo := hfair i hlt
    cases thread with
    | started => exact absurd rfl hstarted
    | testing =>
      change 1 ≤ 2 - steps.count i at hleft
      omega
    | ticking =>
      change 2 ≤ 2 - steps.count i at hleft
      omega
    | returned => rfl

/-- An operation that is over before its thread has set the flag. -/
theorem released_iff_unbegun :
    let before : List PowerCall := [.lockPower 0x40010003 0]
    (∀ thread ∈ (afterPowerCalls (before ++ [.unlockPower, .tick 0, .tick 0])).threads,
        thread = .returned) ↔
      ∀ thread ∈ (afterPowerCalls before).threads, thread ≠ .started :=
  released_iff [.lockPower 0x40010003 0] [0, 0] (by decide)

end GcToolKit.App
