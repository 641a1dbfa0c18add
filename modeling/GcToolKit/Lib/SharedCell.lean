import Mathlib.Logic.Function.Basic
import GcToolKit.Lib.Run

/-!
# Parties that share a cell

Each party has a state of its own; all of them act on a world. What a party
leaves in a cell for a later call of its own may be gone by then, because the
cell is everybody's. A program with the cell is compared with one in which the
parties keep what they need to themselves.

* `shared_agrees` — the two programs agree while every party that acts finds its
  own content;
* `agreesThroughout_iff` — where another content shows in the world, they agree
  no further than that;
* `finds_of_undisturbed` — a party finds its own content if nobody changes the
  cell under it.
-/

namespace SharedCell

open Run

/-- One call of a party at a state. `Holds` says which contents of the cell are
the party's own. -/
structure Client (L α G : Type) where
  act : L → α → G → L × α × G
  Holds : L → α → Prop

variable {ι L α G : Type} (c : Client L α G) (own : L → G → L × G)

/-- A call leaves the content its party holds. -/
def Client.Keeps : Prop := ∀ l a g, c.Holds l a → c.Holds (c.act l a g).1 (c.act l a g).2.1

/-- With its own content in the cell a call does what `own` does without a cell. -/
def Client.Faithful : Prop :=
  ∀ l a g, c.Holds l a → (c.act l a g).1 = (own l g).1 ∧ (c.act l a g).2.2 = (own l g).2

/-- With another one it does something else to the world. -/
def Client.Sharp : Prop := ∀ l a g, ¬ c.Holds l a → (c.act l a g).2.2 ≠ (own l g).2

structure Shared (ι L α G : Type) where
  locals : ι → L
  cell : α
  world : G

structure Separate (ι L G : Type) where
  locals : ι → L
  world : G

variable [DecidableEq ι]

/-- The parties with one cell; the schedule says who calls next. -/
def shared : Machine (Shared ι L α G) ι Unit where
  step s i :=
    let (l, a, g) := c.act (s.locals i) s.cell s.world
    (⟨Function.update s.locals i l, a, g⟩, ())

/-- The parties with nothing but their states. -/
def separate : Machine (Separate ι L G) ι Unit where
  step s i :=
    let (l, g) := own (s.locals i) s.world
    (⟨Function.update s.locals i l, g⟩, ())

/-- What the parties have apart from the cell. -/
def Shared.separate (s : Shared ι L α G) : Separate ι L G := ⟨s.locals, s.world⟩

/-- The party that acts finds its own content. -/
def Finds (s : Shared ι L α G) (i : ι) : Prop := c.Holds (s.locals i) s.cell

/-- A call leaves the others the content they hold. -/
def Undisturbed (s : Shared ι L α G) (i : ι) : Prop :=
  ∀ j, j ≠ i → c.Holds (s.locals j) s.cell → c.Holds (s.locals j) ((shared c).step s i).1.cell

variable {c own}

theorem shared_step {s : Shared ι L α G} {i : ι} {next : L × α × G}
    (h : c.act (s.locals i) s.cell s.world = next) :
    ((shared c).step s i).1 = ⟨Function.update s.locals i next.1, next.2.1, next.2.2⟩ := by
  rw [← h]
  rfl

/-! ## Agreement -/

theorem separate_step (hfaithful : c.Faithful own) {s : Shared ι L α G} {i : ι} (h : Finds c s i) :
    ((shared c).step s i).1.separate = ((separate own).step s.separate i).1 := by
  rcases hfaithful _ _ s.world h with ⟨hlocal, hworld⟩
  unfold shared separate Shared.separate
  dsimp only
  rw [hlocal, hworld]

theorem shared_agrees (hfaithful : c.Faithful own) {s : Shared ι L α G} {schedule : List ι}
    (h : (shared c).EveryStep (Finds c) s schedule) :
    ((shared c).run s schedule).1.separate = ((separate own).run s.separate schedule).1 := by
  induction schedule using List.reverseRecOn with
  | nil => rfl
  | append_singleton schedule i ih =>
    rcases ((shared c).everyStep_snoc _ _ _ _).mp h with ⟨hbefore, hlast⟩
    rw [Machine.run_snoc, Machine.run_snoc]
    unfold Machine.extend
    rw [separate_step hfaithful hlast, ih hbefore]

/-- After every call the world is what it is for the separate parties. -/
def AgreesThroughout (c : Client L α G) (own : L → G → L × G) (s : Shared ι L α G)
    (schedule : List ι) : Prop :=
  ∀ before after, schedule = before ++ after →
    ((shared c).run s before).1.world = ((separate own).run s.separate before).1.world

theorem agreesThroughout_snoc (s : Shared ι L α G) (schedule : List ι) (i : ι) :
    AgreesThroughout c own s (schedule ++ [i]) ↔
      AgreesThroughout c own s schedule ∧
        ((shared c).run s (schedule ++ [i])).1.world =
          ((separate own).run s.separate (schedule ++ [i])).1.world := by
  constructor
  · intro h
    refine ⟨?_, h _ [] (List.append_nil _).symm⟩
    intro before after heq
    refine h before (after ++ [i]) ?_
    rw [heq, List.append_assoc]
  · rintro ⟨hbefore, hlast⟩ before after heq
    rcases List.eq_nil_or_concat after with rfl | ⟨after, j, rfl⟩
    · rw [List.append_nil] at heq
      rw [← heq]
      exact hlast
    · rw [List.concat_eq_append, ← List.append_assoc] at heq
      exact hbefore before after (List.append_inj' heq rfl).1

theorem agreesThroughout_iff (hfaithful : c.Faithful own) (hsharp : c.Sharp own) (s : Shared ι L α G)
    (schedule : List ι) :
    AgreesThroughout c own s schedule ↔ (shared c).EveryStep (Finds c) s schedule := by
  induction schedule using List.reverseRecOn with
  | nil =>
    refine iff_of_true ?_ ((shared c).everyStep_nil _ s)
    intro before after heq
    rw [(List.append_eq_nil_iff.mp heq.symm).1]
    rfl
  | append_singleton schedule i ih =>
    rw [agreesThroughout_snoc, Machine.everyStep_snoc, ih]
    refine and_congr_right ?_
    intro hbefore
    have hagree := shared_agrees hfaithful hbefore
    rw [Machine.run_snoc, Machine.run_snoc]
    unfold Machine.extend
    rw [← hagree]
    constructor
    · intro hworld
      by_contra hlost
      exact hsharp _ _ _ hlost hworld
    · intro hfinds
      exact congrArg Separate.world (separate_step hfaithful hfinds)

/-! ## Undisturbed parties -/

/-- Every party holds its content. -/
def AllHold (c : Client L α G) (s : Shared ι L α G) : Prop := ∀ j, c.Holds (s.locals j) s.cell

theorem allHold_step (hkeeps : c.Keeps) {s : Shared ι L α G} {i : ι} (h : Undisturbed c s i)
    (hs : AllHold c s) : AllHold c ((shared c).step s i).1 := by
  intro j
  by_cases hj : j = i
  · subst hj
    rw [shared_step rfl]
    dsimp only
    rw [Function.update_self]
    exact hkeeps _ _ _ (hs j)
  · have hother := h j hj (hs j)
    rw [shared_step rfl] at hother ⊢
    dsimp only at hother ⊢
    rw [Function.update_of_ne hj]
    exact hother

theorem finds_of_undisturbed (hkeeps : c.Keeps) {s : Shared ι L α G} {schedule : List ι}
    (h : (shared c).EveryStep (Undisturbed c) s schedule) (hs : AllHold c s) :
    (shared c).EveryStep (Finds c) s schedule := by
  induction schedule using List.reverseRecOn with
  | nil => exact (shared c).everyStep_nil _ s
  | append_singleton schedule i ih =>
    rw [Machine.everyStep_snoc] at h ⊢
    refine ⟨ih h.1, ?_⟩
    exact h.1.run_induction (fun _ _ => allHold_step hkeeps) hs i

end SharedCell
