import Mathlib.Tactic.Common

/-!
# A value that is kept

A program has a value in memory and keeps one behind it, where the next start looks. What
is kept is one whole value or none: a save replaces it or leaves it as it is, and a start
takes it, or begins with the initial value.

* `Step` — what each kind of step may do;
* `Step.holds` — a property of the values that the edits respect is one of all of them.
-/

namespace KeptValue

variable {V : Type}

structure Store (V : Type) where
  memory : V
  kept : Option V

inductive Kind where
  | start
  | edit
  | save

inductive Step (initial : V) : Kind → Store V → Store V → Prop where
  | found {v kept} (h : kept = some v) (s : Store V) (hs : s.kept = kept) :
      Step initial .start s ⟨v, kept⟩
  /-- The initial value may be kept at once. -/
  | begun (s : Store V) {kept} (h : kept = s.kept ∨ kept = some initial) :
      Step initial .start s ⟨initial, kept⟩
  | edited (s : Store V) (v : V) : Step initial .edit s ⟨v, s.kept⟩
  | saved (s : Store V) : Step initial .save s ⟨s.memory, some s.memory⟩
  | notSaved (s : Store V) : Step initial .save s s

/-- A property of both values. -/
structure Holds (P : V → Prop) (s : Store V) : Prop where
  memory : P s.memory
  kept : ∀ v, s.kept = some v → P v

theorem Step.holds {P : V → Prop} {initial : V} {kind : Kind} {s s' : Store V}
    (h : Step initial kind s s') (hinitial : P initial) (hs : Holds P s)
    (hedit : kind = .edit → P s'.memory) : Holds P s' := by
  cases h with
  | found hkept s hs' =>
    subst hkept
    refine ⟨hs.kept _ hs', ?_⟩
    rintro v ⟨⟩
    exact hs.kept _ hs'
  | begun s hkept =>
    refine ⟨hinitial, ?_⟩
    intro v hv
    rcases hkept with rfl | rfl
    · exact hs.kept v hv
    · cases hv
      exact hinitial
  | edited s v => exact ⟨hedit rfl, hs.kept⟩
  | saved s =>
    refine ⟨hs.memory, ?_⟩
    rintro v ⟨⟩
    exact hs.memory
  | notSaved s => exact hs

end KeptValue
