import Mathlib.Data.List.TakeDrop
import Mathlib.Logic.Function.Basic
import Mathlib.Tactic.Common

/-!
# Trees of paths

A path is a list in which some elements separate its components, and some end the
root it starts with; its parent is what stands before the last separator behind the
root, or the root. A tree says which paths exist, and a directory is made in one
that exists.

* `parent?_cut` — the parent as a prefix;
* `closed_mkdir` — a tree in which parents exist stays one;
* `root_of_closed` — in such a tree the root of every path exists;
* `mkdir_root` — no directory is made without a root.
-/

namespace PathTree

variable {α : Type} (sep stop : α → Bool)

/-- The root: up to an element that ends it, or to what stands before the first
separator. -/
def root : List α → List α
  | [] => []
  | b :: p => if sep b then [] else if stop b then [b] else b :: root p

/-- What stands before the last separator, if there is one. -/
def beforeLast : List α → List α
  | [] => []
  | b :: p => if p.any sep then b :: beforeLast p else []

/-- A root has no parent. -/
def parent? (p : List α) : Option (List α) :=
  let front := root sep stop p
  if front.length < p.length then some (front ++ beforeLast sep (p.drop front.length)) else none

variable {sep stop} {p q : List α}

/-! ## The root -/

theorem root_eq_take (p : List α) : root sep stop p = p.take (root sep stop p).length := by
  induction p with
  | nil => rfl
  | cons b p ih =>
    unfold root
    split
    · rfl
    · split
      · rfl
      · rw [List.length_cons, List.take_succ_cons, ← ih]

/-- There is no separator in the root. -/
theorem length_root_le {i : Nat} {b : α} (hi : p[i]? = some b) (hb : sep b = true) :
    (root sep stop p).length ≤ i := by
  induction p generalizing i with
  | nil => exact Nat.zero_le i
  | cons c p ih =>
    unfold root
    split
    · exact Nat.zero_le i
    · next hc =>
      cases i with
      | zero =>
        cases hi
        exact absurd hb hc
      | succ i =>
        split
        · exact Nat.le_add_left 1 i
        · exact Nat.succ_le_succ (ih hi)

/-- Of a prefix that holds it, the root is the same. -/
theorem root_take {i : Nat} (hi : (root sep stop p).length ≤ i) :
    root sep stop (p.take i) = root sep stop p := by
  induction p generalizing i with
  | nil => rw [List.take_nil]
  | cons b p ih =>
    unfold root at hi
    cases i with
    | zero =>
      rw [List.take_zero]
      unfold root
      split at hi
      · next hb => rw [if_pos hb]
      · split at hi <;> cases hi
    | succ i =>
      rw [List.take_succ_cons]
      unfold root
      split at hi
      · next hb => rw [if_pos hb, if_pos hb]
      · next hb =>
        rw [if_neg hb, if_neg hb]
        split at hi
        · next hend => rw [if_pos hend, if_pos hend]
        · next hend => rw [if_neg hend, if_neg hend, ih (Nat.le_of_succ_le_succ hi)]

theorem root_root (p : List α) : root sep stop (root sep stop p) = root sep stop p := by
  conv_lhs => rw [root_eq_take p]
  exact root_take (Nat.le_refl _)

/-! ## The parent -/

/-- It ends where the last separator stands. -/
theorem beforeLast_index (p : List α) :
    ∃ j, beforeLast sep p = p.take j ∧ (p ≠ [] → j < p.length) ∧
      (j = 0 ∨ ∃ b, p[j]? = some b ∧ sep b = true) ∧
      ∀ i b, p[i]? = some b → sep b = true → i ≤ j := by
  induction p with
  | nil => exact ⟨0, rfl, fun h => absurd rfl h, Or.inl rfl, nofun⟩
  | cons b p ih =>
    rcases ih with ⟨j, hfront, hlt, hends, hlast⟩
    unfold beforeLast
    by_cases hany : p.any sep = true
    · rcases List.any_eq_true.mp hany with ⟨c, hmem, hc⟩
      have hj : ∃ b, p[j]? = some b ∧ sep b = true := by
        rcases hends with rfl | hends
        · -- the last separator of the rest is its first element
          rcases List.getElem?_of_mem hmem with ⟨i, hi⟩
          obtain rfl : i = 0 := Nat.le_zero.mp (hlast i c hi hc)
          exact ⟨c, hi, hc⟩
        · exact hends
      refine ⟨j + 1, ?_, fun _ => Nat.succ_lt_succ (hlt (List.ne_nil_of_mem hmem)), Or.inr hj, ?_⟩
      · rw [if_pos hany, hfront, List.take_succ_cons]
      · intro i c hi hc
        cases i with
        | zero => exact Nat.zero_le _
        | succ i => exact Nat.succ_le_succ (hlast i c hi hc)
    · refine ⟨0, if_neg hany, fun _ => Nat.succ_pos _, Or.inl rfl, ?_⟩
      intro i c hi hc
      cases i with
      | zero => exact Nat.le_refl 0
      | succ i =>
        have hmem : c ∈ p := List.mem_of_getElem? hi
        exact absurd (List.any_eq_true.mpr ⟨c, hmem, hc⟩) hany

theorem parent?_eq_none (h : parent? sep stop p = none) : root sep stop p = p := by
  unfold parent? at h
  dsimp only at h
  split at h
  · cases h
  · next hle =>
    rw [root_eq_take]
    exact List.take_of_length_le (Nat.le_of_not_lt hle)

/-- A path that is more than its root has a parent. -/
theorem parent?_isSome (h : (root sep stop p).length < p.length) :
    ∃ q, parent? sep stop p = some q :=
  ⟨_, if_pos h⟩

/-- Where the parent ends: at the last separator, if one stands behind the root. -/
structure Cut (sep stop : α → Bool) (p : List α) (j : Nat) : Prop where
  behind : (root sep stop p).length ≤ j
  inside : j < p.length
  ends : j = (root sep stop p).length ∨ ∃ b, p[j]? = some b ∧ sep b = true
  last : ∀ i b, p[i]? = some b → sep b = true → i ≤ j

theorem parent?_cut (h : parent? sep stop p = some q) : ∃ j, Cut sep stop p j ∧ q = p.take j := by
  unfold parent? at h
  dsimp only at h
  split at h
  · next hlt =>
    rcases @beforeLast_index α sep (p.drop (root sep stop p).length) with
      ⟨j, hfront, hj, hends, hlast⟩
    have hrest := hj (by
      rw [Ne, List.drop_eq_nil_iff]
      omega)
    rw [List.length_drop] at hrest
    refine ⟨(root sep stop p).length + j, ⟨Nat.le_add_right .., by omega, ?_, ?_⟩, ?_⟩
    · rw [List.getElem?_drop] at hends
      exact hends.imp (fun hj => by rw [hj, Nat.add_zero]) id
    · intro i b hi hb
      have hbehind := @length_root_le α sep stop p i b hi hb
      have hle := hlast (i - (root sep stop p).length) b (by
        rw [List.getElem?_drop, Nat.add_sub_cancel' hbehind]
        exact hi) hb
      omega
    · rw [← Option.some.inj h, hfront, List.take_add, ← root_eq_take]
  · cases h

theorem length_parent_lt (h : parent? sep stop p = some q) : q.length < p.length := by
  rcases parent?_cut h with ⟨j, hcut, rfl⟩
  have hinside := hcut.inside
  rw [List.length_take]
  omega

/-- The parent of a path begins as the path does. -/
theorem root_parent (h : parent? sep stop p = some q) : root sep stop q = root sep stop p := by
  rcases parent?_cut h with ⟨j, hcut, rfl⟩
  exact root_take hcut.behind

theorem parent?_root (p : List α) : parent? sep stop (root sep stop p) = none := by
  unfold parent?
  rw [root_root]
  exact if_neg (Nat.lt_irrefl _)

/-- Behind the root, a prefix has a parent that is a prefix. -/
theorem parent?_take {i : Nat} (hroot : (root sep stop p).length < i) (hi : i ≤ p.length) :
    ∃ j, j < i ∧ Cut sep stop (p.take i) j ∧ parent? sep stop (p.take i) = some (p.take j) := by
  have hlen : (p.take i).length = i := List.length_take_of_le hi
  have hlt : (root sep stop (p.take i)).length < (p.take i).length := by
    rw [root_take (Nat.le_of_lt hroot), hlen]
    exact hroot
  rcases parent?_isSome hlt with ⟨q, hq⟩
  rcases parent?_cut hq with ⟨j, hcut, rfl⟩
  have hji : j < i := Nat.lt_of_lt_of_eq hcut.inside hlen
  refine ⟨j, hji, hcut, ?_⟩
  rw [hq, List.take_take, Nat.min_eq_left (Nat.le_of_lt hji)]

/-! ## Trees -/

abbrev DirTree (α : Type) := List α → Bool

/-- The parent of what exists exists. -/
def Closed (sep stop : α → Bool) (t : DirTree α) : Prop :=
  ∀ p q, t p = true → parent? sep stop p = some q → t q = true

/-- The parent exists. -/
def HasParent (sep stop : α → Bool) (t : DirTree α) (p : List α) : Prop :=
  ∃ q, parent? sep stop p = some q ∧ t q = true

instance (sep stop : α → Bool) (t : DirTree α) (p : List α) : Decidable (HasParent sep stop t p) :=
  decidable_of_iff (((parent? sep stop p).any t) = true) (by
    unfold HasParent
    cases parent? sep stop p with
    | none => exact ⟨nofun, nofun⟩
    | some q => exact ⟨fun h => ⟨q, rfl, h⟩, fun ⟨_, h, ht⟩ => by cases h; exact ht⟩)

theorem root_of_closed {t : DirTree α} (h : Closed sep stop t) {p : List α} (hp : t p = true) :
    t (root sep stop p) = true := by
  induction hn : p.length using Nat.strongRecOn generalizing p with
  | ind n ih =>
    cases hparent : parent? sep stop p with
    | none =>
      rw [parent?_eq_none hparent]
      exact hp
    | some q =>
      subst hn
      rw [← root_parent hparent]
      exact ih q.length (length_parent_lt hparent) (h p q hp hparent) rfl

/-- What stands before any separator of a path that exists does so too. -/
theorem closed_take {t : DirTree α} (h : Closed sep stop t) {p : List α} (hp : t p = true) {i : Nat}
    {b : α} (hi : p[i]? = some b) (hb : sep b = true) : t (p.take i) = true := by
  induction hn : p.length using Nat.strongRecOn generalizing p with
  | ind n ih =>
    have hlt : (root sep stop p).length < p.length :=
      Nat.lt_of_le_of_lt (length_root_le hi hb) (List.getElem?_eq_some_iff.mp hi).1
    rcases parent?_isSome hlt with ⟨q, hparent⟩
    have hq := h p q hp hparent
    have hlen := length_parent_lt hparent
    rcases parent?_cut hparent with ⟨j, hcut, rfl⟩
    rcases Nat.lt_or_eq_of_le (hcut.last i b hi hb) with hlt | rfl
    · subst hn
      have hrest := ih (p.take j).length hlen hq
        (by rw [List.getElem?_take_of_lt hlt]; exact hi) rfl
      rw [List.take_take, Nat.min_eq_left (Nat.le_of_lt hlt)] at hrest
      exact hrest
    · exact hq

variable [DecidableEq α]

/-- Nothing happens where it is not allowed, or without a parent. -/
def mkdir (sep stop : α → Bool) (allowed : List α → Bool) (p : List α) (t : DirTree α) :
    DirTree α :=
  if allowed p ∧ HasParent sep stop t p then Function.update t p true else t

variable {allowed : List α → Bool} {t : DirTree α}

theorem mkdir_makes (hallowed : allowed p) (hparent : HasParent sep stop t p) :
    mkdir sep stop allowed p t p = true := by
  unfold mkdir
  rw [if_pos ⟨hallowed, hparent⟩]
  exact Function.update_self ..

theorem mkdir_keeps (p : List α) (h : t q = true) : mkdir sep stop allowed p t q = true := by
  unfold mkdir
  split
  · by_cases hq : q = p
    · rw [hq]
      exact Function.update_self ..
    · rw [Function.update_of_ne hq]
      exact h
  · exact h

/-- What is new is the directory, and it has a parent. -/
theorem mkdir_new (h : mkdir sep stop allowed p t q = true) :
    t q = true ∨ q = p ∧ HasParent sep stop t p := by
  unfold mkdir at h
  split at h
  · next hmade =>
    by_cases hq : q = p
    · exact Or.inr ⟨hq, hmade.2⟩
    · rw [Function.update_of_ne hq] at h
      exact Or.inl h
  · exact Or.inl h

theorem closed_mkdir (h : Closed sep stop t) (p : List α) :
    Closed sep stop (mkdir sep stop allowed p t) := by
  intro r q hr hparent
  rcases mkdir_new hr with hold | ⟨rfl, q', hparent', hq'⟩
  · exact mkdir_keeps p (h r q hold hparent)
  · rw [hparent] at hparent'
    cases hparent'
    exact mkdir_keeps _ hq'

/-- A root is there before, or not at all. -/
theorem mkdir_root (p q : List α) :
    mkdir sep stop allowed p t (root sep stop q) = t (root sep stop q) := by
  cases hbefore : t (root sep stop q) with
  | true => exact mkdir_keeps p hbefore
  | false =>
    cases hafter : mkdir sep stop allowed p t (root sep stop q) with
    | false => rfl
    | true =>
      rcases mkdir_new hafter with hold | ⟨rfl, q', hparent, -⟩
      · rw [hbefore] at hold
        cases hold
      · rw [parent?_root] at hparent
        cases hparent

end PathTree
