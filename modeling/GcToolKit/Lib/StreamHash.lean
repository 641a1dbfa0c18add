import Mathlib.Tactic.Common

/-!
# Hash functions fed in pieces

A `StreamHash` takes its message through a context, piece by piece. Feeding two
pieces is feeding their concatenation, so only the message counts for the
digest, not how it was cut.
-/

/-- `κ` is the context, `δ` the digest. -/
structure StreamHash (κ δ : Type) where
  init : κ
  update : κ → List UInt8 → κ
  final : κ → δ
  update_nil : ∀ ctx, update ctx [] = ctx
  update_append : ∀ ctx a b, update ctx (a ++ b) = update (update ctx a) b

namespace StreamHash

variable {κ δ : Type} (h : StreamHash κ δ)

/-- The context after a message. -/
def absorbed (message : List UInt8) : κ := h.update h.init message

def digest (message : List UInt8) : δ := h.final (h.absorbed message)

@[simp] theorem absorbed_nil : h.absorbed [] = h.init := h.update_nil h.init

theorem update_absorbed (message piece : List UInt8) :
    h.update (h.absorbed message) piece = h.absorbed (message ++ piece) :=
  (h.update_append h.init message piece).symm

/-- The same hash with what it has taken so far beside the context. -/
def recorded : StreamHash (κ × List UInt8) δ where
  init := (h.init, [])
  update ctx data := (h.update ctx.1 data, ctx.2 ++ data)
  final ctx := h.final ctx.1
  update_nil ctx := by rw [h.update_nil, List.append_nil]
  update_append ctx a b := by rw [h.update_append, List.append_assoc]

/-- A hash that takes one byte at a time. -/
def ofStep (init : κ) (step : κ → UInt8 → κ) (final : κ → δ) : StreamHash κ δ where
  init := init
  update ctx data := data.foldl step ctx
  final := final
  update_nil _ := rfl
  update_append _ _ _ := List.foldl_append

end StreamHash
