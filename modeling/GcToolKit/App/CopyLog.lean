import GcToolKit.App.CopyLoop

/-!
# A log of the copy loop (app/device.c)

What `device_access_loop` hands to its write function, and how much of it was taken,
is not in the state that it leaves. `loggedLoop` is the same loop with a log of the
writes beside the world and a record of the hashed bytes beside the context; without
the two it is `device_access_loop` again (`forget_loggedLoop`).
-/

namespace GcToolKit.App

open DoWhile GcToolKit.Crypto GcToolKit.Cmd56

variable {κ κ' ω : Type}

/-! ## The loop with a log -/

/-- A call of the write function: the bytes it was given, and how many it took. -/
structure Written where
  data : List UInt8
  taken : Nat
deriving DecidableEq

def Written.stored (e : Written) : List UInt8 := e.data.take e.taken

def readThrough (rdFunc : ReadFunc ω) : ReadFunc (ω × List Written) := fun fd size s =>
  let (rd, w) := rdFunc fd size s.1
  (rd, w, s.2)

def writeLogged (wrFunc : WriteFunc ω) : WriteFunc (ω × List Written) := fun fd data s =>
  let (wr, w) := wrFunc fd data s.1
  (wr, w, s.2 ++ [⟨data, wr.toNat⟩])

def BackupState.mapCtx (f : κ → κ') (state : BackupState κ) : BackupState κ' :=
  { state with shaCtx := state.shaCtx.map f }

section Logged

variable (sha : StreamHash κ (Bytes 0x20)) (rdFunc : ReadFunc ω) (wrFunc : WriteFunc ω)

/-- The loop from `state` on, with nothing recorded yet. -/
def loggedLoop (fuel : Nat) (state : BackupState κ) (w : ω) :
    Option (Int × BackupState (κ × List UInt8) × ω × List Written) :=
  deviceAccessLoop sha.recorded (readThrough rdFunc) (writeLogged wrFunc) fuel
    (state.mapCtx fun ctx => (ctx, [])) (w, [])

/-- The state and the world, without record and log. -/
def forget (s : BackupState (κ × List UInt8) × ω × List Written) : BackupState κ × ω :=
  (s.1.mapCtx Prod.fst, s.2.1)

def forgetResult (r : Int × BackupState (κ × List UInt8) × ω × List Written) :
    Int × BackupState κ × ω :=
  (r.1, forget r.2)

theorem deviceAccessBody_forget (toRead : Nat)
    (s : BackupState (κ × List UInt8) × ω × List Written) :
    deviceAccessBody sha rdFunc wrFunc toRead (forget s) =
      (deviceAccessBody sha.recorded (readThrough rdFunc) (writeLogged wrFunc) toRead s).map
        forget forgetResult := by
  rcases s with ⟨state, w, log⟩
  have hctx : ∀ data, (state.shaCtx.map Prod.fst).map (fun ctx => sha.update ctx data) =
      (state.shaCtx.map fun ctx => sha.recorded.update ctx data).map Prod.fst := by
    intro data
    rw [Option.map_map, Option.map_map]
    rfl
  unfold deviceAccessBody readThrough writeLogged forget BackupState.mapCtx
  dsimp only
  generalize rdFunc state.rdFd bufferSize w = got
  rcases got with ⟨rd, w₁⟩
  cases rd with
  | error code neg => rfl
  | bytes data =>
    dsimp only
    rw [hctx]
    by_cases hdata : data.length = 0
    · rw [if_pos hdata, if_pos hdata]
      rfl
    · rw [if_neg hdata, if_neg hdata]
      generalize wrFunc state.wrFd data w₁ = put
      rcases put with ⟨wr, w₂⟩
      dsimp only
      -- the result of the write decides, which the log has no part in
      split
      · rfl
      · split
        · rfl
        · split
          · rfl
          · rfl

/-- Record and log change nothing. -/
theorem forget_loggedLoop (fuel : Nat) (state : BackupState κ) (w : ω) :
    (loggedLoop sha rdFunc wrFunc fuel state w).map forgetResult =
      deviceAccessLoop sha rdFunc wrFunc fuel state w := by
  have hstart : forget (state.mapCtx fun ctx => (ctx, ([] : List UInt8)), w, []) = (state, w) := by
    unfold forget BackupState.mapCtx
    dsimp only
    rw [Option.map_map]
    have hid : (Prod.fst ∘ fun ctx : κ => (ctx, ([] : List UInt8))) = id := rfl
    rw [hid, Option.map_id_fun]
    rfl
  have hmap := run_map forget forgetResult
    (deviceAccessBody_forget sha rdFunc wrFunc (subU64 state.effectiveSize state.headerSize)) fuel
    (state.mapCtx fun ctx => (ctx, []), w, [])
  rw [hstart] at hmap
  exact hmap.symm

/-- What is kept of a pass that read `data` and wrote `wr` bytes. -/
def loggedPass (s : BackupState (κ × List UInt8) × ω × List Written) (data : List UInt8)
    (wr : Int) (w : ω) : BackupState (κ × List UInt8) × ω × List Written :=
  (passed sha.recorded s.1 data wr, w, s.2.2 ++ [⟨data, wr.toNat⟩])

/-- A pass leaves with an error, or logs a write that took something. -/
theorem loggedBody_cases (toRead : Nat) (s : BackupState (κ × List UInt8) × ω × List Written) :
    (∃ res s', deviceAccessBody sha.recorded (readThrough rdFunc) (writeLogged wrFunc) toRead s =
        .exit (res, s') ∧ res < 0) ∨
      ∃ data w₁ wr w, rdFunc s.1.rdFd bufferSize s.2.1 = (.bytes data, w₁) ∧
        wrFunc s.1.wrFd data w₁ = (wr, w) ∧ 0 < wr ∧
        deviceAccessBody sha.recorded (readThrough rdFunc) (writeLogged wrFunc) toRead s =
          if (loggedPass sha s data wr w).1.total < toRead then .again (loggedPass sha s data wr w)
          else .exit (0, loggedPass sha s data wr w) := by
  rcases deviceAccessBody_cases sha.recorded (readThrough rdFunc) (writeLogged wrFunc) toRead s with
    ⟨res, s', hexit, hneg, -⟩ | ⟨data, w₁, wr, w₂, hread, hwrite, hpos, hbody⟩
  · exact Or.inl ⟨res, s', hexit, hneg⟩
  · right
    have hread' : rdFunc s.1.rdFd bufferSize s.2.1 = (.bytes data, w₁.1) :=
      congrArg (fun r => (r.1, r.2.1)) hread
    have hwrite' : wrFunc s.1.wrFd data w₁.1 = (wr, w₂.1) :=
      congrArg (fun r => (r.1, r.2.1)) hwrite
    refine ⟨data, w₁.1, wr, w₂.1, hread', hwrite', hpos, ?_⟩
    -- the read leaves the log alone, the write adds its own entry
    have hlog₁ : w₁.2 = s.2.2 := (congrArg (fun r => r.2.2) hread).symm
    have hlog₂ : w₂.2 = w₁.2 ++ [⟨data, wr.toNat⟩] := by
      have hwr : (wrFunc s.1.wrFd data w₁.1).1 = wr := congrArg Prod.fst hwrite'
      rw [← hwr]
      exact (congrArg (fun r => r.2.2) hwrite).symm
    have hlast : loggedPass sha s data wr w₂.1 = (passed sha.recorded s.1 data wr, w₂) := by
      unfold loggedPass
      rw [← hlog₁, ← hlog₂]
    rw [hlast]
    exact hbody

variable {sha rdFunc wrFunc}

/-- What a write that took something keeps, holds where the loop ends with 0. -/
theorem loggedLoop_invariant
    {I : BackupState (κ × List UInt8) × ω × List Written → Prop} {fuel : Nat}
    {state : BackupState κ} {w w' : ω} {state' : BackupState (κ × List UInt8)}
    {log : List Written}
    (hpass : ∀ s data w₁ wr w₂, I s → rdFunc s.1.rdFd bufferSize s.2.1 = (.bytes data, w₁) →
      wrFunc s.1.wrFd data w₁ = (wr, w₂) → 0 < wr → I (loggedPass sha s data wr w₂))
    (hstart : I (state.mapCtx fun ctx => (ctx, []), w, []))
    (hrun : loggedLoop sha rdFunc wrFunc fuel state w = some (0, state', w', log)) :
    I (state', w', log) := by
  refine run_invariant (I := I) (Q := fun r => r.1 = 0 → I r.2) ?_ ?_ hstart hrun rfl
  · intro s r hs hbody hzero
    rcases loggedBody_cases sha rdFunc wrFunc _ s with
      ⟨res, s', hexit, hneg⟩ | ⟨data, w₁, wr, w₂, hread, hwrite, hwr, heq⟩
    · -- an error is not 0
      rw [hexit] at hbody
      cases hbody
      exact absurd hzero (Int.ne_of_lt hneg)
    · rw [heq] at hbody
      split at hbody
      · cases hbody
      · cases hbody
        exact hpass s data w₁ wr w₂ hs hread hwrite hwr
  · intro s s' hs hbody
    rcases loggedBody_cases sha rdFunc wrFunc _ s with
      ⟨res, s'', hexit, -⟩ | ⟨data, w₁, wr, w₂, hread, hwrite, hwr, heq⟩
    · rw [hexit] at hbody
      cases hbody
    · rw [heq] at hbody
      split at hbody
      · cases hbody
        exact hpass s data w₁ wr w₂ hs hread hwrite hwr
      · cases hbody

end Logged

end GcToolKit.App
