import GcToolKit.Cmd56.Completeness
import GcToolKit.Kern.AuthEmu

/-!
# Waiting for the authentication of a cart (app/auth.c, kern/auth_emu.c)

`wait_for_gc_auth` places the hook, makes the slot start again and polls
`kIsAuthenticated`. The authentication itself is run by the operating system, in
its own time: as long as the hook is in place it calls `k_run_authentication`, and
of that the application sees the steps. The wait is entered again whenever the user
leaves the menu.

* `osSteps_alone` — the steps of the operating system together are
  `k_run_authentication`;
* `inv_step` — what one step of either keeps;
* `waitForGcAuth_captures` — whenever the wait is over, the kernel has the keys of
  the first handshake that completed since the hook was placed, and nothing takes
  them away before the wait is entered again.
-/

namespace GcToolKit.App

open GcToolKit.Crypto GcToolKit.Cmd56 GcToolKit.Kern

/-! ## State -/

/-- The next call of `wait_for_gc_auth`. -/
inductive WaitPc where
  /-- The loop on `kIsSdInserted`. -/
  | waitingSd
  /-- The test for patches of other modules, and `kUndoSd2Vita`. -/
  | undoing
  | resettingUndone
  /-- `kEnableGcEmuMgr` -/
  | enabling
  /-- The test for a cart that is already there. -/
  | checking
  | resetting
  /-- The loop on `kIsAuthenticated`. -/
  | waitingAuth
  /-- `kDisableGcEmuMgr` -/
  | disabling
  | returned
deriving DecidableEq

variable {σ ρ : Type}

/-- Where the operating system is in `k_run_authentication`. -/
inductive OsPc (σ ρ : Type) where
  | idle
  | handshaking (env : AuthEnv σ ρ)
  /-- The keys are there and `kDisableGcEmuMgr` comes next. -/
  | releasing (env : AuthEnv σ ρ)

/-- `attempts` are the handshakes that have ended since the hook was placed, the
latest first. -/
structure GcAuth (σ ρ : Type) where
  pc : WaitPc
  os : OsPc σ ρ
  emu : AuthEmu
  undoneSd2vitaPatch : Bool
  attempts : List (AuthEnv σ ρ)

/-- What the calls of a step find. -/
structure Findings where
  sdInserted : Bool
  blacklistedModule : Bool
  mmcInserted : Bool
  hookResult : HookResult
  releaseResult : Int

inductive AuthStep (σ ρ : Type) where
  | app (found : Findings)
  /-- The operating system authenticates the cart in the slot. -/
  | osBegin (env : AuthEnv σ ρ)
  | osProceed
  /-- `do_gc_insert_prompt` is entered again. -/
  | prompt

/-! ## Steps -/

def waitStep (found : Findings) (s : GcAuth σ ρ) : GcAuth σ ρ :=
  match s.pc with
  | .waitingSd => if found.sdInserted then s else { s with pc := .undoing }
  | .undoing =>
    if !s.undoneSd2vitaPatch && found.blacklistedModule then
      { s with undoneSd2vitaPatch := true, pc := .resettingUndone }
    else { s with pc := .enabling }
  | .resettingUndone => { s with pc := .enabling }
  | .enabling =>
    { s with emu := (kEnableGcEmuMgr found.hookResult s.emu).2, attempts := [], pc := .checking }
  | .checking =>
    if kIsAuthenticated s.emu = 0 ∧ found.mmcInserted then { s with pc := .resetting }
    else { s with pc := .waitingAuth }
  | .resetting => { s with pc := .waitingAuth }
  | .waitingAuth => if kIsAuthenticated s.emu = 0 then s else { s with pc := .disabling }
  | .disabling =>
    { s with emu := (kDisableGcEmuMgr found.releaseResult s.emu).2, pc := .returned }
  | .returned => s

variable (aes : BlockCipher) (rng : Rng ρ) (t : Transport σ) (cb : Callbacks)

/-- Without the hook the operating system uses a function of its own. -/
def osBegin (env : AuthEnv σ ρ) (s : GcAuth σ ρ) : GcAuth σ ρ :=
  match s.os with
  | .idle =>
    if s.emu.authHook > 0 then
      let emu := { (kClearSecret s.emu).2 with ctx := env.ctx }
      if emu.ctx = 0 ∧ env.initResult ≠ 0 then { s with emu }
      else { s with emu, os := .handshaking env }
    else s
  | _ => s

/-- What `k_run_authentication` makes of the result of the handshake. -/
def handshakeEnd (env : AuthEnv σ ρ) (result : VitaErrorCode × VitaRun σ ρ) (s : GcAuth σ ρ) :
    GcAuth σ ρ :=
  let emu := { s.emu with vitaState := result.2.state }
  if result.1 = .ok then
    { s with
      emu := { emu with isAuthenticated := 1 }
      attempts := env :: s.attempts
      os := .releasing env }
  else { s with emu := (kClearSecret emu).2, attempts := env :: s.attempts, os := .idle }

def osProceed (s : GcAuth σ ρ) : GcAuth σ ρ :=
  match s.os with
  | .idle => s
  | .handshaking env => handshakeEnd env (authRun aes rng t cb env) s
  | .releasing env =>
    { s with emu := (kDisableGcEmuMgr env.releaseResult s.emu).2, os := .idle }

def authStep (s : GcAuth σ ρ) : AuthStep σ ρ → GcAuth σ ρ
  | .app found => waitStep found s
  | .osBegin env => osBegin env s
  | .osProceed => osProceed aes rng t cb s
  | .prompt => if s.pc = .returned then { s with pc := .waitingSd } else s

/-- The application and the operating system, in any order. -/
def authSteps (s : GcAuth σ ρ) (steps : List (AuthStep σ ρ)) : GcAuth σ ρ :=
  steps.foldl (authStep aes rng t cb) s

/-- The kernel module is loaded and the first wait begins. -/
def GcAuth.boot : GcAuth σ ρ where
  pc := .waitingSd
  os := .idle
  emu := AuthEmu.init
  undoneSd2vitaPatch := false
  attempts := []

/-! ## The steps of the operating system -/

section Os

variable {aes rng t cb} {s : GcAuth σ ρ} {env : AuthEnv σ ρ}

theorem osProceed_completes {result : VitaErrorCode × VitaRun σ ρ} (hos : s.os = .handshaking env)
    (hresult : authRun aes rng t cb env = result) (hok : result.1 = .ok) :
    osProceed aes rng t cb s =
      { s with
        emu := { s.emu with vitaState := result.2.state, isAuthenticated := 1 }
        attempts := env :: s.attempts
        os := .releasing env } := by
  unfold osProceed
  rw [hos]
  dsimp only
  rw [hresult]
  exact if_pos hok

theorem osProceed_fails {result : VitaErrorCode × VitaRun σ ρ} (hos : s.os = .handshaking env)
    (hresult : authRun aes rng t cb env = result) (hok : result.1 ≠ .ok) :
    osProceed aes rng t cb s =
      { s with emu := (kClearSecret s.emu).2, attempts := env :: s.attempts, os := .idle } := by
  unfold osProceed
  rw [hos]
  dsimp only
  rw [hresult]
  exact if_neg hok

theorem osProceed_releases (hos : s.os = .releasing env) :
    osProceed aes rng t cb s =
      { s with emu := (kDisableGcEmuMgr env.releaseResult s.emu).2, os := .idle } := by
  unfold osProceed
  rw [hos]

theorem osProceed_idle (hos : s.os = .idle) : osProceed aes rng t cb s = s := by
  unfold osProceed
  rw [hos]

/-- What becomes of the beginning of `k_run_authentication`. -/
theorem osBegin_cases (env : AuthEnv σ ρ) (s : GcAuth σ ρ) :
    osBegin env s = s ∨
      s.os = .idle ∧ s.emu.authHook > 0 ∧ ∃ os,
        osBegin env s = { s with emu := { (kClearSecret s.emu).2 with ctx := env.ctx }, os } ∧
          (os = .idle ∧ env.ctx = 0 ∧ env.initResult ≠ 0 ∨
            os = .handshaking env ∧ ¬ (env.ctx = 0 ∧ env.initResult ≠ 0)) := by
  unfold osBegin
  cases hos : s.os with
  | idle =>
    dsimp only
    by_cases hhook : s.emu.authHook > 0
    · rw [if_pos hhook]
      right
      refine ⟨rfl, hhook, ?_⟩
      by_cases hinit : env.ctx = 0 ∧ env.initResult ≠ 0
      · rw [if_pos hinit]
        refine ⟨.idle, ?_, Or.inl ⟨rfl, hinit⟩⟩
        rw [← hos]
      · rw [if_neg hinit]
        exact ⟨_, rfl, Or.inr ⟨rfl, hinit⟩⟩
    · rw [if_neg hhook]
      exact Or.inl rfl
  | handshaking env' => exact Or.inl rfl
  | releasing env' => exact Or.inl rfl

/-- With nothing between them, the steps do what `k_run_authentication` does. -/
theorem osSteps_alone (hidle : s.os = .idle) (hhook : s.emu.authHook > 0) (keyId : UInt16)
    (env : AuthEnv σ ρ) :
    let r := osProceed aes rng t cb (osProceed aes rng t cb (osBegin env s))
    r.emu = (kRunAuthentication aes rng t cb keyId env s.emu).2 ∧ r.os = .idle ∧ r.pc = s.pc := by
  have hbegin : osBegin env s = if env.ctx = 0 ∧ env.initResult ≠ 0 then
      { s with emu := { (kClearSecret s.emu).2 with ctx := env.ctx } }
      else { s with
        emu := { (kClearSecret s.emu).2 with ctx := env.ctx }
        os := .handshaking env } := by
    unfold osBegin
    rw [hidle]
    exact if_pos hhook
  dsimp only
  unfold kRunAuthentication
  obtain ⟨result, hresult⟩ : ∃ result, authRun aes rng t cb env = result := ⟨_, rfl⟩
  rw [hresult]
  dsimp only
  by_cases hinit : env.ctx = 0 ∧ env.initResult ≠ 0
  · rw [if_pos hinit] at hbegin ⊢
    have hidle' : (osBegin env s).os = .idle := by
      rw [hbegin]
      exact hidle
    rw [osProceed_idle hidle', osProceed_idle hidle', hbegin]
    exact ⟨rfl, hidle, rfl⟩
  · rw [if_neg hinit] at hbegin ⊢
    have hos : (osBegin env s).os = .handshaking env := by rw [hbegin]
    by_cases hok : result.1 = .ok
    · rw [if_pos hok, osProceed_completes hos hresult hok, osProceed_releases rfl, hbegin]
      exact ⟨rfl, rfl, rfl⟩
    · rw [if_neg hok, osProceed_fails hos hresult hok, osProceed_idle rfl, hbegin]
      exact ⟨rfl, rfl, rfl⟩

end Os

/-! ## The invariant -/

/-- The kernel has the keys of this handshake, the first to complete since the hook
was placed, and no other can begin. -/
structure Captured (s : GcAuth σ ρ) (env : AuthEnv σ ρ) : Prop where
  authenticated : kIsAuthenticated s.emu = 1
  ok : (authRun aes rng t cb env).1 = .ok
  keys : s.emu.vitaState = (authRun aes rng t cb env).2.state
  first : ∃ failed, s.attempts = env :: failed ∧
    ∀ env' ∈ failed, (authRun aes rng t cb env').1 ≠ .ok
  quiet : s.os = .idle ∧ ¬ s.emu.authHook > 0 ∨ ∃ env', s.os = .releasing env'

/-- Nothing is captured yet. -/
structure Pending (s : GcAuth σ ρ) : Prop where
  cleared : kIsAuthenticated s.emu = 0
  failed : ∀ env ∈ s.attempts, (authRun aes rng t cb env).1 ≠ .ok

/-- The hook has been placed. -/
def WaitPc.Polls : WaitPc → Prop
  | .checking | .resetting | .waitingAuth => True
  | _ => False

/-- `kIsAuthenticated` has returned 1. -/
def WaitPc.Over : WaitPc → Prop
  | .disabling | .returned => True
  | _ => False

/-- The handshake the operating system is in. -/
def OsPc.env? : OsPc σ ρ → Option (AuthEnv σ ρ)
  | .idle => none
  | .handshaking env | .releasing env => some env

/-- `P` holds of every handshake that has begun, as far as the state remembers it. -/
structure Inv (P : AuthEnv σ ρ → Prop) (s : GcAuth σ ρ) : Prop where
  polls : s.pc.Polls → Pending aes rng t cb s ∨ ∃ env, Captured aes rng t cb s env
  finished : s.pc.Over → ∃ env, Captured aes rng t cb s env
  running : ∀ env, s.os.env? = some env → P env
  ended : ∀ env ∈ s.attempts, P env

variable {aes rng t cb}

theorem inv_boot (P : AuthEnv σ ρ → Prop) : Inv aes rng t cb P GcAuth.boot := by
  constructor
  · exact fun h => absurd h id
  · exact fun h => absurd h id
  · intro env henv
    cases henv
  · intro env henv
    cases henv

/-! ## What the operating system does to it -/

section OsInvariant

variable {P : AuthEnv σ ρ → Prop} {s : GcAuth σ ρ} {env : AuthEnv σ ρ}

theorem osBegin_captured (h : Captured aes rng t cb s env) (env' : AuthEnv σ ρ) :
    osBegin env' s = s := by
  rcases osBegin_cases env' s with hsame | ⟨hidle, hhook, -⟩
  · exact hsame
  · rcases h.quiet with ⟨-, hreleased⟩ | ⟨env'', hreleasing⟩
    · exact absurd hhook hreleased
    · rw [hidle] at hreleasing
      cases hreleasing

/-- A handshake that begins takes away what there is. -/
theorem osBegin_pending (h : Pending aes rng t cb s) (env : AuthEnv σ ρ) :
    Pending aes rng t cb (osBegin env s) := by
  rcases osBegin_cases env s with hsame | ⟨-, -, os, hbegin, -⟩
  · rw [hsame]
    exact h
  · rw [hbegin]
    exact ⟨rfl, h.failed⟩

theorem osBegin_pc (env : AuthEnv σ ρ) (s : GcAuth σ ρ) :
    (osBegin env s).pc = s.pc ∧ (osBegin env s).attempts = s.attempts := by
  rcases osBegin_cases env s with hsame | ⟨-, -, os, hbegin, -⟩
  · rw [hsame]
    exact ⟨rfl, rfl⟩
  · rw [hbegin]
    exact ⟨rfl, rfl⟩

theorem osBegin_env {env' : AuthEnv σ ρ} (h : (osBegin env s).os.env? = some env') :
    env' = env ∨ s.os.env? = some env' := by
  rcases osBegin_cases env s with hsame | ⟨-, -, os, hbegin, ⟨rfl, -⟩ | ⟨rfl, -⟩⟩
  · rw [hsame] at h
    exact Or.inr h
  · rw [hbegin] at h
    cases h
  · rw [hbegin] at h
    exact Or.inl (Option.some.inj h).symm

theorem inv_osBegin (h : Inv aes rng t cb P s) (hP : P env) :
    Inv aes rng t cb P (osBegin env s) := by
  rcases osBegin_pc env s with ⟨hpc, hattempts⟩
  constructor
  · rw [hpc]
    intro hpolls
    rcases h.polls hpolls with hpending | ⟨env', hcaptured⟩
    · exact Or.inl (osBegin_pending hpending env)
    · rw [osBegin_captured hcaptured]
      exact Or.inr ⟨env', hcaptured⟩
  · rw [hpc]
    intro hover
    rcases h.finished hover with ⟨env', hcaptured⟩
    rw [osBegin_captured hcaptured]
    exact ⟨env', hcaptured⟩
  · intro env' henv'
    rcases osBegin_env henv' with rfl | hbefore
    · exact hP
    · exact h.running env' hbefore
  · rw [hattempts]
    exact h.ended

theorem kDisableGcEmuMgr_released {releaseResult : Int} (h : 0 ≤ releaseResult) (x : AuthEmu) :
    ¬ (kDisableGcEmuMgr releaseResult x).2.authHook > 0 := by
  unfold kDisableGcEmuMgr
  by_cases hhook : x.authHook ≥ 0
  · rw [if_pos hhook, if_pos (show releaseResult ≥ 0 from h)]
    show ¬ (-1 : Int) > 0
    decide
  · rw [if_neg hhook]
    exact fun hpos => hhook (Int.le_of_lt hpos)

theorem osProceed_captured (h : Captured aes rng t cb s env)
    (hreleases : ∀ env', s.os.env? = some env' → 0 ≤ env'.releaseResult) :
    Captured aes rng t cb (osProceed aes rng t cb s) env := by
  rcases h.quiet with ⟨hidle, -⟩ | ⟨env', hreleasing⟩
  · rw [osProceed_idle hidle]
    exact h
  · have hrelease : 0 ≤ env'.releaseResult := hreleases env' (by rw [hreleasing]; rfl)
    rcases kDisableGcEmuMgr_keys env'.releaseResult s.emu with ⟨hstate, hauth⟩
    rw [osProceed_releases hreleasing]
    exact ⟨hauth.trans h.authenticated, h.ok, hstate.trans h.keys, h.first,
      Or.inl ⟨rfl, kDisableGcEmuMgr_released hrelease s.emu⟩⟩

/-- The handshake that is running may be the one that captures the keys. -/
theorem osProceed_pending (h : Pending aes rng t cb s) :
    Pending aes rng t cb (osProceed aes rng t cb s) ∨
      ∃ env, Captured aes rng t cb (osProceed aes rng t cb s) env := by
  cases hos : s.os with
  | idle =>
    rw [osProceed_idle hos]
    exact Or.inl h
  | handshaking env =>
    obtain ⟨result, hresult⟩ : ∃ result, authRun aes rng t cb env = result := ⟨_, rfl⟩
    by_cases hok : result.1 = .ok
    · rw [osProceed_completes hos hresult hok]
      refine Or.inr ⟨env, rfl, ?_, ?_, ⟨_, rfl, h.failed⟩, Or.inr ⟨env, rfl⟩⟩
      · rw [hresult]
        exact hok
      · rw [hresult]
    · rw [osProceed_fails hos hresult hok]
      refine Or.inl ⟨rfl, ?_⟩
      intro env' henv
      rcases List.mem_cons.mp henv with rfl | hbefore
      · rw [hresult]
        exact hok
      · exact h.failed env' hbefore
  | releasing env =>
    rw [osProceed_releases hos]
    exact Or.inl ⟨(kDisableGcEmuMgr_keys env.releaseResult s.emu).2.trans h.cleared, h.failed⟩

variable (aes rng t cb) in
/-- A step of the handshake leaves the wait where it is. -/
theorem osProceed_pc (s : GcAuth σ ρ) :
    (osProceed aes rng t cb s).pc = s.pc ∧
      (∀ env, (osProceed aes rng t cb s).os.env? = some env → s.os.env? = some env) ∧
      ∀ env ∈ (osProceed aes rng t cb s).attempts, env ∈ s.attempts ∨ s.os.env? = some env := by
  cases hos : s.os with
  | idle =>
    rw [osProceed_idle hos, hos]
    exact ⟨rfl, fun _ h => h, fun _ h => Or.inl h⟩
  | handshaking env =>
    obtain ⟨result, hresult⟩ : ∃ result, authRun aes rng t cb env = result := ⟨_, rfl⟩
    have hended : ∀ env' ∈ env :: s.attempts,
        env' ∈ s.attempts ∨ (OsPc.handshaking env).env? = some env' := by
      intro env' henv
      rcases List.mem_cons.mp henv with rfl | hbefore
      · exact Or.inr rfl
      · exact Or.inl hbefore
    by_cases hok : result.1 = .ok
    · rw [osProceed_completes hos hresult hok]
      exact ⟨rfl, fun _ h => h, hended⟩
    · rw [osProceed_fails hos hresult hok]
      exact ⟨rfl, nofun, hended⟩
  | releasing env =>
    rw [osProceed_releases hos]
    exact ⟨rfl, nofun, fun _ h => Or.inl h⟩

theorem inv_osProceed (h : Inv aes rng t cb P s) (hreleases : ∀ env, P env → 0 ≤ env.releaseResult) :
    Inv aes rng t cb P (osProceed aes rng t cb s) := by
  rcases osProceed_pc aes rng t cb s with ⟨hpc, hos, hattempts⟩
  have hreleased : ∀ env, s.os.env? = some env → 0 ≤ env.releaseResult :=
    fun env henv => hreleases env (h.running env henv)
  constructor
  · rw [hpc]
    intro hpolls
    rcases h.polls hpolls with hpending | ⟨env, hcaptured⟩
    · exact osProceed_pending hpending
    · exact Or.inr ⟨env, osProceed_captured hcaptured hreleased⟩
  · rw [hpc]
    intro hover
    rcases h.finished hover with ⟨env, hcaptured⟩
    exact ⟨env, osProceed_captured hcaptured hreleased⟩
  · exact fun env henv => h.running env (hos env henv)
  · intro env henv
    rcases hattempts env henv with hbefore | hrunning
    · exact h.ended env hbefore
    · exact h.running env hrunning

end OsInvariant

/-! ## The application's own steps -/

section AppInvariant

variable {P : AuthEnv σ ρ → Prop} {s : GcAuth σ ρ}

/-- Only the place in the wait is another one. -/
theorem Pending.at {pc : WaitPc} {undone : Bool} (h : Pending aes rng t cb s) :
    Pending aes rng t cb { s with pc, undoneSd2vitaPatch := undone } := ⟨h.cleared, h.failed⟩

theorem Captured.at {pc : WaitPc} {undone : Bool} {env : AuthEnv σ ρ}
    (h : Captured aes rng t cb s env) :
    Captured aes rng t cb { s with pc, undoneSd2vitaPatch := undone } env :=
  ⟨h.authenticated, h.ok, h.keys, h.first, h.quiet⟩

/-- Placing the hook clears what an earlier wait has left. -/
theorem enabling_pending (hookResult : HookResult) (pc : WaitPc) :
    Pending aes rng t cb
      { s with emu := (kEnableGcEmuMgr hookResult s.emu).2, attempts := [], pc } :=
  ⟨(kEnableGcEmuMgr_keys hookResult s.emu).2, nofun⟩

/-- By the time of its own `kDisableGcEmuMgr` the hook is gone, or about to be. -/
theorem disabling_captured {env : AuthEnv σ ρ} (h : Captured aes rng t cb s env)
    (releaseResult : Int) (pc : WaitPc) :
    Captured aes rng t cb
      { s with emu := (kDisableGcEmuMgr releaseResult s.emu).2, pc } env := by
  rcases kDisableGcEmuMgr_keys releaseResult s.emu with ⟨hstate, hauth⟩
  refine ⟨hauth.trans h.authenticated, h.ok, hstate.trans h.keys, h.first, ?_⟩
  rcases h.quiet with ⟨hidle, hhook⟩ | hreleasing
  · refine Or.inl ⟨hidle, ?_⟩
    show ¬ (kDisableGcEmuMgr releaseResult s.emu).2.authHook > 0
    unfold kDisableGcEmuMgr
    split
    · split
      · show ¬ (-1 : Int) > 0
        decide
      · exact hhook
    · exact hhook
  · exact Or.inr hreleasing

theorem captured_of_authenticated (h : Pending aes rng t cb s ∨ ∃ env, Captured aes rng t cb s env)
    (hauth : kIsAuthenticated s.emu ≠ 0) : ∃ env, Captured aes rng t cb s env := by
  rcases h with hpending | hcaptured
  · exact absurd hpending.cleared hauth
  · exact hcaptured

theorem inv_waitStep (h : Inv aes rng t cb P s) (found : Findings) :
    Inv aes rng t cb P (waitStep found s) := by
  unfold waitStep
  cases hpc : s.pc with
  | waitingSd =>
    dsimp only
    split
    · exact h
    · exact ⟨nofun, nofun, h.running, h.ended⟩
  | undoing =>
    dsimp only
    split <;> exact ⟨nofun, nofun, h.running, h.ended⟩
  | resettingUndone => exact ⟨nofun, nofun, h.running, h.ended⟩
  | enabling =>
    exact ⟨fun _ => Or.inl (enabling_pending found.hookResult _), nofun, h.running, nofun⟩
  | checking =>
    have hpolls := h.polls (by rw [hpc]; trivial)
    -- looking at the slot leaves the kernel and the handshakes alone
    have hstays : ∀ pc, Pending aes rng t cb { s with pc } ∨
        ∃ env, Captured aes rng t cb { s with pc } env := by
      intro pc
      rcases hpolls with hpending | ⟨env, hcaptured⟩
      · exact Or.inl hpending.at
      · exact Or.inr ⟨env, hcaptured.at⟩
    dsimp only
    split
    · exact ⟨fun _ => hstays _, nofun, h.running, h.ended⟩
    · exact ⟨fun _ => hstays _, nofun, h.running, h.ended⟩
  | resetting =>
    have hpolls := h.polls (by rw [hpc]; trivial)
    refine ⟨fun _ => ?_, nofun, h.running, h.ended⟩
    rcases hpolls with hpending | ⟨env, hcaptured⟩
    · exact Or.inl hpending.at
    · exact Or.inr ⟨env, hcaptured.at⟩
  | waitingAuth =>
    have hpolls := h.polls (by rw [hpc]; trivial)
    dsimp only
    by_cases hauth : kIsAuthenticated s.emu = 0
    · rw [if_pos hauth]
      exact h
    · rw [if_neg hauth]
      rcases captured_of_authenticated hpolls hauth with ⟨env, hcaptured⟩
      exact ⟨nofun, fun _ => ⟨env, hcaptured.at⟩, h.running, h.ended⟩
  | disabling =>
    rcases h.finished (by rw [hpc]; trivial) with ⟨env, hcaptured⟩
    exact ⟨nofun, fun _ => ⟨env, disabling_captured hcaptured found.releaseResult _⟩, h.running,
      h.ended⟩
  | returned => exact h

end AppInvariant

/-! ## Runs -/

section Runs

variable {P : AuthEnv σ ρ → Prop}

theorem inv_step {s : GcAuth σ ρ} (h : Inv aes rng t cb P s)
    (hreleases : ∀ env, P env → 0 ≤ env.releaseResult) {step : AuthStep σ ρ}
    (hP : ∀ env, step = .osBegin env → P env) : Inv aes rng t cb P (authStep aes rng t cb s step) := by
  cases step with
  | app found => exact inv_waitStep h found
  | osBegin env => exact inv_osBegin h (hP env rfl)
  | osProceed => exact inv_osProceed h hreleases
  | prompt =>
    unfold authStep
    dsimp only
    split
    · exact ⟨nofun, nofun, h.running, h.ended⟩
    · exact h

theorem inv_steps {steps : List (AuthStep σ ρ)} {s : GcAuth σ ρ} (h : Inv aes rng t cb P s)
    (hreleases : ∀ env, P env → 0 ≤ env.releaseResult)
    (hP : ∀ env, .osBegin env ∈ steps → P env) :
    Inv aes rng t cb P (authSteps aes rng t cb s steps) := by
  induction steps generalizing s with
  | nil => exact h
  | cons step steps ih =>
    refine ih (inv_step h hreleases ?_) ?_
    · rintro env rfl
      exact hP env (List.mem_cons_self ..)
    · exact fun env henv => hP env (List.mem_cons_of_mem _ henv)

end Runs

/-! ## A cart that goes through -/

/-- A handshake that completes while the application polls ends the wait. -/
theorem returns_of_ok {s : GcAuth σ ρ} {env : AuthEnv σ ρ} (hpc : s.pc = .waitingAuth)
    (hidle : s.os = .idle) (hhook : s.emu.authHook > 0)
    (hctx : ¬ (env.ctx = 0 ∧ env.initResult ≠ 0)) (hok : (authRun aes rng t cb env).1 = .ok)
    (found : Findings) :
    (authSteps aes rng t cb s [.osBegin env, .osProceed, .osProceed, .app found, .app found]).pc =
      .returned := by
  have hbegin : osBegin env s =
      { s with
        emu := { (kClearSecret s.emu).2 with ctx := env.ctx }
        os := .handshaking env } := by
    unfold osBegin
    rw [hidle]
    exact (if_pos hhook).trans (if_neg hctx)
  obtain ⟨result, hresult⟩ : ∃ result, authRun aes rng t cb env = result := ⟨_, rfl⟩
  rw [hresult] at hok
  have hcompletes := osProceed_completes (show (osBegin env s).os = _ by rw [hbegin]) hresult hok
  have hreleases : osProceed aes rng t cb (osProceed aes rng t cb (osBegin env s)) = _ :=
    osProceed_releases (show _ = OsPc.releasing env by rw [hcompletes])
  have hpc' : (osProceed aes rng t cb (osProceed aes rng t cb (osBegin env s))).pc =
      .waitingAuth := by
    rw [hreleases, hcompletes, hbegin]
    exact hpc
  have hauth : kIsAuthenticated
      (osProceed aes rng t cb (osProceed aes rng t cb (osBegin env s))).emu ≠ 0 := by
    rw [hreleases, hcompletes]
    show (kDisableGcEmuMgr _ _).2.isAuthenticated ≠ 0
    rw [(kDisableGcEmuMgr_keys _ _).2]
    exact one_ne_zero
  have hpolled : waitStep found (osProceed aes rng t cb (osProceed aes rng t cb (osBegin env s))) =
      { osProceed aes rng t cb (osProceed aes rng t cb (osBegin env s)) with pc := .disabling } := by
    unfold waitStep
    rw [hpc']
    exact if_neg hauth
  show (waitStep found (waitStep found (osProceed aes rng t cb (osProceed aes rng t cb
    (osBegin env s))))).pc = _
  rw [hpolled]
  rfl

/-- No module to undo, no cart in the slot yet, and hooks that are placed and released. -/
def nothingFound : Findings := ⟨false, false, false, ⟨1, by decide⟩, 0⟩

/-- The wait up to the loop on `kIsAuthenticated`, and then this handshake. -/
def untilAuthenticated (env : AuthEnv σ ρ) : List (AuthStep σ ρ) :=
  [.app nothingFound, .app nothingFound, .app nothingFound, .app nothingFound] ++
    [.osBegin env, .osProceed, .osProceed, .app nothingFound, .app nothingFound]

theorem untilAuthenticated_returns {env : AuthEnv σ ρ}
    (hctx : ¬ (env.ctx = 0 ∧ env.initResult ≠ 0)) (hok : (authRun aes rng t cb env).1 = .ok) :
    (authSteps aes rng t cb GcAuth.boot (untilAuthenticated env)).pc = .returned := by
  unfold authSteps untilAuthenticated
  rw [List.foldl_append]
  exact returns_of_ok rfl rfl (show (1 : Int) > 0 by decide) hctx hok nothingFound

/-! ## After the wait -/

variable {P : AuthEnv σ ρ → Prop}

/-- Where the wait is over, the handshake that ended it is one of those the invariant
is about. -/
theorem Inv.captured {s : GcAuth σ ρ} (h : Inv aes rng t cb P s) (hreturned : s.pc = .returned) :
    ∃ env, P env ∧ Captured aes rng t cb s env := by
  rcases h.finished (by rw [hreturned]; trivial) with ⟨env, hcaptured⟩
  rcases hcaptured.first with ⟨failed, hattempts, -⟩
  exact ⟨env, h.ended env (by rw [hattempts]; exact List.mem_cons_self ..), hcaptured⟩

theorem inv_run {steps : List (AuthStep σ ρ)}
    (hreleases : ∀ env, .osBegin env ∈ steps → 0 ≤ env.releaseResult) :
    Inv aes rng t cb (fun env => 0 ≤ env.releaseResult ∧ .osBegin env ∈ steps)
      (authSteps aes rng t cb GcAuth.boot steps) :=
  inv_steps (inv_boot _) (fun _ h => h.1) (fun env henv => ⟨hreleases env henv, henv⟩)

/-- Whatever the application and the operating system do in whatever order, if
taiHEN releases its hooks: when `wait_for_gc_auth` has returned, and until it is
entered again, the kernel has the keys of a completed handshake, the first since
the hook was placed, and no other can begin. -/
theorem waitForGcAuth_captures {steps : List (AuthStep σ ρ)}
    (hreleases : ∀ env, .osBegin env ∈ steps → 0 ≤ env.releaseResult)
    (hreturned : (authSteps aes rng t cb GcAuth.boot steps).pc = .returned) :
    ∃ env, .osBegin env ∈ steps ∧
      Captured aes rng t cb (authSteps aes rng t cb GcAuth.boot steps) env := by
  rcases (inv_run hreleases).captured hreturned with ⟨env, hbegun, hcaptured⟩
  exact ⟨env, hbegun.2, hcaptured⟩

/-- The module's own cart with a retail key id. -/
def retailCart : CartBus AesBlock where
  gc := (gcCmd56Init randStateInit (some Cmd56Keys.zero)).state
  rand := randStateInit
  pending := Cmd56Request.zero

def retailEnv : AuthEnv (CartBus AesBlock) AesBlock where
  ctx := 1
  initResult := 0
  bus := retailCart
  rand := randStateInit
  releaseResult := 0

theorem retailEnv_ok (cb : Callbacks) :
    (authRun tinyAes (libRng tinyAes) (cartTransport tinyAes (libRng tinyAes) zeroIv) cb
      retailEnv).1 = .ok := by
  have hkeyId : retailCart.gc.keyId = retailKeyId := rfl
  have hsupported : (keySeed retailCart.gc.keyId).isSome := by
    rw [hkeyId]
    rfl
  have hpolicy : ¬ ((authStart cb).allowPrototypeKeys = 1 ∧
      retailCart.gc.keyId > prototypeKeyId1) := by
    rw [hkeyId]
    exact fun h => absurd h.2 (by decide)
  exact (vitaCmd56Run_cart tinyAes (libRng tinyAes) (libRng tinyAes) zeroIv (authStart cb)
    retailCart randStateInit hsupported hpolicy).1

theorem retailEnv_returns (cb : Callbacks) :
    (authSteps tinyAes (libRng tinyAes) (cartTransport tinyAes (libRng tinyAes) zeroIv) cb
      GcAuth.boot (untilAuthenticated retailEnv)).pc = .returned :=
  untilAuthenticated_returns (fun h => absurd h.1 (by decide)) (retailEnv_ok cb)

theorem untilAuthenticated_env {env env' : AuthEnv σ ρ}
    (h : .osBegin env' ∈ untilAuthenticated env) : env' = env := by
  simpa [untilAuthenticated] using h

theorem retailEnv_releases (env : AuthEnv (CartBus AesBlock) AesBlock)
    (h : .osBegin env ∈ untilAuthenticated retailEnv) : 0 ≤ env.releaseResult := by
  rw [untilAuthenticated_env h]
  decide

theorem waitForGcAuth_captures_retail :
    ∃ env, .osBegin env ∈ untilAuthenticated retailEnv ∧
      Captured tinyAes (libRng tinyAes) (cartTransport tinyAes (libRng tinyAes) zeroIv) ⟨1, 2⟩
        (authSteps tinyAes (libRng tinyAes) (cartTransport tinyAes (libRng tinyAes) zeroIv) ⟨1, 2⟩
          GcAuth.boot (untilAuthenticated retailEnv)) env :=
  waitForGcAuth_captures retailEnv_releases (retailEnv_returns ⟨1, 2⟩)

end GcToolKit.App
