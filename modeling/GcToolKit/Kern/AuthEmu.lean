import GcToolKit.Lib.Run
import GcToolKit.Cmd56.Vita

/-!
# The kernel's authentication state (kern/auth_emu.c)

The kernel module keeps the console state of the last authentication and a hook
on the authentication function of the operating system. `AuthEmu` is its static
data, with what taiHEN was asked for; the results of the kernel's and taiHEN's
functions are inputs of the calls.
-/

namespace GcToolKit.Kern

open Run GcToolKit.Crypto GcToolKit.Cmd56

/-! ## Hooks -/

/-- A successful hook or release. -/
inductive HookEvent where
  | hooked (uid : Int)
  | released (uid : Int)
deriving DecidableEq

/-- The hooks in place after these events, the latest event first. -/
def installed : List HookEvent → List Int
  | [] => []
  | .hooked uid :: older => uid :: installed older
  | .released uid :: older => (installed older).erase uid

/-- The result of `taiHookFunctionExportForKernel`: a positive uid or a
negative error. -/
structure HookResult where
  val : Int
  ne_zero : val ≠ 0

/-! ## State -/

/-- The static variables: `ctx` is the value of the pointer. -/
structure AuthEmu where
  vitaState : VitaCmd56State
  ctx : UInt32
  isAuthenticated : Int
  authHook : Int
  hookEvents : List HookEvent

def AuthEmu.init : AuthEmu where
  vitaState := VitaCmd56State.zero
  ctx := 0
  isAuthenticated := 0
  authHook := -1
  hookEvents := []

/-- The addresses of `k_gc_cmd56_write` and `k_gc_cmd56_read`. -/
structure Callbacks where
  write : UInt32
  read : UInt32

/-- What one `k_run_authentication` meets: the device context, the result of
its initialisation, the cart behind the callbacks, the random source, and the
result of releasing the hook. -/
structure AuthEnv (σ ρ : Type) where
  ctx : UInt32
  initResult : Int
  bus : σ
  rand : ρ
  releaseResult : Int

variable {σ ρ : Type} (aes : BlockCipher) (rng : Rng ρ) (t : Transport σ) (cb : Callbacks)

/-! ## Functions -/

/-- `k_get_hash`, `k_get_secret`: the kernel's digests of the captured keys. -/
structure KernelDigests where
  sha1 : List UInt8 → Bytes 0x14
  sha256 : List UInt8 → Bytes 0x20

/-- `cmd56_keys` in memory. -/
def cmd56KeysBytes (keys : Cmd56Keys) : List UInt8 :=
  keys.packet20Key.toList ++ keys.packet18Key.toList

def kGetHash (digests : KernelDigests) (x : AuthEmu) : Bytes 0x14 :=
  digests.sha1 x.vitaState.perCartKeys.packet20Key.toList

def kGetSecret (digests : KernelDigests) (x : AuthEmu) : Bytes 0x20 :=
  digests.sha256 (cmd56KeysBytes x.vitaState.perCartKeys)

def kClearSecret (x : AuthEmu) : Int × AuthEmu :=
  (0, { x with vitaState := VitaCmd56State.zero, isAuthenticated := 0 })

def kDisableGcEmuMgr (releaseResult : Int) (x : AuthEmu) : Int × AuthEmu :=
  if x.authHook ≥ 0 then
    if releaseResult ≥ 0 then
      (releaseResult,
        { x with authHook := -1, hookEvents := .released x.authHook :: x.hookEvents })
    else (releaseResult, x)
  else (-1, x)

def kEnableGcEmuMgr (hookResult : HookResult) (x : AuthEmu) : Int × AuthEmu :=
  let x := (kClearSecret x).2
  if x.authHook ≤ 0 then
    let hookEvents :=
      if hookResult.val > 0 then .hooked hookResult.val :: x.hookEvents else x.hookEvents
    (0, { x with authHook := hookResult.val, hookEvents })
  else (0, x)

/-- The console state `k_run_authentication` starts from. -/
def authStart : VitaCmd56State :=
  { vitaCmd56Init cb.write cb.read with allowPrototypeKeys := 1 }

/-- The run of the handshake inside `k_run_authentication`. -/
def authRun (env : AuthEnv σ ρ) : VitaErrorCode × VitaRun σ ρ :=
  vitaCmd56Run aes rng t (authStart cb) env.bus env.rand

/-- The argument `key_id` is only printed. -/
def kRunAuthentication (_keyId : UInt16) (env : AuthEnv σ ρ) (x : AuthEmu) : Int × AuthEmu :=
  let x := { (kClearSecret x).2 with ctx := env.ctx }
  if x.ctx = 0 ∧ env.initResult ≠ 0 then (env.initResult, x)
  else
    let (ret, run) := authRun aes rng t cb env
    let x := { x with vitaState := run.state }
    if ret = .ok then
      let x := { x with isAuthenticated := 1 }
      (0x00, (kDisableGcEmuMgr env.releaseResult x).2)
    else (-1, (kClearSecret x).2)

def kIsAuthenticated (x : AuthEmu) : Int := x.isAuthenticated

def kGetKeyId (x : AuthEmu) : UInt16 := x.vitaState.keyId

/-- `kGetPerCartKeys`: what is copied to the user's buffer. -/
def kGetPerCartKeys (x : AuthEmu) : Cmd56Keys := x.vitaState.perCartKeys

def kClearCartSecret (x : AuthEmu) : Int × AuthEmu := kClearSecret x

/-! ## Calls -/

inductive AuthCall (σ ρ : Type) where
  | enable (hookResult : HookResult)
  | disable (releaseResult : Int)
  | clear
  | authenticate (keyId : UInt16) (env : AuthEnv σ ρ)

/-- The module as a machine; the output is the return value. -/
def authEmu : Machine AuthEmu (AuthCall σ ρ) Int where
  step x c :=
    let y := match c with
      | .enable hookResult => kEnableGcEmuMgr hookResult x
      | .disable releaseResult => kDisableGcEmuMgr releaseResult x
      | .clear => kClearCartSecret x
      | .authenticate keyId env => kRunAuthentication aes rng t cb keyId env x
    (y.2, y.1)

/-! ## The hook -/

/-- The module's view of the hook is right, and every release so far was of a
hook in place. -/
structure HookInv (x : AuthEmu) : Prop where
  installed_eq : installed x.hookEvents = if x.authHook > 0 then [x.authHook] else []
  ne_zero : x.authHook ≠ 0
  released : ∀ newer uid older, x.hookEvents = newer ++ .released uid :: older →
    uid ∈ installed older

theorem hookInv_init : HookInv AuthEmu.init where
  installed_eq := rfl
  ne_zero := by decide
  released := by
    intro newer uid older h
    simp [AuthEmu.init] at h

/-- The hook is untouched by changes of the other variables. -/
theorem HookInv.frame {x y : AuthEmu} (hinv : HookInv x) (hhook : y.authHook = x.authHook)
    (hevents : y.hookEvents = x.hookEvents) : HookInv y where
  installed_eq := by rw [hhook, hevents, hinv.installed_eq]
  ne_zero := by rw [hhook]; exact hinv.ne_zero
  released := by rw [hevents]; exact hinv.released

theorem HookInv.clear {x : AuthEmu} (hinv : HookInv x) : HookInv (kClearSecret x).2 :=
  hinv.frame rfl rfl

theorem HookInv.disable {x : AuthEmu} (hinv : HookInv x) (releaseResult : Int) :
    HookInv (kDisableGcEmuMgr releaseResult x).2 := by
  unfold kDisableGcEmuMgr
  split
  · next hge =>
    split
    · -- the hook that is released is the one in place
      have hpos : x.authHook > 0 := by
        have hne := hinv.ne_zero
        omega
      have hinstalled : installed x.hookEvents = [x.authHook] := by
        rw [hinv.installed_eq, if_pos hpos]
      constructor
      · simp [installed, hinstalled]
      · simp
      · intro newer uid older h
        cases newer with
        | nil =>
          obtain ⟨rfl, rfl⟩ : x.authHook = uid ∧ x.hookEvents = older := by simpa using h
          simp [hinstalled]
        | cons e newer =>
          rcases List.cons.inj h with ⟨-, hrest⟩
          exact hinv.released newer uid older hrest
    · exact hinv
  · exact hinv

theorem HookInv.enable {x : AuthEmu} (hinv : HookInv x) (hookResult : HookResult) :
    HookInv (kEnableGcEmuMgr hookResult x).2 := by
  unfold kEnableGcEmuMgr kClearSecret
  dsimp only
  split
  · next hle =>
    -- no hook is in place when one is asked for
    have hinstalled : installed x.hookEvents = [] := by
      rw [hinv.installed_eq, if_neg (by omega)]
    by_cases hpos : hookResult.val > 0
    · constructor
      · simp [hpos, installed, hinstalled]
      · exact hookResult.ne_zero
      · intro newer uid older h
        rw [if_pos hpos] at h
        cases newer with
        | nil => simp at h
        | cons e newer =>
          rcases List.cons.inj h with ⟨-, hrest⟩
          exact hinv.released newer uid older hrest
    · constructor
      · simp [hpos, hinstalled]
      · exact hookResult.ne_zero
      · rw [if_neg hpos]
        exact hinv.released
  · exact hinv.frame rfl rfl

theorem HookInv.authenticate {x : AuthEmu} (hinv : HookInv x) (keyId : UInt16)
    (env : AuthEnv σ ρ) : HookInv (kRunAuthentication aes rng t cb keyId env x).2 := by
  unfold kRunAuthentication
  generalize authRun aes rng t cb env = r
  dsimp only
  split
  · exact hinv.frame rfl rfl
  · split
    · refine HookInv.disable ?_ env.releaseResult
      exact hinv.frame rfl rfl
    · exact hinv.frame rfl rfl

/-- One call preserves the hook invariant. -/
theorem hookInv_step {x : AuthEmu} (hinv : HookInv x) (c : AuthCall σ ρ) :
    HookInv ((authEmu aes rng t cb).step x c).1 := by
  cases c with
  | enable hookResult => exact hinv.enable hookResult
  | disable releaseResult => exact hinv.disable releaseResult
  | clear => exact hinv.clear
  | authenticate keyId env => exact hinv.authenticate aes rng t cb keyId env

/-! ## The captured keys -/

/-- Since the latest `k_run_authentication`, which ran the handshake to
`GC_AUTH_OK`, nothing but releases of the hook was asked for, and the console
state is the one that run ended in. -/
def FromLatestRun (x : AuthEmu) (log : History (AuthCall σ ρ) Int) : Prop :=
  ∃ newer keyId env older, log = newer ++ (.authenticate keyId env, 0x00) :: older ∧
    (∀ e ∈ newer, ∃ releaseResult, e.1 = .disable releaseResult) ∧
    (authRun aes rng t cb env).1 = .ok ∧ x.vitaState = (authRun aes rng t cb env).2.state

/-- Either nothing is captured and everything is cleared, or the capture is
that of the latest run. -/
def KeysInv (x : AuthEmu) (log : History (AuthCall σ ρ) Int) : Prop :=
  x.isAuthenticated = 0 ∧ x.vitaState = VitaCmd56State.zero ∨
    x.isAuthenticated = 1 ∧ FromLatestRun aes rng t cb x log

theorem kDisableGcEmuMgr_keys (releaseResult : Int) (x : AuthEmu) :
    (kDisableGcEmuMgr releaseResult x).2.vitaState = x.vitaState ∧
      (kDisableGcEmuMgr releaseResult x).2.isAuthenticated = x.isAuthenticated := by
  unfold kDisableGcEmuMgr
  split
  · split <;> exact ⟨rfl, rfl⟩
  · exact ⟨rfl, rfl⟩

theorem kEnableGcEmuMgr_keys (hookResult : HookResult) (x : AuthEmu) :
    (kEnableGcEmuMgr hookResult x).2.vitaState = VitaCmd56State.zero ∧
      (kEnableGcEmuMgr hookResult x).2.isAuthenticated = 0 := by
  unfold kEnableGcEmuMgr kClearSecret
  dsimp only
  split <;> exact ⟨rfl, rfl⟩

/-- The three ways out of `k_run_authentication`: only success leaves anything
in the console state. -/
theorem kRunAuthentication_keys (keyId : UInt16) (env : AuthEnv σ ρ) (x : AuthEmu) :
    let y := kRunAuthentication aes rng t cb keyId env x
    y.2.isAuthenticated = 0 ∧ y.2.vitaState = VitaCmd56State.zero ∨
      y.2.isAuthenticated = 1 ∧ y.1 = 0x00 ∧ (authRun aes rng t cb env).1 = .ok ∧
        y.2.vitaState = (authRun aes rng t cb env).2.state := by
  unfold kRunAuthentication
  generalize authRun aes rng t cb env = r
  dsimp only
  split
  · exact Or.inl ⟨rfl, rfl⟩
  · split
    · next hok =>
      obtain ⟨hstate, hauth⟩ := kDisableGcEmuMgr_keys env.releaseResult
        { (kClearSecret x).2 with
          ctx := env.ctx, vitaState := r.2.state, isAuthenticated := 1 }
      exact Or.inr ⟨hauth, rfl, hok, hstate⟩
    · exact Or.inl ⟨rfl, rfl⟩

variable {aes rng t cb} in
/-- One call preserves the invariant of the captured keys. -/
theorem keysInv_step {x : AuthEmu} {log : History (AuthCall σ ρ) Int}
    (hinv : KeysInv aes rng t cb x log) (c : AuthCall σ ρ) :
    KeysInv aes rng t cb ((authEmu aes rng t cb).step x c).1
      ((c, ((authEmu aes rng t cb).step x c).2) :: log) := by
  cases c with
  | enable hookResult =>
    rcases kEnableGcEmuMgr_keys hookResult x with ⟨hstate, hauth⟩
    exact Or.inl ⟨hauth, hstate⟩
  | disable releaseResult =>
    rcases kDisableGcEmuMgr_keys releaseResult x with ⟨hstate, hauth⟩
    rcases hinv with ⟨hzero, hclear⟩ | ⟨hone, newer, keyId, env, older, rfl, hnewer, hok, hrun⟩
    · exact Or.inl ⟨hauth.trans hzero, hstate.trans hclear⟩
    · refine Or.inr ⟨hauth.trans hone, _ :: newer, keyId, env, older, rfl, ?_, hok,
        hstate.trans hrun⟩
      intro e he
      rcases List.mem_cons.mp he with rfl | hmem
      · exact ⟨releaseResult, rfl⟩
      · exact hnewer e hmem
  | clear => exact Or.inl ⟨rfl, rfl⟩
  | authenticate keyId env =>
    rcases kRunAuthentication_keys aes rng t cb keyId env x with
      ⟨hzero, hclear⟩ | ⟨hone, hret, hok, hrun⟩
    · exact Or.inl ⟨hzero, hclear⟩
    · refine Or.inr ⟨hone, [], keyId, env, log, ?_, by simp, hok, hrun⟩
      rw [List.nil_append]
      exact congrArg (fun ret => (AuthCall.authenticate keyId env, ret) :: log) hret

/-! ## Runs -/

/-- Both invariants hold after every sequence of calls. -/
theorem authEmu_run (calls : List (AuthCall σ ρ)) :
    let r := (authEmu aes rng t cb).run AuthEmu.init calls
    HookInv r.1 ∧ KeysInv aes rng t cb r.1 r.2 :=
  (authEmu aes rng t cb).run_induction
    (fun x log => HookInv x ∧ KeysInv aes rng t cb x log)
    ⟨hookInv_init, Or.inl ⟨rfl, rfl⟩⟩
    (fun _ _ c hinv => ⟨hookInv_step aes rng t cb hinv.1 c, keysInv_step hinv.2 c⟩) calls

/-- The state of the module after any sequence of calls: at most one hook, known
to the module and never released twice; captured keys exactly from the latest
successful run, and nothing at all otherwise. -/
theorem authEmu_state (calls : List (AuthCall σ ρ)) :
    let r := (authEmu aes rng t cb).run AuthEmu.init calls
    ((installed r.1.hookEvents).length ≤ 1 ∧
      (r.1.authHook > 0 ↔ installed r.1.hookEvents = [r.1.authHook]) ∧
      (¬ r.1.authHook > 0 ↔ installed r.1.hookEvents = []) ∧
      ∀ newer uid older, r.1.hookEvents = newer ++ .released uid :: older →
        uid ∈ installed older) ∧
    (r.1.isAuthenticated = 0 ∨ r.1.isAuthenticated = 1) ∧
    (r.1.isAuthenticated = 1 → FromLatestRun aes rng t cb r.1 r.2) ∧
    (r.1.isAuthenticated = 0 → r.1.vitaState = VitaCmd56State.zero ∧
      kGetPerCartKeys r.1 = Cmd56Keys.zero ∧ kGetKeyId r.1 = 0) := by
  intro r
  -- the hook and the keys have an invariant each, and neither needs the other
  rcases authEmu_run aes rng t cb calls with ⟨hhook, hkeys⟩
  have hinstalled : installed r.1.hookEvents =
      if r.1.authHook > 0 then [r.1.authHook] else [] := hhook.installed_eq
  refine ⟨⟨?_, ?_, ?_, hhook.released⟩, ?_, ?_, ?_⟩
  · rw [hinstalled]
    split <;> simp
  · rw [hinstalled]
    split <;> simp [*]
  · rw [hinstalled]
    split <;> simp [*]
  · rcases hkeys with ⟨hzero, -⟩ | ⟨hone, -⟩
    · exact Or.inl hzero
    · exact Or.inr hone
  · intro hauth
    rcases hkeys with ⟨hzero, -⟩ | ⟨-, hrun⟩
    · exact absurd (hauth.symm.trans hzero) (by decide)
    · exact hrun
  · intro hauth
    rcases hkeys with ⟨-, hclear⟩ | ⟨hone, -⟩
    · have hvita : r.1.vitaState = VitaCmd56State.zero := hclear
      rw [kGetPerCartKeys, kGetKeyId, hvita]
      exact ⟨rfl, rfl, rfl⟩
    · exact absurd (hauth.symm.trans hone) (by decide)

end GcToolKit.Kern
