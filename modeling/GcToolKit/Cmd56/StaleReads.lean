import GcToolKit.Cmd56.Soundness

/-!
# Reads that fail (cmd56/vita.c, auth_emu.c)

`k_gc_cmd56_read` only prints what `ksceSdifReadCmd56` returned, so a step that
follows a failed read looks at what the buffer held before. `dropping t fails`
is the cart `t` behind a bus on which read number `k` fails where `fails k`
says so. A completed run is told apart from one without failures only by where
its responses came from: each failed read was answered by the buffer.
-/

namespace GcToolKit.Cmd56

open ByteBuf GcToolKit.Crypto

variable {σ ρ : Type} {aes : BlockCipher} {rng : Rng ρ}

/-- Reads are counted; one that fails leaves the buffer as it was. -/
def Transport.dropping (t : Transport σ) (fails : Nat → Bool) : Transport (σ × Nat) where
  send request bus := (t.send request bus.1, bus.2)
  recv buffer bus :=
    let (response, s) := t.recv buffer bus.1
    if fails bus.2 then (buffer, (s, bus.2 + 1)) else (response, (s, bus.2 + 1))

/-! ## One read -/

variable {t : Transport σ} {fails : Nat → Bool} {x y : VitaRun (σ × Nat) ρ}

/-- From `x` to `y` one packet was exchanged; where the read failed the response
is the old buffer, and the step left `left response` in it. -/
structure Received (fails : Nat → Bool) (left : Cmd56Response → Cmd56Response)
    (x y : VitaRun (σ × Nat) ρ) (e : Exchange) : Prop where
  log : y.log = x.log ++ [e]
  count : y.bus.2 = x.bus.2 + 1
  stale : fails x.bus.2 = true → e.response = x.response
  response : y.response = left e.response

/-- What decrypting the first `size` bytes in place leaves. -/
def opened (aes : BlockCipher) (ctx : AesCtx) (size : Nat)
    (h : 0 + 16 * blocks size ≤ 0x1f5 := by decide) (response : Cmd56Response) : Cmd56Response :=
  { response with data := decryptCbcZeroIv aes ctx response.data size h }

/-- The cart moves on whether or not the console gets its answer. -/
theorem sendPacket_bus (x : VitaRun (σ × Nat) ρ) :
    (sendPacket (t.dropping fails) x).bus =
      ((t.recv x.response (t.send x.request x.bus.1)).2, x.bus.2 + 1) := by
  by_cases hfail : fails x.bus.2 = true <;> simp [sendPacket, Transport.dropping, hfail]

theorem sendPacket_failed (hfail : fails x.bus.2 = true) :
    (sendPacket (t.dropping fails) x).response = x.response := by
  simp [sendPacket, Transport.dropping, hfail]

/-- A step is one read between what it sets up and what it makes of the response. -/
theorem received_of_send {left : Cmd56Response → Cmd56Response} (z : VitaRun (σ × Nat) ρ)
    (hbefore : z.log = x.log ∧ z.bus = x.bus ∧ z.response = x.response)
    (hafter : let s := sendPacket (t.dropping fails) z
      y.log = s.log ∧ y.bus = s.bus ∧ y.response = left s.response) :
    ∃ e, Received fails left x y e := by
  rcases hbefore with ⟨hlog, hbus, hresponse⟩
  rcases hafter with ⟨hlog', hbus', hresponse'⟩
  refine ⟨⟨z.request, (sendPacket (t.dropping fails) z).response⟩, ?_, ?_, ?_, hresponse'⟩
  · rw [hlog', ← hlog]
    rfl
  · rw [hbus', sendPacket_bus, hbus]
  · intro hfail
    rw [← hbus] at hfail
    rw [← hresponse]
    exact sendPacket_failed hfail

theorem received_of_exchange {left : Cmd56Response → Cmd56Response} (request : Cmd56Request)
    (hafter : let s := exchange (t.dropping fails) request x
      y.log = s.log ∧ y.bus = s.bus ∧ y.response = left s.response) :
    ∃ e, Received fails left x y e :=
  received_of_send { x with request } ⟨rfl, rfl, rfl⟩ hafter

/-- The state, which some steps change before they send, plays no part. -/
theorem received_of_exchangeDrawn {left : Cmd56Response → Cmd56Response}
    {request : Cmd56Request} {z s : VitaRun (σ × Nat) ρ}
    (hs : exchangeDrawn rng (t.dropping fails) request z = s)
    (hbefore : z.log = x.log ∧ z.bus = x.bus ∧ z.response = x.response)
    (hafter : y.log = s.log ∧ y.bus = s.bus ∧ y.response = left s.response) :
    ∃ e, Received fails left x y e := by
  subst hs
  exact received_of_send { z with request, rand := afterDraw rng z.rand } hbefore hafter

/-! ## The steps -/

theorem startRequest_received (h : startRequest (t.dropping fails) x = (.ok, y)) :
    ∃ e, Received fails id x y e := by
  rcases (startRequest_eq_ok _).mp h with ⟨-, -, hy⟩
  subst hy
  exact received_of_exchange startPacket ⟨rfl, rfl, rfl⟩

theorem getStatus_received (h : getStatus (t.dropping fails) x = (.ok, y)) :
    ∃ e, Received fails id x y e := by
  rcases (getStatus_eq_ok _).mp h with ⟨-, hy⟩
  subst hy
  exact received_of_exchange statusPacket ⟨rfl, rfl, rfl⟩

theorem getSessionKey_received (h : getSessionKey aes (t.dropping fails) x = (.ok, y)) :
    ∃ e, Received fails id x y e := by
  rcases (getSessionKey_eq_ok _ _).mp h with ⟨-, -, key, -, hy⟩
  subst hy
  exact received_of_exchange sessionKeyPacket ⟨rfl, rfl, rfl⟩

theorem exchangeSharedRandom_received
    (h : exchangeSharedRandom aes rng (t.dropping fails) x = (.ok, y)) :
    ∃ e, Received fails (opened aes x.state.sessionKey 0x20) x y e := by
  rcases (exchangeSharedRandom_eq_ok _ _ _).mp h with ⟨-, -, hy⟩
  dsimp only at hy
  generalize hs : exchangeDrawn rng (t.dropping fails) _ _ = s at hy
  subst hy
  exact received_of_exchangeDrawn hs ⟨rfl, rfl, rfl⟩ ⟨rfl, rfl, rfl⟩

theorem generateSecondaryKeyAndVerifySession_received
    (h : generateSecondaryKeyAndVerifySession aes rng (t.dropping fails) x = (.ok, y)) :
    ∃ e, Received fails id x y e := by
  rcases (generateSecondaryKeyAndVerifySession_eq_ok _ _ _).mp h with ⟨-, hy⟩
  dsimp only at hy
  generalize hs : exchangeDrawn rng (t.dropping fails) _ _ = s at hy
  subst hy
  exact received_of_exchangeDrawn hs ⟨rfl, rfl, rfl⟩ ⟨rfl, rfl, rfl⟩

theorem verifySecondaryKey_received
    (h : verifySecondaryKey aes rng (t.dropping fails) x = (.ok, y)) :
    ∃ e, Received fails (opened aes x.state.secondaryKey 0x40) x y e := by
  rcases (verifySecondaryKey_eq_ok _ _ _).mp h with ⟨-, -, -, hy⟩
  dsimp only at hy
  generalize hs : exchangeDrawn rng (t.dropping fails) _ _ = s at hy
  subst hy
  exact received_of_exchangeDrawn hs ⟨rfl, rfl, rfl⟩ ⟨rfl, rfl, rfl⟩

theorem getPacket18Key_received {type : UInt8}
    (h : getPacket18Key aes rng (t.dropping fails) type x = (.ok, y)) :
    ∃ e, Received fails (opened aes x.state.secondaryKey 0x30) x y e := by
  rcases (getPacket18Key_eq_ok _ _ _ _).mp h with ⟨-, -, -, hy⟩
  dsimp only at hy
  generalize hs : exchangeDrawn rng (t.dropping fails) _ _ = s at hy
  subst hy
  exact received_of_exchangeDrawn hs ⟨rfl, rfl, rfl⟩ ⟨rfl, rfl, rfl⟩

theorem getPacket20Key_received
    (h : getPacket20Key aes rng (t.dropping fails) x = (.ok, y)) :
    ∃ e, Received fails (opened aes x.state.secondaryKey 0x40) x y e := by
  rcases (getPacket20Key_eq_ok _ _ _).mp h with ⟨-, -, -, hy⟩
  dsimp only at hy
  generalize hs : exchangeDrawn rng (t.dropping fails) _ _ = s at hy
  subst hy
  exact received_of_exchangeDrawn hs ⟨rfl, rfl, rfl⟩ ⟨rfl, rfl, rfl⟩

/-! ## The whole handshake -/

/-- What is in the buffer before each of the ten reads: the response before it,
as the step that received it left it. -/
def Transcript.leftBefore (aes : BlockCipher) (final : VitaCmd56State) (tr : Transcript) :
    List Cmd56Response :=
  [Cmd56Response.zero,
    tr.start.response,
    tr.firstStatus.response,
    tr.sessionKey.response,
    opened aes final.sessionKey 0x20 (by decide) tr.sharedRandom.response,
    tr.secondaryKey.response,
    tr.secondStatus.response,
    opened aes final.secondaryKey 0x40 (by decide) tr.verify.response,
    opened aes final.secondaryKey 0x30 (by decide) tr.p18First.response,
    opened aes final.secondaryKey 0x30 (by decide) tr.p18Second.response]

theorem Transcript.toList_injective {tr tr' : Transcript} (h : tr.toList = tr'.toList) :
    tr = tr' := by
  cases tr
  cases tr'
  simpa [Transcript.toList] using h

/-- Each failed read was answered by what the buffer held. -/
def StaleWhereFailed (aes : BlockCipher) (fails : Nat → Bool) (final : VitaCmd56State)
    (tr : Transcript) : Prop :=
  ∀ k < 10, fails k = true →
    (tr.toList.map Exchange.response)[k]? = (tr.leftBefore aes final)[k]?

theorem vitaCmd56Steps_stale
    (h : vitaCmd56Steps aes rng (t.dropping fails) x = (.ok, y)) (hlog : x.log = [])
    (hcount : x.bus.2 = 0) (hbuffer : x.response = Cmd56Response.zero) :
    ∃ tr : Transcript, y.log = tr.toList ∧ y.bus.2 = 10 ∧
      StaleWhereFailed aes fails y.state tr := by
  rcases vitaCmd56Steps_chain h with
    ⟨x₁, x₂, x₃, x₄, x₅, x₆, x₇, x₈, x₉, h₁, h₂, -, h₃, h₄, h₅, h₆, -, h₇, h₈, h₉, h₁₀⟩
  rcases startRequest_received h₁ with ⟨e₁, r₁⟩
  rcases getStatus_received h₂ with ⟨e₂, r₂⟩
  rcases getSessionKey_received h₃ with ⟨e₃, r₃⟩
  rcases exchangeSharedRandom_received h₄ with ⟨e₄, r₄⟩
  rcases generateSecondaryKeyAndVerifySession_received h₅ with ⟨e₅, r₅⟩
  rcases getStatus_received h₆ with ⟨e₆, r₆⟩
  rcases verifySecondaryKey_received h₇ with ⟨e₇, r₇⟩
  rcases getPacket18Key_received h₈ with ⟨e₈, r₈⟩
  rcases getPacket18Key_received h₉ with ⟨e₉, r₉⟩
  rcases getPacket20Key_received h₁₀ with ⟨e₁₀, r₁₀⟩
  rcases exchangeSharedRandom_inv h₄ with ⟨-, _, -, -, -, hs₄, -⟩
  rcases generateSecondaryKeyAndVerifySession_inv h₅ with ⟨-, _, -, -, hs₅, -⟩
  rcases getStatus_inv h₆ with ⟨_, -, -, hs₆, -⟩
  rcases verifySecondaryKey_inv h₇ with ⟨-, -, -, -, hs₇, -⟩
  rcases getPacket18Key_inv h₈ with ⟨-, _, -, -, -, hs₈, -⟩
  rcases getPacket18Key_inv h₉ with ⟨-, _, -, -, -, hs₉, -⟩
  rcases getPacket20Key_inv h₁₀ with ⟨-, _, -, -, -, hs₁₀, -⟩
  -- the keys that decrypt are the ones the run ends with
  have hsession : y.state.sessionKey = x₃.state.sessionKey := by
    rw [hs₁₀, hs₉, hs₈, hs₇, hs₆, hs₅, hs₄]
  have hsecondary₈ : y.state.secondaryKey = x₈.state.secondaryKey := by rw [hs₁₀, hs₉]
  have hsecondary₇ : y.state.secondaryKey = x₇.state.secondaryKey := by rw [hsecondary₈, hs₈]
  have hsecondary₆ : y.state.secondaryKey = x₆.state.secondaryKey := by rw [hsecondary₇, hs₇]
  -- how many reads there were before each
  have hc₁ : x₁.bus.2 = 1 := by rw [r₁.count, hcount]
  have hc₂ : x₂.bus.2 = 2 := by rw [r₂.count, hc₁]
  have hc₃ : x₃.bus.2 = 3 := by rw [r₃.count, hc₂]
  have hc₄ : x₄.bus.2 = 4 := by rw [r₄.count, hc₃]
  have hc₅ : x₅.bus.2 = 5 := by rw [r₅.count, hc₄]
  have hc₆ : x₆.bus.2 = 6 := by rw [r₆.count, hc₅]
  have hc₇ : x₇.bus.2 = 7 := by rw [r₇.count, hc₆]
  have hc₈ : x₈.bus.2 = 8 := by rw [r₈.count, hc₇]
  have hc₉ : x₉.bus.2 = 9 := by rw [r₉.count, hc₈]
  refine ⟨⟨e₁, e₂, e₃, e₄, e₅, e₆, e₇, e₈, e₉, e₁₀⟩, ?_, ?_, ?_⟩
  · rw [r₁₀.log, r₉.log, r₈.log, r₇.log, r₆.log, r₅.log, r₄.log, r₃.log, r₂.log, r₁.log, hlog]
    rfl
  · rw [r₁₀.count, hc₉]
  · intro k hk hfail
    -- one case for each read
    match k with
    | 0 => exact congrArg some ((r₁.stale (by rw [hcount]; exact hfail)).trans hbuffer)
    | 1 => exact congrArg some ((r₂.stale (by rw [hc₁]; exact hfail)).trans r₁.response)
    | 2 => exact congrArg some ((r₃.stale (by rw [hc₂]; exact hfail)).trans r₂.response)
    | 3 => exact congrArg some ((r₄.stale (by rw [hc₃]; exact hfail)).trans r₃.response)
    | 4 =>
      rw [← hsession] at r₄
      exact congrArg some ((r₅.stale (by rw [hc₄]; exact hfail)).trans r₄.response)
    | 5 => exact congrArg some ((r₆.stale (by rw [hc₅]; exact hfail)).trans r₅.response)
    | 6 => exact congrArg some ((r₇.stale (by rw [hc₆]; exact hfail)).trans r₆.response)
    | 7 =>
      rw [← hsecondary₆] at r₇
      exact congrArg some ((r₈.stale (by rw [hc₇]; exact hfail)).trans r₇.response)
    | 8 =>
      rw [← hsecondary₇] at r₈
      exact congrArg some ((r₉.stale (by rw [hc₈]; exact hfail)).trans r₈.response)
    | 9 =>
      rw [← hsecondary₈] at r₉
      exact congrArg some ((r₁₀.stale (by rw [hc₉]; exact hfail)).trans r₉.response)

/-- Two zero bytes at the start are a lock status of zero. -/
theorem reportedStatus_of_start {response : Cmd56Response}
    (hfirst : first (StartResponse.start.get response.data) = 0)
    (hsecond : second (StartResponse.start.get response.data) = 0) :
    reportedStatus response = 0 := by
  have hbytes : GetStatusResponse.status.get response.data = #v[0, 0] := by
    apply Vector.ext
    intro i hi
    have hi' : i = 0 ∨ i = 1 := by omega
    rcases hi' with rfl | rfl
    · simpa [first, Field.get] using hfirst
    · simpa [second, Field.get] using hsecond
  rw [reportedStatus, hbytes]
  rfl

/-- The response to the start request does not pass for a locked status, so the
second read did not fail. -/
theorem second_read_succeeded
    (h : vitaCmd56Steps aes rng (t.dropping fails) x = (.ok, y)) (hcount : x.bus.2 = 0) :
    fails 1 = false := by
  rcases vitaCmd56Steps_chain h with ⟨x₁, x₂, -, -, -, -, -, -, -, h₁, h₂, hlocked, -⟩
  rcases startRequest_received h₁ with ⟨e₁, r₁⟩
  rcases getStatus_received h₂ with ⟨e₂, r₂⟩
  have hzero : reportedStatus e₁.response = 0 := by
    rcases (startRequest_eq_ok _).mp h₁ with ⟨⟨hfirst, hsecond⟩, -, hx₁⟩
    rw [hx₁] at hfirst hsecond
    have hresponse : e₁.response = x₁.response := r₁.response.symm
    rw [hresponse]
    exact reportedStatus_of_start hfirst hsecond
  have hstatus : x₂.state.lockStatus = reportedStatus e₂.response := by
    have hresponse : e₂.response = x₂.response := r₂.response.symm
    rcases (getStatus_eq_ok _).mp h₂ with ⟨-, hx₂⟩
    rw [hresponse, ← hx₂]
  by_contra hfail
  have hfail₁ : fails x₁.bus.2 = true := by
    rw [r₁.count, hcount]
    simpa using hfail
  have hstale : e₂.response = e₁.response := (r₂.stale hfail₁).trans r₁.response
  rw [hstatus, hstale, hzero] at hlocked
  exact absurd hlocked (by decide)

/-! ## From where no read fails -/

/-- The run without the count of its reads. -/
def forget (x : VitaRun (σ × Nat) ρ) : VitaRun σ ρ :=
  ⟨x.state, x.request, x.response, x.bus.1, x.rand, x.log⟩

/-- No read to come fails. -/
def Reliable (fails : Nat → Bool) (x : VitaRun (σ × Nat) ρ) : Prop :=
  ∀ k, x.bus.2 ≤ k → fails k = false

theorem Reliable.of_bus (h : Reliable fails x) (hbus : y.bus = x.bus) : Reliable fails y := by
  intro k hk
  rw [hbus] at hk
  exact h k hk

/-- Where `r'` succeeds, so does `r`, in the same way. -/
def Follows (fails : Nat → Bool) (r : VitaErrorCode × VitaRun (σ × Nat) ρ)
    (r' : VitaErrorCode × VitaRun σ ρ) : Prop :=
  ∀ y', r' = (.ok, y') → ∃ y, r = (.ok, y) ∧ forget y = y' ∧ Reliable fails y

theorem sendPacket_forget (h : Reliable fails x) :
    sendPacket t (forget x) = forget (sendPacket (t.dropping fails) x) := by
  have hread : fails x.bus.2 = false := h _ (Nat.le_refl _)
  simp [sendPacket, Transport.dropping, forget, hread]

theorem sendPacket_reliable (h : Reliable fails x) :
    Reliable fails (sendPacket (t.dropping fails) x) := by
  intro k hk
  rw [sendPacket_bus] at hk
  exact h k (Nat.le_of_succ_le hk)

theorem checkSuccess_follows {r : VitaErrorCode × VitaRun (σ × Nat) ρ}
    {r' : VitaErrorCode × VitaRun σ ρ}
    {next : VitaRun (σ × Nat) ρ → VitaErrorCode × VitaRun (σ × Nat) ρ}
    {next' : VitaRun σ ρ → VitaErrorCode × VitaRun σ ρ} (hr : Follows fails r r')
    (hnext : ∀ x, Reliable fails x → Follows fails (next x) (next' (forget x))) :
    Follows fails (checkSuccess r next) (checkSuccess r' next') := by
  intro y' h
  rcases checkSuccess_eq_ok h with ⟨x', hx', h'⟩
  rcases hr x' hx' with ⟨x, hx, rfl, hreliable⟩
  rcases hnext x hreliable y' h' with ⟨y, hy, hforget, hreliable'⟩
  refine ⟨y, ?_, hforget, hreliable'⟩
  rw [hx, checkSuccess_ok, hy]

theorem getStatus_follows (h : Reliable fails x) :
    Follows fails (getStatus (t.dropping fails) x) (getStatus t (forget x)) := by
  intro y' hok
  have hs : exchange t statusPacket (forget x) =
      forget (exchange (t.dropping fails) statusPacket x) :=
    sendPacket_forget (x := { x with request := statusPacket }) h
  rcases (getStatus_eq_ok t).mp hok with ⟨herr, hy'⟩
  rw [hs] at herr hy'
  exact ⟨_, (getStatus_eq_ok _).mpr ⟨herr, rfl⟩, hy',
    sendPacket_reliable (x := { x with request := statusPacket }) h⟩

theorem getSessionKey_follows (h : Reliable fails x) :
    Follows fails (getSessionKey aes (t.dropping fails) x) (getSessionKey aes t (forget x)) := by
  intro y' hok
  have hs : exchange t sessionKeyPacket (forget x) =
      forget (exchange (t.dropping fails) sessionKeyPacket x) :=
    sendPacket_forget (x := { x with request := sessionKeyPacket }) h
  rcases (getSessionKey_eq_ok aes t).mp hok with ⟨hpolicy, herr, key, hkey, hy'⟩
  rw [hs] at hpolicy herr hkey hy'
  exact ⟨_, (getSessionKey_eq_ok _ _).mpr ⟨hpolicy, herr, key, hkey, rfl⟩, hy',
    sendPacket_reliable (x := { x with request := sessionKeyPacket }) h⟩

@[simp] theorem forget_state : (forget x).state = x.state := rfl

@[simp] theorem forget_rand : (forget x).rand = x.rand := rfl

@[simp] theorem forget_response : (forget x).response = x.response := rfl

theorem exchangeDrawn_forget (rng : Rng ρ) (t : Transport σ) (request : Cmd56Request)
    (h : Reliable fails x) :
    exchangeDrawn rng t request (forget x) =
      forget (exchangeDrawn rng (t.dropping fails) request x) :=
  sendPacket_forget (x := { x with request, rand := afterDraw rng x.rand }) h

theorem exchangeDrawn_reliable (rng : Rng ρ) (t : Transport σ) (request : Cmd56Request)
    (h : Reliable fails x) : Reliable fails (exchangeDrawn rng (t.dropping fails) request x) :=
  sendPacket_reliable (x := { x with request, rand := afterDraw rng x.rand }) h

/-- The same for a step that changes the state before it sends. -/
theorem exchangeDrawn_forget_with (rng : Rng ρ) (t : Transport σ) (request : Cmd56Request)
    (state : VitaCmd56State) (h : Reliable fails x) :
    exchangeDrawn rng t request { forget x with state } =
      forget (exchangeDrawn rng (t.dropping fails) request { x with state }) :=
  exchangeDrawn_forget (x := { x with state }) rng t request h

theorem exchangeSharedRandom_follows (h : Reliable fails x) :
    Follows fails (exchangeSharedRandom aes rng (t.dropping fails) x)
      (exchangeSharedRandom aes rng t (forget x)) := by
  simp only [Follows, exchangeSharedRandom_eq_ok, exchangeDrawn_forget_with rng t _ _ h]
  simp only [forget_state, forget_rand, forget_response]
  generalize hs : exchangeDrawn rng (t.dropping fails) _ _ = s
  have hreliable : Reliable fails s := by
    rw [← hs]
    exact exchangeDrawn_reliable rng t _ (h.of_bus rfl)
  rintro y' ⟨herr, hecho, hy'⟩
  refine ⟨_, ⟨herr, hecho, rfl⟩, ?_, ?_⟩
  · exact hy'
  · exact hreliable.of_bus rfl

theorem generateSecondaryKeyAndVerifySession_follows (h : Reliable fails x) :
    Follows fails (generateSecondaryKeyAndVerifySession aes rng (t.dropping fails) x)
      (generateSecondaryKeyAndVerifySession aes rng t (forget x)) := by
  simp only [Follows, generateSecondaryKeyAndVerifySession_eq_ok, exchangeDrawn_forget_with rng t _ _ h]
  simp only [forget_state, forget_rand, forget_response]
  generalize hs : exchangeDrawn rng (t.dropping fails) _ _ = s
  have hreliable : Reliable fails s := by
    rw [← hs]
    exact exchangeDrawn_reliable rng t _ (h.of_bus rfl)
  rintro y' ⟨herr, hy'⟩
  refine ⟨_, ⟨herr, rfl⟩, ?_, ?_⟩
  · exact hy'
  · exact hreliable.of_bus rfl

theorem verifySecondaryKey_follows (h : Reliable fails x) :
    Follows fails (verifySecondaryKey aes rng (t.dropping fails) x)
      (verifySecondaryKey aes rng t (forget x)) := by
  simp only [Follows, verifySecondaryKey_eq_ok, exchangeDrawn_forget rng t _ h,
    forget_state, forget_rand, forget_response]
  generalize hs : exchangeDrawn rng (t.dropping fails) _ _ = s
  have hreliable : Reliable fails s := by
    rw [← hs]
    exact exchangeDrawn_reliable rng t _ h
  rintro y' ⟨hchallenge, hcart, herr, hy'⟩
  refine ⟨_, ⟨hchallenge, hcart, herr, rfl⟩, ?_, ?_⟩
  · exact hy'
  · exact hreliable.of_bus rfl

theorem getPacket18Key_follows (type : UInt8) (h : Reliable fails x) :
    Follows fails (getPacket18Key aes rng (t.dropping fails) type x)
      (getPacket18Key aes rng t type (forget x)) := by
  simp only [Follows, getPacket18Key_eq_ok, exchangeDrawn_forget rng t _ h,
    forget_state, forget_rand, forget_response]
  generalize hs : exchangeDrawn rng (t.dropping fails) _ _ = s
  have hreliable : Reliable fails s := by
    rw [← hs]
    exact exchangeDrawn_reliable rng t _ h
  rintro y' ⟨herr, hcmac, hchallenge, hy'⟩
  refine ⟨_, ⟨herr, hcmac, hchallenge, rfl⟩, ?_, ?_⟩
  · exact hy'
  · exact hreliable.of_bus rfl

theorem getPacket20Key_follows (h : Reliable fails x) :
    Follows fails (getPacket20Key aes rng (t.dropping fails) x)
      (getPacket20Key aes rng t (forget x)) := by
  simp only [Follows, getPacket20Key_eq_ok, exchangeDrawn_forget rng t _ h,
    forget_state, forget_rand, forget_response]
  generalize hs : exchangeDrawn rng (t.dropping fails) _ _ = s
  have hreliable : Reliable fails s := by
    rw [← hs]
    exact exchangeDrawn_reliable rng t _ h
  rintro y' ⟨herr, hcmac, hchallenge, hy'⟩
  refine ⟨_, ⟨herr, hcmac, hchallenge, rfl⟩, ?_, ?_⟩
  · exact hy'
  · exact hreliable.of_bus rfl

/-- Once no read fails any more, the handshake goes as with the cart itself. -/
theorem afterStart_follows (h : Reliable fails x) :
    Follows fails (afterStart aes rng (t.dropping fails) x)
      (afterStart aes rng t (forget x)) := by
  unfold afterStart
  refine checkSuccess_follows (getStatus_follows h) fun x h => ?_
  by_cases hlocked : x.state.lockStatus = gcLocked
  case neg =>
    intro y' hok
    rw [forget_state, if_pos hlocked] at hok
    cases congrArg Prod.fst hok
  rw [forget_state, if_neg (not_not.mpr hlocked), if_neg (not_not.mpr hlocked)]
  refine checkSuccess_follows (getSessionKey_follows h) fun x h => ?_
  refine checkSuccess_follows (exchangeSharedRandom_follows h) fun x h => ?_
  refine checkSuccess_follows (generateSecondaryKeyAndVerifySession_follows h) fun x h => ?_
  refine checkSuccess_follows (getStatus_follows h) fun x h => ?_
  by_cases hunlocked : x.state.lockStatus = gcUnlocked
  case neg =>
    intro y' hok
    rw [forget_state, if_pos hunlocked] at hok
    cases congrArg Prod.fst hok
  rw [forget_state, if_neg (not_not.mpr hunlocked), if_neg (not_not.mpr hunlocked)]
  refine checkSuccess_follows (verifySecondaryKey_follows h) fun x h => ?_
  refine checkSuccess_follows (getPacket18Key_follows 0x2 h) fun x h => ?_
  refine checkSuccess_follows (getPacket18Key_follows 0x3 h) fun x h => ?_
  refine checkSuccess_follows (getPacket20Key_follows h) fun x h => ?_
  rintro y' ⟨⟩
  exact ⟨x, rfl, rfl, h⟩

/-! ## A first read that fails -/

/-- The cleared buffer passes for the response to the start request. -/
theorem startRequest_failed (hfail : fails x.bus.2 = true)
    (hbuffer : x.response = Cmd56Response.zero) :
    startRequest (t.dropping fails) x = (.ok, exchange (t.dropping fails) startPacket x) := by
  have hresponse : (exchange (t.dropping fails) startPacket x).response = Cmd56Response.zero :=
    (sendPacket_failed (x := { x with request := startPacket }) hfail).trans hbuffer
  refine (startRequest_eq_ok _).mpr ⟨?_, ?_, rfl⟩
  · rw [hresponse]
    simp [Cmd56Response.zero, Field.get, first, second]
  · rw [hresponse]
    rfl

section HonestCart

variable {ρ' : Type} (aes : BlockCipher) (rng : Rng ρ) (cartRng : Rng ρ') (stack : AesBlock)

/-- With an honest cart the handshake then completes as if nothing had happened. -/
theorem vitaCmd56Run_first_read_fails (state : VitaCmd56State) (bus : CartBus ρ') (rand : ρ)
    (hsupported : (keySeed bus.gc.keyId).isSome)
    (hpolicy : ¬ (state.allowPrototypeKeys = 1 ∧ bus.gc.keyId > prototypeKeyId1)) :
    (vitaCmd56Run aes rng ((cartTransport aes cartRng stack).dropping (· == 0)) state (bus, 0)
      rand).1 = .ok := by
  let t := cartTransport aes cartRng stack
  let x : VitaRun (CartBus ρ' × Nat) ρ :=
    ⟨state, Cmd56Request.zero, Cmd56Response.zero, (bus, 0), rand, []⟩
  let x₁ := exchange (t.dropping (· == 0)) startPacket x
  have h₁ : startRequest (t.dropping (· == 0)) x = (.ok, x₁) := startRequest_failed rfl rfl
  -- the cart has seen the request, so it is locked
  have hbus : x₁.bus = ((exchange t startPacket (forget x)).bus, 1) := sendPacket_bus _
  have hgc : x₁.bus.1.gc = { bus.gc with lockStatus := gcLocked } := by
    rcases startRequest_cart aes cartRng stack (forget x) with ⟨y, hy, -, hgc⟩
    rcases (startRequest_eq_ok _).mp hy with ⟨-, -, hy⟩
    rw [hbus]
    dsimp only
    rw [hy, hgc]
    rfl
  have hreliable : Reliable (· == 0) x₁ := by
    intro k hk
    rw [hbus] at hk
    simpa using Nat.ne_of_gt hk
  obtain ⟨y', hrest, -⟩ := afterStart_cart aes rng cartRng stack (forget x₁)
    (by rw [show (forget x₁).bus = x₁.bus.1 from rfl, hgc])
    (by rw [show (forget x₁).bus = x₁.bus.1 from rfl, hgc]; exact hsupported)
    (by rw [show (forget x₁).bus = x₁.bus.1 from rfl, hgc]; exact hpolicy)
  rcases afterStart_follows hreliable y' hrest with ⟨y, hy, -, -⟩
  have hrun : vitaCmd56Steps aes rng (t.dropping (· == 0)) x = (.ok, y) := by
    rw [vitaCmd56Steps_eq, h₁, checkSuccess_ok, hy]
  exact congrArg Prod.fst hrun

end HonestCart

/-- `vita_cmd56_run` returns `GC_AUTH_OK` only if none of its ten reads failed. -/
def NoticesFailedReads (aes : BlockCipher) (rng : Rng ρ) : Prop :=
  ∀ (σ : Type) (t : Transport σ) (fails : Nat → Bool) (state : VitaCmd56State) (bus : σ) (rand : ρ),
    (vitaCmd56Run aes rng (t.dropping fails) state (bus, 0) rand).1 = .ok →
      ∀ k < 10, fails k = false

/-- The repository's own two sides, with a first read that fails. -/
theorem retail_first_read_fails :
    (vitaCmd56Run tinyAes (libRng tinyAes)
      ((cartTransport tinyAes (libRng tinyAes) zeroIv).dropping (· == 0)) (vitaCmd56Init 1 2)
      (⟨(gcCmd56Init randStateInit (some Cmd56Keys.zero)).state, randStateInit,
        Cmd56Request.zero⟩, 0) randStateInit).1 = .ok :=
  vitaCmd56Run_first_read_fails _ _ _ _ _ _ _ rfl (by decide)

/-- A completed run made ten reads; where one failed, the run is accepted all the
same with what the buffer held, and the second did not fail. -/
theorem vitaCmd56Run_stale (aes : BlockCipher) (rng : Rng ρ) (t : Transport σ)
    (fails : Nat → Bool) (state : VitaCmd56State) (bus : σ) (rand : ρ)
    (h : (vitaCmd56Run aes rng (t.dropping fails) state (bus, 0) rand).1 = .ok) :
    let r := vitaCmd56Run aes rng (t.dropping fails) state (bus, 0) rand
    r.2.bus.2 = 10 ∧ fails 1 = false ∧
      ∃ tr : Transcript, r.2.log = tr.toList ∧
        Accepted aes rng state.allowPrototypeKeys rand r.2.state tr ∧
        StaleWhereFailed aes fails r.2.state tr := by
  have hrun : vitaCmd56Run aes rng (t.dropping fails) state (bus, 0) rand =
      (.ok, (vitaCmd56Run aes rng (t.dropping fails) state (bus, 0) rand).2) := by rw [← h]
  rcases vitaCmd56Steps_stale hrun rfl rfl rfl with ⟨tr, hlog, hcount, hstale⟩
  rcases vitaCmd56Steps_inv hrun with ⟨tr', hlog', hacc⟩
  have hsame : tr' = tr := Transcript.toList_injective (hlog'.symm.trans hlog)
  subst hsame
  exact ⟨hcount, second_read_succeeded hrun rfl, tr', hlog, hacc, hstale⟩

/-- The run above is one such: its first response is the cleared buffer. -/
theorem vitaCmd56Run_stale_first :
    let fails : Nat → Bool := (· == 0)
    let r := vitaCmd56Run tinyAes (libRng tinyAes)
      ((cartTransport tinyAes (libRng tinyAes) zeroIv).dropping fails) (vitaCmd56Init 1 2)
      (⟨(gcCmd56Init randStateInit (some Cmd56Keys.zero)).state, randStateInit,
        Cmd56Request.zero⟩, 0) randStateInit
    r.2.bus.2 = 10 ∧ fails 1 = false ∧
      ∃ tr : Transcript, r.2.log = tr.toList ∧
        Accepted tinyAes (libRng tinyAes) cfalse randStateInit r.2.state tr ∧
        StaleWhereFailed tinyAes fails r.2.state tr :=
  vitaCmd56Run_stale _ _ _ _ _ _ _ retail_first_read_fails

/-- So a failed read may well go unnoticed. -/
theorem not_noticesFailedReads : ¬ NoticesFailedReads tinyAes (libRng tinyAes) := by
  intro hnotices
  have hnone := hnotices _ _ _ _ _ _ retail_first_read_fails 0 (by decide)
  cases hnone

end GcToolKit.Cmd56
