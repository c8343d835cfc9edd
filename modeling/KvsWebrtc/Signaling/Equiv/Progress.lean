import KvsWebrtc.Signaling.Equiv.StateMachine

/-!
# Which clients get to the ready state

If every call succeeds (`Serves`), the state that a client enters decides.  A state that sets it up
and the disconnected one lead to the ready state whatever happens to the flags; a connected client
gets there if it uses media storage, through a storage session, or when it loses the connection; one
that connects has to come up first (`progress`).  A connected client without media storage stays
connected.

The proofs rest on two rules: a rank that decreases in every step bounds the number of the steps
until the final state (`iterator_reaches`), and a client that no step brings to the final state runs
on (`iterator_runs_on`).
-/

namespace KvsWebrtc.Signaling

/-- The iteration takes place, every call in it succeeds, and nobody asks for anything else. -/
structure IterationInput.Serves (input : IterationInput) (expiration : Nat) : Prop where
  shutdown : input.changes.shutdown = false
  deleting : input.changes.deleting = false
  refreshIceConfig : input.changes.refreshIceConfig = false
  result : input.changes.result = none ∨ input.changes.result = some .ok
  credentials : input.changes.awsCredentialsExpiration.any (· < input.currentTime) = false
  time : expiration = 0 ∨ input.currentTime ≤ expiration
  stateChangeFn : input.step.stateChangeFn = .success
  status : input.step.call.status = .success
  callResult : input.step.call.result = .ok

def IterationInput.Connected (storageStatus : Bool) (input : IterationInput) : Prop :=
  input.changes.connected = true ∧ input.changes.storageStatus = storageStatus

/-- Media storage is in use, and there is an offer, or there will be one in time. -/
def IterationInput.UsesStorage (input : IterationInput) : Prop :=
  input.changes.storageStatus = true ∧
    (input.changes.offerReceived = true ∨ input.step.waited = .success)

namespace SignalingClient

variable {client : SignalingClient} {input : IterationInput} {inputs : List IterationInput}
  {expiration : Nat} {finalState : SignalingState}

def HasChannel (client : SignalingClient) : Prop :=
  client.kvsNgtcp2Transport = true ∨ ∃ c arn, client.pChannelInfo.pChannelArn = some (c :: arn)

def ReachesReady (client : SignalingClient) (expiration : Nat) (inputs : List IterationInput) :
    Prop :=
  ∃ c, client.signalingStateMachineIterator expiration .ready .success inputs = (some .success, c) ∧
    c.currentState = .ready

def Enters (client : SignalingClient) (input : IterationInput) (next : SignalingState) : Prop :=
  (client.change input.changes).fromState.1 = next ∧ next.accepts client.currentState ∧
    ¬(next = client.currentState ∧ !next.retriesForever ∧ input.step.retriesExhausted)

/-! ### One step -/

theorem result_change (h : input.Serves expiration) (hresult : client.result = .ok) :
    (client.change input.changes).result = .ok := by
  show input.changes.result.getD client.result = .ok
  rcases h.result with h | h
  · rw [h]
    exact hresult
  · rw [h]
    rfl

/-- The checks before the step pass, and the credentials are fine. -/
theorem toStep_of_serves (h : input.Serves expiration) (client : SignalingClient) :
    client.toStep expiration .success input = .ok (client.change input.changes) := by
  have hchecked : (client.change input.changes).checked expiration input.currentTime .success =
      none := by
    unfold checked
    rw [if_neg, if_neg, if_neg, if_pos h.time]
    · simp
    · simp
    · show ¬input.changes.shutdown = true
      simp [h.shutdown]
  have hfixUp : (client.change input.changes).fixUp input.currentTime .success =
      client.change input.changes := by
    unfold fixUp
    rw [if_neg]
    rintro (h' | h')
    · cases h'
    · rw [show (client.change input.changes).awsCredentialsExpiration.any _ =
        _ from h.credentials] at h'
      cases h'
  unfold toStep
  dsimp only
  rw [hchecked]
  exact congrArg Except.ok hfixUp

/-- Asking for the next state changes nothing but the stored ARN and the request to refresh. -/
theorem fromState_snd (client : SignalingClient) :
    client.fromState.2 = { client with
      channelArn := client.fromState.2.channelArn
      refreshIceConfig := client.fromState.2.refreshIceConfig } := by
  unfold fromState
  split
  case h_2 =>
    unfold fromGetToken
    split_ifs
    · rfl
    · rfl
    · split <;> rfl
    · rfl
  all_goals rfl

theorem stepStateMachine_of_enters {next : SignalingState} (h : client.Enters input next) :
    (client.change input.changes).stepStateMachine input.step =
      { (client.change input.changes).fromState.2 with
    currentState := next }.execute input.step := by
  obtain ⟨rfl, haccepts, hretries⟩ := h
  have hstate : (client.change input.changes).fromState.2.currentState = client.currentState := by
    rw [fromState_snd]
    rfl
  unfold stepStateMachine
  dsimp only
  rw [hstate, if_pos haccepts, if_neg hretries]

/-! ### Two rules for the iterator -/

theorem iterator_cons (h : input.Serves expiration) {next : SignalingClient}
    (hstep : (client.change input.changes).stepStateMachine input.step = (.success, next)) :
    client.signalingStateMachineIterator expiration finalState .success (input :: inputs) =
      if next.currentState = finalState then (some .success, next)
      else next.signalingStateMachineIterator expiration finalState .success inputs := by
  rw [signalingStateMachineIterator, toStep_of_serves h]
  dsimp only
  rw [hstep]

/-- **The rule for getting there**: a rank that decreases until the final state is entered. -/
theorem iterator_reaches (I : SignalingClient → Prop) (ok : IterationInput → Prop)
    (r : SignalingState → Nat) (hpos : ∀ client, I client → 0 < r client.currentState)
    (hstep : ∀ client input, I client → input.Serves expiration → ok input → ∃ next,
      (client.change input.changes).stepStateMachine input.step = (.success, next) ∧
        (next.currentState = finalState ∨
          I next ∧ r next.currentState < r client.currentState))
    (hI : I client) (hserves : ∀ i ∈ inputs, i.Serves expiration) (hok : ∀ i ∈ inputs, ok i)
    (hlen : r client.currentState ≤ inputs.length) :
    ∃ c, client.signalingStateMachineIterator expiration finalState .success inputs =
      (some .success, c) ∧ c.currentState = finalState := by
  induction inputs generalizing client with
  | nil => exact absurd (hpos client hI) (Nat.not_lt.mpr hlen)
  | cons input inputs ih =>
    obtain ⟨hserve, hserves⟩ := List.forall_mem_cons.mp hserves
    obtain ⟨hinput, hok⟩ := List.forall_mem_cons.mp hok
    obtain ⟨next, heq, hnext⟩ := hstep client input hI hserve hinput
    rw [iterator_cons hserve heq]
    split_ifs with hfinal
    · exact ⟨next, rfl, hfinal⟩
    · obtain ⟨hI', hlt⟩ := hnext.resolve_left hfinal
      rw [List.length_cons] at hlen
      exact ih hI' hserves hok (by omega)

/-- **The rule for running on**: no step enters the final state. -/
theorem iterator_runs_on (finalState : SignalingState) (I : SignalingClient → Prop)
    (ok : IterationInput → Prop)
    (hstep : ∀ client input, I client → input.Serves expiration → ok input → ∃ next,
      (client.change input.changes).stepStateMachine input.step = (.success, next) ∧
        next.currentState ≠ finalState ∧ I next)
    (hI : I client) (hserves : ∀ i ∈ inputs, i.Serves expiration) (hok : ∀ i ∈ inputs, ok i) :
    (client.signalingStateMachineIterator expiration finalState .success inputs).1 = none ∧
      I (client.signalingStateMachineIterator expiration finalState .success inputs).2 := by
  induction inputs generalizing client with
  | nil => exact ⟨rfl, hI⟩
  | cons input inputs ih =>
    obtain ⟨hserve, hserves⟩ := List.forall_mem_cons.mp hserves
    obtain ⟨hinput, hok⟩ := List.forall_mem_cons.mp hok
    obtain ⟨next, heq, hne, hI'⟩ := hstep client input hI hserve hinput
    rw [iterator_cons hserve heq, if_neg hne]
    exact ih hI' hserves hok

/-! ### The states on the way -/

def setUpStates : List SignalingState := [.getToken, .describeMedia, .getEndpoint, .getIceConfig]

def storageStates : List SignalingState :=
  [.connected, .joinSession, .joinSessionWaiting, .joinSessionConnected]

def stepsLeft : SignalingState → Nat
  | .getIceConfig | .disconnected => 1
  | .getEndpoint | .joinSessionConnected => 2
  | .getToken | .describeMedia | .joinSessionWaiting => 3
  | .joinSession => 4
  | .connected => 5
  | .connect => 6
  | _ => 0

theorem notify_of_serves (h : input.Serves expiration) (client : SignalingClient)
    (call : SignalingClient → Status × SignalingClient) :
    client.notify input.step call = call client := by
  unfold notify
  rw [h.stateChangeFn]
  rfl

theorem ready_of_enters (h : input.Serves expiration) (henters : client.Enters input .ready) :
    ∃ c, (client.change input.changes).stepStateMachine input.step = (.success, c) ∧
      c.currentState = .ready := by
  rw [stepStateMachine_of_enters henters]
  show ∃ c, executeReady _ input.step = _ ∧ _
  rw [executeReady, notify_of_serves h]
  exact ⟨_, rfl, rfl⟩

/-! ### Setting up the client -/

/-- The last call has set the client up.  Behind the token it matters whether there is a channel. -/
structure SetUp (client : SignalingClient) : Prop where
  currentState : client.currentState ∈ setUpStates
  result : client.result = .ok
  hasChannel : client.currentState = .getToken → client.HasChannel

theorem setUp_execute (h : input.Serves expiration) (hstate : client.currentState ∈ setUpStates)
    (hchannel : client.currentState = .getToken → client.HasChannel) :
    ∃ next, client.execute input.step = (.success, next) ∧ next.SetUp ∧
      next.currentState = client.currentState := by
  unfold execute
  simp only [setUpStates, List.mem_cons, List.not_mem_nil, or_false] at hstate
  rcases hstate with heq | heq | heq | heq <;> rw [heq] <;> dsimp only
  · rw [executeGetToken, notify_of_serves h]
    exact ⟨_, rfl, ⟨heq ▸ by decide, rfl, hchannel⟩, heq⟩
  · rw [executeDescribeMedia, notify_of_serves h, called, h.status, h.callResult]
    exact ⟨_, rfl, ⟨heq ▸ by decide, rfl, hchannel⟩, heq⟩
  · rw [executeGetEndpoint, notify_of_serves h, getChannelEndpoint]
    split_ifs
    · exact ⟨_, rfl, ⟨heq ▸ by decide, rfl, hchannel⟩, heq⟩
    · rw [called, h.status, h.callResult]
      exact ⟨_, rfl, ⟨heq ▸ by decide, rfl, hchannel⟩, heq⟩
  · rw [executeGetIceConfig, notify_of_serves h, getIceConfig]
    split_ifs
    · exact ⟨_, rfl, ⟨heq ▸ by decide, rfl, hchannel⟩, heq⟩
    · rw [called, h.status, h.callResult]
      exact ⟨_, rfl, ⟨heq ▸ by decide, rfl, hchannel⟩, heq⟩

theorem setUp_of_enters {next : SignalingState} (h : input.Serves expiration)
    (henters : client.Enters input next) (hnext : next ∈ setUpStates)
    (hchannel : next = .getToken → client.HasChannel) :
    ∃ c, (client.change input.changes).stepStateMachine input.step = (.success, c) ∧ c.SetUp ∧
      c.currentState = next := by
  rw [stepStateMachine_of_enters henters, fromState_snd]
  exact setUp_execute h hnext hchannel

theorem SetUp.enters (hclient : client.SetUp) (h : input.Serves expiration) :
    ∃ next, client.Enters input next ∧ next ≠ .getToken ∧
      (next = .ready ∨ next ∈ setUpStates ∧ stepsLeft next < stepsLeft client.currentState) := by
  have hresult := result_change h hclient.result
  have hstate := hclient.currentState
  have hdeleting : (client.change input.changes).deleting = false := h.deleting
  simp only [setUpStates, List.mem_cons, List.not_mem_nil, or_false] at hstate
  unfold Enters fromState
  rw [show (client.change input.changes).currentState = client.currentState from rfl]
  rcases hstate with heq | heq | heq | heq
  · -- a client with a channel goes on without `DESCRIBE`
    have hchannel := hclient.hasChannel heq
    rw [heq]
    refine ⟨.getEndpoint, ⟨?_, rfl, fun h => absurd h.1 (by decide)⟩, by decide,
      .inr ⟨by decide, by decide⟩⟩
    show (fromGetToken _).1 = _
    unfold fromGetToken
    rw [if_pos hresult, if_neg (by simp [hdeleting])]
    split_ifs with hrelay
    · rfl
    · rcases hchannel with hchannel | ⟨c, arn, harn⟩
      · exact absurd hchannel hrelay
      · rw [show (client.change input.changes).pChannelInfo.pChannelArn = _ from harn]
  · rw [heq]
    refine ⟨.getEndpoint, ⟨?_, rfl, fun h => absurd h.1 (by decide)⟩, by decide,
      .inr ⟨by decide, by decide⟩⟩
    show fromDescribeMedia _ = _
    unfold fromDescribeMedia
    rw [hresult, hdeleting]
    rfl
  · rw [heq]
    refine ⟨.getIceConfig, ⟨?_, rfl, fun h => absurd h.1 (by decide)⟩, by decide,
      .inr ⟨by decide, by decide⟩⟩
    show fromGetEndpoint _ = _
    unfold fromGetEndpoint
    rw [hresult]
  · rw [heq]
    refine ⟨.ready, ⟨?_, rfl, fun h => absurd h.1 (by decide)⟩, by decide, .inl rfl⟩
    show fromGetIceConfig _ = _
    unfold fromGetIceConfig
    rw [hresult]

theorem SetUp.step (hclient : client.SetUp) (h : input.Serves expiration) : ∃ next,
    (client.change input.changes).stepStateMachine input.step = (.success, next) ∧
      (next.currentState = .ready ∨
        next.SetUp ∧ stepsLeft next.currentState < stepsLeft client.currentState) := by
  obtain ⟨next, henters, hne, rfl | ⟨hnext, hlt⟩⟩ := hclient.enters h
  · obtain ⟨c, hstep, hready⟩ := ready_of_enters h henters
    exact ⟨c, hstep, .inl hready⟩
  · obtain ⟨c, hstep, hsetUp, hstate⟩ := setUp_of_enters h henters hnext fun heq => absurd heq hne
    exact ⟨c, hstep, .inr ⟨hsetUp, hstate ▸ hlt⟩⟩

/-! ### The client that has lost its connection -/

/-- The connection is lost, and the last result is none that the state is left for. -/
structure Lost (client : SignalingClient) : Prop where
  currentState : client.currentState = .disconnected
  result : client.result = .ok ∨ client.result = .notSet

theorem refreshing_fst {state next : SignalingState} (h : (client.refreshing state).1 = next)
    (hne : next ≠ .getIceConfig) : state = next := by
  change (if client.refreshIceConfig then SignalingState.getIceConfig else state) = next at h
  split_ifs at h
  · exact absurd h.symm hne
  · exact h

theorem result_of_disconnected (h : client.fromState.1 = .disconnected)
    (haccepts : SignalingState.accepts .disconnected client.currentState) :
    client.result = .ok ∨ client.result = .notSet := by
  simp only [SignalingState.accepts, Bool.or_eq_true, beq_iff_eq] at haccepts
  unfold fromState at h
  rcases haccepts with (((hstate | hstate) | hstate) | hstate) | hstate <;> rw [hstate] at h <;>
    dsimp only at h
  · have h := refreshing_fst h (by decide)
    split at h <;> (try split_ifs at h) <;> cases h
  · have h := refreshing_fst h (by decide)
    split at h
    · exact .inl ‹_›
    all_goals cases h
  · have h := refreshing_fst h (by decide)
    split at h
    · exact .inl ‹_›
    all_goals cases h
  · unfold fromJoinStorageSessionWaiting at h
    split at h
    · exact .inl ‹_›
    · exact .inr ‹_›
    · cases h
  · have h := refreshing_fst h (by decide)
    split at h
    · exact .inl ‹_›
    all_goals cases h

theorem lost_of_enters (h : input.Serves expiration) (henters : client.Enters input .disconnected) :
    ∃ c, (client.change input.changes).stepStateMachine input.step = (.success, c) ∧ c.Lost := by
  have hresult := result_of_disconnected henters.1 henters.2.1
  rw [stepStateMachine_of_enters henters, fromState_snd]
  show ∃ c, executeDisconnected _ input.step = _ ∧ _
  rw [executeDisconnected, notify_of_serves h]
  exact ⟨_, rfl, rfl, hresult⟩

theorem Lost.enters (hclient : client.Lost) (h : input.Serves expiration) :
    client.Enters input .ready := by
  have hresult : (client.change input.changes).result = .ok ∨
      (client.change input.changes).result = .notSet := by
    show input.changes.result.getD client.result = .ok ∨ input.changes.result.getD client.result = _
    rcases h.result with heq | heq
    · rw [heq]
      exact hclient.result
    · rw [heq]
      exact .inl rfl
  refine ⟨?_, by rw [hclient.currentState]; rfl, fun h => absurd h.2.1 (by decide)⟩
  unfold fromState
  rw [show (client.change input.changes).currentState = _ from hclient.currentState]
  show (fromDisconnected _).1 = _
  unfold fromDisconnected refreshing
  rw [show (client.change input.changes).refreshIceConfig = _ from h.refreshIceConfig]
  rcases hresult with heq | heq <;> rw [heq] <;> rfl

/-! ### The connected client -/

theorem enters_of_connected {next : SignalingState} (hstate : client.currentState = .connected)
    (h : input.Serves expiration) (hresult : client.result = .ok)
    (hconnected : input.changes.connected = true)
    (hnext : next = if input.changes.storageStatus then .joinSession else .connected) :
    client.Enters input next := by
  subst hnext
  refine ⟨?_, ?_, fun h => ?_⟩
  · unfold fromState
    rw [show (client.change input.changes).currentState = _ from hstate]
    show (fromConnected _).1 = _
    unfold fromConnected refreshing
    rw [result_change h hresult, show (client.change input.changes).connected = _ from hconnected,
      show (client.change input.changes).refreshIceConfig = _ from h.refreshIceConfig]
    rfl
  · rw [hstate]
    split <;> rfl
  · have hretries := h.2.1
    split at hretries <;> cases hretries

/-- Two of the states are entered with the result of a call that has succeeded. -/
theorem result_of_entered {next : SignalingState} (h : client.fromState.1 = next)
    (haccepts : next.accepts client.currentState)
    (hnext : next = .connected ∨ next = .joinSessionConnected) : client.result = .ok := by
  unfold fromState at h
  rcases hnext with rfl | rfl
  · simp only [SignalingState.accepts, Bool.or_eq_true, beq_iff_eq] at haccepts
    rcases haccepts with (hstate | hstate) | hstate <;> rw [hstate] at h <;> dsimp only at h <;>
      have h := refreshing_fst h (by decide)
    · split at h
      · exact ‹client.result = .ok›
      all_goals cases h
    · split at h
      · exact ‹client.result = .ok›
      all_goals cases h
    · split at h <;> (try split_ifs at h) <;> cases h
  · simp only [SignalingState.accepts, Bool.or_eq_true, beq_iff_eq] at haccepts
    rcases haccepts with hstate | hstate <;> rw [hstate] at h <;> dsimp only at h
    · unfold fromJoinStorageSessionWaiting at h
      split at h
      · exact ‹client.result = .ok›
      · split_ifs at h
      · cases h
    · have h := refreshing_fst h (by decide)
      split at h <;> (try split_ifs at h) <;> cases h

theorem connected_of_enters (h : input.Serves expiration)
    (henters : client.Enters input .connected) :
    ∃ c, (client.change input.changes).stepStateMachine input.step = (.success, c) ∧
      c.currentState = .connected ∧ c.result = .ok := by
  have hresult := result_of_entered henters.1 henters.2.1 (.inl rfl)
  rw [stepStateMachine_of_enters henters, fromState_snd]
  show ∃ c, executeConnected _ input.step = _ ∧ _
  rw [executeConnected, notify_of_serves h]
  exact ⟨_, rfl, rfl, hresult⟩

/-- A connected client without media storage enters its state again. -/
theorem connected_step (hstate : client.currentState = .connected) (hresult : client.result = .ok)
    (h : input.Serves expiration) (hconnected : input.Connected false) : ∃ next,
      (client.change input.changes).stepStateMachine input.step = (.success, next) ∧
        next.currentState ≠ .ready ∧ next.currentState = .connected ∧ next.result = .ok := by
  have henters : client.Enters input .connected :=
    enters_of_connected hstate h hresult hconnected.1 (by rw [hconnected.2]; rfl)
  obtain ⟨c, hstep, hstate, hresult⟩ := connected_of_enters h henters
  exact ⟨c, hstep, by rw [hstate]; decide, hstate, hresult⟩

/-- Nothing happens to a connected client without media storage. -/
theorem stays_connected (hstate : client.currentState = .connected) (hresult : client.result = .ok)
    (hserves : ∀ i ∈ inputs, i.Serves expiration) (hconnected : ∀ i ∈ inputs, i.Connected false) :
    (client.signalingStateMachineIterator expiration .ready .success inputs).1 = none ∧
      (client.signalingStateMachineIterator expiration .ready .success inputs).2.currentState =
        .connected := by
  have hrun := iterator_runs_on .ready
    (fun c => c.currentState = .connected ∧ c.result = .ok) (IterationInput.Connected false)
    (fun _ _ hclient h hconnected => connected_step hclient.1 hclient.2 h hconnected)
    ⟨hstate, hresult⟩ hserves hconnected
  exact ⟨hrun.1, hrun.2.1⟩

/-! ### Storage sessions -/

/-- The client is in a storage session, or about to enter one. -/
structure InSession (client : SignalingClient) : Prop where
  currentState : client.currentState ∈ storageStates
  result : client.result = .ok

/-- The next state, of a client that is connected and uses media storage. -/
def storageNext : SignalingState → SignalingState
  | .connected => .joinSession
  | .joinSession => .joinSessionWaiting
  | .joinSessionWaiting => .joinSessionConnected
  | _ => .getIceConfig

theorem storageNext_spec : ∀ state ∈ storageStates,
    stepsLeft (storageNext state) < stepsLeft state ∧
      stepsLeft .disconnected < stepsLeft state ∧
      (storageNext state ∈ storageStates ∨ storageNext state = .getIceConfig) := by
  decide

theorem InSession.enters (hclient : client.InSession) (h : input.Serves expiration)
    (hstorage : input.changes.storageStatus = true) :
    client.Enters input
      (if input.changes.connected then storageNext client.currentState else .disconnected) := by
  have hstate := hclient.currentState
  have hok := result_change h hclient.result
  have hrefresh : (client.change input.changes).refreshIceConfig = false := h.refreshIceConfig
  have hstatus : (client.change input.changes).storageStatus = true := hstorage
  have hup : (client.change input.changes).connected = input.changes.connected := rfl
  simp only [storageStates, List.mem_cons, List.not_mem_nil, or_false] at hstate
  unfold Enters fromState
  rw [show (client.change input.changes).currentState = client.currentState from rfl, ← hup]
  rcases hstate with heq | heq | heq | heq <;> rw [heq] <;> dsimp only
  · unfold fromConnected refreshing
    rw [hok, hstatus, hrefresh]
    cases (client.change input.changes).connected <;>
      exact ⟨rfl, rfl, fun h => absurd h.1 (by decide)⟩
  · unfold fromJoinStorageSession refreshing
    rw [hok, hrefresh]
    cases (client.change input.changes).connected <;>
      exact ⟨rfl, rfl, fun h => absurd h.1 (by decide)⟩
  · unfold fromJoinStorageSessionWaiting
    rw [hok]
    cases (client.change input.changes).connected <;>
      exact ⟨rfl, rfl, fun h => absurd h.1 (by decide)⟩
  · unfold fromJoinStorageSessionConnected refreshing
    rw [hok, hstatus, hrefresh]
    cases (client.change input.changes).connected <;>
      exact ⟨rfl, rfl, fun h => absurd h.1 (by decide)⟩

theorem session_of_enters {next : SignalingState} (h : input.Serves expiration)
    (henters : client.Enters input next) (hnext : next ∈ storageStates)
    (hstorage : input.UsesStorage) :
    ∃ c, (client.change input.changes).stepStateMachine input.step = (.success, c) ∧
      c.InSession ∧ c.currentState = next := by
  have hmem := hnext
  rw [stepStateMachine_of_enters henters, fromState_snd]
  have hresult := result_of_entered henters.1 henters.2.1
  have hstatus : (client.change input.changes).storageStatus = true := hstorage.1
  simp only [storageStates, List.mem_cons, List.not_mem_nil, or_false] at hnext
  unfold execute
  rcases hnext with rfl | rfl | rfl | rfl <;> dsimp only
  · rw [executeConnected, notify_of_serves h]
    exact ⟨_, rfl, ⟨hmem, hresult (.inl rfl)⟩, rfl⟩
  · rw [executeJoinStorageSession, notify_of_serves h, joinStorageSession, if_pos hstatus, called,
      h.status, h.callResult]
    exact ⟨_, rfl, ⟨hmem, rfl⟩, rfl⟩
  · rw [executeJoinStorageSessionWaiting, notify_of_serves h]
    split_ifs with hreceived
    · exact ⟨_, rfl, ⟨hmem, rfl⟩, rfl⟩
    · rw [hstorage.2.resolve_left hreceived]
      exact ⟨_, rfl, ⟨hmem, rfl⟩, rfl⟩
  · rw [executeJoinStorageSessionConnected, notify_of_serves h]
    exact ⟨_, rfl, ⟨hmem, hresult (.inr rfl)⟩, rfl⟩

/-! ### Getting there -/

/-- The client is on a way on which it needs nothing but the calls. -/
def Returns (client : SignalingClient) : Prop := client.SetUp ∨ client.Lost

theorem Returns.step (hclient : client.Returns) (h : input.Serves expiration) : ∃ next,
    (client.change input.changes).stepStateMachine input.step = (.success, next) ∧
      (next.currentState = .ready ∨
        next.Returns ∧ stepsLeft next.currentState < stepsLeft client.currentState) := by
  rcases hclient with hsetUp | hlost
  · obtain ⟨next, hstep, hnext⟩ := hsetUp.step h
    exact ⟨next, hstep, hnext.imp_right fun hnext => ⟨.inl hnext.1, hnext.2⟩⟩
  · obtain ⟨next, hstep, hready⟩ := ready_of_enters h (hlost.enters h)
    exact ⟨next, hstep, .inl hready⟩

/-- A session ends with the ICE configuration, or with the connection. -/
theorem InSession.step (hclient : client.InSession) (h : input.Serves expiration)
    (hstorage : input.UsesStorage) : ∃ next,
      (client.change input.changes).stepStateMachine input.step = (.success, next) ∧
        (next.InSession ∨ next.Returns) ∧
          stepsLeft next.currentState < stepsLeft client.currentState := by
  obtain ⟨hlt, hltLost, hnext⟩ := storageNext_spec client.currentState hclient.currentState
  have henters := hclient.enters h hstorage.1
  split_ifs at henters
  · rcases hnext with hnext | hnext
    · obtain ⟨c, hstep, hsession, hstate⟩ := session_of_enters h henters hnext hstorage
      exact ⟨c, hstep, .inl hsession, hstate ▸ hlt⟩
    · rw [hnext] at henters hlt
      obtain ⟨c, hstep, hsetUp, hstate⟩ := setUp_of_enters h henters (by decide) nofun
      exact ⟨c, hstep, .inr (.inl hsetUp), hstate ▸ hlt⟩
  · obtain ⟨c, hstep, hlost⟩ := lost_of_enters h henters
    exact ⟨c, hstep, .inr (.inr hlost), hlost.currentState ▸ hltLost⟩

theorem Returns.stepsLeft_pos (hclient : client.Returns) : 0 < stepsLeft client.currentState := by
  have hpos : ∀ state ∈ .disconnected :: setUpStates, 0 < stepsLeft state := by decide
  rcases hclient with hsetUp | hlost
  · exact hpos _ (List.mem_cons_of_mem _ hsetUp.currentState)
  · exact hpos _ (hlost.currentState ▸ List.mem_cons_self)

theorem InSession.stepsLeft_pos (hclient : client.InSession) : 0 < stepsLeft client.currentState :=
  (by decide : ∀ state ∈ storageStates, 0 < stepsLeft state) _ hclient.currentState

theorem Returns.reachesReady (hclient : client.Returns)
    (hserves : ∀ i ∈ inputs, i.Serves expiration)
    (hlen : stepsLeft client.currentState ≤ inputs.length) :
    client.ReachesReady expiration inputs :=
  iterator_reaches Returns (fun _ => True) stepsLeft (fun _ hclient => hclient.stepsLeft_pos)
    (fun _ _ hclient h _ => hclient.step h) hclient hserves (fun _ _ => trivial) hlen

theorem InSession.reachesReady (hclient : client.InSession)
    (hserves : ∀ i ∈ inputs, i.Serves expiration) (hstorage : ∀ i ∈ inputs, i.UsesStorage)
    (hlen : stepsLeft client.currentState ≤ inputs.length) :
    client.ReachesReady expiration inputs := by
  refine iterator_reaches (fun c => c.InSession ∨ c.Returns) IterationInput.UsesStorage stepsLeft
    (fun _ hclient => hclient.elim stepsLeft_pos Returns.stepsLeft_pos) ?_ (.inl hclient) hserves
    hstorage hlen
  rintro client input (hsession | hreturns) h hstorage
  · obtain ⟨c, hstep, hnext⟩ := hsession.step h hstorage
    exact ⟨c, hstep, .inr hnext⟩
  · obtain ⟨c, hstep, hnext⟩ := hreturns.step h
    exact ⟨c, hstep, hnext.imp_right fun hnext => ⟨.inr hnext.1, hnext.2⟩⟩

/-- The first step of a run that gets there. -/
theorem reachesReady_cons {c : SignalingClient} (h : input.Serves expiration)
    (hstep : (client.change input.changes).stepStateMachine input.step = (.success, c))
    (hc : c.currentState = .ready ∨ c.ReachesReady expiration inputs) :
    client.ReachesReady expiration (input :: inputs) := by
  unfold ReachesReady
  rw [iterator_cons h hstep]
  split_ifs with hready
  · exact ⟨c, rfl, hready⟩
  · exact hc.resolve_left hready

/-- A client that enters the ready state, a state that sets it up or the disconnected one. -/
theorem reachesReady_of_enters {next : SignalingState} (henters : client.Enters input next)
    (hnext : next ∈ .ready :: .disconnected :: setUpStates)
    (hchannel : next = .getToken → client.HasChannel)
    (hserves : ∀ i ∈ input :: inputs, i.Serves expiration) (hlen : stepsLeft next ≤ inputs.length) :
    client.ReachesReady expiration (input :: inputs) := by
  obtain ⟨h, hserves⟩ := List.forall_mem_cons.mp hserves
  rcases List.mem_cons.mp hnext with rfl | hnext
  · obtain ⟨c, hstep, hready⟩ := ready_of_enters h henters
    exact reachesReady_cons h hstep (.inl hready)
  rcases List.mem_cons.mp hnext with rfl | hnext
  · obtain ⟨c, hstep, hlost⟩ := lost_of_enters h henters
    have hreturns : c.Returns := .inr hlost
    exact reachesReady_cons h hstep
      (.inr (hreturns.reachesReady hserves (hlost.currentState ▸ hlen)))
  · obtain ⟨c, hstep, hsetUp, hstate⟩ := setUp_of_enters h henters hnext hchannel
    have hreturns : c.Returns := .inl hsetUp
    exact reachesReady_cons h hstep (.inr (hreturns.reachesReady hserves (hstate ▸ hlen)))

/-- A client that uses media storage and enters the connected state or a storage session. -/
theorem reachesReady_of_session {next : SignalingState} (henters : client.Enters input next)
    (hnext : next ∈ storageStates) (hstorage : ∀ i ∈ input :: inputs, i.UsesStorage)
    (hserves : ∀ i ∈ input :: inputs, i.Serves expiration) (hlen : stepsLeft next ≤ inputs.length) :
    client.ReachesReady expiration (input :: inputs) := by
  obtain ⟨h, hserves⟩ := List.forall_mem_cons.mp hserves
  obtain ⟨huses, hstorage⟩ := List.forall_mem_cons.mp hstorage
  obtain ⟨c, hstep, hsession, hstate⟩ := session_of_enters h henters hnext huses
  exact reachesReady_cons h hstep
    (.inr (hsession.reachesReady hserves hstorage (hstate ▸ hlen)))

/-! ### The connecting client -/

/-- The call that connects has succeeded. -/
structure Connecting (client : SignalingClient) : Prop where
  currentState : client.currentState = .connect
  result : client.result = .ok

theorem connecting_of_enters (h : input.Serves expiration)
    (henters : client.Enters input .connect) :
    ∃ c, (client.change input.changes).stepStateMachine input.step = (.success, c) ∧
      c.Connecting := by
  rw [stepStateMachine_of_enters henters, fromState_snd]
  show ∃ c, executeConnect _ input.step = _ ∧ _
  rw [executeConnect, notify_of_serves h, connectSignalingChannel, h.status]
  split_ifs with _ _ hfailed
  · exact ⟨_, rfl, rfl, rfl⟩
  · cases hfailed
  · exact ⟨_, rfl, rfl, rfl⟩
  · rw [called, h.status, h.callResult]
    exact ⟨_, rfl, rfl, rfl⟩

theorem Connecting.enters (hclient : client.Connecting) (h : input.Serves expiration) :
    client.Enters input (if input.changes.connected then .connected else .connect) := by
  refine ⟨?_, ?_, fun h => ?_⟩
  · unfold fromState
    rw [show (client.change input.changes).currentState = _ from hclient.currentState]
    show (fromConnect _).1 = _
    unfold fromConnect refreshing
    rw [result_change h hclient.result,
      show (client.change input.changes).refreshIceConfig = _ from h.refreshIceConfig]
    rfl
  · rw [hclient.currentState]
    split <;> rfl
  · have hretries := h.2.1
    split at hretries <;> cases hretries

theorem Connecting.step (hclient : client.Connecting) (h : input.Serves expiration)
    (hconnected : input.changes.connected = false) : ∃ next,
      (client.change input.changes).stepStateMachine input.step = (.success, next) ∧
        next.currentState ≠ .ready ∧ next.Connecting := by
  have henters := hclient.enters h
  rw [hconnected] at henters
  obtain ⟨c, hstep, hconnecting⟩ := connecting_of_enters h henters
  exact ⟨c, hstep, by rw [hconnecting.currentState]; decide, hconnecting⟩

/-- Such a client never gets to the ready state. -/
theorem Connecting.iterator (hclient : client.Connecting)
    (hserves : ∀ i ∈ inputs, i.Serves expiration)
    (hconnected : ∀ i ∈ inputs, i.changes.connected = false) :
    (client.signalingStateMachineIterator expiration .ready .success inputs).1 = none :=
  (iterator_runs_on .ready Connecting (fun i => i.changes.connected = false)
    (fun _ _ hclient h hconnected => hclient.step h hconnected) hclient hserves hconnected).1

theorem reachesReady_of_connect (henters : client.Enters input .connect)
    (hconnected : ∀ i ∈ inputs.head?, i.changes.connected = true)
    (hstorage : ∀ i ∈ inputs, i.UsesStorage) (hserves : ∀ i ∈ input :: inputs, i.Serves expiration)
    (hlen : stepsLeft .connect ≤ inputs.length) :
    client.ReachesReady expiration (input :: inputs) := by
  obtain ⟨h, hserves⟩ := List.forall_mem_cons.mp hserves
  obtain ⟨c, hstep, hconnecting⟩ := connecting_of_enters h henters
  refine reachesReady_cons h hstep (.inr ?_)
  match inputs with
  | [] => exact absurd hlen (by decide)
  | second :: rest =>
    have hsecond := hconnecting.enters (hserves second List.mem_cons_self)
    rw [hconnected second rfl] at hsecond
    exact reachesReady_of_session hsecond (by decide) hstorage hserves (Nat.le_of_succ_le_succ hlen)

/-! ### The client without a channel -/

def InDescribeCycle (client : SignalingClient) : Prop :=
  client.currentState = .describe ∨ client.currentState = .create ∧ client.result = .ok

theorem InDescribeCycle.step (hclient : client.InDescribeCycle) (h : input.Serves expiration) :
    ∃ next, (client.change input.changes).stepStateMachine input.step = (.success, next) ∧
      next.currentState ≠ .ready ∧ next.InDescribeCycle := by
  rcases hclient with hstate | ⟨hstate, hresult⟩
  · have henters : client.Enters input .create := by
      refine ⟨?_, by rw [hstate]; rfl, fun h => absurd (h.1.trans hstate) (by decide)⟩
      unfold fromState
      rw [show (client.change input.changes).currentState = _ from hstate]
      rfl
    have hne : SignalingState.create ≠ .ready := by decide
    rw [stepStateMachine_of_enters henters]
    show ∃ next, executeCreate _ input.step = _ ∧ _
    rw [executeCreate, notify_of_serves h, called, h.status, h.callResult]
    exact ⟨_, rfl, hne, .inr ⟨rfl, rfl⟩⟩
  · have henters : client.Enters input .describe := by
      refine ⟨?_, by rw [hstate]; rfl, fun h => absurd (h.1.trans hstate) (by decide)⟩
      unfold fromState
      rw [show (client.change input.changes).currentState = _ from hstate]
      show fromCreate _ = _
      unfold fromCreate
      rw [result_change h hresult]
    have hne : SignalingState.describe ≠ .ready := by decide
    rw [stepStateMachine_of_enters henters]
    show ∃ next, executeDescribe _ input.step = _ ∧ _
    rw [executeDescribe, notify_of_serves h, describeChannel, h.status]
    exact ⟨_, rfl, hne, .inl rfl⟩

/-- Such a client never gets to the ready state, although every call succeeds. -/
theorem InDescribeCycle.iterator (hclient : client.InDescribeCycle)
    (hserves : ∀ i ∈ inputs, i.Serves expiration) :
    (client.signalingStateMachineIterator expiration .ready .success inputs).1 = none :=
  (iterator_runs_on .ready InDescribeCycle (fun _ => True)
    (fun _ _ hclient h _ => hclient.step h) hclient hserves (fun _ _ => trivial)).1

/-! ### All the clients -/

end SignalingClient

/-! ### Sample clients -/

theorem serves_okIteration (connected storageStatus : Bool) :
    (okIteration connected storageStatus).Serves 0 :=
  ⟨rfl, rfl, rfl, .inl rfl, rfl, .inl rfl, rfl, rfl, rfl⟩

theorem serves_of_mem_replicate {n : Nat} {connected storageStatus : Bool} {input : IterationInput}
    (h : input ∈ List.replicate n (okIteration connected storageStatus)) : input.Serves 0 :=
  List.eq_of_mem_replicate h ▸ serves_okIteration connected storageStatus

def readyClient : SignalingClient :=
  (newClient.signalingStateMachineIterator 0 .ready .success
    (List.replicate 4 (okIteration false false))).2

def connectingClient : SignalingClient :=
  (newClient.signalingStateMachineIterator 0 .connect .success
    (List.replicate 5 (okIteration false false))).2

def connectedClient : SignalingClient :=
  (newClient.signalingStateMachineIterator 0 .connected .success
    (List.replicate 6 (okIteration true false))).2

/-- A new client without a channel ARN and a relay, once it describes its channel. -/
def unnamedClient : SignalingClient :=
  ({ newClient with kvsNgtcp2Transport := false }.signalingStateMachineIterator 0 .describe .success
    (List.replicate 2 (okIteration false false))).2

/-- A client that gives up when a step has failed. -/
def withoutRetry (client : SignalingClient) : SignalingClient :=
  { client with pChannelInfo := { client.pChannelInfo with retry := false } }

def unofferedIteration : IterationInput :=
  { okIteration true true with
    changes := { quietChanges true true with offerReceived := false }
    step := { okStep true true with waited := .operationTimedOut } }

def failedClient : SignalingClient :=
  ({ newClient with
      kvsNgtcp2Transport := false
      pChannelInfo := { newClient.pChannelInfo with pChannelArn := some ['a'] } }
    |>.signalingStateMachineIterator 0 .ready .success
      [okIteration false false,
        { okIteration false false with
          step := { okStep false false with
            call := { (okStep false false).call with result := .internalError } } }]).2

def exhaustedIteration : IterationInput :=
  { okIteration false false with step := { okStep false false with retriesExhausted := true } }

end KvsWebrtc.Signaling
