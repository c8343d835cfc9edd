import KvsWebrtc.Signaling.StateMachine

/-!
# The table of the signaling states has two gaps

A state is refused exactly in the two situations of `InGap` (`accepts_fromState_iff`): a
disconnected client is to fetch a new token or a new ICE configuration, or a client that has joined
a storage session finds that the storage has been turned off.  A run of the iterator in which no
client that is stepped is in a gap proposes accepted states only, and every other run is refused a
state (`proposals_accepted_iff`).
-/

namespace KvsWebrtc.Signaling

namespace SignalingClient

/-- The client is disconnected, and to leave the state for another one than the ready one. -/
def LeavesDisconnected (client : SignalingClient) : Prop :=
  client.currentState = .disconnected ∧
    (client.refreshIceConfig ∨ client.result = .forbidden ∨ client.result = .notAuthorized ∨
      client.result = .signalingReconnectIce)

/-- The client has joined a storage session, and the storage is no longer in use. -/
def LosesStorage (client : SignalingClient) : Prop :=
  client.currentState = .joinSessionConnected ∧ ¬client.refreshIceConfig ∧ client.result = .ok ∧
    client.connected ∧ ¬client.storageStatus

def InGap (client : SignalingClient) : Prop := client.LeavesDisconnected ∨ client.LosesStorage

variable {client : SignalingClient}

/-! ### The proposals of one state -/

/-- Where a state can be refreshed from, it suffices that the proposal without the refresh is
accepted. -/
theorem accepts_refreshing (hice : SignalingState.accepts .getIceConfig client.currentState)
    (state : SignalingState) :
    (client.refreshing state).1.accepts client.currentState ↔
      client.refreshIceConfig ∨ state.accepts client.currentState := by
  show (if client.refreshIceConfig then SignalingState.getIceConfig else state).accepts _ ↔ _
  split_ifs with hrefresh
  · simp [hice, hrefresh]
  · simp [hrefresh]

theorem accepts_fromGetToken (h : client.currentState = .getToken) :
    client.fromGetToken.1.accepts client.currentState := by
  unfold fromGetToken
  split_ifs
  · rw [h]
    rfl
  · rw [h]
    rfl
  · rw [h]
    split <;> rfl
  · rw [h]
    rfl

theorem accepts_fromDescribeMedia (h : client.currentState = .describeMedia) :
    client.fromDescribeMedia.accepts client.currentState := by
  unfold fromDescribeMedia
  rw [h]
  split
  · split_ifs <;> rfl
  all_goals rfl

theorem accepts_fromCreate (h : client.currentState = .create) :
    client.fromCreate.accepts client.currentState := by
  unfold fromCreate
  rw [h]
  split <;> rfl

theorem accepts_fromGetEndpoint (h : client.currentState = .getEndpoint) :
    client.fromGetEndpoint.accepts client.currentState := by
  unfold fromGetEndpoint
  rw [h]
  split <;> rfl

theorem accepts_fromGetIceConfig (h : client.currentState = .getIceConfig) :
    client.fromGetIceConfig.accepts client.currentState := by
  unfold fromGetIceConfig
  rw [h]
  split <;> rfl

theorem accepts_fromReady (h : client.currentState = .ready) :
    client.fromReady.1.accepts client.currentState := by
  apply (accepts_refreshing (by rw [h]; rfl) _).mpr
  right
  rw [h]
  split <;> rfl

theorem accepts_fromConnect (h : client.currentState = .connect) :
    client.fromConnect.1.accepts client.currentState := by
  apply (accepts_refreshing (by rw [h]; rfl) _).mpr
  right
  rw [h]
  split
  · split_ifs <;> rfl
  all_goals rfl

theorem accepts_fromConnected (h : client.currentState = .connected) :
    client.fromConnected.1.accepts client.currentState := by
  apply (accepts_refreshing (by rw [h]; rfl) _).mpr
  right
  rw [h]
  split
  · split_ifs <;> rfl
  all_goals rfl

theorem accepts_fromJoinStorageSession (h : client.currentState = .joinSession) :
    client.fromJoinStorageSession.1.accepts client.currentState := by
  apply (accepts_refreshing (by rw [h]; rfl) _).mpr
  right
  rw [h]
  split
  · split_ifs <;> rfl
  all_goals rfl

theorem accepts_fromJoinStorageSessionWaiting (h : client.currentState = .joinSessionWaiting) :
    client.fromJoinStorageSessionWaiting.accepts client.currentState := by
  unfold fromJoinStorageSessionWaiting
  rw [h]
  split
  · split_ifs <;> rfl
  · split_ifs <;> rfl
  · rfl

theorem accepts_fromDelete (h : client.currentState = .delete) :
    client.fromDelete.accepts client.currentState := by
  unfold fromDelete
  rw [h]
  split <;> rfl

/-- The disconnected state is left for the ready state only. -/
theorem accepts_fromDisconnected_iff (h : client.currentState = .disconnected) :
    client.fromDisconnected.1.accepts client.currentState ↔ ¬client.InGap := by
  unfold InGap LeavesDisconnected LosesStorage fromDisconnected refreshing
  rw [h]
  cases hrefresh : client.refreshIceConfig with
  | true => simp [SignalingState.accepts]
  | false => cases hresult : client.result <;> simp [SignalingState.accepts]

theorem accepts_fromJoinStorageSessionConnected_iff
    (h : client.currentState = .joinSessionConnected) :
    client.fromJoinStorageSessionConnected.1.accepts client.currentState ↔ ¬client.InGap := by
  unfold fromJoinStorageSessionConnected
  rw [accepts_refreshing (by rw [h]; rfl)]
  unfold InGap LeavesDisconnected LosesStorage
  rw [h]
  cases hrefresh : client.refreshIceConfig with
  | true => simp
  | false =>
    cases hresult : client.result with
    | ok =>
      cases hconnected : client.connected <;> cases hstorage : client.storageStatus <;>
        simp [SignalingState.accepts]
    | _ => simp [SignalingState.accepts]

theorem not_inGap (hdisconnected : client.currentState ≠ .disconnected)
    (hjoined : client.currentState ≠ .joinSessionConnected) : ¬client.InGap := by
  rintro (h | h)
  · exact hdisconnected h.1
  · exact hjoined h.1

/-- **A state is refused exactly in the gaps.** -/
theorem accepts_fromState_iff (client : SignalingClient) :
    client.fromState.1.accepts client.currentState ↔ ¬client.InGap := by
  unfold fromState
  split
  case h_11 h => exact accepts_fromDisconnected_iff h
  case h_16 h => exact accepts_fromJoinStorageSessionConnected_iff h
  all_goals
    rename_i h
    refine iff_of_true ?_ (not_inGap (by rw [h]; decide) (by rw [h]; decide))
  · rw [h]
    rfl
  · exact accepts_fromGetToken h
  · rw [h]
    rfl
  · exact accepts_fromDescribeMedia h
  · exact accepts_fromCreate h
  · exact accepts_fromGetEndpoint h
  · exact accepts_fromGetIceConfig h
  · exact accepts_fromReady h
  · exact accepts_fromConnect h
  · exact accepts_fromConnected h
  · exact accepts_fromDelete h
  · rw [h]
    rfl
  · exact accepts_fromJoinStorageSession h
  · exact accepts_fromJoinStorageSessionWaiting h

/-! ### The runs -/

/-- **The runs in which no state is refused** are those that keep out of the gaps: of every run of
the iterator, from any client, with any results of the service and any changes by other threads. -/
theorem proposals_accepted_iff (expiration : Nat) (finalState : SignalingState) (status : Status)
    (client : SignalingClient) (inputs : List IterationInput) :
    (∀ p ∈ client.proposals expiration finalState status inputs, p.2.accepts p.1) ↔
      ∀ c ∈ client.stepped expiration finalState status inputs, ¬c.InGap := by
  unfold proposals
  rw [List.forall_mem_map]
  apply forall_congr'
  intro c
  apply forall_congr'
  intro _
  exact accepts_fromState_iff c

end SignalingClient

/-! ### Sample runs -/

def newClient : SignalingClient where
  currentState := .new
  result := .notSet
  clientReady := false
  shutdown := false
  connected := false
  deleting := false
  refreshIceConfig := false
  offerReceived := false
  storageStatus := false
  pChannelInfo := { pChannelArn := none, useMediaStorage := false, retry := true }
  channelArn := []
  kvsNgtcp2Transport := true
  awsCredentialsExpiration := none

def quietChanges (connected storageStatus : Bool) : Changes where
  shutdown := false
  connected := connected
  deleting := false
  refreshIceConfig := false
  offerReceived := true
  storageStatus := storageStatus
  result := none
  awsCredentialsExpiration := none

def okStep (connected storageStatus : Bool) : StepInput where
  rejected := .other 0
  retriesExhausted := false
  stateChangeFn := .success
  call := { status := .success, result := .ok, connected := connected,
            storageStatus := storageStatus }
  waited := .success

def okIteration (connected storageStatus : Bool) : IterationInput where
  changes := quietChanges connected storageStatus
  currentTime := 0
  step := okStep connected storageStatus

/-- The client connects, loses the connection, and is then asked to refresh its ICE
configuration. -/
def refreshRun : List IterationInput :=
  List.replicate 5 (okIteration false false) ++ List.replicate 1 (okIteration true false) ++
    List.replicate 1 (okIteration false false) ++
    [{ okIteration false false with
        changes := { quietChanges false false with refreshIceConfig := true } }]

/-- The client joins a storage session, and the storage is then turned off. -/
def storageRun : List IterationInput :=
  List.replicate 5 (okIteration false true) ++ List.replicate 4 (okIteration true true) ++
    [okIteration true false]

theorem states_refused :
    (SignalingState.disconnected, SignalingState.getIceConfig) ∈
        newClient.proposals 0 .deleted .success refreshRun ∧
      SignalingState.accepts .getIceConfig .disconnected = false ∧
      (SignalingState.joinSessionConnected, SignalingState.connected) ∈
        newClient.proposals 0 .deleted .success storageRun ∧
      SignalingState.accepts .connected .joinSessionConnected = false := by
  decide +kernel

end KvsWebrtc.Signaling
