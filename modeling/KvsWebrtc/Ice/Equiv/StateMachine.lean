import KvsWebrtc.Ice.Equiv.Ready
import KvsWebrtc.Ice.StateMachine

/-!
# The state machine of the ICE agent never gets stuck

Only the state timer and a restart change the two states of an agent (`states_step`), and between
two events the agent is at rest, whatever else has changed about it (`AtRest.disturbedRun`).  Of an
agent at rest every state that is proposed accepts the current one (`accepts_of_mem_proposals`), and
each round that changes the state goes up in the order new, check connection, connected, nominating,
ready, failed (`rank_lt_of_stateChanged`), so that the loop of `stepIceAgentStateMachine` ends.
-/

namespace KvsWebrtc.Ice

open Stun

/-- The place of a state in the order in which the rounds go through them. -/
def IceAgentState.rank : IceAgentState → Nat
  | .new => 0
  | .checkConnection => 1
  | .connected => 2
  | .nominating => 3
  | .ready => 4
  | .disconnected => 4
  | .failed => 5

namespace IceAgent

variable {agent : IceAgent}

/-! ### What keeps the states -/

def states (agent : IceAgent) : IceAgentState × IceAgentState :=
  (agent.iceAgentState, agent.currentState)

theorem states_foldl {α : Type} {f : IceAgent → α → IceAgent}
    (hf : ∀ a x, (f a x).states = a.states) (l : List α) (agent : IceAgent) :
    (l.foldl f agent).states = agent.states := by
  induction l generalizing agent with
  | nil => rfl
  | cons x l ih => exact (ih (f agent x)).trans (hf agent x)

theorem states_invalidateCandidatePair (agent : IceAgent) :
    agent.invalidateCandidatePair.states = agent.states := by
  apply states_foldl
  intro a p
  split_ifs <;> rfl

theorem states_failPair (agent : IceAgent) (c : Nat) (destAddr : KvsIpAddress) :
    (agent.failPair c destAddr).states = agent.states := by
  unfold failPair
  split <;> rfl

theorem states_sendStunPacket (agent : IceAgent) (sent : SendResult) (c : Nat)
    (destAddr : KvsIpAddress) :
    (agent.sendStunPacket sent c destAddr).states = agent.states := by
  cases sent with
  | ok => rfl
  | closedAlready =>
    show (IceAgent.failPair _ c destAddr).states = _
    rw [states_failPair, states_invalidateCandidatePair]
    rfl
  | failed => exact states_failPair agent c destAddr

theorem states_checkCandidatePairConnection (agent : IceAgent) (sent : Nat → SendResult) :
    (agent.checkCandidatePairConnection sent).states = agent.states := by
  unfold checkCandidatePairConnection
  split
  · exact states_sendStunPacket _ _ _ _
  · apply states_foldl
    intro a p
    unfold checkPair
    split
    · exact states_sendStunPacket _ _ _ _
    · exact states_sendStunPacket _ _ _ _
    · rfl

theorem states_sendKeepAlive (agent : IceAgent) (sent : Nat → SendResult) :
    (agent.sendKeepAlive sent).states = agent.states := by
  apply states_foldl
  intro a p
  split_ifs
  · exact states_sendStunPacket _ _ _ _
  · rfl

theorem states_sendCandidateNomination (agent : IceAgent) (sent : Nat → SendResult) :
    (agent.sendCandidateNomination sent).states = agent.states := by
  unfold sendCandidateNomination
  split_ifs
  · apply states_foldl
    intro a p
    split_ifs
    · exact states_sendStunPacket _ _ _ _
    · rfl
  · rfl

theorem states_sendPacket (agent : IceAgent) (sent : SendResult) :
    (agent.sendPacket sent).states = agent.states := by
  unfold sendPacket
  split
  · rfl
  · split_ifs <;> rfl

theorem states_createIceCandidatePairs (agent : IceAgent) (c : Nat) (isRemoteCandidate : Bool) :
    (agent.createIceCandidatePairs c isRemoteCandidate).states = agent.states := by
  unfold createIceCandidatePairs
  split
  · apply states_foldl
    intro a d
    unfold pairWith
    split_ifs <;> rfl
  · rfl

/-- The states after one more pass of candidates to a TURN connection. -/
theorem states_turnConnectionAddPeer (agent : IceAgent) (c : Nat) (peerAddress : KvsIpAddress) :
    (agent.turnConnectionAddPeer c peerAddress).2.states = agent.states := by
  unfold turnConnectionAddPeer
  split_ifs <;> rfl

theorem states_addTurnPeer (peerAddress : KvsIpAddress) (candidates : List Nat) (agent : IceAgent) :
    (addTurnPeer peerAddress candidates agent).2.states = agent.states := by
  induction candidates generalizing agent with
  | nil => rfl
  | cons c candidates ih =>
    unfold addTurnPeer
    have hadd := states_turnConnectionAddPeer agent c peerAddress
    split_ifs
    · split
      · next heq =>
        rw [heq] at hadd
        exact (ih _).trans hadd
      · exact hadd
    · exact ih agent

theorem states_addTurnPeers (c : Nat) (candidates : List Nat) (agent : IceAgent) :
    (addTurnPeers c candidates agent).2.states = agent.states := by
  induction candidates generalizing agent with
  | nil => rfl
  | cons r candidates ih =>
    unfold addTurnPeers
    have hadd := states_turnConnectionAddPeer agent c (agent.candidate r).ipAddress
    split_ifs
    · split
      · next heq =>
        rw [heq] at hadd
        exact (ih _).trans hadd
      · exact hadd
    · exact ih agent

theorem states_addRemote (agent : IceAgent) (iceCandidateType : IceCandidateType)
    (ipAddress : KvsIpAddress) (priority : Nat) :
    (agent.addRemote iceCandidateType ipAddress priority).states = agent.states :=
  states_createIceCandidatePairs _ _ _

theorem states_addRemoteCandidate (agent : IceAgent)
    (inetPton : Nat → List Char → Option (List UInt8)) (strtoui32 : List Char → Except Status Nat)
    (iceCandidateString : List Char) :
    (agent.addRemoteCandidate inetPton strtoui32 iceCandidateString).2.states = agent.states := by
  unfold addRemoteCandidate
  split_ifs
  · rfl
  · rfl
  · split
    · rfl
    · split_ifs
      · rfl
      · split
        · rfl
        · rw [states_addTurnPeer, states_addRemote]

theorem states_initHostCandidate (agent : IceAgent) (ipAddress : KvsIpAddress) (port : List UInt8)
    (isPointToPoint : Bool) :
    (agent.initHostCandidate ipAddress port isPointToPoint).states = agent.states := by
  unfold initHostCandidate
  split
  · rfl
  · exact states_createIceCandidatePairs _ _ _

theorem states_initSrflxCandidate (agent : IceAgent) (iceServers : List IceServer) :
    (agent.initSrflxCandidate iceServers).states = agent.states := by
  apply states_foldl
  intro a c
  split_ifs
  · apply states_foldl
    intro _ _
    rfl
  · rfl

theorem states_initRelayCandidate (agent : IceAgent) :
    agent.initRelayCandidate.2.states = agent.states := by
  have hpeers : ∀ a : IceAgent, (addTurnPeers agent.nextAddress a.remoteCandidates a).2.states =
      a.states :=
    fun a => states_addTurnPeers _ _ a
  unfold initRelayCandidate
  split_ifs
  · rfl
  · dsimp only
    split
    · next heq =>
      have hsame := hpeers (agent.addLocal .relayed ⟨0, [0, 0], []⟩ .new false)
      rw [heq] at hsame
      exact hsame
    · exact hpeers (agent.addLocal .relayed ⟨0, [0, 0], []⟩ .new false)

theorem states_turnStateFailed (agent : IceAgent) (c : Nat) :
    (agent.turnStateFailed c).states = agent.states := by
  unfold turnStateFailed
  split_ifs <;> rfl

theorem states_updateCandidateAddress (agent : IceAgent) (c : Nat) (ipAddress : KvsIpAddress) :
    (agent.updateCandidateAddress c ipAddress).states = agent.states := by
  unfold updateCandidateAddress
  split_ifs <;> rfl

theorem states_gatherCandidate (relayAddress : Nat → Option KvsIpAddress) (agent : IceAgent)
    (c : Nat) :
    (agent.gatherCandidate relayAddress c).states = agent.states := by
  unfold gatherCandidate
  split_ifs
  · split
    · rw [states_createIceCandidatePairs, states_updateCandidateAddress]
    · rfl
  · rfl
  · dsimp only
    split_ifs
    · exact states_createIceCandidatePairs _ _ _
    · rfl
  · rfl

theorem states_gatherCandidateTimerCallback (agent : IceAgent)
    (relayAddress : Nat → Option KvsIpAddress) (sent : Nat → SendResult)
    (stunServerAddr : Nat → KvsIpAddress) :
    (agent.gatherCandidateTimerCallback relayAddress sent stunServerAddr).states =
      agent.states := by
  show (sendSrflxCandidateRequest _ sent stunServerAddr).states = _
  have hsend : ∀ a : IceAgent, (a.sendSrflxCandidateRequest sent stunServerAddr).states =
      a.states := by
    intro a
    apply states_foldl
    intro a c
    split_ifs
    · exact states_sendStunPacket _ _ _ _
    · rfl
  rw [hsend]
  exact states_foldl (states_gatherCandidate relayAddress) _ _

theorem states_handleBindingRequest (agent : IceAgent) (hmac : List UInt8 → List UInt8 → Digest)
    (crc32 : List UInt8 → UInt32) (buffer : List UInt8) (socketConnection : Nat)
    (srcAddr : KvsIpAddress) (sent : SendResult) :
    (agent.handleBindingRequest hmac crc32 buffer socketConnection srcAddr sent).2.states =
      agent.states := by
  have hreflexive : ∀ priority,
      (agent.checkRemotePeerReflexiveCandidate srcAddr priority).states = agent.states := by
    intro priority
    unfold checkRemotePeerReflexiveCandidate
    split_ifs
    · rfl
    · split
      · rfl
      · exact states_addRemote _ _ _ _
  have hnominate : ∀ (a : IceAgent) request p,
      ((a.nominateOnRequest request p).triggerCheck p).states = a.states := by
    intro a request p
    unfold triggerCheck nominateOnRequest
    split_ifs <;> rfl
  unfold handleBindingRequest
  split
  · rfl
  · split
    · rfl
    · dsimp only
      split
      · exact hreflexive _
      · split
        · exact (states_sendStunPacket _ _ _ _).trans (hreflexive _)
        · exact (hnominate _ _ _).trans ((states_sendStunPacket _ _ _ _).trans (hreflexive _))

theorem states_handleServerResponse (agent : IceAgent) (hmac : List UInt8 → List UInt8 → Digest)
    (crc32 : List UInt8 → UInt32) (buffer : List UInt8) (socketConnection : Nat) :
    (agent.handleServerResponse hmac crc32 buffer socketConnection).2.states = agent.states := by
  unfold handleServerResponse
  split
  · rfl
  · split
    · rfl
    · split
      · rfl
      · split_ifs
        · rfl
        · exact states_updateCandidateAddress _ _ _

theorem states_handlePeerResponse (agent : IceAgent) (hmac : List UInt8 → List UInt8 → Digest)
    (crc32 : List UInt8 → UInt32) (buffer : List UInt8) (socketConnection : Nat)
    (srcAddr : KvsIpAddress) (hasId : Bool) :
    (agent.handlePeerResponse hmac crc32 buffer socketConnection srcAddr hasId).2.states =
      agent.states := by
  have hreflexive : ∀ ipAddress,
      (agent.checkLocalPeerReflexiveCandidate ipAddress socketConnection).states =
      agent.states := by
    intro ipAddress
    unfold checkLocalPeerReflexiveCandidate
    split
    · rfl
    · split <;> rfl
  unfold handlePeerResponse
  split
  · rfl
  · split_ifs
    · split
      · rfl
      · split
        · rfl
        · dsimp only
          split_ifs
          · exact hreflexive _
          · rfl
    · rfl

theorem states_handleStunPacket (agent : IceAgent) (hmac : List UInt8 → List UInt8 → Digest)
    (crc32 : List UInt8 → UInt32) (buffer : List UInt8) (socketConnection : Nat)
    (srcAddr : KvsIpAddress) (sent : SendResult) (agentHasId pairHasId : Bool) :
    (agent.handleStunPacket hmac crc32 buffer socketConnection srcAddr sent agentHasId
      pairHasId).2.states =
      agent.states := by
  unfold handleStunPacket
  split_ifs
  · exact states_handleBindingRequest _ _ _ _ _ _ _
  · exact states_handleServerResponse _ _ _ _ _
  · exact states_handlePeerResponse _ _ _ _ _ _ _
  · rfl

theorem states_startAgent (agent : IceAgent) (remotePassword : List UInt8) (isControlling : Bool) :
    (agent.startAgent remotePassword isControlling).states = agent.states := by
  unfold startAgent
  split_ifs <;> rfl

/-- **Only the state timer and a restart** change the states. -/
theorem states_step (platform : Platform) (agent : IceAgent) (event : IceEvent)
    (htimer : ∀ input, event ≠ .stateTimer input)
    (hrestart : ∀ localIcePwd, event ≠ .restartAgent localIcePwd) :
    (agent.step platform event).states = agent.states := by
  cases event with
  | initHostCandidate ipAddress port isPointToPoint => exact states_initHostCandidate _ _ _ _
  | initSrflxCandidate iceServers => exact states_initSrflxCandidate _ _
  | initRelayCandidate => exact states_initRelayCandidate _
  | turnStateFailed c => exact states_turnStateFailed _ _
  | startAgent remotePassword isControlling => exact states_startAgent _ _ _
  | addRemoteCandidate iceCandidateString => exact states_addRemoteCandidate _ _ _ _
  | gatherTimer relayAddress sent stunServerAddr =>
    exact states_gatherCandidateTimerCallback _ _ _ _
  | stateTimer input => exact absurd rfl (htimer input)
  | keepAliveTimer sent => exact states_sendKeepAlive _ _
  | stunPacket buffer socketConnection srcAddr sent agentHasId pairHasId =>
    exact states_handleStunPacket _ _ _ _ _ _ _ _ _
  | sendPacket sent => exact states_sendPacket _ _
  | prune => rfl
  | restartAgent localIcePwd => exact absurd rfl (hrestart localIcePwd)

/-! ### A round -/

/-- The state of the state machine is `next`, and so is the reported one, or there is a new
failure. -/
def Entered (next : IceAgentState) (agent : IceAgent) : Prop :=
  agent.currentState = next ∧
    (agent.iceAgentState = next ∨ agent.iceAgentState ≠ .failed ∧ agent.iceAgentStatus.failed)

theorem Entered.of_states {next : IceAgentState} (h : agent.states = (next, next)) :
    Entered next agent :=
  ⟨congrArg Prod.snd h, .inl (congrArg Prod.fst h)⟩

theorem entered_executeCheckConnection (hcurrent : agent.currentState = .checkConnection)
    (input : StepInput) : Entered .checkConnection (agent.executeCheckConnection input) := by
  apply Entered.of_states
  unfold executeCheckConnection
  dsimp only
  rw [states_checkCandidatePairConnection]
  split_ifs with hstate
  · obtain ⟨pair, hframe, -⟩ := checkConnectionStateSetup_frame agent
    rw [hframe]
    exact Prod.ext rfl hcurrent
  · exact Prod.ext (not_not.mp hstate) hcurrent

theorem nominatingStateSetup_currentState {a b : IceAgent} (h : a.nominatingStateSetup = .ok b) :
    b.currentState = a.currentState := by
  unfold nominatingStateSetup at h
  split_ifs at h
  · unfold nominateCandidatePair at h
    split_ifs at h
    split at h
    · cases h
    · obtain rfl := Except.ok.inj h
      refine congrArg Prod.snd (states_foldl ?_ _ _)
      intro a p
      split_ifs <;> rfl
  · obtain rfl := Except.ok.inj h
    rfl

theorem entered_executeNominating (hcurrent : agent.currentState = .nominating)
    (hfailed : agent.iceAgentState ≠ .failed) (input : StepInput) :
    Entered .nominating (agent.executeNominating input) := by
  have hsend : ∀ a : IceAgent, a.states = (.nominating, .nominating) →
      Entered .nominating (if a.isControlling then a.sendCandidateNomination input.sent
        else a.checkCandidatePairConnection input.sent) := by
    intro a ha
    apply Entered.of_states
    split_ifs
    · rw [states_sendCandidateNomination, ha]
    · rw [states_checkCandidatePairConnection, ha]
  unfold executeNominating
  split_ifs with hstate
  · cases hsetUp : agent.nominatingStateSetup with
    | error e =>
      refine ⟨hcurrent, .inr ⟨hfailed, ?_⟩⟩
      unfold nominatingStateSetup at hsetUp
      split_ifs at hsetUp
      exact nominateCandidatePair_error hsetUp
    | ok b => exact hsend _ (Prod.ext rfl ((nominatingStateSetup_currentState hsetUp).trans
      hcurrent))
  · exact hsend agent (Prod.ext (not_not.mp hstate) hcurrent)

theorem entered_executeReady (hcurrent : agent.currentState = .ready)
    (hfailed : agent.iceAgentState ≠ .failed) (input : StepInput) :
    Entered .ready (agent.executeReady input) := by
  have hfree : ∀ a p, (IceAgent.freeNotSelected a p).currentState = a.currentState := by
    intro a p
    obtain ⟨candidate, pair, heq, -⟩ := freeNotSelected_frame a p
    rw [heq]
    rfl
  unfold executeReady
  split_ifs with hstate
  · unfold readyStateSetup
    split
    · next p hp => exact ⟨(hfree agent p).trans hcurrent, .inl rfl⟩
    · split
      · exact ⟨hcurrent, .inr ⟨hfailed, rfl⟩⟩
      · next p hp => exact ⟨(hfree _ p).trans hcurrent, .inl rfl⟩
  · exact ⟨hcurrent, .inl (not_not.mp hstate)⟩

/-- **Executing a state** sets it, or records a failure. -/
theorem entered_execute {next : IceAgentState} (hcurrent : agent.currentState = next)
    (hnext : next ≠ .disconnected) (hfailed : agent.iceAgentState = .failed → next = .failed)
    (input : StepInput) : Entered next (agent.execute input next) := by
  cases next with
  | new => exact ⟨hcurrent, .inl rfl⟩
  | checkConnection => exact entered_executeCheckConnection hcurrent input
  | connected => exact ⟨(connectedStateSetup_currentState agent).trans hcurrent, .inl rfl⟩
  | nominating => exact entered_executeNominating hcurrent (fun h => by cases hfailed h) input
  | ready => exact entered_executeReady hcurrent (fun h => by cases hfailed h) input
  | disconnected => exact absurd rfl hnext
  | failed => exact ⟨hcurrent, .inl rfl⟩

/-- What follows the state of an agent at rest is neither new nor disconnected. -/
theorem Follows.ne {next : IceAgentState} (h : agent.Follows next) :
    next ≠ .new ∧ next ≠ .disconnected := by
  unfold Follows at h
  cases hcurrent : agent.currentState <;> simp only [hcurrent] at h
  all_goals
    constructor
    all_goals
      rintro rfl
      simp at h

theorem entered_stepStateMachine (h : agent.AtRest) (input : StepInput) :
    ∃ next, agent.Follows next ∧ Entered next (agent.stepStateMachine input) := by
  obtain ⟨next, status, hfollows, heq⟩ := stepStateMachine_follows h input
  have hfailed : agent.iceAgentState = .failed → next = .failed := by
    intro hfailed
    unfold Follows at hfollows
    simpa only [h.executed.symm.trans hfailed] using hfollows
  rw [heq]
  exact ⟨next, hfollows, entered_execute rfl hfollows.ne.2 hfailed input⟩

/-- **One round** of an agent at rest enters a state that follows, or fails the agent. -/
theorem stepIceAgentStateMachine_states (h : agent.AtRest) (input : StepInput) :
    ∃ next, (agent.Follows next ∨ next = .failed) ∧
      (agent.stepIceAgentStateMachine input).states = (next, next) := by
  obtain ⟨next, hfollows, hcurrent, hstate⟩ := entered_stepStateMachine h input
  unfold stepIceAgentStateMachine
  dsimp only
  split_ifs with hfail
  · -- the second step fails the agent
    have hne : (agent.stepStateMachine input).currentState ≠ .new := by
      rw [hcurrent]
      exact hfollows.ne.1
    rw [stepStateMachine_failed hfail.2 hne]
    exact ⟨.failed, .inr rfl, rfl⟩
  · rcases hstate with hstate | hstate
    · exact ⟨next, .inl hfollows, Prod.ext hstate hcurrent⟩
    · exact absurd hstate hfail

theorem AtRest.of_states (next : IceAgentState) (h : agent.states = (next, next))
    (hnext : next ≠ .disconnected) : agent.AtRest := by
  obtain ⟨hstate, hcurrent⟩ := Prod.mk.inj h
  refine ⟨hstate.trans hcurrent.symm, ?_⟩
  rw [hcurrent]
  exact hnext

theorem AtRest.congr {other : IceAgent} (h : agent.AtRest) (hstates : other.states = agent.states) :
    other.AtRest :=
  AtRest.of_states _ (hstates.trans (Prod.ext h.executed rfl)) h.connected

theorem AtRest.disturb (h : agent.AtRest) (other : IceAgent) : (agent.disturb other).AtRest :=
  h.congr rfl

theorem AtRest.stepIceAgentStateMachine (h : agent.AtRest) (input : StepInput) :
    (agent.stepIceAgentStateMachine input).AtRest := by
  obtain ⟨next, hnext, hstates⟩ := stepIceAgentStateMachine_states h input
  apply AtRest.of_states next hstates
  rcases hnext with hfollows | rfl
  · exact hfollows.ne.2
  · decide

/-! ### The masks -/

/-- The states that `stepStateMachine` is proposed accept the ones it is in. -/
theorem accepts_of_mem_stepProposals (h : agent.AtRest) {input : StepInput}
    {proposal : IceAgentState × IceAgentState} (hmem : proposal ∈ agent.stepProposals input) :
    proposal.2.accepts proposal.1 := by
  obtain ⟨⟨next, status⟩, hnext⟩ : ∃ result, agent.fromState input = result := ⟨_, rfl⟩
  obtain ⟨haccepts, hfollows⟩ := fromState_follows h hnext
  unfold stepProposals at hmem
  rw [hnext] at hmem
  rcases List.mem_cons.mp hmem with rfl | hmem
  · exact haccepts
  · split_ifs at hmem with hdisconnected
    · obtain rfl := List.mem_singleton.mp hmem
      rcases hfollows with ⟨-, hne⟩ | ⟨hready, -, hstatus⟩
      · exact absurd hdisconnected hne
      · -- the disconnected state is left for the ready one
        have hback : (agent.disconnected status).fromState input = (.ready, status) := by
          show (if status.failed then _ else (agent.iceAgentState, status)) = _
          rw [hstatus, h.executed, hready]
          rfl
        rw [hback]
        rfl
    · exact absurd hmem List.not_mem_nil

/-- The step after a failure is proposed the failed state only. -/
theorem stepProposals_failed (hstatus : agent.iceAgentStatus.failed) (input : StepInput)
    (hcurrent : agent.currentState ≠ .new) :
    agent.stepProposals input = [(agent.currentState, .failed)] := by
  have hnext : agent.fromState input = (.failed, agent.iceAgentStatus) := by
    unfold fromState
    split <;> simp_all
  unfold stepProposals
  rw [hnext]
  rfl

/-- **The masks**: every state that is proposed in a round accepts the current one. -/
theorem accepts_of_mem_proposals (h : agent.AtRest) {input : StepInput}
    {proposal : IceAgentState × IceAgentState} (hmem : proposal ∈ agent.proposals input) :
    proposal.2.accepts proposal.1 := by
  unfold proposals at hmem
  rcases List.mem_append.mp hmem with hmem | hmem
  · exact accepts_of_mem_stepProposals h hmem
  · split_ifs at hmem with hfail
    · obtain ⟨next, hfollows, heq, -⟩ := entered_stepStateMachine h input
      have hcurrent : (agent.stepStateMachine input).currentState ≠ .new := by
        rw [heq]
        exact hfollows.ne.1
      rw [stepProposals_failed hfail.2 input hcurrent] at hmem
      obtain rfl := List.mem_singleton.mp hmem
      simpa [IceAgentState.accepts] using hcurrent
    · exact absurd hmem List.not_mem_nil

/-! ### The order of the states -/

theorem Follows.rank_lt {next : IceAgentState} (h : agent.Follows next ∨ next = .failed)
    (hne : agent.currentState ≠ next) : agent.currentState.rank < next.rank := by
  unfold Follows at h
  cases hcurrent : agent.currentState with
  | disconnected =>
    simp only [hcurrent, false_or] at h
    obtain rfl := h
    decide
  | failed =>
    simp only [hcurrent, or_self] at h
    exact absurd (hcurrent.trans h.symm) hne
  | _ =>
    simp only [hcurrent] at h hne
    rcases h with h | rfl
    · cases next <;> simp_all [IceAgentState.rank]
    · decide

/-- **Every round that changes the state** goes up in the order. -/
theorem rank_lt_of_stateChanged (h : agent.AtRest) {input : IceAgent × StepInput}
    (hchanged : stateChanged agent (agent.disturbedRound input)) :
    agent.iceAgentState.rank < (agent.disturbedRound input).iceAgentState.rank := by
  obtain ⟨next, hnext, hstates⟩ := stepIceAgentStateMachine_states (h.disturb input.1) input.2
  have hstate : (agent.disturbedRound input).iceAgentState = next := congrArg Prod.fst hstates
  have hne : agent.iceAgentState ≠ (agent.disturbedRound input).iceAgentState := by
    simpa [stateChanged] using hchanged
  rw [hstate] at hne ⊢
  rw [h.executed] at hne ⊢
  have hlt : (agent.disturb input.1).currentState.rank < next.rank := Follows.rank_lt hnext hne
  exact hlt

/-! ### Runs -/

theorem AtRest.change (h : agent.AtRest) (platform : Platform) (change : IceChange) :
    (agent.change platform change).AtRest := by
  cases change with
  | disturb other => exact h.disturb other
  | event event =>
    show (agent.step platform event).AtRest
    by_cases htimer : ∃ input, event = .stateTimer input
    · obtain ⟨input, rfl⟩ := htimer
      exact h.stepIceAgentStateMachine input
    · by_cases hrestart : ∃ localIcePwd, event = .restartAgent localIcePwd
      · obtain ⟨localIcePwd, rfl⟩ := hrestart
        show (agent.restartAgent localIcePwd).AtRest
        unfold IceAgent.restartAgent
        split_ifs
        · exact h
        · exact AtRest.of_states .new rfl (by decide)
      · apply h.congr
        exact states_step platform agent _ (fun input heq => htimer ⟨input, heq⟩)
          (fun localIcePwd heq => hrestart ⟨localIcePwd, heq⟩)

theorem AtRest.disturbedRun (h : agent.AtRest) (platform : Platform) (changes : List IceChange) :
    (agent.disturbedRun platform changes).AtRest := by
  induction changes generalizing agent with
  | nil => exact h
  | cons change changes ih => exact ih (h.change platform change)

/-- **The failed state** is left by a restart only. -/
theorem failed_change (h : agent.AtRest) (hfailed : agent.iceAgentState = .failed)
    (platform : Platform) {change : IceChange}
    (hrestart : ∀ localIcePwd, change ≠ .event (.restartAgent localIcePwd)) :
    (agent.change platform change).iceAgentState = .failed := by
  cases change with
  | disturb other => exact hfailed
  | event event =>
    show (agent.step platform event).iceAgentState = .failed
    by_cases htimer : ∃ input, event = .stateTimer input
    · obtain ⟨input, rfl⟩ := htimer
      obtain ⟨next, hnext, hstates⟩ := stepIceAgentStateMachine_states h input
      have hcurrent : agent.currentState = .failed := h.executed.symm.trans hfailed
      unfold Follows at hnext
      simp only [hcurrent, or_self] at hnext
      subst hnext
      exact congrArg Prod.fst hstates
    · have hstates := states_step platform agent event (fun input heq => htimer ⟨input, heq⟩)
        (fun localIcePwd heq => hrestart localIcePwd (congrArg IceChange.event heq))
      exact (congrArg Prod.fst hstates).trans hfailed

end IceAgent

open IceAgent in
/-- **The state machine of the ICE agent**, after any run in which anything but the states may
change between two events.  In a round on whatever has become of the agent, every state that is
proposed accepts the current one; the failed state is left by a restart only; and a call of
`stepIceAgentStateMachine` ends after at most six rounds, no two of which start in one state. -/
theorem stepIceAgentStateMachine_ends (platform : Platform) (localPassword : List UInt8)
    (tieBreaker : UInt64) (changes : List IceChange) :
    let agent := (createIceAgent localPassword tieBreaker).disturbedRun platform changes
    (∀ other input, ∀ proposal ∈ (agent.disturb other).proposals input,
      proposal.2.accepts proposal.1) ∧
    (agent.iceAgentState = .failed →
      ∀ change, (∀ localIcePwd, change ≠ .event (.restartAgent localIcePwd)) →
        (agent.change platform change).iceAgentState = .failed) ∧
    (∀ inputs, (agent.stepLoop inputs 6).isSome ∧ (agent.statesInLoop inputs 6).Nodup) := by
  intro agent
  have hstart : (createIceAgent localPassword tieBreaker).AtRest :=
    AtRest.of_states .new rfl (by decide)
  have hrest : agent.AtRest := hstart.disturbedRun platform changes
  refine ⟨?_, ?_, ?_⟩
  · intro other input proposal hmem
    exact accepts_of_mem_proposals (hrest.disturb other) hmem
  · intro hfailed change hrestart
    exact failed_change hrest hfailed platform hrestart
  · intro inputs
    have hround : ∀ (a : IceAgent) (input : IceAgent × StepInput), a.AtRest →
        (a.disturbedRound input).AtRest :=
      fun a input ha => (ha.disturb input.1).stepIceAgentStateMachine input.2
    have hrank : ∀ (a : IceAgent) (input : IceAgent × StepInput), a.AtRest →
        stateChanged a (a.disturbedRound input) →
          a.iceAgentState.rank < (a.disturbedRound input).iceAgentState.rank :=
      fun a input ha hchanged => rank_lt_of_stateChanged ha hchanged
    have hbound : ∀ a : IceAgent, a.AtRest → a.iceAgentState.rank ≤ 5 := by
      intro a _
      cases a.iceAgentState <;> decide
    constructor
    · exact doWhile_isSome (r := fun a => a.iceAgentState.rank) hround hrank hbound hrest (by omega)
    · exact nodup_starts hround hrank hrest

end KvsWebrtc.Ice
