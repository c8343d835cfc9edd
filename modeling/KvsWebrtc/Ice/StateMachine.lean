import KvsWebrtc.Common.Loop
import KvsWebrtc.Ice.Connectivity

/-!
# The state machine of the ICE agent

`Ice/IceAgentStateMachine.c`, the functions of `Ice/IceAgent.c` that set up its states, and the
start and the restart of the agent.  `IceEvent` is everything that happens to an agent between two
points at which its lock is free; a run of an agent is a list of events.

One event of the state timer is one round of the loop in `stepIceAgentStateMachine`.  The clock is
left out: whether a time-out is over, whether the peer has been heard of and whether a TURN
connection has been shut down are parameters.

`stepIceAgentStateMachine` repeats its round as long as the state of the agent changes.  The agent
is locked during a round only: before each one, other threads may change everything about it but the
states (`disturb`).  `proposals` lists what the functions `fromNewIceAgentState` to
`fromFailedIceAgentState` propose during a round, for each the current state and the next one.
-/

namespace KvsWebrtc.Ice

open Stun

/-- What `iceAgentStateMachineCheckDisconnection` finds. -/
inductive Connectivity
  | unchanged
  | lost
  | notRecovered
deriving DecidableEq

/-- What a step of the state machine reads besides the agent. -/
structure StepInput where
  /-- The end time of the state is over. -/
  timeout : Bool
  connectivity : Connectivity
  sent : Nat → SendResult
  turnConnectionIsShutdownComplete : Nat → Bool

namespace IceAgent

/-! ### Setting up the states -/

/-- `iceAgentCheckConnectionStateSetup`. -/
def checkConnectionStateSetup (agent : IceAgent) : IceAgent :=
  agent.iceCandidatePairs.foldl (fun agent p => agent.setPairState p .waiting) agent

def isNominatedAndValid (agent : IceAgent) (p : Nat) : Bool :=
  (agent.pair p).nominated && (agent.pair p).state == .succeeded

def freeLastDataSendingPair (agent : IceAgent) : IceAgent :=
  match agent.dataSendingIceCandidatePair with
  | none => agent
  | some p =>
    { agent with
      restart := false
      dataSendingIceCandidatePair := none
      freedPairs := agent.freedPairs ++ [p] }

/-- `iceAgentConnectedStateSetup`. -/
def connectedStateSetup (agent : IceAgent) : IceAgent :=
  let agent := agent.freeLastDataSendingPair
  match agent.iceCandidatePairs.find? agent.isNominatedAndValid with
  | none => agent
  | some p => { agent with dataSendingIceCandidatePair := some p }

/-- `iceAgentNominatingStateSetup`. -/
def nominatingStateSetup (agent : IceAgent) : Except Status IceAgent :=
  if agent.isControlling then agent.nominateCandidatePair else .ok agent

/-- The local candidates other than the one of the selected pair become invalid. -/
def invalidateNotSelected (agent : IceAgent) (p : Nat) : IceAgent :=
  agent.localCandidates.foldl
    (fun agent c =>
      if c ≠ (agent.pair p).localCandidate then agent.setCandidateState c .invalid else agent)
    agent

/-- The rest of `iceAgentReadyStateSetup`, once a pair is selected. -/
def freeNotSelected (agent : IceAgent) (p : Nat) : IceAgent :=
  let agent := (agent.invalidateNotSelected p).invalidateCandidatePair
  agent.freePairs fun q => (agent.pair q).state != .failed

/-- `iceAgentReadyStateSetup`. -/
def readyStateSetup (agent : IceAgent) : Except Status IceAgent :=
  match agent.dataSendingIceCandidatePair with
  | some p => .ok (agent.freeNotSelected p)
  | none =>
    match agent.iceCandidatePairs.find? agent.isNominatedAndValid with
    | none => .error .iceNoNominatedValidCandidatePairAvailable
    | some p => .ok ({ agent with dataSendingIceCandidatePair := some p }.freeNotSelected p)

def freeTurnConnections (agent : IceAgent) (shutdownComplete : Nat → Bool) : IceAgent :=
  { agent with
    localCandidates := agent.localCandidates.filter fun c =>
      !((agent.candidate c).iceCandidateType == .relayed && shutdownComplete c) }

/-! ### The next state -/

/-- `fromNewIceAgentState` to `fromFailedIceAgentState`: the next state, and the status. -/
def fromState (agent : IceAgent) (input : StepInput) : IceAgentState × Status :=
  match agent.currentState with
  | .new => (.checkConnection, agent.iceAgentStatus)
  | .checkConnection =>
    if agent.iceAgentStatus.failed then (.failed, agent.iceAgentStatus)
    else if agent.iceCandidatePairs.any fun p => (agent.pair p).state == .succeeded then
      (.connected, agent.iceAgentStatus)
    else if input.timeout then (.failed, .iceNoConnectedCandidatePair)
    else (.checkConnection, agent.iceAgentStatus)
  | .connected =>
    if agent.iceAgentStatus.failed then (.failed, agent.iceAgentStatus)
    else (.nominating, agent.iceAgentStatus)
  | .nominating =>
    if agent.iceAgentStatus.failed then (.failed, agent.iceAgentStatus)
    else if agent.iceCandidatePairs.any agent.isNominatedAndValid then
    (.ready, agent.iceAgentStatus)
    else if input.timeout then (.failed, .iceFailedToNominateCandidatePair)
    else (.nominating, agent.iceAgentStatus)
  | .ready =>
    if agent.iceAgentStatus.failed then (.failed, agent.iceAgentStatus)
    else
      match input.connectivity with
      | .unchanged => (.ready, agent.iceAgentStatus)
      | .lost => (.disconnected, agent.iceAgentStatus)
      | .notRecovered => (.failed, .iceFailedToRecoverFromDisconnection)
  | .disconnected =>
    if agent.iceAgentStatus.failed then (.failed, agent.iceAgentStatus)
    else (agent.iceAgentState, agent.iceAgentStatus)
  | .failed => (.failed, agent.iceAgentStatus)

end IceAgent

/-- `ICE_AGENT_STATE_MACHINE_STATES`: the states that a state can be entered from. -/
def IceAgentState.accepts : IceAgentState → IceAgentState → Bool
  | .new, s => s == .new
  | .checkConnection, s => s == .new || s == .checkConnection
  | .connected, s => s == .checkConnection || s == .connected
  | .nominating, s => s == .connected || s == .nominating
  | .ready, s => s == .connected || s == .nominating || s == .ready || s == .disconnected
  | .disconnected, s => s != .new && s != .failed
  | .failed, s => s != .new

namespace IceAgent

/-! ### Executing a state -/

def executeCheckConnection (agent : IceAgent) (input : StepInput) : IceAgent :=
  let agent :=
    if agent.iceAgentState ≠ .checkConnection then
      { agent.checkConnectionStateSetup with iceAgentState := .checkConnection }
    else agent
  agent.checkCandidatePairConnection input.sent

def executeConnected (agent : IceAgent) : IceAgent :=
  { agent.connectedStateSetup with iceAgentState := .connected }

def executeNominating (agent : IceAgent) (input : StepInput) : IceAgent :=
  let setUp : Except Status IceAgent :=
    if agent.iceAgentState ≠ .nominating then
      agent.nominatingStateSetup.map fun agent => { agent with iceAgentState := .nominating }
    else .ok agent
  match setUp with
  | .error e => { agent with iceAgentStatus := e }
  | .ok agent =>
    if agent.isControlling then agent.sendCandidateNomination input.sent
    else agent.checkCandidatePairConnection input.sent

def executeReady (agent : IceAgent) (input : StepInput) : IceAgent :=
  let setUp : Except Status IceAgent :=
    if agent.iceAgentState ≠ .ready then
      agent.readyStateSetup.map fun agent => { agent with iceAgentState := .ready }
    else .ok agent
  match setUp with
  | .error e => { agent with iceAgentStatus := e }
  | .ok agent => agent.freeTurnConnections input.turnConnectionIsShutdownComplete

def execute (agent : IceAgent) (input : StepInput) : IceAgentState → IceAgent
  | .new => { agent with iceAgentState := .new }
  | .checkConnection => agent.executeCheckConnection input
  | .connected => agent.executeConnected
  | .nominating => agent.executeNominating input
  | .ready => agent.executeReady input
  | .disconnected => agent
  | .failed => { agent with iceAgentState := .failed }

/-- The next state is entered, if it accepts the current one. -/
def enter (agent : IceAgent) (input : StepInput) (run : IceAgent → IceAgentState → IceAgent) :
    IceAgent :=
  let (next, status) := agent.fromState input
  let agent := { agent with iceAgentStatus := status }
  if next.accepts agent.currentState then run { agent with currentState := next } next
  else { agent with iceAgentStatus := .iceInvalidState }

/-- `stepStateMachine`.  Executing the disconnected state steps out of it at once. -/
def stepStateMachine (agent : IceAgent) (input : StepInput) : IceAgent :=
  agent.enter input fun agent next =>
    if next = .disconnected then agent.enter input fun agent next => agent.execute input next
    else agent.execute input next

/-- One round of the loop in `stepIceAgentStateMachine`. -/
def stepIceAgentStateMachine (agent : IceAgent) (input : StepInput) : IceAgent :=
  let agent := agent.stepStateMachine input
  if agent.iceAgentState ≠ .failed ∧ agent.iceAgentStatus.failed then agent.stepStateMachine input
  else agent

/-! ### Start and restart -/

/-- `iceAgentStartAgent`. -/
def startAgent (agent : IceAgent) (remotePassword : List UInt8) (isControlling : Bool) : IceAgent :=
  if agent.remoteCredentialReceived then agent
  else
    { agent with
      remoteCredentialReceived := true
      isControlling := if agent.restart then agent.isControlling else isControlling
      remotePassword := remotePassword }

/-- `iceAgentRestart`. -/
def restartAgent (agent : IceAgent) (localIcePwd : List UInt8) : IceAgent :=
  if agent.restart then agent
  else
    { agent with
      restart := true
      iceAgentStatus := .success
      relayCandidateCount := 0
      localCandidates := []
      iceCandidatePairs := []
      freedPairs := agent.freedPairs ++
        agent.iceCandidatePairs.filter fun p => agent.dataSendingIceCandidatePair != some p
      triggeredCheckQueue := []
      remoteCredentialReceived := false
      localPassword := localIcePwd
      iceAgentState := .new
      currentState := .new }

end IceAgent

/-! ### Runs -/

/-- What happens to an agent. -/
inductive IceEvent
  | initHostCandidate (ipAddress : KvsIpAddress) (port : List UInt8) (isPointToPoint : Bool)
  | initSrflxCandidate (iceServers : List IceServer)
  | initRelayCandidate
  | turnStateFailed (c : Nat)
  | startAgent (remotePassword : List UInt8) (isControlling : Bool)
  | addRemoteCandidate (iceCandidateString : List Char)
  | gatherTimer (relayAddress : Nat → Option KvsIpAddress) (sent : Nat → SendResult)
      (stunServerAddr : Nat → KvsIpAddress)
  | stateTimer (input : StepInput)
  | keepAliveTimer (sent : Nat → SendResult)
  | stunPacket (buffer : List UInt8) (socketConnection : Nat) (srcAddr : KvsIpAddress)
      (sent : SendResult) (agentHasId pairHasId : Bool)
  | sendPacket (sent : SendResult)
  | prune
  | restartAgent (localIcePwd : List UInt8)

/-- The functions that the agent takes from elsewhere: the HMAC, the CRC-32, `inet_pton` and
`STRTOUI32`. -/
structure Platform where
  hmac : List UInt8 → List UInt8 → Digest
  crc32 : List UInt8 → UInt32
  inetPton : Nat → List Char → Option (List UInt8)
  strtoui32 : List Char → Except Status Nat

namespace IceAgent

def step (platform : Platform) (agent : IceAgent) : IceEvent → IceAgent
  | .initHostCandidate ipAddress port isPointToPoint =>
    agent.initHostCandidate ipAddress port isPointToPoint
  | .initSrflxCandidate iceServers => agent.initSrflxCandidate iceServers
  | .initRelayCandidate => agent.initRelayCandidate.2
  | .turnStateFailed c => agent.turnStateFailed c
  | .startAgent remotePassword isControlling => agent.startAgent remotePassword isControlling
  | .addRemoteCandidate iceCandidateString =>
    (agent.addRemoteCandidate platform.inetPton platform.strtoui32 iceCandidateString).2
  | .gatherTimer relayAddress sent stunServerAddr =>
    agent.gatherCandidateTimerCallback relayAddress sent stunServerAddr
  | .stateTimer input => agent.stepIceAgentStateMachine input
  | .keepAliveTimer sent => agent.sendKeepAlive sent
  | .stunPacket buffer socketConnection srcAddr sent agentHasId pairHasId =>
    (agent.handleStunPacket platform.hmac platform.crc32 buffer socketConnection srcAddr sent
    agentHasId
      pairHasId).2
  | .sendPacket sent => agent.sendPacket sent
  | .prune => agent.pruneUnconnectedIceCandidatePair
  | .restartAgent localIcePwd => agent.restartAgent localIcePwd

def run (platform : Platform) (agent : IceAgent) (events : List IceEvent) : IceAgent :=
  events.foldl (step platform) agent

end IceAgent

/-! ### The calls of `stepIceAgentStateMachine` -/

namespace IceAgent

/-- Everything about the agent changes but its states. -/
def disturb (agent other : IceAgent) : IceAgent :=
  { other with iceAgentState := agent.iceAgentState, currentState := agent.currentState }

def disconnected (agent : IceAgent) (status : Status) : IceAgent :=
  { agent with iceAgentStatus := status, currentState := .disconnected }

/-- What `stepStateMachine` is proposed.  Executing the disconnected state asks once more. -/
def stepProposals (agent : IceAgent) (input : StepInput) : List (IceAgentState × IceAgentState) :=
  let (next, status) := agent.fromState input
  (agent.currentState, next) ::
    if next = .disconnected then
      [(.disconnected, ((agent.disconnected status).fromState input).1)]
    else []

/-- What is proposed in one round, which steps again if there is a failure. -/
def proposals (agent : IceAgent) (input : StepInput) : List (IceAgentState × IceAgentState) :=
  let stepped := agent.stepStateMachine input
  agent.stepProposals input ++
    if stepped.iceAgentState ≠ .failed ∧ stepped.iceAgentStatus.failed then
      stepped.stepProposals input
    else []

def disturbedRound (agent : IceAgent) (input : IceAgent × StepInput) : IceAgent :=
  (agent.disturb input.1).stepIceAgentStateMachine input.2

def stateChanged (before after : IceAgent) : Bool := before.iceAgentState != after.iceAgentState

/-- A call of `stepIceAgentStateMachine` with a bound on the number of its rounds. -/
def stepLoop (agent : IceAgent) (inputs : Nat → IceAgent × StepInput) (fuel : Nat) :
    Option IceAgent :=
  doWhile disturbedRound stateChanged inputs fuel 0 agent

def statesInLoop (agent : IceAgent) (inputs : Nat → IceAgent × StepInput) (fuel : Nat) :
    List IceAgentState :=
  (starts disturbedRound stateChanged inputs fuel 0 agent).map iceAgentState

end IceAgent

/-- A step of a run in which anything but the states may change between two events. -/
inductive IceChange
  | event (event : IceEvent)
  | disturb (other : IceAgent)

namespace IceAgent

def change (platform : Platform) (agent : IceAgent) : IceChange → IceAgent
  | .event event => agent.step platform event
  | .disturb other => agent.disturb other

def disturbedRun (platform : Platform) (agent : IceAgent) (changes : List IceChange) : IceAgent :=
  changes.foldl (change platform) agent

end IceAgent

end KvsWebrtc.Ice
