import KvsWebrtc.Common.Loop
import KvsWebrtc.Turn.Connection

/-!
# The state machine of a TURN connection

`Ice/TurnConnectionStateMachine.c`, and the functions of `Ice/TurnConnection.c` that its states
call: `fromReady` is `fromReadyTurnState`, `executeReady` is `executeReadyTurnState`, and so on.
Each function for a state returns a status besides the connection, and so does `stepStateMachine`.

`stepTurnConnectionStateMachine` is one round of the loop, and `stepLoop` the loop.  The connection
is locked during a round, but not while the ICE agent is told of a failure: what happens to the
connection in that window is an input of the round, and so is a shutdown that is asked for
meanwhile.
-/

namespace KvsWebrtc.Turn

open Stun

/-! ### Time-outs -/

/-- `DEFAULT_TURN_GET_CREDENTIAL_TIMEOUT`, and the time-outs of the following states. -/
def defaultTurnGetCredentialTimeout : Nat := 5 * hundredsOfNanosInASecond

@[inherit_doc defaultTurnGetCredentialTimeout]
def defaultTurnAllocationTimeout : Nat := 5 * hundredsOfNanosInASecond

@[inherit_doc defaultTurnGetCredentialTimeout]
def defaultTurnCreatePermissionTimeout : Nat := 5 * hundredsOfNanosInASecond

@[inherit_doc defaultTurnGetCredentialTimeout]
def defaultTurnBindChannelTimeout : Nat := 5 * hundredsOfNanosInASecond

@[inherit_doc defaultTurnGetCredentialTimeout]
def defaultTurnCleanUpTimeout : Nat := 10 * hundredsOfNanosInASecond

def defaultTurnAllocationRefreshGracePeriod : Nat := 30 * hundredsOfNanosInASecond

def defaultTurnPermissionRefreshGracePeriod : Nat := 30 * hundredsOfNanosInASecond

/-- `DEFAULT_TURN_SEND_REFRESH_INVERVAL`. -/
def defaultTurnSendRefreshInterval : Nat := hundredsOfNanosInASecond

/-! ### Inputs -/

/-- How a packet is prepared: where this fails, the packet may have been created. -/
inductive Packaged
  | ok
  | failed (code : Nat) (created : Bool)
deriving DecidableEq

def Packaged.status : Packaged → Status
  | .ok => .success
  | .failed code _ => .other code

def Packaged.created : Packaged → Bool
  | .ok => true
  | .failed _ created => created

/-- What a step of the state machine reads besides the connection: the clock in the function that
gives the next state, in the one that executes it and in the one that refreshes the allocation, the
socket, and what the functions return that it calls. -/
structure StepInput where
  currentTime : Nat
  executeTime : Nat
  refreshTime : Nat
  socketConnectionIsConnected : Bool
  socketConnectionIsClosed : Bool
  initSecureConnection : Status
  longTermKey : Option (List UInt8)
  allocationRequest : Status
  createPermissionPacket : Packaged
  channelBindPacket : Packaged
  allocationRefreshPacket : Packaged
  sent : Status
  refreshSent : Status
  timerUpdated : Status
  transactionId : Nat → List UInt8

def TurnPeer.reset (peer : TurnPeer) : TurnPeer :=
  { peer with connectionState := .createPermission }

def TurnPeer.clearIds (peer : TurnPeer) : TurnPeer :=
  { peer with transactionIdStore := peer.transactionIdStore.clear }

namespace TurnConnection

/-! ### The next state -/

/-- A state that the code has put the connection into is next. -/
def unlessForced (connection : TurnConnection)
    (next : Except Status TurnState × TurnConnection) : Except Status TurnState × TurnConnection :=
  if connection.state = .cleanUp ∨ connection.state = .failed then
    (.ok connection.state, connection)
  else next

def fromCheckSocketConnection (connection : TurnConnection) (input : StepInput) :
    Except Status TurnState × TurnConnection :=
  connection.unlessForced <|
    if input.socketConnectionIsConnected then
      (.ok .getCredentials,
        { connection with stateTimeoutTime := input.currentTime + defaultTurnGetCredentialTimeout })
    else (.ok .checkSocketConnection, connection)

def fromGetCredentials (connection : TurnConnection) (input : StepInput) :
    Except Status TurnState × TurnConnection :=
  connection.unlessForced <|
    if connection.credentialObtained then
      (.ok .allocation,
        { connection with stateTimeoutTime := input.currentTime + defaultTurnAllocationTimeout })
    else (.ok .getCredentials, connection)

def fromAllocation (connection : TurnConnection) (input : StepInput) :
    Except Status TurnState × TurnConnection :=
  connection.unlessForced <|
    if connection.hasAllocation then
      (.ok .createPermission,
        { connection with stateTimeoutTime := input.currentTime +
        defaultTurnCreatePermissionTimeout })
    else (.ok .allocation, connection)

def channelWithPermissionCount (connection : TurnConnection) : Nat :=
  connection.turnPeerList.countP fun peer =>
    peer.connectionState == .bindChannel || peer.connectionState == .ready

def fromCreatePermission (connection : TurnConnection) (input : StepInput) :
    Except Status TurnState × TurnConnection :=
  connection.unlessForced <|
    if connection.turnPeerList.length = 0 then
      (.ok .createPermission,
        { connection with stateTimeoutTime := input.currentTime +
        defaultTurnCreatePermissionTimeout })
    else if input.currentTime > connection.stateTimeoutTime ∨
        connection.channelWithPermissionCount = connection.turnPeerList.length then
      if connection.channelWithPermissionCount > 0 then
        (.ok .bindChannel,
          { connection with stateTimeoutTime := input.currentTime + defaultTurnBindChannelTimeout })
      else (.error .turnConnectionFailedToCreatePermission, connection)
    else (.ok .createPermission, connection)

def readyPeerCount (connection : TurnConnection) : Nat :=
  connection.turnPeerList.countP fun peer => peer.connectionState == .ready

def fromBindChannel (connection : TurnConnection) (input : StepInput) :
    Except Status TurnState × TurnConnection :=
  connection.unlessForced <|
    if input.currentTime > connection.stateTimeoutTime ∨
        connection.readyPeerCount = connection.turnPeerList.length then
      if connection.readyPeerCount > 0 then (.ok .ready, connection)
      else (.error .turnConnectionFailedToBindChannel, connection)
    else (.ok .bindChannel, connection)

/-- `turnConnectionRefreshPermission`: the permission of a peer is about to end. -/
def turnConnectionRefreshPermission (connection : TurnConnection) (currentTime : Nat) : Bool :=
  connection.turnPeerList.any fun peer =>
    match peer.permissionExpirationTime with
    | none => false
    | some time => time ≤ currentTime + defaultTurnPermissionRefreshGracePeriod

/-- `timerQueueUpdateTimerPeriod`, before the next state is given. -/
def updateTimerPeriod (connection : TurnConnection) (input : StepInput) (next : TurnState) :
    Except Status TurnState × TurnConnection :=
  if input.timerUpdated.failed then (.error input.timerUpdated, connection)
    else (.ok next, connection)

def fromReady (connection : TurnConnection) (input : StepInput) :
    Except Status TurnState × TurnConnection :=
  connection.unlessForced <|
    if connection.turnConnectionRefreshPermission input.currentTime then
      { connection with
        turnPeerList := connection.turnPeerList.map TurnPeer.reset
        currentTimerCallingPeriod := defaultTurnTimerIntervalBeforeReady
        stateTimeoutTime := input.currentTime + defaultTurnCreatePermissionTimeout
        }.updateTimerPeriod
          input .createPermission
    else if connection.currentTimerCallingPeriod ≠ defaultTurnTimerIntervalAfterReady then
      { connection with
        currentTimerCallingPeriod := defaultTurnTimerIntervalAfterReady }.updateTimerPeriod input
        .ready
    else (.ok .ready, connection)

def turnConnectionFreePreAllocatedPackets (connection : TurnConnection) : TurnConnection :=
  { connection with
    turnPacket := false
    turnChannelBindPacket := false
    turnCreatePermissionPacket := false
    turnAllocationRefreshPacket := false }

/-- The stores of the peers are cleared and the packets freed. -/
def completeShutdown (connection : TurnConnection) : TurnConnection :=
  let connection := { connection with
    turnPeerList := connection.turnPeerList.map TurnPeer.clearIds }
  { connection.turnConnectionFreePreAllocatedPackets with shutdownComplete := true }

def fromCleanUp (connection : TurnConnection) (input : StepInput) :
    Except Status TurnState × TurnConnection :=
  if connection.state = .failed then (.ok connection.state, connection)
  else if input.socketConnectionIsClosed ∨ connection.hasAllocation = false ∨
      input.currentTime > connection.stateTimeoutTime then
    (.ok (if connection.errorStatus.failed then .failed else .cleanUp), connection.completeShutdown)
  else (.ok .cleanUp, connection)

def fromFailed (connection : TurnConnection) (input : StepInput) :
    Except Status TurnState × TurnConnection :=
  if connection.state = .cleanUp then (.ok connection.state, connection)
  else if connection.shutdownComplete = false then
    (.ok .cleanUp,
      { connection with stateTimeoutTime := input.currentTime + defaultTurnCleanUpTimeout })
  else (.ok .failed, connection)

def fromState (connection : TurnConnection) (input : StepInput) :
    Except Status TurnState × TurnConnection :=
  match connection.currentState with
  | .new => (.ok .checkSocketConnection, connection)
  | .checkSocketConnection => connection.fromCheckSocketConnection input
  | .getCredentials => connection.fromGetCredentials input
  | .allocation => connection.fromAllocation input
  | .createPermission => connection.fromCreatePermission input
  | .bindChannel => connection.fromBindChannel input
  | .ready => connection.fromReady input
  | .cleanUp => connection.fromCleanUp input
  | .failed => connection.fromFailed input

end TurnConnection

/-- `TURN_CONNECTION_STATE_MACHINE_STATES`: the states that a state can be entered from. -/
def TurnState.accepts : TurnState → TurnState → Bool
  | .new, s => s == .new || s == .cleanUp
  | .checkSocketConnection, s => s == .new || s == .checkSocketConnection
  | .getCredentials, s => s == .checkSocketConnection || s == .getCredentials
  | .allocation, s => s == .allocation || s == .getCredentials
  | .createPermission, s => s == .createPermission || s == .allocation || s == .ready
  | .bindChannel, s => s == .bindChannel || s == .createPermission
  | .ready, s => s == .ready || s == .bindChannel
  | .cleanUp, s => s != .new
  | .failed, s => s != .new

/-- `iceUtilsSendStunPacket`, which needs a packet. -/
def iceUtilsSendStunPacket (packet : Bool) (sent : Status) : Status := if packet then sent
    else .nullArg

/-- `CHK_STATUS`: a function goes on if what it has called succeeds. -/
def chkStatus (result : Status × TurnConnection) (next : TurnConnection → Status × TurnConnection) :
    Status × TurnConnection :=
  if result.1.failed then result else next result.2

namespace TurnConnection

/-! ### Requests for the peers -/

def generateTransactionId (connection : TurnConnection) (i : Nat) (peer : TurnPeer)
    (transactionId : List UInt8) : TurnConnection :=
  { connection with
    turnPeerList := connection.turnPeerList.set i
      { peer with transactionIdStore := peer.transactionIdStore.insert transactionId }
    transactions := connection.transactions ++ [.request peer.channelNumber transactionId] }

/-- The loop of `checkTurnPeerConnections`. -/
def checkPeers (input : StepInput) : List Nat → TurnConnection → Status × TurnConnection
  | [], connection => (.success, connection)
  | i :: is, connection =>
    match connection.turnPeerList[i]? with
    | none => checkPeers input is connection
    | some peer =>
      match peer.connectionState with
      | .createPermission =>
        if connection.turnCreatePermissionPacket then
          checkPeers input is (connection.generateTransactionId i peer (input.transactionId i))
        else (.nullArg, connection)
      | .bindChannel =>
        if connection.turnChannelBindPacket then
          checkPeers input is (connection.generateTransactionId i peer (input.transactionId i))
        else (.nullArg, connection)
      | _ => checkPeers input is connection

/-- The allocation is about to end, and no refresh request has been sent lately. -/
def refreshIsDue (connection : TurnConnection) (currTime : Nat) : Bool :=
  match connection.allocationExpirationTime with
  | none => false
  | some time =>
    time ≤ currTime + defaultTurnAllocationRefreshGracePeriod &&
      connection.nextAllocationRefreshTime ≤ currTime

def turnConnectionRefreshAllocation (connection : TurnConnection) (input : StepInput) :
    Status × TurnConnection :=
  if connection.refreshIsDue input.refreshTime then
    chkStatus
      (iceUtilsSendStunPacket connection.turnAllocationRefreshPacket input.refreshSent, connection)
      fun connection =>
        (.success,
          { connection with
            nextAllocationRefreshTime := input.refreshTime + defaultTurnSendRefreshInterval })
  else (.success, connection)

def checkTurnPeerConnections (connection : TurnConnection) (input : StepInput) :
    Status × TurnConnection :=
  chkStatus (checkPeers input (List.range connection.turnPeerList.length) connection)
    (·.turnConnectionRefreshAllocation input)

/-! ### Executing a state -/

def executeCheckSocketConnection (connection : TurnConnection) (input : StepInput) :
    Status × TurnConnection :=
  if connection.state ≠ .checkSocketConnection then
    chkStatus (input.allocationRequest, { connection with state := .checkSocketConnection })
      fun connection => (.success, { connection with turnPacket := true })
  else (.success, connection)

def executeGetCredentials (connection : TurnConnection) (input : StepInput) :
    Status × TurnConnection :=
  if connection.state ≠ .getCredentials then
    chkStatus (input.initSecureConnection, connection) fun connection =>
      (iceUtilsSendStunPacket connection.turnPacket input.sent,
        { connection with state := .getCredentials })
  else if input.executeTime ≤ connection.stateTimeoutTime then
    (iceUtilsSendStunPacket connection.turnPacket input.sent, connection)
  else (.turnConnectionGetCredentialsFailed, connection)

def executeAllocation (connection : TurnConnection) (input : StepInput) : Status × TurnConnection :=
  if connection.state ≠ .allocation then
    match input.longTermKey with
    | none => (.invalidArg, { connection with turnPacket := false })
    | some longTermKey =>
      chkStatus
        (input.allocationRequest,
          { connection with turnPacket := false, longTermKey := longTermKey })
        fun connection =>
          (iceUtilsSendStunPacket true input.sent,
            { connection with turnPacket := true, state := .allocation })
  else if input.executeTime ≤ connection.stateTimeoutTime then
    (iceUtilsSendStunPacket connection.turnPacket input.sent, connection)
  else (.turnConnectionAllocationFailed, connection)

/-- The packets that `executeCreatePermissionTurnState` prepares. -/
def preparePackets (connection : TurnConnection) (input : StepInput) : Status × TurnConnection :=
  chkStatus
    (input.createPermissionPacket.status,
      { connection with turnCreatePermissionPacket := input.createPermissionPacket.created })
    fun connection =>
  chkStatus
    (input.channelBindPacket.status,
      { connection with turnChannelBindPacket := input.channelBindPacket.created })
    fun connection =>
  chkStatus
    (input.allocationRefreshPacket.status,
      { connection with turnAllocationRefreshPacket := input.allocationRefreshPacket.created })
    fun connection => (.success, { connection with state := .createPermission })

def executeCreatePermission (connection : TurnConnection) (input : StepInput) :
    Status × TurnConnection :=
  chkStatus
    (if connection.state ≠ .createPermission then connection.preparePackets input
      else (.success, connection))
    fun connection =>
  chkStatus (connection.checkTurnPeerConnections input) fun connection =>
    (.success,
      if connection.turnPeerList.length = 0 then
        { connection with stateTimeoutTime := input.executeTime +
        defaultTurnCreatePermissionTimeout }
      else connection)

def executeBindChannel (connection : TurnConnection) (input : StepInput) :
    Status × TurnConnection :=
  { connection with state := .bindChannel }.checkTurnPeerConnections input

def executeReady (connection : TurnConnection) (input : StepInput) : Status × TurnConnection :=
  { connection with state := .ready }.checkTurnPeerConnections input

def executeCleanUp (connection : TurnConnection) (input : StepInput) : Status × TurnConnection :=
  if connection.hasAllocation then
    chkStatus
      (iceUtilsSendStunPacket connection.turnAllocationRefreshPacket input.sent,
        { connection with state := .cleanUp })
      fun connection => (.success, { connection with deallocatePacketSent := true })
  else (.success, { connection with state := .cleanUp })

def executeFailed (connection : TurnConnection) : TurnConnection :=
  { connection with state := .failed, hasAllocation := false }

def execute (connection : TurnConnection) (input : StepInput) : TurnState → Status × TurnConnection
  | .new => (.success, { connection with state := .new })
  | .checkSocketConnection => connection.executeCheckSocketConnection input
  | .getCredentials => connection.executeGetCredentials input
  | .allocation => connection.executeAllocation input
  | .createPermission => connection.executeCreatePermission input
  | .bindChannel => connection.executeBindChannel input
  | .ready => connection.executeReady input
  | .cleanUp => connection.executeCleanUp input
  | .failed => (.success, connection.executeFailed)

/-- `stepStateMachine`: the next state is executed, if it accepts the current one. -/
def stepStateMachine (connection : TurnConnection) (input : StepInput) : Status × TurnConnection :=
  match connection.fromState input with
  | (.error e, connection) => (e, connection)
  | (.ok next, connection) =>
    if next.accepts connection.currentState then
      { connection with currentState := next }.execute input next
    else (.turnInvalidState, connection)

end TurnConnection

/-! ### Events -/

/-- What other threads do to a connection: `shutdown` is `turnConnectionShutdown`, and `fatalError`
is `turnConnectionFatalError`, which nothing calls. -/
inductive TurnMessage
  | addPeer (peerAddress : KvsIpAddress) (allocated : Bool)
  | stun (currentTime : Nat) (buffer : List UInt8)
  | stunError (buffer : List UInt8)
  | shutdown
  | fatalError (errorStatus : Status)

/-- What a round of the state machine reads: the inputs of its two steps, whether a shutdown is
asked for after the first one, the clock when the connection is put into the clean-up state, and
what happens to the connection while it is not locked. -/
structure RoundInput where
  first : StepInput
  stopped : Bool
  stopTime : Nat
  window : List TurnMessage
  second : StepInput

/-- What happens to a connection. -/
inductive TurnEvent
  | message (message : TurnMessage)
  | timer (input : RoundInput)

namespace TurnConnection

def turnConnectionFatalError (connection : TurnConnection) (errorStatus : Status) :
    TurnConnection :=
  { connection with errorStatus := errorStatus, state := .failed }

section

variable (hmac : List UInt8 → List UInt8 → Digest) (crc32 : List UInt8 → UInt32)

def receive (connection : TurnConnection) : TurnMessage → TurnConnection
  | .addPeer peerAddress allocated => (connection.turnConnectionAddPeer peerAddress allocated).2
  | .stun currentTime buffer =>
    (connection.turnConnectionHandleStun hmac crc32 currentTime buffer).2
  | .stunError buffer => (connection.turnConnectionHandleStunError hmac crc32 buffer).2
  | .shutdown => { connection with stopTurnConnection := true }
  | .fatalError errorStatus => connection.turnConnectionFatalError errorStatus

/-- The connection is put into the clean-up state. -/
def stop (connection : TurnConnection) (currentTime : Nat) : TurnConnection :=
  { connection with
    state := .cleanUp
    stateTimeoutTime := currentTime + defaultTurnCleanUpTimeout }

def stopIf (connection : TurnConnection) (stopped : Bool) : TurnConnection :=
  { connection with stopTurnConnection := connection.stopTurnConnection || stopped }

def firstStep (connection : TurnConnection) (input : RoundInput) : Status × TurnConnection :=
  let (status, connection) := connection.stepStateMachine input.first
  (status, connection.stopIf input.stopped)

/-- The connection that a round steps once more: one that is to be stopped, or whose step has
failed. -/
def forced (connection : TurnConnection) (input : RoundInput) : Option TurnConnection :=
  let (status, stepped) := connection.firstStep input
  if status = .success ∧ stepped.stopTurnConnection ∧ stepped.state ≠ .new ∧
      stepped.state ≠ .cleanUp then
    some (stepped.stop input.stopTime)
  else if status ≠ .success ∧ stepped.state ≠ .failed then
    some (input.window.foldl (receive hmac crc32) (stepped.turnConnectionFatalError status))
  else none

/-- One round of the loop in `stepTurnConnectionStateMachine`. -/
def stepTurnConnectionStateMachine (connection : TurnConnection) (input : RoundInput) :
    Status × TurnConnection :=
  match connection.forced hmac crc32 input with
  | some connection => connection.stepStateMachine input.second
  | none => (.success, (connection.firstStep input).2)

/-- The loop goes on as long as the second steps succeed and the state changes. -/
def stateChanged (before after : Status × TurnConnection) : Bool :=
  after.1 == .success && before.2.state != after.2.state

/-- A call of `stepTurnConnectionStateMachine` with a bound on the number of its rounds. -/
def stepLoop (connection : TurnConnection) (inputs : Nat → RoundInput) (fuel : Nat) :
    Option (Status × TurnConnection) :=
  doWhile (fun result input => result.2.stepTurnConnectionStateMachine hmac crc32 input)
  stateChanged
    inputs fuel 0 (.success, connection)

/-- What `stepStateMachine` is proposed: the current state and the next one. -/
def stepProposals (connection : TurnConnection) (input : StepInput) :
    List (TurnState × TurnState) :=
  match connection.fromState input with
  | (.error _, _) => []
  | (.ok next, _) => [(connection.currentState, next)]

def proposals (connection : TurnConnection) (input : RoundInput) : List (TurnState × TurnState) :=
  connection.stepProposals input.first ++
    match connection.forced hmac crc32 input with
    | some connection => connection.stepProposals input.second
    | none => []

/-- What `stepStateMachine` executes: the state and the connection that it finds. -/
def stepExecutions (connection : TurnConnection) (input : StepInput) :
    List (TurnState × TurnConnection) :=
  match connection.fromState input with
  | (.error _, _) => []
  | (.ok next, connection) =>
    if next.accepts connection.currentState then [(next, { connection with currentState := next })]
      else []

def executions (connection : TurnConnection) (input : RoundInput) :
    List (TurnState × TurnConnection) :=
  connection.stepExecutions input.first ++
    match connection.forced hmac crc32 input with
    | some connection => connection.stepExecutions input.second
    | none => []

def step (connection : TurnConnection) : TurnEvent → TurnConnection
  | .message message => connection.receive hmac crc32 message
  | .timer input => (connection.stepTurnConnectionStateMachine hmac crc32 input).2

def run (connection : TurnConnection) (events : List TurnEvent) : TurnConnection :=
  events.foldl (step hmac crc32) connection

end

end TurnConnection

end KvsWebrtc.Turn
