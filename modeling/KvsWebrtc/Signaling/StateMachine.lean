import KvsWebrtc.Common.Status

/-!
# The state machine of the signaling client

`Signaling/StateMachine.c`, and what the functions of `Signaling/Signaling.c` that its states call
do to the client.  The service behind these functions is an input of each step (`ServiceCall`), and
so are the callbacks of the application and the clock.  `fromReady` is `fromReadySignalingState`,
`executeReady` is `executeReadySignalingState`, and so on.

`stepStateMachine` belongs to a library: the next state is entered if it accepts the current one and
if its retries are not exhausted.  `signalingStateMachineIterator` steps until the state that it is
asked for is reached or a check fails; other threads may change the flags of the client before each
iteration (`Changes`), and its result too.
-/

namespace KvsWebrtc.Signaling

/-- `SIGNALING_STATE_NEW` to `SIGNALING_STATE_JOIN_SESSION_CONNECTED`. -/
inductive SignalingState
  | new
  | getToken
  | describe
  | create
  | getEndpoint
  | getIceConfig
  | ready
  | connect
  | connected
  | disconnected
  | delete
  | deleted
  | describeMedia
  | joinSession
  | joinSessionWaiting
  | joinSessionConnected
deriving DecidableEq

/-- `SERVICE_CALL_RESULT`, as far as the states tell the results apart. -/
inductive ServiceCallResult
  | notSet
  | ok
  | badRequest
  | forbidden
  | resourceNotFound
  | notAuthorized
  | requestTimeout
  | internalError
  | gatewayTimeout
  | networkConnectionTimeout
  | networkReadTimeout
  | resourceDeleted
  | invalidArg
  | signalingGoAway
  | signalingReconnectIce
  | unknown
  | other (code : Nat)
deriving DecidableEq

namespace SignalingState

/-- `SIGNALING_STATE_MACHINE_STATES`: the states that a state can be entered from. -/
def accepts : SignalingState → SignalingState → Bool
  | .new, s => s == .new
  | .getToken, s =>
    s == .new || s == .describe || s == .describeMedia || s == .create || s == .getEndpoint ||
      s == .getIceConfig || s == .ready || s == .connect || s == .connected || s == .joinSession ||
      s == .joinSessionWaiting || s == .joinSessionConnected || s == .delete || s == .getToken
  | .describe, s =>
    s == .getToken || s == .create || s == .getEndpoint || s == .getIceConfig || s == .connect ||
      s == .connected || s == .joinSession || s == .joinSessionConnected || s == .delete ||
      s == .describe || s == .ready || s == .disconnected
  | .describeMedia, s => s == .describe || s == .describeMedia
  | .create, s => s == .describe || s == .describeMedia || s == .create
  | .getEndpoint, s =>
    s == .describe || s == .describeMedia || s == .create || s == .getToken || s == .ready ||
      s == .connect || s == .connected || s == .joinSession || s == .joinSessionConnected ||
      s == .getEndpoint
  | .getIceConfig, s =>
    s == .describe || s == .describeMedia || s == .connect || s == .connected ||
    s == .joinSession ||
      s == .joinSessionConnected || s == .getEndpoint || s == .ready || s == .getIceConfig
  | .ready, s => s == .getIceConfig || s == .disconnected || s == .ready
  | .connect, s =>
    s == .ready || s == .disconnected || s == .connected || s == .joinSession || s == .connect
  | .connected, s => s == .connect || s == .connected || s == .joinSession
  | .disconnected, s =>
    s == .connect || s == .connected || s == .joinSession || s == .joinSessionWaiting ||
      s == .joinSessionConnected
  | .delete, s =>
    s == .getToken || s == .describe || s == .describeMedia || s == .create || s == .getEndpoint ||
      s == .getIceConfig || s == .ready || s == .connect || s == .connected || s == .joinSession ||
      s == .disconnected || s == .delete
  | .deleted, s => s == .delete || s == .deleted
  | .joinSession, s => s == .connected || s == .joinSessionWaiting || s == .joinSessionConnected
  | .joinSessionWaiting, s => s == .joinSession
  | .joinSessionConnected, s => s == .joinSessionWaiting || s == .joinSessionConnected

/-- Whether the state has `INFINITE_RETRY_COUNT_SENTINEL` in the table. -/
def retriesForever : SignalingState → Bool
  | .new | .ready | .connect | .connected | .deleted | .joinSession | .joinSessionWaiting
  | .joinSessionConnected => true
  | _ => false

def status : SignalingState → Status
  | .new => .signalingInvalidReadyState
  | .getToken => .signalingGetTokenCallFailed
  | .describe => .signalingDescribeCallFailed
  | .describeMedia => .signalingDescribeMediaCallFailed
  | .create => .signalingCreateCallFailed
  | .getEndpoint => .signalingGetEndpointCallFailed
  | .getIceConfig => .signalingGetIceConfigCallFailed
  | .ready => .signalingReadyCallbackFailed
  | .connect => .signalingConnectCallFailed
  | .connected => .signalingConnectedCallbackFailed
  | .disconnected => .signalingDisconnectedCallbackFailed
  | .delete => .signalingDeleteCallFailed
  | .deleted => .signalingDeleteCallFailed
  | .joinSession => .signalingJoinSessionCallFailed
  | .joinSessionWaiting => .signalingJoinSessionConnectedFailed
  | .joinSessionConnected => .signalingJoinSessionConnectedFailed

def all : List SignalingState :=
  [.new, .getToken, .describe, .describeMedia, .create, .getEndpoint, .getIceConfig, .ready,
  .connect, .connected, .disconnected, .delete, .deleted, .joinSession, .joinSessionWaiting,
    .joinSessionConnected]

end SignalingState

/-- The fields of `ChannelInfo` that the state machine reads. -/
structure ChannelInfo where
  pChannelArn : Option (List Char)
  useMediaStorage : Bool
  retry : Bool
deriving DecidableEq

/-- The fields of `SignalingClient` that the state machine reads or writes. -/
structure SignalingClient where
  currentState : SignalingState
  result : ServiceCallResult
  clientReady : Bool
  shutdown : Bool
  connected : Bool
  deleting : Bool
  refreshIceConfig : Bool
  offerReceived : Bool
  /-- `mediaStorageConfig.storageStatus`. -/
  storageStatus : Bool
  pChannelInfo : ChannelInfo
  /-- `channelDescription.channelArn`. -/
  channelArn : List Char
  /-- Whether `pKvsNgtcp2Transport` is set. -/
  kvsNgtcp2Transport : Bool
  /-- The expiration of `pAwsCredentials`. -/
  awsCredentialsExpiration : Option Nat
deriving DecidableEq

/-- What a service does to the client, and the status of the call. -/
structure ServiceCall where
  status : Status
  result : ServiceCallResult
  connected : Bool
  storageStatus : Bool
deriving DecidableEq

/-- What a step reads besides the client: what `stepStateMachine` returns where a state is not
accepted, whether the retries are exhausted, the status of `stateChangeFn`, the service, and the
outcome of waiting for an offer. -/
structure StepInput where
  rejected : Status
  retriesExhausted : Bool
  stateChangeFn : Status
  call : ServiceCall
  waited : Status
deriving DecidableEq

namespace SignalingClient

/-! ### The next state -/

/-- The state is overwritten if the ICE configuration is to be refreshed. -/
def refreshing (client : SignalingClient) (state : SignalingState) :
    SignalingState × SignalingClient :=
  (if client.refreshIceConfig then .getIceConfig else state, { client with
  refreshIceConfig := false })

def fromGetToken (client : SignalingClient) : SignalingState × SignalingClient :=
  if client.result = .ok then
    if client.deleting then (.delete, client)
    else if client.kvsNgtcp2Transport then (.getEndpoint, client)
    else
      match client.pChannelInfo.pChannelArn with
      | some (c :: arn) => (.getEndpoint, { client with channelArn := c :: arn })
      | _ => (.describe, client)
  else (.getToken, client)

/-- `fromDescribeSignalingState`.  Whatever the result says, the last assignment wins. -/
def fromDescribe (client : SignalingClient) : SignalingState :=
  let _state : SignalingState :=
    match client.result with
    | .ok =>
      if client.deleting then .delete
      else if client.pChannelInfo.useMediaStorage then .describeMedia
      else .getEndpoint
    | .resourceNotFound => .create
    | .forbidden | .notAuthorized => .getToken
    | _ => .describe
  .create

def fromDescribeMedia (client : SignalingClient) : SignalingState :=
  match client.result with
  | .ok => if client.deleting then .delete else .getEndpoint
  | .resourceNotFound => .create
  | .forbidden | .notAuthorized => .getToken
  | _ => .describeMedia

def fromCreate (client : SignalingClient) : SignalingState :=
  match client.result with
  | .ok => .describe
  | .forbidden | .notAuthorized => .getToken
  | _ => .create

def fromGetEndpoint (client : SignalingClient) : SignalingState :=
  match client.result with
  | .ok => .getIceConfig
  | .forbidden | .notAuthorized => .getToken
  | _ => .getEndpoint

def fromGetIceConfig (client : SignalingClient) : SignalingState :=
  match client.result with
  | .ok => .ready
  | .forbidden | .notAuthorized => .getToken
  | .resourceNotFound => .describe
  | _ => .getIceConfig

def fromReady (client : SignalingClient) : SignalingState × SignalingClient :=
  client.refreshing <|
    match client.result with
    | .ok => .ready
    | .signalingReconnectIce => .getIceConfig
    | .forbidden | .notAuthorized => .getToken
    | _ => .connect

def fromConnect (client : SignalingClient) : SignalingState × SignalingClient :=
  client.refreshing <|
    match client.result with
    | .ok => if client.connected then .connected else .connect
    | .resourceNotFound => .describe
    | .forbidden | .notAuthorized => .getToken
    | .internalError => .getEndpoint
    | .badRequest => .getEndpoint
    | .signalingReconnectIce => .getIceConfig
    | .networkConnectionTimeout | .networkReadTimeout | .requestTimeout | .gatewayTimeout =>
      .getEndpoint
    | _ => .getToken

def fromConnected (client : SignalingClient) : SignalingState × SignalingClient :=
  client.refreshing <|
    match client.result with
    | .ok =>
      if !client.connected then .disconnected
      else if client.storageStatus then .joinSession
      else .connected
    | .resourceNotFound => .describe
    | .forbidden | .notAuthorized => .getToken
    | .internalError | .badRequest | .networkConnectionTimeout | .networkReadTimeout
    | .requestTimeout | .gatewayTimeout => .getEndpoint
    | .signalingGoAway => .describe
    | .signalingReconnectIce => .getIceConfig
    | _ => .getToken

def fromJoinStorageSession (client : SignalingClient) : SignalingState × SignalingClient :=
  client.refreshing <|
    match client.result with
    | .ok => if !client.connected then .disconnected else .joinSessionWaiting
    | .resourceNotFound => .describe
    | .forbidden | .notAuthorized => .getToken
    | .internalError => .getEndpoint
    | .signalingReconnectIce => .getIceConfig
    | .badRequest | .networkConnectionTimeout | .networkReadTimeout | .requestTimeout
    | .gatewayTimeout => .getEndpoint
    | _ => .getToken

def fromJoinStorageSessionWaiting (client : SignalingClient) : SignalingState :=
  match client.result with
  | .ok => if !client.connected then .disconnected else .joinSessionConnected
  | .notSet => if !client.connected then .disconnected else .joinSession
  | _ => .getToken

def fromJoinStorageSessionConnected (client : SignalingClient) : SignalingState × SignalingClient :=
  client.refreshing <|
    match client.result with
    | .ok =>
      if !client.connected then .disconnected
      else if client.storageStatus then .getIceConfig
      else .connected
    | .signalingGoAway => .describe
    | .signalingReconnectIce => .getIceConfig
    | _ => .getToken

def fromDisconnected (client : SignalingClient) : SignalingState × SignalingClient :=
  client.refreshing <|
    match client.result with
    | .forbidden | .notAuthorized => .getToken
    | .signalingReconnectIce => .getIceConfig
    | _ => .ready

def fromDelete (client : SignalingClient) : SignalingState :=
  match client.result with
  | .forbidden | .notAuthorized => .getToken
  | .ok | .resourceDeleted | .resourceNotFound => .deleted
  | .badRequest => .describe
  | _ => .delete

/-- `fromNewSignalingState` to `fromDeletedSignalingState`: the next state of the current one. -/
def fromState (client : SignalingClient) : SignalingState × SignalingClient :=
  match client.currentState with
  | .new => (.getToken, client)
  | .getToken => client.fromGetToken
  | .describe => (client.fromDescribe, client)
  | .describeMedia => (client.fromDescribeMedia, client)
  | .create => (client.fromCreate, client)
  | .getEndpoint => (client.fromGetEndpoint, client)
  | .getIceConfig => (client.fromGetIceConfig, client)
  | .ready => client.fromReady
  | .connect => client.fromConnect
  | .connected => client.fromConnected
  | .disconnected => client.fromDisconnected
  | .delete => (client.fromDelete, client)
  | .deleted => (.deleted, client)
  | .joinSession => client.fromJoinStorageSession
  | .joinSessionWaiting => (client.fromJoinStorageSessionWaiting, client)
  | .joinSessionConnected => client.fromJoinStorageSessionConnected

/-! ### The service calls -/

def called (client : SignalingClient) (call : ServiceCall) : Status × SignalingClient :=
  (call.status,
    { client with
      result := call.result
      connected := call.connected
      storageStatus := call.storageStatus })

/-- `describeChannel`, which no longer calls the service: only the hooks of the application run. -/
def describeChannel (client : SignalingClient) (call : ServiceCall) : Status × SignalingClient :=
  (call.status, client)

/-- `getChannelEndpoint`, and `getIceConfig`: there is nothing to ask for in front of a relay. -/
def getChannelEndpoint (client : SignalingClient) (call : ServiceCall) : Status × SignalingClient :=
  if client.kvsNgtcp2Transport then (.success, { client with result := .ok })
    else client.called call

@[inherit_doc getChannelEndpoint]
def getIceConfig (client : SignalingClient) (call : ServiceCall) : Status × SignalingClient :=
  if client.kvsNgtcp2Transport then (.success, { client with result := .ok })
    else client.called call

def connectSignalingChannel (client : SignalingClient) (call : ServiceCall) :
    Status × SignalingClient :=
  if client.kvsNgtcp2Transport then
    if client.connected then (.success, { client with result := .ok })
    else if call.status.failed then (call.status, { client with result := .notAuthorized })
    else (call.status, { client with result := .ok, connected := true })
  else client.called call

def joinStorageSession (client : SignalingClient) (call : ServiceCall) : Status × SignalingClient :=
  if client.storageStatus then client.called call else (.signalingMediaStorageDisabled, client)

/-! ### Executing a state -/

/-- The application is told of the state; where that fails, nothing else is done. -/
def notify (client : SignalingClient) (input : StepInput)
    (call : SignalingClient → Status × SignalingClient) : Status × SignalingClient :=
  if input.stateChangeFn.failed then (input.stateChangeFn, client) else call client

def reset (client : SignalingClient) : SignalingClient :=
  { client with result := .notSet, clientReady := false }

def executeNew (client : SignalingClient) (input : StepInput) : Status × SignalingClient :=
  client.reset.notify input fun client => (.success, client)

/-- `executeGetTokenSignalingState`, which no longer asks for the token. -/
def executeGetToken (client : SignalingClient) (input : StepInput) : Status × SignalingClient :=
  client.reset.notify input fun client => (.success, { client with result := .ok })

def executeDescribe (client : SignalingClient) (input : StepInput) : Status × SignalingClient :=
  client.reset.notify input fun client => client.describeChannel input.call

def executeDescribeMedia (client : SignalingClient) (input : StepInput) :
    Status × SignalingClient :=
  { client with result := .notSet }.notify input fun client => client.called input.call

def executeCreate (client : SignalingClient) (input : StepInput) : Status × SignalingClient :=
  client.reset.notify input fun client => client.called input.call

def executeGetEndpoint (client : SignalingClient) (input : StepInput) : Status × SignalingClient :=
  client.reset.notify input fun client => client.getChannelEndpoint input.call

def executeGetIceConfig (client : SignalingClient) (input : StepInput) : Status × SignalingClient :=
  client.reset.notify input fun client => client.getIceConfig input.call

def executeReady (client : SignalingClient) (input : StepInput) : Status × SignalingClient :=
  { client with clientReady := true, result := .notSet }.notify input fun client =>
  (.success, client)

def executeConnect (client : SignalingClient) (input : StepInput) : Status × SignalingClient :=
  client.notify input fun client => client.connectSignalingChannel input.call

def executeJoinStorageSession (client : SignalingClient) (input : StepInput) :
    Status × SignalingClient :=
  client.notify input fun client => { client with
    offerReceived := false }.joinStorageSession input.call

def waitResult (status : Status) : ServiceCallResult :=
  if status = .operationTimedOut then .notSet else if status.failed then .unknown else .ok

/-- `executeJoinStorageSessionWaitingState`: the offer has been received already, or it is waited
for. -/
def executeJoinStorageSessionWaiting (client : SignalingClient) (input : StepInput) :
    Status × SignalingClient :=
  let (status, client) := client.notify input fun client =>
    if client.offerReceived then (.success, client)
    else (input.waited, { client with offerReceived := !input.waited.failed })
  (status, { client with result := waitResult status })

/-- `executeConnectedSignalingState`, `executeJoinStorageSessionConnectedState`,
`executeDisconnectedSignalingState` and `executeDeletedSignalingState`. -/
def executeConnected (client : SignalingClient) (input : StepInput) : Status × SignalingClient :=
  client.notify input fun client => (.success, client)

@[inherit_doc executeConnected]
def executeJoinStorageSessionConnected (client : SignalingClient) (input : StepInput) :
    Status × SignalingClient :=
  client.notify input fun client => (.success, client)

@[inherit_doc executeConnected]
def executeDisconnected (client : SignalingClient) (input : StepInput) : Status × SignalingClient :=
  client.notify input fun client => (.success, client)

@[inherit_doc executeConnected]
def executeDeleted (client : SignalingClient) (input : StepInput) : Status × SignalingClient :=
  client.notify input fun client => (.success, client)

def executeDelete (client : SignalingClient) (input : StepInput) : Status × SignalingClient :=
  client.reset.notify input fun client => client.called input.call

def execute (client : SignalingClient) (input : StepInput) : Status × SignalingClient :=
  match client.currentState with
  | .new => client.executeNew input
  | .getToken => client.executeGetToken input
  | .describe => client.executeDescribe input
  | .describeMedia => client.executeDescribeMedia input
  | .create => client.executeCreate input
  | .getEndpoint => client.executeGetEndpoint input
  | .getIceConfig => client.executeGetIceConfig input
  | .ready => client.executeReady input
  | .connect => client.executeConnect input
  | .connected => client.executeConnected input
  | .disconnected => client.executeDisconnected input
  | .delete => client.executeDelete input
  | .deleted => client.executeDeleted input
  | .joinSession => client.executeJoinStorageSession input
  | .joinSessionWaiting => client.executeJoinStorageSessionWaiting input
  | .joinSessionConnected => client.executeJoinStorageSessionConnected input

/-- `stepStateMachine`: a state that is entered again uses up a retry. -/
def stepStateMachine (client : SignalingClient) (input : StepInput) : Status × SignalingClient :=
  let (next, client) := client.fromState
  if next.accepts client.currentState then
    if next = client.currentState ∧ !next.retriesForever ∧ input.retriesExhausted then
      (next.status, client)
    else { client with currentState := next }.execute input
  else (input.rejected, client)

end SignalingClient

/-! ### The iterator -/

/-- What other threads have done to the client: its flags, and its result where they have set
one. -/
structure Changes where
  shutdown : Bool
  connected : Bool
  deleting : Bool
  refreshIceConfig : Bool
  offerReceived : Bool
  storageStatus : Bool
  result : Option ServiceCallResult
  awsCredentialsExpiration : Option Nat
deriving DecidableEq

/-- What an iteration reads besides the client. -/
structure IterationInput where
  changes : Changes
  currentTime : Nat
  step : StepInput
deriving DecidableEq

namespace SignalingClient

def change (client : SignalingClient) (changes : Changes) : SignalingClient :=
  { client with
    shutdown := changes.shutdown
    connected := changes.connected
    deleting := changes.deleting
    refreshIceConfig := changes.refreshIceConfig
    offerReceived := changes.offerReceived
    storageStatus := changes.storageStatus
    result := changes.result.getD client.result
    awsCredentialsExpiration := changes.awsCredentialsExpiration }

/-- The checks before a step: what the iterator returns instead. -/
def checked (client : SignalingClient) (expiration currentTime : Nat) (status : Status) :
    Option Status :=
  if client.shutdown then some status
  else if status.failed ∧ !client.pChannelInfo.retry then some status
  else if status.failed ∧ status ∈ SignalingState.all.map SignalingState.status then some status
  else if expiration = 0 ∨ currentTime ≤ expiration then none
  else some .operationTimedOut

def fixUp (client : SignalingClient) (currentTime : Nat) (status : Status) : SignalingClient :=
  if status = .serviceCallNotAuthorizedError ∨
      client.awsCredentialsExpiration.any (· < currentTime) then
    { client with result := .notAuthorized }
  else client

/-- The client that an iteration steps, if the checks pass. -/
def toStep (client : SignalingClient) (expiration : Nat) (status : Status)
    (input : IterationInput) :
    Except Status SignalingClient :=
  let client := client.change input.changes
  match client.checked expiration input.currentTime status with
  | some status => .error status
  | none => .ok (client.fixUp input.currentTime status)

/-- `signalingStateMachineIterator`, which returns nothing as long as it is running. -/
def signalingStateMachineIterator (expiration : Nat) (finalState : SignalingState) (status : Status)
    (client : SignalingClient) : List IterationInput → Option Status × SignalingClient
  | [] => (none, client)
  | input :: inputs =>
    match client.toStep expiration status input with
    | .error status => (some status, client.change input.changes)
    | .ok client =>
      let (status, client) := client.stepStateMachine input.step
      if client.currentState = finalState then (some .success, client)
      else client.signalingStateMachineIterator expiration finalState status inputs

/-- The clients whose next state the iterator asks for. -/
def stepped (expiration : Nat) (finalState : SignalingState) (status : Status)
    (client : SignalingClient) : List IterationInput → List SignalingClient
  | [] => []
  | input :: inputs =>
    match client.toStep expiration status input with
    | .error _ => []
    | .ok client =>
      let (status, next) := client.stepStateMachine input.step
      client ::
        if next.currentState = finalState then []
        else next.stepped expiration finalState status inputs

/-- The current state and the one proposed, each time that a next state is asked for. -/
def proposals (expiration : Nat) (finalState : SignalingState) (status : Status)
    (client : SignalingClient) (inputs : List IterationInput) :
    List (SignalingState × SignalingState) :=
  (client.stepped expiration finalState status inputs).map fun client =>
    (client.currentState, client.fromState.1)

end SignalingClient

end KvsWebrtc.Signaling
