import KvsWebrtc.Turn.StateMachine

/-!
# The nonces of prepared packets

`turnConnectionHandleStunError` and `turnConnectionUpdateNonce` of `Ice/TurnConnection.c`, and
`Ice/TurnConnectionStateMachine.c` as far as packets are prepared and freed, with the nonce that
each packet has. The connection itself is as in the model without nonces, and so is what becomes of
it.
-/

namespace KvsWebrtc.Turn

open Stun

abbrev PreparedPacket := Option (List UInt8)

/-- The packets of a `TurnConnection`, as far as they are there. -/
structure PreparedPackets where
  turnPacket : Option PreparedPacket
  turnAllocationRefreshPacket : Option PreparedPacket
  turnChannelBindPacket : Option PreparedPacket
  turnCreatePermissionPacket : Option PreparedPacket
deriving DecidableEq

namespace PreparedPackets

def empty : PreparedPackets := ⟨none, none, none, none⟩

def nonces (packets : PreparedPackets) : List (List UInt8) :=
  [packets.turnPacket, packets.turnAllocationRefreshPacket, packets.turnChannelBindPacket,
    packets.turnCreatePermissionPacket].filterMap Option.join

end PreparedPackets

/-- `updateStunNonceAttribute`, on a packet that may not be there.  A nonce of another length is
refused. -/
def updateStunNonceAttribute (packet : Option PreparedPacket) (nonce : List UInt8) :
    Except Status (Option PreparedPacket) :=
  match packet with
  | some (some old) => if old.length = nonce.length then .ok (some (some nonce))
    else .error .invalidArg
  | _ => .ok packet

namespace PreparedPackets

/-- `turnConnectionUpdateNonce`: one packet after the other, up to one that refuses the nonce. -/
def turnConnectionUpdateNonce (packets : PreparedPackets) (nonce : List UInt8) :
    Status × PreparedPackets :=
  match updateStunNonceAttribute packets.turnPacket nonce with
  | .error e => (e, packets)
  | .ok packet =>
  let packets := { packets with turnPacket := packet }
  match updateStunNonceAttribute packets.turnAllocationRefreshPacket nonce with
  | .error e => (e, packets)
  | .ok packet =>
  let packets := { packets with turnAllocationRefreshPacket := packet }
  match updateStunNonceAttribute packets.turnChannelBindPacket nonce with
  | .error e => (e, packets)
  | .ok packet =>
  let packets := { packets with turnChannelBindPacket := packet }
  match updateStunNonceAttribute packets.turnCreatePermissionPacket nonce with
  | .error e => (e, packets)
  | .ok packet => (.success, { packets with turnCreatePermissionPacket := packet })

/-! ### Preparing and freeing -/

/-- A packet that `executeCreatePermissionTurnState` prepares.  The nonce is appended last. -/
def prepare (packaged : Packaged) (turnNonce : List UInt8) : Option PreparedPacket :=
  match packaged with
  | .ok => some (some turnNonce)
  | .failed _ created => if created then some none else none

/-- `preparePackets`, for the packets. -/
def preparePackets (packets : PreparedPackets) (input : StepInput) (turnNonce : List UInt8) :
    PreparedPackets :=
  let packets := { packets with
    turnCreatePermissionPacket := prepare input.createPermissionPacket turnNonce }
  if input.createPermissionPacket.status.failed then packets
  else
    let packets := { packets with
      turnChannelBindPacket := prepare input.channelBindPacket turnNonce }
    if input.channelBindPacket.status.failed then packets
    else
      { packets with
        turnAllocationRefreshPacket := prepare input.allocationRefreshPacket turnNonce }

/-- Executing a state, for the packets.  The first allocation request has no nonce. -/
def execute (packets : PreparedPackets) (connection : TurnConnection) (input : StepInput) :
    TurnState → PreparedPackets
  | .checkSocketConnection =>
    if connection.state ≠ .checkSocketConnection ∧ input.allocationRequest.failed = false then
      { packets with turnPacket := some none }
    else packets
  | .allocation =>
    if connection.state ≠ .allocation then
      if input.longTermKey.isNone ∨ input.allocationRequest.failed then
        { packets with turnPacket := none }
      else { packets with turnPacket := some (some connection.turnNonce) }
    else packets
  | .createPermission =>
    if connection.state ≠ .createPermission then packets.preparePackets input connection.turnNonce
    else packets
  | _ => packets

/-- `fromCleanUpTurnState` frees the packets when the clean-up is complete. -/
def fromState (packets : PreparedPackets) (connection : TurnConnection) (input : StepInput) :
    PreparedPackets :=
  if connection.currentState = .cleanUp ∧ connection.state ≠ .failed ∧
      (input.socketConnectionIsClosed ∨ connection.hasAllocation = false ∨
        input.currentTime > connection.stateTimeoutTime) then empty
  else packets

/-- `stepStateMachine`, for the packets. -/
def stepStateMachine (packets : PreparedPackets) (connection : TurnConnection) (input : StepInput) :
    PreparedPackets :=
  let packets := packets.fromState connection input
  match connection.fromState input with
  | (.error _, _) => packets
  | (.ok next, connection) =>
    if next.accepts connection.currentState then
      packets.execute { connection with currentState := next } input next
    else packets

end PreparedPackets

/-- A connection with the nonces of its packets. -/
structure PreparedConnection where
  connection : TurnConnection
  packets : PreparedPackets

namespace PreparedConnection

/-- `createTurnConnection`. -/
def create : PreparedConnection := ⟨createTurnConnection, .empty⟩

/-- What `turnConnectionHandleStunError` does for an error code.  The nonce has been recorded when
the realm is looked for, and when the packets are updated. -/
def handleErrorCode (c : PreparedConnection) (packet : StunPacket) (code : Nat)
    (transactionId : List UInt8) :
    Status × PreparedConnection :=
  let connection := c.connection.handleErrorCode packet code transactionId
  if code = stunErrorUnauthorized then
    match boundedBytesOf packet typeNonce stunMaxNonceLen with
    | none => (.success, ⟨connection, c.packets⟩)
    | some nonce =>
      match boundedBytesOf packet typeRealm stunMaxRealmLen with
      | none => (.success, ⟨connection, c.packets⟩)
      | some _ =>
        let (status, packets) := c.packets.turnConnectionUpdateNonce nonce
        (status, ⟨connection, packets⟩)
  else if code = stunErrorStaleNonce then
    match boundedBytesOf packet typeNonce stunMaxNonceLen with
    | none => (.success, ⟨connection, c.packets⟩)
    | some nonce =>
      let (status, packets) := c.packets.turnConnectionUpdateNonce nonce
      (status, ⟨connection, packets⟩)
  else (.success, ⟨connection, c.packets⟩)

variable (hmac : List UInt8 → List UInt8 → Digest) (crc32 : List UInt8 → UInt32)

def turnConnectionHandleStunError (c : PreparedConnection) (buffer : List UInt8) :
    Except Failure Status × PreparedConnection :=
  if buffer = [] then (.error (.status .invalidArg), c)
  else if stunPacketIsTypeError buffer = false then (.ok .success, c)
  else if c.connection.deallocatePacketSent then
    (.ok .success, ⟨{ c.connection with hasAllocation := false }, c.packets⟩)
  else
    match c.connection.deserializeStunError hmac crc32 buffer with
    | .error e => (.error e, c)
    | .ok packet =>
      match errorCodeOf packet with
      | none => (.ok .success, c)
      | some code =>
        let (status, c) := c.handleErrorCode packet code (transactionIdOf buffer)
        (.ok status, c)

end PreparedConnection

/-! ### Runs -/

/-- What happens between two states in which a connection can be observed. -/
inductive TurnStep
  | message (message : TurnMessage)
  | stepStateMachine (input : StepInput)
  | stopIf (stopped : Bool)
  | stop (currentTime : Nat)

section

variable (hmac : List UInt8 → List UInt8 → Digest) (crc32 : List UInt8 → UInt32)

def stepsOf (connection : TurnConnection) : TurnEvent → List TurnStep
  | .message message => [.message message]
  | .timer input =>
    let (status, stepped) := connection.firstStep input
    [.stepStateMachine input.first, .stopIf input.stopped] ++
      if status = .success ∧ stepped.stopTurnConnection ∧ stepped.state ≠ .new ∧
          stepped.state ≠ .cleanUp then
        [.stop input.stopTime, .stepStateMachine input.second]
      else if status ≠ .success ∧ stepped.state ≠ .failed then
        .message (.fatalError status) :: input.window.map .message ++
        [.stepStateMachine input.second]
      else []

def traceOf (connection : TurnConnection) : List TurnEvent → List TurnStep
  | [] => []
  | event :: events =>
    stepsOf connection event ++ traceOf (connection.step hmac crc32 event) events

namespace PreparedConnection

def step (c : PreparedConnection) : TurnStep → PreparedConnection
  | .message (.stunError buffer) => (c.turnConnectionHandleStunError hmac crc32 buffer).2
  | .message message => ⟨c.connection.receive hmac crc32 message, c.packets⟩
  | .stepStateMachine input =>
    ⟨(c.connection.stepStateMachine input).2, c.packets.stepStateMachine c.connection input⟩
  | .stopIf stopped => ⟨c.connection.stopIf stopped, c.packets⟩
  | .stop currentTime => ⟨c.connection.stop currentTime, c.packets⟩

end PreparedConnection

end

end KvsWebrtc.Turn
