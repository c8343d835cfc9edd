import KvsWebrtc.Ice.Agent
import KvsWebrtc.Ice.TurnChannelData
import KvsWebrtc.Rtp.RtpPacket
import KvsWebrtc.Stun.Deserialize
import KvsWebrtc.Turn.TransactionIdStore

/-!
# TURN connections

The connection to a TURN server and its peers (`Ice/TurnConnection.c`), as far as they are not about
channel data.  Of the prepared packets the model knows whether they are there.  What the network,
the clock and the random numbers give are parameters.

`transactions` lists the transaction ids that have been generated for a peer and the success
responses that have come, in their order; the code keeps no such list.

`turnConnectionSendData` of `Ice/TurnConnection.c`.  The buffer in which a message is put together
is part of the connection in the source, and is a parameter here.
-/

namespace KvsWebrtc.Turn

open Stun
open Ice (defaultTurnMaxPeerCount)

/-- The states of the state machine, `TURN_STATE_NEW` to `TURN_STATE_FAILED`. -/
inductive TurnState
  | new
  | checkSocketConnection
  | getCredentials
  | allocation
  | createPermission
  | bindChannel
  | ready
  | cleanUp
  | failed
deriving DecidableEq

inductive TurnPeerConnectionState
  | createPermission
  | bindChannel
  | ready
  | failed
deriving DecidableEq

/-- `TurnPeer`.  A time that is not valid is `none`. -/
structure TurnPeer where
  address : KvsIpAddress
  connectionState : TurnPeerConnectionState
  transactionIdStore : TransactionIdStore
  channelNumber : Nat
  permissionExpirationTime : Option Nat
  ready : Bool

/-- A transaction id is generated for the peer with a channel number, or a success response
comes. -/
inductive Transaction
  | request (channelNumber : Nat) (transactionId : List UInt8)
  | success (stunPacketType : Nat) (transactionId : List UInt8)
deriving DecidableEq

/-- `TurnConnection`.  `currentState` is the state of its state machine, and `turnPeerList` are the
first `turnPeerCount` entries of the array. -/
structure TurnConnection where
  state : TurnState
  currentState : TurnState
  stateTimeoutTime : Nat
  errorStatus : Status
  stopTurnConnection : Bool
  shutdownComplete : Bool
  hasAllocation : Bool
  credentialObtained : Bool
  deallocatePacketSent : Bool
  turnRealm : List UInt8
  turnNonce : List UInt8
  longTermKey : List UInt8
  turnPacket : Bool
  turnCreatePermissionPacket : Bool
  turnChannelBindPacket : Bool
  turnAllocationRefreshPacket : Bool
  turnPeerList : List TurnPeer
  relayAddress : KvsIpAddress
  allocationExpirationTime : Option Nat
  nextAllocationRefreshTime : Nat
  currentTimerCallingPeriod : Nat
  transactions : List Transaction

/-! ### Times, in hundreds of nanoseconds -/

def defaultTurnTimerIntervalBeforeReady : Nat := 50 * 10000

def defaultTurnTimerIntervalAfterReady : Nat := hundredsOfNanosInASecond

def turnPermissionLifetime : Nat := 300 * hundredsOfNanosInASecond

def invalidTimestampValue : Nat := 2 ^ 64 - 1

def createTurnConnection : TurnConnection where
  state := .new
  currentState := .new
  stateTimeoutTime := invalidTimestampValue
  errorStatus := .success
  stopTurnConnection := false
  shutdownComplete := false
  hasAllocation := false
  credentialObtained := false
  deallocatePacketSent := false
  turnRealm := []
  turnNonce := []
  longTermKey := List.replicate 16 0
  turnPacket := false
  turnCreatePermissionPacket := false
  turnChannelBindPacket := false
  turnAllocationRefreshPacket := false
  turnPeerList := []
  relayAddress := ⟨0, [0, 0], []⟩
  allocationExpirationTime := none
  nextAllocationRefreshTime := 0
  currentTimerCallingPeriod := defaultTurnTimerIntervalBeforeReady
  transactions := []

/-! ### Peers -/

def turnChannelBindChannelNumberBase : Nat := 0x4000

/-- A peer as `turnConnectionAddPeer` sets it up. -/
def createTurnPeer (address : KvsIpAddress) (turnPeerCount : Nat) : TurnPeer where
  address := address
  connectionState := .createPermission
  transactionIdStore := createTransactionIdStore
  channelNumber := (turnPeerCount % 2 ^ 16 + turnChannelBindChannelNumberBase) % 2 ^ 16
  permissionExpirationTime := none
  ready := false

namespace TurnConnection

/-- `turnConnectionGetPeerWithIp`: the last one. -/
def turnConnectionGetPeerWithIp (connection : TurnConnection) (ipAddress : KvsIpAddress) :
    Option TurnPeer :=
  (connection.turnPeerList.filter fun peer => Ice.sameIpAddress peer.address ipAddress
  true).getLast?

/-- `turnConnectionAddPeer`; `allocated` says whether there is memory for the store.  Without it the
count goes back to what it was. -/
def turnConnectionAddPeer (connection : TurnConnection) (peerAddress : KvsIpAddress)
    (allocated : Bool) :
    Status × TurnConnection :=
  if peerAddress.family ≠ familyIpv4 then (.invalidArg, connection)
  else if (connection.turnConnectionGetPeerWithIp peerAddress).isSome then (.success, connection)
  else if connection.turnPeerList.length < defaultTurnMaxPeerCount then
    let turnPeerList :=
      connection.turnPeerList ++ [createTurnPeer peerAddress (connection.turnPeerList.length + 1)]
    if allocated then (.success, { connection with turnPeerList := turnPeerList })
    else (.notEnoughMemory, { connection with turnPeerList := turnPeerList.dropLast })
  else (.invalidOperation, connection)

end TurnConnection

/-- The first peer that meets `p` is changed. -/
def modifyFirst (p : TurnPeer → Bool) (f : TurnPeer → TurnPeer) : List TurnPeer → List TurnPeer
  | [] => []
  | peer :: peers => if p peer then f peer :: peers else peer :: modifyFirst p f peers

/-! ### Packets of the server -/

/-- `STUN_PACKET_TYPE`, as far as the server sends them in response to requests that succeeded. -/
def typeAllocateSuccessResponse : Nat := 0x0103

@[inherit_doc typeAllocateSuccessResponse] def typeRefreshSuccessResponse : Nat := 0x0104
@[inherit_doc typeAllocateSuccessResponse] def typeCreatePermissionSuccessResponse : Nat := 0x0108
@[inherit_doc typeAllocateSuccessResponse] def typeChannelBindSuccessResponse : Nat := 0x0109

def stunPacketTypeOf (buffer : List UInt8) : Nat := beNat (bytesAt buffer 0 2)

def isStunPacket (buffer : List UInt8) : Bool := beNat (bytesAt buffer 4 4) == stunHeaderMagicCookie

def stunPacketIsTypeError (buffer : List UInt8) : Bool :=
  [0x0111, 0x0112, 0x0113, 0x0114, 0x0118, 0x0119].contains (stunPacketTypeOf buffer)

def lifetimeOf (packet : StunPacket) : Option Nat :=
  match getStunAttribute packet typeLifetime with
  | some ⟨_, _, .number lifetime⟩ => some lifetime
  | _ => none

def relayedAddressOf (packet : StunPacket) : Option KvsIpAddress :=
  match getStunAttribute packet typeXorRelayedAddress with
  | some ⟨_, _, .address address⟩ => some address
  | _ => none

def errorCodeOf (packet : StunPacket) : Option Nat :=
  match getStunAttribute packet typeErrorCode with
  | some ⟨_, _, .errorCode code _ _⟩ => some code
  | _ => none

/-- The nonce or the realm of an error response, if it is not too long. -/
def boundedBytesOf (packet : StunPacket) (type max : Nat) : Option (List UInt8) :=
  match getStunAttribute packet type with
  | some ⟨_, length, .bytes _ b⟩ => if length ≤ max then some (b.take length) else none
  | _ => none

def stunErrorUnauthorized : Nat := 401

def stunErrorStaleNonce : Nat := 438

namespace TurnPeer

def hasId (peer : TurnPeer) (transactionId : List UInt8) : Bool :=
  peer.transactionIdStore.hasId transactionId

def permitted (peer : TurnPeer) (currentTime : Nat) : TurnPeer :=
  { peer with
    connectionState :=
      if peer.connectionState = .createPermission then .bindChannel else peer.connectionState
    permissionExpirationTime := some (turnPermissionLifetime + currentTime) }

def bound (peer : TurnPeer) : TurnPeer := { peer with ready := true, connectionState := .ready }

end TurnPeer

namespace TurnConnection

variable (hmac : List UInt8 → List UInt8 → Digest) (crc32 : List UInt8 → UInt32)

/-- The case of `turnConnectionHandleStun` for a response to an allocation request. -/
def handleAllocateSuccess (connection : TurnConnection) (currentTime : Nat) (buffer : List UInt8) :
    Except Failure Unit × TurnConnection :=
  if connection.stopTurnConnection then (.ok (), connection)
  else
    match deserializeStunPacket hmac crc32 buffer (some connection.longTermKey) with
    | .error e => (.error e, connection)
    | .ok packet =>
      match relayedAddressOf packet, lifetimeOf packet with
      | some address, some lifetime =>
        (.ok (),
          { connection with
            allocationExpirationTime := some (lifetime * hundredsOfNanosInASecond + currentTime)
            relayAddress := address
            hasAllocation := true })
      | _, _ => (.ok (), connection)

/-- The case of `turnConnectionHandleStun` for a response to a refresh request. -/
def handleRefreshSuccess (connection : TurnConnection) (currentTime : Nat) (buffer : List UInt8) :
    Except Failure Unit × TurnConnection :=
  match deserializeStunPacket hmac crc32 buffer (some connection.longTermKey) with
  | .error e => (.error e, connection)
  | .ok packet =>
    match lifetimeOf packet with
    | none => (.ok (), connection)
    | some 0 => (.ok (), { connection with hasAllocation := false })
    | some lifetime =>
      (.ok (),
        { connection with
          allocationExpirationTime := some (lifetime * hundredsOfNanosInASecond + currentTime) })

/-- The case of `turnConnectionHandleStun` for a response to a permission request. -/
def handleCreatePermissionSuccess (connection : TurnConnection) (currentTime : Nat)
    (transactionId : List UInt8) : TurnConnection :=
  { connection with
    turnPeerList := connection.turnPeerList.map fun peer =>
      if peer.hasId transactionId then peer.permitted currentTime else peer
    transactions :=
      connection.transactions ++ [.success typeCreatePermissionSuccessResponse transactionId] }

/-- The case of `turnConnectionHandleStun` for a response to a bind request. -/
def handleChannelBindSuccess (connection : TurnConnection) (transactionId : List UInt8) :
    TurnConnection :=
  { connection with
    turnPeerList := modifyFirst
      (fun peer => peer.connectionState == .bindChannel && peer.hasId transactionId)
      TurnPeer.bound connection.turnPeerList
    transactions := connection.transactions ++
    [.success typeChannelBindSuccessResponse transactionId] }

def turnConnectionHandleStun (connection : TurnConnection) (currentTime : Nat)
    (buffer : List UInt8) :
    Except Failure Unit × TurnConnection :=
  if buffer = [] then (.error (.status .invalidArg), connection)
  else if isStunPacket buffer = false ∨ stunPacketIsTypeError buffer then (.ok (), connection)
  else if stunPacketTypeOf buffer = typeAllocateSuccessResponse then
    connection.handleAllocateSuccess hmac crc32 currentTime buffer
  else if stunPacketTypeOf buffer = typeRefreshSuccessResponse then
    connection.handleRefreshSuccess hmac crc32 currentTime buffer
  else if stunPacketTypeOf buffer = typeCreatePermissionSuccessResponse then
    (.ok (), connection.handleCreatePermissionSuccess currentTime (transactionIdOf buffer))
  else if stunPacketTypeOf buffer = typeChannelBindSuccessResponse then
    (.ok (), connection.handleChannelBindSuccess (transactionIdOf buffer))
  else (.ok (), connection)

/-- An error response is read with the key, if there is one, and else without. -/
def deserializeStunError (connection : TurnConnection) (buffer : List UInt8) :
    Except Failure StunPacket :=
  if connection.credentialObtained then
    match deserializeStunPacket hmac crc32 buffer (some connection.longTermKey) with
    | .error (.status _) => deserializeStunPacket hmac crc32 buffer none
    | result => result
  else deserializeStunPacket hmac crc32 buffer none

/-- What `turnConnectionHandleStunError` does for an error code. -/
def handleErrorCode (connection : TurnConnection) (packet : StunPacket) (code : Nat)
    (transactionId : List UInt8) : TurnConnection :=
  if code = stunErrorUnauthorized then
    match boundedBytesOf packet typeNonce stunMaxNonceLen with
    | none => connection
    | some nonce =>
      match boundedBytesOf packet typeRealm stunMaxRealmLen with
      | none => { connection with turnNonce := nonce }
      | some realm =>
        { connection with turnNonce := nonce, turnRealm := realm, credentialObtained := true }
  else if code = stunErrorStaleNonce then
    match boundedBytesOf packet typeNonce stunMaxNonceLen with
    | none => connection
    | some nonce => { connection with turnNonce := nonce }
  else
    { connection with
      turnPeerList := modifyFirst (·.hasId transactionId) ({ · with connectionState := .failed })
        connection.turnPeerList }

/-- `turnConnectionHandleStunError`.  An error after the deallocation has been asked for ends it. -/
def turnConnectionHandleStunError (connection : TurnConnection) (buffer : List UInt8) :
    Except Failure Unit × TurnConnection :=
  if buffer = [] then (.error (.status .invalidArg), connection)
  else if stunPacketIsTypeError buffer = false then (.ok (), connection)
  else if connection.deallocatePacketSent then (.ok (), { connection with hasAllocation := false })
  else
    match connection.deserializeStunError hmac crc32 buffer with
    | .error e => (.error e, connection)
    | .ok packet =>
      match errorCodeOf packet with
      | none => (.ok (), connection)
      | some code => (.ok (), connection.handleErrorCode packet code (transactionIdOf buffer))

end TurnConnection

/-! ### Sending channel data -/

open Ice

/-- `DEFAULT_TURN_MESSAGE_SEND_CHANNEL_DATA_BUFFER_LEN`, which is `dataBufferSize`. -/
def dataBufferSize : Nat := 4 + 65536

def SendDataBuffer : Type := { bytes : List UInt8 // bytes.length = dataBufferSize }

/-- What a call returns, the buffer that it leaves, and the bytes that it hands to the socket, if
any. -/
structure SendResult where
  status : Status
  sendDataBuffer : List UInt8
  sent : Option (List UInt8)

def putInt16 (n : Nat) : List UInt8 := [UInt8.ofNat (n / 256), UInt8.ofNat n]

/-- The message in the buffer: the channel number, the length as a 16-bit number and the data, with
what the buffer has held before behind it. -/
def loadMessage (sendDataBuffer : List UInt8) (channelNumber : Nat) (buf : List UInt8) :
    List UInt8 :=
  putInt16 channelNumber ++ putInt16 (buf.length % 2 ^ 16) ++ buf ++
    sendDataBuffer.drop (channelDataHeaderLen + buf.length)

def sendStatus (socketStatus : Status) : Status :=
  if socketStatus.failed ∧ socketStatus ≠ .socketConnectionClosedAlready then .success
    else socketStatus

/-- `turnConnectionSendData`, `socketStatus` being what `iceUtilsSendData` returns. -/
def turnConnectionSendData (connection : TurnConnection) (sendDataBuffer : SendDataBuffer)
    (socketStatus : Status) (buf : List UInt8) (destIp : KvsIpAddress) :
    Except Failure SendResult :=
  let dropped (status : Status) : Except Failure SendResult :=
    .ok ⟨status, sendDataBuffer.val, none⟩
  if buf = [] then dropped .invalidArg
  else if ¬ (connection.state = .createPermission ∨ connection.state = .bindChannel ∨
      connection.state = .ready) then dropped .success
  else
    match connection.turnConnectionGetPeerWithIp destIp with
    | none => dropped .success
    | some sendPeer =>
      if sendPeer.connectionState = .failed then dropped .turnConnectionPeerNotUsable
      else if sendPeer.ready = false then dropped .success
      else if dataBufferSize - channelDataHeaderLen < buf.length then dropped .bufferTooSmall
      else
        let paddedDataLen := roundUp4 (channelDataHeaderLen + buf.length)
        let loaded := loadMessage sendDataBuffer.val sendPeer.channelNumber buf
        if loaded.length ≤ dataBufferSize ∧ paddedDataLen ≤ dataBufferSize then
          .ok ⟨sendStatus socketStatus, loaded, some (loaded.take paddedDataLen)⟩
        else .error .outOfBounds

end KvsWebrtc.Turn
