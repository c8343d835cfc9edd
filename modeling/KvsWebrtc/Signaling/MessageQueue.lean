import KvsWebrtc.Common.Status

/-!
# The messages that are being sent

`signalingStoreOngoingMessage`, `signalingGetOngoingMessage` and `signalingRemoveOngoingMessage` of
`Signaling/Signaling.c`.  The queue is the list of the messages from its head, where iteration
starts; a message is enqueued at the tail, and removed where it is first.  A string is the list of
its bytes before the terminating zero, and a `NULL` pointer is `none`.
-/

namespace KvsWebrtc.Signaling

inductive SignalingMessageType
  | offer
  | answer
  | iceCandidate
  | goAway
  | reconnectIceServer
  | statusResponse
  | unknown
deriving DecidableEq

inductive SignalingChannelRoleType
  | unknown
  | master
  | viewer
deriving DecidableEq

structure SignalingMessage where
  version : Nat
  messageType : SignalingMessageType
  correlationId : List UInt8
  peerClientId : List UInt8
  payload : List UInt8
deriving DecidableEq

/-- The correlation ids are both empty, or `STRCMP` finds them equal. -/
def SignalingMessage.hasCorrelationId (message : SignalingMessage) (correlationId : List UInt8) :
    Bool :=
  (correlationId = [] ∧ message.correlationId = []) ∨ message.correlationId = correlationId

/-- Whether `signalingGetOngoingMessage` looks at the peers. -/
def checkPeerClientId : Option (List UInt8) → Bool
  | none => false
  | some peerClientId => peerClientId ≠ []

/-- The test that `signalingGetOngoingMessage` makes of a message. -/
def SignalingMessage.isOngoing (message : SignalingMessage) (correlationId : List UInt8)
    (peerClientId : Option (List UInt8)) : Bool :=
  message.hasCorrelationId correlationId ∧
    (¬ checkPeerClientId peerClientId ∨ some message.peerClientId = peerClientId)

/-- The loop of `signalingGetOngoingMessage`, which leaves its cursor in `pExistingMessage`. -/
def getOngoingMessageLoop (correlationId : List UInt8) (peerClientId : Option (List UInt8)) :
    List SignalingMessage → Option SignalingMessage → Option SignalingMessage
  | [], pExistingMessage => pExistingMessage
  | message :: queue, _ =>
    if message.isOngoing correlationId peerClientId then some message
    else getOngoingMessageLoop correlationId peerClientId queue (some message)

def signalingGetOngoingMessage (queue : List SignalingMessage) (correlationId : Option (List UInt8))
    (peerClientId : Option (List UInt8)) : Status × Option SignalingMessage :=
  match correlationId with
  | none => (.nullArg, none)
  | some correlationId => (.success, getOngoingMessageLoop correlationId peerClientId queue none)

def signalingStoreOngoingMessage (queue : List SignalingMessage) (message : SignalingMessage) :
    Status × List SignalingMessage :=
  let (status, pExistingMessage) :=
    signalingGetOngoingMessage queue (some message.correlationId) (some message.peerClientId)
  if status.failed then (status, queue)
  else if pExistingMessage.isSome then (.signalingDuplicateMessageBeingSent, queue)
  else (.success, queue ++ [message])

/-- The loop of `signalingRemoveOngoingMessage`. -/
def findByCorrelationId (correlationId : List UInt8) : List SignalingMessage →
    Option SignalingMessage
  | [] => none
  | message :: queue =>
    if message.hasCorrelationId correlationId then some message
    else findByCorrelationId correlationId queue

def signalingRemoveOngoingMessage (queue : List SignalingMessage)
    (correlationId : Option (List UInt8)) :
    Status × List SignalingMessage :=
  match correlationId with
  | none => (.nullArg, queue)
  | some correlationId =>
    match findByCorrelationId correlationId queue with
    | some message => (.success, queue.erase message)
    | none => (.notFound, queue)

end KvsWebrtc.Signaling
