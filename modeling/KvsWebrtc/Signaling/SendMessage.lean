import KvsWebrtc.PeerConnection.Jsmn
import KvsWebrtc.Relay.Protocol
import KvsWebrtc.Signaling.MessageQueue

/-!
# Signaling messages that are sent and received

`kvsNgtcp2TransportSendMessage` of `Signaling/KvsNgtcp2Transport.c` up to the frame that it sends,
and `getMessageTypeInString`, `getMessageTypeFromString` and `parseSignalingMessage` of
`Signaling/LwsApiCalls.c`. The functions of the platform library that they call are the fields of
`Library`.

What `kvsNgtcp2TransportConnect` of `Signaling/KvsNgtcp2Transport.c` sends first.  The text is
printed into an array, and the length that is sent is the one that the text would have in an array
of any size.
-/

namespace KvsWebrtc.Signaling

open Jsmn
open Relay (bytesOf cString)

def maxSignalingMessageLen : Nat := 18750

def maxSignalingClientIdLen : Nat := 256

def maxCorrelationIdLen : Nat := 256

def maxSignalingMessageTypeLen : Nat := 21

def maxErrorTypeStringLen : Nat := 256

def maxStatusCodeStringLen : Nat := 8

def maxMessageDescriptionLen : Nat := 1024

/-- What the platform library does.  An array is the list of the bytes from a pointer on, and the
last argument of the two functions for Base64 the room for the output. -/
structure Library where
  base64Encode (inputData : List UInt8) (outputLength : Nat) : Except Status (List UInt8)
  base64Decode (inputData : List UInt8) (inputLength outputLength : Nat) :
  Except Status (List UInt8)
  compareJsonString (jsonStr : List UInt8) (token : JsmnToken) (jsmnType : JsmnType) (tokenName :
    String) : Bool
  strtoui32 (text : List UInt8) : Except Status Nat

/-! ### The type of a message -/

def getMessageTypeInString : SignalingMessageType → String
  | .offer => "SDP_OFFER"
  | .answer => "SDP_ANSWER"
  | .iceCandidate => "ICE_CANDIDATE"
  | .goAway => "GO_AWAY"
  | .reconnectIceServer => "RECONNECT_ICE_SERVER"
  | .statusResponse => "STATUS_RESPONSE"
  | .unknown => "UNKNOWN"

/-- The types with which `getMessageTypeFromString` compares, in order. -/
def comparedMessageTypes : List SignalingMessageType :=
  [.offer, .answer, .iceCandidate, .goAway, .reconnectIceServer, .statusResponse]

/-- `getMessageTypeFromString`, which succeeds whatever the text is.  `STRNCMP` looks at the first
characters only. -/
def getMessageTypeFromString (typeStr : List UInt8) (typeLen : Nat) : SignalingMessageType :=
  let len := if typeLen = 0 then (cString typeStr).length else typeLen
  (comparedMessageTypes.find? fun messageType =>
    (cString typeStr).take len = (bytesOf (getMessageTypeInString messageType)).take len).getD
    .unknown

/-! ### Sending -/

/-- `%.*s`: a precision from 2^31 on is negative, and none. -/
def formatString (precision : Nat) (s : List UInt8) : List UInt8 :=
  if precision < 2 ^ 31 then (cString s).take precision else cString s

def sentPayload (payload : List UInt8) (payloadLen : Nat) : List UInt8 :=
  payload.take (if payloadLen = 0 then (cString payload).length else payloadLen)

def sentCorrelationId (correlationId : Option (List UInt8)) (correlationIdLen : Nat) :
    Option (List UInt8) :=
  match correlationId with
  | none => none
  | some correlationId =>
    let len := if correlationIdLen = 0 then (cString correlationId).length else correlationIdLen
    if 0 < len then some (formatString len correlationId) else none

def messageTail : Option (List UInt8) → List UInt8
  | none => bytesOf "\x7d"
  | some correlationId => bytesOf ",\"CorrelationId\":\"" ++ correlationId ++ bytesOf "\"\x7d"

def messageText (action recipientClientId messagePayload : List UInt8)
    (correlationId : Option (List UInt8)) :
    List UInt8 :=
  bytesOf "\x7b\"action\":\"" ++ action ++ bytesOf "\",\"RecipientClientId\":\"" ++
  recipientClientId ++
    bytesOf "\",\"MessagePayload\":\"" ++ messagePayload ++ bytesOf "\"" ++
    messageTail correlationId

/-- `kvsNgtcp2TransportSendMessage`: the payload of the frame that it sends, if `sendFrame`
succeeds. -/
def kvsNgtcp2TransportSendMessage (lib : Library) (messageType : SignalingMessageType)
    (peerClientId payload : List UInt8) (payloadLen : Nat) (correlationId : Option (List UInt8))
    (correlationIdLen : Nat) (sendFrame : List UInt8 → Bool) : Except Status (List UInt8) :=
  match lib.base64Encode (sentPayload payload payloadLen) (maxSignalingMessageLen + 256) with
  | .error status => .error status
  | .ok encoded =>
    let text := messageText (bytesOf (getMessageTypeInString messageType))
      (formatString maxSignalingClientIdLen peerClientId) (cString encoded)
      (sentCorrelationId correlationId correlationIdLen)
    if text.length < maxSignalingMessageLen + 1024 then
      if sendFrame text then .ok text else .error .signalingMessageDeliveryFailed
    else .error .invalidArg

/-! ### Receiving -/

structure ReceivedSignalingMessage where
  signalingMessage : SignalingMessage
  statusCode : Nat
  errorType : List UInt8
  description : List UInt8
deriving DecidableEq

def emptyMessage : ReceivedSignalingMessage where
  signalingMessage := ⟨0, .unknown, [], [], []⟩
  statusCode := 0
  errorType := []
  description := []

/-- The keys that `parseSignalingMessage` looks for. -/
inductive MessageKey
  | senderClientId
  | messageType
  | messagePayload
  | statusResponse
  | correlationId
  | errorType
  | statusCode
  | description
deriving DecidableEq

def MessageKey.name : MessageKey → String
  | senderClientId => "senderClientId"
  | messageType => "messageType"
  | messagePayload => "messagePayload"
  | statusResponse => "statusResponse"
  | correlationId => "correlationId"
  | errorType => "errorType"
  | statusCode => "statusCode"
  | description => "description"

/-- The variables of the loop over the tokens. -/
structure MessageParse where
  received : ReceivedSignalingMessage
  parsedMessageType : Bool
  parsedStatusResponse : Bool

def MessageParse.keys (parse : MessageParse) : List MessageKey :=
  [.senderClientId, .messageType, .messagePayload] ++
    if parse.parsedStatusResponse then [.correlationId, .errorType, .statusCode, .description]
    else [.statusResponse]

def MessageParse.keyOf (lib : Library) (message : List UInt8) (parse : MessageParse)
    (token : JsmnToken) :
    Option MessageKey :=
  parse.keys.find? fun key => lib.compareJsonString message token .string key.name

/-- `(UINT32) (tokens[i + 1].end - tokens[i + 1].start)`. -/
def strLen (token : JsmnToken) : Nat := token.finish.getD token.start - token.start

/-- A string that is copied from a token, if it is not too long. -/
def readString (message : List UInt8) (value : JsmnToken) (maxLen : Nat) :
    Except Failure (List UInt8) :=
  if strLen value ≤ maxLen then .ok (formatString (strLen value) (message.drop value.start))
  else .error (.status .invalidApiCallReturnJson)

/-- Decodes a payload.  The zero behind it is written where the array may have ended. -/
def readPayload (lib : Library) (message : List UInt8) (value : JsmnToken) :
    Except Failure (List UInt8) :=
  if strLen value ≤ maxSignalingMessageLen then
    match lib.base64Decode (message.drop value.start) (strLen value)
      (maxSignalingMessageLen + 1) with
    | .error status => .error (.status status)
    | .ok payload => if payload.length < maxSignalingMessageLen + 1 then .ok payload
      else .error .outOfBounds
  else .error (.status .invalidApiCallReturnJson)

def readStatusCode (lib : Library) (message : List UInt8) (value : JsmnToken) :
    Except Failure Nat :=
  if strLen value ≤ maxStatusCodeStringLen then
    match lib.strtoui32 ((message.drop value.start).take (strLen value)) with
    | .error status => .error (.status status)
    | .ok statusCode => .ok statusCode
  else .error (.status .invalidApiCallReturnJson)

def MessageParse.readValue (lib : Library) (message : List UInt8) (parse : MessageParse)
    (key : MessageKey) (value : JsmnToken) : Except Failure MessageParse :=
  let received := parse.received
  let signalingMessage := received.signalingMessage
  match key with
  | .senderClientId => do
    let peerClientId ← readString message value maxSignalingClientIdLen
    return { parse with
      received := { received with signalingMessage := { signalingMessage with
        peerClientId := peerClientId } } }
  | .messageType =>
    if strLen value ≤ maxSignalingMessageTypeLen then
      let messageType := getMessageTypeFromString (message.drop value.start) (strLen value)
      .ok { parse with
        received := { received with signalingMessage := { signalingMessage with
          messageType := messageType } }
        parsedMessageType := true }
    else .error (.status .invalidApiCallReturnJson)
  | .messagePayload => do
    let payload ← readPayload lib message value
    return { parse with
      received := { received with
        signalingMessage := { signalingMessage with payload := payload } } }
  | .statusResponse => .ok { parse with parsedStatusResponse := true }
  | .correlationId => do
    let correlationId ← readString message value maxCorrelationIdLen
    return { parse with
      received := { received with signalingMessage := { signalingMessage with
        correlationId := correlationId } } }
  | .errorType => do
    let errorType ← readString message value maxErrorTypeStringLen
    return { parse with received := { received with errorType := errorType } }
  | .statusCode => do
    let statusCode ← readStatusCode lib message value
    return { parse with received := { received with statusCode := statusCode } }
  | .description => do
    let description ← readString message value maxMessageDescriptionLen
    return { parse with received := { received with description := description } }

/-- The loop over the tokens behind the object.  Behind the last one there is no value to read; the
value of `statusResponse` is not looked at. -/
def readMembers (lib : Library) (message : List UInt8) :
    List JsmnToken → MessageParse → Except Failure MessageParse
  | [], parse => .ok parse
  | [token], parse =>
    match parse.keyOf lib message token with
    | none => .ok parse
    | some .statusResponse => .ok { parse with parsedStatusResponse := true }
    | some _ => .error .outOfBounds
  | token :: value :: tokens, parse =>
    match parse.keyOf lib message token with
    | none => readMembers lib message (value :: tokens) parse
    | some key =>
      match parse.readValue lib message key value with
      | .error e => .error e
      | .ok parse => readMembers lib message tokens parse

def chars (message : List UInt8) : List Char := message.map fun c => Char.ofNat c.toNat

/-- `parseSignalingMessage` of the bytes before the terminating zero, for an array of tokens. -/
def parseSignalingMessage (lib : Library) (numTokens : Nat) (message : List UInt8) :
    Except Failure ReceivedSignalingMessage :=
  if maxSignalingMessageLen < message.length then .error (.status .invalidApiCallReturnJson)
  else
    match jsmnParse numTokens (chars message) with
    | .ok (object :: first :: tokens) =>
      if object.type ≠ .object then .error (.status .invalidApiCallReturnJson)
      else
        match readMembers lib message (first :: tokens) ⟨emptyMessage, false, false⟩ with
        | .error e => .error e
        | .ok parse =>
          if parse.parsedMessageType then .ok parse.received
          else .error (.status .signalingInvalidMessageType)
    | _ => .error (.status .invalidApiCallReturnJson)

/-! ### The request to join -/

/-- What a request to join takes from `ChannelInfo`. -/
structure JoinChannelInfo where
  channelName : Option (List UInt8)
  channelRoleType : SignalingChannelRoleType
deriving DecidableEq

/-- The role that is sent; every one but `master` is that of a viewer. -/
def roleName (channelInfo : Option JoinChannelInfo) : String :=
  if channelInfo.map JoinChannelInfo.channelRoleType = some .master then "master" else "viewer"

def joinText (channelInfo : Option JoinChannelInfo) (clientId : List UInt8) : List UInt8 :=
  let channelName := (channelInfo.bind JoinChannelInfo.channelName).getD []
  bytesOf "\x7b\"messageType\":\"JOIN_CHANNEL\",\"channelName\":\"" ++ cString channelName ++
    bytesOf "\",\"clientId\":\"" ++ cString clientId ++ bytesOf "\",\"role\":\"" ++
    bytesOf (roleName channelInfo) ++ bytesOf "\"\x7d"

/-- The size of `joinJson`. -/
def joinJsonSize : Nat := 512

/-- The bytes of the text that `SNPRINTF` puts into `joinJson`, without the zero behind them. -/
def joinFormatted (channelInfo : Option JoinChannelInfo) (clientId : List UInt8) : List UInt8 :=
  (joinText channelInfo clientId).take (joinJsonSize - 1)

/-- The payload of the frame that `kvsNgtcp2TransportConnect` sends. -/
def joinFrame (channelInfo : Option JoinChannelInfo) (clientId : List UInt8) :
    Except Failure (List UInt8) :=
  let joinJson := joinFormatted channelInfo clientId ++ [0]
  let joinLen := (joinText channelInfo clientId).length
  if joinJsonSize < joinLen then .error .outOfBounds else .ok (joinJson.take joinLen)

end KvsWebrtc.Signaling
