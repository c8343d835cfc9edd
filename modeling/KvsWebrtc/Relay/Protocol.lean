import Mathlib.Data.List.Basic

/-!
# The signaling messages of the relay

`protocol.c` of the relay server.  A message is the payload of one frame, to which the receiver adds
a terminating zero; the zero is not part of the list.  Keys are searched with `strstr`, so only
before the first zero of the payload, but the value behind a key may contain zeros, and is cut at
the first of them when it is used as a C string.
-/

namespace KvsWebrtc.Relay

def bytesOf (s : String) : List UInt8 := s.toList.map fun c => UInt8.ofNat c.toNat

def cString (b : List UInt8) : List UInt8 := b.takeWhile (· ≠ 0)

/-- `strncpy` into a buffer of `n + 1` bytes, the last of which is set to zero. -/
def strncpy (n : Nat) (b : List UInt8) : List UInt8 := (cString b).take n

theorem length_strncpy_le (n : Nat) (b : List UInt8) : (strncpy n b).length ≤ n := by
  unfold strncpy
  rw [List.length_take]
  exact Nat.min_le_left _ _

/-- `strstr` for a needle without zeros: the buffer from its first occurrence on. -/
def strstr (needle : List UInt8) : List UInt8 → Option (List UInt8)
  | [] => none
  | c :: rest =>
    if needle.isPrefixOf (c :: rest) then some (c :: rest)
    else if c = 0 then none
    else strstr needle rest

/-! ### Reading -/

/-- The bytes up to the closing quote; a backslash hides the byte behind it. -/
def quotedValue : List UInt8 → Option (List UInt8)
  | [] => none
  | c :: rest =>
    if c = '"'.toUInt8 then some []
    else if c = '\\'.toUInt8 then
      match rest with
      | [] => none
      | d :: rest => (quotedValue rest).map (c :: d :: ·)
    else (quotedValue rest).map (c :: ·)

def isSeparator (c : UInt8) : Bool := c = ' '.toUInt8 ∨ c = ':'.toUInt8

def findValueAfterKey (json : List UInt8) (key : String) : Option (List UInt8) :=
  let search := bytesOf "\"" ++ bytesOf key ++ bytesOf "\""
  match strstr search json with
  | none => none
  | some p =>
    match (p.drop search.length).dropWhile isSeparator with
    | [] => none
    | c :: p => if c = '"'.toUInt8 then quotedValue p else none

/-- `find_json_string` into a buffer of `outLen` bytes. -/
def findJsonString (json : List UInt8) (key : String) (outLen : Nat) : Option (List UInt8) :=
  match findValueAfterKey json key with
  | none => none
  | some value => if value.length ≥ outLen then none else some value

/-- `KVS_MAX_CHANNEL_NAME`. -/
def maxChannelName : Nat := 256

/-- `KVS_MAX_CLIENT_ID`. -/
def maxClientId : Nat := 256

/-- The size of a session's `role`. -/
def roleSize : Nat := 32

/-- `KVS_MAX_SIGNALING_MSG`. -/
def maxSignalingMsg : Nat := 18750

structure JoinRequest where
  channelName : List UInt8
  clientId : List UInt8
  role : List UInt8

def protocolParseJoin (json : List UInt8) : Option JoinRequest := do
  if json.length = 0 then none
  else
    let channelName ← findJsonString json "channelName" (maxChannelName + 1)
    let clientId ← findJsonString json "clientId" (maxClientId + 1)
    let role ← findJsonString json "role" roleSize
    return { channelName, clientId, role }

/-- The test for `JOIN_CHANNEL` in `client_thread`. -/
def isJoinChannel (json : List UInt8) : Bool :=
  (strstr (bytesOf "\"messageType\":\"JOIN_CHANNEL\"") json).isSome ||
    (strstr (bytesOf "\"messageType\": \"JOIN_CHANNEL\"") json).isSome

structure ForwardRequest where
  messageType : List UInt8
  recipientId : List UInt8
  payload : List UInt8

def protocolParseForward (json : List UInt8) : Option ForwardRequest := do
  let messageType ← findJsonString json "action" 64
  let recipientId ← findJsonString json "RecipientClientId" (maxClientId + 1)
  let payload ← findValueAfterKey json "MessagePayload"
  return { messageType, recipientId, payload }

/-! ### Building -/

/-- One `snprintf` behind the text already in a buffer of `bufLen` bytes. -/
def emit (bufLen : Nat) (buf text : List UInt8) : Option (List UInt8) :=
  if 0 < text.length ∧ text.length < bufLen - buf.length then some (buf ++ text) else none

structure IceServer where
  ttlSec : Nat
  uris : List (List UInt8)
  username : List UInt8
  password : List UInt8

structure JoinResponse where
  statusCode : Nat
  errorType : List UInt8
  description : List UInt8
  iceServers : List IceServer

/-- The `uris` of one server, of which `j` are written. -/
def emitUris (bufLen : Nat) : Nat → List UInt8 → List (List UInt8) → Option (List UInt8)
  | _, buf, [] => some buf
  | j, buf, uri :: rest => do
    let comma := if j = 0 then [] else bytesOf ","
    let buf ← emit bufLen buf (comma ++ bytesOf "\"" ++ uri ++ bytesOf "\"")
    emitUris bufLen (j + 1) buf rest

def emitIceServers (bufLen : Nat) : List UInt8 → List IceServer → Option (List UInt8)
  | buf, [] => some buf
  | buf, s :: rest => do
    let buf ← emit bufLen buf
      (bytesOf "\x7b\"ttl\":" ++ bytesOf (toString s.ttlSec) ++ bytesOf ",\"uris\":[")
    let buf ← emitUris bufLen 0 buf s.uris
    let comma := if rest.isEmpty then [] else bytesOf ","
    let buf ← emit bufLen buf (bytesOf "],\"username\":\"" ++ s.username ++
      bytesOf "\",\"password\":\"" ++ s.password ++ bytesOf "\"\x7d" ++ comma)
    emitIceServers bufLen buf rest

def protocolBuildJoinResponse (r : JoinResponse) (bufLen : Nat) : Option (List UInt8) :=
  if r.statusCode ≠ 200 then
    emit bufLen [] (bytesOf "\x7b\"messageType\":\"JOIN_CHANNEL_RESPONSE\",\"statusCode\":" ++
      bytesOf (toString r.statusCode) ++ bytesOf ",\"errorType\":\"" ++ r.errorType ++
      bytesOf "\",\"description\":\"" ++ r.description ++ bytesOf "\"\x7d")
  else do
    let buf ← emit bufLen []
      (bytesOf "\x7b\"messageType\":\"JOIN_CHANNEL_RESPONSE\",\"statusCode\":200,\"iceServers\":[")
    let buf ← emitIceServers bufLen buf r.iceServers
    emit bufLen buf (bytesOf "]\x7d")

def protocolBuildForwarded (senderId : List UInt8) (m : ForwardRequest) (bufLen : Nat) :
    Option (List UInt8) :=
  emit bufLen [] (bytesOf "\x7b\"senderClientId\":\"" ++ cString senderId ++
    bytesOf "\",\"messageType\":\"" ++ cString m.messageType ++
    bytesOf "\",\"messagePayload\":\"" ++ cString m.payload ++ bytesOf "\"\x7d")

end KvsWebrtc.Relay
