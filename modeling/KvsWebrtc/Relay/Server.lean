import KvsWebrtc.Relay.Session

/-!
# The relay server

`server.c`: what the thread of a client does with a frame, and what it does when the client is gone.
Every frame is one atomic step.  The threads share the channel table and the sessions without a
lock; only sending takes one.  Whether a frame could be sent is not looked at, so the frames are
recorded as sent.
-/

namespace KvsWebrtc.Relay

/-- `KVS_STREAM_SIGNALING`. -/
def streamSignaling : UInt8 := 0

/-- `KVS_STREAM_AUDIO`. -/
def streamAudio : UInt8 := 1

/-- `KVS_STREAM_VIDEO`. -/
def streamVideo : UInt8 := 2

/-- `RECV_BUF_SIZE - KVS_FRAME_HEADER_SIZE`. -/
def maxPayload : Nat := maxSignalingMsg + 512

/-- `server_config_t`, as far as responses use it. -/
structure ServerConfig where
  stunUri : Option (List UInt8)
  turnUri : Option (List UInt8)
  turnUsername : Option (List UInt8)
  turnPassword : Option (List UInt8)

def fittingUri (uri : Option (List UInt8)) : List (List UInt8) :=
  match uri with
  | some u => if (cString u).length < 128 then [strncpy 127 u] else []
  | none => []

def fillIceFromConfig (config : ServerConfig) : IceServer where
  ttlSec := 86400
  uris := fittingUri config.stunUri ++ fittingUri config.turnUri
  username := strncpy 256 (config.turnUsername.getD [])
  password := strncpy 256 (config.turnPassword.getD [])

/-- The response to every `JOIN_CHANNEL` message. -/
def joinResponse (config : ServerConfig) : Option (List UInt8) :=
  protocolBuildJoinResponse
    { statusCode := 200, errorType := [], description := [],
      iceServers := [fillIceFromConfig config] } 4096

/-- A frame that the server sends: to whom, on which stream, and its payload. -/
structure Sent where
  target : Nat
  stream : UInt8
  payload : List UInt8

namespace Server

/-- A `JOIN_CHANNEL` message of session `s`. -/
def join (config : ServerConfig) (r : Server) (s : Nat) (payload : List UInt8) :
    Server × List Sent :=
  match protocolParseJoin payload with
  | none => (r, [])
  | some j =>
    match joinResponse config with
    | none => (r, [])
    | some response =>
      let sent := [{ target := s, stream := streamSignaling, payload := response }]
      let r := r.sessionSetJoined s j
      let (ch, r) := r.channelFindOrCreate j.channelName
      let r := r.modifySession s fun a => { a with ch := ch }
      match ch with
      | some k => (r.channelRegister k s, sent)
      | none => (r, sent)

/-- `channel_get_peer(ch, s)` for the channel of the thread of session `a`, number `s`. -/
def peerOf (r : Server) (s : Nat) (a : Session) : Option Nat :=
  match a.ch with
  | none => none
  | some k =>
    match r.channels[k]? with
    | none => none
    | some c => c.channelGetPeer s

/-- A message on the signaling stream to the peer of session `a`, number `s`. -/
def forwardSignaling (r : Server) (s : Nat) (a : Session) (payload : List UInt8) : List Sent :=
  match protocolParseForward payload with
  | none => []
  | some m =>
    match r.peerOf s a with
    | none => []
    | some peer =>
      match protocolBuildForwarded a.clientId m (maxSignalingMsg + 1024) with
      | none => []
      | some text => [{ target := peer, stream := streamSignaling, payload := text }]

/-- A media frame to the peer of session `a`, number `s`. -/
def forwardMedia (r : Server) (s : Nat) (a : Session) (stream : UInt8) (payload : List UInt8) :
    List Sent :=
  match r.peerOf s a with
  | none => []
  | some peer => [{ target := peer, stream := stream, payload := payload }]

/-- One frame in the loop of `client_thread`. -/
def frame (config : ServerConfig) (r : Server) (s : Nat) (a : Session) (stream : UInt8)
    (payload : List UInt8) : Server × List Sent :=
  if stream = streamSignaling then
    if isJoinChannel payload then r.join config s payload
    else if a.joined then (r, r.forwardSignaling s a payload)
    else (r, [])
  else if (stream = streamAudio ∨ stream = streamVideo) ∧ a.joined then
    (r, r.forwardMedia s a stream payload)
  else (r, [])

/-- The end of `client_thread`. -/
def done (r : Server) (s : Nat) (a : Session) : Server :=
  match a.ch with
  | some k => (r.channelUnregister k s).sessionDestroy s
  | none => r.sessionDestroy s

end Server

/-- What happens at the server: a client connects, a client sends a frame, or a client is gone. -/
inductive Event
  | connect
  | frame (s : Nat) (stream : UInt8) (payload : List UInt8)
  | disconnect (s : Nat)

/-- A frame without payload or with too large a payload, which ends the loop of `client_thread`. -/
def EndsLoop (payload : List UInt8) : Prop := payload.length = 0 ∨ payload.length > maxPayload

instance (payload : List UInt8) : Decidable (EndsLoop payload) :=
  inferInstanceAs (Decidable (payload.length = 0 ∨ payload.length > maxPayload))

namespace Server

/-- The server after an event, and the frames it sends.  A session that is destroyed has no
thread. -/
def handle (config : ServerConfig) (r : Server) : Event → Server × List Sent
  | .connect => (r.sessionCreate, [])
  | .frame s stream payload =>
    match r.session s with
    | none => (r, [])
    | some a =>
      if EndsLoop payload then (r.done s a, [])
      else r.frame config s a stream payload
  | .disconnect s =>
    match r.session s with
    | none => (r, [])
    | some a => (r.done s a, [])

def step (config : ServerConfig) (r : Server) (e : Event) : Server := (r.handle config e).1

end Server

end KvsWebrtc.Relay
