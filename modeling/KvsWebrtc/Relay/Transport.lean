import KvsWebrtc.Common.Chunks
import KvsWebrtc.Relay.Server

/-!
# Frames on the wire

`sendFrame` and `recvThread` of the client (`KvsNgtcp2Transport.c`), and the reading part of the
server's `client_thread`.  Both receivers read a header of five bytes and then after from the stream
number and the length whether to read the payload, to go on to the next header, or to stop.  They
only differ in that decision.
-/

namespace KvsWebrtc.Relay

/-- `KVS_FRAME_HEADER_SIZE`. -/
def frameHeaderSize : Nat := 5

/-- A frame that `sendFrame` sends: the length is passed to `SSL_write` as an `int`. -/
structure Frame where
  stream : UInt8
  payload : List UInt8
  accepted : payload.length < 2 ^ 31

def frameHeader (stream : UInt8) (len : Nat) : List UInt8 :=
  [stream, UInt8.ofNat (len / 2 ^ 24), UInt8.ofNat (len / 2 ^ 16), UInt8.ofNat (len / 2 ^ 8),
    UInt8.ofNat len]

def headerLen (h : List UInt8) : Nat :=
  (h.getD 1 0).toNat * 2 ^ 24 + (h.getD 2 0).toNat * 2 ^ 16 + (h.getD 3 0).toNat * 2 ^ 8 +
    (h.getD 4 0).toNat

/-- The bytes that `sendFrame` of the client and `send_frame` of the server write. -/
def sendFrame (stream : UInt8) (payload : List UInt8) : List UInt8 :=
  frameHeader stream payload.length ++ payload

/-- What a receiver does after a header. -/
inductive AfterHeader
  | readPayload
  | nextHeader
  | stop
deriving DecidableEq

/-- The loop of a receiver: what it has read for each header, and what is left when it stops. -/
def frameLoop (after : UInt8 → Nat → AfterHeader) :
    Nat → List (List UInt8) → List (UInt8 × List UInt8) × List (List UInt8)
  | 0, chunks => ([], chunks)
  | fuel + 1, chunks =>
    match readExact frameHeaderSize chunks with
    | none => ([], chunks)
    | some (hdr, chunks) =>
      match after (hdr.getD 0 0) (headerLen hdr) with
      | .stop => ([], chunks)
      | .nextHeader =>
        let (frames, rest) := frameLoop after fuel chunks
        ((hdr.getD 0 0, []) :: frames, rest)
      | .readPayload =>
        match readExact (headerLen hdr) chunks with
        | none => ([], chunks)
        | some (payload, chunks) =>
          let (frames, rest) := frameLoop after fuel chunks
          ((hdr.getD 0 0, payload) :: frames, rest)

/-- The server's decision: `client_thread` leaves its loop. -/
def serverAfterHeader (_stream : UInt8) (len : Nat) : AfterHeader :=
  if len = 0 ∨ len > maxPayload then .stop else .readPayload

/-- `KVS_RELAY_MEDIA_FRAME_MAX`. -/
def relayMediaFrameMax : Nat := 256 * 1024

/-- The client's decision: with or without a callback for media, `recvThread` reads the payload of a
media frame, and of one on an unknown stream; a signaling frame that is too long it passes over. -/
def clientAfterHeader (stream : UInt8) (len : Nat) : AfterHeader :=
  if stream = streamSignaling then
    if len = 0 ∨ len > maxSignalingMsg then .nextHeader else .readPayload
  else if len > 0 ∧ len ≤ relayMediaFrameMax then .readPayload
  else .nextHeader

/-- The frames that `client_thread` reads from a stream, and what it leaves unread. -/
def clientThreadReads (chunks : List (List UInt8)) :
    List (UInt8 × List UInt8) × List (List UInt8) :=
  frameLoop serverAfterHeader (chunks.flatten.length + 1) chunks

/-- The frames that `recvThread` reads from a stream, and what it leaves unread. -/
def recvThreadReads (chunks : List (List UInt8)) :
    List (UInt8 × List UInt8) × List (List UInt8) :=
  frameLoop clientAfterHeader (chunks.flatten.length + 1) chunks

namespace Server

def framesFrom (s : Nat) (frames : List Frame) : List Event :=
  frames.map fun f => .frame s f.stream f.payload

/-- All frames that the server sends in a run. -/
def sentAlong (config : ServerConfig) : Server → List Event → List Sent
  | _, [] => []
  | r, e :: events => (r.handle config e).2 ++ sentAlong config (r.step config e) events

/-- The frames for session `p`. -/
def sentTo (p : Nat) (sent : List Sent) : List Sent := sent.filter (·.target = p)

end Server

end KvsWebrtc.Relay
