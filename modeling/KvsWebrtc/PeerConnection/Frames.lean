import KvsWebrtc.JitterBuffer.FrameData
import KvsWebrtc.PeerConnection.Rtp
import KvsWebrtc.Rtp.Codecs

/-!
# The two ends of a frame

What `writeFrame` of `PeerConnection/Rtp.c` gives to `iceAgentSendPacket`, and `onFrameReadyFunc` of
`PeerConnection/PeerConnection.c`, which hands a frame to the `onFrame` of the application.

The statistics are left out except for the counter that numbers the frames, as are the version and
the duration of a frame, which are constants.  `onFrame` has been registered.
-/

namespace KvsWebrtc

open Rtp JitterBuffer

namespace KvsRtpTransceiver

/-- The bytes that `writePacket` gives to `iceAgentSendPacket`, if it comes so far. -/
def packetSends (order : ByteOrder) (bufferAfterEncrypt : Bool) (o : PacketOutcome)
    (t : KvsRtpTransceiver) (p : RtpPacket) : List (List UInt8) :=
  let (t, p) := t.addTwccExtension p
  if o.allocated then
    match setBytesFromRtpPacket p (List.replicate (rawPacketSize p).toNat 0) with
    | .error _ => []
    | .ok rawPacket =>
      match if bufferAfterEncrypt then .ok t else t.bufferPacket order rawPacket o.copied with
      | .error _ => []
      | .ok _ => if o.encrypted then [o.protect rawPacket] else []
  else []

/-- The bytes that `writePackets` sends. -/
def loopSends (order : ByteOrder) (bufferAfterEncrypt : Bool) (outcome : Nat → PacketOutcome)
    (pPacketList : List RtpPacket) : List Nat → KvsRtpTransceiver → List (List UInt8)
  | [], _ => []
  | i :: is, t =>
    match pPacketList[i]? with
    | none => []
    | some p =>
      packetSends order bufferAfterEncrypt (outcome i) t p ++
        match t.writePacket order bufferAfterEncrypt (outcome i) p with
        | (_, .error _) => []
        | (t, .ok ()) => loopSends order bufferAfterEncrypt outcome pPacketList is t

/-- The bytes that `writeFrame` sends. -/
def frameSends (order : ByteOrder) (t : KvsRtpTransceiver) (c : WriteFrame) : List (List UInt8) :=
  if c.srtpReady then
    match c.payloads with
    | .error _ => []
    | .ok payloads =>
      let pPackets :=
        if c.packetListAllocated then some ((List.range payloads.length).map c.memory) else none
      match constructRtpPackets payloads t.sender.payloadType t.sender.sequenceNumber c.rtpTimestamp
          t.sender.ssrc pPackets with
      | .error _ => []
      | .ok pPacketList =>
        let t := { t with sender := { t.sender with
          sequenceNumber := t.sender.sequenceNumber + UInt16.ofNat payloads.length } }
        let bufferAfterEncrypt := t.sender.payloadType == t.sender.rtxPayloadType
        loopSends order bufferAfterEncrypt c.outcome pPacketList (List.range payloads.length) t
  else []

/-- The transceiver after the first `n` calls. -/
def after (order : ByteOrder) (t : KvsRtpTransceiver) (calls : Nat → WriteFrame) :
    Nat → KvsRtpTransceiver
  | 0 => t
  | n + 1 => (after order t calls n).step order (calls n)

/-- What the first `n` calls send. -/
def sends (order : ByteOrder) (t : KvsRtpTransceiver) (calls : Nat → WriteFrame) (n : Nat) :
    List (List UInt8) :=
  (List.range n).flatMap fun k => (after order t calls k).frameSends order (calls k)

end KvsRtpTransceiver

/-! ### The application -/

def defaultPeerFrameBufferSize : UInt32 := 5120

def hundredsOfNanosInAMillisecond : UInt64 := 10000

/-- What `onFrame` is given, `frameData` being the bytes that the pointer and the size describe. -/
structure Frame where
  index : UInt32
  decodingTs : UInt64
  presentationTs : UInt64
  frameData : List UInt8
deriving DecidableEq

/-- The fields of a transceiver that `onFrameReadyFunc` uses.  The buffer may be `NULL`, and holds
`peerFrameBufferSize` bytes otherwise. -/
structure FrameReceiver where
  jitterBufferEmittedCount : UInt64
  peerFrameBufferSize : UInt32
  peerFrameBuffer : Option (Nat → UInt8)

namespace FrameReceiver

/-- `peerFrameBufferSize` for a frame that is too large for the buffer.  A number that is no 32-bit
one is taken modulo `2 ^ 32`. -/
def grownSize (frameSize : UInt32) : UInt32 := UInt32.ofNat (frameSize.toNat * 3 / 2)

/-- Makes room for a frame, `allocated` being what the allocation gives. -/
def reserve (t : FrameReceiver) (frameSize : UInt32) (allocated : Option (Nat → UInt8)) :
    FrameReceiver :=
  if t.peerFrameBufferSize < frameSize then
    { t with peerFrameBufferSize := grownSize frameSize, peerFrameBuffer := allocated }
  else t

/-- `onFrameReadyFunc`, called by the jitter buffer as `c` says: the frame for the application, and
the fields afterwards. -/
def onFrameReadyFunc (fill : DepayFillFn) (t : FrameReceiver) (c : ReadyCall)
    (allocated : Option (Nat → UInt8)) : Except Failure Frame × FrameReceiver :=
  match c.jb.pkgBufferHashTable c.startIndex with
  | none => (.error (.status .nullArg), t)
  | some pPacket =>
    let index := t.jitterBufferEmittedCount.toUInt32
    let t₀ := { t with jitterBufferEmittedCount := t.jitterBufferEmittedCount + 1 }
    let t₁ := t₀.reserve c.frameSize allocated
    match t₁.peerFrameBuffer with
    | none =>
      -- Either the allocation has failed, or the buffer has been `NULL` before and is not made now.
      (.error (.status (if t₀.peerFrameBufferSize < c.frameSize then .notEnoughMemory
      else .nullArg)), t₁)
    | some frame =>
      let r := jitterBufferFillFrameData fill c.jb frame c.frameSize c.startIndex c.endIndex
      let t₂ := { t₁ with peerFrameBuffer := some r.frame }
      if c.frameSize ≤ t₁.peerFrameBufferSize then
        match r.status with
        | .success =>
          if c.frameSize = r.filledSize then
            let decodingTs := pPacket.header.timestamp.toUInt64 * hundredsOfNanosInAMillisecond
            (.ok { index := index
                   decodingTs := decodingTs
                   presentationTs := decodingTs
                   frameData := (List.range c.frameSize.toNat).map r.frame }, t₂)
          else (.error (.status .invalidArgLen), t₂)
        | e => (.error (.status e), t₂)
      else (.error .outOfBounds, t₂)

/-- What a run of calls hands to the application, the calls being numbered from `n` on. -/
def onFrames (fill : DepayFillFn) (allocated : Nat → Option (Nat → UInt8)) :
    FrameReceiver → Nat → List ReadyCall → List (Except Failure Frame)
  | _, _, [] => []
  | t, n, c :: calls =>
    (t.onFrameReadyFunc fill c (allocated n)).1 ::
      onFrames fill allocated (t.onFrameReadyFunc fill c (allocated n)).2 (n + 1) calls

end FrameReceiver

end KvsWebrtc
