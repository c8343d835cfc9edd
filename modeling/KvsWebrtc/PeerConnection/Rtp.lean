import KvsWebrtc.PeerConnection.Twcc
import KvsWebrtc.Rtcp.RollingBuffer
import KvsWebrtc.Rtp.Codec

/-!
# Sending a frame

`writeFrame` of `PeerConnection/Rtp.c` with `constructRtpPackets` of `Rtp/RtpPacket.c` and
`rtpRollingBufferAddRtpPacket` of `Rtcp/RtpRollingBuffer.c`.

What the environment decides comes with a call: whether the SRTP session is there, the payloads that
the codec makes of the frame, which allocations succeed, what `srtp_protect` does and how the sends
end.  A payload array is the list of its payloads.  The rolling buffer of the sender has been
created, and the callback for bandwidth estimations is registered.  The statistics are left out.
-/

namespace KvsWebrtc

open Rtp

def srtpAuthTagOverhead : Nat := 10

/-- `TWCC_PAYLOAD`, in network byte order. -/
def twccPayload (extId : UInt16) (sequenceNum : UInt16) : List UInt8 :=
  beBytes 4 (((extId.toNat &&& 0xf) <<< 28 ||| 1 <<< 24) ||| sequenceNum.toNat <<< 8)

structure RtcRtpSender where
  payloadType : UInt8
  rtxPayloadType : UInt8
  sequenceNumber : UInt16
  ssrc : UInt32
  packetBuffer : RtpRollingBuffer

/-- A transceiver that sends, and what it uses of its connection. -/
structure KvsRtpTransceiver where
  sender : RtcRtpSender
  twccExtId : UInt16
  transportWideSequenceNumber : Nat
  twccManager : TwccManager

/-- What happens to a packet of a frame. -/
structure PacketOutcome where
  /-- The buffer for its bytes can be allocated. -/
  allocated : Bool
  /-- The copy for the rolling buffer can be allocated. -/
  copied : Bool
  /-- `srtp_protect` succeeds. -/
  encrypted : Bool
  /-- The bytes that `srtp_protect` makes of the packet. -/
  protect : List UInt8 → List UInt8
  sendStatus : Status
  sentTime : Nat

/-- A call of `writeFrame`. -/
structure WriteFrame where
  srtpReady : Bool
  /-- The payloads of the frame, or why the codec fails. -/
  payloads : Except Failure (List (List UInt8))
  rtpTimestamp : UInt32
  /-- The list of packets can be allocated. -/
  packetListAllocated : Bool
  /-- What the list of packets holds when it has been allocated. -/
  memory : Nat → RtpPacket
  outcome : Nat → PacketOutcome

/-! ### The packets of a frame -/

/-- The loop of `constructRtpPackets`. -/
def constructLoop (payloadType : UInt8) (timestamp ssrc : UInt32) :
    List (List UInt8) → UInt16 → List RtpPacket → Except Failure (List RtpPacket)
  | [], _, pPackets => .ok pPackets
  | _ :: _, _, [] => .error .outOfBounds
  | payload :: payloads, sequenceNumber, pPacket :: pPackets => do
    let pPacket ← setRtpPacket 2 false false 0 payloads.isEmpty payloadType sequenceNumber timestamp
        ssrc
      [] 0 0 none (payload ++ payloads.flatten) (UInt32.ofNat payload.length) pPacket
    let pPackets ← constructLoop payloadType timestamp ssrc payloads (sequenceNumber + 1) pPackets
    .ok (pPacket :: pPackets)

/-- `constructRtpPackets`.  If the payloads are empty it leaves the packets as they are, and the
list may be `NULL`. -/
def constructRtpPackets (payloads : List (List UInt8)) (payloadType : UInt8)
    (startSequenceNumber : UInt16) (timestamp ssrc : UInt32) (pPackets : Option (List RtpPacket)) :
    Except Failure (List RtpPacket) :=
  if payloads.flatten.length > 0 then
    match pPackets with
    | none => .error (.status .nullArg)
    | some pPackets =>
      if payloads.length ≤ pPackets.length then
        constructLoop payloadType timestamp ssrc payloads startSequenceNumber pPackets
      else .error (.status .bufferTooSmall)
  else .ok (pPackets.getD [])

namespace KvsRtpTransceiver

/-- Gives a packet the next transport-wide number, if the extension has been negotiated. -/
def addTwccExtension (t : KvsRtpTransceiver) (p : RtpPacket) : KvsRtpTransceiver × RtpPacket :=
  if t.twccExtId ≠ 0 then
    let twsn := UInt16.ofNat t.transportWideSequenceNumber
    ({ t with transportWideSequenceNumber := t.transportWideSequenceNumber + 1 },
      { p with header := { p.header with
          extension := true
          extensionProfile := twccExtProfile
          extensionLength := 4
          extensionPayload := twccPayload t.twccExtId twsn } })
  else (t, p)

/-- `rtpRollingBufferAddRtpPacket` for the sender's buffer. -/
def bufferPacket (order : ByteOrder) (t : KvsRtpTransceiver) (rawPacket : List UInt8)
    (copied : Bool) :
    Except Failure KvsRtpTransceiver :=
  if copied then do
    let p ← setRtpPacketFromBytes order rawPacket { (default : RtpPacket) with
      rawPacket := rawPacket }
    .ok { t with sender := { t.sender with
      packetBuffer := t.sender.packetBuffer.rtpRollingBufferAddRtpPacket p } }
  else .error (.status .notEnoughMemory)

/-- `twccManagerOnPacketSent` for a packet that has been sent. -/
def onPacketSent (t : KvsRtpTransceiver) (p : RtpPacket) (o : PacketOutcome) : KvsRtpTransceiver :=
  if o.sendStatus = .success ∧ t.twccExtId ≠ 0 then
    { t with twccManager := t.twccManager.twccManagerOnPacketSent p o.sentTime }
  else t

def sendPacket (order : ByteOrder) (bufferAfterEncrypt : Bool) (o : PacketOutcome)
    (t : KvsRtpTransceiver) (p : RtpPacket) (rawPacket : List UInt8) :
    KvsRtpTransceiver × Except Failure Unit :=
  if o.sendStatus = .sendDataFailed then (t, .ok ())
  else
    let t := t.onPacketSent p o
    if o.sendStatus.failed then (t, .error (.status o.sendStatus))
    else if bufferAfterEncrypt then
      match t.bufferPacket order rawPacket o.copied with
      | .error e => (t, .error e)
      | .ok t => (t, .ok ())
    else (t, .ok ())

/-- A round of the loop over the packets.  It ends with a failure where the loop is left. -/
def writePacket (order : ByteOrder) (bufferAfterEncrypt : Bool) (o : PacketOutcome)
    (t : KvsRtpTransceiver) (p : RtpPacket) : KvsRtpTransceiver × Except Failure Unit :=
  let (t, p) := t.addTwccExtension p
  if o.allocated then
    match setBytesFromRtpPacket p (List.replicate (rawPacketSize p).toNat 0) with
    | .error e => (t, .error e)
    | .ok rawPacket =>
      match if bufferAfterEncrypt then .ok t else t.bufferPacket order rawPacket o.copied with
      | .error e => (t, .error e)
      | .ok t =>
        if o.encrypted then t.sendPacket order bufferAfterEncrypt o p (o.protect rawPacket)
        else (t, .error (.status .srtpEncryptFailed))
  else (t, .error (.status .notEnoughMemory))

def writePackets (order : ByteOrder) (bufferAfterEncrypt : Bool) (outcome : Nat → PacketOutcome)
    (pPacketList : List RtpPacket) :
    List Nat → KvsRtpTransceiver → KvsRtpTransceiver × Except Failure Unit
  | [], t => (t, .ok ())
  | i :: is, t =>
    match pPacketList[i]? with
    | none => (t, .error .outOfBounds)
    | some p =>
      match t.writePacket order bufferAfterEncrypt (outcome i) p with
      | (t, .error e) => (t, .error e)
      | (t, .ok ()) => writePackets order bufferAfterEncrypt outcome pPacketList is t

def writeFrame (order : ByteOrder) (t : KvsRtpTransceiver) (c : WriteFrame) :
    KvsRtpTransceiver × Except Failure Unit :=
  if c.srtpReady then
    match c.payloads with
    | .error e => (t, .error e)
    | .ok payloads =>
      let pPackets :=
        if c.packetListAllocated then some ((List.range payloads.length).map c.memory) else none
      match constructRtpPackets payloads t.sender.payloadType t.sender.sequenceNumber c.rtpTimestamp
          t.sender.ssrc pPackets with
      | .error e => (t, .error e)
      | .ok pPacketList =>
        let t := { t with sender := { t.sender with
          sequenceNumber := t.sender.sequenceNumber + UInt16.ofNat payloads.length } }
        let bufferAfterEncrypt := t.sender.payloadType == t.sender.rtxPayloadType
        t.writePackets order bufferAfterEncrypt c.outcome pPacketList (List.range payloads.length)
  else (t, .error (.status .srtpNotReadyYet))

def step (order : ByteOrder) (t : KvsRtpTransceiver) (c : WriteFrame) : KvsRtpTransceiver :=
  (t.writeFrame order c).1

end KvsRtpTransceiver

end KvsWebrtc
