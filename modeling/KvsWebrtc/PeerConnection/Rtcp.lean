import KvsWebrtc.PeerConnection.Retransmitter
import KvsWebrtc.PeerConnection.Twcc
import KvsWebrtc.Rtcp.RtcpPacket

/-!
# Receiving RTCP packets

`onRtcpPacket` of `PeerConnection/Rtcp.c` with its handlers.  What is done to a transceiver and
reported to the application comes back as events; the times and the statistics computed from a
receiver report are left out, and so is what is only logged, but for the reads.

The payload of a NACK is read by `rtcpNackListGet`, which `readNack` models; what becomes of its
sequence numbers is in `PeerConnection/Retransmitter.lean`.
-/

namespace KvsWebrtc.Rtcp

def rtcpPacketTypeFir : Nat := 192
def rtcpPacketTypeSenderReport : Nat := 200
def rtcpPacketTypeReceiverReport : Nat := 201
def rtcpPacketTypeGenericRtpFeedback : Nat := 205
def rtcpPacketTypePayloadSpecificFeedback : Nat := 206

def rtcpFeedbackMessageTypeNack : Nat := 1
def rtcpPsfbPli : Nat := 1
def rtcpPsfbSli : Nat := 2
def rtcpFeedbackMessageTypeApplicationLayerFeedback : Nat := 15

def rtcpPacketSenderReportMinlen : Nat := 24

def rtcpPacketReceiverReportMinlen : Nat := 4 + 24

/-- What a handler does to the `i`-th transceiver, and the calls of callbacks. -/
inductive RtcpEvent
  | firCount (i : Nat)
  | pliCount (i : Nat)
  | sliCount (i : Nat)
  | onPictureLoss (i : Nat)
  | receiverReport (i : Nat) (fractionLost : Nat) (lastSR delaySinceLastSR : UInt32)
  | onBandwidthEstimation (i : Nat) (mantissa exponent : Nat)
  | onSenderBandwidthEstimation (estimation : BandwidthEstimation)
deriving DecidableEq

/-- What the handlers use of a connection. -/
structure KvsPeerConnection where
  transceivers : List SenderTransceiver
  twccManager : Option TwccManager
  /-- `onSenderBandwidthEstimation` is registered. -/
  estimating : Bool

/-- How a handler returns. -/
structure Outcome where
  status : Status
  connection : KvsPeerConnection
  events : List RtcpEvent

def KvsPeerConnection.unhandled (c : KvsPeerConnection) : Outcome := ⟨.success, c, []⟩

section

variable (c : KvsPeerConnection) (p : RtcpPacket) (memory : List UInt8)

def onMediaSsrc (events : Nat → List RtcpEvent) (unknown : Status) : Except Failure Outcome := do
  let mediaSSRC ← uint32At memory 4
  match findTransceiverBySsrc c.transceivers mediaSSRC with
  | some i => .ok ⟨.success, c, events i⟩
  | none => .ok ⟨unknown, c, []⟩

def onRtcpFIRPacket : Except Failure Outcome :=
  onMediaSsrc c memory (fun i => [.firCount i, .onPictureLoss i]) .success

def onRtcpSLIPacket : Except Failure Outcome :=
  onMediaSsrc c memory (fun i => [.sliCount i]) .success

def onRtcpPLIPacket : Except Failure Outcome :=
  onMediaSsrc c memory (fun i => [.pliCount i, .onPictureLoss i]) .rtcpInputSsrcInvalid

/-- `onRtcpSenderReport`, which logs what it reads. -/
def onRtcpSenderReport : Except Failure Outcome :=
  if p.payload.length ≠ rtcpPacketSenderReportMinlen then .ok c.unhandled
  else do
    let senderSSRC ← uint32At p.payload 0
    match findTransceiverBySsrc c.transceivers senderSSRC with
    | none => .ok c.unhandled
    | some _ => do
      let _ntpTime ← fieldAt p.payload 4 8
      let _rtpTs ← uint32At p.payload 12
      let _packetCnt ← uint32At p.payload 16
      let _octetCnt ← uint32At p.payload 20
      .ok c.unhandled

def onRtcpReceiverReport : Except Failure Outcome :=
  if p.payload.length ≠ rtcpPacketReceiverReportMinlen then .ok c.unhandled
  else do
    let _senderSSRC ← uint32At p.payload 0
    let ssrc1 ← uint32At p.payload 4
    match findTransceiverBySsrc c.transceivers ssrc1 with
    | none => .ok c.unhandled
    | some i => do
      let fractionLost ← fieldAt p.payload 8 1
      let _cumulativeLost ← uint32At p.payload 8
      let _extHiSeqNumReceived ← uint32At p.payload 12
      let _interarrivalJitter ← uint32At p.payload 16
      let lastSR ← uint32At p.payload 20
      let delaySinceLastSR ← uint32At p.payload 24
      .ok ⟨.success, c, [.receiverReport i (beNat fractionLost) lastSR delaySinceLastSR]⟩

def onRtcpRembPacket : Except Failure Outcome := do
  match ← rembValueGet p.payload with
  | .error status => .ok ⟨status, c, []⟩
  | .ok value =>
    .ok ⟨.success, c, value.ssrcList.filterMap fun ssrc =>
      (findTransceiverBySsrc c.transceivers ssrc).map fun i =>
        .onBandwidthEstimation i value.mantissa value.exponent⟩

def onRtcpTwccPacket : Except Failure Outcome :=
  match c.twccManager, c.estimating with
  | some m, true => do
    let (m, estimation) ← m.onRtcpTwccPacketIn p.payload memory
    .ok ⟨.success, { c with twccManager := some m },
      (estimation.map .onSenderBandwidthEstimation).toList⟩
  | _, _ => .ok c.unhandled

/-- The loop of `rtcpNackListGet`: the packet identifiers and bit masks of the entries. -/
def readNackEntries : List UInt8 → Except Failure (List (Nat × Nat))
  | [] => .ok []
  | a :: b :: c :: d :: rest => do
    let entries ← readNackEntries rest
    .ok ((int16Of a b, int16Of c d) :: entries)
  | _ => .error .outOfBounds

/-- What `rtcpNackListGet` reads, with or without a list. -/
def readNack (payload : List UInt8) : Except Failure (List (Nat × Nat)) :=
  match rtcpNackSsrcs payload with
  | .error _ => .ok []
  | .ok _ => readNackEntries (payload.drop rtcpNackListLen)

variable (construct : ConstructRtx)

/-- `resendPacketOnNack`. -/
def onNack : Except Failure Outcome := do
  let _entries ← readNack p.payload
  let (status, transceivers) := resendPacketOnNack construct p.payload c.transceivers
  .ok ⟨status, { c with transceivers := transceivers }, []⟩

/-- The handlers. -/
inductive Handler
  | fir
  | nack
  | twcc
  | remb
  | pli
  | sli
  | senderReport
  | receiverReport
  | unhandled
deriving DecidableEq

/-- The handler that `onRtcpPacket` chooses. -/
def handlerOf (p : RtcpPacket) : Except Failure Handler :=
  let packetType := p.header.packetType
  let format := p.header.receptionReportCount
  if packetType = rtcpPacketTypeFir then .ok .fir
  else if packetType = rtcpPacketTypeGenericRtpFeedback then
    if format = rtcpFeedbackMessageTypeNack then .ok .nack
    else if format = rtcpFeedbackMessageTypeApplicationLayerFeedback then .ok .twcc
    else .ok .unhandled
  else if packetType = rtcpPacketTypePayloadSpecificFeedback then do
    let remb ←
      if format = rtcpFeedbackMessageTypeApplicationLayerFeedback then isRembPacket p.payload
      else .ok .invalidArg
    if remb = .success then .ok .remb
    else if format = rtcpPsfbPli then .ok .pli
    else if format = rtcpPsfbSli then .ok .sli
    else .ok .unhandled
  else if packetType = rtcpPacketTypeSenderReport then .ok .senderReport
  else if packetType = rtcpPacketTypeReceiverReport then .ok .receiverReport
  else .ok .unhandled

def Handler.run (c : KvsPeerConnection) (p : RtcpPacket) (memory : List UInt8)
    (construct : ConstructRtx) : Handler → Except Failure Outcome
  | .fir => onRtcpFIRPacket c memory
  | .nack => onNack c p construct
  | .twcc => onRtcpTwccPacket c p memory
  | .remb => onRtcpRembPacket c p
  | .pli => onRtcpPLIPacket c memory
  | .sli => onRtcpSLIPacket c memory
  | .senderReport => onRtcpSenderReport c p
  | .receiverReport => onRtcpReceiverReport c p
  | .unhandled => .ok c.unhandled

/-- A round of `onRtcpPacket`, where the memory can be read from the payload of the packet on. -/
def handleIn : Except Failure Outcome := do
  let handler ← handlerOf p
  handler.run c p memory construct

/-- A round that may read the payload only. -/
def handle : Except Failure Outcome := handleIn c p p.payload construct

/-- What of the memory can be read from the payload of a packet on, given the bytes of the buffer
that start with the packet. -/
abbrev View := List UInt8 → RtcpPacket → List UInt8

def payloadOnly : View := fun _ p => p.payload

def readOn (behind : List UInt8) : View := fun buff _ => buff.drop rtcpPacketHeaderLen ++ behind

/-- The rounds of `onRtcpPacket`, at most `fuel` of them, over the bytes that are left. -/
def packetLoop (view : View) : Nat → KvsPeerConnection → List UInt8 → Except Failure Outcome
  | 0, c, _ => .ok c.unhandled
  | _ + 1, c, [] => .ok c.unhandled
  | fuel + 1, c, b :: buff =>
    match setRtcpPacketFromBytes (b :: buff) with
    | .error status => .ok ⟨status, c, []⟩
    | .ok p => do
      let outcome ← handleIn c p (view (b :: buff) p) construct
      if outcome.status.failed then .ok outcome
      else
        let rest ← packetLoop view fuel outcome.connection
          ((b :: buff).drop (p.payload.length + rtcpPacketHeaderLen))
        .ok { rest with events := outcome.events ++ rest.events }

/-- `onRtcpPacket`, where a handler that reads behind its payload fails.  A round takes at least one
byte. -/
def onRtcpPacket (buff : List UInt8) : Except Failure Outcome :=
  packetLoop construct payloadOnly buff.length c buff

/-- `onRtcpPacket`, where the handlers read on in the buffer and in the bytes behind it. -/
def onRtcpPacketIn (behind buff : List UInt8) : Except Failure Outcome :=
  packetLoop construct (readOn behind) buff.length c buff

/-- A packet that is handed to its handler, with the connection and the memory that the handler
finds. -/
structure Handled where
  connection : KvsPeerConnection
  packet : RtcpPacket
  memory : List UInt8

/-- The packets that `packetLoop` hands to their handlers. -/
def handledLoop (view : View) : Nat → KvsPeerConnection → List UInt8 → List Handled
  | 0, _, _ => []
  | _ + 1, _, [] => []
  | fuel + 1, c, b :: buff =>
    match setRtcpPacketFromBytes (b :: buff) with
    | .error _ => []
    | .ok p =>
      ⟨c, p, view (b :: buff) p⟩ ::
        match handleIn c p (view (b :: buff) p) construct with
        | .error _ => []
        | .ok outcome =>
          if outcome.status.failed then []
          else handledLoop view fuel outcome.connection
            ((b :: buff).drop (p.payload.length + rtcpPacketHeaderLen))

/-- The packets that `onRtcpPacket` hands to their handlers. -/
def handled (buff : List UInt8) : List (KvsPeerConnection × RtcpPacket) :=
  (handledLoop construct payloadOnly buff.length c buff).map fun h => (h.connection, h.packet)

/-- The packets that `onRtcpPacketIn` hands to their handlers. -/
def handledIn (behind buff : List UInt8) : List Handled :=
  handledLoop construct (readOn behind) buff.length c buff

end

end KvsWebrtc.Rtcp
