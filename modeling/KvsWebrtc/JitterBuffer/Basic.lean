import KvsWebrtc.Common.Status
import KvsWebrtc.Rtp.RtpPacket
import Mathlib.Logic.Function.Basic
import Mathlib.Tactic.SplitIfs

/-!
# The jitter buffer: state and window checks

The record `JitterBuffer` of `PeerConnection/JitterBuffer.h` and the checks that `jitterBufferPush`
runs on an arriving packet.  Sequence numbers are natural numbers below `2^16` and timestamps
natural numbers below `2^32`; every place where the source relies on wraparound is written with
an explicit `%`.

The checks return a flag and may move one end of the window, so each is a function to
`Bool × JitterBuffer`.

The packet table is the hash table of the platform library, keyed by sequence number: a partial
map, of which the buffer uses `hashTableContains`, `hashTableGet`, `hashTablePut` and
`hashTableRemove`.  `trace` is not in the source: it records, in order, what the buffer does to
the outside (frames reported, packets freed).
-/

namespace KvsWebrtc

def maxOutOfOrderPacketDifference : Nat := 512

/-- `DEFAULT_JITTER_BUFFER_MAX_LATENCY`, in hundreds of nanoseconds. -/
def defaultJitterBufferMaxLatency : Nat := 20000000

/-- An effect of the buffer on its surroundings. -/
inductive JbEvent
  | frameReady (startIndex endIndex : Nat) (frameSize : UInt32)
  | frameDropped (startIndex endIndex timestamp : Nat)
  | packetFreed (addr : Nat)
deriving DecidableEq

def JbEvent.isFrame : JbEvent → Bool
  | .packetFreed _ => false
  | _ => true

def frameEvents (trace : List JbEvent) : List JbEvent := trace.filter JbEvent.isFrame

/-- The callbacks given to `createJitterBuffer`.  The two frame callbacks belong to the
application and may answer differently from call to call, so they see everything the buffer did
before.  `depayPayloadFn` with no output buffer returns the depayloaded size and whether the
packet starts a frame. -/
structure JbCallbacks where
  onFrameReadyFn : List JbEvent → Nat → Nat → UInt32 → Status
  onFrameDroppedFn : List JbEvent → Nat → Nat → Nat → Status
  depayPayloadFn : List UInt8 → UInt32 → Except Status (UInt32 × Bool)

namespace JbCallbacks

/-- `depayPayloadFn(pPacket->payload, pPacket->payloadLength, NULL, &size, &isStart)`. -/
def depay (cb : JbCallbacks) (p : RtpPacket) : Except Status (UInt32 × Bool) :=
  cb.depayPayloadFn p.payload p.payloadLength

end JbCallbacks

/-- A packet whose payload is one byte that tells whether it starts a frame. -/
def markedPacket (addr seq ts : Nat) (isStart : Bool) : RtpPacket where
  addr := addr
  header := { (default : RtpPacketHeader) with
    version := 2
    sequenceNumber := UInt16.ofNat seq
    timestamp := UInt32.ofNat ts }
  payload := [if isStart then 1 else 0]
  payloadLength := 1
  rawPacket := []

/-- Callbacks that succeed, with a depayloader for `markedPacket`. -/
def markCallbacks : JbCallbacks where
  onFrameReadyFn _ _ _ _ := .success
  onFrameDroppedFn _ _ _ _ := .success
  depayPayloadFn payload _ := .ok (1, payload = [1])

structure JitterBuffer where
  headSequenceNumber : Nat
  tailSequenceNumber : Nat
  headTimestamp : Nat
  tailTimestamp : Nat
  maxLatency : Nat
  clockRate : Nat
  started : Bool
  firstFrameProcessed : Bool
  sequenceNumberOverflowState : Bool
  timestampOverFlowState : Bool
  pkgBufferHashTable : Nat → Option RtpPacket
  trace : List JbEvent

/-- The maximum latency of a new buffer, in ticks of the clock.  The product of two 32-bit values
does not overflow the 64-bit field. -/
def scaledMaxLatency (maxLatency clockRate : UInt32) : Nat :=
  (if maxLatency.toNat = 0 then defaultJitterBufferMaxLatency else maxLatency.toNat) *
    clockRate.toNat / hundredsOfNanosInASecond

def JitterBuffer.empty (maxLatency clockRate : Nat) : JitterBuffer where
  headSequenceNumber := maxRtpSequenceNum
  tailSequenceNumber := maxRtpSequenceNum
  headTimestamp := maxRtpTimestamp
  tailTimestamp := 0
  maxLatency := maxLatency
  clockRate := clockRate
  started := false
  firstFrameProcessed := false
  sequenceNumberOverflowState := false
  timestampOverFlowState := false
  pkgBufferHashTable := fun _ => none
  trace := []

/-- `createJitterBuffer` with its callbacks present and the allocations succeeding. -/
def createJitterBuffer (maxLatency clockRate : UInt32) : Except Status JitterBuffer :=
  if clockRate.toNat = 0 then .error .invalidArg
  else if scaledMaxLatency maxLatency clockRate < maxRtpTimestamp then
    .ok (.empty (scaledMaxLatency maxLatency clockRate) clockRate.toNat)
  else .error .invalidArg

theorem createJitterBuffer_ok {maxLatency clockRate : UInt32} {jb : JitterBuffer}
    (h : createJitterBuffer maxLatency clockRate = .ok jb) :
    ∃ L c, jb = .empty L c ∧ L < maxRtpTimestamp ∧ 0 < c := by
  unfold createJitterBuffer at h
  split_ifs at h with h1 h2
  exact ⟨_, _, (Except.ok.inj h).symm, h2, Nat.pos_of_ne_zero h1⟩

namespace JitterBuffer

/-- Whether an out-of-order head could be as early as the packet says, at one packet a second. -/
def underflowPossible (jb : JitterBuffer) (p : RtpPacket) : Bool :=
  if jb.headTimestamp = p.ts then true
  else
    let seqNoDifference := (maxRtpSequenceNum - p.seq) + jb.headSequenceNumber
    let timestampDifference :=
      if jb.headTimestamp > p.ts then jb.headTimestamp - p.ts
      else (maxRtpTimestamp - p.ts) + jb.headTimestamp
    let maxTimePassed :=
      if maxRtpTimestamp / jb.clockRate ≤ seqNoDifference then maxRtpTimestamp
      else jb.clockRate * seqNoDifference
    maxTimePassed ≥ timestampDifference

/-- Before the first frame, or inside the head frame, an earlier packet may still be the head. -/
def headCheckingAllowed (jb : JitterBuffer) (p : RtpPacket) : Bool :=
  jb.firstFrameProcessed = false ∨ jb.headTimestamp = p.ts

/-- True if the packet carries the head sequence number, moving the head if it is a new one. -/
def headSequenceNumberCheck (jb : JitterBuffer) (p : RtpPacket) : Bool × JitterBuffer :=
  let minimumHead :=
    if jb.headSequenceNumber ≥ maxOutOfOrderPacketDifference then
      jb.headSequenceNumber - maxOutOfOrderPacketDifference
    else 0
  if jb.headSequenceNumber = p.seq then (true, jb)
  else if jb.headCheckingAllowed p then
    if jb.sequenceNumberOverflowState then
      if jb.tailSequenceNumber < p.seq ∧ jb.headSequenceNumber > p.seq ∧ p.seq ≥ minimumHead then
        (true, { jb with headSequenceNumber := p.seq })
      else (false, jb)
    else if p.seq < jb.headSequenceNumber then
      if p.seq ≥ minimumHead then (true, { jb with headSequenceNumber := p.seq })
      else (false, jb)
    else (false, jb)
  else (false, jb)

/-- True if the packet carries the tail sequence number, moving the tail if it is a new one. -/
def tailSequenceNumberCheck (jb : JitterBuffer) (p : RtpPacket) : Bool × JitterBuffer :=
  if jb.tailSequenceNumber = p.seq then (true, jb)
  else if p.seq > jb.tailSequenceNumber ∧
      (jb.sequenceNumberOverflowState = false ∨ jb.headSequenceNumber > p.seq) then
    (true, { jb with tailSequenceNumber := p.seq })
  else (false, jb)

/-- The overflow case of `enterSequenceNumberOverflowCheck`: the tail is about to wrap and the
packet lies just past the wrap. -/
def sequenceNumberOverflow (jb : JitterBuffer) (p : RtpPacket) : Bool :=
  let packetsUntilOverflow := maxRtpSequenceNum - jb.tailSequenceNumber
  jb.sequenceNumberOverflowState = false ∧
    maxOutOfOrderPacketDifference ≥ packetsUntilOverflow ∧ p.seq < jb.tailSequenceNumber ∧
    p.seq ≤ maxOutOfOrderPacketDifference - packetsUntilOverflow

/-- The underflow case of `enterSequenceNumberOverflowCheck`: the head is just past the wrap and
the packet lies just before it. -/
def sequenceNumberUnderflow (jb : JitterBuffer) (p : RtpPacket) : Bool :=
  let packetsUntilOverflow := maxRtpSequenceNum - jb.tailSequenceNumber
  jb.sequenceNumberOverflowState = false ∧
    ¬ maxOutOfOrderPacketDifference ≥ packetsUntilOverflow ∧ jb.headCheckingAllowed p ∧
    jb.headSequenceNumber < maxOutOfOrderPacketDifference ∧
    p.seq ≥ maxRtpSequenceNum - (maxOutOfOrderPacketDifference - jb.headSequenceNumber) ∧
    jb.underflowPossible p

def enterSequenceNumberOverflowCheck (jb : JitterBuffer) (p : RtpPacket) : Bool × JitterBuffer :=
  if jb.sequenceNumberOverflow p then
    (true, { jb with
      sequenceNumberOverflowState := true
      tailSequenceNumber := p.seq
      tailTimestamp := p.ts })
  else if jb.sequenceNumberUnderflow p then
    (true, { jb with
      sequenceNumberOverflowState := true
      headSequenceNumber := p.seq
      headTimestamp := p.ts })
  else (false, jb)

def enterTimestampOverflowCheck (jb : JitterBuffer) (p : RtpPacket) : Bool × JitterBuffer :=
  if jb.timestampOverFlowState then (false, jb)
  else if jb.headTimestamp > p.ts ∧ jb.tailTimestamp > p.ts then
    let (isTail, jb) := jb.tailSequenceNumberCheck p
    if isTail then (true, { jb with timestampOverFlowState := true, tailTimestamp := p.ts })
    else (false, jb)
  else if jb.headTimestamp < p.ts ∧ jb.tailTimestamp < p.ts then
    let (isHead, jb) := jb.headSequenceNumberCheck p
    if isHead then (true, { jb with timestampOverFlowState := true, headTimestamp := p.ts })
    else (false, jb)
  else (false, jb)

def exitSequenceNumberOverflowCheck (jb : JitterBuffer) : Bool × JitterBuffer :=
  if jb.sequenceNumberOverflowState ∧ jb.headSequenceNumber ≤ jb.tailSequenceNumber then
    (true, { jb with sequenceNumberOverflowState := false })
  else (false, jb)

def exitTimestampOverflowCheck (jb : JitterBuffer) : Bool × JitterBuffer :=
  if jb.timestampOverFlowState ∧ jb.headTimestamp ≤ jb.tailTimestamp then
    (true, { jb with timestampOverFlowState := false })
  else (false, jb)

/-- True if the packet carries a new head timestamp. -/
def headTimestampCheck (jb : JitterBuffer) (p : RtpPacket) : Bool × JitterBuffer :=
  if jb.headCheckingAllowed p then
    if jb.timestampOverFlowState then
      if jb.headTimestamp > p.ts ∧ jb.tailTimestamp < p.ts then
        let (isHead, jb) := jb.headSequenceNumberCheck p
        if isHead then (true, { jb with headTimestamp := p.ts }) else (false, jb)
      else (false, jb)
    else if jb.headTimestamp > p.ts ∨ jb.tailTimestamp < p.ts then
      let (isHead, jb) := jb.headSequenceNumberCheck p
      if isHead then (true, { jb with headTimestamp := p.ts }) else (false, jb)
    else (false, jb)
  else (false, jb)

/-- True if the packet carries a new tail timestamp. -/
def tailTimestampCheck (jb : JitterBuffer) (p : RtpPacket) : Bool × JitterBuffer :=
  if jb.tailTimestamp < p.ts then
    if jb.timestampOverFlowState = false ∨ jb.headTimestamp > p.ts then
      let (isTail, jb) := jb.tailSequenceNumberCheck p
      if isTail then (true, { jb with tailTimestamp := p.ts }) else (false, jb)
    else (false, jb)
  else (false, jb)

/-- The second half of `withinLatencyTolerance`, for a packet older than the tail timestamp.
`tailTimestamp - maxLatency` is a 64-bit subtraction. -/
def withinLatency (jb : JitterBuffer) (p : RtpPacket) : Bool :=
  if jb.timestampOverFlowState then
    let minimumTimestamp :=
      if jb.tailTimestamp < jb.maxLatency then maxRtpTimestamp - (jb.maxLatency - jb.tailTimestamp)
      else 0
    p.ts < jb.tailTimestamp ∨ p.ts > jb.headTimestamp ∨ p.ts ≥ minimumTimestamp
  else
    (p.ts < jb.maxLatency ∧ jb.tailTimestamp ≤ jb.maxLatency) ∨
      p.ts ≥ (jb.tailTimestamp + 2 ^ 64 - jb.maxLatency) % 2 ^ 64

/-- True if the packet is not much earlier than the current head. -/
def withinLatencyTolerance (jb : JitterBuffer) (p : RtpPacket) : Bool × JitterBuffer :=
  let (isTail, jb) := jb.tailTimestampCheck p
  if isTail ∨ jb.tailTimestamp = p.ts then (true, jb) else (jb.withinLatency p, jb)

end JitterBuffer

end KvsWebrtc
