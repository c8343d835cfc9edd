import KvsWebrtc.Common.BigEndian
import KvsWebrtc.Rtp.RtpPacket
import Mathlib.Logic.Function.Basic

/-!
# Transport-wide congestion control

The feedback packets are read by `parseRtcpTwccPacket` of `PeerConnection/Rtcp.c` with the macros of
`PeerConnection/Rtcp.h`, and accounted for by `updateTwccHashTable` and `onRtcpTwccPacket`.
`twccManagerOnPacketSent` and `twccRollingWindowDeletion` of `PeerConnection/PeerConnection.c` keep
the packets that have been sent.

A record of the hash table is a value with the allocation, `addr`, that the pointer of the source
refers to; `nextAddr` and `freed` are not in the source: they record the allocations and what has
been freed, in order. Times are 64-bit numbers, those of the sender's clock below 2^63.  Reading
behind the memory that a feedback packet lies in fails with `outOfBounds`; offsets do not wrap,
which would take 4 GiB of it. The callback is registered, without which both sides return at once.
-/

namespace KvsWebrtc

def twccExtProfile : UInt16 := 0xBEDE

def twccPacketLostTime : Nat := 2 ^ 64 - 1

def twccPacketUnitializedTime : Nat := 0

def twccEstimatorTimeWindow : Nat := 1 * hundredsOfNanosInASecond

def millisecondsPerSecond : Nat := 1000

def twccTicksPerSecond : Nat := 1000000 / 250

/-- `MIN_INT16`, which stands for no delta too. -/
def minInt16 : Int := -32768

def twccSeqNum (extensionPayload : List UInt8) : UInt16 := UInt16.ofNat
    (beNat (bytesAt extensionPayload 1 2))

structure TwccRtpPacketInfo where
  /-- The allocation the source's pointer refers to. -/
  addr : Nat
  localTimeKvs : Nat
  remoteTimeKvs : Nat
  packetSize : UInt32
deriving DecidableEq

structure TwccManager where
  twccRtpPktInfosHashTable : UInt64 → Option TwccRtpPacketInfo
  firstSeqNumInRollingWindow : UInt16
  lastReportedSeqNum : UInt16
  prevReportedBaseSeqNum : UInt16
  nextAddr : Nat
  freed : List Nat

namespace TwccManager

def create : TwccManager where
  twccRtpPktInfosHashTable := fun _ => none
  firstSeqNumInRollingWindow := 0
  lastReportedSeqNum := 0
  prevReportedBaseSeqNum := 0
  nextAddr := 0
  freed := []

/-- `hashTableUpsert`. -/
def upsert (m : TwccManager) (seqNum : UInt16) (info : TwccRtpPacketInfo) : TwccManager :=
  { m with
    twccRtpPktInfosHashTable := Function.update m.twccRtpPktInfosHashTable seqNum.toUInt64
      (some info) }

/-- `hashTableRemove`, after which the record is freed. -/
def remove (m : TwccManager) (seqNum : UInt16) (info : TwccRtpPacketInfo) : TwccManager :=
  { m with
    twccRtpPktInfosHashTable := Function.update m.twccRtpPktInfosHashTable seqNum.toUInt64 none
    freed := m.freed ++ [info.addr] }

end TwccManager

/-! ### The chunks of a feedback packet -/

namespace Twcc

/-- `IS_TWCC_RUNLEN`. -/
def isRunlen (packetChunk : Nat) : Bool := (packetChunk >>> 15) &&& 1 == 0

/-- `TWCC_RUNLEN_STATUS_SYMBOL`. -/
def runlenStatusSymbol (packetChunk : Nat) : Nat := (packetChunk >>> 13) &&& 3

/-- `TWCC_RUNLEN_GET`. -/
def runlenGet (packetChunk : Nat) : Nat := packetChunk &&& 0x1fff

/-- `TWCC_STATUSVECTOR_IS_2BIT`. -/
def statusVectorIs2Bit (packetChunk : Nat) : Bool := (packetChunk >>> 14) &&& 1 == 1

/-- `TWCC_STATUSVECTOR_SSIZE`. -/
def statusVectorSsize (packetChunk : Nat) : Nat := if statusVectorIs2Bit packetChunk then 2 else 1

/-- `TWCC_STATUSVECTOR_SMASK`. -/
def statusVectorSmask (packetChunk : Nat) : Nat := if statusVectorIs2Bit packetChunk then 2 else 1

/-- `TWCC_STATUSVECTOR_STATUS`. -/
def statusVectorStatus (packetChunk i : Nat) : Nat :=
  (packetChunk >>> (14 - i * statusVectorSsize packetChunk)) &&& statusVectorSmask packetChunk

/-- `TWCC_STATUSVECTOR_COUNT`. -/
def statusVectorCount (packetChunk : Nat) : Nat := if statusVectorIs2Bit packetChunk then 7 else 14

def chunkSymbols (packetChunk packetsRemaining : Nat) : List Nat :=
  if isRunlen packetChunk then
    List.replicate (runlenGet packetChunk) (runlenStatusSymbol packetChunk)
  else
    (List.range (min (statusVectorCount packetChunk) packetsRemaining)).map
    (statusVectorStatus packetChunk)

/-! ### Reading the statuses -/

/-- `getUnalignedInt16BigEndian`, as an unsigned number. -/
def uint16At (payload : List UInt8) (offset : Nat) : Except Failure Nat :=
  (fieldAt payload offset 2).map beNat

def signed16 (n : Nat) : Int := if n < 32768 then n else n - 65536

/-- `KVS_CONVERT_TIMESCALE`. -/
def convertTimescale (pts : Int) (fromTimescale toTimescale : Nat) : Int :=
  (pts * toTimescale).tdiv fromTimescale

/-- `referenceTime` after a delta: the sum wraps. -/
def addDelta (referenceTime : Nat) (recvDelta : Int) : Nat :=
  ((referenceTime + convertTimescale recvDelta twccTicksPerSecond hundredsOfNanosInASecond) %
    (2 ^ 64 : Int)).toNat

/-- Where the deltas are read, and the time so far. -/
structure Cursor where
  recvOffset : Nat
  referenceTime : Nat
deriving DecidableEq

/-- The time to store for a delta, if there is one. -/
def receive (recvOffset referenceTime : Nat) (recvDelta : Int) : Option Nat × Cursor :=
  if recvDelta ≠ minInt16 then
    (some (addDelta referenceTime recvDelta), ⟨recvOffset, addDelta referenceTime recvDelta⟩)
  else (none, ⟨recvOffset, referenceTime⟩)

/-- The `switch` over a status symbol: the time to store for the packet, if there is one. -/
def readStatus (payload : List UInt8) (statusSymbol : Nat) (c : Cursor) :
    Except Failure (Option Nat × Cursor) :=
  match statusSymbol with
  | 0 => .ok (some twccPacketLostTime, c)
  | 1 => do
    let delta ← fieldAt payload c.recvOffset 1
    .ok (receive (c.recvOffset + 1) c.referenceTime (beNat delta))
  | 2 => do
    let delta ← uint16At payload c.recvOffset
    .ok (receive (c.recvOffset + 2) c.referenceTime (signed16 delta))
  | _ => .ok (none, c)

end Twcc

namespace TwccManager

open Twcc

def report (m : TwccManager) (seqNum : UInt16) (remoteTimeKvs : Nat) : TwccManager :=
  { m with
    twccRtpPktInfosHashTable := Function.update m.twccRtpPktInfosHashTable seqNum.toUInt64
      ((m.twccRtpPktInfosHashTable seqNum.toUInt64).map fun info =>
        { info with remoteTimeKvs := remoteTimeKvs })
    lastReportedSeqNum := seqNum }

/-- The variables of the parser. -/
structure ParseState where
  manager : TwccManager
  packetSeqNum : UInt16
  cursor : Cursor

/-- A round of the loops over the statuses of a chunk. -/
def parseStatus (payload : List UInt8) (s : ParseState) (statusSymbol : Nat) :
    Except Failure ParseState := do
  let (remoteTimeKvs, cursor) ← readStatus payload statusSymbol s.cursor
  let manager :=
    match remoteTimeKvs with
    | none => s.manager
    | some time => s.manager.report s.packetSeqNum time
  .ok { manager := manager, packetSeqNum := s.packetSeqNum + 1, cursor := cursor }

/-- The loop that looks for the first delta: the offset behind the chunks.  It stops at the end of
the packet. -/
def skipChunks : List UInt8 → Int → Nat → Except Failure Nat
  | [], _, chunkOffset => .ok chunkOffset
  | [_], packetsRemaining, chunkOffset =>
    if packetsRemaining > 0 then .error .outOfBounds else .ok chunkOffset
  | hi :: lo :: rest, packetsRemaining, chunkOffset =>
    if packetsRemaining > 0 then
      let packetChunk := beNat [hi, lo]
      let packets : Int :=
        if isRunlen packetChunk then runlenGet packetChunk
        else min (statusVectorCount packetChunk : Int) packetsRemaining
      skipChunks rest (packetsRemaining - packets) (chunkOffset + 2)
    else .ok chunkOffset

/-- The loop over the chunks, which does not stop at the end of the packet. -/
def parseChunks (payload : List UInt8) : List UInt8 → Int → ParseState → Except Failure ParseState
  | hi :: lo :: rest, packetsRemaining, s =>
    if packetsRemaining > 0 then do
      let symbols := chunkSymbols (beNat [hi, lo]) packetsRemaining.toNat
      let s ← symbols.foldlM (parseStatus payload) s
      parseChunks payload rest (packetsRemaining - symbols.length) s
    else .ok s
  | _, packetsRemaining, s => if packetsRemaining > 0 then .error .outOfBounds else .ok s

/-- `parseRtcpTwccPacket`, where the memory can be read from the payload on: the parser looks at the
length of the payload in its first loop only. -/
def parseRtcpTwccPacketIn (payload memory : List UInt8) (m : TwccManager) :
    Except Failure TwccManager := do
  let baseSeqNum ← uint16At memory 8
  let m := { m with prevReportedBaseSeqNum := UInt16.ofNat baseSeqNum }
  let packetStatusCount ← uint16At memory 10
  let reference ← fieldAt memory 12 3
  let referenceTime :=
    (convertTimescale (beNat reference * 64) millisecondsPerSecond hundredsOfNanosInASecond).toNat
  let recvOffset ← skipChunks (payload.drop 16) packetStatusCount 16
  let s ← parseChunks memory (memory.drop 16) packetStatusCount
    { manager := m, packetSeqNum := UInt16.ofNat baseSeqNum, cursor := ⟨recvOffset, referenceTime⟩ }
  .ok s.manager

def parseRtcpTwccPacket (payload : List UInt8) (m : TwccManager) : Except Failure TwccManager :=
  m.parseRtcpTwccPacketIn payload payload

end TwccManager

/-! ### Accounting for a feedback packet -/

/-- The arguments of `onSenderBandwidthEstimation`. -/
structure BandwidthEstimation where
  sentBytes : Nat
  receivedBytes : Nat
  sentPackets : Nat
  receivedPackets : Nat
  duration : Int
deriving DecidableEq

namespace TwccManager

/-- The variables of `updateTwccHashTable`. -/
structure UpdateState where
  manager : TwccManager
  localStartTimeKvs : Nat
  localStartTimeRecorded : Bool
  estimation : BandwidthEstimation

/-- The time at which the interval starts, as far as it is known at a sequence number.  The key of
the packet before the first one is not a sequence number. -/
def recordStart (s : UpdateState) (seqNum : UInt16) : UpdateState :=
  if s.localStartTimeRecorded then s
  else
    let s :=
      match s.manager.twccRtpPktInfosHashTable (seqNum.toUInt64 - 1) with
      | none => { s with localStartTimeKvs := twccPacketUnitializedTime }
      | some info =>
        { s with localStartTimeKvs := info.localTimeKvs, localStartTimeRecorded := true }
    if s.localStartTimeKvs = twccPacketUnitializedTime then
      match s.manager.twccRtpPktInfosHashTable seqNum.toUInt64 with
      | none => s
      | some info =>
        { s with localStartTimeKvs := info.localTimeKvs, localStartTimeRecorded := true }
    else s

/-- A packet that is in the table counts as sent, and it is removed if it counts as received too. -/
def countPacket (s : UpdateState) (seqNum : UInt16) : UpdateState :=
  match s.manager.twccRtpPktInfosHashTable seqNum.toUInt64 with
  | none => s
  | some info =>
    let e := s.estimation
    let sent := { e with
      duration := (info.localTimeKvs : Int) - s.localStartTimeKvs
      sentBytes := e.sentBytes + info.packetSize.toNat
      sentPackets := e.sentPackets + 1 }
    if info.remoteTimeKvs ≠ twccPacketLostTime then
      { s with
        manager := s.manager.remove seqNum info
        estimation := { sent with
          receivedBytes := e.receivedBytes + info.packetSize.toNat
          receivedPackets := e.receivedPackets + 1 } }
    else { s with estimation := sent }

/-- The numbers from `prevReportedBaseSeqNum` to `lastReportedSeqNum`. -/
def reportedSeqNums (m : TwccManager) : List UInt16 :=
  (List.range (m.lastReportedSeqNum + 1 - m.prevReportedBaseSeqNum).toNat).map fun i =>
    m.prevReportedBaseSeqNum + UInt16.ofNat i

def updateTwccHashTable (m : TwccManager) : TwccManager × BandwidthEstimation :=
  let s := m.reportedSeqNums.foldl (fun s seqNum => countPacket (recordStart s seqNum) seqNum)
    { manager := m
      localStartTimeKvs := twccPacketUnitializedTime
      localStartTimeRecorded := false
      estimation := ⟨0, 0, 0, 0, 0⟩ }
  (s.manager, s.estimation)

/-- `onRtcpTwccPacket`, with the call of `onSenderBandwidthEstimation` if there is one. -/
def onRtcpTwccPacketIn (m : TwccManager) (payload memory : List UInt8) :
    Except Failure (TwccManager × Option BandwidthEstimation) := do
  let m ← m.parseRtcpTwccPacketIn payload memory
  let (m, estimation) := m.updateTwccHashTable
  .ok (m, if estimation.duration > 0 then some estimation else none)

def onRtcpTwccPacket (m : TwccManager) (payload : List UInt8) :
    Except Failure (TwccManager × Option BandwidthEstimation) :=
  m.onRtcpTwccPacketIn payload payload

/-! ### The packets that have been sent -/

/-- The loop of `twccRollingWindowDeletion`, with `n` numbers left up to the ending one, the current
one `updatedSeqNum` included. -/
def deletionLoop (sentTime : Nat) : Nat → TwccManager → UInt16 → TwccManager × UInt16
  | 0, m, updatedSeqNum => (m, updatedSeqNum)
  | n + 1, m, updatedSeqNum =>
    match m.twccRtpPktInfosHashTable updatedSeqNum.toUInt64 with
    | none => deletionLoop sentTime n m (updatedSeqNum + 1)
    | some info =>
      if sentTime ≥ info.localTimeKvs then
        if sentTime - info.localTimeKvs > twccEstimatorTimeWindow then
          deletionLoop sentTime n (m.remove updatedSeqNum info) (updatedSeqNum + 1)
        else (m, updatedSeqNum)
      else deletionLoop sentTime n m (updatedSeqNum + 1)

/-- `twccRollingWindowDeletion`.  The loop looks at one number before it tests for the end. -/
def twccRollingWindowDeletion (m : TwccManager) (sentTime : Nat) (endingSeqNum : UInt16) :
    TwccManager :=
  let (m, updatedSeqNum) := deletionLoop sentTime
    ((endingSeqNum - m.firstSeqNumInRollingWindow).toNat + 1) m m.firstSeqNumInRollingWindow
  { m with firstSeqNumInRollingWindow := updatedSeqNum }

def infoOf (m : TwccManager) (p : RtpPacket) (sentTime : Nat) : TwccRtpPacketInfo where
  addr := m.nextAddr
  localTimeKvs := sentTime
  remoteTimeKvs := twccPacketLostTime
  packetSize := p.payloadLength

def twccManagerOnPacketSent (m : TwccManager) (p : RtpPacket) (sentTime : Nat) : TwccManager :=
  if p.header.extensionProfile = twccExtProfile then
    let seqNum := twccSeqNum p.header.extensionPayload
    ({ m.upsert seqNum (m.infoOf p sentTime) with
    nextAddr := m.nextAddr + 1 }).twccRollingWindowDeletion
      sentTime seqNum
  else m

end TwccManager

/-! ### Runs -/

/-- What happens to a manager: a packet has been sent, for the first time or again, or a feedback
packet has come in. -/
inductive TwccEvent
  | packetSent (p : RtpPacket) (sentTime : Nat)
  | feedback (payload : List UInt8)

namespace TwccManager

/-- The manager after an event, and the estimation that it has reported.  A feedback packet that
cannot be read within its payload is dropped here; the code reads on behind it. -/
def handle (m : TwccManager) : TwccEvent → TwccManager × Option BandwidthEstimation
  | .packetSent p sentTime => (m.twccManagerOnPacketSent p sentTime, none)
  | .feedback payload =>
    match m.onRtcpTwccPacket payload with
    | .ok r => r
    | .error _ => (m, none)

def step (m : TwccManager) (event : TwccEvent) : TwccManager := (m.handle event).1

end TwccManager

end KvsWebrtc
