import KvsWebrtc.Rtcp.NackList
import KvsWebrtc.Rtcp.RollingBuffer

/-!
# Retransmission on NACK

`resendPacketOnNack` of `PeerConnection/Retransmitter.c` with `rtcpNackListGet` of
`Rtcp/RtcpPacket.c` and `rtpRollingBufferGetValidSeqIndexList` of `Rtcp/RtpRollingBuffer.c`.

The two lists of a retransmitter are one block of memory: `seqNumListLen` 16-bit sequence numbers
and behind them `validIndexListLen` 64-bit indices.  Neither the write of the sequence numbers nor
their reads stop at the end of the first list, so the block is modelled as 16-bit cells counted from
its start; cells past its end are whatever lies there.

Whether a packet could be sent is forgotten by the source before it puts the packet back, and the
statistics and the transport-wide feedback do not touch the rolling buffer, so these are left out.
-/

namespace KvsWebrtc

open RollingBuffer RtpRollingBuffer

abbrev Cells := Nat → Nat

structure Retransmitter where
  seqNumListLen : Nat
  validIndexListLen : Nat
  memory : Cells

/-- The fields of a transceiver that retransmission uses. -/
structure SenderTransceiver where
  ssrc : UInt32
  rtxSsrc : UInt32
  jitterBufferSsrc : UInt32
  payloadType : UInt8
  rtxPayloadType : UInt8
  rtxSequenceNumber : UInt16
  packetBuffer : RtpRollingBuffer
  retransmitter : Option Retransmitter

/-- `constructRetransmitRtpPacketFromBytes`: its status for the bytes of a packet. -/
abbrev ConstructRtx := List UInt8 → Status

/-! ### The NACK list -/

/-- `getInt16` of two bytes. -/
def int16Of (a b : UInt8) : Nat := a.toNat * 256 + b.toNat

/-- `getInt32` of four bytes, as the SSRC they encode. -/
def ssrcOfBytes (a b c d : UInt8) : UInt32 :=
  a.toUInt32 <<< 24 ||| b.toUInt32 <<< 16 ||| c.toUInt32 <<< 8 ||| d.toUInt32

/-- The sequence numbers of one entry: the PID and the numbers that the bits of the BLP add to
it. -/
def nackEntry (pid blp : Nat) : List Nat :=
  pid :: (List.range 16).filterMap fun j =>
    if blp.testBit j then some ((pid + j + 1) % 65536) else none

def nackNumbers : List UInt8 → List Nat
  | a :: b :: c :: d :: rest => nackEntry (int16Of a b) (int16Of c d) ++ nackNumbers rest
  | _ => []

/-- Stores sequence numbers from index `count` on.  The index is a 16-bit counter, and the test lets
one number more than `len` through. -/
def storeNumbers (len : Nat) : Nat → Cells → List Nat → Nat × Cells
  | count, mem, [] => (count, mem)
  | count, mem, x :: xs =>
    storeNumbers len ((count + 1) % 65536)
      (if count ≤ len then Function.update mem count x else mem) xs

/-- `rtcpNackListGet` without a list: the sender's and the receiver's SSRC. -/
def rtcpNackSsrcs (payload : List UInt8) : Except Status (UInt32 × UInt32) :=
  if payload.length ≥ rtcpNackListLen ∧ payload.length % 4 = 0 then
    match payload with
    | a :: b :: c :: d :: e :: f :: g :: h :: _ => .ok (ssrcOfBytes a b c d, ssrcOfBytes e f g h)
    | _ => .error .rtcpInputNackListInvalid
  else .error .rtcpInputNackListInvalid

/-- `rtcpNackListGet` with the list of a retransmitter: the number of sequence numbers and the
memory after they are stored. -/
def rtcpNackListGet (r : Retransmitter) (payload : List UInt8) : Nat × Cells :=
  storeNumbers r.seqNumListLen 0 r.memory (nackNumbers (payload.drop rtcpNackListLen))

/-! ### The valid indices -/

/-- Writes entry `k` of the list of valid indices. -/
def putValidIndex (r : Retransmitter) (mem : Cells) (k index : Nat) : Cells :=
  let cell := r.seqNumListLen + 4 * k
  Function.update (Function.update (Function.update (Function.update mem
    cell (index % 65536))
    (cell + 1) (index / 65536 % 65536))
    (cell + 2) (index / 65536 ^ 2 % 65536))
    (cell + 3) (index / 65536 ^ 3 % 65536)

/-- The loop of `rtpRollingBufferGetValidSeqIndexList`, with `n` sequence numbers left from position
`pos` on and the indices `found` so far. -/
def validLoop (b : RtpRollingBuffer) (r : Retransmitter) :
    Nat → Nat → Cells → List Nat → List Nat × Cells
  | 0, _, mem, found => (found, mem)
  | n + 1, pos, mem, found =>
    match b.validSeqIndex (mem pos) with
    | none => validLoop b r n (pos + 1) mem found
    | some index =>
      let mem := putValidIndex r mem found.length index
      let found := found ++ [index]
      if found.length < r.validIndexListLen then
        validLoop b r n (pos + 1) (putValidIndex r mem found.length 0) found
      else (found, mem)

/-- The indices of the packets that the buffer holds among `listLen` sequence numbers in memory. -/
def rtpRollingBufferGetValidSeqIndexList (b : RtpRollingBuffer) (r : Retransmitter) (mem : Cells)
    (listLen : Nat) : List Nat × Cells :=
  if b.rollingBuffer.rollingBufferGetSize > 0 then validLoop b r listLen 0 mem [] else ([], mem)

/-! ### Resending -/

/-- The loop of `resendPacketOnNack` from entry `k` on, over the valid indices left.  Each packet is
taken out at its index and put back at the `k`-th sequence number; it is freed if that is out of
range, or if the packet to resend cannot be built. -/
def resendLoop (construct : ConstructRtx) (rtx : Bool) (mem : Cells) :
    Nat → List Nat → RollingBuffer RtpPacket × UInt16 →
      Status × RollingBuffer RtpPacket × UInt16
  | _, [], s => (.success, s)
  | k, index :: rest, (b, rtxSequenceNumber) =>
    let (item, b) := b.rollingBufferExtractData index
    match item with
    | none => resendLoop construct rtx mem (k + 1) rest (b, rtxSequenceNumber)
    | some p =>
      if rtx ∧ (construct p.rawPacket).failed then
        (construct p.rawPacket, b.free (some p), rtxSequenceNumber)
      else
        let rtxSequenceNumber := if rtx then rtxSequenceNumber + 1 else rtxSequenceNumber
        let (status, b) := b.rollingBufferInsertData (mem k) p
        let b := if status = .rollingBufferNotInRange then b.free (some p) else b
        resendLoop construct rtx mem (k + 1) rest (b, rtxSequenceNumber)

namespace SenderTransceiver

/-- The sequence numbers of the NACK and the indices found for them, in the memory of `r`. -/
def nacked (t : SenderTransceiver) (r : Retransmitter) (payload : List UInt8) :
    List Nat × Cells :=
  let (filledLen, mem) := rtcpNackListGet r payload
  rtpRollingBufferGetValidSeqIndexList t.packetBuffer r mem filledLen

/-- `resendPacketOnNack` once the transceiver is found. -/
def resend (construct : ConstructRtx) (t : SenderTransceiver) (payload : List UInt8) :
    Status × SenderTransceiver :=
  match t.retransmitter with
  | none => (.invalidOperation, t)
  | some r =>
    let (valid, mem) := t.nacked r payload
    let (status, b, rtxSequenceNumber) :=
      resendLoop construct (t.payloadType ≠ t.rtxPayloadType) mem 0 valid
        (t.packetBuffer.rollingBuffer, t.rtxSequenceNumber)
    (status, { t with
      packetBuffer := { t.packetBuffer with rollingBuffer := b }
      rtxSequenceNumber := rtxSequenceNumber
      retransmitter := some { r with memory := mem } })

end SenderTransceiver

def findTransceiverBySsrc (ts : List SenderTransceiver) (ssrc : UInt32) : Option Nat :=
  ts.findIdx? fun t => t.ssrc = ssrc ∨ t.rtxSsrc = ssrc ∨ t.jitterBufferSsrc = ssrc

/-- `resendPacketOnNack`.  When only the sender's SSRC is known, the status of the first search is
checked once more and the NACK is refused. -/
def resendPacketOnNack (construct : ConstructRtx) (payload : List UInt8)
    (ts : List SenderTransceiver) : Status × List SenderTransceiver :=
  match rtcpNackSsrcs payload with
  | .error e => (e, ts)
  | .ok (senderSsrc, receiverSsrc) =>
    match findTransceiverBySsrc ts receiverSsrc with
    | none =>
      match findTransceiverBySsrc ts senderSsrc with
      | none => (.rtcpInputSsrcInvalid, ts)
      | some _ => (.notFound, ts)
    | some i =>
      match ts[i]? with
      | none => (.notFound, ts)
      | some t =>
        let (status, t) := t.resend construct payload
        (status, ts.set i t)

end KvsWebrtc
