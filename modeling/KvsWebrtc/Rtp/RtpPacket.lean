import Mathlib.Tactic.TypeStar

/-!
# RTP packets

`RtpPacketHeader` and `RtpPacket` of `Rtp/RtpPacket.h`.  A packet is handled by reference in the
source; `addr` is the identity of the allocation a `PRtpPacket` points to, so two packets with the
same contents can be told apart.  `receivedTime` and `sentTime` are statistics no modelled function
branches on and are left out.
-/

namespace KvsWebrtc

def maxRtpSequenceNum : Nat := 65535

def maxRtpTimestamp : Nat := 4294967295

/-- `HUNDREDS_OF_NANOS_IN_A_SECOND`: the unit of the clocks. -/
def hundredsOfNanosInASecond : Nat := 10000000

structure RtpPacketHeader where
  version : UInt8
  padding : Bool
  extension : Bool
  marker : Bool
  csrcCount : UInt8
  payloadType : UInt8
  sequenceNumber : UInt16
  timestamp : UInt32
  ssrc : UInt32
  csrcArray : List UInt32
  extensionProfile : UInt16
  extensionPayload : List UInt8
  extensionLength : UInt32
deriving DecidableEq, Inhabited

structure RtpPacket where
  /-- The allocation the source's pointer refers to. -/
  addr : Nat
  header : RtpPacketHeader
  payload : List UInt8
  payloadLength : UInt32
  rawPacket : List UInt8
deriving DecidableEq, Inhabited

namespace RtpPacket

def seq (p : RtpPacket) : Nat := p.header.sequenceNumber.toNat

def ts (p : RtpPacket) : Nat := p.header.timestamp.toNat

theorem seq_lt (p : RtpPacket) : p.seq < 65536 := p.header.sequenceNumber.toNat_lt

theorem ts_lt (p : RtpPacket) : p.ts < 4294967296 := p.header.timestamp.toNat_lt

end RtpPacket

end KvsWebrtc
