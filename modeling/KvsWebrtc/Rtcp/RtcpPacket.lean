import KvsWebrtc.Common.BigEndian
import Mathlib.Data.UInt

/-!
# RTCP packets

`setRtcpPacketFromBytes`, `isRembPacket` and `rembValueGet` of `Rtcp/RtcpPacket.c`.  The list of a
NACK is in `Rtcp.NackList`.

The payload of a packet is a part of the buffer that has been received.  Reading behind the end of
the payload fails with `outOfBounds`, whatever the buffer holds there; statuses are results.
-/

namespace KvsWebrtc

def rtcpPacketHeaderLen : Nat := 4

def rtcpPacketLenWordSize : Nat := 4

def rtcpPacketVersionVal : Nat := 2

def rtcpPacketRembMinSize : Nat := 16

def rtcpPacketRembIdentifierOffset : Nat := 8

def rtcpPacketRembMantissaBitmask : Nat := 0x3FFFF

structure RtcpPacketHeader where
  version : Nat
  receptionReportCount : Nat
  packetType : Nat
  packetLength : Nat
deriving DecidableEq

/-- A packet, with as many words of payload as its header says. -/
structure RtcpPacket where
  header : RtcpPacketHeader
  payload : List UInt8
  payload_length : payload.length = header.packetLength * rtcpPacketLenWordSize

/-- `setRtcpPacketFromBytes`: the packet that some bytes start with. -/
def setRtcpPacketFromBytes (rawPacket : List UInt8) : Except Status RtcpPacket :=
  if rawPacket.length ≥ rtcpPacketHeaderLen then
    let packetLen := beNat (bytesAt rawPacket 2 2)
    if h : (packetLen + 1) * rtcpPacketLenWordSize ≤ rawPacket.length then
      let first := beNat (bytesAt rawPacket 0 1)
      let version := (first >>> 6) &&& 3
      if version = rtcpPacketVersionVal then
        .ok {
          header := {
            version := version
            receptionReportCount := first &&& 0x1F
            packetType := beNat (bytesAt rawPacket 1 1)
            packetLength := packetLen }
          payload := bytesAt rawPacket rtcpPacketLenWordSize (packetLen * rtcpPacketLenWordSize)
          payload_length := length_bytesAt (by rwa [Nat.add_comm, ← Nat.succ_mul]) }
      else .error .rtcpInputPacketInvalidVersion
    else .error .rtcpInputPartialPacket
  else .error .rtcpInputPacketTooSmall

/-- `getUnalignedInt32BigEndian`, as an unsigned number. -/
def uint32At (payload : List UInt8) (offset : Nat) : Except Failure UInt32 :=
  (fieldAt payload offset 4).map fun bytes => UInt32.ofNat (beNat bytes)

/-! ### REMB -/

def rembUniqueIdentifier : List UInt8 := [0x52, 0x45, 0x4d, 0x42]

def isRembPacket (payload : List UInt8) : Except Failure Status :=
  if payload.length ≥ rtcpPacketRembMinSize then do
    let identifier ← fieldAt payload rtcpPacketRembIdentifierOffset 4
    .ok (if identifier = rembUniqueIdentifier then .success else .rtcpInputRembInvalid)
  else .ok .rtcpInputRembTooSmall

/-- What a REMB says.  The bit rate is the mantissa shifted by the exponent. -/
structure RembValue where
  mantissa : Nat
  exponent : Nat
  ssrcList : List UInt32
deriving DecidableEq

/-- `mantissa << exponent` of a 32-bit number; C does not define a shift by 32 or more. -/
def shiftLeft32 (mantissa exponent : Nat) : Option UInt32 :=
  if exponent < 32 then some (UInt32.ofNat mantissa <<< UInt32.ofNat exponent) else none

/-- The bit rate that `rembValueGet` reports. -/
def RembValue.maximumBitRate (v : RembValue) : Option Nat :=
  (shiftLeft32 v.mantissa v.exponent).map UInt32.toNat

def rembValueGet (payload : List UInt8) : Except Failure (Except Status RembValue) :=
  if payload.length ≥ rtcpPacketRembMinSize then do
    let mantissa ← fieldAt payload (rtcpPacketRembIdentifierOffset + 4) 4
    let exponent ← fieldAt payload (rtcpPacketRembIdentifierOffset + 5) 1
    let ssrcListLen ← fieldAt payload (rtcpPacketRembIdentifierOffset + 4) 1
    if payload.length ≥ rtcpPacketRembMinSize + beNat ssrcListLen * 4 then do
      let ssrcList ← (List.range (beNat ssrcListLen)).mapM fun i =>
        uint32At payload (rtcpPacketRembIdentifierOffset + 8 + i * 4)
      .ok (.ok {
        mantissa := beNat mantissa &&& rtcpPacketRembMantissaBitmask
        exponent := beNat exponent >>> 2
        ssrcList := ssrcList })
    else .ok (.error .rtcpInputRembInvalid)
  else .ok (.error .rtcpInputRembTooSmall)

end KvsWebrtc
