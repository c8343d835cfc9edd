import KvsWebrtc.Common.BigEndian
import KvsWebrtc.Rtp.RtpPacket

/-!
# RTP packets on the wire

`setRtpPacket`, `setRtpPacketFromBytes` and `setBytesFromRtpPacket` of `Rtp/RtpPacket.c`.

A pointer into a buffer is the list of the bytes from there to the end of the buffer, which can be
shorter than the length that is stored with it; reading or writing behind the end fails with
`outOfBounds`. `getInt16` and `getInt32` give a number in network byte order on every host, whereas
the array of the CSRCs is read as the host stores numbers, its `ByteOrder`.  A payload that is
`NULL` is empty here, and has the length zero.

`createBytesFromRtpPacket` and `constructRetransmitRtpPacketFromBytes` of `Rtp/RtpPacket.c`.

Which allocations succeed comes with a call.  Bytes that have been allocated and not been written
are zero here.
-/

namespace KvsWebrtc.Rtp

/-- `MIN_HEADER_LENGTH`, which is `CSRC_OFFSET` too. -/
def minHeaderLength : Nat := 12

def csrcLength : Nat := 4

/-- How the host stores a number. -/
inductive ByteOrder
  | littleEndian
  | bigEndian
deriving DecidableEq

/-- `*(PUINT32) p`. -/
def ByteOrder.word : ByteOrder → List UInt8 → UInt32
  | .littleEndian, bytes => UInt32.ofNat (beNat bytes.reverse)
  | .bigEndian, bytes => UInt32.ofNat (beNat bytes)

/-! ### The decoder -/

/-- `setRtpPacket`, with `none` for a payload of the extension that is `NULL`. -/
def setRtpPacket (version : UInt8) (padding extension : Bool) (csrcCount : UInt8) (marker : Bool)
    (payloadType : UInt8) (sequenceNumber : UInt16) (timestamp ssrc : UInt32)
    (csrcArray : List UInt32) (extensionProfile : UInt16) (extensionLength : UInt32)
    (extensionPayload : Option (List UInt8)) (payload : List UInt8) (payloadLength : UInt32)
    (pRtpPacket : RtpPacket) :
    Except Failure RtpPacket :=
  if extension = false ∨ extensionPayload.isSome then
    .ok { pRtpPacket with
      header := {
        version := version
        padding := padding
        extension := extension
        csrcCount := csrcCount
        marker := marker
        payloadType := payloadType
        sequenceNumber := sequenceNumber
        timestamp := timestamp
        ssrc := ssrc
        csrcArray := csrcArray
        extensionProfile := if extension then extensionProfile else 0
        extensionPayload := if extension then extensionPayload.getD [] else []
        extensionLength := if extension then extensionLength else 0 }
      payload := payload
      payloadLength := payloadLength }
  else .error (.status .nullArg)

/-- The version, the padding bit, the extension bit and the number of CSRCs in the first byte. -/
def versionOf (b : UInt8) : UInt8 := (b >>> 6) &&& 0x3

@[inherit_doc versionOf]
def paddingOf (b : UInt8) : Bool := (b >>> 5) &&& 0x1 > 0

@[inherit_doc versionOf]
def extensionOf (b : UInt8) : Bool := (b >>> 4) &&& 0x1 > 0

@[inherit_doc versionOf]
def csrcCountOf (b : UInt8) : UInt8 := b &&& 0xF

/-- The marker bit and the payload type in the second byte. -/
def markerOf (b : UInt8) : Bool := (b >>> 7) &&& 0x1 > 0

@[inherit_doc markerOf]
def payloadTypeOf (b : UInt8) : UInt8 := b &&& 0x7F

/-- `csrcArray`, as the host reads it. -/
def csrcArrayAt (order : ByteOrder) (rawPacket : List UInt8) (csrcCount : Nat) : List UInt32 :=
  (List.range csrcCount).map fun i =>
  order.word (bytesAt rawPacket (minHeaderLength + i * csrcLength)
    csrcLength)

/-- `setRtpPacketFromBytes`.  `extensionLength` is a 16-bit number, and nothing checks that the
extension ends in the packet: the length of the payload wraps. -/
def setRtpPacketFromBytes (order : ByteOrder) (rawPacket : List UInt8) (pRtpPacket : RtpPacket) :
    Except Failure RtpPacket := do
  let packetLength := UInt32.ofNat rawPacket.length
  if packetLength.toNat < minHeaderLength then .error (.status .rtpInputPacketTooSmall)
  let first := rawPacket.getD 0 0
  let second := rawPacket.getD 1 0
  let csrcCount := csrcCountOf first
  let sequenceNumber := UInt16.ofNat (beNat (bytesAt rawPacket 2 2))
  let timestamp := UInt32.ofNat (beNat (bytesAt rawPacket 4 4))
  let ssrc := UInt32.ofNat (beNat (bytesAt rawPacket 8 4))
  let currOffset := minHeaderLength + csrcCount.toNat * csrcLength
  if packetLength.toNat < currOffset then .error (.status .rtpInputPacketTooSmall)
  let csrcArray := csrcArrayAt order rawPacket csrcCount.toNat
  if extensionOf first then
    let extensionProfile ← fieldAt rawPacket currOffset 2
    let words ← fieldAt rawPacket (currOffset + 2) 2
    let extensionLength := UInt16.ofNat (beNat words * 4)
    let payloadOffset := currOffset + 4 + extensionLength.toNat
    setRtpPacket (versionOf first) (paddingOf first) true csrcCount (markerOf second)
      (payloadTypeOf second) sequenceNumber timestamp ssrc csrcArray
      (UInt16.ofNat (beNat extensionProfile)) extensionLength.toUInt32
      (some (rawPacket.drop (currOffset + 4))) (rawPacket.drop payloadOffset)
      (packetLength - UInt32.ofNat payloadOffset) pRtpPacket
  else
    setRtpPacket (versionOf first) (paddingOf first) false csrcCount (markerOf second)
      (payloadTypeOf second) sequenceNumber timestamp ssrc csrcArray 0 0 none
      (rawPacket.drop currOffset) (packetLength - UInt32.ofNat currOffset) pRtpPacket

/-! ### The encoder -/

/-- `RTP_GET_RAW_PACKET_SIZE`, a 32-bit number. -/
def rawPacketSize (pRtpPacket : RtpPacket) : UInt32 :=
  12 + pRtpPacket.header.csrcCount.toUInt32 * 4 +
    (if pRtpPacket.header.extension then 4 + pRtpPacket.header.extensionLength else 0) +
    pRtpPacket.payloadLength

def firstByte (header : RtpPacketHeader) : UInt8 :=
  (header.version <<< 6 ||| header.csrcCount) |||
    (if header.padding then (1 : UInt8) <<< 5 else 0) |||
      (if header.extension then (1 : UInt8) <<< 4 else 0)

def secondByte (header : RtpPacketHeader) : UInt8 :=
  header.payloadType ||| (if header.marker then (1 : UInt8) <<< 7 else 0)

/-- Writes bytes behind those that have been written into a buffer of a size. -/
def put (size : Nat) (written bytes : List UInt8) : Except Failure (List UInt8) :=
  if written.length + bytes.length ≤ size then .ok (written ++ bytes) else .error .outOfBounds

/-- The bytes that `MEMCPY` reads. -/
def readBytes (bytes : List UInt8) (length : Nat) : Except Failure (List UInt8) :=
  if length ≤ bytes.length then .ok (bytes.take length) else .error .outOfBounds

def putCsrcs (size : Nat) (csrcArray : List UInt32) (csrcCount : Nat) (written : List UInt8) :
    Except Failure (List UInt8) :=
  (List.range csrcCount).foldlM
    (fun written i =>
      match csrcArray[i]? with
      | none => .error .outOfBounds
      | some csrc => put size written (beBytes 4 csrc.toNat))
    written

def putExtension (size : Nat) (header : RtpPacketHeader) (written : List UInt8) :
    Except Failure (List UInt8) :=
  if header.extension then
    if header.extensionLength.toNat % 4 = 0 then do
      let written ← put size written (beBytes 2 header.extensionProfile.toNat)
      let written ← put size written (beBytes 2 (header.extensionLength.toNat / 4))
      let bytes ← readBytes header.extensionPayload header.extensionLength.toNat
      put size written bytes
    else .error (.status .rtpInvalidExtensionLen)
  else .ok written

/-- `setBytesFromRtpPacket`: the buffer afterwards. -/
def setBytesFromRtpPacket (pRtpPacket : RtpPacket) (buffer : List UInt8) :
    Except Failure (List UInt8) := do
  let header := pRtpPacket.header
  if buffer.length < (rawPacketSize pRtpPacket).toNat then .error (.status .bufferTooSmall)
  let written ← put buffer.length []
    (firstByte header :: secondByte header :: beBytes 2 header.sequenceNumber.toNat ++
      beBytes 4 header.timestamp.toNat ++ beBytes 4 header.ssrc.toNat)
  let written ← putCsrcs buffer.length header.csrcArray header.csrcCount.toNat written
  let written ← putExtension buffer.length header written
  let bytes ← readBytes pRtpPacket.payload pRtpPacket.payloadLength.toNat
  let written ← put buffer.length written bytes
  .ok (written ++ buffer.drop written.length)

/-! ### Packets for a retransmission -/

/-- `createBytesFromRtpPacket`: the buffer afterwards and the length of the packet, which alone is
wanted where there is no buffer. -/
def createBytesFromRtpPacket (pRtpPacket : RtpPacket) (pRawPacket : Option (List UInt8))
    (packetLength : UInt32) : Except Failure (List UInt8 × UInt32) :=
  match pRawPacket with
  | none => .ok ([], rawPacketSize pRtpPacket)
  | some buffer =>
    if packetLength ≥ rawPacketSize pRtpPacket then do
      let bytes ← setBytesFromRtpPacket pRtpPacket buffer
      .ok (bytes, rawPacketSize pRtpPacket)
    else .error (.status .notEnoughMemory)

/-- The allocations of a call of `constructRetransmitRtpPacketFromBytes`. -/
structure RtxAllocations where
  /-- What the memory of the packet holds, if there is any. -/
  packet : Option RtpPacket
  payload : Bool
  rawPacket : Bool

/-- `constructRetransmitRtpPacketFromBytes`: the packet, and the length of its bytes. -/
def constructRetransmitRtpPacketFromBytes (order : ByteOrder) (a : RtxAllocations)
    (rawPacket : List UInt8) (sequenceNum : UInt16) (payloadType : UInt8) (ssrc : UInt32) :
    Except Failure (RtpPacket × UInt32) :=
  match a.packet with
  | none => .error (.status .notEnoughMemory)
  | some memory => do
    let pRtpPacket ← setRtpPacketFromBytes order rawPacket memory
    if a.payload then
      -- the header of the payload is the original sequence number
      let payload ← readBytes pRtpPacket.payload pRtpPacket.payloadLength.toNat
      let pRtpPacket := { pRtpPacket with
        payloadLength := pRtpPacket.payloadLength + 2
        payload := beBytes 2 pRtpPacket.header.sequenceNumber.toNat ++ payload
        header := { pRtpPacket.header with
          sequenceNumber := sequenceNum, ssrc := ssrc, payloadType := payloadType, padding :=
          false }
        rawPacket := [] }
      let size ← createBytesFromRtpPacket pRtpPacket none 0
      if a.rawPacket then
        let bytes ← createBytesFromRtpPacket pRtpPacket (some (List.replicate size.2.toNat 0))
            size.2
        .ok ({ pRtpPacket with
          rawPacket := bytes.1
          payload := bytes.1.drop
            ((rawPacketSize pRtpPacket).toNat - pRtpPacket.payloadLength.toNat) },
          bytes.2)
      else .error (.status .notEnoughMemory)
    else .error (.status .notEnoughMemory)

end KvsWebrtc.Rtp
