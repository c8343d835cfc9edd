import KvsWebrtc.Rtp.Payloader
import Mathlib.Algebra.Ring.Int.Defs

/-!
# The payloads of the codecs

The packetizers and depayloaders of `Rtp/Codecs`, and what a depayloader computes on the way.

* H.264 (`Rtp/Codecs/RtpH264Payloader.c`): single NAL units and `FU-A` fragments are written, and a
  depayloader takes these, aggregation packets (`STAP-A`, `STAP-B`) and `FU-B` fragments.
* H.265 (`Rtp/Codecs/RtpH265Payloader.c`): single NAL units and fragmentation units.
* VP8 (`Rtp/Codecs/RtpVP8Payloader.c`): the loop that cuts a frame into payloads takes a bound on
  its rounds here, as it need not end: with an mtu of one a payload holds no byte of the frame.
* `createPayloadForG711` and `createPayloadForOpus`, and the `RtpPayloadFunc` that `writeFrame`
  chooses for a codec.

The lengths that the two calls of a depayloader compute on the way are listed as the numbers they
are before they become 32-bit ones.
-/

namespace KvsWebrtc.Rtp

/-! ### H.264 payloads -/

def fuAHeaderSize : Nat := 2

def fuBHeaderSize : Nat := 4

def stapAHeaderSize : Nat := 1

def stapBHeaderSize : Nat := 3

/-- `FU-A`: the indicator holds the reference bits of the NAL unit's first byte, the header its
type. -/
def fuA : FragmentationUnit where
  headerSize := fuAHeaderSize
  naluHeaderSize := 1
  header nalu flag := [28 ||| (nalu.headD 0 &&& 0x60), (nalu.headD 0 &&& 0x1F) ||| flag]

def createPayloadForH264 (mtu : Nat) (nalus : List UInt8) (room : Option Room) :
    Except Failure Filled :=
  createPayloadForWith fuA mtu nalus room

/-- `MEMCPY` of `n` bytes of a packet from an offset on. -/
def copyFrom (raw : List UInt8) (offset n : Nat) : Except Failure (List UInt8) :=
  if n = 0 ∨ offset + n ≤ raw.length then .ok ((raw.drop offset).take n) else .error .outOfBounds

/-- The sizes that the loop over an aggregation packet reads, each with the offset of its NAL unit.
It ends with a size of zero or at the end of the packet. -/
def stapUnits (raw : List UInt8) (p : Nat) : Except Failure (List (Nat × Nat)) :=
  if p + 2 ≤ raw.length then
    let subNaluSize := (raw.getD p 0).toNat * 256 + (raw.getD (p + 1) 0).toNat
    if 0 < subNaluSize ∧ p + 2 + subNaluSize < raw.length then
      match stapUnits raw (p + 2 + subNaluSize) with
      | .error e => .error e
      | .ok units => .ok ((p + 2, subNaluSize) :: units)
    else .ok [(p + 2, subNaluSize)]
  else .error .outOfBounds
termination_by raw.length - p

/-- The length that the first loop over an aggregation packet adds up. -/
def stapLength (units : List (Nat × Nat)) : Nat :=
  (units.map fun u => u.2 + start4ByteCode.length).sum % 2 ^ 32

def stapWrite (raw : List UInt8) : List (Nat × Nat) → Except Failure (List UInt8)
  | [] => .ok []
  | u :: units =>
    match copyFrom raw u.1 u.2, stapWrite raw units with
    | .ok bytes, .ok rest => .ok (start4ByteCode ++ bytes ++ rest)
    | _, _ => .error .outOfBounds

/-- An aggregation packet.  The length is taken with one header size and the bytes with another. -/
def depayStap (raw : List UInt8) (size : Option Nat) (sizeOffset writeOffset : Nat) :
    Except Failure Depayed :=
  match stapUnits raw sizeOffset with
  | .error e => .error e
  | .ok units =>
    depayWrite size (stapLength units) true
      (match stapUnits raw writeOffset with
        | .error e => .error e
        | .ok units => stapWrite raw units)

/-- `depayH264FromRtpPayload`, with the space of the output buffer if there is one. -/
def depayH264FromRtpPayload (raw : List UInt8) (size : Option Nat) : Except Failure Depayed :=
  match raw with
  | [] => .ok ⟨0, false, []⟩
  | indicator :: rest =>
    match (indicator &&& 31).toNat with
    | 28 =>
      match rest with
      | [] => .error .outOfBounds
      | header :: data =>
        if header &&& 0x80 ≠ 0 then
          depayWrite size ((data.length + 1 + start4ByteCode.length) % 2 ^ 32) true
            (.ok (start4ByteCode ++ ((indicator &&& 0x60) ||| (header &&& 0x1F)) :: data))
        else depayWrite size data.length false (.ok data)
    | 29 =>
      -- `FU-B`: the length is that of a `FU-A` packet, and no packet counts as a starting one
      depayWrite size rest.length false (copyFrom raw fuBHeaderSize rest.length)
    | 24 => depayStap raw size stapAHeaderSize stapAHeaderSize
    | 25 => depayStap raw size stapBHeaderSize stapAHeaderSize
    | _ =>
      depayWrite size ((raw.length + start4ByteCode.length) % 2 ^ 32) true
      (.ok (start4ByteCode ++ raw))

/-- A NAL unit of H.264: the forbidden bit is zero, and the type is that of a single NAL unit. -/
structure IsH264Nalu (nalu : List UInt8) : Prop extends IsNalu nalu where
  forbidden : nalu.headD 0 &&& 0x80 = 0
  type_pos : 1 ≤ (nalu.headD 0 &&& 0x1F).toNat
  type_le : (nalu.headD 0 &&& 0x1F).toNat ≤ 23

/-! ### H.265 payloads -/

def h265FuHeaderSize : Nat := 3

def h265FuTypeId : UInt8 := 49

/-- The fragmentation unit of H.265: a payload header with the layer and temporal ids of the NAL
unit, and a header with its type. -/
def h265Fu : FragmentationUnit where
  headerSize := h265FuHeaderSize
  naluHeaderSize := 2
  header nalu flag :=
    [(h265FuTypeId <<< 1) ||| (nalu.headD 0 &&& 0x81) ||| (nalu.headD 0 &&& 0x1),
      nalu.getD 1 0 &&& 0xFF, (((nalu.headD 0 &&& 0x7E) >>> 1) &&& 0x3F) ||| flag]

def getNextNaluLengthH265 (nalus : List UInt8) : Except Failure (Nat × Nat) :=
  getNextNaluLength nalus

def createPayloadForH265 (mtu : Nat) (nalus : List UInt8) (room : Option Room) :
    Except Failure Filled :=
  createPayloadForWith h265Fu mtu nalus room

/-- `depayH265FromRtpPayload`, with the space of the output buffer if there is one. -/
def depayH265FromRtpPayload (raw : List UInt8) (size : Option Nat) : Except Failure Depayed :=
  match raw with
  | [] => .ok ⟨0, true, []⟩
  | b0 :: rest =>
    if (b0 >>> 1) &&& 0x3F = h265FuTypeId then
      match rest with
      | b1 :: b2 :: data =>
        if b2 &&& 0x80 ≠ 0 then
          depayWrite size ((data.length + 2 + start4ByteCode.length) % 2 ^ 32) true
            (.ok (start4ByteCode ++ (((b2 &&& 0x3F) <<< 1) ||| (b0 &&& 0x81)) :: b1 :: data))
        else depayWrite size data.length false (.ok data)
      | _ => .error .outOfBounds
    else
      depayWrite size ((raw.length + start4ByteCode.length) % 2 ^ 32) true
      (.ok (start4ByteCode ++ raw))

/-- A NAL unit of H.265: two bytes of header with the forbidden bit zero and a type below 48. -/
structure IsH265Nalu (nalu : List UInt8) : Prop extends IsNalu nalu where
  two_le_length : 2 ≤ nalu.length
  forbidden : nalu.headD 0 &&& 0x80 = 0
  type_lt : ((nalu.headD 0 &&& 0x7E) >>> 1).toNat < 48
  second_ne : nalu.getD 1 0 ≠ 0

/-! ### VP8 payloads -/

def vp8PayloadDescriptorSize : Nat := 1

def vp8PayloadDescriptorStartOfPartitionValue : UInt8 := 0x10

/-- Counts one more payload, and writes it if there is a buffer, whose space is not looked at. -/
def Filled.writePayload (f : Filled) (room : Option Room) (payload : List UInt8) :
    Except Failure Filled :=
  let payloadLength := (f.payloadLength + payload.length) % 2 ^ 32
  let payloadSubLenSize := (f.payloadSubLenSize + 1) % 2 ^ 32
  match room with
  | none => .ok { f with payloadLength, payloadSubLenSize }
  | some r =>
    if f.payloadBuffer.length + payload.length ≤ r.maxPayloadLength ∧
        f.payloadSubLength.length + 1 ≤ r.maxPayloadSubLenSize then
      .ok ⟨payloadLength, payloadSubLenSize, f.payloadBuffer ++ payload,
        f.payloadSubLength ++ [payload.length]⟩
    else .error .outOfBounds

/-- At most `fuel` rounds of the loop of `createPayloadForVP8`, `remaining` being the bytes from
`currentData` on; `none` if there are more. -/
def createVP8Loop (mtu : Nat) (room : Option Room) :
    Nat → List UInt8 → Filled → Option (Except Failure Filled)
  | 0, _, _ => none
  | fuel + 1, remaining, f =>
    if remaining = [] then some (.ok f)
    else
      -- the difference is a 32-bit number
      let payloadLenConsumed :=
        min ((mtu + (2 ^ 32 - vp8PayloadDescriptorSize)) % 2 ^ 32) remaining.length
      let descriptor := if f.payloadSubLenSize = 0 then vp8PayloadDescriptorStartOfPartitionValue
        else 0
      match f.writePayload room (descriptor :: remaining.take payloadLenConsumed) with
      | .error e => some (.error e)
      | .ok f' => createVP8Loop mtu room fuel (remaining.drop payloadLenConsumed) f'

def createPayloadForVP8 (fuel mtu : Nat) (data : List UInt8) (room : Option Room) :
    Option (Except Failure Filled) :=
  createVP8Loop mtu room fuel data Filled.empty

/-- The length of the payload descriptor: its first byte, the byte with the control bits `I`, `L`,
`T` and `K` if there is one, a picture id of one byte or two, and a byte each for `L` and for `T`
and `K`. -/
def vp8DescriptorLength : List UInt8 → Except Failure Nat
  | [] => .error .outOfBounds
  | first :: rest =>
    if first &&& 0x80 = 0 then .ok 1
    else
      match rest with
      | [] => .error .outOfBounds
      | control :: rest =>
        let optional := (if control &&& 0x40 = 0 then 0 else 1) +
          (if control &&& 0x20 = 0 ∧ control &&& 0x10 = 0 then 0 else 1)
        if control &&& 0x80 = 0 then .ok (2 + optional)
        else
          match rest with
          | [] => .error .outOfBounds
          | pictureID :: _ => .ok (2 + (if pictureID &&& 0x80 = 0 then 1 else 2) + optional)

/-- `depayVP8FromRtpPayload`, with the space of the output buffer if there is one.  Every packet
counts as a starting one. -/
def depayVP8FromRtpPayload (raw : List UInt8) (size : Option Nat) : Except Failure Depayed :=
  if raw = [] then .ok ⟨0, true, []⟩
  else
    match vp8DescriptorLength raw with
    | .error e => .error e
    | .ok payloadDescriptorLength =>
      let vp8Length := (raw.length + (2 ^ 32 - payloadDescriptorLength)) % 2 ^ 32
      depayWrite size vp8Length true (copyFrom raw payloadDescriptorLength vp8Length)

/-! ### The packetizers -/

/-- The loop of `createPayloadForG711` and the line behind it, which writes a length in any case.
The mtu is not zero, as the loop comes after a division by it. -/
def g711SubLengths (mtu remainingLength : Nat) : List Nat :=
  if mtu < remainingLength ∧ 0 < mtu then mtu :: g711SubLengths mtu (remainingLength - mtu)
  else [remainingLength]
termination_by remainingLength

def createPayloadForG711 (mtu : Nat) (g711Frame : List UInt8) (room : Option Room) :
    Except Failure Filled :=
  let payloadLength := g711Frame.length
  let payloadSubLenSize := g711Frame.length / mtu + if g711Frame.length % mtu = 0 then 0 else 1
  match room with
  | none => .ok ⟨payloadLength, payloadSubLenSize, [], []⟩
  | some r =>
    if payloadLength ≤ r.maxPayloadLength ∧ payloadSubLenSize ≤ r.maxPayloadSubLenSize then
      let written := g711SubLengths mtu g711Frame.length
      if written.length ≤ r.maxPayloadSubLenSize then
        .ok ⟨payloadLength, payloadSubLenSize, g711Frame, written⟩
      else .error .outOfBounds
    else .error (.status .bufferTooSmall)

def createPayloadForOpus (opusFrame : List UInt8) (room : Option Room) : Except Failure Filled :=
  match room with
  | none => .ok ⟨opusFrame.length, 1, [], []⟩
  | some r =>
    if opusFrame.length ≤ r.maxPayloadLength ∧ 1 ≤ r.maxPayloadSubLenSize then
      .ok ⟨opusFrame.length, 1, opusFrame, [opusFrame.length]⟩
    else .error (.status .bufferTooSmall)

/-- `depayOpusFromRtpPayload` and `depayG711FromRtpPayload`, with the space of the output buffer if
there is one: the payload is the frame, and every packet counts as a starting one. -/
def depayWhole (raw : List UInt8) (size : Option Nat) : Except Failure Depayed :=
  if raw = [] then .ok ⟨0, true, []⟩ else depayWrite size raw.length true (.ok raw)

@[inherit_doc depayWhole]
def depayOpusFromRtpPayload (raw : List UInt8) (size : Option Nat) : Except Failure Depayed :=
  depayWhole raw size

@[inherit_doc depayWhole]
def depayG711FromRtpPayload (raw : List UInt8) (size : Option Nat) : Except Failure Depayed :=
  depayWhole raw size

/-- The codecs that `writeFrame` has a packetizer for. -/
inductive RtcCodec
  | h264
  | h265
  | vp8
  | g711
  | opus
deriving DecidableEq

namespace RtcCodec

def headerSize : RtcCodec → Nat
  | h264 => fuAHeaderSize
  | h265 => h265FuHeaderSize
  | vp8 => vp8PayloadDescriptorSize
  | g711 | opus => 0

/-- The `RtpPayloadFunc` of a codec, with a bound on the rounds of the one whose loop need not
end. -/
def rtpPayloadFunc (codec : RtcCodec) (fuel mtu : Nat) (frameData : List UInt8)
    (room : Option Room) :
    Option (Except Failure Filled) :=
  match codec with
  | h264 => some (createPayloadForH264 mtu frameData room)
  | h265 => some (createPayloadForH265 mtu frameData room)
  | vp8 => createPayloadForVP8 fuel mtu frameData room
  | g711 => some (createPayloadForG711 mtu frameData room)
  | opus => some (createPayloadForOpus frameData room)

/-- The depayloader that `addTransceiver` chooses for a codec. -/
def depayFunc : RtcCodec → List UInt8 → Option Nat → Except Failure Depayed
  | h264 => depayH264FromRtpPayload
  | h265 => depayH265FromRtpPayload
  | vp8 => depayVP8FromRtpPayload
  | g711 => depayG711FromRtpPayload
  | opus => depayOpusFromRtpPayload

/-- The clock rate that goes with it: `VIDEO_CLOCKRATE`, `PCM_CLOCKRATE` or `OPUS_CLOCKRATE`. -/
def clockRate : RtcCodec → UInt32
  | h264 | h265 | vp8 => 90000
  | g711 => 8000
  | opus => 48000

/-- `*pPayloadLength` and `*pPayloadSubLenSize` after a call with buffers: the packetizers for NAL
units leave them as they are, and the other ones store what they have counted. -/
def reported (codec : RtcCodec) (room : Room) (f : Filled) : Nat × Nat :=
  match codec with
  | h264 | h265 => (room.maxPayloadLength, room.maxPayloadSubLenSize)
  | vp8 | g711 | opus => (f.payloadLength, f.payloadSubLenSize)

end RtcCodec

/-- A call without buffers and one that is given what the first one reports both fail, or they
report the same numbers, and the second one writes as many bytes and lengths, which add up. -/
def PassesAgree (codec : RtcCodec) (mtu : Nat) (frameData : List UInt8) : Prop :=
  ∃ fuel,
    (∃ s s', codec.rtpPayloadFunc fuel mtu frameData none = some (.error (.status s)) ∧
      codec.rtpPayloadFunc fuel mtu frameData (some ⟨0, 0⟩) = some (.error (.status s'))) ∨
    ∃ sizes f, codec.rtpPayloadFunc fuel mtu frameData none = some (.ok sizes) ∧
      codec.rtpPayloadFunc fuel mtu frameData
        (some ⟨sizes.payloadLength, sizes.payloadSubLenSize⟩) = some (.ok f) ∧
      codec.reported ⟨sizes.payloadLength, sizes.payloadSubLenSize⟩ f =
        (sizes.payloadLength, sizes.payloadSubLenSize) ∧
      f.payloadSubLength.sum = sizes.payloadLength ∧
      f.payloadBuffer.length = sizes.payloadLength ∧
      f.payloadSubLength.length = sizes.payloadSubLenSize

/-! ### The lengths that the depayloaders compute -/

/-- The values of `naluLength` in a loop over an aggregation packet. -/
def stapSums : Nat → List (Nat × Nat) → List Int
  | _, [] => []
  | sum, u :: units =>
    ((sum + (u.2 + start4ByteCode.length) : Nat) : Int) ::
      stapSums (sum + (u.2 + start4ByteCode.length)) units

/-- The lengths of a loop over an aggregation packet; there are none behind a size that is not read
inside. -/
def stapLengths (raw : List UInt8) (offset : Nat) : List Int :=
  match stapUnits raw offset with
  | .error _ => []
  | .ok units => stapSums 0 units

/-- `start4ByteCode` is counted, and left out of the count again before the bytes are copied. -/
def startLengths (naluLength : Int) : List Int :=
  [naluLength, naluLength + start4ByteCode.length,
    naluLength + start4ByteCode.length - start4ByteCode.length]

/-- The lengths in `depayH264FromRtpPayload`. -/
def h264Lengths (raw : List UInt8) : List Int :=
  let packetLength : Int := raw.length
  match (raw.headD 0 &&& 31).toNat with
  | 28 =>
    if raw.getD 1 0 &&& 0x80 ≠ 0 then
      [packetLength - fuAHeaderSize] ++ startLengths (packetLength - fuAHeaderSize + 1) ++
        [packetLength - fuAHeaderSize + 1 - 1]
    else [packetLength - fuAHeaderSize]
  | 29 => [packetLength - fuAHeaderSize, packetLength - fuAHeaderSize + 1]
  | 24 => stapLengths raw stapAHeaderSize ++ stapLengths raw stapAHeaderSize
  | 25 => stapLengths raw stapBHeaderSize ++ stapLengths raw stapAHeaderSize
  | _ => startLengths packetLength

/-- The lengths in `depayH265FromRtpPayload`. -/
def h265Lengths (raw : List UInt8) : List Int :=
  let packetLength : Int := raw.length
  if (raw.headD 0 >>> 1) &&& 0x3F = h265FuTypeId then
    if raw.getD 2 0 &&& 0x80 ≠ 0 then
      [packetLength - h265FuHeaderSize, packetLength - h265FuHeaderSize + 2,
        packetLength - h265FuHeaderSize + 2 + start4ByteCode.length]
    else [packetLength - h265FuHeaderSize]
  else [packetLength, packetLength + start4ByteCode.length]

/-- The lengths in `depayVP8FromRtpPayload`. -/
def vp8Lengths (raw : List UInt8) : List Int :=
  match vp8DescriptorLength raw with
  | .error _ => []
  | .ok payloadDescriptorLength => [(raw.length : Int) - payloadDescriptorLength]

/-- A function that takes the payload of an RTP packet apart. -/
inductive DepayRtpPayloadFunc
  | h264
  | h265
  | vp8
deriving DecidableEq

namespace DepayRtpPayloadFunc

def depay : DepayRtpPayloadFunc → List UInt8 → Option Nat → Except Failure Depayed
  | h264 => depayH264FromRtpPayload
  | h265 => depayH265FromRtpPayload
  | vp8 => depayVP8FromRtpPayload

def lengths : DepayRtpPayloadFunc → List UInt8 → List Int
  | h264 => h264Lengths
  | h265 => h265Lengths
  | vp8 => vp8Lengths

/-- No call reads outside of the payload or writes outside of its buffer, a call with a buffer of
the size that the call without one returns fills it, and no length that they compute wraps. -/
structure Safe (f : DepayRtpPayloadFunc) (raw : List UInt8) : Prop where
  inside : ∀ size, f.depay raw size ≠ .error .outOfBounds
  fills : ∃ sizes filled, f.depay raw none = .ok sizes ∧
    f.depay raw (some sizes.naluLength) = .ok filled ∧ filled.naluData.length = sizes.naluLength
  no_wrap : ∀ v ∈ f.lengths raw, 0 ≤ v ∧ v < 2 ^ 32

end DepayRtpPayloadFunc

end KvsWebrtc.Rtp
