import KvsWebrtc.Common.BigEndian
import KvsWebrtc.Common.Status

/-!
# SCTP sessions

`sctpSessionWriteDcep` and `sctpSessionWriteMessage` of `Sctp/Sctp.c`.  Both fill the send
parameters of the session and hand them to `usrsctp_sendv`; the first one also fills the session's
packet with a `DATA_CHANNEL_OPEN` message, and the second one reads the settings of the channel from
there.  The peer takes such a message with `handleDcepPacket`, and makes a channel of what that
reports with `onSctpSessionDataChannelOpen` of `PeerConnection/PeerConnection.c`.

A part of the send parameters counts only if its flag is set.
-/

namespace KvsWebrtc.Sctp

/-- `RtcDataChannelInit`, as far as a channel is opened with it. -/
structure DataChannelInit where
  ordered : Bool
  maxPacketLifeTime : Option UInt16
  maxRetransmits : Option UInt16

def maxDataChannelNameLen : Nat := 255

/-- The name of a channel. -/
structure ChannelName where
  bytes : List UInt8
  length_le : bytes.length ≤ maxDataChannelNameLen

/-- `pr_policy`; zero is no policy. -/
inductive PrPolicy
  | none
  | ttl
  | rtx
deriving DecidableEq

/-- `struct sctp_sendv_spa`: the flags for its two parts, the send information and the information
on partial reliability. -/
structure Spa where
  sndinfoValid : Bool
  prinfoValid : Bool
  sid : UInt16
  unordered : Bool
  ppid : UInt32
  prPolicy : PrPolicy
  prValue : UInt32

namespace Spa

def cleared : Spa where
  sndinfoValid := false
  prinfoValid := false
  sid := 0
  unordered := false
  ppid := 0
  prPolicy := .none
  prValue := 0

def reliability (spa : Spa) : Option (PrPolicy × UInt32) :=
  if spa.prinfoValid ∧ spa.prPolicy ≠ .none then some (spa.prPolicy, spa.prValue) else none

def sentUnordered (spa : Spa) : Bool := spa.sndinfoValid && spa.unordered

end Spa

structure SctpSession where
  spa : Spa
  packet : List UInt8

/-- `SCTP_MAX_ALLOWABLE_PACKET_LENGTH`. -/
def maxAllowablePacketLength : Nat := 524

/-- A session after `createSctpSession`. -/
def createSctpSession : SctpSession where
  spa := .cleared
  packet := List.replicate maxAllowablePacketLength 0

/-- `DCEP_DATA_CHANNEL_RELIABLE_UNORDERED`. -/
def reliableUnordered : UInt8 := 0x80

/-- `DCEP_DATA_CHANNEL_REXMIT`. -/
def rexmit : UInt8 := 0x01

/-- `DCEP_DATA_CHANNEL_TIMED`. -/
def timed : UInt8 := 0x02

/-- `putUnalignedInt32BigEndian`. -/
def int32Bytes (v : UInt32) : List UInt8 := beBytes 4 v.toNat

/-- `getUnalignedInt32BigEndian`. -/
def int32At (b : List UInt8) (i : Nat) : UInt32 := UInt32.ofNat (beNat ((b.drop i).take 4))

namespace DataChannelInit

def channelType (init : DataChannelInit) : UInt8 :=
  let order := if init.ordered then 0 else reliableUnordered
  match init.maxRetransmits, init.maxPacketLifeTime with
  | some _, _ => order ||| rexmit
  | none, some _ => order ||| timed
  | none, none => order

def reliabilityParameter (init : DataChannelInit) : UInt32 :=
  match init.maxRetransmits, init.maxPacketLifeTime with
  | some n, _ => n.toUInt32
  | none, some t => t.toUInt32
  | none, none => 0

end DataChannelInit

/-- The `DATA_CHANNEL_OPEN` message in the session's packet. -/
def dataChannelOpen (name : ChannelName) (init : DataChannelInit) : List UInt8 :=
  [0x03, init.channelType, 0, 0] ++ int32Bytes init.reliabilityParameter ++
    [UInt8.ofNat (name.bytes.length / 256), UInt8.ofNat name.bytes.length, 0, 0] ++ name.bytes ++
    List.replicate (maxAllowablePacketLength - 12 - name.bytes.length) 0

/-- `SCTP_PPID_DCEP`. -/
def ppidDcep : UInt32 := 50

/-- `SCTP_PPID_STRING`. -/
def ppidString : UInt32 := 51

/-- `SCTP_PPID_BINARY`. -/
def ppidBinary : UInt32 := 53

/-- `sctpSessionWriteDcep`: the session with the parameters and the packet it hands to
`usrsctp_sendv`. -/
def sctpSessionWriteDcep (_session : SctpSession) (streamId : UInt32) (name : ChannelName)
    (init : DataChannelInit) : SctpSession where
  spa := { Spa.cleared with sndinfoValid := true, sid := streamId.toUInt16, ppid := ppidDcep }
  packet := dataChannelOpen name init

/-- `sctpSessionWriteMessage`: the session with the parameters it hands to `usrsctp_sendv`. -/
def sctpSessionWriteMessage (session : SctpSession) (streamId : UInt32) (isBinary : Bool) :
    SctpSession :=
  let channelType := session.packet.getD 1 0
  let spa := { Spa.cleared with
    sndinfoValid := true
    sid := streamId.toUInt16
    ppid := if isBinary then ppidBinary else ppidString }
  let spa := if channelType &&& reliableUnordered ≠ 0 then { spa with unordered := true } else spa
  let spa :=
    if channelType &&& rexmit ≠ 0 then
      { spa with prPolicy := .rtx, prValue := int32At session.packet 4 }
    else spa
  let spa :=
    if channelType &&& timed ≠ 0 then
      { spa with prPolicy := .ttl, prValue := int32At session.packet 4 }
    else spa
  { session with spa := spa }

/-! ### Receiving -/

/-- `SCTP_DCEP_HEADER_LENGTH`. -/
def dcepHeaderLength : Nat := 12

def dcepDataChannelOpen : UInt8 := 0x03

/-- The message that `sctpSessionWriteDcep` hands to `usrsctp_sendv`: `packetSize` bytes of the
packet. -/
def dcepMessage (session : SctpSession) (streamId : UInt32) (name : ChannelName)
    (init : DataChannelInit) :
    List UInt8 :=
  (sctpSessionWriteDcep session streamId name init).packet.take
  (dcepHeaderLength + name.bytes.length)

def int16At (b : List UInt8) (i : Nat) : Nat := beNat ((b.drop i).take 2)

/-- What `dataChannelOpenFunc` is called with: a place in the received bytes, and a length. -/
structure ReportedLabel where
  offset : Nat
  length : Nat
deriving DecidableEq

/-- `handleDcepPacket`, with the label that it reports. -/
def handleDcepPacket (data : List UInt8) : Status × Option ReportedLabel :=
  if ¬ (dcepHeaderLength < data.length ∧ data.head? = some dcepDataChannelOpen) then
    (.success, none)
  -- the lengths of the label and of the protocol
  else if int16At data 8 + int16At data 10 + dcepHeaderLength < data.length then
    (.sctpInvalidDcepPacket, none)
  else if maxAllowablePacketLength < data.length then (.sctpInvalidDcepPacket, none)
  else (.success, some { offset := dcepHeaderLength, length := int16At data 8 })

/-- `STRNCPY` of at most `n` bytes, which are filled up with zeros. -/
def strncpy (dst src : List UInt8) (n : Nat) : Except Failure (List UInt8) :=
  let copied := (src.takeWhile (· ≠ 0)).take n
  if dst.length < n then .error .outOfBounds
  -- there is neither a zero nor enough bytes
  else if copied.length = src.length ∧ src.length < n then .error .outOfBounds
  else .ok (copied ++ List.replicate (n - copied.length) 0 ++ dst.drop n)

/-- The fields of `KvsDataChannel` that are set for a channel of the peer. -/
structure KvsDataChannel where
  name : List UInt8
  channelId : UInt32
  label : List UInt8
deriving DecidableEq

/-- `onSctpSessionDataChannelOpen`: the buffers of the name and of the label have room for a
terminating zero, and are zero before. -/
def onSctpSessionDataChannelOpen (data : List UInt8) (channelId : UInt32) (pName : ReportedLabel) :
    Except Failure KvsDataChannel := do
  let buffer := List.replicate (maxDataChannelNameLen + 1) (0 : UInt8)
  let name ← strncpy buffer (data.drop pName.offset) pName.length
  let label ← strncpy buffer (data.drop pName.offset) pName.length
  return { name := name, channelId := channelId, label := label }

end KvsWebrtc.Sctp
