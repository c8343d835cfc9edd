import KvsWebrtc.Common.Status
import KvsWebrtc.Common.Text

/-!
# Payload types

The part of `PeerConnection/SessionDescription.c` that reads the payload types of an offer:
`setPayloadTypesFromOffer`, `setTransceiverPayloadTypes` and what they call.

Session descriptions are those of `Sdp/Sdp.h`, with the fields that the functions read.  A hash
table is the function from keys to values.  Parsing of decimal numbers, `STRTOUI64` and `STRTOUI32`,
belongs to the platform library and is a parameter.
-/

namespace KvsWebrtc.Sdp

open Text

/-! ### Session descriptions -/

/-- `SdpAttributes`. -/
structure SdpAttribute where
  attributeName : List Char
  attributeValue : List Char
deriving DecidableEq

/-- `SdpMediaDescription`: a media section. -/
structure SdpMediaDescription where
  mediaName : List Char
  sdpAttributes : List SdpAttribute
deriving DecidableEq

structure SessionDescription where
  sdpAttributes : List SdpAttribute
  mediaDescriptions : List SdpMediaDescription
deriving DecidableEq

/-! ### Codecs and tables -/

inductive RtcCodec
  | h264
  | opus
  | vp8
  | mulaw
  | alaw
  | unknown
  | h265
deriving DecidableEq

/-- The value of an `RTC_CODEC`, which is its key in the tables. -/
def RtcCodec.key : RtcCodec → Nat
  | .h264 => 1
  | .opus => 2
  | .vp8 => 3
  | .mulaw => 4
  | .alaw => 5
  | .unknown => 6
  | .h265 => 7

/-- The value of an `RTX_CODEC`, for the codecs that have one. -/
def RtcCodec.rtxKey? : RtcCodec → Option Nat
  | .h264 => some 1
  | .vp8 => some 2
  | .h265 => some 3
  | _ => none

abbrev HashTable := Nat → Option Nat

/-- `hashTableUpsert`. -/
def HashTable.upsert (t : HashTable) (key value : Nat) : HashTable :=
  fun k => if k = key then some value else t k

/-- `hashTableGet`. -/
def HashTable.get (t : HashTable) (key : Nat) : Except Failure Nat :=
  match t key with
  | none => .error (.status .hashKeyNotPresent)
  | some v => .ok v

def defaultPayloadMulaw : Nat := 0

def defaultPayloadAlaw : Nat := 8

def defaultPayloadH265 : Nat := 127

/-- `H264_VALUE`, `OPUS_VALUE` and so on: how a codec is named. -/
def RtcCodec.value : RtcCodec → List Char
  | .h264 => "H264/90000".toList
  | .opus => "opus/48000".toList
  | .vp8 => "VP8/90000".toList
  | .mulaw => "PCMU/8000".toList
  | .alaw => "PCMA/8000".toList
  | .h265 => "H265/90000".toList
  | .unknown => []

/-- The functions of the platform library that parse numbers. -/
structure Platform where
  strtoui64 : List Char → Except Failure Nat
  strtoui32 : List Char → Except Failure Nat

/-! ### Formats -/

/-- `fmtpForPayloadType`: the first format that starts with the digits of the payload type. -/
def fmtpForPayloadType (payloadType : Nat) (offer : SessionDescription) : Option (List Char) :=
  let payloadStr := decimal64 payloadType
  ((offer.mediaDescriptions.flatMap (·.sdpAttributes)).find? fun a =>
    a.attributeName == "fmtp".toList && sameUpTo payloadStr.length a.attributeValue payloadStr).map
      fun a => a.attributeValue.drop (payloadStr.length + 1)

def readHexValue (input start : List Char) : Option Nat :=
  match strstr start input with
  | none => none
  | some p => scanHex (p.2.drop start.length)

def h264Profile42e01f : Nat := 0x42e01f

def getH264FmtpScore : Option (List Char) → Nat
  | none => 0
  | some fmtp =>
    (if readHexValue fmtp "packetization-mode=".toList = some 1 then 1 else 0) +
    (match readHexValue fmtp "profile-level-id=".toList with
      | none => 0
      | some profileId =>
        if profileId % 2 ^ 24 / 2 ^ 8 = h264Profile42e01f % 2 ^ 24 / 2 ^ 8 ∧
          profileId % 2 ^ 8 ≤ h264Profile42e01f % 2 ^ 8 then 1 else 0) +
    if readHexValue fmtp "level-asymmetry-allowed=".toList = some 1 then 1 else 0

/-! ### Payload types from an offer -/

/-- The variables of `setPayloadTypesFromOffer` in a media section. -/
structure OfferScan where
  codecTable : HashTable
  bestFmtpScore : Nat
  aptFmtpVals : List Nat

def maxSdpFmtpValues : Nat := 64

/-- A token of the media name that is a static payload type.  An empty token is one, too. -/
def OfferScan.staticToken (s : OfferScan) (token : List Char) : OfferScan :=
  if sameUpTo token.length "0".toList token then
    { s with codecTable := s.codecTable.upsert RtcCodec.mulaw.key defaultPayloadMulaw }
  else if sameUpTo token.length "8".toList token then
    { s with codecTable := s.codecTable.upsert RtcCodec.alaw.key defaultPayloadAlaw }
  else s

section

variable (pic : Platform)

/-- The number before the name of a codec, without the character between them. -/
def numberBefore (before : List Char) : Except Failure Nat :=
  if before = [] then .error (.status .invalidArg) else pic.strtoui64 before.dropLast

/-- What an attribute says about a codec that is in the table.  For H264, only a format that is at
least as good as those before in the section counts. -/
def OfferScan.codecAttribute (offer : SessionDescription) (attributeValue : List Char)
    (s : OfferScan) (codec : RtcCodec) : Except Failure OfferScan :=
  if (s.codecTable codec.key).isSome then
    match strstr codec.value attributeValue with
    | none => .ok s
    | some p =>
      match numberBefore pic p.1 with
      | .error e => .error e
      | .ok payloadType =>
        if codec = .h264 then
          let fmtpScore := getH264FmtpScore (fmtpForPayloadType payloadType offer)
          if s.bestFmtpScore ≤ fmtpScore then
            .ok { s with
              codecTable := s.codecTable.upsert codec.key payloadType
              bestFmtpScore := fmtpScore }
          else .ok s
        else .ok { s with codecTable := s.codecTable.upsert codec.key payloadType }
  else .ok s

/-- The retransmission format of an attribute: its number and the one it belongs to, in 16 bits.
The two are combined with `&`. -/
def OfferScan.rtxAttribute (attributeValue : List Char) (s : OfferScan) :
    Except Failure OfferScan :=
  match strstr "apt=".toList attributeValue with
  | none => .ok s
  | some p =>
    match pic.strtoui64 (p.2.drop 4) with
    | .error e => .error e
    | .ok apt =>
      match strstr "fmtp:".toList attributeValue with
      | none => .ok s
      | some q =>
        match pic.strtoui64 (q.2.drop 5) with
        | .error e => .error e
        | .ok fmtpVal =>
          if s.aptFmtpVals.length < maxSdpFmtpValues then
            .ok { s with
              aptFmtpVals := s.aptFmtpVals ++ [((fmtpVal <<< 8) % 2 ^ 64 &&& apt) % 2 ^ 16] }
          else .error .outOfBounds

def offeredCodecs : List RtcCodec := [.h265, .h264, .opus, .vp8, .mulaw, .alaw]

def OfferScan.readAttribute (offer : SessionDescription) (s : OfferScan) (a : SdpAttribute) :
    Except Failure OfferScan :=
  match offeredCodecs.foldlM (OfferScan.codecAttribute pic offer a.attributeValue) s with
  | .error e => .error e
  | .ok s => s.rtxAttribute pic a.attributeValue

/-- A retransmission format that belongs to the payload type of a codec. -/
def rtxUpdate (codecTable : HashTable) (rtxTable : HashTable) (aptFmtVal : Nat) (codec : RtcCodec) :
    HashTable :=
  match codec.rtxKey? with
  | none => rtxTable
  | some key =>
    if codecTable codec.key = some (aptFmtVal % 2 ^ 8) then rtxTable.upsert key (aptFmtVal / 2 ^ 8)
    else rtxTable

/-- The loop over the retransmission formats of a section. -/
def rtxUpdates (codecTable : HashTable) (rtxTable : HashTable) (aptFmtpVals : List Nat) :
    HashTable :=
  aptFmtpVals.foldl (fun t v => [RtcCodec.h265, .h264, .vp8].foldl (rtxUpdate codecTable · v ·) t)
    rtxTable

def sectionPayloadTypes (offer : SessionDescription) (tables : HashTable × HashTable)
    (m : SdpMediaDescription) : Except Failure (HashTable × HashTable) :=
  let s := (tokens m.mediaName).foldl OfferScan.staticToken ⟨tables.1, 0, []⟩
  match m.sdpAttributes.foldlM (OfferScan.readAttribute pic offer) s with
  | .error e => .error e
  | .ok s => .ok (s.codecTable, rtxUpdates s.codecTable tables.2 s.aptFmtpVals)

/-- `setPayloadTypesFromOffer`: the tables of codecs and of retransmission formats. -/
def setPayloadTypesFromOffer (codecTable rtxTable : HashTable) (offer : SessionDescription) :
    Except Failure (HashTable × HashTable) :=
  offer.mediaDescriptions.foldlM (sectionPayloadTypes pic offer) (codecTable, rtxTable)

end

/-! ### Transceivers -/

/-- `MEDIA_STREAM_TRACK_KIND`. -/
inductive TrackKind
  | audio
  | video
deriving DecidableEq

/-- `MEDIA_SECTION_AUDIO_VALUE` and `MEDIA_SECTION_VIDEO_VALUE`. -/
def TrackKind.value : TrackKind → List Char
  | .audio => "audio".toList
  | .video => "video".toList

/-- `RTC_RTP_TRANSCEIVER_DIRECTION`. -/
inductive TransceiverDirection
  | sendrecv
  | sendonly
  | recvonly
  | inactive
deriving DecidableEq

/-- `KvsRtpTransceiver`; `address` is where it stands in memory. -/
structure KvsRtpTransceiver where
  address : Nat
  kind : TrackKind
  codec : RtcCodec
  streamId : List Char
  trackId : List Char
  direction : TransceiverDirection
  ssrc : Nat
  rtxSsrc : Nat
  payloadType : UInt8
  rtxPayloadType : UInt8
deriving DecidableEq

def KvsRtpTransceiver.sends (t : KvsRtpTransceiver) : Bool :=
  t.direction == .sendrecv || t.direction == .sendonly

/-- The payload types of one transceiver.  The table of retransmission formats is asked for the
`RTC_CODEC`, not for the `RTX_CODEC`. -/
def KvsRtpTransceiver.setPayloadTypes (codecTable rtxTable : HashTable) (t : KvsRtpTransceiver) :
    Except Failure KvsRtpTransceiver :=
  if t.sends then
    match codecTable.get t.codec.key with
    | .error e => .error e
    | .ok data =>
      .ok { t with
        payloadType := UInt8.ofNat data
        rtxPayloadType := UInt8.ofNat ((rtxTable t.codec.key).getD data) }
  else .ok t

/-- `setTransceiverPayloadTypes`.  The rolling buffers that it creates are left out. -/
def setTransceiverPayloadTypes (codecTable rtxTable : HashTable) :
    List KvsRtpTransceiver → Except Failure (List KvsRtpTransceiver)
  | [] => .ok []
  | t :: ts =>
    match t.setPayloadTypes codecTable rtxTable with
    | .error e => .error e
    | .ok t' =>
      match setTransceiverPayloadTypes codecTable rtxTable ts with
      | .error e => .error e
      | .ok ts' => .ok (t' :: ts')

end KvsWebrtc.Sdp
