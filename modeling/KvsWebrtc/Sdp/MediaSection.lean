import KvsWebrtc.Sdp.PayloadTypes

/-!
# Media sections

`populateSingleMediaSection` and `populateSessionDescriptionDataChannel` of
`PeerConnection/SessionDescription.c`, which write one section of a local description.

The attributes of a section are appended in the order of the source.  The candidates are the texts
that the ICE agent has for its valid local candidates.
-/

namespace KvsWebrtc.Sdp

open Text

/-- `KvsPeerConnection`, as far as descriptions depend on it.  The transceivers in
`answerTransceivers` are those of the other two lists; what a section shows of them does not
change. -/
structure KvsPeerConnection where
  isOffer : Bool
  remoteSessionDescription : Option SessionDescription
  transceivers : List KvsRtpTransceiver
  fakeTransceivers : List KvsRtpTransceiver
  answerTransceivers : List KvsRtpTransceiver
  sctpIsEnabled : Bool
  codecTable : HashTable
  rtxTable : HashTable
  canTrickleIce : Bool
  twccExtId : Nat
  localIceUfrag : List Char
  localIcePwd : List Char
  localCNAME : List Char
  certificateFingerprint : List Char
  remoteCertificateFingerprint : List Char
  localCandidates : List (List Char)

def maxSdpAttributeValueLength : Nat := 512

def maxSdpMediaNameLength : Nat := 255

def copied (name : String) (value : List Char) : SdpAttribute := ⟨name.toList, value⟩

def printed (name : String) (value : List Char) : SdpAttribute :=
  ⟨name.toList, clip maxSdpAttributeValueLength value⟩

/-- Numbers and texts with blanks between them. -/
def spaced (parts : List (List Char)) : List Char := (parts.intersperse [' ']).flatten

/-- The attributes of one `ssrc`, with a suffix for the names of a retransmission stream. -/
def ssrcAttributes (pc : KvsPeerConnection) (t : KvsRtpTransceiver) (ssrc : Nat) (suffix : String) :
    List SdpAttribute :=
  [printed "ssrc" (spaced [decimal ssrc, "cname:".toList ++ pc.localCNAME]),
    printed "ssrc"
      (spaced [decimal ssrc, "msid:".toList ++ t.streamId, t.trackId ++ suffix.toList]),
    printed "ssrc" (spaced [decimal ssrc, "mslabel:".toList ++ t.streamId ++ suffix.toList]),
    printed "ssrc" (spaced [decimal ssrc, "label:".toList ++ t.trackId ++ suffix.toList])]

def transportAttributes (pc : KvsPeerConnection) (dtlsRole : List Char) : List SdpAttribute :=
  [copied "rtcp" "9 IN IP4 0.0.0.0".toList, copied "ice-ufrag" pc.localIceUfrag,
    copied "ice-pwd" pc.localIcePwd] ++
  (if pc.canTrickleIce then [copied "ice-options" "trickle".toList] else []) ++
  [copied "fingerprint" ("sha-256 ".toList ++ pc.certificateFingerprint),
    copied "setup" dtlsRole]

/-- The section of the remote description with the same number; behind its last section there are
empty ones. -/
def remoteSection (remote : SessionDescription) (mediaSectionId : Nat) : SdpMediaDescription :=
  remote.mediaDescriptions.getD mediaSectionId ⟨[], []⟩

/-- The `mid` of a section. -/
def midOf (m : SdpMediaDescription) : Option (List Char) :=
  (m.sdpAttributes.find? fun a => a.attributeName == "mid".toList).map (·.attributeValue)

/-- The `mid` of an answer or an offer. -/
def localMid (isOffer : Bool) (remote : SessionDescription) (mediaSectionId : Nat) :
    Except Failure SdpAttribute :=
  let remoteValue := if isOffer then [] else (midOf (remoteSection remote mediaSectionId)).getD []
  if remoteValue = [] then .ok (printed "mid" (decimal mediaSectionId))
  else if remoteValue.length < maxSdpAttributeValueLength then .ok (printed "mid" remoteValue)
  else .error (.status .bufferTooSmall)

def TransceiverDirection.value : TransceiverDirection → List Char
  | .sendrecv => "sendrecv".toList
  | .sendonly => "sendonly".toList
  | .recvonly => "recvonly".toList
  | .inactive => "inactive".toList

/-- The direction that answers an attribute, if it is one of those that are looked for. -/
def answeredDirection? (a : SdpAttribute) : Option (List Char) :=
  if a.attributeName = "sendrecv".toList then some "sendrecv".toList
  else if a.attributeName = "recvonly".toList then some "sendonly".toList
  else if a.attributeName = "sendonly".toList then some "recvonly".toList
  else none

/-- The direction of an answer or an offer; the name stays empty if the remote section has none of
those that are looked for. -/
def localDirection (isOffer : Bool) (t : KvsRtpTransceiver) (remote : SessionDescription)
    (mediaSectionId : Nat) : SdpAttribute :=
  if isOffer then ⟨t.direction.value, []⟩
  else if t.direction = .inactive then ⟨"inactive".toList, []⟩
  else ⟨((remoteSection remote mediaSectionId).sdpAttributes.findSome? answeredDirection?).getD [],
    []⟩

/-- The payload types and texts that `findTransceiversByRemoteDescription` has kept for the sections
without a transceiver, by their keys. -/
abbrev UnknownCodecs := List (Nat × Option (List Char))

/-- The numbers of a section: the payload type, that of retransmissions if there is one, and the
format of the offer. -/
structure SectionNumbers where
  payloadType : Nat
  rtxPayloadType : Option Nat
  fmtp : Option (List Char)
deriving DecidableEq

/-- The first part of `populateSingleMediaSection`.  For H265 the payload type is replaced. -/
def sectionNumbers (pc : KvsPeerConnection) (t : KvsRtpTransceiver) (remote : SessionDescription)
    (unknown : Option UnknownCodecs) (unknownKey : Nat) : Except Failure SectionNumbers :=
  let found : Except Failure (Nat × Option (List Char)) :=
    match t.codec, unknown with
    | .unknown, some codecs =>
      match codecs[unknownKey]? with
      | none => .error (.status .hashKeyNotPresent)
      | some c => .ok (c.1, none)
    | codec, _ =>
      match pc.codecTable.get codec.key with
      | .error e => .error e
      | .ok n => .ok (n, if pc.isOffer then none else fmtpForPayloadType n remote)
  match found with
  | .error e => .error e
  | .ok (payloadType, fmtp) =>
    if t.kind = .video then
      .ok
        { payloadType := if t.codec = .h265 then defaultPayloadH265 else payloadType
          rtxPayloadType := t.codec.rtxKey?.bind pc.rtxTable
          fmtp := fmtp }
    else .ok ⟨payloadType, none, fmtp⟩

def sectionMediaName (t : KvsRtpTransceiver) (n : SectionNumbers) : List Char :=
  clip maxSdpMediaNameLength
    (spaced ([t.kind.value, "9".toList, "UDP/TLS/RTP/SAVPF".toList, decimal64 n.payloadType] ++
      n.rtxPayloadType.toList.map decimal64))

/-- `DEFAULT_H264_FMTP`, `DEFAULT_OPUS_FMTP` and `DEFAULT_H265_FMTP`. -/
def RtcCodec.defaultFmtp? : RtcCodec → Option (List Char)
  | .h264 => some "level-asymmetry-allowed=1;packetization-mode=1;profile-level-id=42e01f".toList
  | .opus => some "minptime=10;useinbandfec=1".toList
  | .h265 => some "level-id=93;profile-id=1".toList
  | _ => none

def fmtpAttributes (isOffer : Bool) (codec : RtcCodec) (n : SectionNumbers) : List SdpAttribute :=
  match if isOffer then codec.defaultFmtp? else n.fmtp with
  | none => []
  | some fmtp => [printed "fmtp" (spaced [decimal64 n.payloadType, fmtp])]

def rtxAttributes (n : SectionNumbers) : List SdpAttribute :=
  match n.rtxPayloadType with
  | none => []
  | some rtx =>
    [printed "rtpmap" (spaced [decimal64 rtx, "rtx/90000".toList]),
      printed "fmtp" (spaced [decimal64 rtx, "apt=".toList ++ decimal64 n.payloadType])]

def codecAttributes (isOffer : Bool) (codec : RtcCodec) (n : SectionNumbers)
    (unknown : Option UnknownCodecs) (unknownKey : Nat) : Except Failure (List SdpAttribute) :=
  let rtpmap (name : List Char) := printed "rtpmap" (spaced [decimal64 n.payloadType, name])
  let feedback :=
    [printed "rtcp-fb" (spaced [decimal64 n.payloadType, "nack".toList]),
      printed "rtcp-fb" (spaced [decimal64 n.payloadType, "nack".toList, "pli".toList])]
  match codec with
  | .h264 | .h265 =>
    .ok ([rtpmap codec.value] ++ feedback ++ fmtpAttributes isOffer codec n ++ rtxAttributes n)
  | .opus => .ok ([rtpmap "opus/48000/2".toList] ++ fmtpAttributes isOffer codec n)
  | .vp8 => .ok ([rtpmap codec.value] ++ rtxAttributes n)
  | .mulaw | .alaw => .ok [rtpmap codec.value]
  | .unknown =>
    match unknown with
    | none => .error (.status .nullArg)
    | some codecs =>
      match codecs[unknownKey]? with
      | none => .error (.status .hashKeyNotPresent)
      -- a text that was not found is printed as a null pointer
      | some c => .ok [rtpmap (c.2.getD "(null)".toList)]

def streamAttributes (pc : KvsPeerConnection) (t : KvsRtpTransceiver) (containRtx : Bool) :
    List SdpAttribute :=
  pc.localCandidates.map (copied "candidate") ++
  (if containRtx then
    [printed "msid" (spaced [t.streamId, t.trackId ++ "RTX".toList]),
      printed "ssrc-group" (spaced ["FID".toList, decimal t.ssrc, decimal t.rtxSsrc])]
  else [printed "msid" (spaced [t.streamId, t.trackId])]) ++
  ssrcAttributes pc t t.ssrc "" ++
  if containRtx then ssrcAttributes pc t t.rtxSsrc "RTX" else []

def closingAttributes (pc : KvsPeerConnection) (t : KvsRtpTransceiver) (n : SectionNumbers) :
    List SdpAttribute :=
  (ssrcAttributes pc t t.ssrc "").take 2 ++
  [printed "rtcp-fb" (spaced [decimal64 n.payloadType, "goog-remb".toList])] ++
  if pc.twccExtId = 0 then []
  else [printed "rtcp-fb" (spaced [decimal64 n.payloadType, "transport-cc".toList])]

/-- The section that is made of its numbers, its `mid` and the lines about its codec. -/
def sectionWith (pc : KvsPeerConnection) (t : KvsRtpTransceiver) (remote : SessionDescription)
    (mediaSectionId : Nat) (dtlsRole : List Char) (n : SectionNumbers) (mid : SdpAttribute)
    (codec : List SdpAttribute) : SdpMediaDescription :=
  { mediaName := sectionMediaName t n
    sdpAttributes :=
      streamAttributes pc t n.rtxPayloadType.isSome ++ transportAttributes pc dtlsRole ++
      [mid, localDirection pc.isOffer t remote mediaSectionId, copied "rtcp-mux" []] ++
      (if mediaSectionId = 0 then [] else [copied "rtcp-rsize" []]) ++ codec ++
      closingAttributes pc t n }

def populateSingleMediaSection (pc : KvsPeerConnection) (t : KvsRtpTransceiver)
    (remote : Option SessionDescription) (mediaSectionId : Nat) (dtlsRole : List Char)
    (unknown : Option UnknownCodecs) (unknownKey : Nat) : Except Failure SdpMediaDescription :=
  if pc.isOffer = false ∧ remote = none then .error (.status .nullArg)
  else
    let remote := remote.getD ⟨[], []⟩
    match sectionNumbers pc t remote unknown unknownKey with
    | .error e => .error e
    | .ok n =>
      match localMid pc.isOffer remote mediaSectionId with
      | .error e => .error e
      | .ok mid =>
        match codecAttributes pc.isOffer t.codec n unknown unknownKey with
        | .error e => .error e
        | .ok codec => .ok (sectionWith pc t remote mediaSectionId dtlsRole n mid codec)

def populateSessionDescriptionDataChannel (pc : KvsPeerConnection) (mediaSectionId : Nat)
    (dtlsRole : List Char) : SdpMediaDescription :=
  { mediaName := "application 9 UDP/DTLS/SCTP webrtc-datachannel".toList
    sdpAttributes :=
      pc.localCandidates.map (copied "candidate") ++ transportAttributes pc dtlsRole ++
      [printed "mid" (decimal mediaSectionId), printed "sctp-port" "5000".toList] }

end KvsWebrtc.Sdp
