import KvsWebrtc.Sdp.MediaSection

/-!
# Answers

`setRemoteDescription` and `createAnswer` of `PeerConnection/PeerConnection.c`, with
`findTransceiversByRemoteDescription` and `populateSessionDescription` of
`PeerConnection/SessionDescription.c`.

An offer is the session description that the parser has made of it.  What the ICE agent and the DTLS
session do is left out, and so is the text that is made of the answer; `fits` says that it is not
too long.  The random numbers of the placeholders are the function `rand`.
-/

namespace KvsWebrtc.Sdp

open Text

/-! ### Finding the transceivers -/

/-- The variables of `findTransceiversByRemoteDescription`, with the lists of the connection that it
appends to.  `codecs` and `rtpMapValue` keep their values from section to section. -/
structure Finder where
  answerTransceivers : List KvsRtpTransceiver
  fakeTransceivers : List KvsRtpTransceiver
  seenTransceivers : List Nat
  codecs : Option (List Char)
  rtpMapValue : Option (List Char)
  unknownCodecs : UnknownCodecs
deriving DecidableEq

/-- `findCodecInTransceivers`: the first transceiver with the codec that was not used yet. -/
def Finder.findCodecInTransceivers (transceivers : List KvsRtpTransceiver) (f : Finder)
    (codec : RtcCodec) : Finder × Bool :=
  match transceivers.find? fun t => t.codec == codec && !f.seenTransceivers.contains t.address with
  | none => (f, false)
  | some t =>
    ({ f with
      answerTransceivers := f.answerTransceivers ++ [t]
      seenTransceivers := f.seenTransceivers ++ [t.address] }, true)

/-- The codec that a token of the media name stands for, by its static payload type. -/
def staticCodec? (token : List Char) : Option RtcCodec :=
  if sameUpTo token.length "0".toList token then some .mulaw
  else if sameUpTo token.length "8".toList token then some .alaw
  else none

/-- The loop over the tokens of the media name from the fourth one on. -/
def Finder.searchTokens (transceivers : List KvsRtpTransceiver) :
    List (List Char) → Finder → Finder × Bool
  | [], f => (f, false)
  | token :: rest, f =>
    match staticCodec? token with
    | none => searchTokens transceivers rest f
    | some codec =>
      match f.findCodecInTransceivers transceivers codec with
      | (f, true) => (f, true)
      | (f, false) => searchTokens transceivers rest f

/-- The codec that an `rtpmap` names. -/
def namedCodec? (attributeValue : List Char) : Option RtcCodec :=
  if (strstr RtcCodec.h264.value attributeValue).isSome then some .h264
  else if hasIgnoringCase RtcCodec.opus.value attributeValue then some .opus
  else if (strstr RtcCodec.mulaw.value attributeValue).isSome then some .mulaw
  else if (strstr RtcCodec.alaw.value attributeValue).isSome then some .alaw
  else if (strstr RtcCodec.vp8.value attributeValue).isSome then some .vp8
  else if (strstr RtcCodec.h265.value attributeValue).isSome then some .h265
  else none

/-- The name of the attribute is `rtpmap`, as far as it is compared. -/
def isRtpmap (a : SdpAttribute) : Bool := sameUpTo 6 "rtpmap".toList a.attributeName

/-- The text for a placeholder: what an `rtpmap` says about the first payload type of the
section. -/
def Finder.keepRtpMapValue (firstCodec : List Char) (f : Finder) (a : SdpAttribute) : Finder :=
  match afterBlank a.attributeValue with
  | none => f
  | some text =>
    if sameUpTo firstCodec.length a.attributeValue firstCodec then
      { f with rtpMapValue := some text }
    else f

def Finder.searchAttributes (transceivers : List KvsRtpTransceiver) (firstCodec : List Char) :
    List SdpAttribute → Finder → Finder × Bool
  | [], f => (f, false)
  | a :: rest, f =>
    if isRtpmap a then
      match (namedCodec? a.attributeValue).elim (f, false)
          (f.findCodecInTransceivers transceivers) with
      | (f, true) => (f, true)
      | (f, false) => searchAttributes transceivers firstCodec rest (f.keepRtpMapValue firstCodec a)
    else searchAttributes transceivers firstCodec rest f

def maxPayloadTypeLength : Nat := 10

section

variable (pic : Platform) (rand : Nat → Nat)

def Finder.fakeTransceiver (f : Finder) (kind : TrackKind) : KvsRtpTransceiver :=
  { address := 0
    kind := kind
    codec := .unknown
    streamId := "fakeStream".toList
    trackId := "fakeTrack".toList
    direction := .inactive
    ssrc := rand (2 * f.fakeTransceivers.length)
    rtxSsrc := rand (2 * f.fakeTransceivers.length + 1)
    payloadType := 0
    rtxPayloadType := 0 }

/-- The payload type and the text of a placeholder go into the tables, unless these have a key that
is equal to one of the two values. -/
def Finder.keepUnknown (f : Finder) (codec : Nat) : Finder :=
  if codec < f.unknownCodecs.length ∨ (f.rtpMapValue = none ∧ f.unknownCodecs ≠ []) then f
  else { f with unknownCodecs := f.unknownCodecs ++ [(codec, f.rtpMapValue)] }

def Finder.addFake (f : Finder) (kind : TrackKind) (firstCodec : List Char) :
    Except Failure Unit × Finder :=
  let t := f.fakeTransceiver rand kind
  let f :=
    { f with
      answerTransceivers := f.answerTransceivers ++ [t]
      fakeTransceivers := f.fakeTransceivers ++ [t] }
  match pic.strtoui32 firstCodec with
  | .error e => (.error e, f)
  | .ok codec => (.ok (), f.keepUnknown codec)

/-- The kind of a section, as far as the first token is compared. -/
def streamKind? (mediaName : List Char) : Option TrackKind :=
  let token := firstToken mediaName
  if sameUpTo token.length TrackKind.audio.value token then some .audio
  else if sameUpTo token.length TrackKind.video.value token then some .video
  else none

def Finder.mediaSection (transceivers : List KvsRtpTransceiver) (f : Finder)
    (m : SdpMediaDescription) :
    Except Failure Unit × Finder :=
  match streamKind? m.mediaName with
  | none => (.ok (), f)
  | some kind =>
    let payloadTypes := (tokens m.mediaName).drop 3
    let f := if payloadTypes = [] then f else { f with codecs := some (spaced payloadTypes) }
    match f.searchTokens transceivers payloadTypes with
    | (f, found) =>
      match f.codecs with
      | none => (.error .outOfBounds, f)
      | some codecs =>
        let firstCodec := firstToken codecs
        if maxPayloadTypeLength < firstCodec.length then (.error .outOfBounds, f)
        else if found then (.ok (), f)
        else
          match f.searchAttributes transceivers firstCodec m.sdpAttributes with
          | (f, true) => (.ok (), f)
          | (f, false) => f.addFake pic rand kind firstCodec

def Finder.mediaSections (transceivers : List KvsRtpTransceiver) :
    List SdpMediaDescription → Finder → Except Failure Unit × Finder
  | [], f => (.ok (), f)
  | m :: ms, f =>
    match f.mediaSection pic rand transceivers m with
    | (.error e, f) => (.error e, f)
    | (.ok (), f) => mediaSections transceivers ms f

def findTransceiversByRemoteDescription (pc : KvsPeerConnection) (remote : SessionDescription) :
    Except Failure UnknownCodecs × KvsPeerConnection :=
  match Finder.mediaSections pic rand pc.transceivers remote.mediaDescriptions
      ⟨pc.answerTransceivers, pc.fakeTransceivers, [], none, none, []⟩ with
  | (r, f) =>
    (r.map fun _ => f.unknownCodecs,
      { pc with
        answerTransceivers := f.answerTransceivers
        fakeTransceivers := f.fakeTransceivers })

/-! ### The sections of a description -/

def maxSdpSessionMediaCount : Nat := 5

def isPresentInRemote (t : KvsRtpTransceiver) (remote : SessionDescription) : Bool :=
  remote.mediaDescriptions.any fun m => firstToken m.mediaName == t.kind.value

def offerSections (pc : KvsPeerConnection) (remote : Option SessionDescription) :
    List KvsRtpTransceiver → List SdpMediaDescription → Except Failure (List SdpMediaDescription)
  | [], sections => .ok sections
  | t :: ts, sections =>
    if sections.length < maxSdpSessionMediaCount then
      match populateSingleMediaSection pc t remote sections.length "actpass".toList none 0 with
      | .error e => .error e
      | .ok s => offerSections pc remote ts (sections ++ [s])
    else .error (.status .sessionDescriptionMaxMediaCount)

def answerSections (pc : KvsPeerConnection) (remote : SessionDescription)
    (unknown : UnknownCodecs) :
    List KvsRtpTransceiver → Nat → List SdpMediaDescription →
      Except Failure (List SdpMediaDescription)
  | [], _, sections => .ok sections
  | t :: ts, unknownKey, sections =>
    if sections.length < maxSdpSessionMediaCount then
      if isPresentInRemote t remote then
        if t.codec = .unknown then
          match populateSingleMediaSection pc t (some remote) sections.length "active".toList
              (some unknown) unknownKey with
          | .error e => .error e
          | .ok s => answerSections pc remote unknown ts (unknownKey + 1) (sections ++ [s])
        else
          match populateSingleMediaSection pc t (some remote) sections.length "active".toList none
            0 with
          | .error e => .error e
          | .ok s => answerSections pc remote unknown ts unknownKey (sections ++ [s])
      else answerSections pc remote unknown ts unknownKey sections
    else .error (.status .sessionDescriptionMaxMediaCount)

def addDataChannel (pc : KvsPeerConnection) (dtlsRole : List Char)
    (sections : List SdpMediaDescription) :
    Except Failure (List SdpMediaDescription) :=
  if pc.sctpIsEnabled then
    if sections.length < maxSdpSessionMediaCount then
      .ok (sections ++ [populateSessionDescriptionDataChannel pc sections.length dtlsRole])
    else .error (.status .sessionDescriptionMaxMediaCount)
  else .ok sections

def populateSessionDescriptionMedia (pc : KvsPeerConnection) (remote : Option SessionDescription) :
    Except Failure (List SdpMediaDescription) × KvsPeerConnection :=
  if pc.isOffer then
    ((match offerSections pc remote pc.transceivers [] with
      | .error e => .error e
      | .ok sections => addDataChannel pc "actpass".toList sections), pc)
  else
    match remote with
    | none => (.error .outOfBounds, pc)
    | some remote =>
      match findTransceiversByRemoteDescription pic rand pc remote with
      | (.error e, pc) => (.error e, pc)
      | (.ok unknown, pc) =>
        ((match answerSections pc remote unknown pc.answerTransceivers 0 [] with
          | .error e => .error e
          | .ok sections => addDataChannel pc "active".toList sections), pc)

/-- The value of the attribute `group`: that of the remote description, or one that is made up. -/
def bundleValue (pc : KvsPeerConnection) (remote : Option SessionDescription) (mediaCount : Nat) :
    Except Failure (List Char) :=
  let remoteValue :=
    if pc.isOffer then []
    else
      (((remote.getD ⟨[], []⟩).sdpAttributes.find? fun a =>
        (strstr "BUNDLE".toList a.attributeValue).isSome).map (·.attributeValue.drop 6)).getD []
  if remoteValue = [] then
    let value := spaced ("BUNDLE".toList :: (List.range mediaCount).map decimal)
    if value.length < maxSdpAttributeValueLength then .ok value else
      .error (.status .bufferTooSmall)
  else if remoteValue.length < maxSdpAttributeValueLength then .ok ("BUNDLE".toList ++ remoteValue)
  else .error (.status .bufferTooSmall)

def populateSessionDescription (pc : KvsPeerConnection) (remote : Option SessionDescription) :
    Except Failure SessionDescription × KvsPeerConnection :=
  if pc.isOffer = false ∧ remote = none then (.error (.status .nullArg), pc)
  else
    match populateSessionDescriptionMedia pic rand pc remote with
    | (.error e, pc) => (.error e, pc)
    | (.ok sections, pc) =>
      ((match bundleValue pc remote sections.length with
        | .error e => .error e
        | .ok bundle =>
          .ok
            { sdpAttributes :=
                [copied "group" bundle] ++
                (if pc.canTrickleIce then [copied "ice-options" "trickle".toList] else []) ++
                [copied "msid-semantic" " WMS myKvsVideoStream".toList]
              mediaDescriptions := sections }), pc)

/-- `createAnswer`, with the description that it prints.  After a success the remote description is
freed. -/
def createAnswer (fits : SessionDescription → Bool) (pc : KvsPeerConnection) :
    Except Failure SessionDescription × KvsPeerConnection :=
  match pc.remoteSessionDescription with
  | none => (.error (.status .createAnswerWithoutRemoteDescription), pc)
  | some remote =>
    match populateSessionDescription pic rand { pc with isOffer := false } (some remote) with
    | (.error e, pc) => (.error e, pc)
    | (.ok answer, pc) =>
      if fits answer then (.ok answer, { pc with remoteSessionDescription := none })
      else (.error (.status .notEnoughMemory), pc)

end

/-! ### The remote description -/

def mediaValues (offer : SessionDescription) (name : String) : List (List Char) :=
  ((offer.mediaDescriptions.flatMap (·.sdpAttributes)).filter fun a =>
    a.attributeName == name.toList).map (·.attributeValue)

def parseExtId (pic : Platform) (extmapValue : List Char) : Nat :=
  match pic.strtoui32 (firstToken extmapValue) with
  | .error _ => 0
  | .ok n => n

def twccExtUrl : List Char :=
  "http://www.ietf.org/id/draft-holmer-rmcat-transport-wide-cc-extensions-01".toList

/-- The extension number that the offer gives for the transport-wide sequence numbers. -/
def offeredTwccExtId (pic : Platform) (offer : SessionDescription) : Option Nat :=
  (((mediaValues offer "extmap").filter fun v => (strstr twccExtUrl v).isSome).getLast?).map
    (parseExtId pic)

def offersTrickle (offer : SessionDescription) : Bool :=
  ((offer.sdpAttributes.filter fun a => a.attributeName == "ice-options".toList).map
    (·.attributeValue) ++ mediaValues offer "ice-options").any fun v =>
      (strstr "trickle".toList v).isSome

def certificateFingerprintLength : Nat := 160

/-- The fingerprint of the remote side: the last one in the session or in a section, without the
eight characters that name the hash, and the one of the offer before if there is none. -/
def fingerprintAfter (pc : KvsPeerConnection) (offer : SessionDescription) : List Char :=
  ((offer.sdpAttributes.filter fun a => a.attributeName == "fingerprint".toList).map
    (·.attributeValue) ++ mediaValues offer "fingerprint").getLast?.elim
      pc.remoteCertificateFingerprint fun v => (v.drop 8).take certificateFingerprintLength

/-- `setRemoteDescription` of an answering connection. -/
def setRemoteDescription (pic : Platform) (pc : KvsPeerConnection) (offer : SessionDescription) :
    Except Failure KvsPeerConnection :=
  if mediaValues offer "ice-ufrag" = [] ∨ mediaValues offer "ice-pwd" = [] then
    .error (.status .sessionDescriptionMissingIceValues)
  else if fingerprintAfter pc offer = [] then
    .error (.status .sessionDescriptionMissingCertificateFingerprint)
  else
    match setPayloadTypesFromOffer pic pc.codecTable pc.rtxTable offer with
    | .error e => .error e
    | .ok (codecTable, rtxTable) =>
      match setTransceiverPayloadTypes codecTable rtxTable pc.transceivers with
      | .error e => .error e
      | .ok transceivers =>
        .ok { pc with
          remoteSessionDescription := some offer
          transceivers := transceivers
          codecTable := codecTable
          rtxTable := rtxTable
          sctpIsEnabled := pc.sctpIsEnabled ||
            offer.mediaDescriptions.any fun m => sameUpTo 11 m.mediaName "application".toList
          canTrickleIce := offersTrickle offer
          remoteCertificateFingerprint := fingerprintAfter pc offer
          twccExtId := (offeredTwccExtId pic offer).getD pc.twccExtId }

end KvsWebrtc.Sdp
