import KvsWebrtc.Sdp.Equiv.Answer

/-!
# The payload type of an answer

Three places show the payload type of a transceiver that answers: the media name of its section, the
lines about its codec, and `sender.payloadType`.  They agree on a number that the offered section
maps to the codec exactly if that section maps the number to it that is written, and this is what
the sender has (`agrees_iff`).  What is written is the number that the offer gives to the codec,
over all sections, but for H265 it is always the default.
-/

namespace KvsWebrtc.Sdp

open Text

/-! ### What is said about a payload type -/

/-- An `rtpmap` with this number and codec, maybe with parameters. -/
def rtpmapSays (number : List Char) (codec : RtcCodec) (a : SdpAttribute) : Prop :=
  a.attributeName = "rtpmap".toList ∧
    ∃ rest, a.attributeValue = number ++ ' ' :: (codec.value ++ rest) ∧
    (rest = [] ∨ rest.head? = some '/')

/-- A section maps a payload type to a codec, in an `rtpmap` or because it is a static one. -/
def SdpMediaDescription.mapsTo (m : SdpMediaDescription) (codec : RtcCodec) (payloadType : Nat) :
    Prop :=
  (∃ a ∈ m.sdpAttributes, rtpmapSays (decimal payloadType) codec a) ∨
  (codec = .mulaw ∧ payloadType = 0 ∧ "0".toList ∈ (tokens m.mediaName).drop 3) ∨
  (codec = .alaw ∧ payloadType = 8 ∧ "8".toList ∈ (tokens m.mediaName).drop 3)

/-- A line about a codec has this number, if it is not about retransmissions; then it names the
number as the one that is retransmitted. -/
def lineSays (number : List Char) (a : SdpAttribute) : Prop :=
  (a.attributeName = "rtpmap".toList →
    firstToken a.attributeValue = number ∨ ∃ rtx, a.attributeValue = rtx ++ " rtx/90000".toList) ∧
  (a.attributeName = "fmtp".toList →
    firstToken a.attributeValue = number ∨ ∃ rtx, a.attributeValue = rtx ++ " apt=".toList ++
    number)

/-- The section of a transceiver, its sender and the offered section agree on a payload type. -/
structure Agrees (offered answered : SdpMediaDescription) (t : KvsRtpTransceiver)
    (payloadType : Nat) :
    Prop where
  mediaName : (tokens answered.mediaName)[3]? = some (decimal payloadType)
  rtpmap : ∃ a ∈ answered.sdpAttributes, rtpmapSays (decimal payloadType) t.codec a
  lines : ∀ a ∈ answered.sdpAttributes, lineSays (decimal payloadType) a
  sender : t.payloadType.toNat = payloadType
  offered : offered.mapsTo t.codec payloadType

/-! ### The lines of a section -/

theorem rtpmap_ne_fmtp : "rtpmap".toList ≠ "fmtp".toList := by decide

theorem lineSays_of_name {number : List Char} {a : SdpAttribute}
    (hrtpmap : a.attributeName ≠ "rtpmap".toList) (hfmtp : a.attributeName ≠ "fmtp".toList) :
    lineSays number a :=
  ⟨fun h => absurd h hrtpmap, fun h => absurd h hfmtp⟩

theorem lineSays_printed (name : String) (n : Nat) (x : List Char) (rest : List (List Char)) :
    lineSays (decimal64 n) (printed name (spaced (decimal64 n :: x :: rest))) := by
  have hfirst : firstToken (printed name (spaced (decimal64 n :: x :: rest))).attributeValue =
      decimal64 n := by
    show firstToken (clip maxSdpAttributeValueLength (spaced (decimal64 n :: x :: rest))) = _
    rw [spaced_cons_cons]
    exact firstToken_clip (blank_notMem_decimal64 n)
      (Nat.lt_of_le_of_lt (length_decimal64_le n) (by decide)) _
  exact ⟨fun _ => .inl hfirst, fun _ => .inl hfirst⟩

theorem lineSays_fmtp {isOffer : Bool} {codec : RtcCodec} {n : SectionNumbers} {a : SdpAttribute}
    (h : a ∈ fmtpAttributes isOffer codec n) : lineSays (decimal64 n.payloadType) a := by
  unfold fmtpAttributes at h
  split at h
  · exact absurd h List.not_mem_nil
  · rw [List.mem_singleton.mp h]
    exact lineSays_printed _ _ _ _

theorem lineSays_rtx {n : SectionNumbers} {a : SdpAttribute} (h : a ∈ rtxAttributes n) :
    lineSays (decimal64 n.payloadType) a := by
  unfold rtxAttributes at h
  split at h
  · exact absurd h List.not_mem_nil
  · rename_i rtx _
    have hrtx := length_decimal64_le rtx
    have hnumber := length_decimal64_le n.payloadType
    rw [List.mem_cons, List.mem_singleton] at h
    obtain rfl | rfl := h
    · refine ⟨fun _ => .inr ⟨decimal64 rtx, ?_⟩, fun hname => absurd hname rtpmap_ne_fmtp⟩
      have hlen : (spaced [decimal64 rtx, "rtx/90000".toList]).length ≤
          maxSdpAttributeValueLength := by
        rw [spaced_cons_cons, spaced_singleton, List.length_append, List.length_cons,
          show "rtx/90000".toList.length = 9 from rfl, maxSdpAttributeValueLength]
        omega
      show clip maxSdpAttributeValueLength _ = _
      rw [clip_eq_self hlen, spaced_cons_cons, spaced_singleton]
      rfl
    · refine ⟨fun hname => absurd hname.symm rtpmap_ne_fmtp, fun _ => .inr ⟨decimal64 rtx, ?_⟩⟩
      have hlen : (spaced [decimal64 rtx, "apt=".toList ++ decimal64 n.payloadType]).length ≤
          maxSdpAttributeValueLength := by
        rw [spaced_cons_cons, spaced_singleton, List.length_append, List.length_cons,
          List.length_append,
          show "apt=".toList.length = 4 from rfl, maxSdpAttributeValueLength]
        omega
      show clip maxSdpAttributeValueLength _ = _
      rw [clip_eq_self hlen, spaced_cons_cons, spaced_singleton, List.append_assoc]
      rfl

theorem rtpmapSays_printed (n : Nat) {codec : RtcCodec} {name rest : List Char}
    (hname : name = codec.value ++ rest) (hrest : rest = [] ∨ rest.head? = some '/')
    (hlen : name.length ≤ 20) :
    rtpmapSays (decimal64 n) codec (printed "rtpmap" (spaced [decimal64 n, name])) := by
  refine ⟨rfl, rest, ?_, hrest⟩
  have hnumber := length_decimal64_le n
  have hfits : (spaced [decimal64 n, name]).length ≤ maxSdpAttributeValueLength := by
    rw [spaced_cons_cons, spaced_singleton, List.length_append, List.length_cons,
      maxSdpAttributeValueLength]
    omega
  show clip maxSdpAttributeValueLength _ = _
  rw [clip_eq_self hfits, spaced_cons_cons, spaced_singleton, hname]

/-- **The lines about a codec** all have the number of the section. -/
theorem codecAttributes_spec {isOffer : Bool} {codec : RtcCodec} {n : SectionNumbers}
    {unknown : Option UnknownCodecs} {unknownKey : Nat} {lines : List SdpAttribute}
    (hcodec : codec ≠ .unknown)
    (h : codecAttributes isOffer codec n unknown unknownKey = .ok lines) :
    (∃ a ∈ lines, rtpmapSays (decimal64 n.payloadType) codec a) ∧
      ∀ a ∈ lines, lineSays (decimal64 n.payloadType) a := by
  unfold codecAttributes at h
  cases codec with
  | h264 | h265 =>
    obtain rfl := Except.ok.inj h
    constructor
    · -- the line of the codec is the first one
      refine ⟨_, ?_, rtpmapSays_printed n.payloadType (List.append_nil _).symm (.inl rfl)
        (by decide)⟩
      exact List.mem_append_left _ (List.mem_append_left _
        (List.mem_append_left _ List.mem_cons_self))
    · intro a ha
      rw [List.mem_append, List.mem_append, List.mem_append] at ha
      obtain ((ha | ha) | ha) | ha := ha
      · rw [List.mem_singleton.mp ha]
        exact lineSays_printed _ _ _ _
      · rw [List.mem_cons, List.mem_singleton] at ha
        obtain rfl | rfl := ha
        · exact lineSays_printed _ _ _ _
        · exact lineSays_printed _ _ _ _
      · exact lineSays_fmtp ha
      · exact lineSays_rtx ha
  | opus =>
    obtain rfl := Except.ok.inj h
    constructor
    · refine ⟨_, List.mem_append_left _ List.mem_cons_self, ?_⟩
      have hname : "opus/48000/2".toList = RtcCodec.opus.value ++ "/2".toList := rfl
      exact rtpmapSays_printed n.payloadType hname (.inr rfl) (by decide)
    · intro a ha
      obtain ha | ha := List.mem_append.mp ha
      · rw [List.mem_singleton.mp ha]
        exact lineSays_printed _ _ _ _
      · exact lineSays_fmtp ha
  | vp8 =>
    obtain rfl := Except.ok.inj h
    constructor
    · refine ⟨_, List.mem_append_left _ List.mem_cons_self, ?_⟩
      exact rtpmapSays_printed n.payloadType (List.append_nil _).symm (.inl rfl) (by decide)
    · intro a ha
      obtain ha | ha := List.mem_append.mp ha
      · rw [List.mem_singleton.mp ha]
        exact lineSays_printed _ _ _ _
      · exact lineSays_rtx ha
  | mulaw | alaw =>
    obtain rfl := Except.ok.inj h
    constructor
    · refine ⟨_, List.mem_cons_self, ?_⟩
      exact rtpmapSays_printed n.payloadType (List.append_nil _).symm (.inl rfl) (by decide)
    · intro a ha
      rw [List.mem_singleton.mp ha]
      exact lineSays_printed _ _ _ _
  | unknown => exact absurd rfl hcodec

theorem lineSays_of_openingNames {number : List Char} {a : SdpAttribute}
    (h : a.attributeName ∈ openingNames) : lineSays number a := by
  apply lineSays_of_name
  · intro he
    rw [he] at h
    exact absurd h (by decide)
  · intro he
    rw [he] at h
    exact absurd h (by decide)

theorem lineSays_localDirection {number : List Char} {t : KvsRtpTransceiver}
    {remote : SessionDescription} {mediaSectionId : Nat} :
    lineSays number (localDirection false t remote mediaSectionId) := by
  have hname : (localDirection false t remote mediaSectionId).attributeName ∈
      ["inactive".toList, "sendrecv".toList, "sendonly".toList, "recvonly".toList, []] := by
    unfold localDirection
    rw [if_neg Bool.false_ne_true]
    split
    · exact List.mem_cons_self
    · cases hfound : (remoteSection remote mediaSectionId).sdpAttributes.findSome?
        answeredDirection? with
      | none =>
        show [] ∈ _
        decide
      | some v =>
        obtain ⟨a, -, ha⟩ := List.exists_of_findSome?_eq_some hfound
        show v ∈ _
        unfold answeredDirection? at ha
        split at ha
        · rw [← Option.some.inj ha]
          decide
        · split at ha
          · rw [← Option.some.inj ha]
            decide
          · split at ha
            · rw [← Option.some.inj ha]
              decide
            · exact absurd ha (by simp)
  apply lineSays_of_name
  · intro he
    rw [he] at hname
    exact absurd hname (by decide)
  · intro he
    rw [he] at hname
    exact absurd hname (by decide)

theorem lineSays_closing {number : List Char} {pc : KvsPeerConnection} {t : KvsRtpTransceiver}
    {n : SectionNumbers} {a : SdpAttribute} (h : a ∈ closingAttributes pc t n) :
    lineSays number a := by
  have hfeedback : ∀ {value : List Char}, a = printed "rtcp-fb" value → lineSays number a := by
    rintro value rfl
    exact lineSays_of_name (show "rtcp-fb".toList ≠ "rtpmap".toList by decide)
      (show "rtcp-fb".toList ≠ "fmtp".toList by decide)
  rw [closingAttributes, List.mem_append, List.mem_append] at h
  obtain (h | h) | h := h
  · apply lineSays_of_openingNames
    rw [ssrcAttributes_name (List.mem_of_mem_take h)]
    decide
  · exact hfeedback (List.mem_singleton.mp h)
  · split at h
    · exact absurd h List.not_mem_nil
    · exact hfeedback (List.mem_singleton.mp h)

section

variable {pc : KvsPeerConnection} {t : KvsRtpTransceiver} {remote : SessionDescription}
  {mediaSectionId : Nat} {dtlsRole : List Char} {n : SectionNumbers} {mid : SdpAttribute}
  {lines : List SdpAttribute}

theorem lineSays_sectionWith {number : List Char} (hoffer : pc.isOffer = false)
    (hmid : mid.attributeName = "mid".toList) (hlines : ∀ a ∈ lines, lineSays number a)
    {a : SdpAttribute}
    (h : a ∈ (sectionWith pc t remote mediaSectionId dtlsRole n mid lines).sdpAttributes) :
    lineSays number a := by
  rw [sdpAttributes_sectionWith] at h
  obtain h | h := List.mem_append.mp h
  · exact lineSays_of_openingNames (openingNames_of_mem h)
  rw [List.mem_cons, List.mem_cons, List.mem_cons, List.mem_append, List.mem_append] at h
  obtain rfl | rfl | rfl | (h | h) | h := h
  · apply lineSays_of_name
    · rw [hmid]
      decide
    · rw [hmid]
      decide
  · rw [hoffer]
    exact lineSays_localDirection
  · exact lineSays_of_name (show "rtcp-mux".toList ≠ "rtpmap".toList by decide)
      (show "rtcp-mux".toList ≠ "fmtp".toList by decide)
  · split at h
    · exact absurd h List.not_mem_nil
    · rw [List.mem_singleton.mp h]
      exact lineSays_of_name (show "rtcp-rsize".toList ≠ "rtpmap".toList by decide)
        (show "rtcp-rsize".toList ≠ "fmtp".toList by decide)
  · exact hlines a h
  · exact lineSays_closing h

theorem mem_sectionWith_of_mem {a : SdpAttribute} (h : a ∈ lines) :
    a ∈ (sectionWith pc t remote mediaSectionId dtlsRole n mid lines).sdpAttributes := by
  rw [sdpAttributes_sectionWith]
  apply List.mem_append_right
  apply List.mem_cons_of_mem
  apply List.mem_cons_of_mem
  apply List.mem_cons_of_mem
  apply List.mem_append_left
  exact List.mem_append_right _ h

end

/-! ### The number that is written -/

/-- The number in the section of a transceiver: that of the codec, but for H265 the default. -/
def writtenNumber (t : KvsRtpTransceiver) (number : Nat) : Nat :=
  if t.kind = .video ∧ t.codec = .h265 then defaultPayloadH265 else number

theorem sectionNumbers_payloadType {pc : KvsPeerConnection} {t : KvsRtpTransceiver}
    {remote : SessionDescription} {unknownKey : Nat} {n : SectionNumbers} {number : Nat}
    (hnumber : pc.codecTable t.codec.key = some number)
    (h : sectionNumbers pc t remote none unknownKey = .ok n) :
    n.payloadType = writtenNumber t number := by
  have hget : pc.codecTable.get t.codec.key = .ok number := by
    rw [HashTable.get, hnumber]
  simp only [sectionNumbers] at h
  split at h
  · exact absurd h (by simp)
  · rename_i payloadType fmtp hfound
    have hpayload : payloadType = number := by
      split at hfound
      · rename_i hnone
        exact absurd hnone (by simp)
      · rw [hget] at hfound
        exact (Prod.mk.inj (Except.ok.inj hfound)).1.symm
    subst hpayload
    unfold writtenNumber
    split at h
    · rename_i hkind
      obtain rfl := Except.ok.inj h
      simp only [hkind, true_and]
    · rename_i hkind
      obtain rfl := Except.ok.inj h
      rw [if_neg fun hboth => hkind hboth.1]

/-- **What the section of a transceiver shows**: one number everywhere. -/
theorem Written.shows {pc : KvsPeerConnection} {remote : SessionDescription} {t : KvsRtpTransceiver}
    {i : Nat} {s : SdpMediaDescription} {number : Nat} (hoffer : pc.isOffer = false)
    (hcodec : t.codec ≠ .unknown) (hnumber : pc.codecTable t.codec.key = some number)
    (h : Written pc remote (t, i) s) :
    (tokens s.mediaName)[3]? = some (decimal64 (writtenNumber t number)) ∧
      (∃ a ∈ s.sdpAttributes, rtpmapSays (decimal64 (writtenNumber t number)) t.codec a) ∧
      ∀ a ∈ s.sdpAttributes, lineSays (decimal64 (writtenNumber t number)) a := by
  obtain ⟨codecs, key, hnone, hs⟩ := h
  obtain rfl := hnone hcodec
  obtain ⟨n, mid, lines, hn, hmid, hlines, rfl⟩ := populateSingleMediaSection_ok hs
  rw [hoffer] at hmid
  rw [← sectionNumbers_payloadType hnumber hn]
  obtain ⟨⟨a, ha, hsays⟩, hall⟩ := codecAttributes_spec hcodec hlines
  refine ⟨?_, ⟨a, mem_sectionWith_of_mem ha, hsays⟩, ?_⟩
  · show (tokens (sectionMediaName t n))[3]? = _
    rw [tokens_sectionMediaName]
    rfl
  · intro b hb
    exact lineSays_sectionWith hoffer (localMid_spec hmid).1 hall hb

/-! ### Agreement -/

/-- What the sender of a transceiver has after an offer that gives a number to its codec. -/
def senderNumber (t : KvsRtpTransceiver) (number : Nat) : Nat :=
  if t.sends then number % 2 ^ 8 else t.payloadType.toNat

theorem senderNumber_lt (t : KvsRtpTransceiver) (number : Nat) : senderNumber t number < 2 ^ 8 := by
  unfold senderNumber
  split
  · exact Nat.mod_lt _ (by decide)
  · exact t.payloadType.toNat_lt

theorem writtenNumber_congr {t t' : KvsRtpTransceiver} (h : t.same t') (number : Nat) :
    writtenNumber t' number = writtenNumber t number := by
  rw [writtenNumber, h.kind, h.codec, writtenNumber]

section

variable {pic : Platform} {rand : Nat → Nat} {fits : SessionDescription → Bool}
  {pc pc₂ : KvsPeerConnection} {offer answer : SessionDescription} {t₀ t a : KvsRtpTransceiver}
  {i j start : Nat}

/-- The sender of a transceiver after an offer was set and answered. -/
theorem sender_after_negotiate (h : negotiate pic rand fits pc offer = .ok (answer, pc₂))
    (hj : pc.transceivers[j]? = some t₀) (hj' : pc₂.transceivers[j]? = some t)
    (hcodec : t₀.codec ≠ .unknown) (hstart : pc.codecTable t₀.codec.key = some start) :
    t₀.same t ∧ t.payloadType.toNat = senderNumber t₀ (offeredNumber pic offer t₀.codec start) := by
  obtain ⟨pc₁, hset, hcreate⟩ := negotiate_ok h
  obtain ⟨htables, htransceivers, -⟩ := setRemoteDescription_ok hset
  obtain ⟨remote, found, unknown, sections, -, hfind, -, -, rfl⟩ := createAnswer_ok hcreate
  obtain ⟨new, fake, rfl, -⟩ := findTransceiversByRemoteDescription_ok hfind
  obtain ⟨t', ht', hpayload⟩ := exists_getElem?_right (setTransceiverPayloadTypes_ok htransceivers)
    hj
  obtain rfl : t' = t := Option.some.inj (ht'.symm.trans hj')
  obtain ⟨hsame, hsender⟩ := setPayloadTypes_ok hpayload
  refine ⟨hsame, ?_⟩
  unfold senderNumber
  obtain ⟨hsends, n, hn, hvalue⟩ | ⟨hsends, rfl⟩ := hsender
  · rw [setPayloadTypesFromOffer_spec hcodec htables hstart] at hn
    rw [if_pos hsends, hvalue, ← Option.some.inj hn]
    exact UInt8.toNat_ofNat'
  · rw [if_neg (by rw [hsends]; exact Bool.false_ne_true)]

theorem section_after_negotiate (h : negotiate pic rand fits pc offer = .ok (answer, pc₂))
    (hi : (pc₂.answerTransceivers.filter (isPresentInRemote · offer))[i]? = some a)
    (hcodec : a.codec ≠ .unknown) (hstart : pc.codecTable a.codec.key = some start) :
    ∃ answered, answer.mediaDescriptions[i]? = some answered ∧
      ∃ found : KvsPeerConnection, found.isOffer = false ∧
        found.codecTable a.codec.key = some (offeredNumber pic offer a.codec start) ∧
        Written found offer (a, i) answered := by
  obtain ⟨pc₁, hset, hcreate⟩ := negotiate_ok h
  obtain ⟨htables, -, hremote, -⟩ := setRemoteDescription_ok hset
  obtain ⟨remote, found, unknown, sections, hremote', hfind, hsections, hall, rfl⟩ :=
    createAnswer_ok hcreate
  obtain rfl : offer = remote := Option.some.inj (hremote.symm.trans hremote')
  obtain ⟨written, hwritten, hmatch⟩ := answerSections_spec hsections
  rw [List.nil_append] at hwritten
  subst hwritten
  have hplace : (((found.answerTransceivers.filter (isPresentInRemote · offer)).zipIdx 0))[i]? =
      some (a, i) := by
    rw [List.getElem?_zipIdx]
    have hi' : (found.answerTransceivers.filter (isPresentInRemote · offer))[i]? = some a := hi
    rw [hi', Option.map_some, Nat.zero_add]
  obtain ⟨s, hs, hsection⟩ := exists_getElem?_right hmatch hplace
  refine ⟨s, ?_, found, ?_, ?_, hsection⟩
  · unfold addDataChannel at hall
    split at hall
    · split at hall
      · rw [← Except.ok.inj hall, List.getElem?_append_left (List.getElem?_eq_some_iff.mp hs).1]
        exact hs
      · exact absurd hall (by simp)
    · rw [← Except.ok.inj hall]
      exact hs
  · obtain ⟨new, fake, rfl, -⟩ := findTransceiversByRemoteDescription_ok hfind
    rfl
  · obtain ⟨new, fake, rfl, -⟩ := findTransceiversByRemoteDescription_ok hfind
    exact setPayloadTypesFromOffer_spec hcodec htables hstart

/-- **When the payload types agree.**  The transceiver `t₀` of a connection answers in the `i`-th
section of the answer.  Its section, its sender and the offered section agree on a payload type
exactly if the offered section maps the number that is written to the codec, and the sender has the
same number. -/
theorem agrees_iff (h : negotiate pic rand fits pc offer = .ok (answer, pc₂))
    (hj : pc.transceivers[j]? = some t₀) (hj' : pc₂.transceivers[j]? = some t)
    (hi : (pc₂.answerTransceivers.filter (isPresentInRemote · offer))[i]? = some a) (ha : a.same t)
    (hcodec : t₀.codec ≠ .unknown) (hstart : pc.codecTable t₀.codec.key = some start) :
    (∃ answered payloadType, answer.mediaDescriptions[i]? = some answered ∧
        Agrees (remoteSection offer i) answered t payloadType) ↔
      (remoteSection offer i).mapsTo t₀.codec
          (writtenNumber t₀ (offeredNumber pic offer t₀.codec start)) ∧
        senderNumber t₀ (offeredNumber pic offer t₀.codec start) =
          writtenNumber t₀ (offeredNumber pic offer t₀.codec start) := by
  obtain ⟨hsame, hsender⟩ := sender_after_negotiate h hj hj' hcodec hstart
  have hcodec' : a.codec = t₀.codec := ha.codec.symm.trans hsame.codec
  obtain ⟨answered, hanswered, found, hoffer, hnumber, hwritten⟩ :=
    section_after_negotiate h hi (hcodec' ▸ hcodec) (hcodec' ▸ hstart)
  obtain ⟨hname, hrtpmap, hlines⟩ := hwritten.shows hoffer (hcodec' ▸ hcodec) hnumber
  have hwrite : ∀ number, writtenNumber a number = writtenNumber t₀ number := by
    intro number
    rw [← writtenNumber_congr ha, writtenNumber_congr hsame]
  rw [hcodec', hwrite] at hname hrtpmap hlines
  generalize hm : writtenNumber t₀ (offeredNumber pic offer t₀.codec start) = m at *
  constructor
  · rintro ⟨answered', payloadType, hanswered', hagrees⟩
    obtain rfl := Option.some.inj (hanswered.symm.trans hanswered')
    -- the media name fixes the number
    have hprinted := Option.some.inj (hname.symm.trans hagrees.mediaName)
    obtain rfl := eq_of_decimal64_eq hprinted
    constructor
    · rw [← hsame.codec]
      exact hagrees.offered
    · rw [← hsender]
      exact hagrees.sender
  · rintro ⟨hmaps, heq⟩
    have hsmall : decimal64 m = decimal m := by
      apply decimal64_of_lt
      rw [← heq]
      exact Nat.lt_trans (senderNumber_lt t₀ _) (by decide)
    rw [hsmall] at hname hrtpmap hlines
    refine ⟨answered, m, hanswered, ?_⟩
    constructor
    · exact hname
    · rw [hsame.codec]
      exact hrtpmap
    · exact hlines
    · rw [hsender, heq]
    · rw [hsame.codec]
      exact hmaps

end

/-- What an answer leaves of a connection, with the payload types in the media names. -/
def numbersShown (r : Except Failure (SessionDescription × KvsPeerConnection)) :
    Option (List KvsRtpTransceiver × List KvsRtpTransceiver × List (Option (List Char))) :=
  r.toOption.map fun r =>
    (r.2.transceivers, r.2.answerTransceivers, r.1.mediaDescriptions.map fun m =>
    (tokens m.mediaName)[3]?)

theorem numbersShown_ok {r : Except Failure (SessionDescription × KvsPeerConnection)}
    {transceivers answering : List KvsRtpTransceiver} {numbers : List (Option (List Char))}
    (h : numbersShown r = some (transceivers, answering, numbers)) :
    ∃ answer pc, r = .ok (answer, pc) ∧ pc.transceivers = transceivers ∧
      pc.answerTransceivers = answering ∧
      answer.mediaDescriptions.map (fun m => (tokens m.mediaName)[3]?) = numbers := by
  cases r with
  | error e => exact absurd h (by simp [numbersShown, Except.toOption])
  | ok r =>
    obtain ⟨htransceivers, hrest⟩ := Prod.mk.inj (Option.some.inj h)
    obtain ⟨hanswering, hnumbers⟩ := Prod.mk.inj hrest
    exact ⟨r.1, r.2, rfl, htransceivers, hanswering, hnumbers⟩

theorem agrees_vp8 :
    ∃ answer pc₂, tryOffer (sampleConnection [sampleTransceiver .video .vp8])
    [sampleVideo "v" "sendrecv"] = .ok (answer, pc₂) ∧
      ∃ answered payloadType, answer.mediaDescriptions[0]? = some answered ∧
        Agrees (sampleVideo "v" "sendrecv") answered
          { sampleTransceiver .video .vp8 with
            payloadType := 96, rtxPayloadType := 96 } payloadType := by
  have hshown : numbersShown (tryOffer (sampleConnection [sampleTransceiver .video .vp8])
      [sampleVideo "v" "sendrecv"]) =
        some ([{ sampleTransceiver .video .vp8 with payloadType := 96, rtxPayloadType := 96 }],
          [{ sampleTransceiver .video .vp8 with payloadType := 96, rtxPayloadType := 96 }],
          [some "96".toList]) := by
    decide +kernel
  obtain ⟨answer, pc₂, h, htransceivers, hanswering, -⟩ := numbersShown_ok hshown
  have hpresent : isPresentInRemote
      { sampleTransceiver .video .vp8 with payloadType := 96, rtxPayloadType := 96 }
      ⟨[], [sampleVideo "v" "sendrecv"]⟩ = true := by
    decide +kernel
  have hnumber : offeredNumber digitParser ⟨[], [sampleVideo "v" "sendrecv"]⟩ .vp8 0 = 96 := by
    decide +kernel
  refine ⟨answer, pc₂, h, ?_⟩
  apply (agrees_iff h (j := 0) (i := 0) rfl (by rw [htransceivers]; rfl)
    (by rw [hanswering, List.filter_cons, if_pos hpresent]; rfl) (KvsRtpTransceiver.same_refl _)
    (by decide) rfl).mpr
  rw [show (sampleTransceiver .video .vp8).codec = .vp8 from rfl, hnumber]
  refine ⟨.inl ⟨copied "rtpmap" "96 VP8/90000".toList, ?_, rfl, [], ?_, .inl rfl⟩, by decide⟩
  · decide +kernel
  · decide +kernel

def sampleH265 : SdpMediaDescription :=
  sampleSection "video 9 UDP/TLS/RTP/SAVPF 98" "v"
    [copied "sendrecv" [], copied "rtpmap" "98 H265/90000".toList]

/-- H265 is answered on the default number, but sent on the number of the offer. -/
theorem h265_disagrees :
    ∃ answer pc₂, tryOffer (sampleConnection [sampleTransceiver .video .h265]) [sampleH265] =
        .ok (answer, pc₂) ∧
      pc₂.transceivers =
        [{ sampleTransceiver .video .h265 with payloadType := 98, rtxPayloadType := 98 }] ∧
      pc₂.answerTransceivers = pc₂.transceivers ∧
      ¬ ∃ answered payloadType, answer.mediaDescriptions[0]? = some answered ∧
        Agrees sampleH265 answered
          { sampleTransceiver .video .h265 with
            payloadType := 98, rtxPayloadType := 98 } payloadType := by
  have hshown : numbersShown (tryOffer (sampleConnection [sampleTransceiver .video .h265])
      [sampleH265]) =
      some ([{ sampleTransceiver .video .h265 with payloadType := 98, rtxPayloadType := 98 }],
        [{ sampleTransceiver .video .h265 with payloadType := 98, rtxPayloadType := 98 }],
        [some "127".toList]) := by
    decide +kernel
  obtain ⟨answer, pc₂, h, htransceivers, hanswering, hnumbers⟩ := numbersShown_ok hshown
  refine ⟨answer, pc₂, h, htransceivers, hanswering.trans htransceivers.symm, ?_⟩
  rintro ⟨answered, payloadType, hanswered, hagrees⟩
  have hname : (tokens answered.mediaName)[3]? = some "127".toList := by
    have hat := congrArg (·[0]?) hnumbers
    simp only [List.getElem?_map, hanswered, Option.map_some] at hat
    exact Option.some.inj hat
  have hprinted := Option.some.inj (hagrees.mediaName.symm.trans hname)
  rw [← hagrees.sender] at hprinted
  exact absurd hprinted (by decide)

end KvsWebrtc.Sdp
