import KvsWebrtc.Common.Matching
import KvsWebrtc.Sdp.Answer
import KvsWebrtc.Sdp.Equiv.MediaSection
import KvsWebrtc.Sdp.Equiv.PayloadTypes

/-!
# Correctness of `createAnswer`

The loop over the sections of the offer puts one transceiver in the list for each section of audio
or video (`mediaSections_spec`), and the loop over this list writes one section for each of them, at
its place (`answerSections_spec`).  So the answer mirrors the offer, as long as the list was empty
before and the section of the data channel is the last one (`createAnswer_mirrors`).  After a
success the remote description is gone, and another answer is refused.
-/

namespace KvsWebrtc.Sdp

open Text

/-! ### Finding the transceivers -/

/-- A section names a codec, by a static payload type or in an `rtpmap`. -/
def SdpMediaDescription.names (m : SdpMediaDescription) (codec : RtcCodec) : Prop :=
  (∃ token ∈ (tokens m.mediaName).drop 3, staticCodec? token = some codec) ∨
  ∃ a ∈ m.sdpAttributes, isRtpmap a = true ∧ namedCodec? a.attributeValue = some codec

instance (m : SdpMediaDescription) (codec : RtcCodec) : Decidable (m.names codec) :=
  inferInstanceAs (Decidable (_ ∨ _))

/-- A transceiver for a section: a placeholder of its kind, or one with a codec that it names. -/
def Found (transceivers : List KvsRtpTransceiver) (m : SdpMediaDescription)
    (t : KvsRtpTransceiver) :
    Prop :=
  (streamKind? m.mediaName = some t.kind ∧ t.codec = .unknown) ∨
  (t ∈ transceivers ∧ m.names t.codec)

theorem findCodecInTransceivers_true {transceivers : List KvsRtpTransceiver} {f f' : Finder}
    {codec : RtcCodec} (h : f.findCodecInTransceivers transceivers codec = (f', true)) :
    ∃ t ∈ transceivers, t.codec = codec ∧ f'.answerTransceivers = f.answerTransceivers ++ [t] := by
  unfold Finder.findCodecInTransceivers at h
  split at h
  · exact absurd h (by simp)
  · rename_i t ht
    have hcodec := List.find?_some ht
    rw [Bool.and_eq_true, beq_iff_eq] at hcodec
    obtain ⟨rfl, -⟩ := Prod.mk.inj h
    exact ⟨t, List.mem_of_find?_eq_some ht, hcodec.1, rfl⟩

theorem findCodecInTransceivers_false {transceivers : List KvsRtpTransceiver} {f f' : Finder}
    {codec : RtcCodec} (h : f.findCodecInTransceivers transceivers codec = (f', false)) :
    f' = f := by
  unfold Finder.findCodecInTransceivers at h
  split at h
  · exact (Prod.mk.inj h).1.symm
  · exact absurd h (by simp)

theorem searchTokens_true {transceivers : List KvsRtpTransceiver} {payloadTypes : List (List Char)}
    {f f' : Finder} (h : f.searchTokens transceivers payloadTypes = (f', true)) :
    ∃ t ∈ transceivers, (∃ token ∈ payloadTypes, staticCodec? token = some t.codec) ∧
      f'.answerTransceivers = f.answerTransceivers ++ [t] := by
  induction payloadTypes generalizing f with
  | nil => exact absurd h (by simp [Finder.searchTokens])
  | cons token rest ih =>
    unfold Finder.searchTokens at h
    split at h
    · obtain ⟨t, ht, ⟨token', hmem, hcodec⟩, happend⟩ := ih h
      exact ⟨t, ht, ⟨token', List.mem_cons_of_mem token hmem, hcodec⟩, happend⟩
    · rename_i codec hcodec
      split at h
      · rename_i g hfound
        obtain ⟨t, ht, hcodec', happend⟩ := findCodecInTransceivers_true hfound
        obtain ⟨rfl, -⟩ := Prod.mk.inj h
        exact ⟨t, ht, ⟨token, List.mem_cons_self, hcodec' ▸ hcodec⟩, happend⟩
      · rename_i g hfound
        rw [findCodecInTransceivers_false hfound] at h
        obtain ⟨t, ht, ⟨token', hmem, hcodec'⟩, happend⟩ := ih h
        exact ⟨t, ht, ⟨token', List.mem_cons_of_mem token hmem, hcodec'⟩, happend⟩

theorem searchTokens_false {transceivers : List KvsRtpTransceiver} {payloadTypes : List (List Char)}
    {f f' : Finder} (h : f.searchTokens transceivers payloadTypes = (f', false)) : f' = f := by
  induction payloadTypes generalizing f with
  | nil => exact (Prod.mk.inj h).1.symm
  | cons token rest ih =>
    unfold Finder.searchTokens at h
    split at h
    · exact ih h
    · split at h
      · exact absurd h (by simp)
      · rename_i g hfound
        rw [findCodecInTransceivers_false hfound] at h
        exact ih h

@[simp]
theorem keepRtpMapValue_answerTransceivers (firstCodec : List Char) (f : Finder)
    (a : SdpAttribute) :
    (f.keepRtpMapValue firstCodec a).answerTransceivers = f.answerTransceivers := by
  unfold Finder.keepRtpMapValue
  split
  · rfl
  · split <;> rfl

theorem searchAttributes_true {transceivers : List KvsRtpTransceiver} {firstCodec : List Char}
    {attributes : List SdpAttribute} {f f' : Finder}
    (h : f.searchAttributes transceivers firstCodec attributes = (f', true)) :
    ∃ t ∈ transceivers,
      (∃ a ∈ attributes, isRtpmap a = true ∧ namedCodec? a.attributeValue = some t.codec) ∧
      f'.answerTransceivers = f.answerTransceivers ++ [t] := by
  induction attributes generalizing f with
  | nil => exact absurd h (by simp [Finder.searchAttributes])
  | cons a rest ih =>
    -- a transceiver that is found later is found in one of the other attributes
    have hlater : ∀ {g : Finder}, g.answerTransceivers = f.answerTransceivers →
        g.searchAttributes transceivers firstCodec rest = (f', true) →
        ∃ t ∈ transceivers,
          (∃ b ∈ a :: rest, isRtpmap b = true ∧ namedCodec? b.attributeValue = some t.codec) ∧
          f'.answerTransceivers = f.answerTransceivers ++ [t] := by
      intro g hg hrest
      obtain ⟨t, ht, ⟨b, hb, hnamed⟩, happend⟩ := ih hrest
      exact ⟨t, ht, ⟨b, List.mem_cons_of_mem a hb, hnamed⟩, hg ▸ happend⟩
    unfold Finder.searchAttributes at h
    split at h
    · rename_i hrtpmap
      cases hnamed : namedCodec? a.attributeValue with
      | none =>
        rw [hnamed, Option.elim_none] at h
        exact hlater (by simp) h
      | some codec =>
        rw [hnamed, Option.elim_some] at h
        split at h
        · rename_i g hfound
          obtain ⟨t, ht, hcodec, happend⟩ := findCodecInTransceivers_true hfound
          obtain ⟨rfl, -⟩ := Prod.mk.inj h
          exact ⟨t, ht, ⟨a, List.mem_cons_self, hrtpmap, hcodec ▸ hnamed⟩, happend⟩
        · rename_i g hfound
          rw [findCodecInTransceivers_false hfound] at h
          exact hlater (by simp) h
    · exact hlater rfl h

theorem searchAttributes_false {transceivers : List KvsRtpTransceiver} {firstCodec : List Char}
    {attributes : List SdpAttribute} {f f' : Finder}
    (h : f.searchAttributes transceivers firstCodec attributes = (f', false)) :
    f'.answerTransceivers = f.answerTransceivers := by
  induction attributes generalizing f with
  | nil => rw [(Prod.mk.inj h).1]
  | cons a rest ih =>
    unfold Finder.searchAttributes at h
    split at h
    · cases hnamed : namedCodec? a.attributeValue with
      | none =>
        rw [hnamed, Option.elim_none] at h
        rw [ih h, keepRtpMapValue_answerTransceivers]
      | some codec =>
        rw [hnamed, Option.elim_some] at h
        split at h
        · exact absurd h (by simp)
        · rename_i g hfound
          rw [findCodecInTransceivers_false hfound] at h
          rw [ih h, keepRtpMapValue_answerTransceivers]
    · exact ih h

section

variable {pic : Platform} {rand : Nat → Nat}

theorem addFake_ok {f f' : Finder} {kind : TrackKind} {firstCodec : List Char}
    (h : f.addFake pic rand kind firstCodec = (.ok (), f')) :
    f'.answerTransceivers = f.answerTransceivers ++ [f.fakeTransceiver rand kind] := by
  simp only [Finder.addFake] at h
  split at h
  · exact absurd h (by simp)
  · obtain ⟨-, rfl⟩ := Prod.mk.inj h
    unfold Finder.keepUnknown
    split <;> rfl

theorem mediaSection_some {transceivers : List KvsRtpTransceiver} {f f' : Finder}
    {m : SdpMediaDescription} {kind : TrackKind} (hkind : streamKind? m.mediaName = some kind)
    (h : f.mediaSection pic rand transceivers m = (.ok (), f')) :
    ∃ t, Found transceivers m t ∧ f'.answerTransceivers = f.answerTransceivers ++ [t] := by
  simp only [Finder.mediaSection, hkind] at h
  generalize hg : (if (tokens m.mediaName).drop 3 = [] then f
    else { f with codecs := some (spaced ((tokens m.mediaName).drop 3)) }) = g at h
  have hanswer : g.answerTransceivers = f.answerTransceivers := by
    rw [← hg]
    split <;> rfl
  rw [← hanswer]
  cases htokens : g.searchTokens transceivers ((tokens m.mediaName).drop 3) with
  | mk g₁ found =>
    rw [htokens] at h
    simp only at h
    split at h
    · exact absurd h (by simp)
    · split at h
      · exact absurd h (by simp)
      · cases found with
        | true =>
          obtain ⟨t, ht, hnames, happend⟩ := searchTokens_true htokens
          rw [if_pos rfl] at h
          obtain ⟨-, rfl⟩ := Prod.mk.inj h
          exact ⟨t, .inr ⟨ht, .inl hnames⟩, happend⟩
        | false =>
          rw [if_neg Bool.false_ne_true] at h
          rw [searchTokens_false htokens] at h
          split at h
          · rename_i g₂ hfound
            obtain ⟨t, ht, hnames, happend⟩ := searchAttributes_true hfound
            obtain ⟨-, rfl⟩ := Prod.mk.inj h
            exact ⟨t, .inr ⟨ht, .inr hnames⟩, happend⟩
          · rename_i g₂ hfound
            refine ⟨g₂.fakeTransceiver rand kind, .inl ⟨hkind, rfl⟩, ?_⟩
            rw [addFake_ok h, searchAttributes_false hfound]

theorem mediaSection_none {transceivers : List KvsRtpTransceiver} {f f' : Finder}
    {m : SdpMediaDescription} (hkind : streamKind? m.mediaName = none)
    (h : f.mediaSection pic rand transceivers m = (.ok (), f')) : f' = f := by
  simp only [Finder.mediaSection, hkind] at h
  exact (Prod.mk.inj h).2.symm

/-- A section of audio or video, as far as the first token is compared. -/
def SdpMediaDescription.isMedia (m : SdpMediaDescription) : Bool := (streamKind? m.mediaName).isSome

/-- **One transceiver for each section**: the list grows by a transceiver for every section of audio
or video, in their order. -/
theorem mediaSections_spec {transceivers : List KvsRtpTransceiver}
    {sections : List SdpMediaDescription} {f f' : Finder}
    (h : Finder.mediaSections pic rand transceivers sections f = (.ok (), f')) :
    ∃ new, f'.answerTransceivers = f.answerTransceivers ++ new ∧
      List.Forall₂ (Found transceivers) (sections.filter (·.isMedia)) new := by
  induction sections generalizing f with
  | nil =>
    obtain ⟨-, rfl⟩ := Prod.mk.inj h
    exact ⟨[], (List.append_nil _).symm, .nil⟩
  | cons m sections ih =>
    unfold Finder.mediaSections at h
    split at h
    · exact absurd h (by simp)
    · rename_i g hsection
      obtain ⟨new, happend, hfound⟩ := ih h
      cases hkind : streamKind? m.mediaName with
      | none =>
        rw [mediaSection_none hkind hsection] at happend
        refine ⟨new, happend, ?_⟩
        rw [List.filter_cons_of_neg (by simp [SdpMediaDescription.isMedia, hkind])]
        exact hfound
      | some kind =>
        obtain ⟨t, ht, happend'⟩ := mediaSection_some hkind hsection
        refine ⟨t :: new, ?_, ?_⟩
        · rw [happend, happend', List.append_assoc, List.singleton_append]
        · rw [List.filter_cons_of_pos (by simp [SdpMediaDescription.isMedia, hkind])]
          exact .cons ht hfound

end

/-! ### The sections of the answer -/

/-- The section that is written for a transceiver, with its number.  Only a placeholder looks in the
tables of unknown codecs. -/
def Written (pc : KvsPeerConnection) (remote : SessionDescription) (p : KvsRtpTransceiver × Nat)
    (s : SdpMediaDescription) : Prop :=
  ∃ codecs key, (p.1.codec ≠ .unknown → codecs = none) ∧
    populateSingleMediaSection pc p.1 (some remote) p.2 "active".toList codecs key = .ok s

/-- **One section for each transceiver**: those of the list that are present in the remote
description are written one after the other, and each gets its place as its number. -/
theorem answerSections_spec {pc : KvsPeerConnection} {remote : SessionDescription}
    {unknown : UnknownCodecs} {transceivers : List KvsRtpTransceiver} {unknownKey : Nat}
    {sections out : List SdpMediaDescription}
    (h : answerSections pc remote unknown transceivers unknownKey sections = .ok out) :
    ∃ new, out = sections ++ new ∧
      List.Forall₂ (Written pc remote)
        ((transceivers.filter (isPresentInRemote · remote)).zipIdx sections.length) new := by
  induction transceivers generalizing unknownKey sections with
  | nil =>
    obtain rfl := Except.ok.inj h
    exact ⟨[], (List.append_nil _).symm, .nil⟩
  | cons t transceivers ih =>
    -- a section that was written for `t` is the next one
    have hnext : ∀ {key : Nat} {s : SdpMediaDescription}, isPresentInRemote t remote = true →
        Written pc remote (t, sections.length) s →
        answerSections pc remote unknown transceivers key (sections ++ [s]) = .ok out →
        ∃ new, out = sections ++ new ∧
          List.Forall₂ (Written pc remote)
            (((t :: transceivers).filter (isPresentInRemote · remote)).zipIdx sections.length)
            new := by
      intro key s hpresent hs hrest
      obtain ⟨new, hout, hnew⟩ := ih hrest
      refine ⟨s :: new, ?_, ?_⟩
      · rw [hout, List.append_assoc, List.singleton_append]
      · rw [List.filter_cons, if_pos hpresent, List.zipIdx_cons]
        rw [List.length_append, List.length_singleton] at hnew
        exact .cons hs hnew
    unfold answerSections at h
    split at h
    · split at h
      · rename_i hpresent
        split at h
        · rename_i hunknown
          split at h
          · exact absurd h (by simp)
          · rename_i s hs
            exact hnext hpresent ⟨_, _, fun hne => absurd hunknown hne, hs⟩ h
        · split at h
          · exact absurd h (by simp)
          · rename_i s hs
            exact hnext hpresent ⟨_, _, fun _ => rfl, hs⟩ h
      · rename_i hpresent
        rw [List.filter_cons, if_neg hpresent]
        exact ih h
    · exact absurd h (by simp)

section

variable {pic : Platform} {rand : Nat → Nat} {fits : SessionDescription → Bool}

theorem populateSessionDescriptionMedia_ok {pc found : KvsPeerConnection}
    {remote : SessionDescription} {all : List SdpMediaDescription} (hoffer : pc.isOffer = false)
    (h : populateSessionDescriptionMedia pic rand pc (some remote) = (.ok all, found)) :
    ∃ unknown sections,
      findTransceiversByRemoteDescription pic rand pc remote = (.ok unknown, found) ∧
      answerSections found remote unknown found.answerTransceivers 0 [] = .ok sections ∧
      addDataChannel found "active".toList sections = .ok all := by
  unfold populateSessionDescriptionMedia at h
  rw [hoffer, if_neg Bool.false_ne_true] at h
  simp only at h
  split at h
  · exact absurd h (by simp)
  · rename_i unknown found' hfind
    obtain ⟨hall, rfl⟩ := Prod.mk.inj h
    split at hall
    · exact absurd hall (by simp)
    · rename_i sections hsections
      exact ⟨unknown, sections, hfind, hsections, hall⟩

theorem populateSessionDescription_ok {pc found : KvsPeerConnection}
    {remote answer : SessionDescription}
    (h : populateSessionDescription pic rand pc (some remote) = (.ok answer, found)) :
    populateSessionDescriptionMedia pic rand pc (some remote) =
      (.ok answer.mediaDescriptions, found) := by
  unfold populateSessionDescription at h
  rw [if_neg (by simp)] at h
  split at h
  · exact absurd h (by simp)
  · rename_i all found' hmedia
    obtain ⟨hanswer, rfl⟩ := Prod.mk.inj h
    rw [hmedia]
    split at hanswer
    · exact absurd hanswer (by simp)
    · obtain rfl := Except.ok.inj hanswer
      rfl

/-- The steps of `createAnswer` that succeeded. -/
theorem createAnswer_ok {pc pc' : KvsPeerConnection} {answer : SessionDescription}
    (h : createAnswer pic rand fits pc = (.ok answer, pc')) :
    ∃ remote found unknown sections, pc.remoteSessionDescription = some remote ∧
      findTransceiversByRemoteDescription pic rand { pc with isOffer := false } remote =
        (.ok unknown, found) ∧
      answerSections found remote unknown found.answerTransceivers 0 [] = .ok sections ∧
      addDataChannel found "active".toList sections = .ok answer.mediaDescriptions ∧
      pc' = { found with remoteSessionDescription := none } := by
  unfold createAnswer at h
  split at h
  · exact absurd h (by simp)
  · rename_i remote hremote
    split at h
    · exact absurd h (by simp)
    · rename_i answer' found hpopulate
      split at h
      · obtain ⟨hanswer, hpc⟩ := Prod.mk.inj h
        obtain rfl := Except.ok.inj hanswer
        obtain ⟨unknown, sections, hfind, hsections, hall⟩ :=
          populateSessionDescriptionMedia_ok rfl (populateSessionDescription_ok hpopulate)
        exact ⟨remote, found, unknown, sections, hremote, hfind, hsections, hall, hpc.symm⟩
      · exact absurd h (by simp)

/-- What `findTransceiversByRemoteDescription` changes of the connection. -/
theorem findTransceiversByRemoteDescription_ok {pc found : KvsPeerConnection}
    {remote : SessionDescription} {unknown : UnknownCodecs}
    (h : findTransceiversByRemoteDescription pic rand pc remote = (.ok unknown, found)) :
    ∃ new fake,
      found = { pc with
        answerTransceivers := pc.answerTransceivers ++ new
        fakeTransceivers := fake } ∧
      List.Forall₂ (Found pc.transceivers) (remote.mediaDescriptions.filter (·.isMedia)) new := by
  unfold findTransceiversByRemoteDescription at h
  split at h
  rename_i r f hsections
  obtain ⟨hr, rfl⟩ := Prod.mk.inj h
  cases r with
  | error e => exact absurd hr (by simp [Except.map])
  | ok u =>
    obtain ⟨new, hnew, hfound⟩ := mediaSections_spec hsections
    refine ⟨new, f.fakeTransceivers, ?_, hfound⟩
    rw [hnew]

/-- What `setRemoteDescription` changes of the connection. -/
theorem setRemoteDescription_ok {pc pc' : KvsPeerConnection} {offer : SessionDescription}
    (h : setRemoteDescription pic pc offer = .ok pc') :
    setPayloadTypesFromOffer pic pc.codecTable pc.rtxTable offer = .ok
    (pc'.codecTable, pc'.rtxTable) ∧
      setTransceiverPayloadTypes pc'.codecTable pc'.rtxTable pc.transceivers = .ok
        pc'.transceivers ∧
      pc'.remoteSessionDescription = some offer ∧ pc'.answerTransceivers = pc.answerTransceivers ∧
      pc'.sctpIsEnabled = (pc.sctpIsEnabled ||
        offer.mediaDescriptions.any fun m => sameUpTo 11 m.mediaName "application".toList) := by
  unfold setRemoteDescription at h
  split at h
  · exact absurd h (by simp)
  · split at h
    · exact absurd h (by simp)
    · split at h
      · exact absurd h (by simp)
      · rename_i codecTable rtxTable htables
        split at h
        · exact absurd h (by simp)
        · rename_i transceivers htransceivers
          obtain rfl := Except.ok.inj h
          exact ⟨htables, htransceivers, rfl, rfl, rfl⟩

end

/-! ### Kinds -/

theorem streamKind?_of_firstToken {m : SdpMediaDescription} {kind : TrackKind}
    (h : firstToken m.mediaName = kind.value) : streamKind? m.mediaName = some kind := by
  unfold streamKind?
  rw [h]
  cases kind <;> rfl

theorem streamKind?_application {m : SdpMediaDescription}
    (h : firstToken m.mediaName = "application".toList) : streamKind? m.mediaName = none := by
  unfold streamKind?
  rw [h]
  rfl

theorem take_of_firstToken {s : List Char} {token : List Char} (h : firstToken s = token) :
    s.take token.length = token := by
  rw [← h]
  exact List.prefix_iff_eq_take.mp (List.takeWhile_prefix _) |>.symm

theorem sameUpTo_application {m : SdpMediaDescription}
    (h : firstToken m.mediaName = "application".toList) :
    sameUpTo 11 m.mediaName "application".toList = true := by
  have htake : m.mediaName.take 11 = "application".toList := take_of_firstToken h
  unfold sameUpTo
  rw [htake]
  rfl

theorem sameUpTo_media {m : SdpMediaDescription} {kind : TrackKind}
    (h : firstToken m.mediaName = kind.value) :
    sameUpTo 11 m.mediaName "application".toList = false := by
  have htake : m.mediaName.take 5 = kind.value := by
    have hlen : kind.value.length = 5 := by cases kind <;> rfl
    rw [← hlen]
    exact take_of_firstToken h
  apply Bool.eq_false_iff.mpr
  intro hsame
  have hall : m.mediaName.take 11 = "application".toList.take 11 := beq_iff_eq.mp hsame
  have hfive : m.mediaName.take 5 = ("application".toList.take 11).take 5 := by
    rw [← hall, List.take_take]
    rfl
  rw [htake] at hfive
  revert hfive
  cases kind <;> decide

/-! ### Answers mirror their offers -/

/-- A section of an answer mirrors the `i`-th section of the offer: it is of the same kind, it has
the same `mid`, if there is one, and a direction that suits the offered one.  The `mid` of a data
channel is its place; the answer to an `inactive` section is left open. -/
structure Mirrors (i : Nat) (offered answered : SdpMediaDescription) : Prop where
  kind : firstToken answered.mediaName = firstToken offered.mediaName
  mid : ∀ v, midOf offered = some v → v ≠ [] →
    (firstToken offered.mediaName = "application".toList → v = decimal i) → midOf answered = some v
  direction : firstToken offered.mediaName ≠ "application".toList →
  directionOf offered ≠ .inactive → (directionOf answered).answers (directionOf offered) = true

/-- The sections of audio and video come first; behind them there is at most one data channel. -/
def SessionDescription.dataChannelLast (offer : SessionDescription) : Prop :=
  ∃ media rest, offer.mediaDescriptions = media ++ rest ∧
    (∀ m ∈ media, ∃ kind : TrackKind, firstToken m.mediaName = kind.value) ∧
    rest.length ≤ 1 ∧ ∀ m ∈ rest, firstToken m.mediaName = "application".toList

/-- A transceiver with a codec that a section of audio or video names is of the kind of the
section. -/
def SessionDescription.suits (offer : SessionDescription) (transceivers : List KvsRtpTransceiver) :
    Prop :=
  ∀ m ∈ offer.mediaDescriptions, ∀ t ∈ transceivers, m.isMedia = true → m.names t.codec →
    firstToken m.mediaName = t.kind.value

instance (offer : SessionDescription) (transceivers : List KvsRtpTransceiver) :
    Decidable (offer.suits transceivers) :=
  inferInstanceAs (Decidable (∀ m ∈ offer.mediaDescriptions, ∀ t ∈ transceivers, m.isMedia = true →
    m.names t.codec → firstToken m.mediaName = t.kind.value))

def negotiate (pic : Platform) (rand : Nat → Nat) (fits : SessionDescription → Bool)
    (pc : KvsPeerConnection) (offer : SessionDescription) :
    Except Failure (SessionDescription × KvsPeerConnection) :=
  match setRemoteDescription pic pc offer with
  | .error e => .error e
  | .ok pc =>
    match createAnswer pic rand fits pc with
    | (.error e, _) => .error e
    | (.ok answer, pc) => .ok (answer, pc)

theorem remoteSection_eq {offer : SessionDescription} {i : Nat} {m : SdpMediaDescription}
    (h : offer.mediaDescriptions[i]? = some m) : remoteSection offer i = m := by
  rw [remoteSection, List.getD_eq_getElem?_getD, h]
  rfl

/-- A section that was written for a transceiver of the right kind. -/
theorem Written.mirrors {pc : KvsPeerConnection} {offer : SessionDescription}
    {t : KvsRtpTransceiver} {i : Nat} {offered s : SdpMediaDescription}
    (hoffer : pc.isOffer = false) (hi : offer.mediaDescriptions[i]? = some offered)
    (hkind : firstToken offered.mediaName = t.kind.value) (h : Written pc offer (t, i) s) :
    Mirrors i offered s := by
  obtain ⟨codecs, key, -, hs⟩ := h
  obtain ⟨n, mid, codec, -, hmid, -, rfl⟩ := populateSingleMediaSection_ok hs
  rw [hoffer] at hmid
  obtain ⟨hname, hvalue⟩ := localMid_spec hmid
  rw [remoteSection_eq hi] at hvalue
  constructor
  · rw [hkind]
    exact firstToken_sectionMediaName t n
  · intro v hv hne _
    rw [midOf_sectionWith hname, hvalue v hv hne]
  · intro _ hactive
    rw [← remoteSection_eq hi] at hactive ⊢
    exact directionOf_sectionWith hoffer hname hactive

theorem midOf_dataChannel {pc : KvsPeerConnection} {i : Nat} {dtlsRole : List Char}
    (hi : i < maxSdpSessionMediaCount) :
    midOf (populateSessionDescriptionDataChannel pc i dtlsRole) = some (decimal i) := by
  have hbefore :
      ∀ a ∈ pc.localCandidates.map (copied "candidate") ++ transportAttributes pc dtlsRole,
      a.attributeName ∈ openingNames := by
    intro a ha
    obtain ha | ha := List.mem_append.mp ha
    · obtain ⟨c, -, rfl⟩ := List.mem_map.mp ha
      show "candidate".toList ∈ openingNames
      decide
    · exact openingNames_of_mem_transport ha
  have hlen : (decimal i).length ≤ 1 :=
    (Nat.length_toDigits_le_iff (by decide) (by decide)).mpr (Nat.lt_trans hi (by decide))
  have hmid : (printed "mid" (decimal i)).attributeName = "mid".toList := rfl
  rw [midOf_eq rfl hbefore hmid]
  congr 1
  exact clip_eq_self (Nat.le_trans hlen (by decide))

theorem mirrors_dataChannel {pc : KvsPeerConnection} {i : Nat} {dtlsRole : List Char}
    {offered : SdpMediaDescription} (hi : i < maxSdpSessionMediaCount)
    (hkind : firstToken offered.mediaName = "application".toList) :
    Mirrors i offered (populateSessionDescriptionDataChannel pc i dtlsRole) := by
  constructor
  · rw [hkind]
    rfl
  · intro v _ _ hv
    rw [hv hkind]
    exact midOf_dataChannel hi
  · intro hne
    exact absurd hkind hne

theorem isMedia_of_firstToken {m : SdpMediaDescription} {kind : TrackKind}
    (h : firstToken m.mediaName = kind.value) : m.isMedia = true := by
  rw [SdpMediaDescription.isMedia, streamKind?_of_firstToken h]
  rfl

theorem not_isMedia_application {m : SdpMediaDescription}
    (h : firstToken m.mediaName = "application".toList) : ¬ m.isMedia = true := by
  rw [SdpMediaDescription.isMedia, streamKind?_application h]
  exact Bool.false_ne_true

section

variable {pic : Platform} {rand : Nat → Nat} {fits : SessionDescription → Bool}
  {pc pc₁ pc₂ : KvsPeerConnection} {offer answer : SessionDescription}
  {media rest : List SdpMediaDescription}

theorem application_ne_kind (kind : TrackKind) : kind.value ≠ "application".toList := by
  cases kind <;> decide

theorem filter_isMedia (hmedia : ∀ m ∈ media, ∃ kind : TrackKind, firstToken m.mediaName =
    kind.value) (hrest : ∀ m ∈ rest, firstToken m.mediaName = "application".toList) :
    (media ++ rest).filter (·.isMedia) = media := by
  have hall : media.filter (·.isMedia) = media := by
    apply List.filter_eq_self.mpr
    intro m hm
    obtain ⟨kind, hkind⟩ := hmedia m hm
    exact isMedia_of_firstToken hkind
  have hnone : rest.filter (·.isMedia) = [] := by
    apply List.filter_eq_nil_iff.mpr
    intro m hm
    exact not_isMedia_application (hrest m hm)
  rw [List.filter_append, hall, hnone, List.append_nil]

/-- The transceivers that were found are of the kinds of the sections. -/
theorem found_kind (hset : setRemoteDescription pic pc offer = .ok pc₁)
    (hsuits : offer.suits pc.transceivers) {m : SdpMediaDescription}
    (hm : m ∈ offer.mediaDescriptions) {kind : TrackKind}
    (hkind : firstToken m.mediaName = kind.value) {t : KvsRtpTransceiver}
    (h : Found pc₁.transceivers m t) : firstToken m.mediaName = t.kind.value := by
  obtain ⟨hstream, -⟩ | ⟨hmem, hnames⟩ := h
  · rw [streamKind?_of_firstToken hkind] at hstream
    rw [hkind, Option.some.inj hstream]
  · -- what was found is a transceiver of the connection with new payload types
    obtain ⟨-, htransceivers, -⟩ := setRemoteDescription_ok hset
    obtain ⟨t₀, hmem₀, ht₀⟩ := exists_of_mem_right (setTransceiverPayloadTypes_ok htransceivers)
      hmem
    have hsame := (setPayloadTypes_ok ht₀).1
    rw [hsame.codec] at hnames
    rw [hsame.kind]
    exact hsuits m hm t₀ hmem₀ (isMedia_of_firstToken hkind) hnames

/-- The data channel is there after `setRemoteDescription` if the offer has one. -/
theorem sctpIsEnabled_eq (hset : setRemoteDescription pic pc offer = .ok pc₁)
    (hoffer : offer.mediaDescriptions = media ++ rest)
    (hmedia : ∀ m ∈ media, ∃ kind : TrackKind, firstToken m.mediaName = kind.value)
    (hrest : ∀ m ∈ rest, firstToken m.mediaName = "application".toList)
    (hchannel : pc.sctpIsEnabled = true → rest ≠ []) :
    pc₁.sctpIsEnabled = true ↔ rest ≠ [] := by
  obtain ⟨-, -, -, -, hsctp⟩ := setRemoteDescription_ok hset
  rw [hsctp, Bool.or_eq_true, hoffer, List.any_append, Bool.or_eq_true]
  constructor
  · rintro (h | h | h)
    · exact hchannel h
    · obtain ⟨m, hm, hsame⟩ := List.any_eq_true.mp h
      obtain ⟨kind, hkind⟩ := hmedia m hm
      rw [sameUpTo_media hkind] at hsame
      exact absurd hsame Bool.false_ne_true
    · obtain ⟨m, hm, -⟩ := List.any_eq_true.mp h
      exact List.ne_nil_of_mem hm
  · intro hne
    obtain ⟨m, hm⟩ := List.exists_mem_of_ne_nil rest hne
    exact .inr (.inr (List.any_eq_true.mpr ⟨m, hm, sameUpTo_application (hrest m hm)⟩))

/-- The sections of audio and video, which come first. -/
theorem mirrors_media {found : KvsPeerConnection} {new : List KvsRtpTransceiver}
    {sections : List SdpMediaDescription} (hfound : found.isOffer = false)
    (hoffer : offer.mediaDescriptions = media ++ rest)
    (hkinds : List.Forall₂ (fun m t => firstToken m.mediaName = t.kind.value) media new)
    (hwritten : List.Forall₂ (Written found offer)
      ((new.filter (isPresentInRemote · offer)).zipIdx 0) sections) :
    List.Forall₂ (fun p s => Mirrors p.2 p.1 s) media.zipIdx sections := by
  have hpresent : new.filter (isPresentInRemote · offer) = new := by
    apply List.filter_eq_self.mpr
    intro t ht
    obtain ⟨m, hm, hkind⟩ := exists_of_mem_right hkinds ht
    apply List.any_eq_true.mpr
    refine ⟨m, ?_, beq_iff_eq.mpr hkind⟩
    rw [hoffer]
    exact List.mem_append_left rest hm
  rw [hpresent] at hwritten
  have hplace : ∀ p ∈ media.zipIdx, offer.mediaDescriptions[p.2]? = some p.1 := by
    intro p hp
    have hp' : media[p.2]? = some p.1 := List.mk_mem_zipIdx_iff_getElem?.mp hp
    rw [hoffer, List.getElem?_append_left (List.getElem?_eq_some_iff.mp hp').1]
    exact hp'
  have hboth := (List.forall₂_and_left _ _).mpr ⟨hplace, forall₂_zipIdx_comp hkinds hwritten⟩
  apply hboth.imp
  rintro ⟨m, i⟩ s ⟨hi, t, hkind, hs⟩
  exact hs.mirrors hfound hi hkind

theorem negotiate_ok (h : negotiate pic rand fits pc offer = .ok (answer, pc₂)) :
    ∃ pc₁, setRemoteDescription pic pc offer = .ok pc₁ ∧
      createAnswer pic rand fits pc₁ = (.ok answer, pc₂) := by
  unfold negotiate at h
  split at h
  · exact absurd h (by simp)
  · rename_i pc₁ hset
    split at h
    · exact absurd h (by simp)
    · rename_i answer' pc₂' hcreate
      obtain ⟨rfl, rfl⟩ := Prod.mk.inj (Except.ok.inj h)
      exact ⟨pc₁, hset, hcreate⟩

/-- **An answer mirrors its offer.**  The first answer of a connection has as many sections as the
offer, and every section mirrors the one at its place.  The remote description is used up then:
another answer is refused. -/
theorem createAnswer_mirrors_offer (hfirst : pc.answerTransceivers = [])
    (hchannel : pc.sctpIsEnabled = true →
      ∃ m ∈ offer.mediaDescriptions, firstToken m.mediaName = "application".toList)
    (hlast : offer.dataChannelLast) (hsuits : offer.suits pc.transceivers)
    (h : negotiate pic rand fits pc offer = .ok (answer, pc₂)) :
    List.Forall₂ (fun p s => Mirrors p.2 p.1 s) offer.mediaDescriptions.zipIdx
      answer.mediaDescriptions ∧
      createAnswer pic rand fits pc₂ =
        (.error (.status .createAnswerWithoutRemoteDescription), pc₂) := by
  obtain ⟨media, rest, hoffer, hmedia, hlen, hrest⟩ := hlast
  obtain ⟨pc₁, hset, hcreate⟩ := negotiate_ok h
  obtain ⟨-, -, hremote, hanswer, -⟩ := setRemoteDescription_ok hset
  obtain ⟨remote, found, unknown, sections, hremote', hfind, hsections, hall, rfl⟩ :=
    createAnswer_ok hcreate
  obtain rfl : offer = remote := Option.some.inj (hremote.symm.trans hremote')
  obtain ⟨new, fake, hfound, hnew⟩ := findTransceiversByRemoteDescription_ok hfind
  refine ⟨?_, rfl⟩
  have hlist : found.answerTransceivers = new := by
    rw [hfound]
    show pc₁.answerTransceivers ++ new = new
    rw [hanswer, hfirst, List.nil_append]
  have hsctp : found.sctpIsEnabled = pc₁.sctpIsEnabled := by
    rw [hfound]
  have hisOffer : found.isOffer = false := by
    rw [hfound]
  -- one transceiver of the right kind for each section of audio or video
  rw [hoffer, filter_isMedia hmedia hrest] at hnew
  have hkinds : List.Forall₂ (fun m t => firstToken m.mediaName = t.kind.value) media new := by
    have hboth := (List.forall₂_and_left _ _).mpr ⟨fun m hm => hm, hnew⟩
    apply hboth.imp
    rintro m t ⟨hm, ht⟩
    obtain ⟨kind, hkind⟩ := hmedia m hm
    have hmem : m ∈ offer.mediaDescriptions := hoffer ▸ List.mem_append_left rest hm
    exact found_kind hset hsuits hmem hkind ht
  -- one section for each transceiver
  obtain ⟨written, hwritten, hall₂⟩ := answerSections_spec hsections
  rw [List.nil_append] at hwritten
  subst hwritten
  rw [hlist] at hall₂
  have hmirrors := mirrors_media hisOffer hoffer hkinds hall₂
  have hcount : sections.length = media.length := by
    rw [← hmirrors.length_eq, List.length_zipIdx]
  -- and the data channel
  have hneeded : pc.sctpIsEnabled = true → rest ≠ [] := by
    intro h
    obtain ⟨m, hm, hkind⟩ := hchannel h
    rw [hoffer] at hm
    obtain hm | hm := List.mem_append.mp hm
    · obtain ⟨kind, hkind'⟩ := hmedia m hm
      exact absurd (hkind'.symm.trans hkind) (application_ne_kind kind)
    · exact List.ne_nil_of_mem hm
  have henabled := sctpIsEnabled_eq hset hoffer hmedia hrest hneeded
  rw [hoffer, List.zipIdx_append]
  unfold addDataChannel at hall
  rw [hsctp] at hall
  by_cases hempty : rest = []
  · rw [if_neg (fun h => henabled.mp h hempty)] at hall
    obtain rfl := Except.ok.inj hall
    rw [hempty, List.zipIdx_nil, List.append_nil]
    exact hmirrors
  · rw [if_pos (henabled.mpr hempty)] at hall
    split at hall
    · rename_i hmax
      obtain ⟨m, rfl⟩ : ∃ m, rest = [m] :=
        List.length_eq_one_iff.mp (by
          have := List.length_pos_iff.mpr hempty
          omega)
      rw [← Except.ok.inj hall]
      apply List.rel_append hmirrors
      rw [List.zipIdx_cons, List.zipIdx_nil, Nat.zero_add, ← hcount]
      exact .cons (mirrors_dataChannel hmax (hrest m List.mem_cons_self)) .nil
    · exact absurd hall (by simp)

end

/-! ### Connections and offers to try -/

def digitParser : Platform :=
  let parse (s : List Char) : Except Failure Nat :=
    if s ≠ [] ∧ s.all Char.isDigit then .ok (Nat.ofDigitChars 10 s 0)
      else .error (.status .invalidArg)
  ⟨parse, parse⟩

def sampleTransceiver (kind : TrackKind) (codec : RtcCodec) : KvsRtpTransceiver :=
  ⟨codec.key, kind, codec, "stream".toList, "track".toList, .sendrecv, 11, 12, 0, 0⟩

def sampleConnection (transceivers : List KvsRtpTransceiver) : KvsPeerConnection where
  isOffer := false
  remoteSessionDescription := none
  transceivers := transceivers
  fakeTransceivers := []
  answerTransceivers := []
  sctpIsEnabled := false
  codecTable k := if transceivers.any fun t => t.codec.key == k then some 0 else none
  rtxTable _ := none
  canTrickleIce := true
  twccExtId := 0
  localIceUfrag := "ufrag".toList
  localIcePwd := "pwd".toList
  localCNAME := "cname".toList
  certificateFingerprint := "AB".toList
  remoteCertificateFingerprint := []
  localCandidates := []

def sampleSection (mediaName mid : String) (lines : List SdpAttribute) : SdpMediaDescription :=
  ⟨mediaName.toList,
    [copied "ice-ufrag" "u".toList, copied "ice-pwd" "p".toList,
    copied "fingerprint" "sha-256 CD".toList, copied "mid" mid.toList] ++ lines⟩

def sampleVideo (mid direction : String) : SdpMediaDescription :=
  sampleSection "video 9 UDP/TLS/RTP/SAVPF 96" mid
    [copied direction [], copied "rtpmap" "96 VP8/90000".toList]

def sampleAudio (mid direction : String) : SdpMediaDescription :=
  sampleSection "audio 9 UDP/TLS/RTP/SAVPF 111" mid
    [copied direction [], copied "rtpmap" "111 opus/48000/2".toList]

def sampleChannel (mid : String) : SdpMediaDescription :=
  sampleSection "application 9 UDP/DTLS/SCTP webrtc-datachannel" mid []

theorem exists_of_isOk {ε α : Type} {r : Except ε α} (h : r.isOk = true) : ∃ a, r = .ok a := by
  cases r with
  | error e => exact absurd h Bool.false_ne_true
  | ok a => exact ⟨a, rfl⟩

def tryOffer (pc : KvsPeerConnection) (sections : List SdpMediaDescription) :
    Except Failure (SessionDescription × KvsPeerConnection) :=
  negotiate digitParser id (fun _ => true) pc ⟨[], sections⟩

/-- The kinds of the sections of an answer, and their directions. -/
def shown (r : Except Failure (SessionDescription × KvsPeerConnection)) :
    Option (List (List Char × TransceiverDirection)) :=
  r.toOption.map fun r => r.1.mediaDescriptions.map fun m => (firstToken m.mediaName, directionOf m)

theorem createAnswer_mirrors_sample :
    ∃ answer pc₂,
      tryOffer (sampleConnection [sampleTransceiver .video .vp8, sampleTransceiver .audio .opus])
        [sampleAudio "a" "sendonly", sampleVideo "v" "recvonly", sampleChannel "2"] = .ok
        (answer, pc₂) ∧
      List.Forall₂ (fun p s => Mirrors p.2 p.1 s)
        [sampleAudio "a" "sendonly", sampleVideo "v" "recvonly", sampleChannel "2"].zipIdx
        answer.mediaDescriptions := by
  obtain ⟨⟨answer, pc₂⟩, h⟩ : ∃ r,
      tryOffer (sampleConnection [sampleTransceiver .video .vp8, sampleTransceiver .audio .opus])
        [sampleAudio "a" "sendonly", sampleVideo "v" "recvonly", sampleChannel "2"] = .ok r := by
    apply exists_of_isOk
    decide +kernel
  refine ⟨answer, pc₂, h, ?_⟩
  refine (createAnswer_mirrors_offer rfl (fun hfalse => absurd hfalse (by decide)) ?_ ?_ h).1
  · refine ⟨[sampleAudio "a" "sendonly", sampleVideo "v" "recvonly"], [sampleChannel "2"], rfl, ?_,
      by decide, by decide +kernel⟩
    intro m hm
    rw [List.mem_cons, List.mem_singleton] at hm
    obtain rfl | rfl := hm
    · exact ⟨.audio, by decide +kernel⟩
    · exact ⟨.video, by decide +kernel⟩
  · decide +kernel

theorem answer_departs_from_offer :
    -- another answer to the same offer is refused
    ((tryOffer (sampleConnection [sampleTransceiver .video .vp8])
      [sampleVideo "v" "sendrecv"]).toOption.map
      fun r => (createAnswer digitParser id (fun _ => true) r.2).1.isOk) = some false ∧
    -- a data channel that comes first is answered last
    shown (tryOffer (sampleConnection [sampleTransceiver .video .vp8])
      [sampleChannel "c", sampleVideo "v" "sendrecv"]) =
        some [("video".toList, .sendrecv), ("application".toList, .sendrecv)] ∧
    -- `inactive` is not answered by a direction
    shown (tryOffer (sampleConnection [sampleTransceiver .video .vp8])
      [sampleVideo "v" "inactive"]) = some [("video".toList, .sendrecv)] ∧
    -- the next offer of a connection still finds the transceivers of the one before
    ((tryOffer (sampleConnection [sampleTransceiver .video .vp8])
    [sampleVideo "v" "sendrecv"]).toOption.map
      fun r => shown (tryOffer r.2 [sampleVideo "v" "sendrecv"])) =
        some (some [("video".toList, .sendrecv), ("video".toList, .sendrecv)]) ∧
    -- a data channel of this side is in every answer
    shown (tryOffer { sampleConnection [sampleTransceiver .video .vp8] with sctpIsEnabled := true }
      [sampleVideo "v" "sendrecv"]) = some [("video".toList, .sendrecv),
      ("application".toList, .sendrecv)] ∧
    -- the `mid` of a data channel is its place, not the one that is offered
    ((tryOffer (sampleConnection [sampleTransceiver .video .vp8])
      [sampleVideo "v" "sendrecv", sampleChannel "c"]).toOption.map
        fun r => r.1.mediaDescriptions.map midOf) = some [some "v".toList, some "1".toList] ∧
    -- of two data channels one is answered
    shown (tryOffer (sampleConnection [sampleTransceiver .video .vp8])
      [sampleVideo "v" "sendrecv", sampleChannel "1", sampleChannel "2"]) =
        some [("video".toList, .sendrecv), ("application".toList, .sendrecv)] ∧
    -- the direction of a data channel is not looked at
    shown (tryOffer (sampleConnection [sampleTransceiver .video .vp8])
      [sampleVideo "v" "sendrecv",
        sampleSection "application 9 UDP/DTLS/SCTP webrtc-datachannel" "1"
        [copied "sendonly" []]]) =
          some [("video".toList, .sendrecv), ("application".toList, .sendrecv)] ∧
    -- a transceiver answers a section of another kind
    shown (tryOffer (sampleConnection [sampleTransceiver .audio .vp8])
      [sampleVideo "v" "sendrecv", sampleAudio "a" "sendrecv"]) =
        some [("audio".toList, .sendrecv), ("audio".toList, .inactive)] := by
  refine ⟨?_, ?_, ?_, ?_, ?_, ?_, ?_, ?_, ?_⟩ <;> decide +kernel

end KvsWebrtc.Sdp
