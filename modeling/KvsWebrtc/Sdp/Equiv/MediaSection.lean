import KvsWebrtc.Sdp.MediaSection

/-!
# The parts of a media section

What a section that `populateSingleMediaSection` has written shows: the tokens of its media name,
its `mid` and its direction (`tokens_sectionMediaName`, `midOf_sectionWith`,
`directionOf_sectionWith`). All other lines have names of their own, which is why the first line of
a name is the one that is meant.
-/

namespace KvsWebrtc.Sdp

open Text

/-! ### Texts with blanks -/

theorem spaced_singleton (a : List Char) : spaced [a] = a := by
  simp [spaced]

theorem spaced_cons_cons (a b : List Char) (rest : List (List Char)) :
    spaced (a :: b :: rest) = a ++ ' ' :: spaced (b :: rest) := by
  simp [spaced]

theorem tokens_spaced {a : List Char} {rest : List (List Char)} (h : ∀ p ∈ a :: rest, ' ' ∉ p) :
    tokens (spaced (a :: rest)) = a :: rest := by
  induction rest generalizing a with
  | nil =>
    rw [spaced_singleton]
    exact tokens_eq_self (h a List.mem_cons_self)
  | cons b rest ih =>
    rw [spaced_cons_cons, tokens_append_blank (h a List.mem_cons_self)]
    rw [ih fun p hp => h p (List.mem_cons_of_mem a hp)]

theorem blank_notMem_kind (kind : TrackKind) : ' ' ∉ kind.value := by
  cases kind <;> decide

/-! ### The media name -/

theorem length_sectionMediaName_le (t : KvsRtpTransceiver) (n : SectionNumbers) :
    (spaced ([t.kind.value, "9".toList, "UDP/TLS/RTP/SAVPF".toList, decimal64 n.payloadType] ++
      n.rtxPayloadType.toList.map decimal64)).length ≤ maxSdpMediaNameLength := by
  have hkind : t.kind.value.length = 5 := by cases t.kind <;> rfl
  have hnumber := length_decimal64_le n.payloadType
  cases n.rtxPayloadType with
  | none =>
    simp only [Option.toList_none, List.map_nil, List.append_nil, spaced_cons_cons,
      spaced_singleton, List.length_append, List.length_cons, hkind, maxSdpMediaNameLength]
    rw [show "9".toList.length = 1 from rfl, show "UDP/TLS/RTP/SAVPF".toList.length = 17 from rfl]
    omega
  | some rtx =>
    have hrtx := length_decimal64_le rtx
    simp only [Option.toList_some, List.map_cons, List.map_nil, List.cons_append, List.nil_append,
      spaced_cons_cons, spaced_singleton, List.length_append, List.length_cons, hkind,
      maxSdpMediaNameLength]
    rw [show "9".toList.length = 1 from rfl, show "UDP/TLS/RTP/SAVPF".toList.length = 17 from rfl]
    omega

/-- **The tokens of the media name** are the kind, the port, the protocol and the payload types. -/
theorem tokens_sectionMediaName (t : KvsRtpTransceiver) (n : SectionNumbers) :
    tokens (sectionMediaName t n) =
      [t.kind.value, "9".toList, "UDP/TLS/RTP/SAVPF".toList, decimal64 n.payloadType] ++
        n.rtxPayloadType.toList.map decimal64 := by
  rw [sectionMediaName, clip_eq_self (length_sectionMediaName_le t n)]
  rw [List.cons_append]
  apply tokens_spaced
  intro p hp
  rw [← List.cons_append, List.mem_append] at hp
  obtain hp | hp := hp
  · rw [List.mem_cons, List.mem_cons, List.mem_cons, List.mem_singleton] at hp
    obtain rfl | rfl | rfl | rfl := hp
    · exact blank_notMem_kind t.kind
    · decide
    · decide
    · exact blank_notMem_decimal64 _
  · obtain ⟨rtx, -, rfl⟩ := List.mem_map.mp hp
    exact blank_notMem_decimal64 _

theorem firstToken_sectionMediaName (t : KvsRtpTransceiver) (n : SectionNumbers) :
    firstToken (sectionMediaName t n) = t.kind.value := by
  rw [sectionMediaName, List.cons_append, List.cons_append, spaced_cons_cons]
  apply firstToken_clip (blank_notMem_kind t.kind)
  cases t.kind <;> decide

/-! ### The names of the lines -/

/-- The names of the lines before the `mid`. -/
def openingNames : List (List Char) :=
  ["candidate".toList, "msid".toList, "ssrc-group".toList, "ssrc".toList, "rtcp".toList,
    "ice-ufrag".toList, "ice-pwd".toList, "ice-options".toList, "fingerprint".toList,
    "setup".toList]

theorem ssrcAttributes_name {pc : KvsPeerConnection} {t : KvsRtpTransceiver} {ssrc : Nat}
    {suffix : String} {a : SdpAttribute} (h : a ∈ ssrcAttributes pc t ssrc suffix) :
    a.attributeName = "ssrc".toList := by
  simp only [ssrcAttributes, List.mem_cons, List.not_mem_nil, or_false] at h
  obtain rfl | rfl | rfl | rfl := h <;> rfl

theorem openingNames_of_mem_stream {pc : KvsPeerConnection} {t : KvsRtpTransceiver}
    {containRtx : Bool} {a : SdpAttribute} (h : a ∈ streamAttributes pc t containRtx) :
    a.attributeName ∈ openingNames := by
  have hssrc : a.attributeName = "ssrc".toList → a.attributeName ∈ openingNames := fun he => by
    rw [he]; decide
  rw [streamAttributes, List.mem_append, List.mem_append, List.mem_append] at h
  obtain ((h | h) | h) | h := h
  · obtain ⟨c, -, rfl⟩ := List.mem_map.mp h
    show "candidate".toList ∈ openingNames
    decide
  · cases containRtx with
    | false =>
      rw [if_neg (by decide), List.mem_singleton] at h
      subst h
      show "msid".toList ∈ openingNames
      decide
    | true =>
      rw [if_pos rfl, List.mem_cons, List.mem_singleton] at h
      obtain rfl | rfl := h
      · show "msid".toList ∈ openingNames
        decide
      · show "ssrc-group".toList ∈ openingNames
        decide
  · exact hssrc (ssrcAttributes_name h)
  · cases containRtx with
    | false => exact absurd h (by simp)
    | true => exact hssrc (ssrcAttributes_name h)

theorem openingNames_of_mem_transport {pc : KvsPeerConnection} {dtlsRole : List Char}
    {a : SdpAttribute} (h : a ∈ transportAttributes pc dtlsRole) :
    a.attributeName ∈ openingNames := by
  have hname : ∀ {name : String} {value : List Char}, name.toList ∈ openingNames →
      a = copied name value → a.attributeName ∈ openingNames := by
    intro name value hmem he
    rw [he]
    exact hmem
  rw [transportAttributes, List.mem_append, List.mem_append] at h
  obtain (h | h) | h := h
  · rw [List.mem_cons, List.mem_cons, List.mem_singleton] at h
    obtain h | h | h := h <;> exact hname (by decide) h
  · split at h
    · exact hname (by decide) (List.mem_singleton.mp h)
    · exact absurd h List.not_mem_nil
  · rw [List.mem_cons, List.mem_singleton] at h
    obtain h | h := h <;> exact hname (by decide) h

/-! ### The `mid` -/

theorem midOf_eq {m : SdpMediaDescription} {before : List SdpAttribute} {mid : SdpAttribute}
    {after : List SdpAttribute} (hm : m.sdpAttributes = before ++ mid :: after)
    (hbefore : ∀ a ∈ before, a.attributeName ∈ openingNames)
    (hmid : mid.attributeName = "mid".toList) : midOf m = some mid.attributeValue := by
  have hnone : before.find? (fun a => a.attributeName == "mid".toList) = none := by
    apply List.find?_eq_none.mpr
    intro a ha he
    have hmem := hbefore a ha
    rw [beq_iff_eq.mp he] at hmem
    exact absurd hmem (by decide)
  have hsome : (mid :: after).find? (fun a => a.attributeName == "mid".toList) = some mid :=
    List.find?_cons_of_pos (beq_iff_eq.mpr hmid)
  rw [midOf, hm, List.find?_append, hnone, Option.none_or, hsome]
  rfl

/-- The `mid` of an answer is that of the remote section, if this has one. -/
theorem localMid_spec {remote : SessionDescription} {mediaSectionId : Nat} {mid : SdpAttribute}
    (h : localMid false remote mediaSectionId = .ok mid) :
    mid.attributeName = "mid".toList ∧
    ∀ v, midOf (remoteSection remote mediaSectionId) = some v → v ≠ [] →
      mid.attributeValue = v := by
  simp only [localMid, Bool.false_eq_true, if_false] at h
  split at h
  · rename_i hempty
    obtain rfl := Except.ok.inj h
    refine ⟨rfl, ?_⟩
    intro v hv hne
    rw [hv] at hempty
    exact absurd hempty hne
  · split at h
    · rename_i hlen
      obtain rfl := Except.ok.inj h
      refine ⟨rfl, ?_⟩
      intro v hv _
      rw [hv] at hlen ⊢
      exact clip_eq_self (Nat.le_of_lt hlen)
    · exact absurd h (by simp)

/-! ### Directions -/

def TransceiverDirection.sends : TransceiverDirection → Bool
  | .sendrecv | .sendonly => true
  | .recvonly | .inactive => false

def TransceiverDirection.receives : TransceiverDirection → Bool
  | .sendrecv | .recvonly => true
  | .sendonly | .inactive => false

/-- A direction answers another one: a side only sends what the other one receives. -/
def TransceiverDirection.answers (answered offered : TransceiverDirection) : Bool :=
  (!answered.sends || offered.receives) && (!answered.receives || offered.sends)

def direction? (a : SdpAttribute) : Option TransceiverDirection :=
  [TransceiverDirection.sendrecv, .sendonly, .recvonly, .inactive].find? fun d =>
    d.value == a.attributeName

/-- The direction of a section; without an attribute it is `sendrecv`. -/
def directionOf (m : SdpMediaDescription) : TransceiverDirection :=
  (m.sdpAttributes.findSome? direction?).getD .sendrecv

def TransceiverDirection.reverse : TransceiverDirection → TransceiverDirection
  | .sendonly => .recvonly
  | .recvonly => .sendonly
  | d => d

theorem answers_sendrecv (d : TransceiverDirection) : d.answers .sendrecv = true := by
  cases d <;> rfl

theorem inactive_answers (d : TransceiverDirection) :
    TransceiverDirection.inactive.answers d = true := by
  cases d <;> rfl

theorem reverse_answers (d : TransceiverDirection) : d.reverse.answers d = true := by
  cases d <;> rfl

theorem direction?_value (d : TransceiverDirection) (value : List Char) :
    direction? ⟨d.value, value⟩ = some d := by
  cases d <;> rfl

theorem eq_value_of_direction? {a : SdpAttribute} {d : TransceiverDirection}
    (h : direction? a = some d) : a.attributeName = d.value := by
  have hd := List.find?_some h
  exact (beq_iff_eq.mp hd).symm

theorem direction?_of_openingNames {a : SdpAttribute} (h : a.attributeName ∈ openingNames) :
    direction? a = none := by
  apply List.find?_eq_none.mpr
  intro d _ he
  rw [← beq_iff_eq.mp he] at h
  revert h
  cases d <;> decide

/-- The loop over the attributes of the remote section answers every direction but `inactive`. -/
theorem answeredDirection?_eq {a : SdpAttribute} (h : direction? a ≠ some .inactive) :
    answeredDirection? a = (direction? a).map fun d => d.reverse.value := by
  cases hd : direction? a with
  | some d =>
    have hname := eq_value_of_direction? hd
    rw [hd] at h
    rw [answeredDirection?, hname]
    cases d with
    | sendrecv => rfl
    | sendonly => rfl
    | recvonly => rfl
    | inactive => exact absurd rfl h
  | none =>
    have hne : ∀ d : TransceiverDirection, a.attributeName ≠ d.value := by
      intro d he
      have hsome := direction?_value d a.attributeValue
      rw [← he] at hsome
      rw [hd] at hsome
      exact absurd hsome (by simp)
    have hsendrecv : a.attributeName ≠ "sendrecv".toList := hne .sendrecv
    have hrecvonly : a.attributeName ≠ "recvonly".toList := hne .recvonly
    have hsendonly : a.attributeName ≠ "sendonly".toList := hne .sendonly
    rw [answeredDirection?, if_neg hsendrecv, if_neg hrecvonly, if_neg hsendonly]
    rfl

theorem findSome?_answeredDirection? {attributes : List SdpAttribute} {d : TransceiverDirection}
    (hne : d ≠ .inactive) (h : attributes.findSome? direction? = some d) :
    attributes.findSome? answeredDirection? = some d.reverse.value := by
  induction attributes with
  | nil => exact absurd h (by simp)
  | cons a attributes ih =>
    rw [List.findSome?_cons] at h ⊢
    cases ha : direction? a with
    | none =>
      rw [ha] at h
      rw [answeredDirection?_eq (by rw [ha]; simp), ha]
      exact ih h
    | some e =>
      rw [ha] at h
      obtain rfl := Option.some.inj h
      rw [answeredDirection?_eq (by rw [ha]; simpa using hne), ha]
      rfl

/-- The direction that is written, if the remote section states one. -/
theorem localDirection_spec {t : KvsRtpTransceiver} {remote : SessionDescription}
    {mediaSectionId : Nat} {d : TransceiverDirection} (hne : d ≠ .inactive)
    (h : (remoteSection remote mediaSectionId).sdpAttributes.findSome? direction? = some d) :
    ∃ e : TransceiverDirection, localDirection false t remote mediaSectionId = ⟨e.value, []⟩ ∧
      e.answers d = true := by
  unfold localDirection
  rw [if_neg (by decide)]
  split
  · exact ⟨.inactive, rfl, inactive_answers d⟩
  · rw [findSome?_answeredDirection? hne h]
    exact ⟨d.reverse, rfl, reverse_answers d⟩

theorem directionOf_eq {m : SdpMediaDescription} {before : List SdpAttribute} {mid : SdpAttribute}
    {after : List SdpAttribute} {d : TransceiverDirection} {value : List Char}
    (hm : m.sdpAttributes = before ++ mid :: ⟨d.value, value⟩ :: after)
    (hbefore : ∀ a ∈ before, a.attributeName ∈ openingNames)
    (hmid : mid.attributeName = "mid".toList) : directionOf m = d := by
  have hnone : before.findSome? direction? = none := by
    apply List.findSome?_eq_none_iff.mpr
    intro a ha
    exact direction?_of_openingNames (hbefore a ha)
  have hmidnone : direction? mid = none := by
    apply List.find?_eq_none.mpr
    intro e _ he
    rw [hmid, beq_iff_eq] at he
    revert he
    cases e <;> decide
  rw [directionOf, hm, List.findSome?_append, hnone, Option.none_or, List.findSome?_cons, hmidnone,
    List.findSome?_cons, direction?_value]
  rfl

/-! ### Sections of an answer -/

section

variable {pc : KvsPeerConnection} {t : KvsRtpTransceiver} {remote : SessionDescription}
  {mediaSectionId : Nat} {dtlsRole : List Char} {n : SectionNumbers} {mid : SdpAttribute}
  {codec : List SdpAttribute}

/-- The attributes of a section around its `mid` and its direction. -/
theorem sdpAttributes_sectionWith :
    (sectionWith pc t remote mediaSectionId dtlsRole n mid codec).sdpAttributes =
      (streamAttributes pc t n.rtxPayloadType.isSome ++ transportAttributes pc dtlsRole) ++
        mid :: localDirection pc.isOffer t remote mediaSectionId :: (copied "rtcp-mux" [] ::
          ((if mediaSectionId = 0 then [] else [copied "rtcp-rsize" []]) ++ codec ++
            closingAttributes pc t n)) := by
  simp only [sectionWith, List.append_assoc, List.cons_append, List.nil_append]

theorem openingNames_of_mem {a : SdpAttribute}
    (h : a ∈ streamAttributes pc t n.rtxPayloadType.isSome ++ transportAttributes pc dtlsRole) :
    a.attributeName ∈ openingNames := by
  obtain h | h := List.mem_append.mp h
  · exact openingNames_of_mem_stream h
  · exact openingNames_of_mem_transport h

theorem midOf_sectionWith (hmid : mid.attributeName = "mid".toList) :
    midOf (sectionWith pc t remote mediaSectionId dtlsRole n mid codec) = some mid.attributeValue :=
  midOf_eq sdpAttributes_sectionWith (fun _ => openingNames_of_mem) hmid

/-- **The direction of an answer** suits the offered one, unless that is `inactive`. -/
theorem directionOf_sectionWith (hoffer : pc.isOffer = false)
    (hmid : mid.attributeName = "mid".toList)
    (hne : directionOf (remoteSection remote mediaSectionId) ≠ .inactive) :
    (directionOf (sectionWith pc t remote mediaSectionId dtlsRole n mid codec)).answers
      (directionOf (remoteSection remote mediaSectionId)) = true := by
  cases hd : (remoteSection remote mediaSectionId).sdpAttributes.findSome? direction? with
  | none =>
    have hdefault : directionOf (remoteSection remote mediaSectionId) = .sendrecv := by
      rw [directionOf, hd]
      rfl
    rw [hdefault]
    exact answers_sendrecv _
  | some d =>
    have hstated : directionOf (remoteSection remote mediaSectionId) = d := by
      rw [directionOf, hd]
      rfl
    rw [hstated] at hne ⊢
    obtain ⟨e, he, hanswers⟩ := localDirection_spec (t := t) hne hd
    have hattributes := @sdpAttributes_sectionWith pc t remote mediaSectionId dtlsRole n mid codec
    rw [hoffer, he] at hattributes
    rw [directionOf_eq hattributes (fun _ => openingNames_of_mem) hmid]
    exact hanswers

theorem populateSingleMediaSection_ok {unknown : Option UnknownCodecs} {unknownKey : Nat}
    {s : SdpMediaDescription}
    (h : populateSingleMediaSection pc t (some remote) mediaSectionId dtlsRole unknown unknownKey =
      .ok s) :
    ∃ n mid codec, sectionNumbers pc t remote unknown unknownKey = .ok n ∧
      localMid pc.isOffer remote mediaSectionId = .ok mid ∧
      codecAttributes pc.isOffer t.codec n unknown unknownKey = .ok codec ∧
      s = sectionWith pc t remote mediaSectionId dtlsRole n mid codec := by
  unfold populateSingleMediaSection at h
  rw [if_neg (by simp)] at h
  simp only [Option.getD_some] at h
  split at h
  · exact absurd h (by simp)
  · rename_i n hn
    split at h
    · exact absurd h (by simp)
    · rename_i mid hmid
      split at h
      · exact absurd h (by simp)
      · rename_i codec hcodec
        exact ⟨n, mid, codec, hn, hmid, hcodec, (Except.ok.inj h).symm⟩

end

end KvsWebrtc.Sdp
