import KvsWebrtc.Rtp.Equiv.RtpPayloadFunc

/-!
# What a depayloader makes of the payloads of a frame

`RtcCodec.Carries` says what the receiver of a frame gets: the frame itself, or its NAL units behind
start codes of four bytes.  `Carries.restores`: the two calls of the packetizer give payloads that
the depayloader of the codec turns into that, piece by piece and whatever room it is given, and the
first payload counts as a starting one.
-/

namespace KvsWebrtc.Rtp

/-- The depayloader makes `bytes` of the payload. -/
def Depays (depay : List UInt8 → Option Nat → Except Failure Depayed) (payload : List UInt8)
    (isStart : Bool) (bytes : List UInt8) : Prop :=
  ∀ size, depay payload size = depayWrite size bytes.length isStart (.ok bytes)

abbrev DepaysAll (depay : List UInt8 → Option Nat → Except Failure Depayed)
    (payloads pieces : List (List UInt8)) : Prop :=
  List.Forall₂ (fun payload bytes => ∃ isStart, Depays depay payload isStart bytes) payloads pieces

/-- The payloads give the contents back, and the first one is a starting one. -/
def Restores (depay : List UInt8 → Option Nat → Except Failure Depayed)
    (payloads : List (List UInt8)) (contents : List UInt8) : Prop :=
  ∃ payload rest bytes pieces, payloads = payload :: rest ∧ contents = bytes ++ pieces.flatten ∧
    Depays depay payload true bytes ∧ DepaysAll depay rest pieces

variable {depay : List UInt8 → Option Nat → Except Failure Depayed}
    {payloads payloads' : List (List UInt8)}
  {contents contents' : List UInt8} {P : List UInt8 → Prop} {fu : FragmentationUnit} {mtu : Nat}

theorem Restores.depaysAll (h : Restores depay payloads contents) :
    ∃ pieces, DepaysAll depay payloads pieces ∧ contents = pieces.flatten := by
  obtain ⟨payload, rest, bytes, pieces, rfl, rfl, hfirst, hrest⟩ := h
  exact ⟨bytes :: pieces, .cons ⟨true, hfirst⟩ hrest, List.flatten_cons.symm⟩

theorem Restores.append (h : Restores depay payloads contents)
    (h' : Restores depay payloads' contents') :
    Restores depay (payloads ++ payloads') (contents ++ contents') := by
  obtain ⟨pieces', hall, rfl⟩ := h'.depaysAll
  obtain ⟨payload, rest, bytes, pieces, rfl, rfl, hfirst, hrest⟩ := h
  refine ⟨payload, rest ++ payloads', bytes, pieces ++ pieces', rfl, ?_, hfirst, ?_⟩
  · rw [List.flatten_append, List.append_assoc]
  · exact List.rel_append hrest hall

theorem Restores.single {payload bytes : List UInt8} (h : Depays depay payload true bytes) :
    Restores depay [payload] bytes :=
  ⟨payload, [], bytes, [], rfl, (List.append_nil bytes).symm, h, .nil⟩

/-! ### NAL units -/

/-- What a depayloader makes of a NAL unit and of its fragments. -/
structure LawfulDepay (P : List UInt8 → Prop) (fu : FragmentationUnit)
    (depay : List UInt8 → Option Nat → Except Failure Depayed) :
    Prop extends LawfulCodec P fu depay where
  single : ∀ {nalu}, P nalu → nalu.length + 4 < 2 ^ 32 →
    Depays depay nalu true (start4ByteCode ++ nalu)
  first : ∀ {nalu}, P nalu → ∀ data, fu.naluHeaderSize + data.length + 4 < 2 ^ 32 →
    Depays depay (fu.header nalu 0x80 ++ data) true
      (start4ByteCode ++ (nalu.take fu.naluHeaderSize ++ data))
  later : ∀ nalu data {flag}, flag = 0x40 ∨ flag = 0 →
    ∃ isStart, Depays depay (fu.header nalu flag ++ data) isStart data

theorem fuA_lawfulDepay : LawfulDepay IsH264Nalu fuA depayH264FromRtpPayload where
  toLawfulCodec := fuA_lawful
  single h hlen := depayH264_single h hlen
  first h data hlen := depayH264_first h data hlen
  later nalu data _ hflag := ⟨false, depayH264_later nalu data hflag⟩

theorem h265Fu_lawfulDepay : LawfulDepay IsH265Nalu h265Fu depayH265FromRtpPayload where
  toLawfulCodec := h265Fu_lawful
  single h hlen := depayH265_single h hlen
  first h data hlen := depayH265_first h data hlen
  later nalu data _ hflag := ⟨false, depayH265_later nalu data hflag⟩

namespace LawfulDepay

variable (h : LawfulDepay P fu depay)

include h

/-- **One NAL unit.** -/
theorem restores_nalu (hmtu : fu.headerSize < mtu) {nalu : List UInt8} (hnalu : P nalu)
    (hlen : nalu.length + 4 < 2 ^ 32) :
    Restores depay (naluPayloads fu hmtu nalu) (start4ByteCode ++ nalu) := by
  have hlt := h.naluHeaderSize_lt
  rw [naluPayloads]
  split_ifs with hle
  · exact .single (h.single hnalu hlen)
  · have hne : nalu.drop fu.naluHeaderSize ≠ [] := by
      rw [ne_eq, List.drop_eq_nil_iff]
      omega
    have hpos := List.length_pos_iff.mpr hne
    rw [List.length_drop] at hpos
    rw [fragments, dif_neg hne]
    simp only [List.length_drop]
    generalize hsize : min (mtu - fu.headerSize) (nalu.length - fu.naluHeaderSize) = size
    rw [fragmentFlag, if_pos rfl]
    have hfirst := h.first hnalu ((nalu.drop fu.naluHeaderSize).take size)
      (by rw [List.length_take, List.length_drop]; omega)
    have hlater : ((nalu.drop fu.naluHeaderSize).drop size).length <
        nalu.length - fu.naluHeaderSize := by
      rw [List.length_drop, List.length_drop]
      omega
    obtain ⟨pieces, hpieces, hrest⟩ := @fragments_pieces fu (fun p b => ∃ isStart,
      Depays depay p isStart b) _
      (Nat.sub_pos_of_lt hmtu) nalu _ fun rest hle size =>
        h.later nalu (rest.take size) (fragmentFlag_later (hle.trans_lt hlater) size)
    refine ⟨_, _, _, pieces, rfl, ?_, hfirst, hpieces⟩
    rw [← hrest, List.append_assoc, List.append_assoc, List.take_append_drop, List.take_append_drop]

theorem restores_stream (hmtu : fu.headerSize < mtu) {units : List (AnnexBUnit P)}
    (hne : units ≠ []) (hlen : (annexB units).length + 2 < 2 ^ 32) :
    Restores depay (streamPayloads hmtu units) (withStart4ByteCodes units) := by
  induction units with
  | nil => exact absurd rfl hne
  | cons u us ih =>
    rw [annexB_cons, List.length_append, List.length_append, length_startCode] at hlen
    have hzeros : 2 ≤ zerosOf u.fourBytes := by cases u.fourBytes <;> decide
    have hfirst := h.restores_nalu hmtu u.isNalu (by omega)
    rw [streamPayloads_cons, withStart4ByteCodes, List.flatMap_cons]
    by_cases hus : us = []
    · subst hus
      rw [streamPayloads, List.flatMap_nil, List.flatMap_nil, List.append_nil, List.append_nil]
      exact hfirst
    · exact hfirst.append (ih hus (by omega))

end LawfulDepay

/-! ### Frames -/

theorem depaysAll_vp8Fragments {frame : List UInt8} {maxPayloadSize : Nat}
    (hmax : 0 < maxPayloadSize) {remaining : List UInt8} (hlen : remaining.length < 2 ^ 32) :
    ∃ pieces, List.Forall₂ (fun payload bytes => Depays depayVP8FromRtpPayload payload true bytes)
        (fragments vp8Fu frame maxPayloadSize hmax remaining) pieces ∧
        remaining = pieces.flatten := by
  refine fragments_pieces hmax frame fun rest hle size => ?_
  obtain ⟨descriptor, hheader, hd⟩ := vp8Header_and frame
    (fragmentFlag (frame.length - vp8Fu.naluHeaderSize) rest.length size)
  have hfirst : Depays depayVP8FromRtpPayload (descriptor :: rest.take size) true
      (rest.take size) :=
    depayVP8_cons hd (by rw [List.length_take]; omega)
  rw [hheader]
  exact hfirst

theorem restores_of_starts {pieces : List (List UInt8)} (hne : payloads ≠ [])
    (h : List.Forall₂ (fun payload bytes => Depays depay payload true bytes) payloads pieces) :
    Restores depay payloads pieces.flatten := by
  cases h with
  | nil => exact absurd rfl hne
  | cons hfirst hrest =>
    exact ⟨_, _, _, _, rfl, List.flatten_cons, hfirst, hrest.imp fun _ _ hp => ⟨true, hp⟩⟩

theorem depays_whole {payload : List UInt8} (hne : payload ≠ []) :
    Depays depayWhole payload true payload := fun _ => if_neg hne

/-- The slices of `createPayloadForG711` are not empty. -/
theorem pos_of_mem_g711SubLengths {mtu n : Nat} (hmtu : 0 < mtu) (hn : 0 < n) :
    ∀ len ∈ g711SubLengths mtu n, 0 < len ∧ len ≤ mtu := by
  induction n using Nat.strong_induction_on with
  | _ n ih =>
    rw [g711SubLengths]
    split_ifs with h
    · intro len hlen
      rcases List.mem_cons.mp hlen with rfl | hlen
      · exact ⟨hmtu, le_rfl⟩
      · exact ih (n - mtu) (by omega) (by omega) len hlen
    · intro len hlen
      rw [List.mem_singleton.mp hlen]
      omega

/-- The slices of a list, cut to lengths that add up to it. -/
theorem splitLengths_spec {lens : List Nat} {frame : List UInt8} (hsum : lens.sum = frame.length) :
    (lens.splitLengths frame).flatten = frame ∧ (lens.splitLengths frame).map List.length =
      lens := by
  induction lens generalizing frame with
  | nil =>
    rw [List.sum_nil] at hsum
    rw [List.eq_nil_of_length_eq_zero hsum.symm]
    exact ⟨rfl, rfl⟩
  | cons len lens ih =>
    rw [List.sum_cons] at hsum
    obtain ⟨hflatten, hlengths⟩ := @ih (frame.drop len) (by rw [List.length_drop]; omega)
    rw [List.splitLengths_cons, List.flatten_cons, List.map_cons, hflatten, hlengths,
      List.take_append_drop, List.length_take, Nat.min_eq_left (by omega)]
    exact ⟨rfl, rfl⟩

/-! ### All codecs -/

/-- What `writeFrame` gets from the two calls of the packetizer. -/
def RtcCodec.Packetizes (codec : RtcCodec) (mtu : Nat) (frameData : List UInt8)
    (payloads : Except Failure (List (List UInt8))) : Prop :=
  ∃ create : Option Room → Except Failure Filled,
    (∀ room, ∃ fuel, codec.rtpPayloadFunc fuel mtu frameData room = some (create room)) ∧
      payloads = payloadsOf create

/-- The bytes that the receiver of a frame is meant to get. -/
inductive RtcCodec.Carries (mtu : Nat) : RtcCodec → List UInt8 → List UInt8 → Prop
  | h264 (units : List (AnnexBUnit IsH264Nalu)) (hne : units ≠ [])
      (hlen : (annexB units).length + 2 < 2 ^ 32) (htotal : totalPayloadSize fuA mtu units <
      2 ^ 32) :
      Carries mtu .h264 (annexB units) (withStart4ByteCodes units)
  | h265 (units : List (AnnexBUnit IsH265Nalu)) (hne : units ≠ [])
      (hlen : (annexB units).length + 2 < 2 ^ 32) (htotal : totalPayloadSize h265Fu mtu units <
      2 ^ 32) :
      Carries mtu .h265 (annexB units) (withStart4ByteCodes units)
  | vp8 (frame : List UInt8) (hne : frame ≠ [])
      (htotal : frame.length + (frame.length + (mtu - 1) - 1) / (mtu - 1) < 2 ^ 32) :
      Carries mtu .vp8 frame frame
  | g711 (frame : List UInt8) (hne : frame ≠ []) (hlen : frame.length < 2 ^ 32) :
      Carries mtu .g711 frame frame
  | opus (frame : List UInt8) (hne : frame ≠ []) (hlen : frame.length < 2 ^ 32) :
      Carries mtu .opus frame frame

variable {codec : RtcCodec} {frameData : List UInt8}

/-- The two calls give payloads whose bytes can be counted, and these give the contents back. -/
def RtcCodec.Gives (codec : RtcCodec) (result : Except Failure (List (List UInt8)))
    (contents : List UInt8) :
    Prop :=
  ∃ payloads, result = .ok payloads ∧ 0 < payloads.flatten.length ∧
  payloads.flatten.length < 2 ^ 32 ∧ Restores codec.depayFunc payloads contents

theorem LawfulDepay.gives (h : LawfulDepay P fu depay) (hmtu : fu.headerSize < mtu)
    {units : List (AnnexBUnit P)} (hne : units ≠ []) (hlen : (annexB units).length + 2 < 2 ^ 32)
    (htotal : totalPayloadSize fu mtu units < 2 ^ 32) :
    ∃ payloads, payloadsOf (createPayloadForWith fu mtu (annexB units)) = .ok payloads ∧
      0 < payloads.flatten.length ∧ payloads.flatten.length < 2 ^ 32 ∧
      Restores depay payloads (withStart4ByteCodes units) := by
  have hmem := h.length_of_mem_streamPayloads hmtu units
  have hcount := length_le_totalLength fun p hp => (hmem p hp).1
  have hrestores := h.restores_stream hmtu hne hlen
  rw [← h.totalLength_streamPayloads hmtu] at htotal
  refine ⟨streamPayloads hmtu units, payloadsOf_annexB hmtu h.isNalu hne hlen htotal (by omega), ?_,
    ?_, hrestores⟩
  · obtain ⟨payload, rest, -, -, heq, -⟩ := hrestores
    have hpos := (hmem payload (heq ▸ List.mem_cons_self)).1
    rw [heq, List.flatten_cons, List.length_append]
    omega
  · rwa [length_flatten_eq]

/-- **The payloads of a frame give its contents back.** -/
theorem RtcCodec.Carries.gives (h : RtcCodec.Carries mtu codec frameData contents)
    (hmtu : codec.headerSize < mtu) (hmtu' : mtu < 2 ^ 32)
    {result : Except Failure (List (List UInt8))}
    (hresult : codec.Packetizes mtu frameData result) : codec.Gives result contents := by
  obtain ⟨create, hcreate, rfl⟩ := hresult
  -- only one function can be the limit of the calls with more and more fuel
  have hunique : ∀ fill : Option Room → Except Failure Filled,
      (∀ fuel room, codec.rtpPayloadFunc fuel mtu frameData room = some (fill room)) →
      create = fill :=
    fun fill hfill => funext fun room => by
      obtain ⟨fuel, hroom⟩ := hcreate room
      exact Option.some.inj (hroom.symm.trans (hfill fuel room))
  cases h with
  | h264 units hne hlen htotal =>
    obtain rfl : create = createPayloadForH264 mtu (annexB units) := hunique _ fun _ _ => rfl
    exact fuA_lawfulDepay.gives hmtu hne hlen htotal
  | h265 units hne hlen htotal =>
    obtain rfl : create = createPayloadForH265 mtu (annexB units) := hunique _ fun _ _ => rfl
    exact h265Fu_lawfulDepay.gives hmtu hne hlen htotal
  | vp8 _ hne htotal =>
    have hheader : vp8Fu.headerSize < mtu := hmtu
    have hlen : contents.length < 2 ^ 32 := Nat.lt_of_le_of_lt (Nat.le_add_right _ _) htotal
    obtain rfl : create = fun room => writePayloads room Filled.empty
        (vp8Payloads hheader contents) :=
      funext fun room => by
        obtain ⟨fuel, hroom⟩ := hcreate room
        exact createPayloadForVP8_unique hheader hmtu' hlen hroom
    -- every payload of VP8 brings its descriptor
    have htotal' : totalLength (vp8Payloads hheader contents) < 2 ^ 32 := by
      rw [totalLength_vp8Payloads]
      exact htotal
    have hcount := length_vp8Payloads_le hheader contents
    obtain ⟨pieces, hpieces, hflatten⟩ := @depaysAll_vp8Fragments contents _
      (room_pos hheader) contents hlen
    have hne' : vp8Payloads hheader contents ≠ [] := by
      intro hnil
      rw [vp8Payloads] at hnil
      rw [hnil] at hpieces
      cases hpieces
      exact hne hflatten
    have hpos := length_flatten_eq (vp8Payloads hheader contents)
    have hframe : contents.length ≤ totalLength (vp8Payloads hheader contents) := by
      rw [totalLength_vp8Payloads]
      exact Nat.le_add_right _ _
    have hframePos := List.length_pos_iff.mpr hne
    refine ⟨vp8Payloads hheader contents, ?_, by omega, by omega, ?_⟩
    · rw [payloadsOf_writePayloads, if_pos ⟨htotal', by omega⟩]
    · conv => rhs; rw [hflatten]
      exact restores_of_starts hne' hpieces
  | g711 _ hne hlen =>
    obtain rfl : create = createPayloadForG711 mtu contents := hunique _ fun _ _ => rfl
    have hpos := List.length_pos_iff.mpr hne
    obtain ⟨hsum, hcount⟩ := g711SubLengths_spec hmtu hpos
    obtain ⟨hflatten, hlengths⟩ := splitLengths_spec hsum
    refine ⟨(g711SubLengths mtu contents.length).splitLengths contents, ?_, ?_, ?_, ?_⟩
    · simp only [payloadsOf, createPayloadForG711, hcount, le_refl, and_self, if_true]
    · rwa [hflatten]
    · rwa [hflatten]
    · have hne' : (g711SubLengths mtu contents.length).splitLengths contents ≠ [] := by
        intro hnil
        rw [hnil] at hflatten
        exact hne hflatten.symm
      conv => rhs; rw [← hflatten]
      refine restores_of_starts hne' (List.forall₂_same.mpr fun payload hpayload => ?_)
      have hlength : payload.length ∈ g711SubLengths mtu contents.length := by
        rw [← hlengths]
        exact List.mem_map_of_mem hpayload
      exact depays_whole (List.length_pos_iff.mp (pos_of_mem_g711SubLengths hmtu hpos _ hlength).1)
  | opus _ hne hlen =>
    obtain rfl : create = createPayloadForOpus contents := hunique _ fun _ _ => rfl
    refine ⟨[contents], ?_, ?_, ?_, .single (depays_whole hne)⟩
    · simp [payloadsOf, createPayloadForOpus]
    · simpa using List.length_pos_iff.mpr hne
    · simpa using hlen

end KvsWebrtc.Rtp
