import KvsWebrtc.Rtp.Equiv.Payloader
import KvsWebrtc.Rtp.Codecs

/-!
# VP8: what the two calls write, and when a frame comes back

The payloads of a frame are its fragments for a codec that has no header to leave out, the
descriptor being the header of a fragment (`createPayloadForVP8_eq`).  As the depayloader calls
every packet a starting one, only a frame with one payload comes back as it should
(`vp8_packetizes_iff`).
-/

namespace KvsWebrtc.Rtp

/-- VP8 as a codec that fragments every frame. -/
def vp8Fu : FragmentationUnit where
  headerSize := vp8PayloadDescriptorSize
  naluHeaderSize := 0
  header _ flag := [if flag = 0x80 then vp8PayloadDescriptorStartOfPartitionValue else 0]

/-! ### Payloads that are written without a look at the space -/

def writePayloads (room : Option Room) (f : Filled) : List (List UInt8) → Except Failure Filled
  | [] => .ok f
  | payload :: payloads =>
    match f.writePayload room payload with
    | .error e => .error e
    | .ok f' => writePayloads room f' payloads

theorem payloadSubLenSize_of_writePayload {room : Option Room} {f f' : Filled}
    {payload : List UInt8} (h : f.writePayload room payload = .ok f') :
    f'.payloadSubLenSize = (f.payloadSubLenSize + 1) % 2 ^ 32 := by
  cases room with
  | none => rw [← Except.ok.inj h]
  | some r =>
    simp only [Filled.writePayload] at h
    split_ifs at h
    rw [← Except.ok.inj h]

theorem writePayloads_none (payloads : List (List UInt8)) (f : Filled) :
    writePayloads none f payloads = addPayloads none f payloads := by
  induction payloads generalizing f with
  | nil => rfl
  | cons p ps ih => exact ih _

/-- They are written if they fit, and else the last one goes outside. -/
theorem writePayloads_some {r : Room} (payloads : List (List UInt8)) {f : Filled}
    (hlen : f.payloadLength < 2 ^ 32) (hcount : f.payloadSubLenSize < 2 ^ 32)
    (hbuffer : f.payloadBuffer.length ≤ r.maxPayloadLength)
    (hsub : f.payloadSubLength.length ≤ r.maxPayloadSubLenSize) :
    writePayloads (some r) f payloads =
      if f.payloadBuffer.length + totalLength payloads ≤ r.maxPayloadLength ∧
          f.payloadSubLength.length + payloads.length ≤ r.maxPayloadSubLenSize then
        .ok ⟨(f.payloadLength + totalLength payloads) % 2 ^ 32,
          (f.payloadSubLenSize + payloads.length) % 2 ^ 32, f.payloadBuffer ++ payloads.flatten,
          f.payloadSubLength ++ payloads.map List.length⟩
      else .error .outOfBounds := by
  induction payloads generalizing f with
  | nil =>
    rw [totalLength_nil, List.length_nil, if_pos ⟨hbuffer, hsub⟩]
    simp only [writePayloads, Nat.add_zero, Nat.mod_eq_of_lt hlen, Nat.mod_eq_of_lt hcount,
      List.flatten_nil, List.map_nil, List.append_nil]
  | cons p ps ih =>
    rw [writePayloads, Filled.writePayload]
    by_cases hfits : f.payloadBuffer.length + p.length ≤ r.maxPayloadLength ∧
        f.payloadSubLength.length + 1 ≤ r.maxPayloadSubLenSize
    · simp only [if_pos hfits]
      rw [ih (Nat.mod_lt _ (by decide)) (Nat.mod_lt _ (by decide))
        (by rw [List.length_append]; exact hfits.1) (by rw [List.length_append]; exact hfits.2)]
      simp only [List.length_append, List.length_cons, List.length_nil, totalLength_cons,
        Nat.zero_add, Nat.add_assoc, Nat.add_comm 1, Nat.mod_add_mod, List.append_assoc,
        List.flatten_cons, List.map_cons, List.cons_append, List.nil_append]
    · simp only [if_neg hfits]
      rw [if_neg]
      rw [totalLength_cons, List.length_cons]
      omega

/-! ### The loop -/

section Loop

variable {mtu : Nat} {frame : List UInt8}

theorem vp8_maxPayloadSize (hmtu : vp8Fu.headerSize < mtu) (hmtu' : mtu < 2 ^ 32) :
    (mtu + (2 ^ 32 - vp8PayloadDescriptorSize)) % 2 ^ 32 = mtu - vp8Fu.headerSize := by
  simp only [vp8Fu, vp8PayloadDescriptorSize] at hmtu ⊢
  omega

theorem fragmentFlag_eq_start_iff {total remaining size : Nat} :
    fragmentFlag total remaining size = 0x80 ↔ remaining = total := by
  rw [fragmentFlag]
  split_ifs with hstart hend
  · exact ⟨fun _ => hstart, fun _ => rfl⟩
  · exact ⟨fun h => absurd h (by decide), fun h => absurd h hstart⟩
  · exact ⟨fun h => absurd h (by decide), fun h => absurd h hstart⟩

/-- The loop writes the fragments that are left.  No payload has been counted before the first one
only, as there are fewer payloads than bytes. -/
theorem createVP8Loop_eq (hmtu : vp8Fu.headerSize < mtu) (hmtu' : mtu < 2 ^ 32)
    (hframe : frame.length < 2 ^ 32) (room : Option Room) (fuel : Nat) {remaining : List UInt8}
    {f : Filled} (hfuel : remaining.length < fuel)
    (hfirst : f.payloadSubLenSize = 0 ↔ remaining.length = frame.length)
    (hcount : f.payloadSubLenSize + remaining.length ≤ frame.length) :
    createVP8Loop mtu room fuel remaining f =
      some (writePayloads room f
        (fragments vp8Fu frame (mtu - vp8Fu.headerSize) (room_pos hmtu) remaining)) := by
  induction fuel generalizing remaining f with
  | zero => exact absurd hfuel (Nat.not_lt_zero _)
  | succ fuel ih =>
    rw [createVP8Loop, fragments]
    by_cases hnil : remaining = []
    · simp [hnil, writePayloads]
    · have hpos := List.length_pos_iff.mpr hnil
      have hmax := room_pos hmtu
      -- the descriptor is the header of the fragment
      have hheader : [if f.payloadSubLenSize = 0 then vp8PayloadDescriptorStartOfPartitionValue
          else 0] =
          vp8Fu.header frame (fragmentFlag (frame.length - vp8Fu.naluHeaderSize) remaining.length
            (min (mtu - vp8Fu.headerSize) remaining.length)) := by
        show _ = [if fragmentFlag frame.length remaining.length _ = 0x80 then _ else _]
        simp only [fragmentFlag_eq_start_iff, hfirst]
      rw [if_neg hnil, dif_neg hnil, writePayloads, ← hheader]
      simp only [vp8_maxPayloadSize hmtu hmtu', List.singleton_append]
      cases hwrite : f.writePayload room _ with
      | error e => rfl
      | ok f' =>
        have hf' : f'.payloadSubLenSize = f.payloadSubLenSize + 1 := by
          rw [payloadSubLenSize_of_writePayload hwrite]
          exact Nat.mod_eq_of_lt (by omega)
        refine ih ?_ ?_ ?_ <;> rw [List.length_drop]
        · omega
        · omega
        · omega

def vp8Payloads (hmtu : vp8Fu.headerSize < mtu) (frame : List UInt8) : List (List UInt8) :=
  fragments vp8Fu frame (mtu - vp8Fu.headerSize) (room_pos hmtu) frame

theorem createPayloadForVP8_eq (hmtu : vp8Fu.headerSize < mtu) (hmtu' : mtu < 2 ^ 32)
    (hframe : frame.length < 2 ^ 32) (room : Option Room) {fuel : Nat}
    (hfuel : frame.length < fuel) :
    createPayloadForVP8 fuel mtu frame room =
      some (writePayloads room Filled.empty (vp8Payloads hmtu frame)) := by
  refine createVP8Loop_eq hmtu hmtu' hframe room fuel hfuel ?_ ?_ <;> simp [Filled.empty]

/-- A call that has come to its end in some number of rounds ends in the same way in any larger
one. -/
theorem createVP8Loop_mono {room : Option Room} {fuel fuel' : Nat} (hle : fuel ≤ fuel')
    {remaining : List UInt8} {f : Filled} {r : Except Failure Filled}
    (h : createVP8Loop mtu room fuel remaining f = some r) :
    createVP8Loop mtu room fuel' remaining f = some r := by
  induction fuel generalizing fuel' remaining f with
  | zero => cases h
  | succ fuel ih =>
    obtain ⟨n, rfl⟩ := Nat.exists_eq_add_of_le' hle
    rw [← Nat.add_assoc, createVP8Loop]
    rw [createVP8Loop] at h
    by_cases hnil : remaining = []
    · rw [if_pos hnil] at h ⊢
      exact h
    · rw [if_neg hnil] at h ⊢
      revert h
      simp only
      cases f.writePayload room _ with
      | error e => exact id
      | ok f' => exact ih (Nat.le_add_left fuel n)

/-- However many rounds a call takes, it is the one that the payloads give. -/
theorem createPayloadForVP8_unique (hmtu : vp8Fu.headerSize < mtu) (hmtu' : mtu < 2 ^ 32)
    (hframe : frame.length < 2 ^ 32) {room : Option Room} {fuel : Nat} {r : Except Failure Filled}
    (h : createPayloadForVP8 fuel mtu frame room = some r) :
    r = writePayloads room Filled.empty (vp8Payloads hmtu frame) := by
  have hmono := createVP8Loop_mono (Nat.le_max_left fuel (frame.length + 1)) h
  have heq := createPayloadForVP8_eq hmtu hmtu' hframe room
    (lt_of_lt_of_le (Nat.lt_succ_self _) (Nat.le_max_right fuel (frame.length + 1)))
  exact Option.some.inj (hmono.symm.trans heq)

/-- With an mtu of one a call without a buffer goes on for ever. -/
theorem createVP8Loop_one (fuel : Nat) {remaining : List UInt8} (hne : remaining ≠ [])
    (f : Filled) :
    createVP8Loop 1 none fuel remaining f = none := by
  induction fuel generalizing f with
  | zero => rfl
  | succ fuel ih =>
    rw [createVP8Loop, if_neg hne]
    exact ih _

theorem length_vp8Header (flag : UInt8) : (vp8Fu.header frame flag).length = vp8Fu.headerSize := rfl

theorem totalLength_vp8Payloads (hmtu : vp8Fu.headerSize < mtu) (frame : List UInt8) :
    totalLength (vp8Payloads hmtu frame) =
      frame.length + (frame.length + (mtu - vp8Fu.headerSize) - 1) / (mtu - vp8Fu.headerSize) := by
  rw [vp8Payloads, totalLength_fragments length_vp8Header]
  simp only [vp8Fu, vp8PayloadDescriptorSize, Nat.one_mul]

theorem length_vp8Payloads_le (hmtu : vp8Fu.headerSize < mtu) (frame : List UInt8) :
    (vp8Payloads hmtu frame).length ≤ totalLength (vp8Payloads hmtu frame) :=
  length_le_totalLength fun p hp => by
    have hmem := length_of_mem_fragments length_vp8Header (room_pos hmtu) frame p hp
    exact lt_of_lt_of_le (by decide) hmem.1

end Loop

/-! ### The way back -/

/-- The frame is cut into payloads that are no longer than `mtu` and give it back, the first one of
them and no other being a starting packet, or the packetizer fails.  `create` is what its calls
return. -/
def Vp8Packetizes (mtu : Nat) (frame : List UInt8) : Prop :=
  ∃ create : Option Room → Except Failure Filled,
    (∀ room, ∃ fuel, createPayloadForVP8 fuel mtu frame room = some (create room)) ∧
    ((∃ s, payloadsOf create = .error (.status s)) ∨
      ∃ payloads, payloadsOf create = .ok payloads ∧ (∀ p ∈ payloads, p.length ≤ mtu) ∧
        depayAll depayVP8FromRtpPayload payloads = .ok frame ∧
        ∀ i p, payloads[i]? = some p →
          ∃ d, depayVP8FromRtpPayload p none = .ok d ∧ (d.isStart = true ↔ i = 0))

theorem depayVP8_cons {descriptor : UInt8} (hd : descriptor &&& 0x80 = 0) {bytes : List UInt8}
    (hlen : bytes.length < 2 ^ 32) (size : Option Nat) :
    depayVP8FromRtpPayload (descriptor :: bytes) size = depayWrite size bytes.length true
    (.ok bytes) := by
  have hmod : ((descriptor :: bytes).length + (2 ^ 32 - 1)) % 2 ^ 32 = bytes.length := by
    rw [List.length_cons]
    omega
  have hcopy : copyFrom (descriptor :: bytes) 1 bytes.length = .ok bytes := by
    rw [copyFrom, if_pos (.inr (by rw [List.length_cons]; omega))]
    simp
  simp only [depayVP8FromRtpPayload, reduceCtorEq, if_false, vp8DescriptorLength, if_pos hd, hmod,
    hcopy]

theorem vp8Header_and (frame : List UInt8) (flag : UInt8) :
    ∃ descriptor, vp8Fu.header frame flag = [descriptor] ∧ descriptor &&& 0x80 = 0 := by
  refine ⟨_, rfl, ?_⟩
  split_ifs <;> decide

/-- A frame that does not fit with its descriptor has a second payload. -/
theorem one_lt_length_vp8Payloads {mtu : Nat} (hmtu : vp8Fu.headerSize < mtu) {frame : List UInt8}
    (hframe : frame ≠ []) (hle : mtu ≤ frame.length) : 1 < (vp8Payloads hmtu frame).length := by
  have hpos := List.length_pos_iff.mpr hframe
  have hmax := room_pos hmtu
  have htotal := totalLength_vp8Payloads hmtu frame
  have hdiv : 0 < (frame.length + (mtu - vp8Fu.headerSize) - 1) / (mtu - vp8Fu.headerSize) :=
    Nat.div_pos (by omega) hmax
  have hmem : ∀ p ∈ vp8Payloads hmtu frame, p.length ≤ mtu := by
    intro p hp
    have hle := (length_of_mem_fragments length_vp8Header hmax frame p hp).2
    omega
  -- one payload would have all the bytes, which are more than the mtu
  revert htotal hmem
  generalize vp8Payloads hmtu frame = payloads
  cases payloads with
  | nil =>
    intro htotal _
    rw [totalLength_nil] at htotal
    omega
  | cons p ps =>
    intro htotal hmem
    cases ps with
    | nil =>
      have hp := hmem p List.mem_cons_self
      rw [totalLength_cons, totalLength_nil] at htotal
      omega
    | cons q qs => simp

theorem vp8Payloads_of_lt {mtu : Nat} (hmtu : vp8Fu.headerSize < mtu) {frame : List UInt8}
    (hframe : frame ≠ []) (hlt : frame.length < mtu) :
    ∃ descriptor, vp8Payloads hmtu frame = [descriptor :: frame] ∧ descriptor &&& 0x80 = 0 := by
  have hmin : min (mtu - vp8Fu.headerSize) frame.length = frame.length :=
    Nat.min_eq_right (Nat.le_sub_of_add_le hlt)
  obtain ⟨descriptor, hheader, hd⟩ := vp8Header_and frame
    (fragmentFlag (frame.length - vp8Fu.naluHeaderSize) frame.length frame.length)
  refine ⟨descriptor, ?_, hd⟩
  rw [vp8Payloads, fragments, dif_neg hframe]
  simp only [hmin, hheader, List.take_length, List.drop_length, List.singleton_append]
  rw [fragments, dif_pos rfl]

/-- The calls for a list of payloads give these, if their bytes can be counted. -/
theorem payloadsOf_writePayloads (ps : List (List UInt8)) :
    payloadsOf (fun room => writePayloads room Filled.empty ps) =
      if totalLength ps < 2 ^ 32 ∧ ps.length < 2 ^ 32 then .ok ps else .error .outOfBounds := by
  have hnone := addPayloads_none ps (f := Filled.empty) (by decide) (by decide)
  simp only [Filled.empty, Nat.zero_add] at hnone
  have hsome := writePayloads_some ps (f := Filled.empty)
    (r := ⟨totalLength ps % 2 ^ 32, ps.length % 2 ^ 32⟩) (by decide) (by decide) (Nat.zero_le _)
    (Nat.zero_le _)
  simp only [Filled.empty, Nat.zero_add, List.length_nil, List.nil_append] at hsome
  simp only [payloadsOf, writePayloads_none, Filled.empty, hnone, hsome]
  by_cases hfits : totalLength ps < 2 ^ 32 ∧ ps.length < 2 ^ 32
  · rw [if_pos (by omega), if_pos hfits]
    exact congrArg Except.ok (splitLengths_flatten ps)
  · rw [if_neg (by omega), if_neg hfits]

theorem isStart_of_depayVP8 {raw : List UInt8} {d : Depayed}
    (h : depayVP8FromRtpPayload raw none = .ok d) : d.isStart = true := by
  rw [depayVP8FromRtpPayload] at h
  split_ifs at h
  · rw [← Except.ok.inj h]
  · cases hdescriptor : vp8DescriptorLength raw with
    | error e =>
      rw [hdescriptor] at h
      cases h
    | ok n =>
      rw [hdescriptor] at h
      rw [← Except.ok.inj h]

/-- A second payload is a starting packet too, and with an mtu of one there is no end to the
payloads. -/
theorem not_vp8Packetizes {mtu : Nat} {frame : List UInt8} (hframe : frame ≠ [])
    (hlen : frame.length < 2 ^ 32) (hmtu : 1 ≤ mtu) (hle : mtu ≤ frame.length) :
    ¬ Vp8Packetizes mtu frame := by
  rintro ⟨create, hcreate, hresult⟩
  obtain rfl | hlt := Nat.eq_or_lt_of_le hmtu
  · obtain ⟨fuel, hfuel⟩ := hcreate none
    rw [createPayloadForVP8, createVP8Loop_one fuel hframe] at hfuel
    cases hfuel
  have hwritten : create = fun room => writePayloads room Filled.empty (vp8Payloads hlt frame) := by
    funext room
    obtain ⟨fuel, hfuel⟩ := hcreate room
    exact createPayloadForVP8_unique hlt (lt_of_le_of_lt hle hlen) hlen hfuel
  rw [hwritten, payloadsOf_writePayloads] at hresult
  split_ifs at hresult with hfits
  · rcases hresult with ⟨s, hs⟩ | ⟨payloads, hpayloads, -, -, hstart⟩
    · cases hs
    · obtain rfl := Except.ok.inj hpayloads
      obtain ⟨d, hd, hiff⟩ :=
        hstart 1 _ (List.getElem?_eq_getElem (one_lt_length_vp8Payloads hlt hframe hle))
      exact absurd (hiff.mp (isStart_of_depayVP8 hd)) (by decide)
  · rcases hresult with ⟨s, hs⟩ | ⟨payloads, hpayloads, -⟩
    · cases hs
    · cases hpayloads

theorem vp8Packetizes_of_lt {mtu : Nat} {frame : List UInt8} (hframe : frame ≠ [])
    (hmtu : mtu < 2 ^ 32) (hlt : frame.length < mtu) : Vp8Packetizes mtu frame := by
  have hlen : frame.length < 2 ^ 32 := hlt.trans hmtu
  have hheader : vp8Fu.headerSize < mtu := lt_of_le_of_lt (List.length_pos_iff.mpr hframe) hlt
  obtain ⟨descriptor, hpayloads, hd⟩ := vp8Payloads_of_lt hheader hframe hlt
  refine ⟨fun room => writePayloads room Filled.empty [descriptor :: frame], fun room =>
    ⟨frame.length + 1, ?_⟩, .inr ⟨[descriptor :: frame], ?_, ?_, ?_, ?_⟩⟩
  · rw [createPayloadForVP8_eq hheader hmtu hlen room (Nat.lt_succ_self _), hpayloads]
  · rw [payloadsOf_writePayloads, if_pos]
    rw [totalLength_cons, totalLength_nil, List.length_cons, List.length_singleton]
    omega
  · intro p hp
    rw [List.mem_singleton.mp hp]
    exact hlt
  · have hone := depayOne_depayWrite (depayVP8_cons hd hlen)
    rw [depayAll_cons hone rfl, List.append_nil]
  · intro i p hp
    cases i with
    | zero =>
      rw [← Option.some.inj hp]
      exact ⟨_, depayVP8_cons hd hlen none, fun _ => rfl, fun _ => rfl⟩
    | succ i => cases hp

/-- **VP8 packetization**: the packetizer comes to its end, and its payloads give the frame back
with the first one as the only starting packet, exactly for the frames that are shorter than the
mtu. -/
theorem vp8_packetizes_iff {mtu : Nat} {frame : List UInt8} (hframe : frame ≠ [])
    (hlen : frame.length < 2 ^ 32) (hmtu : 1 ≤ mtu) (hmtu' : mtu < 2 ^ 32) :
    Vp8Packetizes mtu frame ↔ frame.length < mtu := by
  constructor
  · intro h
    by_contra hle
    exact not_vp8Packetizes hframe hlen hmtu (Nat.not_lt.mp hle) h
  · exact vp8Packetizes_of_lt hframe hmtu'

theorem vp8_packetizes_three : Vp8Packetizes 4 [1, 2, 3] ↔ [(1 : UInt8), 2, 3].length < 4 :=
  vp8_packetizes_iff (by decide) (by decide) (by decide) (by decide)

/-- **Two payloads and none**: a frame of the length of the mtu has a second payload, and with an
mtu of one the packetizer does not return. -/
theorem vp8_second_payload_starts : ¬ Vp8Packetizes 4 [1, 2, 3, 4] ∧ ¬ Vp8Packetizes 1 [7] :=
  ⟨not_vp8Packetizes (by decide) (by decide) (by decide) (by decide),
    not_vp8Packetizes (by decide) (by decide) (by decide) (by decide)⟩

end KvsWebrtc.Rtp
