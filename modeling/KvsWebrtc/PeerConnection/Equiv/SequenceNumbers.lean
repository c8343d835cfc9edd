import KvsWebrtc.PeerConnection.Equiv.Rtp

/-!
# The packets of a frame and of a run of frames

`constructRtpPackets` makes one packet of each payload (`constructRtpPackets_spec`): the sequence
numbers go on by one, modulo `2 ^ 16`, the payloads are the slices of the buffer one behind the
other, and the last packet alone has the marker.

`writeFrame` moves the sequence number on by the number of the payloads, so the first packet of a
frame follows the last packet of the frame before, however the frames in between have ended
(`frames_consecutive`).
-/

namespace KvsWebrtc

open Rtp

/-! ### The packets of a frame -/

def payloadBytes (p : RtpPacket) : List UInt8 := p.payload.take p.payloadLength.toNat

/-- The packet of the `i`-th payload. -/
structure FramePacket (payloads : List (List UInt8)) (payloadType : UInt8) (first : UInt16)
    (timestamp ssrc : UInt32) (i : Nat) (p : RtpPacket) : Prop where
  sequenceNumber : p.header.sequenceNumber = first + UInt16.ofNat i
  /-- The payload starts in the buffer where the payloads before it end. -/
  payload : payloads.flatten = (payloads.take i).flatten ++ p.payload
  bytes : payloads[i]? = some (payloadBytes p)
  payloadLength : (payloadBytes p).length = p.payloadLength.toNat
  marker : p.header.marker = true ↔ i + 1 = payloads.length
  payloadType : p.header.payloadType = payloadType
  timestamp : p.header.timestamp = timestamp
  ssrc : p.header.ssrc = ssrc
  version : p.header.version = 2
  padding : p.header.padding = false
  csrcCount : p.header.csrcCount = 0
  csrcArray : p.header.csrcArray = []
  extension : p.header.extension = false
  extensionProfile : p.header.extensionProfile = 0
  extensionLength : p.header.extensionLength = 0
  extensionPayload : p.header.extensionPayload = []

/-- There is one packet for each payload, and the slices are the whole buffer. -/
structure FramePackets (payloads : List (List UInt8)) (payloadType : UInt8) (first : UInt16)
    (timestamp ssrc : UInt32) (packets : List RtpPacket) : Prop where
  length : packets.length = payloads.length
  packet : ∀ i p, packets[i]? = some p → FramePacket payloads payloadType first timestamp ssrc i p
  slices : packets.flatMap payloadBytes = payloads.flatten

section

variable {payloads : List (List UInt8)} {payload : List UInt8} {payloadType : UInt8}
    {first : UInt16}
  {timestamp ssrc : UInt32} {i : Nat} {p : RtpPacket}

/-- A packet keeps its place when a payload comes in front. -/
theorem FramePacket.cons (h : FramePacket payloads payloadType (first + 1) timestamp ssrc i p)
    (payload : List UInt8) :
    FramePacket (payload :: payloads) payloadType first timestamp ssrc (i + 1) p where
  sequenceNumber := by rw [h.sequenceNumber, SeqNum.add_ofNat_succ]
  payload := by
    rw [List.flatten_cons, List.take_succ_cons, List.flatten_cons, List.append_assoc, ← h.payload]
  bytes := by rw [List.getElem?_cons_succ, h.bytes]
  payloadLength := h.payloadLength
  marker := by rw [h.marker, List.length_cons, Nat.add_right_cancel_iff]
  payloadType := h.payloadType
  timestamp := h.timestamp
  ssrc := h.ssrc
  version := h.version
  padding := h.padding
  csrcCount := h.csrcCount
  csrcArray := h.csrcArray
  extension := h.extension
  extensionProfile := h.extensionProfile
  extensionLength := h.extensionLength
  extensionPayload := h.extensionPayload

/-- What `setRtpPacket` makes of the first payload. -/
def firstPacket (payload : List UInt8) (payloads : List (List UInt8)) (payloadType : UInt8)
    (first : UInt16) (timestamp ssrc : UInt32) (pPacket : RtpPacket) : RtpPacket :=
  { pPacket with
    header := {
      version := 2, padding := false, extension := false, csrcCount := 0
      marker := payloads.isEmpty
      payloadType := payloadType, sequenceNumber := first, timestamp := timestamp, ssrc := ssrc
      csrcArray := [], extensionProfile := 0, extensionPayload := [], extensionLength := 0 }
    payload := payload ++ payloads.flatten
    payloadLength := UInt32.ofNat payload.length }

theorem payloadBytes_firstPacket (hlen : payload.length < 2 ^ 32) (pPacket : RtpPacket) :
    payloadBytes (firstPacket payload payloads payloadType first timestamp ssrc pPacket) =
      payload := by
  have hlength : (UInt32.ofNat payload.length).toNat = payload.length := by
    rw [UInt32.toNat_ofNat', Nat.mod_eq_of_lt hlen]
  change (payload ++ payloads.flatten).take (UInt32.ofNat payload.length).toNat = payload
  rw [hlength, List.take_left]

theorem framePacket_firstPacket (hlen : payload.length < 2 ^ 32) (pPacket : RtpPacket) :
    FramePacket (payload :: payloads) payloadType first timestamp ssrc 0
      (firstPacket payload payloads payloadType first timestamp ssrc pPacket) where
  sequenceNumber := (UInt16.add_zero first).symm
  payload := rfl
  bytes := by rw [payloadBytes_firstPacket hlen, List.getElem?_cons_zero]
  payloadLength := by
    rw [payloadBytes_firstPacket hlen]
    change _ = (UInt32.ofNat payload.length).toNat
    rw [UInt32.toNat_ofNat', Nat.mod_eq_of_lt hlen]
  marker := by
    change payloads.isEmpty = true ↔ _
    rw [List.isEmpty_iff_length_eq_zero, List.length_cons]
    omega
  payloadType := rfl
  timestamp := rfl
  ssrc := rfl
  version := rfl
  padding := rfl
  csrcCount := rfl
  csrcArray := rfl
  extension := rfl
  extensionProfile := rfl
  extensionLength := rfl
  extensionPayload := rfl

theorem constructLoop_spec (hlen : payloads.flatten.length < 2 ^ 32) (first : UInt16)
    {memory : List RtpPacket} (hmemory : payloads.length ≤ memory.length) :
    ∃ packets, constructLoop payloadType timestamp ssrc payloads first memory =
        .ok (packets ++ memory.drop payloads.length) ∧
      FramePackets payloads payloadType first timestamp ssrc packets := by
  induction payloads generalizing first memory with
  | nil =>
    refine ⟨[], rfl, rfl, ?_, rfl⟩
    intro i p hp
    simp at hp
  | cons payload payloads ih =>
    cases memory with
    | nil => simp at hmemory
    | cons pPacket memory =>
      rw [List.flatten_cons, List.length_append] at hlen
      obtain ⟨packets, hpackets, hframe⟩ := ih (by omega) (first + 1)
        (Nat.le_of_succ_le_succ hmemory)
      refine ⟨firstPacket payload payloads payloadType first timestamp ssrc pPacket :: packets, ?_,
        ?_⟩
      · rw [constructLoop, hpackets, setRtpPacket, if_pos (.inl rfl)]
        rfl
      · refine ⟨?_, ?_, ?_⟩
        · rw [List.length_cons, List.length_cons, hframe.length]
        · intro i p hp
          cases i with
          | zero =>
            obtain rfl := Option.some.inj hp
            exact framePacket_firstPacket (by omega) pPacket
          | succ i => exact (hframe.packet i p hp).cons payload
        · rw [List.flatMap_cons, payloadBytes_firstPacket (by omega), hframe.slices,
            List.flatten_cons]

/-- **The packets of a frame.** -/
theorem constructRtpPackets_spec (hpos : 0 < payloads.flatten.length)
    (hlen : payloads.flatten.length < 2 ^ 32) (payloadType : UInt8) (first : UInt16)
    (timestamp ssrc : UInt32) {memory : List RtpPacket}
    (hmemory : payloads.length ≤ memory.length) :
    ∃ packets, constructRtpPackets payloads payloadType first timestamp ssrc (some memory) =
        .ok (packets ++ memory.drop payloads.length) ∧
      FramePackets payloads payloadType first timestamp ssrc packets := by
  obtain ⟨packets, hpackets, hframe⟩ := constructLoop_spec hlen first hmemory
  refine ⟨packets, ?_, hframe⟩
  unfold constructRtpPackets
  rw [if_pos hpos]
  dsimp only
  rw [if_pos hmemory, hpackets]

theorem FramePackets.map_sequenceNumber {packets : List RtpPacket}
    (h : FramePackets payloads payloadType first timestamp ssrc packets) :
    packets.map (·.header.sequenceNumber) =
      (List.range packets.length).map fun i => first + UInt16.ofNat i := by
  apply List.ext_getElem?
  intro i
  rw [List.getElem?_map, List.getElem?_map]
  cases hp : packets[i]? with
  | none =>
    rw [List.getElem?_eq_none_iff] at hp
    simp [hp]
  | some p =>
    have hi := (List.getElem?_eq_some_iff.mp hp).1
    simp [hi, (h.packet i p hp).sequenceNumber]

end

/-! ### The frames of a run -/

namespace KvsRtpTransceiver

variable (order : ByteOrder) {t : KvsRtpTransceiver} {c : WriteFrame}

/-- The packets that a call makes of its frame: none if it fails before it has them. -/
def framePackets (t : KvsRtpTransceiver) (c : WriteFrame) : List RtpPacket :=
  if c.srtpReady = true ∧ c.packetListAllocated = true then
    match c.payloads with
    | .error _ => []
    | .ok payloads =>
      match constructRtpPackets payloads t.sender.payloadType t.sender.sequenceNumber c.rtpTimestamp
          t.sender.ssrc (some ((List.range payloads.length).map c.memory)) with
      | .error _ => []
      | .ok packets => packets
  else []

/-- The payloads of a frame hold something, and their length is a 32-bit number. -/
def HasPayload (c : WriteFrame) : Prop :=
  ∀ payloads, c.payloads = .ok payloads →
    0 < payloads.flatten.length ∧ payloads.flatten.length < 2 ^ 32

def runPackets (t : KvsRtpTransceiver) : List WriteFrame → List RtpPacket
  | [] => []
  | c :: calls => t.framePackets c ++ runPackets (t.step order c) calls

/-- The numbers of packets that follow each other. -/
def Consecutive (first : UInt16) (packets : List RtpPacket) : Prop :=
  packets.map (·.header.sequenceNumber) =
    (List.range packets.length).map fun i => first + UInt16.ofNat i

theorem Consecutive.append {first : UInt16} {packets rest : List RtpPacket}
    (h : Consecutive first packets)
    (hrest : Consecutive (first + UInt16.ofNat packets.length) rest) :
    Consecutive first (packets ++ rest) := by
  rw [Consecutive] at h hrest ⊢
  rw [List.map_append, List.length_append, List.range_add, List.map_append, h, hrest, List.map_map]
  congr 1
  apply List.map_congr_left
  intro i _
  rw [Function.comp_apply, UInt16.ofNat_add, UInt16.add_assoc]

/-- A call that has come to its packets: they are those of the frame, and `writeFrame` writes them
out with the sequence number moved on by their number. -/
theorem writeFrame_of_ready (hready : c.srtpReady = true) (hlist : c.packetListAllocated = true)
    {payloads : List (List UInt8)} (hpayloads : c.payloads = .ok payloads)
    (hpos : 0 < payloads.flatten.length) (hlen : payloads.flatten.length < 2 ^ 32) :
    FramePackets payloads t.sender.payloadType t.sender.sequenceNumber c.rtpTimestamp t.sender.ssrc
        (t.framePackets c) ∧
      t.writeFrame order c =
        writePackets order (t.sender.payloadType == t.sender.rtxPayloadType) c.outcome
        (t.framePackets c)
          (List.range (t.framePackets c).length)
          { t with sender := { t.sender with
            sequenceNumber := t.sender.sequenceNumber + UInt16.ofNat
              (t.framePackets c).length } } := by
  have hmemory : ((List.range payloads.length).map c.memory).length = payloads.length := by simp
  obtain ⟨packets, hpackets, hframe⟩ := constructRtpPackets_spec hpos hlen t.sender.payloadType
    t.sender.sequenceNumber c.rtpTimestamp t.sender.ssrc (Nat.le_of_eq hmemory.symm)
  rw [List.drop_eq_nil_of_le (Nat.le_of_eq hmemory), List.append_nil] at hpackets
  have hmade : t.framePackets c = packets := by
    simp only [framePackets, hready, hlist, and_self, ↓reduceIte, hpayloads, hpackets]
  rw [hmade]
  refine ⟨hframe, ?_⟩
  rw [KvsRtpTransceiver.writeFrame, if_pos hready, hpayloads]
  dsimp only
  rw [if_pos hlist, hpackets, hframe.length]

/-- A call that fails before it has its packets leaves the sequence number as it is. -/
theorem step_of_not_ready (hc : HasPayload c)
    (h : c.srtpReady = false ∨ c.packetListAllocated = false ∨ ∃ e, c.payloads = .error e) :
    t.framePackets c = [] ∧ (t.step order c).sender.sequenceNumber = t.sender.sequenceNumber := by
  rw [framePackets, step, KvsRtpTransceiver.writeFrame]
  cases hready : c.srtpReady with
  | false => simp
  | true =>
    cases hpayloads : c.payloads with
    | error e => simp
    | ok payloads =>
      obtain ⟨hpos, -⟩ := hc payloads hpayloads
      have hlist : c.packetListAllocated = false := by
        rcases h with h | h | ⟨e, h⟩
        · simp [hready] at h
        · exact h
        · simp [hpayloads] at h
      have hpackets : constructRtpPackets payloads t.sender.payloadType t.sender.sequenceNumber
          c.rtpTimestamp t.sender.ssrc none = .error (.status .nullArg) := by
        unfold constructRtpPackets
        rw [if_pos hpos]
      simp [hlist, hpackets]

/-- **One call**: its packets are numbered from the sequence number on, which moves on by them. -/
theorem step_consecutive (hc : HasPayload c) :
    Consecutive t.sender.sequenceNumber (t.framePackets c) ∧
      (t.step order c).sender.sequenceNumber =
        t.sender.sequenceNumber + UInt16.ofNat (t.framePackets c).length := by
  by_cases hmade : c.srtpReady = true ∧ c.packetListAllocated = true ∧ ∃ payloads,
      c.payloads = .ok payloads
  · obtain ⟨hready, hlist, payloads, hpayloads⟩ := hmade
    obtain ⟨hpos, hlen⟩ := hc payloads hpayloads
    obtain ⟨hframe, hwrite⟩ := writeFrame_of_ready (t := t) order hready hlist hpayloads hpos hlen
    refine ⟨hframe.map_sequenceNumber, ?_⟩
    rw [step, hwrite, writePackets_sequenceNumber]
  · have hfails : c.srtpReady = false ∨ c.packetListAllocated = false ∨
        ∃ e, c.payloads = .error e := by
      cases hpayloads : c.payloads with
      | error e => exact .inr (.inr ⟨e, rfl⟩)
      | ok payloads =>
        cases hready : c.srtpReady with
        | false => exact .inl rfl
        | true =>
          cases hlist : c.packetListAllocated with
          | false => exact .inr (.inl rfl)
          | true => exact absurd ⟨hready, hlist, payloads, hpayloads⟩ hmade
    obtain ⟨hnone, hnext⟩ := step_of_not_ready (t := t) order hc hfails
    rw [hnone, hnext]
    exact ⟨rfl, (UInt16.add_zero _).symm⟩

/-- **A run**: the packets of all its frames are numbered one after the other. -/
theorem run_consecutive {calls : List WriteFrame} (hcalls : ∀ c ∈ calls, HasPayload c)
    (t : KvsRtpTransceiver) : Consecutive t.sender.sequenceNumber (runPackets order t calls) := by
  induction calls generalizing t with
  | nil => rfl
  | cons c calls ih =>
    obtain ⟨hc, hrest⟩ := List.forall_mem_cons.mp hcalls
    obtain ⟨hframe, hnext⟩ := step_consecutive (t := t) order hc
    apply hframe.append
    rw [← hnext]
    exact ih hrest _

/-- **Frames are numbered without a gap**: `constructRtpPackets` makes one packet of each payload,
with consecutive numbers and slices, and the packets of a run of frames have consecutive numbers. -/
theorem frames_consecutive {payloads : List (List UInt8)} (hpos : 0 < payloads.flatten.length)
    (hlen : payloads.flatten.length < 2 ^ 32) (payloadType : UInt8) (first : UInt16)
    (timestamp ssrc : UInt32) {memory : List RtpPacket} (hmemory : payloads.length ≤ memory.length)
    {calls : List WriteFrame} (hcalls : ∀ c ∈ calls, HasPayload c) (t : KvsRtpTransceiver) :
    (∃ packets, constructRtpPackets payloads payloadType first timestamp ssrc (some memory) =
        .ok (packets ++ memory.drop payloads.length) ∧
      FramePackets payloads payloadType first timestamp ssrc packets) ∧
    Consecutive t.sender.sequenceNumber (runPackets order t calls) :=
  ⟨constructRtpPackets_spec hpos hlen payloadType first timestamp ssrc hmemory,
    run_consecutive order hcalls t⟩

def lastNumber : KvsRtpTransceiver :=
  { newTransceiver with sender := { newTransceiver.sender with sequenceNumber := 65535 } }

theorem hasPayload_twoPackets (encrypted : Bool) : HasPayload (twoPackets encrypted) := by
  intro payloads hpayloads
  obtain rfl := Except.ok.inj hpayloads
  decide

/-- The first frame ends behind the wrap, and its packets cannot be encrypted. -/
theorem frames_consecutive_wrap :
    (∃ packets, constructRtpPackets [[1, 2], [], [3]] 96 65534 9 1
        (some [default, default, default]) = .ok (packets ++ []) ∧
      FramePackets [[1, 2], [], [3]] 96 65534 9 1 packets) ∧
    Consecutive 65535 (runPackets .littleEndian lastNumber [twoPackets false, twoPackets true]) :=
  frames_consecutive .littleEndian (by decide) (by decide) 96 65534 9 1 (by decide)
    (by
      intro c hc
      rcases List.mem_pair.mp hc with rfl | rfl
      · exact hasPayload_twoPackets false
      · exact hasPayload_twoPackets true) lastNumber

end KvsRtpTransceiver

end KvsWebrtc
