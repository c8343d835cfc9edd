import KvsWebrtc.PeerConnection.Frames
import KvsWebrtc.PeerConnection.Receive
import KvsWebrtc.PeerConnection.Equiv.RtxPacket

/-!
# What a frame sends

If nothing fails on the way, `writeFrame` sends one packet for each payload, and the receiver reads
from its bytes the number, the timestamp, the SSRC and the payload that the packet was made of
(`frameSends_reads`).
-/

namespace KvsWebrtc

open Rtp

/-! ### The SSRC of a buffer -/

/-- A 32-bit number put together of its bytes. -/
theorem word_of_bytes (n : UInt32) :
    (UInt8.ofNat (n.toNat / 256 ^ 3)).toUInt32 <<< 24 |||
    (UInt8.ofNat (n.toNat / 256 ^ 2)).toUInt32 <<< 16 |||
      (UInt8.ofNat (n.toNat / 256 ^ 1)).toUInt32 <<< 8 |||
      (UInt8.ofNat (n.toNat / 256 ^ 0)).toUInt32 = n := by
  apply UInt32.toNat_inj.mp
  have hlt := n.toNat_lt
  -- the bytes do not overlap
  have hor : ∀ (k a b : ℕ), b < 2 ^ k → a * 2 ^ k ||| b = a * 2 ^ k + b := by
    intro k a b h
    rw [Nat.mul_comm]
    exact (Nat.two_pow_add_eq_or_of_lt h a).symm
  have h₁ := hor 24 (n.toNat / 16777216 % 256) (n.toNat / 65536 % 256 * 65536) (by omega)
  have h₂ := hor 16 (n.toNat / 65536 % 65536) (n.toNat / 256 % 256 * 256) (by omega)
  have h₃ := hor 8 (n.toNat / 256) (n.toNat % 256) (by omega)
  norm_num at h₁ h₂ h₃
  simp only [UInt32.toNat_or, UInt32.toNat_shiftLeft, UInt8.toNat_toUInt32, UInt8.toNat_ofNat',
    Nat.shiftLeft_eq, UInt32.reduceToNat, Nat.reducePow, Nat.reduceMod, Nat.div_one]
  rw [Nat.mod_eq_of_lt (show n.toNat / 16777216 % 256 * 16777216 < 4294967296 by omega),
    Nat.mod_eq_of_lt (show n.toNat / 65536 % 256 * 65536 < 4294967296 by omega),
    Nat.mod_eq_of_lt (show n.toNat / 256 % 256 * 256 < 4294967296 by omega), h₁,
    show n.toNat / 16777216 % 256 * 16777216 + n.toNat / 65536 % 256 * 65536 =
      n.toNat / 65536 % 65536 * 65536 by omega, h₂,
    show n.toNat / 65536 % 65536 * 65536 + n.toNat / 256 % 256 * 256 = n.toNat / 256 * 256 by
        omega, h₃]
  omega

theorem ssrcOf_congr {raw raw' : List UInt8}
    (h : raw'.take Rtp.minHeaderLength = raw.take Rtp.minHeaderLength) :
    ssrcOf raw' = ssrcOf raw := by
  have hget : ∀ i < 12, raw'.getD i 0 = raw.getD i 0 := by
    intro i hi
    rw [List.getD_eq_getElem?_getD, List.getD_eq_getElem?_getD,
      ← @List.getElem?_take_of_lt _ raw' i 12 hi, ← @List.getElem?_take_of_lt _ raw i 12 hi]
    exact congrArg (fun bytes : List UInt8 => bytes[i]?.getD 0) h
  unfold ssrcOf
  rw [hget 8 (by decide), hget 9 (by decide), hget 10 (by decide), hget 11 (by decide)]

theorem ssrcOf_packetBytes (p : RtpPacket) : ssrcOf (packetBytes p) = p.header.ssrc := by
  conv => rhs; rw [← word_of_bytes p.header.ssrc]
  rfl

/-! ### What the receiver reads -/

/-- What the receiver reads from the bytes of a packet. -/
structure Reads (order : ByteOrder) (raw : List UInt8) (sequenceNumber : UInt16)
    (timestamp ssrc : UInt32) (payload : List UInt8) : Prop where
  minHeaderLength_le : Rtp.minHeaderLength ≤ raw.length
  ssrc_eq : ssrcOf raw = ssrc
  decode : ∀ memory, ∃ p, setRtpPacketFromBytes order raw memory = .ok p ∧ p.addr = memory.addr ∧
    p.header.sequenceNumber = sequenceNumber ∧ p.header.timestamp = timestamp ∧
    payloadBytes p = payload ∧
    p.payloadLength.toNat = payload.length

variable {order : ByteOrder} {payloads : List (List UInt8)} {payload : List UInt8}
    {payloadType : UInt8}
  {first : UInt16} {timestamp ssrc : UInt32} {i : Nat} {p : RtpPacket}

theorem FramePacket.expressible (h : FramePacket payloads payloadType first timestamp ssrc i p)
    (htype : payloadType < 128) (t : KvsRtpTransceiver) :
    Expressible (trimmed (t.addTwccExtension p).2) := by
  have hpayload : (payloadBytes p).length = p.payloadLength.toNat := h.payloadLength
  have htype' : p.header.payloadType < 128 := by rwa [h.payloadType]
  rw [KvsRtpTransceiver.addTwccExtension]
  -- with the extension of the transport-wide number, and without one
  split_ifs with hnegotiated
  · constructor
    · show p.header.version < 4
      rw [h.version]
      decide
    · show p.header.csrcCount < 16
      rw [h.csrcCount]
      decide
    · show (p.header.csrcArray.take p.header.csrcCount.toNat).length = p.header.csrcCount.toNat
      rw [h.csrcCount, h.csrcArray]
      rfl
    · exact htype'
    · show (4 : UInt32).toNat % 4 = 0
      decide
    · show (4 : UInt32).toNat < 2 ^ 18
      decide
    · show ((twccPayload _ _).take (4 : UInt32).toNat).length = (4 : UInt32).toNat
      rw [List.length_take, twccPayload, length_beBytes]
      rfl
    · intro hext
      cases hext
    · exact hpayload
  · constructor
    · show p.header.version < 4
      rw [h.version]
      decide
    · show p.header.csrcCount < 16
      rw [h.csrcCount]
      decide
    · show (p.header.csrcArray.take p.header.csrcCount.toNat).length = p.header.csrcCount.toNat
      rw [h.csrcCount, h.csrcArray]
      rfl
    · exact htype'
    · show p.header.extensionLength.toNat % 4 = 0
      rw [h.extensionLength]
      rfl
    · show p.header.extensionLength.toNat < 2 ^ 18
      rw [h.extensionLength]
      decide
    · show (p.header.extensionPayload.take p.header.extensionLength.toNat).length =
          p.header.extensionLength.toNat
      rw [h.extensionLength, h.extensionPayload]
      rfl
    · intro _
      exact ⟨h.extensionProfile, h.extensionLength⟩
    · exact hpayload

theorem FramePacket.wireSize_le (h : FramePacket payloads payloadType first timestamp ssrc i p)
    (t : KvsRtpTransceiver) :
    wireSize (t.addTwccExtension p).2 ≤ 20 + (payloadBytes p).length := by
  rw [h.payloadLength, KvsRtpTransceiver.addTwccExtension]
  split_ifs with hnegotiated
  · simp only [wireSize, h.csrcCount, ↓reduceIte, UInt8.toNat_zero]
    change 12 + 4 * 0 + (4 + 4) + _ ≤ _
    omega
  · simp only [wireSize, h.csrcCount, h.extension, Bool.false_eq_true, ↓reduceIte, UInt8.toNat_zero]
    omega

/-- **One packet**: what the receiver reads from its bytes. -/
theorem FramePacket.reads (h : FramePacket payloads payloadType first timestamp ssrc i p)
    (htype : payloadType < 128) (hpayload : payloads[i]? = some payload)
    (hlen : payload.length + 20 < 2 ^ 32) (t : KvsRtpTransceiver) :
    Reads order (packetBytes (t.addTwccExtension p).2)
    (first + UInt16.ofNat i) timestamp ssrc payload := by
  obtain rfl : payloadBytes p = payload := Option.some.inj (h.bytes.symm.trans hpayload)
  have hexpressible := h.expressible htype t
  have hle := h.wireSize_le t
  have hsize : wireSize (trimmed (t.addTwccExtension p).2) < 2 ^ 32 := by
    change wireSize (t.addTwccExtension p).2 < 2 ^ 32
    omega
  -- the extension leaves the fields that are read as they are
  have hfields : (t.addTwccExtension p).2.header.ssrc = ssrc ∧
      (t.addTwccExtension p).2.header.timestamp = timestamp ∧
      (t.addTwccExtension p).2.header.sequenceNumber = first + UInt16.ofNat i ∧
      (t.addTwccExtension p).2.header.extensionLength.toNat < 2 ^ 16 ∧
      (t.addTwccExtension p).2.payload = p.payload ∧
      (t.addTwccExtension p).2.payloadLength = p.payloadLength := by
    rw [← h.ssrc, ← h.timestamp, ← h.sequenceNumber, KvsRtpTransceiver.addTwccExtension]
    split_ifs
    · exact ⟨rfl, rfl, rfl, (by decide : (4 : UInt32).toNat < 2 ^ 16), rfl, rfl⟩
    · refine ⟨rfl, rfl, rfl, ?_, rfl, rfl⟩
      rw [h.extensionLength]
      decide
  obtain ⟨hssrc, htimestamp, hnumber, hshort, hbytes, hlength⟩ := hfields
  refine ⟨?_, ?_, ?_⟩
  · rw [length_packetBytes hexpressible.readable_of_trimmed, wireSize, Nat.add_assoc, Nat.add_assoc]
    exact Nat.le_add_right 12 _
  · rw [ssrcOf_packetBytes, hssrc]
  · intro memory
    have hdecode := @setRtpPacketFromBytes_packetBytes order _ hexpressible hsize memory
    have hcontents := @contents_decoded order _ hexpressible hsize hshort memory
    rw [packetBytes_trimmed] at hdecode hcontents
    refine ⟨_, hdecode, rfl, ?_, ?_, ?_, ?_⟩
    · exact (congrArg (fun c => c.1.sequenceNumber) hcontents).trans hnumber
    · exact (congrArg (fun c => c.1.timestamp) hcontents).trans htimestamp
    · refine (congrArg (fun c => c.2.1) hcontents).trans ?_
      change payloadBytes _ = _
      rw [payloadBytes, hbytes, hlength, payloadBytes]
    · rw [h.payloadLength, ← hlength]
      exact congrArg (fun c => c.2.2.toNat) hcontents

theorem FramePacket.packed (h : FramePacket payloads payloadType first timestamp ssrc i p)
    (hlen : (payloadBytes p).length + 20 + srtpAuthTagOverhead < 2 ^ 32) :
    KvsRtpTransceiver.Packed p := by
  have hlength := h.payloadLength
  rw [hlength] at hlen
  rw [payloadBytes, List.length_take] at hlength
  refine ⟨h.version, h.padding, h.csrcCount, ?_, by omega, hlen⟩
  intro hext
  simp [h.extension] at hext

theorem Reads.ssrcOf_protect {raw : List UInt8} {sequenceNumber : UInt16}
    {protect : List UInt8 → List UInt8} (h : Reads order raw sequenceNumber timestamp ssrc payload)
    (hprotect : KeepsHeader protect) :
    minHeaderLength ≤ (protect raw).length ∧ ssrcOf (protect raw) = ssrc := by
  obtain ⟨hhead, hge, -⟩ := hprotect raw h.minHeaderLength_le
  exact ⟨h.minHeaderLength_le.trans hge, (ssrcOf_congr hhead).trans h.ssrc_eq⟩

/-! ### What is sent -/

namespace KvsRtpTransceiver

/-- Nothing fails on the way to the network, where a packet may still get lost. -/
structure SendsAll (c : WriteFrame) : Prop where
  srtpReady : c.srtpReady = true
  packetListAllocated : c.packetListAllocated = true
  allocated : ∀ i, (c.outcome i).allocated = true
  copied : ∀ i, (c.outcome i).copied = true
  continues : ∀ i, Continues (c.outcome i)
  keepsHeader : ∀ i, KeepsHeader (c.outcome i).protect

variable {t : KvsRtpTransceiver} {c : WriteFrame} {o : PacketOutcome} {bufferAfterEncrypt : Bool}

/-- The senders differ in their rolling buffers at most. -/
def SameSender (t t' : KvsRtpTransceiver) : Prop :=
  t'.sender = { t.sender with packetBuffer := t'.sender.packetBuffer }

theorem SameSender.refl (t : KvsRtpTransceiver) : t.SameSender t := rfl

theorem SameSender.trans {t t' t'' : KvsRtpTransceiver} (h : t.SameSender t')
    (h' : t'.SameSender t'') :
    t.SameSender t'' := by
  rw [SameSender, h', h]

theorem SameSender.of_eq {t t' : KvsRtpTransceiver} (h : t'.sender = t.sender) :
    t.SameSender t' := by
  rw [SameSender, h]

/-- A copy of a packet that can be made comes into the rolling buffer. -/
theorem bufferPacket_ok (hp : Packed p) {rawPacket : List UInt8}
    (hhead : rawPacket.take Rtp.minHeaderLength = (packetBytes p).take Rtp.minHeaderLength)
    (hge : (packetBytes p).length ≤ rawPacket.length)
    (hle : rawPacket.length ≤ (packetBytes p).length + srtpAuthTagOverhead)
    (t : KvsRtpTransceiver) :
    ∃ t', t.bufferPacket order rawPacket true = .ok t' ∧ t.SameSender t' := by
  obtain ⟨copy, hcopy, -⟩ := hp.decode order hhead hge hle
    { (default : RtpPacket) with rawPacket := rawPacket }
  rw [bufferPacket, if_pos rfl, hcopy]
  exact ⟨_, rfl, rfl⟩

theorem sendPacket_ok (hp : Packed p) (hcopied : o.copied = true) (hcontinues : Continues o)
    (hprotect : KeepsHeader o.protect) (t : KvsRtpTransceiver) :
    (t.sendPacket order bufferAfterEncrypt o p (o.protect (packetBytes p))).2 = .ok () ∧
      t.SameSender (t.sendPacket order bufferAfterEncrypt o p (o.protect (packetBytes p))).1 := by
  rw [sendPacket]
  rcases hcontinues.2 with hstatus | hstatus
  · rw [if_neg (by rw [hstatus]; decide), if_neg (by rw [hstatus]; decide)]
    cases bufferAfterEncrypt with
    | false => exact ⟨rfl, .of_eq (onPacketSent_sender t p o)⟩
    | true =>
      obtain ⟨hhead, hge, hle⟩ := hprotect (packetBytes p) hp.minHeaderLength_le
      obtain ⟨t', hbuffer, hsame⟩ := @bufferPacket_ok order p hp _ hhead hge hle
        (t.onPacketSent p o)
      rw [if_pos rfl, hcopied, hbuffer]
      exact ⟨rfl, (SameSender.of_eq (onPacketSent_sender t p o)).trans hsame⟩
  · rw [if_pos hstatus]
    exact ⟨rfl, .refl t⟩

/-- **One round of the loop**: the packet is sent, and the loop goes on. -/
theorem writePacket_sends (hp : Packed p) (hallocated : o.allocated = true)
    (hcopied : o.copied = true) (hcontinues : Continues o) (hprotect : KeepsHeader o.protect)
    (t : KvsRtpTransceiver) :
    packetSends order bufferAfterEncrypt o t
      p = [o.protect (packetBytes (t.addTwccExtension p).2)] ∧
      (t.writePacket order bufferAfterEncrypt o p).2 = .ok () ∧
      t.SameSender (t.writePacket order bufferAfterEncrypt o p).1 := by
  have hpacked := hp.addTwccExtension t
  have hsender : t.SameSender (t.addTwccExtension p).1 := .of_eq (addTwccExtension_sender t p)
  rw [packetSends, writePacket]
  generalize t.addTwccExtension p = extended at hpacked hsender
  obtain ⟨t₁, q⟩ := extended
  dsimp only at hpacked hsender ⊢
  rw [if_pos hallocated, if_pos hallocated, hpacked.encode]
  dsimp only
  have hbuffered : ∃ t', (if bufferAfterEncrypt then Except.ok t₁
      else t₁.bufferPacket order (packetBytes q) o.copied) = .ok t' ∧ t₁.SameSender t' := by
    cases bufferAfterEncrypt with
    | true => exact ⟨t₁, rfl, .refl t₁⟩
    | false =>
      rw [hcopied]
      exact bufferPacket_ok hpacked rfl (Nat.le_refl _) (Nat.le_add_right _ _) t₁
  obtain ⟨t', heq, hsame⟩ := hbuffered
  rw [heq]
  dsimp only
  rw [if_pos hcontinues.1, if_pos hcontinues.1]
  obtain ⟨hok, hlast⟩ := @sendPacket_ok order q o bufferAfterEncrypt hpacked hcopied hcontinues
    hprotect t'
  exact ⟨rfl, hok, (hsender.trans hsame).trans hlast⟩

/-- **The loop over the packets** sends all of them. -/
theorem writePackets_sends (hc : SendsAll c) {packets : List RtpPacket} {is : List Nat}
    (his : ∀ i ∈ is, ∃ p, packets[i]? = some p ∧ Packed p) (t : KvsRtpTransceiver) :
    List.Forall₂ (fun i sent => ∃ p t', packets[i]? = some p ∧
        sent = (c.outcome i).protect (packetBytes (KvsRtpTransceiver.addTwccExtension t' p).2)) is
        (loopSends order bufferAfterEncrypt c.outcome packets is t) ∧
      t.SameSender (t.writePackets order bufferAfterEncrypt c.outcome packets is).1 := by
  induction is generalizing t with
  | nil => exact ⟨.nil, .refl t⟩
  | cons i is ih =>
    obtain ⟨⟨p, hget, hp⟩, his⟩ := List.forall_mem_cons.mp his
    obtain ⟨hsends, hok, hsame⟩ := @writePacket_sends order p (c.outcome i) bufferAfterEncrypt hp
      (hc.allocated i) (hc.copied i) (hc.continues i) (hc.keepsHeader i) t
    rw [loopSends, writePackets, hget]
    dsimp only
    generalize t.writePacket order bufferAfterEncrypt (c.outcome i) p = r at hok hsame
    obtain ⟨t', result⟩ := r
    obtain rfl : result = .ok () := hok
    obtain ⟨hforall, hlast⟩ := ih his t'
    rw [hsends]
    exact ⟨.cons ⟨p, t, hget, rfl⟩ hforall, hsame.trans hlast⟩

/-- The packets of a frame, as `constructRtpPackets` makes them. -/
theorem constructRtpPackets_framePackets (hready : c.srtpReady = true)
    (hlist : c.packetListAllocated = true) (hpayloads : c.payloads = .ok payloads)
    (hpos : 0 < payloads.flatten.length) (hlen : payloads.flatten.length < 2 ^ 32) :
    constructRtpPackets payloads t.sender.payloadType t.sender.sequenceNumber c.rtpTimestamp
      t.sender.ssrc
      (some ((List.range payloads.length).map c.memory)) = .ok (t.framePackets c) := by
  obtain ⟨packets, hpackets, -⟩ := constructRtpPackets_spec hpos hlen t.sender.payloadType
    t.sender.sequenceNumber c.rtpTimestamp t.sender.ssrc
    (show payloads.length ≤ ((List.range payloads.length).map c.memory).length by simp)
  simp only [framePackets, hready, hlist, and_self, ↓reduceIte, hpayloads, hpackets]

/-- **A frame**: one packet for each payload, from the sequence number of the sender on. -/
theorem frameSends_reads (order : ByteOrder) (hc : SendsAll c)
    (hpayloads : c.payloads = .ok payloads) (hpos : 0 < payloads.flatten.length)
    (hlen : payloads.flatten.length + 20 + srtpAuthTagOverhead < 2 ^ 32)
    (htype : t.sender.payloadType < 128) :
    (t.frameSends order c).length = payloads.length ∧
    (∀ i payload, payloads[i]? = some payload → ∃ raw,
      (t.frameSends order c)[i]? = some ((c.outcome i).protect raw) ∧
        Reads order raw (t.sender.sequenceNumber + UInt16.ofNat i) c.rtpTimestamp t.sender.ssrc
          payload) ∧
    ∃ buffer, (t.step order c).sender = { t.sender with
      sequenceNumber := t.sender.sequenceNumber + UInt16.ofNat payloads.length, packetBuffer :=
    buffer } := by
  obtain ⟨hframe, hwrite⟩ := writeFrame_of_ready (t := t) order hc.srtpReady hc.packetListAllocated
    hpayloads
    hpos (by omega)
  -- every packet of the frame can be encoded
  have hpacked : ∀ i ∈ List.range (t.framePackets c).length,
      ∃ p, (t.framePackets c)[i]? = some p ∧ Packed p := by
    intro i hi
    have hget := List.getElem?_eq_getElem (List.mem_range.mp hi)
    have hpacket := hframe.packet i _ hget
    refine ⟨_, hget, hpacket.packed ?_⟩
    have hle := (List.sublist_flatten_of_mem (List.mem_of_getElem? hpacket.bytes)).length_le
    omega
  have hsends : t.frameSends order c = loopSends order
      (t.sender.payloadType == t.sender.rtxPayloadType)
      c.outcome (t.framePackets c) (List.range (t.framePackets c).length)
      { t with sender := { t.sender with
        sequenceNumber := t.sender.sequenceNumber + UInt16.ofNat (t.framePackets c).length } } := by
    rw [frameSends, if_pos hc.srtpReady, hpayloads]
    dsimp only
    rw [if_pos hc.packetListAllocated, constructRtpPackets_framePackets hc.srtpReady
      hc.packetListAllocated
      hpayloads hpos (by omega)]
    dsimp only
    rw [hframe.length]
  obtain ⟨hforall, hsame⟩ := @writePackets_sends order c
    (t.sender.payloadType == t.sender.rtxPayloadType) hc _ _ hpacked
    { t with sender := { t.sender with
      sequenceNumber := t.sender.sequenceNumber + UInt16.ofNat (t.framePackets c).length } }
  rw [← hsends] at hforall
  have hlength : (t.frameSends order c).length = payloads.length := by
    rw [← hforall.length_eq, List.length_range, hframe.length]
  refine ⟨hlength, ?_, ?_⟩
  · intro i payload hpayload
    have hi : i < payloads.length := (List.getElem?_eq_some_iff.mp hpayload).1
    have hsent := List.getElem?_eq_getElem (hlength.symm ▸ hi : i < (t.frameSends order c).length)
    obtain ⟨p, t', hget, heq⟩ := List.forall₂_iff_get.mp hforall |>.2 i (by simpa [hframe.length])
      (by omega)
    have hle := (List.sublist_flatten_of_mem (List.mem_of_getElem? hpayload)).length_le
    rw [List.get_eq_getElem, List.getElem_range] at hget
    rw [List.get_eq_getElem, List.get_eq_getElem, List.getElem_range] at heq
    refine ⟨packetBytes (t'.addTwccExtension p).2, ?_, ?_⟩
    · rw [hsent, heq]
    · exact (hframe.packet i p hget).reads htype hpayload (by omega) t'
  · rw [step, hwrite]
    rw [SameSender] at hsame
    rw [hframe.length] at hsame ⊢
    exact ⟨_, hsame⟩

end KvsRtpTransceiver

end KvsWebrtc
