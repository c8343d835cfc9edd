import KvsWebrtc.Common.Run
import KvsWebrtc.Common.SeqNum
import KvsWebrtc.PeerConnection.Rtp
import KvsWebrtc.Rtcp.Equiv.RollingBuffer
import KvsWebrtc.Rtp.Equiv.Codec

/-!
# Indices and sequence numbers

A retransmission finds a packet by its index: the packet at index `i` of the rolling buffer has to
be the `i`-th one that the sender has numbered (`Indexed`).

The sequence number goes on by the packets of a frame before any of them is in the buffer.  The
relation survives a frame if all of its packets come into the buffer (`Unbroken`), and then it holds
along a run (`indexed_along`).  A packet that has been numbered and does not come into the buffer
moves the indices of all later packets by one (`indices_shift`).
-/

namespace KvsWebrtc

open Rtp RollingBuffer

/-- What is used of `srtp_protect`: it leaves the header of a packet as it is, and adds the
authentication tag at the end. -/
def KeepsHeader (protect : List UInt8 → List UInt8) : Prop :=
  ∀ rawPacket, Rtp.minHeaderLength ≤ rawPacket.length →
    (protect rawPacket).take Rtp.minHeaderLength = rawPacket.take Rtp.minHeaderLength ∧
      rawPacket.length ≤ (protect rawPacket).length ∧
      (protect rawPacket).length ≤ rawPacket.length + srtpAuthTagOverhead

namespace KvsRtpTransceiver

/-- The packet at index `i` has the `i`-th sequence number. -/
def Indexed (initial : UInt16) (t : KvsRtpTransceiver) : Prop :=
  ∀ i p, t.sender.packetBuffer.rollingBuffer.InRange i →
    t.sender.packetBuffer.rollingBuffer.itemAt i = some p →
      p.header.sequenceNumber = initial + UInt16.ofNat i

def Buffers (bufferAfterEncrypt : Bool) (o : PacketOutcome) : Prop :=
  o.allocated = true ∧ o.copied = true ∧
    (bufferAfterEncrypt = true → o.encrypted = true ∧ o.sendStatus = .success)

def Continues (o : PacketOutcome) : Prop :=
  o.encrypted = true ∧ (o.sendStatus = .success ∨ o.sendStatus = .sendDataFailed)

/-- The condition on a call: all packets that it numbers come into the rolling buffer. -/
def Unbroken (t : KvsRtpTransceiver) (c : WriteFrame) : Prop :=
  c.srtpReady = true → ∀ payloads, c.payloads = .ok payloads → payloads ≠ [] →
    0 < payloads.flatten.length ∧ (c.packetListAllocated = true →
      (∀ payload ∈ payloads, payload.length + 20 + srtpAuthTagOverhead < 2 ^ 32) ∧
      (∀ i < payloads.length, Buffers (t.sender.payloadType == t.sender.rtxPayloadType)
      (c.outcome i)) ∧
      ∀ i, i + 1 < payloads.length → Continues (c.outcome i))

/-- The buffer has been created, and nothing has been sent. -/
structure New (initial : UInt16) (t : KvsRtpTransceiver) : Prop where
  created : ∃ capacity, createRollingBuffer capacity = .ok t.sender.packetBuffer.rollingBuffer
  sequenceNumber : t.sender.sequenceNumber = initial

/-! ### Bytes of a packet -/

/-- What `writeFrame` encodes: packets without CSRCs, with the extension or without one. -/
structure Packed (p : RtpPacket) : Prop where
  version : p.header.version = 2
  padding : p.header.padding = false
  csrcCount : p.header.csrcCount = 0
  extension : p.header.extension = true →
    p.header.extensionLength = 4 ∧ p.header.extensionPayload.length = 4
  payload : p.payloadLength.toNat ≤ p.payload.length
  size : p.payloadLength.toNat + 20 + srtpAuthTagOverhead < 2 ^ 32

variable {p : RtpPacket} (order : ByteOrder)

theorem Packed.readable (h : Packed p) : Readable p where
  csrcs := by
    rw [h.csrcCount]
    exact Nat.zero_le _
  words := by
    intro hext
    rw [(h.extension hext).1]
    rfl
  extension := by
    intro hext
    rw [(h.extension hext).1, (h.extension hext).2]
    exact Nat.le_refl 4
  payload := h.payload

theorem Packed.wireSize_eq (h : Packed p) :
    wireSize p = 12 + (if p.header.extension then 8 else 0) + p.payloadLength.toNat := by
  rw [wireSize, h.csrcCount]
  split_ifs with hext
  · rw [(h.extension hext).1]
    rfl
  · rfl

theorem Packed.wireSize_lt (h : Packed p) : wireSize p + srtpAuthTagOverhead < 2 ^ 32 := by
  have hsize := h.size
  rw [h.wireSize_eq]
  split_ifs <;> omega

theorem Packed.minHeaderLength_le (h : Packed p) :
    Rtp.minHeaderLength ≤ (packetBytes p).length := by
  rw [length_packetBytes h.readable, h.wireSize_eq, Nat.add_assoc]
  exact Nat.le_add_right 12 _

theorem Packed.encode (h : Packed p) :
    setBytesFromRtpPacket p (List.replicate (rawPacketSize p).toNat 0) = .ok (packetBytes p) := by
  have hlength := length_packetBytes h.readable
  have hsize := h.wireSize_lt
  have hraw : (rawPacketSize p).toNat = wireSize p := by
    rw [toNat_rawPacketSize, Nat.mod_eq_of_lt (by omega)]
  rw [setBytesFromRtpPacket_eq_ok_iff, List.length_replicate, hraw, hlength]
  refine ⟨Nat.le_refl _, h.readable, Nat.le_refl _, ?_⟩
  rw [List.drop_eq_nil_of_le (by rw [List.length_replicate]), List.append_nil]

theorem Packed.firstByte_eq (h : Packed p) :
    csrcCountOf (firstByte p.header) = 0 ∧ extensionOf (firstByte p.header) =
      p.header.extension := by
  rw [firstByte, h.version, h.padding, h.csrcCount]
  cases p.header.extension <;> exact ⟨rfl, rfl⟩

/-- **Reading a packet back**: whatever follows the fixed header, it has its sequence number. -/
theorem Packed.decode (h : Packed p) {rawPacket : List UInt8}
    (hhead : rawPacket.take Rtp.minHeaderLength = (packetBytes p).take Rtp.minHeaderLength)
    (hge : (packetBytes p).length ≤ rawPacket.length)
    (hle : rawPacket.length ≤ (packetBytes p).length + srtpAuthTagOverhead) (q : RtpPacket) :
    ∃ copy, setRtpPacketFromBytes order rawPacket q = .ok copy ∧
      copy.header.sequenceNumber = p.header.sequenceNumber := by
  have hlength := length_packetBytes h.readable
  have hsize := h.wireSize_eq
  have hlt := h.wireSize_lt
  have hfirst : rawPacket.getD 0 0 = firstByte p.header := by
    have hget : rawPacket[0]? = (packetBytes p)[0]? := by
      rw [← List.getElem?_take_of_lt (show 0 < Rtp.minHeaderLength by decide), hhead,
        List.getElem?_take_of_lt (by decide)]
    rw [List.getD_eq_getElem?_getD, hget]
    rfl
  have hend : csrcEnd rawPacket = 12 := by
    rw [csrcEnd, csrcsIn, hfirst, h.firstByte_eq.1]
    rfl
  have hext : extensionIn rawPacket = p.header.extension := by
    rw [extensionIn, hfirst, h.firstByte_eq.2]
  refine ⟨decoded order rawPacket q, ?_, ?_⟩
  · rw [setRtpPacketFromBytes_eq (by omega), hend, if_neg (by omega), if_neg]
    rintro ⟨hx, hshort⟩
    rw [hext] at hx
    rw [if_pos hx] at hsize
    omega
  · show UInt16.ofNat (beNat (bytesAt rawPacket 2 2)) = p.header.sequenceNumber
    have hbytes : bytesAt rawPacket 2 2 = bytesAt (packetBytes p) 2 2 := by
      have htake : ∀ bytes : List UInt8, bytesAt bytes 2 2 =
          ((bytes.take Rtp.minHeaderLength).take 4).drop 2 := by
        intro bytes
        rw [List.take_take, bytesAt, List.take_drop]
        rfl
      rw [htake, htake, hhead]
    rw [hbytes, bytesAt_sequenceNumber, beNat_beBytes_of_lt p.header.sequenceNumber.toNat_lt,
      UInt16.ofNat_toNat]

/-! ### One packet -/

/-- Indices and sequence numbers agree up to the next packet, which is numbered `next`. -/
structure Numbered (initial next : UInt16) (t : KvsRtpTransceiver) : Prop where
  holeFree : HoleFree t.sender.packetBuffer.rollingBuffer
  indexed : Indexed initial t
  next_eq : next = initial + UInt16.ofNat t.sender.packetBuffer.rollingBuffer.headIndex

variable {initial : UInt16} {t : KvsRtpTransceiver} {bufferAfterEncrypt : Bool} {o : PacketOutcome}

theorem Numbered.congr {next : UInt16} {t' : KvsRtpTransceiver} (h : Numbered initial next t)
    (hbuffer : t'.sender.packetBuffer = t.sender.packetBuffer) : Numbered initial next t' := by
  obtain ⟨hholeFree, hindexed, hnext⟩ := h
  rw [Indexed] at hindexed
  rw [← hbuffer] at hholeFree hindexed hnext
  exact ⟨hholeFree, hindexed, hnext⟩

/-- The packet that is buffered next gets the next index. -/
theorem Numbered.add (h : Numbered initial p.header.sequenceNumber t) (q : RtpPacket)
    (hq : q.header.sequenceNumber = p.header.sequenceNumber) :
    Numbered initial (p.header.sequenceNumber + 1)
      { t with sender := { t.sender with
        packetBuffer := t.sender.packetBuffer.rtpRollingBufferAddRtpPacket q } } := by
  refine ⟨h.holeFree.append q, ?_, ?_⟩
  · intro i p' hi hp'
    rcases h.holeFree.itemAt_append q hi with ⟨rfl, hitem⟩ | ⟨hin, hitem⟩
    · obtain rfl : q = p' := Option.some.inj (hitem.symm.trans hp')
      rw [hq, h.next_eq]
    · exact h.indexed i p' hin (hitem.symm.trans hp')
  · show _ = initial + UInt16.ofNat (t.sender.packetBuffer.rollingBuffer.rollingBufferAppendData
        q).1.headIndex
    rw [headIndex_append, h.next_eq, UInt16.ofNat_add, UInt16.add_assoc]
    rfl

/-- The bytes that are buffered have the sequence number of the packet. -/
theorem Numbered.bufferPacket (h : Numbered initial p.header.sequenceNumber t) (hp : Packed p)
    {rawPacket : List UInt8}
    (hhead : rawPacket.take Rtp.minHeaderLength = (packetBytes p).take Rtp.minHeaderLength)
    (hge : (packetBytes p).length ≤ rawPacket.length)
    (hle : rawPacket.length ≤ (packetBytes p).length + srtpAuthTagOverhead) :
    ∃ t', t.bufferPacket order rawPacket true = .ok t' ∧
      Numbered initial (p.header.sequenceNumber + 1) t' := by
  obtain ⟨copy, hcopy, hnumber⟩ := hp.decode order hhead hge hle
    { (default : RtpPacket) with rawPacket := rawPacket }
  refine ⟨_, ?_, h.add copy hnumber⟩
  rw [KvsRtpTransceiver.bufferPacket, if_pos rfl, hcopy]
  rfl

theorem onPacketSent_sender (t : KvsRtpTransceiver) (p : RtpPacket) (o : PacketOutcome) :
    (t.onPacketSent p o).sender = t.sender := by
  rw [onPacketSent]
  split_ifs <;> rfl

/-- A send does not buffer a packet that is in the buffer already. -/
theorem sendPacket_buffered (t : KvsRtpTransceiver) (p : RtpPacket) (rawPacket : List UInt8) :
    (t.sendPacket order false o p rawPacket).1.sender = t.sender := by
  rw [sendPacket]
  split_ifs with hdiscarded hfailed hafter
  · rfl
  · exact onPacketSent_sender t p o
  · exact hafter.elim
  · exact onPacketSent_sender t p o

theorem sendPacket_continues (hstatus : o.sendStatus = .success ∨ o.sendStatus = .sendDataFailed)
    (t : KvsRtpTransceiver) (p : RtpPacket) (rawPacket : List UInt8) :
    (t.sendPacket order false o p rawPacket).2 = .ok () := by
  rw [sendPacket]
  rcases hstatus with hstatus | hstatus
  · rw [hstatus]
    rfl
  · rw [if_pos hstatus]

theorem addTwccExtension_sender (t : KvsRtpTransceiver) (p : RtpPacket) :
    (t.addTwccExtension p).1.sender = t.sender := by
  rw [addTwccExtension]
  split_ifs <;> rfl

theorem addTwccExtension_sequenceNumber (t : KvsRtpTransceiver) (p : RtpPacket) :
    (t.addTwccExtension p).2.header.sequenceNumber = p.header.sequenceNumber := by
  rw [addTwccExtension]
  split_ifs <;> rfl

theorem Packed.addTwccExtension (h : Packed p) (t : KvsRtpTransceiver) :
    Packed (t.addTwccExtension p).2 := by
  rw [KvsRtpTransceiver.addTwccExtension]
  split_ifs with hnegotiated
  · constructor
    · exact h.version
    · exact h.padding
    · exact h.csrcCount
    · intro _
      exact ⟨rfl, length_beBytes 4 _⟩
    · exact h.payload
    · exact h.size
  · exact h

/-- **One packet**: if it comes into the buffer, the next packet is numbered next. -/
theorem Numbered.writePacket (h : Numbered initial p.header.sequenceNumber t) (hp : Packed p)
    (ho : Buffers bufferAfterEncrypt o) (hprotect : KeepsHeader o.protect) :
    Numbered initial (p.header.sequenceNumber + 1) (t.writePacket order bufferAfterEncrypt o p).1 ∧
      (Continues o → (t.writePacket order bufferAfterEncrypt o p).2 = .ok ()) := by
  obtain ⟨hallocated, hcopied, hafter⟩ := ho
  have hpacked := hp.addTwccExtension t
  have hnumbered : Numbered initial (t.addTwccExtension p).2.header.sequenceNumber
      (t.addTwccExtension p).1 := by
    rw [addTwccExtension_sequenceNumber]
    apply h.congr
    rw [addTwccExtension_sender]
  rw [KvsRtpTransceiver.writePacket, ← addTwccExtension_sequenceNumber t p]
  generalize t.addTwccExtension p = extended at hpacked hnumbered
  obtain ⟨t, p⟩ := extended
  dsimp only at hpacked hnumbered ⊢
  rw [if_pos hallocated, hpacked.encode, hcopied]
  cases bufferAfterEncrypt with
  | false =>
    obtain ⟨t', hbuffer, hnumbered'⟩ := hnumbered.bufferPacket order hpacked rfl (Nat.le_refl _)
      (Nat.le_add_right _ _)
    simp only [Bool.false_eq_true, ↓reduceIte, hbuffer]
    constructor
    · split_ifs
      · apply hnumbered'.congr
        rw [sendPacket_buffered]
      · exact hnumbered'
    · rintro ⟨hencrypted, hstatus⟩
      rw [if_pos hencrypted]
      exact sendPacket_continues order hstatus t' p _
  | true =>
    obtain ⟨hencrypted, hstatus⟩ := hafter rfl
    obtain ⟨hhead, hge, hle⟩ := hprotect (packetBytes p) hpacked.minHeaderLength_le
    have hsent : Numbered initial p.header.sequenceNumber (t.onPacketSent p o) := by
      apply hnumbered.congr
      rw [onPacketSent_sender]
    obtain ⟨t', hbuffer, hnumbered'⟩ := hsent.bufferPacket order hpacked hhead hge hle
    simp only [↓reduceIte, hencrypted, sendPacket, hstatus, reduceCtorEq, Status.failed_success,
      Bool.false_eq_true, hcopied, hbuffer]
    exact ⟨hnumbered', fun _ => trivial⟩

/-! ### One frame -/

/-- The packets of a frame have the sequence numbers from the first one on. -/
theorem constructLoop_packed (payloadType : UInt8) (timestamp ssrc : UInt32)
    {payloads : List (List UInt8)}
    (hsize : ∀ payload ∈ payloads, payload.length + 20 + srtpAuthTagOverhead < 2 ^ 32)
    (first : UInt16) {memory : List RtpPacket} (hmemory : payloads.length ≤ memory.length) :
    ∃ packets, constructLoop payloadType timestamp ssrc payloads first memory = .ok packets ∧
      ∀ i < payloads.length, ∃ p, packets[i]? = some p ∧ Packed p ∧
        p.header.sequenceNumber = first + UInt16.ofNat i := by
  induction payloads generalizing first memory with
  | nil => exact ⟨memory, rfl, fun i hi => absurd hi (Nat.not_lt_zero i)⟩
  | cons payload payloads ih =>
    obtain ⟨hpayload, hsize⟩ := List.forall_mem_cons.mp hsize
    cases memory with
    | nil => exact absurd hmemory (Nat.not_succ_le_zero _)
    | cons pPacket memory =>
      obtain ⟨packets, hpackets, hspec⟩ := ih hsize (first + 1) (Nat.le_of_succ_le_succ hmemory)
      have hlength : (UInt32.ofNat payload.length).toNat = payload.length := by
        rw [UInt32.toNat_ofNat', Nat.mod_eq_of_lt (by omega)]
      rw [constructLoop, hpackets, setRtpPacket, if_pos (.inl rfl)]
      refine ⟨_, rfl, ?_⟩
      intro i hi
      cases i with
      | zero =>
        refine ⟨_, rfl, ⟨rfl, rfl, rfl, ?_, ?_, ?_⟩, (UInt16.add_zero first).symm⟩
        · intro hext
          cases hext
        · show (UInt32.ofNat payload.length).toNat ≤ (payload ++ payloads.flatten).length
          rw [hlength, List.length_append]
          exact Nat.le_add_right _ _
        · show (UInt32.ofNat payload.length).toNat + 20 + srtpAuthTagOverhead < 2 ^ 32
          rw [hlength]
          exact hpayload
      | succ i =>
        obtain ⟨p, hp, hpacked, hnumber⟩ := hspec i (Nat.lt_of_succ_lt_succ hi)
        exact ⟨p, hp, hpacked, by rw [hnumber, SeqNum.add_ofNat_succ]⟩

theorem constructRtpPackets_packed {payloads : List (List UInt8)}
    (hpos : 0 < payloads.flatten.length)
    (hsize : ∀ payload ∈ payloads, payload.length + 20 + srtpAuthTagOverhead < 2 ^ 32)
    (payloadType : UInt8) (first : UInt16) (timestamp ssrc : UInt32) {memory : List RtpPacket}
    (hmemory : payloads.length ≤ memory.length) :
    ∃ packets, constructRtpPackets payloads payloadType first timestamp ssrc
    (some memory) = .ok packets ∧
      ∀ i < payloads.length, ∃ p, packets[i]? = some p ∧ Packed p ∧
        p.header.sequenceNumber = first + UInt16.ofNat i := by
  obtain ⟨packets, hpackets, hspec⟩ := constructLoop_packed payloadType timestamp ssrc hsize first
    hmemory
  refine ⟨packets, ?_, hspec⟩
  unfold constructRtpPackets
  rw [if_pos hpos]
  dsimp only
  rw [if_pos hmemory, hpackets]

/-- **The packets of a frame**: if all of them come into the buffer, they get the next indices, also
when the last one cannot be sent. -/
theorem Numbered.writePackets {first : UInt16} {outcome : Nat → PacketOutcome}
    {packets : List RtpPacket} (hprotect : ∀ i, KeepsHeader (outcome i).protect) {n i : Nat}
    (hpackets : ∀ j, i ≤ j → j < i + n → ∃ p, packets[j]? = some p ∧ Packed p ∧
      p.header.sequenceNumber = first + UInt16.ofNat j)
    (hbuffers : ∀ j, i ≤ j → j < i + n → Buffers bufferAfterEncrypt (outcome j))
    (hcontinues : ∀ j, i ≤ j → j + 1 < i + n → Continues (outcome j))
    (h : Numbered initial (first + UInt16.ofNat i) t) :
    Numbered initial (first + UInt16.ofNat (i + n))
      (t.writePackets order bufferAfterEncrypt outcome packets (List.range' i n)).1 := by
  induction n generalizing i t with
  | zero => exact h
  | succ n ih =>
    obtain ⟨p, hp, hpacked, hnumber⟩ := hpackets i (Nat.le_refl i) (by omega)
    rw [← hnumber] at h
    obtain ⟨hnext, hgo⟩ := h.writePacket order hpacked
      (hbuffers i (Nat.le_refl i) (by omega)) (hprotect i)
    have hsucc : p.header.sequenceNumber + 1 = first + UInt16.ofNat (i + 1) := by
      rw [hnumber, UInt16.ofNat_add, UInt16.add_assoc]
      rfl
    rw [hsucc] at hnext
    rw [List.range'_succ, KvsRtpTransceiver.writePackets, hp]
    dsimp only
    cases n with
    | zero =>
      -- nothing depends on how the last packet ends
      generalize t.writePacket order bufferAfterEncrypt (outcome i) p = r at hnext
      obtain ⟨t', _ | _⟩ := r
      · exact hnext
      · exact hnext
    | succ n =>
      have hok := hgo (hcontinues i (Nat.le_refl i) (by omega))
      generalize t.writePacket order bufferAfterEncrypt (outcome i) p = r at hnext hok
      obtain ⟨t', result⟩ := r
      obtain rfl : result = .ok () := hok
      have hrest := ih (fun j hij hj => hpackets j (by omega) (by omega))
        (fun j hij hj => hbuffers j (by omega) (by omega))
        (fun j hij hj => hcontinues j (by omega) (by omega)) hnext
      rwa [Nat.add_assoc i 1 (n + 1), Nat.add_comm 1] at hrest

/-! ### The sequence number -/

theorem bufferPacket_sequenceNumber {t t' : KvsRtpTransceiver} {rawPacket : List UInt8}
    {copied : Bool} (h : t.bufferPacket order rawPacket copied = .ok t') :
    t'.sender.sequenceNumber = t.sender.sequenceNumber := by
  rw [KvsRtpTransceiver.bufferPacket] at h
  split_ifs at h
  obtain ⟨copy, -, h⟩ := bind_eq_ok_iff.mp h
  obtain rfl := Except.ok.inj h
  rfl

theorem sendPacket_sequenceNumber (t : KvsRtpTransceiver) (p : RtpPacket) (rawPacket : List UInt8) :
    (t.sendPacket order bufferAfterEncrypt o p rawPacket).1.sender.sequenceNumber =
      t.sender.sequenceNumber := by
  rw [← onPacketSent_sender t p o, sendPacket]
  split_ifs with hdiscarded hfailed hafter
  · rw [onPacketSent_sender]
  · rfl
  · dsimp only
    split
    · rfl
    · exact bufferPacket_sequenceNumber order ‹_›
  · rfl

theorem writePacket_sequenceNumber (o : PacketOutcome) (t : KvsRtpTransceiver) (p : RtpPacket) :
    (t.writePacket order bufferAfterEncrypt o p).1.sender.sequenceNumber =
      t.sender.sequenceNumber := by
  rw [← addTwccExtension_sender t p, writePacket]
  generalize t.addTwccExtension p = extended
  obtain ⟨t, p⟩ := extended
  dsimp only
  by_cases hallocated : o.allocated = true
  · rw [if_pos hallocated]
    cases setBytesFromRtpPacket p (List.replicate (rawPacketSize p).toNat 0) with
    | error e => rfl
    | ok rawPacket =>
      dsimp only
      have hbuffered : ∀ t', (if bufferAfterEncrypt then Except.ok t
          else t.bufferPacket order rawPacket o.copied) = .ok t' →
            t'.sender.sequenceNumber = t.sender.sequenceNumber := by
        intro t' ht'
        split_ifs at ht'
        · rw [Except.ok.inj ht']
        · exact bufferPacket_sequenceNumber order ht'
      generalize (if bufferAfterEncrypt then Except.ok t
        else t.bufferPacket order rawPacket o.copied) = buffered at hbuffered
      cases buffered with
      | error e => rfl
      | ok t' =>
        rw [← hbuffered t' rfl]
        dsimp only
        split_ifs
        · exact sendPacket_sequenceNumber order t' p _
        · rfl
  · rw [if_neg hallocated]

theorem writePackets_sequenceNumber {outcome : Nat → PacketOutcome} {packets : List RtpPacket}
    (is : List Nat) (t : KvsRtpTransceiver) :
    (t.writePackets order bufferAfterEncrypt outcome packets is).1.sender.sequenceNumber =
      t.sender.sequenceNumber := by
  induction is generalizing t with
  | nil => rfl
  | cons i is ih =>
    rw [writePackets]
    cases packets[i]? with
    | none => rfl
    | some p =>
      dsimp only
      have hround : (t.writePacket order bufferAfterEncrypt (outcome i) p).1.sender.sequenceNumber =
          t.sender.sequenceNumber := writePacket_sequenceNumber order (outcome i) t p
      rw [← hround]
      generalize t.writePacket order bufferAfterEncrypt (outcome i) p = r
      obtain ⟨t', _ | _⟩ := r
      · rfl
      · exact ih t'

/-! ### A run -/

/-- **One call** keeps indices and sequence numbers together. -/
theorem Numbered.writeFrame (h : Numbered initial t.sender.sequenceNumber t) {c : WriteFrame}
    (hprotect : ∀ i, KeepsHeader (c.outcome i).protect) (hunbroken : Unbroken t c) :
    Numbered initial (t.step order c).sender.sequenceNumber (t.step order c) := by
  have hzero : t.sender.sequenceNumber + UInt16.ofNat 0 = t.sender.sequenceNumber :=
    UInt16.add_zero _
  rw [step, KvsRtpTransceiver.writeFrame]
  by_cases hready : c.srtpReady = true
  · rw [if_pos hready]
    cases hpayloads : c.payloads with
    | error e => exact h
    | ok payloads =>
      dsimp only
      by_cases hempty : payloads = []
      · -- a frame without payloads takes no number
        subst hempty
        have hpackets : constructRtpPackets [] t.sender.payloadType t.sender.sequenceNumber
            c.rtpTimestamp
            t.sender.ssrc (if c.packetListAllocated then some [] else none) = .ok [] := by
          cases c.packetListAllocated <;> rfl
        rw [List.length_nil, List.range_zero, List.map_nil, hpackets]
        dsimp only
        rw [hzero]
        exact h
      · obtain ⟨hpos, hall⟩ := hunbroken hready payloads hpayloads hempty
        by_cases hlist : c.packetListAllocated = true
        · obtain ⟨hsize, hbuffers, hcontinues⟩ := hall hlist
          have hmemory : payloads.length ≤ ((List.range payloads.length).map c.memory).length := by
            rw [List.length_map, List.length_range]
          obtain ⟨packets, hpackets, hspec⟩ :=
            constructRtpPackets_packed hpos hsize t.sender.payloadType
            t.sender.sequenceNumber c.rtpTimestamp t.sender.ssrc hmemory
          rw [if_pos hlist, hpackets]
          dsimp only
          rw [writePackets_sequenceNumber, List.range_eq_range']
          rw [← hzero] at h
          -- the numbers are taken before the packets are written
          have hadvanced : Numbered initial (t.sender.sequenceNumber + UInt16.ofNat 0)
              { t with sender := { t.sender with
                sequenceNumber := t.sender.sequenceNumber + UInt16.ofNat payloads.length } } :=
                h.congr rfl
          have hframe := hadvanced.writePackets order hprotect (n := payloads.length)
            (fun j _ hj => hspec j (by omega)) (fun j _ hj => hbuffers j (by omega))
            (fun j _ hj => hcontinues j (by omega))
          rwa [Nat.zero_add] at hframe
        · have hpackets : constructRtpPackets payloads t.sender.payloadType t.sender.sequenceNumber
              c.rtpTimestamp t.sender.ssrc none = .error (.status .nullArg) := by
            unfold constructRtpPackets
            rw [if_pos hpos]
          rw [if_neg hlist, hpackets]
          exact h
  · rw [if_neg hready]
    exact h

/-- **The indices along a run**: if every call brings all packets that it numbers into the buffer,
the packet at index `i` is the `i`-th one in every state. -/
theorem indexed_along (hnew : New initial t) {calls : List WriteFrame}
    (hprotect : ∀ c ∈ calls, ∀ i, KeepsHeader (c.outcome i).protect)
    (hsteps : AllSteps (step order) Unbroken t calls) :
    Along (step order) (Indexed initial) t calls := by
  obtain ⟨⟨capacity, hcreated⟩, hnumber⟩ := hnew
  have hstart : Numbered initial t.sender.sequenceNumber t := by
    have hholeFree := createRollingBuffer_holeFree hcreated
    rw [createRollingBuffer] at hcreated
    split_ifs at hcreated
    have hbuffer := Except.ok.inj hcreated
    refine ⟨hholeFree, ?_, ?_⟩
    · intro i p hin
      rw [← hbuffer] at hin
      exact absurd hin.1 (Nat.not_lt_zero i)
    · rw [← hbuffer, hnumber]
      exact (UInt16.add_zero initial).symm
  clear hcreated hnumber
  induction calls generalizing t with
  | nil => exact hstart.indexed
  | cons c calls ih =>
    obtain ⟨hc, hrest⟩ := hsteps
    obtain ⟨hprotectFirst, hprotectRest⟩ := List.forall_mem_cons.mp hprotect
    exact ⟨hstart.indexed, ih hprotectRest hrest (hstart.writeFrame order hprotectFirst hc)⟩

def newTransceiver : KvsRtpTransceiver where
  sender :=
    { payloadType := 96
      rtxPayloadType := 97
      sequenceNumber := 0
      ssrc := 1
      packetBuffer :=
        { rollingBuffer :=
            { capacity := 10, headIndex := 0, tailIndex := 0, dataBuffer := fun _ => none,
              freed := [] }
          lastIndex := 0 } }
  twccExtId := 1
  transportWideSequenceNumber := 0
  twccManager := .create

theorem new_newTransceiver : New 0 newTransceiver := ⟨⟨10, rfl⟩, rfl⟩

/-- Encryption without a cipher: the packet with an authentication tag. -/
def addTag (rawPacket : List UInt8) : List UInt8 :=
  rawPacket ++ List.replicate srtpAuthTagOverhead 0

theorem keepsHeader_addTag : KeepsHeader addTag := by
  intro rawPacket hlength
  rw [addTag, List.length_append, List.length_replicate, List.take_append_of_le_length hlength]
  exact ⟨rfl, Nat.le_add_right _ _, Nat.le_refl _⟩

def twoPackets (encrypted : Bool) : WriteFrame where
  srtpReady := true
  payloads := .ok [[1, 2], [3]]
  rtpTimestamp := 0
  packetListAllocated := true
  memory := fun _ => default
  outcome := fun i =>
    { allocated := true
      copied := true
      encrypted := encrypted || i != 0
      protect := addTag
      sendStatus := .success
      sentTime := 10 }

theorem unbroken_twoPackets (t : KvsRtpTransceiver) : Unbroken t (twoPackets true) := by
  intro _ payloads hpayloads _
  obtain rfl := Except.ok.inj hpayloads
  exact ⟨by decide, fun _ => ⟨by decide, fun i _ => ⟨rfl, rfl, fun _ => ⟨rfl, rfl⟩⟩,
    fun i _ => ⟨rfl, .inl rfl⟩⟩⟩

theorem indexed_along_sample :
    Along (step .littleEndian) (Indexed 0) newTransceiver [twoPackets true, twoPackets true] := by
  apply indexed_along .littleEndian new_newTransceiver
  · intro c hc i
    obtain rfl : c = twoPackets true := by simpa using hc
    exact keepsHeader_addTag
  · exact ⟨unbroken_twoPackets _, unbroken_twoPackets _, trivial⟩

/-- When the second packet of a frame is not buffered, the packets of the next one come too
early. -/
theorem indices_shift :
    ¬ ∀ calls : List WriteFrame, (∀ c ∈ calls, ∀ i, KeepsHeader (c.outcome i).protect) →
      Along (step .littleEndian) (Indexed 0) newTransceiver calls := by
  intro h
  have hlast : Indexed 0 ([twoPackets false, twoPackets true].foldl
      (step .littleEndian) newTransceiver) := by
    apply Along.last (h _ ?_)
    intro c hc i
    have hmem : c = twoPackets false ∨ c = twoPackets true := by simpa using hc
    rcases hmem with rfl | rfl
    · exact keepsHeader_addTag
    · exact keepsHeader_addTag
  have hitem : (([twoPackets false, twoPackets true].foldl (step .littleEndian)
      newTransceiver).sender.packetBuffer.rollingBuffer.itemAt 1).map (·.header.sequenceNumber) =
      some 2 := by
    decide +kernel
  obtain ⟨p, hp, hnumber⟩ := Option.map_eq_some_iff.mp hitem
  have hindex := hlast 1 p (by decide +kernel) hp
  rw [hnumber] at hindex
  exact absurd hindex (by decide)

end KvsRtpTransceiver

end KvsWebrtc
