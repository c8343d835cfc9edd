import KvsWebrtc.PeerConnection.Equiv.SequenceNumbers
import KvsWebrtc.Rtp.Equiv.HeaderBounds
import KvsWebrtc.Rtp.Codec

/-!
# The packets of a retransmission

`constructRetransmitRtpPacketFromBytes` decodes the bytes that `writeFrame` has stored, puts the
original sequence number in front of the payload, changes four fields of the header and encodes the
packet again. What the bytes decode to differs from what the original bytes decode to in these
fields and the payload, and the pointer that is computed from the sizes is the payload in the new
bytes (`retransmits_stored`).

The extension of the decoded packet is a pointer into the original bytes, which reaches beyond its
end; `trimmed` cuts off what the pointers of a packet reach beyond its lengths.
-/

namespace KvsWebrtc.Rtp

variable {order : ByteOrder} {p : RtpPacket} {raw : List UInt8} {sequenceNum : UInt16}
  {payloadType : UInt8} {ssrc : UInt32}

/-! ### What the pointers reach beyond -/

/-- The packet without the bytes behind its extension and its payload. -/
def trimmed (p : RtpPacket) : RtpPacket :=
  { p with header := (contents p).1, payload := payloadBytes p }

theorem packetBytes_trimmed (p : RtpPacket) : packetBytes (trimmed p) = packetBytes p := by
  have hhead : headBytes (trimmed p).header = headBytes p.header := rfl
  have hcsrcs : csrcBytes (trimmed p).header = csrcBytes p.header := by
    simp [csrcBytes, trimmed, contents, List.take_take]
  have hextension : extensionBytes (trimmed p).header = extensionBytes p.header := by
    simp [extensionBytes, trimmed, contents, List.take_take]
  have hpayload : (trimmed p).payload.take (trimmed p).payloadLength.toNat =
      p.payload.take p.payloadLength.toNat := by
    simp [trimmed, payloadBytes]
  rw [packetBytes, hhead, hcsrcs, hextension, hpayload, packetBytes]

theorem Expressible.readable_of_trimmed (h : Expressible (trimmed p)) : Readable p := by
  have hcsrcs := h.csrcArray
  have hextension := h.extensionPayload
  have hpayload := h.payload
  simp only [trimmed, contents, payloadBytes, List.length_take] at hcsrcs hextension hpayload
  exact ⟨by omega, fun _ => h.words, fun _ => by omega, by omega⟩

/-- The encoder writes a packet into a buffer of its size. -/
theorem Expressible.encode (h : Expressible (trimmed p)) (hsize : wireSize (trimmed p) < 2 ^ 32) :
    createBytesFromRtpPacket p (some (List.replicate (rawPacketSize p).toNat 0)) (rawPacketSize p) =
      .ok (packetBytes p, rawPacketSize p) := by
  have hlength := length_packetBytes h.readable_of_trimmed
  have hraw : (rawPacketSize p).toNat = wireSize p :=
    (toNat_rawPacketSize p).trans (Nat.mod_eq_of_lt hsize)
  have hbytes : setBytesFromRtpPacket p (List.replicate (rawPacketSize p).toNat 0) =
      .ok (packetBytes p) := by
    rw [setBytesFromRtpPacket_eq_ok_iff, List.length_replicate, hraw, hlength]
    refine ⟨Nat.le_refl _, h.readable_of_trimmed, Nat.le_refl _, ?_⟩
    rw [List.drop_eq_nil_of_le (by rw [List.length_replicate]), List.append_nil]
  have hroom : rawPacketSize p ≥ rawPacketSize p := UInt32.le_refl _
  simp only [createBytesFromRtpPacket, hroom, ↓reduceIte, hbytes]
  rfl

/-! ### The packet that is encoded -/

def rtxPacket (original : RtpPacket) (sequenceNum : UInt16) (payloadType : UInt8) (ssrc : UInt32) :
    RtpPacket :=
  { original with
    payloadLength := original.payloadLength + 2
    payload := beBytes 2 original.header.sequenceNumber.toNat ++ payloadBytes original
    header := { original.header with
      sequenceNumber := sequenceNum, ssrc := ssrc, payloadType := payloadType, padding := false }
    rawPacket := [] }

/-- The bytes have no CSRC, and hold the header that they declare. -/
structure Plain (raw : List UInt8) : Prop where
  noCsrc : csrcsIn raw = 0
  header : csrcEnd raw ≤ raw.length
  extension : extensionIn raw = true → HoldsExtension raw
  /-- There is room for the original sequence number. -/
  size : raw.length + 2 < 2 ^ 32

theorem Plain.decode (h : Plain raw) (memory : RtpPacket) :
    setRtpPacketFromBytes order raw memory = .ok (decoded order raw memory) := by
  have hheader := h.header
  have hsize := h.size
  rw [setRtpPacketFromBytes_eq (by omega), if_neg (by omega), if_neg]
  rintro ⟨hext, hshort⟩
  have hholds := (h.extension hext).2
  omega

theorem Plain.inside (h : Plain raw) (memory : RtpPacket) : Inside raw (decoded order raw memory) :=
  have hsize := h.size
  inside_decoded (by omega) h.header h.extension

theorem Plain.length_payload (h : Plain raw) (memory : RtpPacket) :
    (decoded order raw memory).payload.length = (decoded order raw memory).payloadLength.toNat := by
  rw [(h.inside memory).payload, (h.inside memory).payloadLength, List.length_drop]

theorem Plain.payloadLength_add (h : Plain raw) (memory : RtpPacket) :
    ((decoded order raw memory).payloadLength + 2).toNat =
      (decoded order raw memory).payloadLength.toNat + 2 := by
  have hinside : Inside raw (decoded order raw memory) := h.inside memory
  have hlength := hinside.payloadLength
  have hsize := h.size
  rw [UInt32.toNat_add]
  change (_ + 2) % 2 ^ 32 = _
  omega

theorem version_lt (b : UInt8) : versionOf b < 4 := by
  revert b
  apply forall_byte
  decide +kernel

/-- The format can express the packet that is encoded. -/
theorem Plain.expressible (h : Plain raw) (memory : RtpPacket) (htype : payloadType < 128) :
    Expressible (trimmed (rtxPacket (decoded order raw memory) sequenceNum payloadType ssrc)) := by
  have hinside : Inside raw (decoded order raw memory) := h.inside memory
  have hcount : csrcCountOf (raw.getD 0 0) = 0 := UInt8.toNat_inj.mp h.noCsrc
  -- the extension is copied with the length that its header has
  have hlength : (headerIn order raw).extensionLength.toNat =
      if extensionIn raw then 4 * extensionWords raw else 0 := by
    cases hext : extensionIn raw with
    | false => simp [headerIn, hext]
    | true =>
      rw [toNat_extensionLength_headerIn hext, if_pos rfl]
      have := (h.extension hext).1
      omega
  constructor
  · exact version_lt _
  · change csrcCountOf (raw.getD 0 0) < 16
    rw [hcount]
    decide
  · change ((csrcArrayAt order raw (csrcsIn raw)).take _).length =
        (csrcCountOf (raw.getD 0 0)).toNat
    rw [h.noCsrc, hcount]
    simp [csrcArrayAt]
  · exact htype
  · change (headerIn order raw).extensionLength.toNat % 4 = 0
    rw [hlength]
    split_ifs <;> omega
  · change (headerIn order raw).extensionLength.toNat < 2 ^ 18
    rw [hlength]
    split_ifs with hext
    · have := (h.extension hext).1
      omega
    · decide
  · change ((headerIn order raw).extensionPayload.take
        (headerIn order raw).extensionLength.toNat).length =
      (headerIn order raw).extensionLength.toNat
    rw [List.length_take, hlength]
    cases hext : extensionIn raw with
    | false => simp
    | true =>
      have hholds := (h.extension hext).2
      simp only [headerIn, hext, ↓reduceIte, List.length_drop]
      omega
  · intro hext
    have hext' : extensionIn raw = false := hext
    change (headerIn order raw).extensionProfile = 0 ∧ (headerIn order raw).extensionLength = 0
    simp [headerIn, hext']
  · have hpayload : (decoded order raw memory).payload.length =
      (decoded order raw memory).payloadLength.toNat := h.length_payload memory
    change ((beBytes 2 _ ++ payloadBytes (decoded order raw memory)).take
      ((decoded order raw memory).payloadLength + 2).toNat).length = _
    change _ = ((decoded order raw memory).payloadLength + 2).toNat
    rw [h.payloadLength_add, List.length_take, List.length_append, length_beBytes, payloadBytes,
      List.length_take, hpayload]
    omega

theorem Plain.wireSize_rtxPacket (h : Plain raw) (memory : RtpPacket) :
    wireSize (rtxPacket (decoded order raw memory) sequenceNum payloadType ssrc) =
      raw.length + 2 := by
  have hinside : Inside raw (decoded order raw memory) := h.inside memory
  have hheader := hinside.header
  have hcount : csrcCountOf (raw.getD 0 0) = 0 := UInt8.toNat_inj.mp h.noCsrc
  have hend : csrcEnd raw = 12 := by
    rw [csrcEnd, h.noCsrc]
    rfl
  have hsize : wireSize (rtxPacket (decoded order raw memory) sequenceNum payloadType ssrc) =
      12 + 4 * (csrcCountOf (raw.getD 0 0)).toNat +
        (if extensionIn raw then 4 + (headerIn order raw).extensionLength.toNat else 0) +
        ((decoded order raw memory).payloadLength + 2).toNat := rfl
  rw [hsize, h.payloadLength_add, hinside.payloadLength, hcount]
  cases hext : extensionIn raw with
  | false =>
    rw [declaredLength_of_no_extension hext] at hheader ⊢
    simp only [Bool.false_eq_true, ↓reduceIte, UInt8.toNat_zero]
    omega
  | true =>
    have hlength := (hinside.extension hext).2
    change csrcEnd raw + 4 + (headerIn order raw).extensionLength.toNat = _ at hlength
    simp only [↓reduceIte, UInt8.toNat_zero]
    omega

theorem Plain.wireSize_lt (h : Plain raw) (memory : RtpPacket) :
    wireSize (trimmed (rtxPacket (decoded order raw memory) sequenceNum payloadType ssrc)) <
      2 ^ 32 := by
  change wireSize (rtxPacket (decoded order raw memory) sequenceNum payloadType ssrc) < 2 ^ 32
  rw [h.wireSize_rtxPacket memory]
  exact h.size

/-! ### The packet that comes out -/

/-- What the bytes of a retransmission decode to. -/
structure Retransmission (original : RtpPacket) (sequenceNum : UInt16) (payloadType : UInt8)
    (ssrc : UInt32) (r : RtpPacket) : Prop where
  sequenceNumber : r.header.sequenceNumber = sequenceNum
  payloadType : r.header.payloadType = payloadType
  ssrc : r.header.ssrc = ssrc
  padding : r.header.padding = false
  version : r.header.version = original.header.version
  marker : r.header.marker = original.header.marker
  timestamp : r.header.timestamp = original.header.timestamp
  csrcCount : r.header.csrcCount = original.header.csrcCount
  extension : r.header.extension = original.header.extension
  extensionProfile : r.header.extensionProfile = original.header.extensionProfile
  extensionLength : r.header.extensionLength = original.header.extensionLength
  extensionPayload : r.header.extensionPayload.take r.header.extensionLength.toNat =
    original.header.extensionPayload.take original.header.extensionLength.toNat
  /-- The original sequence number comes before the original payload. -/
  payload : payloadBytes r = beBytes 2 original.header.sequenceNumber.toNat ++ payloadBytes original

/-- The pointer and the lengths of the packet that is returned are those of its bytes. -/
structure Describes (q : RtpPacket) (rawPacketLength : UInt32) (r : RtpPacket) : Prop where
  rawPacketLength : rawPacketLength.toNat = q.rawPacket.length
  payload : q.payload = r.payload
  payloadLength : q.payloadLength = r.payloadLength
  exact : q.payload.length = q.payloadLength.toNat

/-- The retransmission of some bytes: it is constructed, and it decodes to what has to be sent
again. -/
def Retransmits (order : ByteOrder) (memory : RtpPacket) (raw : List UInt8) (sequenceNum : UInt16)
    (payloadType : UInt8) (ssrc : UInt32) : Prop :=
  ∃ original q rawPacketLength, setRtpPacketFromBytes order raw memory = .ok original ∧
    constructRetransmitRtpPacketFromBytes order ⟨some memory, true,
      true⟩ raw sequenceNum payloadType
      ssrc = .ok (q, rawPacketLength) ∧
    ∀ memory', ∃ r, setRtpPacketFromBytes order q.rawPacket memory' = .ok r ∧
      Retransmission original sequenceNum payloadType ssrc r ∧ Describes q rawPacketLength r

def rtxResult (original : RtpPacket) (sequenceNum : UInt16) (payloadType : UInt8) (ssrc : UInt32) :
    RtpPacket :=
  let p := rtxPacket original sequenceNum payloadType ssrc
  { p with
    rawPacket := packetBytes p
    payload := (packetBytes p).drop ((rawPacketSize p).toNat - p.payloadLength.toNat) }

theorem construct_eq (h : Plain raw) (memory : RtpPacket) (htype : payloadType < 128) :
    constructRetransmitRtpPacketFromBytes order ⟨some memory, true, true⟩ raw sequenceNum
      payloadType
        ssrc =
      .ok (rtxResult (decoded order raw memory) sequenceNum payloadType ssrc,
        rawPacketSize (rtxPacket (decoded order raw memory) sequenceNum payloadType ssrc)) := by
  have hexpressible :
      Expressible (trimmed (rtxPacket (decoded order raw memory) sequenceNum payloadType
        ssrc)) := h.expressible memory htype
  have hencode := hexpressible.encode (h.wireSize_lt memory)
  have hread : readBytes (decoded order raw memory).payload
      (decoded order raw memory).payloadLength.toNat =
      .ok (payloadBytes (decoded order raw memory)) :=
    readBytes_eq_ok_iff.mpr ⟨Nat.le_of_eq (h.length_payload memory).symm, rfl⟩
  unfold constructRetransmitRtpPacketFromBytes
  dsimp only
  refine bind_eq_ok_iff.mpr ⟨_, h.decode memory, ?_⟩
  rw [if_pos rfl]
  refine bind_eq_ok_iff.mpr ⟨_, hread, ?_⟩
  refine bind_eq_ok_iff.mpr ⟨([], rawPacketSize (rtxPacket (decoded order raw memory) sequenceNum
    payloadType ssrc)), rfl, ?_⟩
  rw [if_pos rfl]
  exact bind_eq_ok_iff.mpr ⟨_, hencode, rfl⟩

theorem toNat_extensionLength_headerIn_lt (order : ByteOrder) (raw : List UInt8) :
    (headerIn order raw).extensionLength.toNat < 2 ^ 16 := by
  cases hext : extensionIn raw with
  | false => simp [headerIn, hext]
  | true =>
    rw [toNat_extensionLength_headerIn hext]
    exact Nat.mod_lt _ (by decide)

/-- The bytes of the packet that is encoded decode to its contents. -/
theorem retransmission_decoded (h : Plain raw) (memory memory' : RtpPacket)
    (htype : payloadType < 128) :
    Retransmission (decoded order raw memory) sequenceNum payloadType ssrc
      (decoded order (packetBytes (rtxPacket (decoded order raw memory) sequenceNum payloadType
        ssrc))
        memory') := by
  have hexpressible :
      Expressible (trimmed (rtxPacket (decoded order raw memory) sequenceNum payloadType
        ssrc)) := h.expressible memory htype
  have hsize :
      wireSize (trimmed (rtxPacket (decoded order raw memory) sequenceNum payloadType ssrc)) <
    2 ^ 32 := h.wireSize_lt memory
  have hcontents := @contents_decoded order _ hexpressible hsize
    (toNat_extensionLength_headerIn_lt order raw) memory'
  rw [packetBytes_trimmed] at hcontents
  have hfield : ∀ {α : Type} (field : RtpPacketHeader → α), _ = _ :=
    fun field => congrArg (fun c => field c.1) hcontents
  constructor
  · exact hfield RtpPacketHeader.sequenceNumber
  · exact hfield RtpPacketHeader.payloadType
  · exact hfield RtpPacketHeader.ssrc
  · exact hfield RtpPacketHeader.padding
  · exact hfield RtpPacketHeader.version
  · exact hfield RtpPacketHeader.marker
  · exact hfield RtpPacketHeader.timestamp
  · exact hfield RtpPacketHeader.csrcCount
  · exact hfield RtpPacketHeader.extension
  · exact hfield RtpPacketHeader.extensionProfile
  · exact hfield RtpPacketHeader.extensionLength
  · exact hfield RtpPacketHeader.extensionPayload
  · have hpayload := congrArg (fun c => c.2.1) hcontents
    refine hpayload.trans (List.take_of_length_le ?_)
    -- nothing is cut off: the two bytes and the payload are as long as the new length says
    change (beBytes 2 _ ++ payloadBytes (decoded order raw memory)).length ≤
      ((decoded order raw memory).payloadLength + 2).toNat
    rw [h.payloadLength_add, List.length_append, length_beBytes, payloadBytes, List.length_take]
    omega

/-- The pointer that is computed from the sizes is the payload in the bytes. -/
theorem describes_rtxResult (h : Plain raw) (memory memory' : RtpPacket)
    (htype : payloadType < 128) :
    Describes (rtxResult (decoded order raw memory) sequenceNum payloadType ssrc)
      (rawPacketSize (rtxPacket (decoded order raw memory) sequenceNum payloadType ssrc))
      (decoded order (packetBytes (rtxPacket (decoded order raw memory) sequenceNum payloadType
        ssrc))
        memory') := by
  have hsize := h.size
  have hexpressible :
      Expressible (trimmed (rtxPacket (decoded order raw memory) sequenceNum payloadType
        ssrc)) := h.expressible memory htype
  have hwire : wireSize (rtxPacket (decoded order raw memory) sequenceNum payloadType ssrc) =
    raw.length + 2 := h.wireSize_rtxPacket memory
  obtain ⟨hpayload, hoff⟩ := payload_packetBytes hexpressible
    (toNat_extensionLength_headerIn_lt order raw)
  have hexact := hexpressible.payload
  have hlength := length_packetBytes hexpressible.readable_of_trimmed
  rw [packetBytes_trimmed] at hpayload hoff
  have hraw : (rawPacketSize (rtxPacket (decoded order raw memory) sequenceNum payloadType
      ssrc)).toNat =
      raw.length + 2 := by
    rw [toNat_rawPacketSize, hwire, Nat.mod_eq_of_lt hsize]
  -- the payload stands at the end of the packet
  have hpointer : (rtxResult (decoded order raw memory) sequenceNum payloadType ssrc).payload =
      (packetBytes (rtxPacket (decoded order raw memory) sequenceNum payloadType ssrc)).drop
        (payloadOffset (packetBytes (rtxPacket (decoded order raw memory) sequenceNum payloadType
          ssrc))) := by
    change List.drop (_ - (trimmed (rtxPacket (decoded order raw memory) sequenceNum payloadType
      ssrc)).payloadLength.toNat) _ = _
    congr 1
    omega
  constructor
  · change _ = (packetBytes _).length
    rw [hraw, hlength, hwire]
  · exact hpointer
  · apply UInt32.toNat_inj.mp
    rw [toNat_payloadLength_decoded (by rwa [hlength, hwire]) (by omega), ← hoff,
      Nat.add_sub_cancel_left]
    rfl
  · rw [hpointer, hpayload]
    exact hexact

/-- **The retransmission of bytes without CSRCs** that hold the header they declare. -/
theorem Plain.retransmits (h : Plain raw) (memory : RtpPacket) (htype : payloadType < 128) :
    Retransmits order memory raw sequenceNum payloadType ssrc := by
  have hexpressible :
      Expressible (trimmed (rtxPacket (decoded order raw memory) sequenceNum payloadType
        ssrc)) := h.expressible memory htype
  refine ⟨_, _, _, h.decode memory, construct_eq h memory htype, ?_⟩
  intro memory'
  refine ⟨_, ?_, retransmission_decoded h memory memory' htype,
    describes_rtxResult h memory memory' htype⟩
  have hdecode := @setRtpPacketFromBytes_packetBytes order _ hexpressible
    (h.wireSize_lt memory) memory'
  rw [packetBytes_trimmed] at hdecode
  exact hdecode

/-! ### What is stored in the clear -/

/-- The bytes that `writeFrame` stores before it encrypts them: those of a packet of a frame, with
the extension if it has been negotiated.  They and the authentication tag fit into what has been
allocated. -/
def StoredInClear (raw : List UInt8) : Prop :=
  ∃ (t : KvsRtpTransceiver) (payloads : List (List UInt8)) (type : UInt8) (first : UInt16)
    (timestamp ssrc : UInt32) (i : Nat) (p : RtpPacket),
    FramePacket payloads type first timestamp ssrc i p ∧
      setBytesFromRtpPacket (t.addTwccExtension p).2
        (List.replicate (rawPacketSize (t.addTwccExtension p).2).toNat 0) = .ok raw ∧
      raw.length + srtpAuthTagOverhead < 2 ^ 32

/-- What is encoded has no CSRCs, and an extension of one word if it has any. -/
structure Encoded (p : RtpPacket) : Prop where
  version : p.header.version = 2
  padding : p.header.padding = false
  csrcCount : p.header.csrcCount = 0
  extensionLength : p.header.extension = true → p.header.extensionLength = 4

theorem encoded_addTwccExtension {payloads : List (List UInt8)} {type : UInt8} {first : UInt16}
    {timestamp ssrc : UInt32} {i : Nat} (h : FramePacket payloads type first timestamp ssrc i p)
    (t : KvsRtpTransceiver) : Encoded (t.addTwccExtension p).2 := by
  rw [KvsRtpTransceiver.addTwccExtension]
  split_ifs with hnegotiated
  · exact ⟨h.version, h.padding, h.csrcCount, fun _ => rfl⟩
  · refine ⟨h.version, h.padding, h.csrcCount, ?_⟩
    intro hext
    simp [h.extension] at hext

theorem Encoded.firstByte_eq (h : Encoded p) :
    versionOf (firstByte p.header) = 2 ∧ csrcCountOf (firstByte p.header) = 0 ∧
      extensionOf (firstByte p.header) = p.header.extension := by
  rw [firstByte, h.version, h.padding, h.csrcCount]
  cases p.header.extension <;> exact ⟨rfl, rfl, rfl⟩

theorem Encoded.extensionWords_eq (h : Encoded p) (hext : p.header.extension = true) :
    extensionWords (packetBytes p) = 1 := by
  have hend : csrcEnd (packetBytes p) = 12 := by
    rw [csrcEnd, csrcsIn, packetBytes_getD_zero, h.firstByte_eq.2.1]
    rfl
  have hcsrcs : csrcBytes p.header = [] := by
    rw [csrcBytes, h.csrcCount]
    rfl
  have hmiddle := @bytesAt_middle (headBytes p.header ++ beBytes 2 p.header.extensionProfile.toNat)
    (beBytes 2 1) 14 2 (by rw [List.length_append, length_headBytes, length_beBytes]) rfl
  have hbytes : packetBytes p = headBytes p.header ++ beBytes 2 p.header.extensionProfile.toNat ++
      (beBytes 2 1 ++ (p.header.extensionPayload.take 4 ++
      p.payload.take p.payloadLength.toNat)) := by
    rw [packetBytes, hcsrcs, extensionBytes, if_pos hext, h.extensionLength hext]
    simp only [List.append_assoc, List.append_nil]
    rfl
  rw [extensionWords, hend, hbytes, hmiddle]
  rfl

theorem StoredInClear.plain (h : StoredInClear raw) : Plain raw := by
  obtain ⟨t, payloads, type, first, timestamp, ssrc, i, p, hp, hraw, hsize⟩ := h
  have hencoded := encoded_addTwccExtension hp t
  generalize (t.addTwccExtension p).2 = p at hencoded hraw
  obtain ⟨-, hread, hfit, hout⟩ := setBytesFromRtpPacket_eq_ok_iff.mp hraw
  have hlength := length_packetBytes hread
  rw [List.length_replicate, toNat_rawPacketSize, hlength] at hfit
  obtain rfl : raw = packetBytes p := by
    rw [hout, List.drop_eq_nil_of_le, List.append_nil]
    rw [List.length_replicate, toNat_rawPacketSize, hlength]
    exact Nat.mod_le _ _
  obtain ⟨-, hcount, hext⟩ := hencoded.firstByte_eq
  have hcsrcs : csrcsIn (packetBytes p) = 0 := by
    rw [csrcsIn, packetBytes_getD_zero, hcount]
    rfl
  have hend : csrcEnd (packetBytes p) = 12 := by
    rw [csrcEnd, hcsrcs]
    rfl
  have hwire : 12 ≤ wireSize p := by
    rw [wireSize, Nat.add_assoc, Nat.add_assoc]
    exact Nat.le_add_right 12 _
  refine ⟨hcsrcs, by omega, ?_, by rw [srtpAuthTagOverhead] at hsize; omega⟩
  intro hx
  have hx' : p.header.extension = true := by
    rw [← hext]
    exact hx
  have hwords := hencoded.extensionWords_eq hx'
  rw [wireSize, hencoded.csrcCount, if_pos hx', hencoded.extensionLength hx'] at hlength
  change _ = 12 + 4 * 0 + (4 + 4) + _ at hlength
  constructor
  · omega
  · omega

/-- **The retransmission of what `writeFrame` has stored** is constructed, decodes to the original
packet with its sequence number in front of the payload, and is described by the pointer and the
lengths. -/
theorem retransmits_stored (h : StoredInClear raw) (htype : payloadType < 128) (order : ByteOrder)
    (memory : RtpPacket) (sequenceNum : UInt16) (ssrc : UInt32) :
    Retransmits order memory raw sequenceNum payloadType ssrc :=
  h.plain.retransmits memory htype

def storedPacket : List UInt8 :=
  [0x90, 0xE0, 0, 8, 0, 0, 0, 9, 0, 0, 0, 1, 0xBE, 0xDE, 0, 1, 0x11, 0, 0, 0, 3]

theorem retransmits_storedPacket :
    StoredInClear storedPacket ∧ Retransmits .littleEndian default storedPacket 65535 97 2 := by
  have hstored : StoredInClear storedPacket :=
    ⟨KvsRtpTransceiver.newTransceiver, [[3]], 96, 8, 9, 1, 0, firstPacket [3] [] 96 8 9 1 default,
      framePacket_firstPacket (by decide) default, by decide +kernel, by decide⟩
  exact ⟨hstored, retransmits_stored hstored (by decide) .littleEndian default 65535 2⟩

end KvsWebrtc.Rtp
