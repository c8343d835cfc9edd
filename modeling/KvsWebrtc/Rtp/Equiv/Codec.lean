import KvsWebrtc.Rtp.Codec
import Mathlib.Tactic.SplitIfs

/-!
# The RTP codec and back

`packetBytes` are the bytes that a packet stands for.  The encoder writes them whenever it can read
what the packet refers to and the buffer holds them (`setBytesFromRtpPacket_eq_ok_iff`).  `decoded`
is the packet that the decoder finds in bytes (`setRtpPacketFromBytes_eq`).

Three things are lost on the way (`rtp_round_trips_iff`): the decoder leaves the CSRCs as the host
reads them whereas the encoder swaps their bytes, it keeps the length of the extension in 16 bits,
and it does not check that the extension ends in the packet.
-/

namespace KvsWebrtc.Rtp

variable {order : ByteOrder} {p : RtpPacket} {header : RtpPacketHeader} {size : Nat}
  {written out buffer raw : List UInt8}

/-! ### What the encoder writes -/

def headBytes (header : RtpPacketHeader) : List UInt8 :=
  firstByte header :: secondByte header :: beBytes 2 header.sequenceNumber.toNat ++
    beBytes 4 header.timestamp.toNat ++ beBytes 4 header.ssrc.toNat

def csrcBytes (header : RtpPacketHeader) : List UInt8 :=
  (header.csrcArray.take header.csrcCount.toNat).flatMap fun csrc => beBytes 4 csrc.toNat

def extensionBytes (header : RtpPacketHeader) : List UInt8 :=
  if header.extension then
    beBytes 2 header.extensionProfile.toNat ++ beBytes 2 (header.extensionLength.toNat / 4) ++
      header.extensionPayload.take header.extensionLength.toNat
  else []

def packetBytes (p : RtpPacket) : List UInt8 :=
  headBytes p.header ++ csrcBytes p.header ++ extensionBytes p.header ++
    p.payload.take p.payloadLength.toNat

/-- The encoder finds everything that the packet refers to. -/
structure Readable (p : RtpPacket) : Prop where
  csrcs : p.header.csrcCount.toNat ≤ p.header.csrcArray.length
  words : p.header.extension = true → p.header.extensionLength.toNat % 4 = 0
  extension : p.header.extension = true →
    p.header.extensionLength.toNat ≤ p.header.extensionPayload.length
  payload : p.payloadLength.toNat ≤ p.payload.length

theorem length_headBytes (header : RtpPacketHeader) : (headBytes header).length = 12 := by
  simp [headBytes]

theorem put_eq_ok_iff {bytes : List UInt8} :
    put size written bytes = .ok out ↔ written.length + bytes.length ≤ size ∧
      out = written ++ bytes := by
  rw [put]
  split_ifs with h
  · simp [h, eq_comm]
  · simp [h]

theorem readBytes_eq_ok_iff {bytes : List UInt8} {length : Nat} :
    readBytes bytes length = .ok out ↔ length ≤ bytes.length ∧ out = bytes.take length := by
  rw [readBytes]
  split_ifs with h
  · simp [h, eq_comm]
  · simp [h]

theorem length_flatMap_beBytes (csrcs : List UInt32) :
    (csrcs.flatMap fun csrc => beBytes 4 csrc.toNat).length = 4 * csrcs.length := by
  induction csrcs with
  | nil => rfl
  | cons csrc csrcs ih =>
    rw [List.flatMap_cons, List.length_append, ih, length_beBytes, List.length_cons]
    omega

theorem length_csrcBytes (h : header.csrcCount.toNat ≤ header.csrcArray.length) :
    (csrcBytes header).length = 4 * header.csrcCount.toNat := by
  rw [csrcBytes, length_flatMap_beBytes, List.length_take, Nat.min_eq_left h]

theorem putCsrcs_eq_ok_iff {csrcArray : List UInt32} {n : Nat} (hwritten : written.length ≤ size) :
    putCsrcs size csrcArray n written = .ok out ↔
      n ≤ csrcArray.length ∧ written.length + 4 * n ≤ size ∧
        out = written ++ (csrcArray.take n).flatMap fun csrc => beBytes 4 csrc.toNat := by
  induction n generalizing out with
  | zero =>
    simp only [putCsrcs, List.range_zero, List.foldlM_nil, List.take_zero, List.flatMap_nil,
      List.append_nil, Nat.mul_zero, Nat.add_zero, Nat.zero_le, true_and, hwritten]
    exact ⟨fun h => (Except.ok.inj h).symm, fun h => congrArg Except.ok h.symm⟩
  | succ n ih =>
    rw [putCsrcs, List.range_succ, List.foldlM_append, bind_eq_ok_iff]
    simp only [List.foldlM_cons, List.foldlM_nil, bind_pure]
    constructor
    · rintro ⟨mid, hmid, hlast⟩
      obtain ⟨hn, hsize, rfl⟩ := ih.mp hmid
      cases hget : csrcArray[n]? with
      | none => simp [hget] at hlast
      | some csrc =>
        simp only [hget] at hlast
        obtain ⟨hput, rfl⟩ := put_eq_ok_iff.mp hlast
        have hlt := (List.getElem?_eq_some_iff.mp hget).1
        refine ⟨hlt, ?_, ?_⟩
        · rw [List.length_append, length_flatMap_beBytes, List.length_take, length_beBytes] at hput
          omega
        · rw [List.take_add_one, hget, List.flatMap_append, List.append_assoc]
          simp
    · rintro ⟨hn, hsize, rfl⟩
      refine ⟨_, ih.mpr ⟨by omega, by omega, rfl⟩, ?_⟩
      have hget : csrcArray[n]? = some csrcArray[n] := List.getElem?_eq_getElem hn
      simp only [hget]
      apply put_eq_ok_iff.mpr
      constructor
      · rw [List.length_append, length_flatMap_beBytes, List.length_take, length_beBytes]
        omega
      · rw [List.take_add_one, hget, List.flatMap_append, List.append_assoc]
        simp

theorem putExtension_eq_ok_iff (hwritten : written.length ≤ size) :
    putExtension size header written = .ok out ↔
      (header.extension = true → header.extensionLength.toNat % 4 = 0) ∧
        (header.extension = true →
          header.extensionLength.toNat ≤ header.extensionPayload.length) ∧
        written.length + (extensionBytes header).length ≤ size ∧
        out = written ++ extensionBytes header := by
  rw [putExtension, extensionBytes]
  cases hext : header.extension with
  | false =>
    simp only [Bool.false_eq_true, ↓reduceIte, false_implies, true_and, List.length_nil,
      Nat.add_zero, hwritten, List.append_nil]
    exact ⟨fun h => (Except.ok.inj h).symm, fun h => congrArg Except.ok h.symm⟩
  | true =>
    simp only [↓reduceIte, true_implies]
    split_ifs with hwords
    · simp only [bind_eq_ok_iff, put_eq_ok_iff, readBytes_eq_ok_iff, hwords, true_and]
      constructor
      · rintro ⟨w₁, ⟨h₁, rfl⟩, w₂, ⟨h₂, rfl⟩, bytes, ⟨hread, rfl⟩, h₃, rfl⟩
        refine ⟨hread, ?_, by simp only [List.append_assoc]⟩
        simp only [List.length_append] at h₃ ⊢
        omega
      · rintro ⟨hread, hsize, rfl⟩
        simp only [List.length_append] at hsize
        refine ⟨_, ⟨?_, rfl⟩, _, ⟨?_, rfl⟩, _, ⟨hread, rfl⟩, ?_, by simp only [List.append_assoc]⟩
        · omega
        · simp only [List.length_append]
          omega
        · simp only [List.length_append]
          omega
    · simp [hwords]

/-- **What the encoder does**: it writes the bytes of the packet, if it can read and write them
all. -/
theorem setBytesFromRtpPacket_eq_ok_iff :
    setBytesFromRtpPacket p buffer = .ok out ↔
      (rawPacketSize p).toNat ≤ buffer.length ∧ Readable p ∧
        (packetBytes p).length ≤ buffer.length ∧
        out = packetBytes p ++ buffer.drop (packetBytes p).length := by
  rw [setBytesFromRtpPacket]
  by_cases hsize : buffer.length < (rawPacketSize p).toNat
  · simp only [hsize, ↓reduceIte]
    constructor
    · intro h
      cases h
    · rintro ⟨hle, -⟩
      omega
  simp only [hsize, ↓reduceIte]
  have hle : (rawPacketSize p).toNat ≤ buffer.length := Nat.le_of_not_lt hsize
  constructor
  · intro h
    obtain ⟨w₁, h₁, h⟩ := bind_eq_ok_iff.mp h
    obtain ⟨hput, rfl⟩ := put_eq_ok_iff.mp h₁
    obtain ⟨w₂, h₂, h⟩ := bind_eq_ok_iff.mp h
    rw [List.nil_append] at h₂
    obtain ⟨hcsrcs, hsize₂, rfl⟩ := (putCsrcs_eq_ok_iff (by simpa using hput)).mp h₂
    obtain ⟨w₃, h₃, h⟩ := bind_eq_ok_iff.mp h
    change putExtension buffer.length p.header (headBytes p.header ++ csrcBytes p.header) = _ at h₃
    have hlen₂ : (headBytes p.header ++ csrcBytes p.header).length ≤ buffer.length := by
      rw [List.length_append, length_csrcBytes hcsrcs]
      exact hsize₂
    obtain ⟨hwords, hext, hsize₃, rfl⟩ := (putExtension_eq_ok_iff hlen₂).mp h₃
    obtain ⟨bytes, h₄, h⟩ := bind_eq_ok_iff.mp h
    obtain ⟨hpayload, rfl⟩ := readBytes_eq_ok_iff.mp h₄
    obtain ⟨w₅, h₅, h⟩ := bind_eq_ok_iff.mp h
    obtain ⟨hsize₅, rfl⟩ := put_eq_ok_iff.mp h₅
    refine ⟨hle, ⟨hcsrcs, hwords, hext, hpayload⟩, ?_, (Except.ok.inj h).symm⟩
    rw [packetBytes, List.length_append]
    exact hsize₅
  · rintro ⟨-, hread, hsize', rfl⟩
    rw [packetBytes, List.length_append, List.length_append, List.length_append] at hsize'
    have hlen := length_csrcBytes hread.csrcs
    have hhead := length_headBytes p.header
    refine bind_eq_ok_iff.mpr ⟨headBytes p.header, put_eq_ok_iff.mpr ⟨?_, rfl⟩, ?_⟩
    · change 0 + (headBytes p.header).length ≤ _
      omega
    refine bind_eq_ok_iff.mpr ⟨headBytes p.header ++ csrcBytes p.header,
      (putCsrcs_eq_ok_iff (by omega)).mpr ⟨hread.csrcs, by omega, rfl⟩, ?_⟩
    have hlen₂ : (headBytes p.header ++ csrcBytes p.header).length ≤ buffer.length := by
      rw [List.length_append]
      omega
    refine bind_eq_ok_iff.mpr ⟨_, (putExtension_eq_ok_iff hlen₂).mpr
      ⟨hread.words, hread.extension, ?_, rfl⟩, ?_⟩
    · rw [List.length_append]
      omega
    refine bind_eq_ok_iff.mpr ⟨_, readBytes_eq_ok_iff.mpr ⟨hread.payload, rfl⟩, ?_⟩
    refine bind_eq_ok_iff.mpr ⟨packetBytes p, put_eq_ok_iff.mpr ⟨?_, rfl⟩, rfl⟩
    rw [List.length_append, List.length_append]
    omega

/-! ### What the decoder reads -/

def csrcsIn (raw : List UInt8) : Nat := (csrcCountOf (raw.getD 0 0)).toNat

def csrcEnd (raw : List UInt8) : Nat := minHeaderLength + csrcsIn raw * csrcLength

def extensionIn (raw : List UInt8) : Bool := extensionOf (raw.getD 0 0)

def extensionWords (raw : List UInt8) : Nat := beNat (bytesAt raw (csrcEnd raw + 2) 2)

def payloadOffset (raw : List UInt8) : Nat :=
  if extensionIn raw then csrcEnd raw + 4 + extensionWords raw * 4 % 2 ^ 16 else csrcEnd raw

def headerIn (order : ByteOrder) (raw : List UInt8) : RtpPacketHeader where
  version := versionOf (raw.getD 0 0)
  padding := paddingOf (raw.getD 0 0)
  extension := extensionIn raw
  csrcCount := csrcCountOf (raw.getD 0 0)
  marker := markerOf (raw.getD 1 0)
  payloadType := payloadTypeOf (raw.getD 1 0)
  sequenceNumber := UInt16.ofNat (beNat (bytesAt raw 2 2))
  timestamp := UInt32.ofNat (beNat (bytesAt raw 4 4))
  ssrc := UInt32.ofNat (beNat (bytesAt raw 8 4))
  csrcArray := csrcArrayAt order raw (csrcsIn raw)
  extensionProfile :=
    if extensionIn raw then UInt16.ofNat (beNat (bytesAt raw (csrcEnd raw) 2)) else 0
  extensionPayload := if extensionIn raw then raw.drop (csrcEnd raw + 4) else []
  extensionLength := if extensionIn raw then (UInt16.ofNat (extensionWords raw * 4)).toUInt32 else 0

def decoded (order : ByteOrder) (raw : List UInt8) (p : RtpPacket) : RtpPacket :=
  { p with
    header := headerIn order raw
    payload := raw.drop (payloadOffset raw)
    payloadLength := UInt32.ofNat raw.length - UInt32.ofNat (payloadOffset raw) }

/-- **What the decoder does**: it rejects a packet that is too short for its CSRCs, and reads behind
one that is too short for the header of its extension. -/
theorem setRtpPacketFromBytes_eq (hlen : raw.length < 2 ^ 32) :
    setRtpPacketFromBytes order raw p =
      if raw.length < csrcEnd raw then .error (.status .rtpInputPacketTooSmall)
      else if extensionIn raw = true ∧ raw.length < csrcEnd raw + 4 then .error .outOfBounds
      else .ok (decoded order raw p) := by
  have hlength : (UInt32.ofNat raw.length).toNat = raw.length := by
    rw [UInt32.toNat_ofNat', Nat.mod_eq_of_lt hlen]
  rw [setRtpPacketFromBytes]
  simp only [hlength]
  by_cases hmin : raw.length < minHeaderLength
  · have hend : raw.length < csrcEnd raw := by
      rw [csrcEnd]
      omega
    rw [if_pos hmin, if_pos hend]
    rfl
  rw [if_neg hmin]
  change (if raw.length < csrcEnd raw then _ else _) = _
  by_cases hend : raw.length < csrcEnd raw
  · rw [if_pos hend, if_pos hend]
    rfl
  rw [if_neg hend, if_neg hend]
  cases hext : extensionIn raw with
  | false =>
    change (if extensionIn raw then _ else _) = _
    rw [hext]
    simp only [Bool.false_eq_true, ↓reduceIte, false_and, setRtpPacket, true_or, decoded, headerIn,
      hext, payloadOffset]
    rfl
  | true =>
    change (if extensionIn raw then _ else _) = _
    rw [hext]
    have hcsrcs : minHeaderLength + (csrcCountOf (raw.getD 0 0)).toNat * csrcLength = csrcEnd raw :=
      rfl
    simp only [↓reduceIte, true_and, hcsrcs]
    by_cases hshort : raw.length < csrcEnd raw + 4
    · -- one of the two reads fails
      rw [if_pos hshort, fieldAt]
      by_cases hprofile : csrcEnd raw + 2 ≤ raw.length
      · rw [if_pos hprofile, fieldAt, if_neg (by omega)]
        rfl
      · rw [if_neg hprofile]
        rfl
    · rw [if_neg hshort, fieldAt, if_pos (by omega), fieldAt, if_pos (by omega)]
      simp only [setRtpPacket, decoded, headerIn, hext, payloadOffset, ↓reduceIte]
      rfl

/-! ### The bits of the first two bytes -/

theorem forall_byte {P : UInt8 → Prop} (h : ∀ n : Fin 256, P (UInt8.ofFin n)) (b : UInt8) : P b :=
  h b.toFin

theorem firstByte_headerIn (order : ByteOrder) (raw : List UInt8) :
    firstByte (headerIn order raw) = raw.getD 0 0 := by
  apply forall_byte (P := fun b => (versionOf b <<< 6 ||| csrcCountOf b) |||
    (if paddingOf b then (1 : UInt8) <<< 5 else 0) |||
      (if extensionOf b then (1 : UInt8) <<< 4 else 0) = b)
  decide +kernel

theorem secondByte_headerIn (order : ByteOrder) (raw : List UInt8) :
    secondByte (headerIn order raw) = raw.getD 1 0 := by
  apply forall_byte (P := fun b => payloadTypeOf b |||
    (if markerOf b then (1 : UInt8) <<< 7 else 0) = b)
  decide +kernel

/-! ### The bytes of a decoded packet -/

theorem beBytes_word16 {bytes : List UInt8} (h : bytes.length = 2) :
    beBytes 2 (UInt16.ofNat (beNat bytes)).toNat = bytes := by
  have hlt := beNat_lt bytes
  rw [h] at hlt
  rw [UInt16.toNat_ofNat', Nat.mod_eq_of_lt (by omega)]
  conv_lhs => rw [← h]
  exact beBytes_beNat bytes

theorem beBytes_word32 {bytes : List UInt8} (h : bytes.length = 4) :
    beBytes 4 (UInt32.ofNat (beNat bytes)).toNat = bytes := by
  have hlt := beNat_lt bytes
  rw [h] at hlt
  rw [UInt32.toNat_ofNat', Nat.mod_eq_of_lt (by omega)]
  conv_lhs => rw [← h]
  exact beBytes_beNat bytes

def ByteOrder.arrange : ByteOrder → List UInt8 → List UInt8
  | .littleEndian, bytes => bytes.reverse
  | .bigEndian, bytes => bytes

theorem beBytes_word {bytes : List UInt8} (h : bytes.length = 4) :
    beBytes 4 (order.word bytes).toNat = order.arrange bytes := by
  cases order with
  | littleEndian => exact beBytes_word32 (by rw [List.length_reverse, h])
  | bigEndian => exact beBytes_word32 h

theorem headBytes_headerIn (hlen : 12 ≤ raw.length) :
    headBytes (headerIn order raw) = raw.take 12 := by
  have hfirst : raw.take 2 = [raw.getD 0 0, raw.getD 1 0] := by
    match raw, hlen with
    | _ :: _ :: _, _ => rfl
  have hseq := @beBytes_word16 (bytesAt raw 2 2) (length_bytesAt (by omega))
  have hts := @beBytes_word32 (bytesAt raw 4 4) (length_bytesAt (by omega))
  have hssrc := @beBytes_word32 (bytesAt raw 8 4) (length_bytesAt (by omega))
  rw [headBytes, firstByte_headerIn, secondByte_headerIn]
  change [raw.getD 0 0, raw.getD 1 0] ++ beBytes 2 (UInt16.ofNat (beNat (bytesAt raw 2 2))).toNat ++
    beBytes 4 (UInt32.ofNat (beNat (bytesAt raw 4 4))).toNat ++
    beBytes 4 (UInt32.ofNat (beNat (bytesAt raw 8 4))).toNat = _
  rw [hseq, hts, hssrc, ← hfirst, take_append_bytesAt, take_append_bytesAt, take_append_bytesAt]

theorem length_csrcArrayAt (n : Nat) : (csrcArrayAt order raw n).length = n := by
  rw [csrcArrayAt, List.length_map, List.length_range]

/-- The CSRCs as the decoder finds them and the encoder writes them. -/
theorem csrcBytes_headerIn (hlen : csrcEnd raw ≤ raw.length) :
    csrcBytes (headerIn order raw) =
      (List.range (csrcsIn raw)).flatMap fun i => order.arrange (bytesAt raw (12 + i * 4) 4) := by
  change ((csrcArrayAt order raw (csrcsIn raw)).take (csrcsIn raw)).flatMap _ = _
  rw [List.take_of_length_le (Nat.le_of_eq (length_csrcArrayAt _)), csrcArrayAt, List.flatMap_map]
  rw [List.flatMap_def, List.flatMap_def]
  congr 1
  apply List.map_congr_left
  intro i hi
  have hlt : i < csrcsIn raw := List.mem_range.mp hi
  have hbound : csrcEnd raw = 12 + csrcsIn raw * 4 := rfl
  have hle : 12 + i * 4 + 4 ≤ raw.length := by omega
  exact beBytes_word (length_bytesAt hle)

theorem take_csrcs (n : Nat) :
    raw.take 12 ++ ((List.range n).flatMap fun i => bytesAt raw (12 + i * 4) 4) =
      raw.take (12 + n * 4) := by
  induction n with
  | zero => simp
  | succ n ih =>
    rw [List.range_succ, List.flatMap_append, ← List.append_assoc, ih]
    simp only [List.flatMap_cons, List.flatMap_nil, List.append_nil]
    rw [take_append_bytesAt, Nat.succ_mul, Nat.add_assoc]

theorem flatMap_inj_iff {α β : Type} {f g : α → List β} (l : List α)
    (hlen : ∀ a ∈ l, (f a).length = (g a).length) :
    l.flatMap f = l.flatMap g ↔ ∀ a ∈ l, f a = g a := by
  induction l with
  | nil => simp
  | cons a l ih =>
    have ih' := ih fun b hb => hlen b (List.mem_cons_of_mem a hb)
    rw [List.flatMap_cons, List.flatMap_cons, List.forall_mem_cons, ← ih']
    constructor
    · intro h
      exact List.append_inj h (hlen a List.mem_cons_self)
    · rintro ⟨ha, hl⟩
      rw [ha, hl]

theorem ByteOrder.length_arrange (order : ByteOrder) (bytes : List UInt8) :
    (order.arrange bytes).length = bytes.length := by
  cases order with
  | littleEndian => exact List.length_reverse
  | bigEndian => rfl

/-- The host reads the bytes as they are meant, or in both orders alike. -/
def ByteOrder.Agrees (order : ByteOrder) (bytes : List UInt8) : Prop :=
  order = .bigEndian ∨ bytes.reverse = bytes

theorem ByteOrder.agrees_iff_arrange (bytes : List UInt8) :
    order.Agrees bytes ↔ order.arrange bytes = bytes := by
  cases order with
  | littleEndian => simp [Agrees, arrange]
  | bigEndian => simp [Agrees, arrange]

theorem headBytes_csrcBytes_iff (hlen : csrcEnd raw ≤ raw.length) :
    headBytes (headerIn order raw) ++ csrcBytes (headerIn order raw) = raw.take (csrcEnd raw) ↔
      ∀ i < csrcsIn raw, order.Agrees (bytesAt raw (12 + i * 4) 4) := by
  have hbound : csrcEnd raw = 12 + csrcsIn raw * 4 := rfl
  rw [headBytes_headerIn (by omega), csrcBytes_headerIn hlen, hbound, ← take_csrcs,
    List.append_cancel_left_eq, flatMap_inj_iff _ fun i _ => order.length_arrange _]
  simp only [List.mem_range, ByteOrder.agrees_iff_arrange]

/-- The extension comes back if the number of its bytes fits into 16 bits. -/
theorem extensionBytes_iff (hext : extensionIn raw = true) (hlen : csrcEnd raw + 4 ≤ raw.length) :
    extensionBytes (headerIn order raw) = bytesAt raw (csrcEnd raw)
    (payloadOffset raw - csrcEnd raw) ↔
      extensionWords raw < 2 ^ 14 := by
  have hlength : (headerIn order raw).extensionLength.toNat = extensionWords raw * 4 % 2 ^ 16 := by
    simp only [headerIn, hext, ↓reduceIte]
    rfl
  have hoff : payloadOffset raw - csrcEnd raw = 2 + 2 + extensionWords raw * 4 % 2 ^ 16 := by
    rw [payloadOffset, if_pos hext]
    omega
  have hprofile := @beBytes_word16 (bytesAt raw (csrcEnd raw) 2) (length_bytesAt (by omega))
  have hwordsLen : (bytesAt raw (csrcEnd raw + 2) 2).length = 2 := length_bytesAt (by omega)
  have hwords : beBytes 2 (extensionWords raw) = bytesAt raw (csrcEnd raw + 2) 2 := by
    conv_lhs => rw [← hwordsLen]
    exact beBytes_beNat _
  have hsplit : bytesAt raw (csrcEnd raw) (2 + 2 + extensionWords raw * 4 % 2 ^ 16) =
      bytesAt raw (csrcEnd raw) 2 ++ bytesAt raw (csrcEnd raw + 2) 2 ++
        (raw.drop (csrcEnd raw + 4)).take (extensionWords raw * 4 % 2 ^ 16) := by
    simp only [bytesAt, List.take_add, List.drop_drop]
  have hheader : extensionBytes (headerIn order raw) =
      bytesAt raw (csrcEnd raw) 2 ++ beBytes 2 (extensionWords raw * 4 % 2 ^ 16 / 4) ++
        (raw.drop (csrcEnd raw + 4)).take (extensionWords raw * 4 % 2 ^ 16) := by
    rw [extensionBytes, hlength]
    simp only [headerIn, hext, ↓reduceIte]
    rw [hprofile]
  rw [hheader, hoff, hsplit, List.append_cancel_right_eq, List.append_cancel_left_eq, ← hwords]
  have hlt : extensionWords raw < 2 ^ 16 := by
    have hbe := beNat_lt (bytesAt raw (csrcEnd raw + 2) 2)
    rwa [hwordsLen] at hbe
  constructor
  · intro h
    have hnat := congrArg beNat h
    rw [beNat_beBytes_of_lt (by omega), beNat_beBytes_of_lt (by omega)] at hnat
    omega
  · intro h
    congr 1
    omega

/-! ### Bytes to packet to bytes -/

theorem toNat_extensionLength_headerIn (hext : extensionIn raw = true) :
    (headerIn order raw).extensionLength.toNat = extensionWords raw * 4 % 2 ^ 16 := by
  simp only [headerIn, hext, ↓reduceIte]
  rfl

theorem csrcEnd_le_payloadOffset (raw : List UInt8) : csrcEnd raw ≤ payloadOffset raw := by
  rw [payloadOffset]
  split_ifs <;> omega

theorem toNat_payloadLength_decoded (hlen : raw.length < 2 ^ 32)
    (hoff : payloadOffset raw ≤ raw.length) :
    (decoded order raw p).payloadLength.toNat = raw.length - payloadOffset raw := by
  have hle : UInt32.ofNat (payloadOffset raw) ≤ UInt32.ofNat raw.length := by
    rw [UInt32.le_iff_toNat_le, UInt32.toNat_ofNat', UInt32.toNat_ofNat', Nat.mod_eq_of_lt hlen,
      Nat.mod_eq_of_lt (Nat.lt_of_le_of_lt hoff hlen)]
    exact hoff
  change (UInt32.ofNat raw.length - UInt32.ofNat (payloadOffset raw)).toNat = _
  rw [UInt32.toNat_sub_of_le _ _ hle, UInt32.toNat_ofNat', UInt32.toNat_ofNat',
    Nat.mod_eq_of_lt hlen, Nat.mod_eq_of_lt (Nat.lt_of_le_of_lt hoff hlen)]

/-- The size that the encoder computes for a decoded packet is the length of the bytes, also where
the length of the payload has wrapped. -/
theorem rawPacketSize_decoded : rawPacketSize (decoded order raw p) = UInt32.ofNat raw.length := by
  have hoff : UInt32.ofNat (payloadOffset raw) =
      12 + (csrcCountOf (raw.getD 0 0)).toUInt32 * 4 +
        (if extensionIn raw then 4 + (headerIn order raw).extensionLength else 0) := by
    apply UInt32.toNat_inj.mp
    have hcsrcs : (csrcCountOf (raw.getD 0 0)).toNat = csrcsIn raw := rfl
    have hcount : csrcsIn raw < 256 := UInt8.toNat_lt _
    have hend : csrcEnd raw = 12 + csrcsIn raw * 4 := rfl
    cases hx : extensionIn raw with
    | false =>
      simp only [payloadOffset, hx, Bool.false_eq_true, ↓reduceIte, UInt32.toNat_ofNat',
        UInt32.toNat_add, UInt32.toNat_mul, UInt8.toNat_toUInt32, UInt32.reduceToNat, hcsrcs]
      omega
    | true =>
      have hlength := @toNat_extensionLength_headerIn order raw hx
      simp only [payloadOffset, hx, ↓reduceIte, UInt32.toNat_ofNat', UInt32.toNat_add,
        UInt32.toNat_mul, UInt8.toNat_toUInt32, UInt32.reduceToNat, hcsrcs, hlength]
      omega
  change 12 + (csrcCountOf (raw.getD 0 0)).toUInt32 * 4 +
    (if extensionIn raw then 4 + (headerIn order raw).extensionLength else 0) +
      (UInt32.ofNat raw.length - UInt32.ofNat (payloadOffset raw)) = _
  rw [← hoff, UInt32.add_comm, UInt32.sub_add_cancel]

/-- The encoder can read a decoded packet if the extension ends in it. -/
theorem readable_decoded_iff (hlen : raw.length < 2 ^ 32) (hend : csrcEnd raw ≤ raw.length)
    (hext : extensionIn raw = true → csrcEnd raw + 4 ≤ raw.length) :
    Readable (decoded order raw p) ↔ payloadOffset raw ≤ raw.length := by
  constructor
  · intro h
    cases hx : extensionIn raw with
    | false =>
      rw [payloadOffset, hx]
      exact hend
    | true =>
      have hle := h.extension hx
      change (headerIn order raw).extensionLength.toNat ≤
          (headerIn order raw).extensionPayload.length
        at hle
      rw [toNat_extensionLength_headerIn hx] at hle
      simp only [headerIn, hx, ↓reduceIte, List.length_drop] at hle
      have := hext hx
      rw [payloadOffset, if_pos hx]
      omega
  · intro hoff
    refine ⟨?_, ?_, ?_, ?_⟩
    · exact Nat.le_of_eq (length_csrcArrayAt _).symm
    · intro hx
      change (headerIn order raw).extensionLength.toNat % 4 = 0
      rw [toNat_extensionLength_headerIn hx]
      omega
    · intro hx
      replace hx : extensionIn raw = true := hx
      change (headerIn order raw).extensionLength.toNat ≤
          (headerIn order raw).extensionPayload.length
      rw [toNat_extensionLength_headerIn hx]
      simp only [headerIn, hx, ↓reduceIte, List.length_drop]
      rw [payloadOffset, if_pos hx] at hoff
      omega
    · rw [toNat_payloadLength_decoded hlen hoff]
      exact Nat.le_of_eq List.length_drop.symm

theorem length_extensionBytes_decoded (h : Readable (decoded order raw p)) :
    (extensionBytes (headerIn order raw)).length = payloadOffset raw - csrcEnd raw := by
  cases hx : extensionIn raw with
  | false =>
    have hext : (headerIn order raw).extension = false := hx
    rw [extensionBytes, if_neg (by rw [hext]; decide), payloadOffset, if_neg (by rw [hx]; decide)]
    exact (Nat.sub_self _).symm
  | true =>
    have hle : (headerIn order raw).extensionLength.toNat ≤
        (headerIn order raw).extensionPayload.length :=
      h.extension hx
    have hext : (headerIn order raw).extension = true := hx
    rw [extensionBytes, if_pos hext, List.length_append, List.length_append, length_beBytes,
      length_beBytes, List.length_take, Nat.min_eq_left hle, toNat_extensionLength_headerIn hx,
      payloadOffset, if_pos hx]
    omega

/-- The bytes of a decoded packet that can be read, against those it was decoded from. -/
theorem packetBytes_decoded_iff (hlen : raw.length < 2 ^ 32) (hoff : payloadOffset raw ≤ raw.length)
    (hread : Readable (decoded order raw p)) :
    (packetBytes (decoded order raw p)).length = raw.length ∧
      (packetBytes (decoded order raw p) = raw ↔
        (∀ i < csrcsIn raw, order.Agrees (bytesAt raw (12 + i * 4) 4)) ∧
          (extensionIn raw = true → extensionWords raw < 2 ^ 14)) := by
  have hend : csrcEnd raw ≤ raw.length := (csrcEnd_le_payloadOffset raw).trans hoff
  have hcsrcs : csrcEnd raw = 12 + csrcsIn raw * 4 := rfl
  set pre := headBytes (headerIn order raw) ++ csrcBytes (headerIn order raw) with hpre
  set ext := extensionBytes (headerIn order raw) with hextB
  have hpreLen : pre.length = csrcEnd raw := by
    have hcount : (csrcBytes (headerIn order raw)).length = 4 * csrcsIn raw :=
      length_csrcBytes hread.csrcs
    rw [hpre, List.length_append, length_headBytes, hcount]
    omega
  have hextLen : ext.length = payloadOffset raw - csrcEnd raw := length_extensionBytes_decoded hread
  have hbytes : packetBytes (decoded order raw p) = pre ++ ext ++ raw.drop (payloadOffset raw) := by
    rw [packetBytes, toNat_payloadLength_decoded hlen hoff]
    change pre ++ ext ++ (raw.drop (payloadOffset raw)).take _ = _
    rw [List.take_of_length_le (Nat.le_of_eq List.length_drop)]
  -- both are cut at the CSRCs and at the payload
  have hraw : raw.take (csrcEnd raw) ++ bytesAt raw (csrcEnd raw)
      (payloadOffset raw - csrcEnd raw) ++
      raw.drop (payloadOffset raw) = raw := by
    rw [take_append_bytesAt, Nat.add_sub_cancel' (csrcEnd_le_payloadOffset raw),
      List.take_append_drop]
  have hoffle := csrcEnd_le_payloadOffset raw
  constructor
  · rw [hbytes, List.length_append, List.length_append, hpreLen, hextLen, List.length_drop]
    omega
  have hsplit : packetBytes (decoded order raw p) = raw ↔ pre = raw.take (csrcEnd raw) ∧
      ext = bytesAt raw (csrcEnd raw) (payloadOffset raw - csrcEnd raw) := by
    rw [hbytes]
    conv_lhs => rhs; rw [← hraw]
    rw [List.append_cancel_right_eq]
    constructor
    · intro h
      refine List.append_inj h ?_
      rw [hpreLen, List.length_take, Nat.min_eq_left hend]
    · rintro ⟨h₁, h₂⟩
      rw [h₁, h₂]
  rw [hsplit, headBytes_csrcBytes_iff hend]
  apply and_congr_right
  intro _
  cases hx : extensionIn raw with
  | false =>
    have hnil : ext = [] := by
      apply List.eq_nil_of_length_eq_zero
      rw [hextLen, payloadOffset, if_neg (by rw [hx]; decide), Nat.sub_self]
    have hzero : payloadOffset raw - csrcEnd raw = 0 := by
      rw [payloadOffset, if_neg (by rw [hx]; decide), Nat.sub_self]
    rw [hnil, hzero]
    simp [bytesAt]
  | true =>
    have hle : csrcEnd raw + 4 ≤ raw.length := by
      rw [payloadOffset, if_pos hx] at hoff
      omega
    rw [extensionBytes_iff hx hle]
    simp

/-- Decoding and encoding again reproduces the bytes, unless they are rejected. -/
def Reencodes (order : ByteOrder) (raw : List UInt8) : Prop :=
  ∀ (p : RtpPacket) (buffer : List UInt8), buffer.length = raw.length →
    match setRtpPacketFromBytes order raw p with
    | .error (.status _) => True
    | .error .outOfBounds => False
    | .ok q => setBytesFromRtpPacket q buffer = .ok raw

/-- The host reads the CSRCs of the bytes as they are meant, and the extension ends in the packet
and has less than `2 ^ 16` bytes. -/
structure Fits (order : ByteOrder) (raw : List UInt8) : Prop where
  csrcs : ∀ i < csrcsIn raw, order.Agrees (bytesAt raw (12 + i * 4) 4)
  extension : extensionIn raw = true → csrcEnd raw + 4 + extensionWords raw * 4 ≤ raw.length
  words : extensionIn raw = true → extensionWords raw < 2 ^ 14

theorem reencodes_iff (hlen : raw.length < 2 ^ 32) :
    Reencodes order raw ↔ raw.length < csrcEnd raw ∨ Fits order raw := by
  by_cases hend : raw.length < csrcEnd raw
  · refine iff_of_true ?_ (.inl hend)
    intro p buffer _
    rw [setRtpPacketFromBytes_eq hlen, if_pos hend]
    trivial
  simp only [hend, false_or]
  -- the decoder accepts a packet that ends in the extension header
  by_cases hshort : extensionIn raw = true ∧ raw.length < csrcEnd raw + 4
  · refine iff_of_false ?_ ?_
    · intro h
      have hdec := h default raw rfl
      rwa [setRtpPacketFromBytes_eq hlen, if_neg hend, if_pos hshort] at hdec
    · intro h
      have hext := h.extension hshort.1
      omega
  have hle : csrcEnd raw ≤ raw.length := Nat.le_of_not_lt hend
  have hlong : extensionIn raw = true → csrcEnd raw + 4 ≤ raw.length := by
    intro hx
    apply Nat.le_of_not_lt
    intro hlt
    exact hshort ⟨hx, hlt⟩
  have hdec : ∀ q, setRtpPacketFromBytes order raw q = .ok (decoded order raw q) := by
    intro q
    rw [setRtpPacketFromBytes_eq hlen, if_neg hend, if_neg hshort]
  have hsize : (UInt32.ofNat raw.length).toNat = raw.length := by
    rw [UInt32.toNat_ofNat', Nat.mod_eq_of_lt hlen]
  constructor
  · intro h
    have henc := h default raw rfl
    simp only [hdec] at henc
    obtain ⟨-, hread, -, hout⟩ := setBytesFromRtpPacket_eq_ok_iff.mp henc
    have hoff := (readable_decoded_iff hlen hle hlong).mp hread
    obtain ⟨hlength, hiff⟩ := packetBytes_decoded_iff hlen hoff hread
    rw [hlength, List.drop_length, List.append_nil] at hout
    obtain ⟨hcsrcs, hwords⟩ := hiff.mp hout.symm
    refine ⟨hcsrcs, fun hx => ?_, hwords⟩
    have hlt := hwords hx
    rw [payloadOffset, if_pos hx] at hoff
    omega
  · intro h p buffer hbuffer
    simp only [hdec]
    have hoff : payloadOffset raw ≤ raw.length := by
      rw [payloadOffset]
      split_ifs with hx
      · have hext := h.extension hx
        omega
      · exact hle
    have hread : Readable (decoded order raw p) := (readable_decoded_iff hlen hle hlong).mpr hoff
    obtain ⟨hlength, hiff⟩ := packetBytes_decoded_iff hlen hoff hread
    refine setBytesFromRtpPacket_eq_ok_iff.mpr ⟨?_, hread, ?_, ?_⟩
    · rw [rawPacketSize_decoded, hsize, hbuffer]
    · rw [hlength, hbuffer]
    · rw [hlength, ← hbuffer, List.drop_length, List.append_nil]
      exact (hiff.mpr ⟨h.csrcs, h.words⟩).symm

/-! ### Packet to bytes to packet -/

/-- The packets that the format can express.  Without an extension, its fields are those that
`setRtpPacket` gives it. -/
structure Expressible (p : RtpPacket) : Prop where
  version : p.header.version < 4
  csrcCount : p.header.csrcCount < 16
  csrcArray : p.header.csrcArray.length = p.header.csrcCount.toNat
  payloadType : p.header.payloadType < 128
  words : p.header.extensionLength.toNat % 4 = 0
  extensionLength : p.header.extensionLength.toNat < 2 ^ 18
  extensionPayload : p.header.extensionPayload.length = p.header.extensionLength.toNat
  noExtension : p.header.extension = false →
    p.header.extensionProfile = 0 ∧ p.header.extensionLength = 0
  payload : p.payload.length = p.payloadLength.toNat

/-- The header fields, the CSRCs, the extension and the payload, without what the pointers reach
beyond them. -/
def contents (p : RtpPacket) : RtpPacketHeader × List UInt8 × UInt32 :=
  ({ p.header with
      csrcArray := p.header.csrcArray.take p.header.csrcCount.toNat
      extensionPayload := p.header.extensionPayload.take p.header.extensionLength.toNat },
    p.payload.take p.payloadLength.toNat, p.payloadLength)

theorem Expressible.readable (h : Expressible p) : Readable p :=
  ⟨Nat.le_of_eq h.csrcArray.symm, fun _ => h.words, fun _ => Nat.le_of_eq h.extensionPayload.symm,
    Nat.le_of_eq h.payload.symm⟩

theorem firstByte_fields (h : Expressible p) :
    versionOf (firstByte p.header) = p.header.version ∧
      paddingOf (firstByte p.header) = p.header.padding ∧
      extensionOf (firstByte p.header) = p.header.extension ∧
      csrcCountOf (firstByte p.header) = p.header.csrcCount := by
  have hall : ∀ (v : Fin 4) (c : Fin 16) (pad ext : Bool),
      let b : UInt8 := (UInt8.ofNat v <<< 6 ||| UInt8.ofNat c) |||
        (if pad then (1 : UInt8) <<< 5 else 0) ||| (if ext then (1 : UInt8) <<< 4 else 0)
      versionOf b = UInt8.ofNat v ∧ paddingOf b = pad ∧ extensionOf b = ext ∧
        csrcCountOf b = UInt8.ofNat c := by
    decide +kernel
  have hspec := hall ⟨p.header.version.toNat, h.version⟩ ⟨p.header.csrcCount.toNat, h.csrcCount⟩
    p.header.padding p.header.extension
  simp only [UInt8.ofNat_toNat] at hspec
  exact hspec

theorem secondByte_fields (h : Expressible p) :
    payloadTypeOf (secondByte p.header) = p.header.payloadType ∧
      markerOf (secondByte p.header) = p.header.marker := by
  have hall : ∀ (t : Fin 128) (m : Bool),
      let b : UInt8 := UInt8.ofNat t ||| (if m then (1 : UInt8) <<< 7 else 0)
      payloadTypeOf b = UInt8.ofNat t ∧ markerOf b = m := by
    decide +kernel
  have hspec := hall ⟨p.header.payloadType.toNat, h.payloadType⟩ p.header.marker
  simp only [UInt8.ofNat_toNat] at hspec
  exact hspec

section

variable (p)

theorem packetBytes_getD_zero : (packetBytes p).getD 0 0 = firstByte p.header := rfl

theorem bytesAt_sequenceNumber :
    bytesAt (packetBytes p) 2 2 = beBytes 2 p.header.sequenceNumber.toNat := by
  simp only [packetBytes, headBytes, List.append_assoc]
  exact @bytesAt_middle [firstByte p.header, secondByte p.header] _ _ _ rfl (length_beBytes _ _) _

theorem bytesAt_timestamp : bytesAt (packetBytes p) 4 4 = beBytes 4 p.header.timestamp.toNat := by
  have hmiddle := @bytesAt_middle (firstByte p.header :: secondByte p.header ::
    beBytes 2 p.header.sequenceNumber.toNat) (beBytes 4 p.header.timestamp.toNat) 4 4 rfl rfl
  simp only [packetBytes, headBytes, List.append_assoc]
  exact hmiddle _

theorem bytesAt_ssrc : bytesAt (packetBytes p) 8 4 = beBytes 4 p.header.ssrc.toNat := by
  have hmiddle := @bytesAt_middle (firstByte p.header :: secondByte p.header ::
    beBytes 2 p.header.sequenceNumber.toNat ++ beBytes 4 p.header.timestamp.toNat)
      (beBytes 4 p.header.ssrc.toNat) 8 4 rfl rfl
  simp only [List.append_assoc] at hmiddle
  simp only [packetBytes, headBytes, List.append_assoc]
  exact hmiddle _

end

theorem bytesAt_flatMap {csrcs : List UInt32} {i : Nat} {csrc : UInt32} (hi : csrcs[i]? = some csrc)
    (pre post : List UInt8) :
    bytesAt (pre ++ ((csrcs.flatMap fun csrc => beBytes 4 csrc.toNat) ++ post))
    (pre.length + i * 4) 4 =
      beBytes 4 csrc.toNat := by
  induction csrcs generalizing pre i with
  | nil => cases hi
  | cons c csrcs ih =>
    rw [List.flatMap_cons, List.append_assoc]
    cases i with
    | zero =>
      obtain rfl : c = csrc := Option.some.inj hi
      exact bytesAt_middle (by rw [Nat.zero_mul, Nat.add_zero]) (length_beBytes 4 _) _
    | succ i =>
      have htail := ih hi (pre ++ beBytes 4 c.toNat)
      rw [List.append_assoc, List.length_append, length_beBytes] at htail
      rw [← htail]
      congr 1
      omega

theorem csrcArrayAt_packetBytes (h : Expressible p) :
    csrcArrayAt order (packetBytes p) p.header.csrcCount.toNat =
      p.header.csrcArray.map fun csrc => order.word (beBytes 4 csrc.toNat) := by
  apply List.ext_getElem?
  intro i
  rw [csrcArrayAt, List.getElem?_map, List.getElem?_map]
  by_cases hi : i < p.header.csrcCount.toNat
  · obtain ⟨csrc, hcsrc⟩ : ∃ csrc, p.header.csrcArray[i]? = some csrc :=
      ⟨_, List.getElem?_eq_getElem (by rw [h.csrcArray]; exact hi)⟩
    have hbytes := bytesAt_flatMap hcsrc (headBytes p.header)
      (extensionBytes p.header ++ p.payload.take p.payloadLength.toNat)
    rw [hcsrc, List.getElem?_range hi]
    simp only [Option.map_some]
    rw [length_headBytes] at hbytes
    rw [packetBytes, csrcBytes, List.take_of_length_le (Nat.le_of_eq h.csrcArray),
      List.append_assoc, List.append_assoc]
    exact congrArg (fun b => some (order.word b)) hbytes
  · rw [List.getElem?_eq_none (by rw [List.length_range]; omega),
      List.getElem?_eq_none (by rw [h.csrcArray]; omega)]
    rfl

theorem csrcsIn_packetBytes (h : Expressible p) :
    csrcsIn (packetBytes p) = p.header.csrcCount.toNat := by
  rw [csrcsIn, packetBytes_getD_zero, (firstByte_fields h).2.2.2]

theorem extensionIn_packetBytes (h : Expressible p) :
    extensionIn (packetBytes p) = p.header.extension := by
  rw [extensionIn, packetBytes_getD_zero, (firstByte_fields h).2.2.1]

theorem csrcEnd_packetBytes (h : Expressible p) :
    csrcEnd (packetBytes p) = (headBytes p.header ++ csrcBytes p.header).length := by
  rw [csrcEnd, csrcsIn_packetBytes h, List.length_append, length_headBytes,
    length_csrcBytes h.readable.csrcs, Nat.mul_comm]
  rfl

theorem extension_packetBytes (h : Expressible p) (hext : p.header.extension = true) :
    bytesAt (packetBytes p) (csrcEnd (packetBytes p)) 2 = beBytes 2
      p.header.extensionProfile.toNat ∧
      extensionWords (packetBytes p) = p.header.extensionLength.toNat / 4 ∧
      (packetBytes p).drop (csrcEnd (packetBytes p) + 4) = p.header.extensionPayload ++
        p.payload := by
  have hbytes : packetBytes p = (headBytes p.header ++ csrcBytes p.header) ++
      (beBytes 2 p.header.extensionProfile.toNat ++
        (beBytes 2 (p.header.extensionLength.toNat / 4) ++
          (p.header.extensionPayload ++ p.payload))) := by
    rw [packetBytes, extensionBytes, if_pos hext,
      List.take_of_length_le (Nat.le_of_eq h.extensionPayload),
      List.take_of_length_le (Nat.le_of_eq h.payload)]
    simp only [List.append_assoc]
  have hlt := h.extensionLength
  rw [extensionWords, csrcEnd_packetBytes h, hbytes]
  refine ⟨bytesAt_middle rfl (length_beBytes _ _) _, ?_, ?_⟩
  · rw [bytesAt_append]
    have hwords := @bytesAt_middle (beBytes 2 p.header.extensionProfile.toNat)
      (beBytes 2 (p.header.extensionLength.toNat / 4)) 2 2 rfl rfl
      (p.header.extensionPayload ++ p.payload)
    rw [hwords, beNat_beBytes_of_lt (by omega)]
  · rw [List.drop_length_add_append]
    rfl

theorem extensionLength_packetBytes (h : Expressible p) :
    (headerIn order (packetBytes p)).extensionLength.toNat = p.header.extensionLength.toNat %
      2 ^ 16 := by
  have hwords := h.words
  cases hext : p.header.extension with
  | false =>
    have hin : extensionIn (packetBytes p) = false := (extensionIn_packetBytes h).trans hext
    rw [(h.noExtension hext).2]
    simp only [headerIn, hin, Bool.false_eq_true, ↓reduceIte]
    rfl
  | true =>
    have hin : extensionIn (packetBytes p) = true := (extensionIn_packetBytes h).trans hext
    rw [toNat_extensionLength_headerIn hin, (extension_packetBytes h hext).2.1]
    omega

def wireSize (p : RtpPacket) : Nat :=
  12 + 4 * p.header.csrcCount.toNat +
    (if p.header.extension then 4 + p.header.extensionLength.toNat else 0) + p.payloadLength.toNat

theorem length_packetBytes (h : Readable p) : (packetBytes p).length = wireSize p := by
  rw [packetBytes, List.length_append, List.length_append, List.length_append, length_headBytes,
    length_csrcBytes h.csrcs, List.length_take, Nat.min_eq_left h.payload, wireSize, extensionBytes]
  split_ifs with hext
  · rw [List.length_append, List.length_append, length_beBytes, length_beBytes, List.length_take,
      Nat.min_eq_left (h.extension hext)]
  · rfl

theorem toNat_rawPacketSize (p : RtpPacket) : (rawPacketSize p).toNat = wireSize p % 2 ^ 32 := by
  rw [rawPacketSize, wireSize]
  split_ifs
  · simp only [UInt32.toNat_add, UInt32.toNat_mul, UInt8.toNat_toUInt32, UInt32.reduceToNat]
    omega
  · simp only [UInt32.toNat_add, UInt32.toNat_mul, UInt8.toNat_toUInt32, UInt32.reduceToNat]
    omega

theorem ByteOrder.word_eq_iff (csrc : UInt32) :
    order.word (beBytes 4 csrc.toNat) = csrc ↔ order.Agrees (beBytes 4 csrc.toNat) := by
  rw [ByteOrder.agrees_iff_arrange, ← beBytes_word (length_beBytes 4 csrc.toNat)]
  constructor
  · intro h
    rw [h]
  · intro h
    have hnat := congrArg beNat h
    rw [beNat_beBytes_of_lt (UInt32.toNat_lt _), beNat_beBytes_of_lt (UInt32.toNat_lt _)] at hnat
    exact UInt32.toNat_inj.mp hnat

theorem map_word_eq_iff (csrcs : List UInt32) :
    (csrcs.map fun csrc => order.word (beBytes 4 csrc.toNat)) = csrcs ↔
      ∀ csrc ∈ csrcs, order.Agrees (beBytes 4 csrc.toNat) := by
  conv_lhs => rhs; rw [← List.map_id csrcs]
  rw [List.map_inj_left]
  simp only [id, ByteOrder.word_eq_iff]

/-- Encoding and decoding again gives the same contents. -/
def DecodesBack (order : ByteOrder) (p : RtpPacket) : Prop :=
  ∀ (buffer : List UInt8) (q : RtpPacket), buffer.length = (rawPacketSize p).toNat →
    ∃ out, setBytesFromRtpPacket p buffer = .ok out ∧
      ∃ r, setRtpPacketFromBytes order out q = .ok r ∧ contents r = contents p

/-- The host reads the CSRCs of a packet as they are written, the extension has less than `2 ^ 16`
bytes, and the size of the packet is a 32-bit number. -/
structure Kept (order : ByteOrder) (p : RtpPacket) : Prop where
  csrcs : ∀ csrc ∈ p.header.csrcArray, order.Agrees (beBytes 4 csrc.toNat)
  extension : p.header.extensionLength.toNat < 2 ^ 16
  size : wireSize p < 2 ^ 32

theorem setRtpPacketFromBytes_packetBytes (h : Expressible p) (hsize : wireSize p < 2 ^ 32)
    (q : RtpPacket) :
    setRtpPacketFromBytes order (packetBytes p) q = .ok (decoded order (packetBytes p) q) := by
  have hlength := length_packetBytes h.readable
  have hend : csrcEnd (packetBytes p) = 12 + 4 * p.header.csrcCount.toNat := by
    rw [csrcEnd_packetBytes h, List.length_append, length_headBytes,
      length_csrcBytes h.readable.csrcs]
  rw [wireSize] at hlength hsize
  rw [setRtpPacketFromBytes_eq (by rw [hlength]; exact hsize), if_neg (by omega), if_neg]
  rintro ⟨hx, hlt⟩
  rw [extensionIn_packetBytes h] at hx
  rw [if_pos hx] at hlength
  omega

/-- Where the decoder finds the payload of a packet, if its extension is short enough. -/
theorem payload_packetBytes (h : Expressible p) (hshort : p.header.extensionLength.toNat < 2 ^ 16) :
    (packetBytes p).drop (payloadOffset (packetBytes p)) = p.payload ∧
      payloadOffset (packetBytes p) + p.payloadLength.toNat = (packetBytes p).length := by
  have hin := extensionIn_packetBytes h
  have hend : csrcEnd (packetBytes p) = 12 + 4 * p.header.csrcCount.toNat := by
    rw [csrcEnd_packetBytes h, List.length_append, length_headBytes,
      length_csrcBytes h.readable.csrcs]
  rw [length_packetBytes h.readable, wireSize]
  cases hext : p.header.extension with
  | false =>
    rw [payloadOffset, hin, hext]
    simp only [Bool.false_eq_true, ↓reduceIte, Nat.add_zero]
    constructor
    · rw [csrcEnd_packetBytes h]
      conv_lhs => rw [packetBytes, extensionBytes, hext]
      simp only [Bool.false_eq_true, ↓reduceIte, List.append_nil]
      rw [List.drop_left, List.take_of_length_le (Nat.le_of_eq h.payload)]
    · omega
  | true =>
    obtain ⟨-, hwords, hdrop⟩ := extension_packetBytes h hext
    have hmod : p.header.extensionLength.toNat / 4 * 4 % 2 ^ 16 =
        p.header.extensionLength.toNat := by
      have := h.words
      omega
    rw [payloadOffset, hin, hext]
    simp only [↓reduceIte]
    rw [hwords, hmod]
    constructor
    · rw [← List.drop_drop, hdrop, ← h.extensionPayload, List.drop_left]
    · omega

/-- The contents of a packet that has gone to bytes and back, if its extension is short enough. -/
theorem contents_decoded (h : Expressible p) (hsize : wireSize p < 2 ^ 32)
    (hshort : p.header.extensionLength.toNat < 2 ^ 16) (q : RtpPacket) :
    contents (decoded order (packetBytes p) q) =
      ({ p.header with
          csrcArray := p.header.csrcArray.map fun csrc => order.word (beBytes 4 csrc.toNat) },
        p.payload, p.payloadLength) := by
  have hin := extensionIn_packetBytes h
  obtain ⟨hversion, hpadding, -, hcount⟩ := firstByte_fields h
  obtain ⟨htype, hmarker⟩ := secondByte_fields h
  obtain ⟨hpayload, hoff⟩ := payload_packetBytes h hshort
  have hlen : (packetBytes p).length < 2 ^ 32 := by
    rw [length_packetBytes h.readable]
    exact hsize
  -- the fields, one after the other
  have hlength : (headerIn order (packetBytes p)).extensionLength = p.header.extensionLength := by
    apply UInt32.toNat_inj.mp
    rw [extensionLength_packetBytes h, Nat.mod_eq_of_lt hshort]
  have hpayloadLength : (decoded order (packetBytes p) q).payloadLength = p.payloadLength := by
    apply UInt32.toNat_inj.mp
    rw [toNat_payloadLength_decoded hlen (by omega)]
    omega
  have hprofile : (headerIn order (packetBytes p)).extensionProfile =
      p.header.extensionProfile := by
    simp only [headerIn, hin]
    split_ifs with hext
    · rw [(extension_packetBytes h hext).1, beNat_beBytes_of_lt (UInt16.toNat_lt _),
        UInt16.ofNat_toNat]
    · exact (h.noExtension (by simpa using hext)).1.symm
  have hextension : (headerIn order (packetBytes p)).extensionPayload.take
      p.header.extensionLength.toNat = p.header.extensionPayload := by
    simp only [headerIn, hin]
    split_ifs with hext
    · rw [(extension_packetBytes h hext).2.2, ← h.extensionPayload, List.take_left]
    · have hzero : p.header.extensionPayload.length = 0 := by
        rw [h.extensionPayload, (h.noExtension (by simpa using hext)).2]
        rfl
      rw [List.take_nil, List.eq_nil_of_length_eq_zero hzero]
  have hcsrcs : (csrcArrayAt order (packetBytes p) (csrcsIn (packetBytes p))).take
      p.header.csrcCount.toNat =
        p.header.csrcArray.map fun csrc => order.word (beBytes 4 csrc.toNat) := by
    rw [csrcsIn_packetBytes h, List.take_of_length_le (Nat.le_of_eq (length_csrcArrayAt _)),
      csrcArrayAt_packetBytes h]
  have hseq : (headerIn order (packetBytes p)).sequenceNumber = p.header.sequenceNumber := by
    change UInt16.ofNat (beNat (bytesAt (packetBytes p) 2 2)) = _
    rw [bytesAt_sequenceNumber, beNat_beBytes_of_lt (UInt16.toNat_lt _), UInt16.ofNat_toNat]
  have hts : (headerIn order (packetBytes p)).timestamp = p.header.timestamp := by
    change UInt32.ofNat (beNat (bytesAt (packetBytes p) 4 4)) = _
    rw [bytesAt_timestamp, beNat_beBytes_of_lt (UInt32.toNat_lt _), UInt32.ofNat_toNat]
  have hssrc : (headerIn order (packetBytes p)).ssrc = p.header.ssrc := by
    change UInt32.ofNat (beNat (bytesAt (packetBytes p) 8 4)) = _
    rw [bytesAt_ssrc, beNat_beBytes_of_lt (UInt32.toNat_lt _), UInt32.ofNat_toNat]
  rw [contents, hpayloadLength]
  refine congrArg₂ Prod.mk ?_ (congrArg₂ Prod.mk ?_ rfl)
  · rw [RtpPacketHeader.mk.injEq]
    refine ⟨hversion, hpadding, hin, hmarker, hcount, htype, hseq, hts, hssrc, ?_, hprofile, ?_,
      hlength⟩
    · change List.take (csrcCountOf ((packetBytes p).getD 0 0)).toNat _ = _
      rw [packetBytes_getD_zero, hcount]
      exact hcsrcs
    · change List.take (headerIn order (packetBytes p)).extensionLength.toNat _ = _
      rw [hlength]
      exact hextension
  · change List.take _ ((packetBytes p).drop (payloadOffset (packetBytes p))) = _
    rw [hpayload, List.take_of_length_le (Nat.le_of_eq h.payload)]

theorem decodesBack_iff (h : Expressible p) : DecodesBack order p ↔ Kept order p := by
  have hcontents : contents p = (p.header, p.payload, p.payloadLength) := by
    rw [contents, List.take_of_length_le (Nat.le_of_eq h.csrcArray),
      List.take_of_length_le (Nat.le_of_eq h.extensionPayload),
      List.take_of_length_le (Nat.le_of_eq h.payload)]
  have hlength := length_packetBytes h.readable
  constructor
  · intro hback
    -- a buffer of the size that is computed shows all three conditions
    obtain ⟨out, hout, r, hr, hsame⟩ :=
      hback (List.replicate (rawPacketSize p).toNat 0) p List.length_replicate
    obtain ⟨-, -, hfit, rfl⟩ := setBytesFromRtpPacket_eq_ok_iff.mp hout
    have hsize : wireSize p < 2 ^ 32 := by
      rw [hlength, List.length_replicate, toNat_rawPacketSize] at hfit
      exact Nat.lt_of_le_of_lt hfit (Nat.mod_lt _ (by decide))
    have hnil : (List.replicate (rawPacketSize p).toNat (0 : UInt8)).drop (packetBytes p).length =
        [] := by
      apply List.drop_eq_nil_of_le
      rw [List.length_replicate, toNat_rawPacketSize, hlength]
      exact Nat.mod_le _ _
    rw [hnil, List.append_nil, setRtpPacketFromBytes_packetBytes h hsize] at hr
    obtain rfl := Except.ok.inj hr
    rw [hcontents] at hsame
    have hshort : p.header.extensionLength.toNat < 2 ^ 16 := by
      have hext := congrArg (fun c => c.1.extensionLength.toNat) hsame
      have hin := @extensionLength_packetBytes order p h
      change (headerIn order (packetBytes p)).extensionLength.toNat =
          p.header.extensionLength.toNat at hext
      omega
    rw [contents_decoded h hsize hshort] at hsame
    refine ⟨?_, hshort, hsize⟩
    rw [← map_word_eq_iff]
    exact congrArg (fun c => c.1.csrcArray) hsame
  · intro hkept buffer q hbuffer
    -- the buffer is filled to its end
    have hbuffer' : buffer.length = (packetBytes p).length := by
      rw [hbuffer, toNat_rawPacketSize, Nat.mod_eq_of_lt hkept.size, hlength]
    have hnil : buffer.drop (packetBytes p).length = [] :=
      List.drop_eq_nil_of_le (Nat.le_of_eq hbuffer')
    refine ⟨packetBytes p, setBytesFromRtpPacket_eq_ok_iff.mpr ⟨Nat.le_of_eq hbuffer.symm,
      h.readable, Nat.le_of_eq hbuffer'.symm, by
      rw [hnil, List.append_nil]⟩, decoded order (packetBytes p) q,
        setRtpPacketFromBytes_packetBytes h hkept.size q, ?_⟩
    rw [contents_decoded h hkept.size hkept.extension, hcontents,
      map_word_eq_iff _ |>.mpr hkept.csrcs]

/-- **The codec and back**: the bytes that the decoder accepts come back exactly if the host reads
the CSRCs as they are meant, and the extension ends in the packet and has less than `2 ^ 16` bytes;
a packet that the format can express comes back exactly if the same holds of it and its size fits
into 32 bits. -/
theorem rtp_round_trips_iff (order : ByteOrder) :
    (∀ raw : List UInt8, raw.length < 2 ^ 32 →
      (Reencodes order raw ↔ raw.length < csrcEnd raw ∨ Fits order raw)) ∧
    ∀ p : RtpPacket, Expressible p → (DecodesBack order p ↔ Kept order p) :=
  ⟨fun _ hlen => reencodes_iff hlen, fun _ h => decodesBack_iff h⟩

def csrcPacket : List UInt8 := [0x81, 96, 0, 1, 0, 0, 0, 0, 0, 0, 0, 1, 1, 2, 3, 4]

def extendedPacket : RtpPacket where
  addr := 0
  header := {
    version := 2, padding := false, extension := true, marker := true, csrcCount := 0
    payloadType := 96, sequenceNumber := 7, timestamp := 9, ssrc := 1, csrcArray := []
    extensionProfile := 0xBEDE, extensionPayload := [0x10, 0, 1, 0], extensionLength := 4 }
  payload := [1, 2, 3]
  payloadLength := 3
  rawPacket := []

theorem rtp_round_trips_sample :
    Reencodes .bigEndian csrcPacket ∧ DecodesBack .littleEndian extendedPacket := by
  constructor
  · refine ((rtp_round_trips_iff .bigEndian).1 csrcPacket (by decide)).mpr (.inr ⟨?_, ?_, ?_⟩)
    · intro i _
      exact .inl rfl
    · decide
    · decide
  · refine ((rtp_round_trips_iff .littleEndian).2 extendedPacket ?_).mpr ⟨?_, ?_, ?_⟩
    · constructor <;> decide
    · intro csrc hcsrc
      cases hcsrc
    · decide
    · decide

/-- On a little-endian host, the bytes of a CSRC come back in the reverse order. -/
theorem csrc_comes_back_reversed : ¬ Reencodes .littleEndian csrcPacket := by
  intro h
  have hback := h default csrcPacket rfl
  rw [setRtpPacketFromBytes_eq (by decide), if_neg (by decide), if_neg (by decide)] at hback
  obtain ⟨-, -, -, hout⟩ := setBytesFromRtpPacket_eq_ok_iff.mp hback
  revert hout
  decide +kernel

end KvsWebrtc.Rtp
