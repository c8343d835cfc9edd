import KvsWebrtc.Rtp.Equiv.Codec

/-!
# Where the decoder of RTP packets stays inside the packet

A packet declares its own length: the CSRCs end at `csrcEnd`, and the header of the extension counts
the words behind it (`declaredLength`).  The decoder compares the packet with the first of the two
only.  It reads the header of the extension behind a packet that ends with the CSRCs, it takes the
payload from behind the packet where the extension does not end in it, and it keeps the length of
the extension in 16 bits. `staysInside_iff` says that a packet avoids all three exactly if it is
rejected, has no extension, or ends after an extension of fewer than `2 ^ 16` bytes.
-/

namespace KvsWebrtc.Rtp

variable {order : ByteOrder} {p q : RtpPacket} {raw : List UInt8}

def declaredLength (raw : List UInt8) : Nat :=
  if extensionIn raw then csrcEnd raw + 4 + 4 * extensionWords raw else csrcEnd raw

/-- What is decoded lies in the packet: the header, which the payload follows up to the end. -/
structure Inside (raw : List UInt8) (q : RtpPacket) : Prop where
  /-- The header and the extension that it declares end in the packet. -/
  header : declaredLength raw ≤ raw.length
  /-- The length of the payload is the difference, which has not wrapped. -/
  payloadLength : q.payloadLength.toNat = raw.length - declaredLength raw
  payload : q.payload = raw.drop (declaredLength raw)
  /-- The extension is the one that is declared, and ends before the payload. -/
  extension : q.header.extension = true → q.header.extensionPayload = raw.drop (csrcEnd raw + 4) ∧
    csrcEnd raw + 4 + q.header.extensionLength.toNat = declaredLength raw

/-- The decoder reads nothing behind the packet, and what it accepts lies in the packet. -/
def StaysInside (order : ByteOrder) (raw : List UInt8) (p : RtpPacket) : Prop :=
  setRtpPacketFromBytes order raw p ≠ .error .outOfBounds ∧
    ∀ q, setRtpPacketFromBytes order raw p = .ok q → Inside raw q

/-- The packet holds the extension that it declares, and 16 bits hold its length. -/
def HoldsExtension (raw : List UInt8) : Prop :=
  4 * extensionWords raw < 2 ^ 16 ∧ csrcEnd raw + 4 + 4 * extensionWords raw ≤ raw.length

theorem declaredLength_of_no_extension (hext : extensionIn raw = false) :
    declaredLength raw = csrcEnd raw := by
  simp [declaredLength, hext]

theorem declaredLength_of_extension (hext : extensionIn raw = true) :
    declaredLength raw = csrcEnd raw + 4 + 4 * extensionWords raw := by
  simp [declaredLength, hext]

/-- The payload is taken from where the header ends, unless the length of the extension wraps. -/
theorem payloadOffset_eq_declaredLength_iff :
    payloadOffset raw = declaredLength raw ↔
      (extensionIn raw = true → 4 * extensionWords raw < 2 ^ 16) := by
  cases hext : extensionIn raw with
  | false => simp [payloadOffset, declaredLength, hext]
  | true =>
    simp only [payloadOffset, declaredLength, hext, ↓reduceIte, true_implies]
    omega

/-- What is decoded lies in the packet if the packet holds its extension. -/
theorem inside_decoded (hlen : raw.length < 2 ^ 32) (hend : csrcEnd raw ≤ raw.length)
    (hext : extensionIn raw = true → HoldsExtension raw) : Inside raw (decoded order raw p) := by
  have hoff : payloadOffset raw = declaredLength raw :=
    payloadOffset_eq_declaredLength_iff.mpr fun hx => (hext hx).1
  have hfits : declaredLength raw ≤ raw.length := by
    cases hx : extensionIn raw with
    | false => rwa [declaredLength_of_no_extension hx]
    | true =>
      rw [declaredLength_of_extension hx]
      exact (hext hx).2
  refine ⟨hfits, ?_, ?_, ?_⟩
  · rw [toNat_payloadLength_decoded hlen (hoff ▸ hfits), hoff]
  · rw [← hoff]
    rfl
  · intro hx
    have hx' : extensionIn raw = true := hx
    have hlength : (headerIn order raw).extensionLength.toNat = 4 * extensionWords raw := by
      rw [toNat_extensionLength_headerIn hx']
      have := (hext hx').1
      omega
    constructor
    · change (headerIn order raw).extensionPayload = _
      simp [headerIn, hx']
    · change csrcEnd raw + 4 + (headerIn order raw).extensionLength.toNat = _
      rw [hlength, declaredLength_of_extension hx']

/-- A packet whose extension is decoded inside it holds the extension. -/
theorem holdsExtension_of_inside (hext : extensionIn raw = true)
    (h : Inside raw (decoded order raw p)) : HoldsExtension raw := by
  have hfits := h.header
  have hlength := (h.extension hext).2
  change csrcEnd raw + 4 + (headerIn order raw).extensionLength.toNat = _ at hlength
  rw [toNat_extensionLength_headerIn hext, declaredLength_of_extension hext] at hlength
  rw [declaredLength_of_extension hext] at hfits
  exact ⟨by omega, hfits⟩

/-- **The decoder stays inside the packet** exactly if it rejects the packet for its CSRCs, or the
packet has no extension, or holds the one that it declares. -/
theorem staysInside_iff (hlen : raw.length < 2 ^ 32) :
    StaysInside order raw p ↔
      raw.length < csrcEnd raw ∨ extensionIn raw = false ∨ HoldsExtension raw := by
  rw [StaysInside, setRtpPacketFromBytes_eq hlen]
  by_cases hend : raw.length < csrcEnd raw
  · simp [hend]
  have hend' : csrcEnd raw ≤ raw.length := Nat.le_of_not_lt hend
  cases hext : extensionIn raw with
  | false =>
    have hinside : Inside raw (decoded order raw p) :=
      inside_decoded hlen hend' fun hx => absurd (hext.symm.trans hx) Bool.false_ne_true
    simp [hend, hinside]
  | true =>
    by_cases hheader : raw.length < csrcEnd raw + 4
    · -- the header of the extension is read behind the packet
      have hnot : ¬ HoldsExtension raw := fun h => by
        have := h.2
        omega
      simp [hend, hheader, hnot]
    · have hinside : Inside raw (decoded order raw p) ↔ HoldsExtension raw :=
        ⟨holdsExtension_of_inside hext, fun h => inside_decoded hlen hend' fun _ => h⟩
      simp [hend, hheader, hinside]

/-- A packet of sixteen bytes: the extension bit, and one word of extension that is not there. -/
def truncatedExtension : List UInt8 := [0x90, 96, 0, 1, 0, 0, 0, 0, 0, 0, 0, 1, 0xBE, 0xDE, 0, 1]

theorem staysInside_extendedPacket :
    (packetBytes extendedPacket).length < 2 ^ 32 ∧
      StaysInside .littleEndian (packetBytes extendedPacket) default :=
  ⟨by decide +kernel, (staysInside_iff (by decide +kernel)).mpr (.inr (.inr (by
    unfold HoldsExtension
    decide +kernel)))⟩

/-- The length of its payload wraps below zero. -/
theorem not_staysInside_truncatedExtension :
    ¬ StaysInside .littleEndian truncatedExtension default := by
  rintro ⟨-, hinside⟩
  have haccepted : setRtpPacketFromBytes .littleEndian truncatedExtension default =
      .ok (decoded .littleEndian truncatedExtension default) := by
    decide +kernel
  have hfits := (hinside _ haccepted).header
  revert hfits
  decide +kernel

end KvsWebrtc.Rtp
