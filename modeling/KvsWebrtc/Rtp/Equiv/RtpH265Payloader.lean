import KvsWebrtc.Rtp.Equiv.Payloader
import KvsWebrtc.Rtp.Codecs
import Mathlib.Data.FinEnum

/-!
# Round trip of H.265

`h265Fu_lawful` checks the bits: the type of a NAL unit stands in the header of a fragment, the
layer and temporal ids in the payload header before it.
-/

namespace KvsWebrtc.Rtp

/-! ### Bits of the headers -/

/-- The first byte of a fragment of a NAL unit with the given first byte. -/
def h265Indicator (b : UInt8) : UInt8 := (h265FuTypeId <<< 1) ||| (b &&& 0x81) ||| (b &&& 0x1)

/-- The header of a fragment, without the start and end bits. -/
def h265NaluType (b : UInt8) : UInt8 := ((b &&& 0x7E) >>> 1) &&& 0x3F

/-- Every first byte of a NAL unit, and the two bytes that a fragment holds it in. -/
theorem h265_bits : ∀ b : UInt8,
    (h265Indicator b >>> 1) &&& 0x3F = h265FuTypeId ∧
      (h265NaluType b ||| 0x80) &&& 0x80 ≠ 0 ∧
      (h265NaluType b ||| 0x40) &&& 0x80 = 0 ∧ (h265NaluType b ||| 0) &&& 0x80 = 0 ∧
      (b &&& 0x80 = 0 →
        (((h265NaluType b ||| 0x80) &&& 0x3F) <<< 1) ||| (h265Indicator b &&& 0x81) = b) ∧
      (((b &&& 0x7E) >>> 1).toNat < 48 → (b >>> 1) &&& 0x3F ≠ h265FuTypeId) ∧
      b &&& 0xFF = b := by
  decide +kernel

theorem h265Indicator_type (b : UInt8) : (h265Indicator b >>> 1) &&& 0x3F = h265FuTypeId :=
  (h265_bits b).1

theorem h265NaluType_start (b : UInt8) : (h265NaluType b ||| 0x80) &&& 0x80 ≠ 0 :=
  (h265_bits b).2.1

theorem h265NaluType_not_start (b flag : UInt8) (hflag : flag = 0x40 ∨ flag = 0) :
    (h265NaluType b ||| flag) &&& 0x80 = 0 := by
  obtain ⟨-, -, hend, hmiddle, -⟩ := h265_bits b
  rcases hflag with rfl | rfl
  · exact hend
  · exact hmiddle

theorem h265_first_byte (b : UInt8) (hb : b &&& 0x80 = 0) :
    (((h265NaluType b ||| 0x80) &&& 0x3F) <<< 1) ||| (h265Indicator b &&& 0x81) = b :=
  (h265_bits b).2.2.2.2.1 hb

theorem h265_type_ne (b : UInt8) (hb : ((b &&& 0x7E) >>> 1).toNat < 48) :
    (b >>> 1) &&& 0x3F ≠ h265FuTypeId :=
  (h265_bits b).2.2.2.2.2.1 hb

theorem h265_second_byte (b : UInt8) : b &&& 0xFF = b :=
  (h265_bits b).2.2.2.2.2.2

/-! ### The depayloader on what the payloader writes -/

theorem depayH265_single {nalu : List UInt8} (h : IsH265Nalu nalu) (hlen : nalu.length + 4 < 2 ^ 32)
    (size : Option Nat) :
    depayH265FromRtpPayload nalu size =
      depayWrite size (start4ByteCode ++ nalu).length true (.ok (start4ByteCode ++ nalu)) := by
  cases nalu with
  | nil => exact absurd rfl h.ne_nil
  | cons b rest =>
    have hmod : ((b :: rest).length + start4ByteCode.length) % 2 ^ 32 =
        (start4ByteCode ++ b :: rest).length := by
      rw [List.length_append, Nat.add_comm start4ByteCode.length]
      exact Nat.mod_eq_of_lt hlen
    rw [depayH265FromRtpPayload.eq_def]
    simp only
    rw [if_neg (h265_type_ne b h.type_lt), hmod]

theorem depayH265_first {nalu : List UInt8} (h : IsH265Nalu nalu) (data : List UInt8)
    (hlen : h265Fu.naluHeaderSize + data.length + 4 < 2 ^ 32) (size : Option Nat) :
    depayH265FromRtpPayload (h265Fu.header nalu 0x80 ++ data) size =
      depayWrite size (start4ByteCode ++ (nalu.take h265Fu.naluHeaderSize ++ data)).length true
        (.ok (start4ByteCode ++ (nalu.take h265Fu.naluHeaderSize ++ data))) := by
  match nalu, h with
  | [], h => exact absurd rfl h.ne_nil
  | [_], h => exact absurd h.two_le_length (Nat.lt_irrefl 1)
  | b :: c :: rest, h =>
    have hforbidden : b &&& 0x80 = 0 := h.forbidden
    show depayH265FromRtpPayload
      (h265Indicator b :: (c &&& 0xFF) :: (h265NaluType b ||| 0x80) :: data) size = _
    simp only [depayH265FromRtpPayload]
    rw [if_pos (h265Indicator_type b), if_pos (h265NaluType_start b), h265_first_byte b hforbidden,
      h265_second_byte]
    have hmod : (data.length + 2 + start4ByteCode.length) % 2 ^ 32 =
        (start4ByteCode ++ b :: c :: data).length := by
      rw [List.length_append, List.length_cons, List.length_cons,
        Nat.add_comm start4ByteCode.length]
      apply Nat.mod_eq_of_lt
      rw [Nat.add_comm data.length]
      exact hlen
    rw [hmod]
    rfl

theorem depayH265_later (nalu data : List UInt8) {flag : UInt8} (hflag : flag = 0x40 ∨ flag = 0)
    (size : Option Nat) :
    depayH265FromRtpPayload (h265Fu.header nalu flag ++ data) size =
      depayWrite size data.length false (.ok data) := by
  show depayH265FromRtpPayload
    (h265Indicator (nalu.headD 0) :: (nalu.getD 1 0 &&& 0xFF) ::
      (h265NaluType (nalu.headD 0) ||| flag) :: data) size = _
  simp only [depayH265FromRtpPayload]
  rw [if_pos (h265Indicator_type _), if_neg]
  exact not_not.mpr (h265NaluType_not_start _ flag hflag)

/-- **Fragmentation units** of H.265 give back what they were made of. -/
theorem h265Fu_lawful : LawfulCodec IsH265Nalu h265Fu depayH265FromRtpPayload where
  isNalu h := h.toIsNalu
  length_header _ _ := rfl
  naluHeaderSize_lt := by decide
  depay_single h hlen := depayOne_depayWrite (depayH265_single h hlen)
  depay_first h data hlen := depayOne_depayWrite (depayH265_first h data hlen)
  depay_later nalu data _ hflag := depayOne_depayWrite (depayH265_later nalu data hflag)

/-! ### The round trip -/

/-- **Round trip of H.265**: the payloads of an Annex-B stream are no longer than `mtu`, and give
its NAL units back with four-byte start codes, if the lengths added up on the way are 32-bit
numbers. -/
theorem h265_round_trip {mtu : Nat} (hmtu : 3 < mtu) {units : List (AnnexBUnit IsH265Nalu)}
    (hne : units ≠ []) (hlen : (annexB units).length + 2 < 2 ^ 32)
    (htotal : totalPayloadSize h265Fu mtu units < 2 ^ 32) :
    RoundTrips createPayloadForH265 depayH265FromRtpPayload mtu units :=
  h265Fu_lawful.roundTrips hmtu hne hlen htotal

/-- A unit of five bytes, which is cut into fragments, and one of three. -/
theorem h265_round_trip_fragmented :
    RoundTrips createPayloadForH265 depayH265FromRtpPayload 4
      [(⟨true, [0x26, 1, 7, 8, 9],
        ⟨⟨by decide, by decide, by decide⟩, by decide, by decide, by decide, by decide⟩⟩ :
        AnnexBUnit IsH265Nalu),
       ⟨false, [0x02, 1, 5],
        ⟨⟨by decide, by decide, by decide⟩, by decide, by decide, by decide, by decide⟩⟩] :=
  h265_round_trip (by decide) (by decide) (by decide) (by decide)

theorem isH265Nalu_replicate {n : Nat} (hn : 1 < n) : IsH265Nalu (List.replicate n 2) := by
  have hhead := headD_replicate (Nat.lt_of_succ_lt hn)
  refine ⟨isNalu_replicate (Nat.lt_of_succ_lt hn), ?_, ?_, ?_, ?_⟩
  · rw [List.length_replicate]
    exact hn
  · rw [hhead]
    decide
  · rw [hhead]
    decide
  · rw [List.getD_eq_getElem?_getD, List.getElem?_replicate, if_pos hn]
    decide

/-- **Lengths from 2^32 on**: the payloads of 2^31 + 2 bytes have four times 2^31 bytes if each one
holds a single byte of them, and in a buffer of 2^32 - 1 bytes the scan steps over 2^32. -/
theorem h265_lengths_overflow :
    ¬ RoundTrips createPayloadForH265 depayH265FromRtpPayload 4
        [⟨true, List.replicate (2 ^ 31 + 2) 2, isH265Nalu_replicate (by decide)⟩] ∧
      ¬ RoundTrips createPayloadForH265 depayH265FromRtpPayload (2 ^ 32 - 1)
        [⟨true, List.replicate (2 ^ 32 - 5) 2, isH265Nalu_replicate (by decide)⟩] := by
  constructor
  · exact h265Fu_lawful.not_roundTrips_replicate (by decide) _ (by decide) (by decide)
  · exact not_roundTrips_scan (by decide) _

end KvsWebrtc.Rtp
