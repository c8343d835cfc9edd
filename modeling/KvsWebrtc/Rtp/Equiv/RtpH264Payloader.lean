import KvsWebrtc.Rtp.Equiv.Payloader
import KvsWebrtc.Rtp.Codecs
import Mathlib.Data.FinEnum

/-!
# Round trip of H.264

`fuA_lawful` checks the bits: the reference bits and the type, which a fragment holds in two bytes,
are put together to the first byte of the NAL unit, and a single NAL unit is not taken for a
fragment.
-/

namespace KvsWebrtc.Rtp

/-! ### Bits of the headers -/

/-- Every first byte of a NAL unit, and the two bytes that a fragment holds it in. -/
theorem fuA_bits : ∀ b : UInt8,
    ((28 ||| (b &&& 0x60)) &&& 31).toNat = 28 ∧
      ((b &&& 0x1F) ||| 0x80) &&& 0x80 ≠ 0 ∧
      ((b &&& 0x1F) ||| 0x40) &&& 0x80 = 0 ∧ ((b &&& 0x1F) ||| 0) &&& 0x80 = 0 ∧
      (b &&& 0x80 = 0 →
        ((28 ||| (b &&& 0x60)) &&& 0x60) ||| (((b &&& 0x1F) ||| 0x80) &&& 0x1F) = b) := by
  decide +kernel

theorem fuA_indicator (b : UInt8) : ((28 ||| (b &&& 0x60)) &&& 31).toNat = 28 :=
  (fuA_bits b).1

theorem fuA_start (b : UInt8) : ((b &&& 0x1F) ||| 0x80) &&& 0x80 ≠ 0 :=
  (fuA_bits b).2.1

theorem fuA_not_start (b flag : UInt8) (hflag : flag = 0x40 ∨ flag = 0) :
    ((b &&& 0x1F) ||| flag) &&& 0x80 = 0 := by
  obtain ⟨-, -, hend, hmiddle, -⟩ := fuA_bits b
  rcases hflag with rfl | rfl
  · exact hend
  · exact hmiddle

theorem fuA_first_byte (b : UInt8) (hb : b &&& 0x80 = 0) :
    ((28 ||| (b &&& 0x60)) &&& 0x60) ||| (((b &&& 0x1F) ||| 0x80) &&& 0x1F) = b :=
  (fuA_bits b).2.2.2.2 hb

/-! ### The depayloader on what the payloader writes -/

theorem depayH264_single {nalu : List UInt8} (h : IsH264Nalu nalu) (hlen : nalu.length + 4 < 2 ^ 32)
    (size : Option Nat) :
    depayH264FromRtpPayload nalu size =
      depayWrite size (start4ByteCode ++ nalu).length true (.ok (start4ByteCode ++ nalu)) := by
  cases nalu with
  | nil => exact absurd rfl h.ne_nil
  | cons b rest =>
    have htype : (b &&& 31).toNat ≤ 23 := h.type_le
    have hmod : ((b :: rest).length + start4ByteCode.length) % 2 ^ 32 =
        (start4ByteCode ++ b :: rest).length := by
      rw [List.length_append, Nat.add_comm start4ByteCode.length]
      exact Nat.mod_eq_of_lt hlen
    rw [depayH264FromRtpPayload.eq_def]
    simp only
    split
    · next heq => omega
    · next heq => omega
    · next heq => omega
    · next heq => omega
    · rw [hmod]

theorem depayH264_first {nalu : List UInt8} (h : IsH264Nalu nalu) (data : List UInt8)
    (hlen : fuA.naluHeaderSize + data.length + 4 < 2 ^ 32) (size : Option Nat) :
    depayH264FromRtpPayload (fuA.header nalu 0x80 ++ data) size =
      depayWrite size (start4ByteCode ++ (nalu.take fuA.naluHeaderSize ++ data)).length true
        (.ok (start4ByteCode ++ (nalu.take fuA.naluHeaderSize ++ data))) := by
  cases nalu with
  | nil => exact absurd rfl h.ne_nil
  | cons b rest =>
    have hforbidden : b &&& 0x80 = 0 := h.forbidden
    show depayH264FromRtpPayload
      ((28 ||| (b &&& 0x60)) :: ((b &&& 0x1F) ||| 0x80) :: data) size = _
    simp only [depayH264FromRtpPayload, fuA_indicator]
    rw [if_pos (fuA_start b), fuA_first_byte b hforbidden]
    have hmod : (data.length + 1 + start4ByteCode.length) % 2 ^ 32 =
        (start4ByteCode ++ b :: data).length := by
      rw [List.length_append, List.length_cons, Nat.add_comm start4ByteCode.length]
      apply Nat.mod_eq_of_lt
      rw [Nat.add_comm data.length]
      exact hlen
    rw [hmod]
    rfl

theorem depayH264_later (nalu data : List UInt8) {flag : UInt8} (hflag : flag = 0x40 ∨ flag = 0)
    (size : Option Nat) :
    depayH264FromRtpPayload (fuA.header nalu flag ++ data) size =
      depayWrite size data.length false (.ok data) := by
  show depayH264FromRtpPayload
    ((28 ||| (nalu.headD 0 &&& 0x60)) :: ((nalu.headD 0 &&& 0x1F) ||| flag) :: data) size = _
  simp only [depayH264FromRtpPayload, fuA_indicator]
  rw [if_neg]
  exact not_not.mpr (fuA_not_start _ flag hflag)

/-- **`FU-A`** fragments give back what they were made of. -/
theorem fuA_lawful : LawfulCodec IsH264Nalu fuA depayH264FromRtpPayload where
  isNalu h := h.toIsNalu
  length_header _ _ := rfl
  naluHeaderSize_lt := by decide
  depay_single h hlen := depayOne_depayWrite (depayH264_single h hlen)
  depay_first h data hlen := depayOne_depayWrite (depayH264_first h data hlen)
  depay_later nalu data _ hflag := depayOne_depayWrite (depayH264_later nalu data hflag)

/-! ### The round trip -/

/-- **Round trip of H.264**: the payloads of an Annex-B stream are no longer than `mtu`, and give
its NAL units back with four-byte start codes, if the lengths added up on the way are 32-bit
numbers. -/
theorem h264_round_trip {mtu : Nat} (hmtu : 2 < mtu) {units : List (AnnexBUnit IsH264Nalu)}
    (hne : units ≠ []) (hlen : (annexB units).length + 2 < 2 ^ 32)
    (htotal : totalPayloadSize fuA mtu units < 2 ^ 32) :
    RoundTrips createPayloadForH264 depayH264FromRtpPayload mtu units :=
  fuA_lawful.roundTrips hmtu hne hlen htotal

/-- A unit of four bytes and one of two, for which the first one is cut into fragments. -/
theorem h264_round_trip_fragmented :
    RoundTrips createPayloadForH264 depayH264FromRtpPayload 3
      [(⟨true, [0x65, 7, 8, 9], ⟨⟨by decide, by decide, by decide⟩, by decide, by decide, by
        decide⟩⟩ :
        AnnexBUnit IsH264Nalu),
       ⟨false, [0x41, 5], ⟨⟨by decide, by decide, by decide⟩, by decide, by decide, by decide⟩⟩] :=
  h264_round_trip (by decide) (by decide) (by decide) (by decide)

theorem isH264Nalu_replicate {n : Nat} (hn : 0 < n) : IsH264Nalu (List.replicate n 2) := by
  have hhead := headD_replicate hn
  refine ⟨isNalu_replicate hn, ?_, ?_, ?_⟩
  · rw [hhead]
    decide
  · rw [hhead]
    decide
  · rw [hhead]
    decide

/-- **Lengths from 2^32 on**: the payloads of 2^31 + 1 bytes have three times 2^31 bytes if each one
holds a single byte of them, and in a buffer of 2^32 - 1 bytes the scan steps over 2^32. -/
theorem h264_lengths_overflow :
    ¬ RoundTrips createPayloadForH264 depayH264FromRtpPayload 3
        [⟨true, List.replicate (2 ^ 31 + 1) 2, isH264Nalu_replicate (by decide)⟩] ∧
      ¬ RoundTrips createPayloadForH264 depayH264FromRtpPayload (2 ^ 32 - 1)
        [⟨true, List.replicate (2 ^ 32 - 5) 2, isH264Nalu_replicate (by decide)⟩] := by
  constructor
  · exact fuA_lawful.not_roundTrips_replicate (by decide) _ (by decide) (by decide)
  · exact not_roundTrips_scan (by decide) _

end KvsWebrtc.Rtp
