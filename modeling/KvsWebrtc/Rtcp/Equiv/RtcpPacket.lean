import KvsWebrtc.Rtcp.RtcpPacket
import Mathlib.Data.UInt

/-!
# The bit rate and the SSRCs of a REMB

A REMB declares a bit rate of `mantissa * 2 ^ exponent` with a mantissa of 18 bits and an exponent
of 6. `rembValueGet` shifts the mantissa as a 32-bit number, which gives that product if it is one
too (`rembValueGet_exact_iff`).  The SSRCs are those of the payload.
-/

namespace KvsWebrtc.Rtcp

variable {payload : List UInt8}

/-! ### What a REMB declares -/

def rembSsrcCount (payload : List UInt8) : Nat := beNat (bytesAt payload 12 1)

/-- The first 6 of the 24 bits of the bit rate. -/
def rembExponent (payload : List UInt8) : Nat := beNat (bytesAt payload 13 1) / 2 ^ 2

def rembMantissa (payload : List UInt8) : Nat := beNat (bytesAt payload 13 3) % 2 ^ 18

def rembSsrc (payload : List UInt8) (i : Nat) : UInt32 := UInt32.ofNat
    (beNat (bytesAt payload (16 + i * 4) 4))

/-- The bit rate and the SSRCs are the declared ones, and all of them lie in the payload. -/
structure RembExact (payload : List UInt8) (value : RembValue) : Prop where
  maximumBitRate : value.maximumBitRate = some (rembMantissa payload * 2 ^ rembExponent payload)
  length_ssrcList : value.ssrcList.length = rembSsrcCount payload
  ssrcs : ∀ i < rembSsrcCount payload,
    16 + i * 4 + 4 ≤ payload.length ∧ value.ssrcList[i]? = some (rembSsrc payload i)

/-! ### What is read -/

theorem uint32At_ok_iff {offset : Nat} {v : UInt32} :
    uint32At payload offset = .ok v ↔
      offset + 4 ≤ payload.length ∧ v = UInt32.ofNat (beNat (bytesAt payload offset 4)) := by
  rw [uint32At, fieldAt]
  split_ifs with hle
  · simp only [Except.map, Except.ok.injEq, hle, true_and, eq_comm]
  · simp [Except.map, hle]

theorem mapM_uint32At (offset : Nat → Nat) (is : List Nat)
    (h : ∀ i ∈ is, offset i + 4 ≤ payload.length) :
    is.mapM (fun i => uint32At payload (offset i)) =
      .ok (is.map fun i => UInt32.ofNat (beNat (bytesAt payload (offset i) 4))) := by
  induction is with
  | nil => rfl
  | cons i is ih =>
    rw [List.mapM_cons, uint32At_ok_iff.mpr ⟨h i List.mem_cons_self, rfl⟩,
      ih fun j hj => h j (List.mem_cons_of_mem i hj)]
    rfl

def rembSsrcs (payload : List UInt8) : List UInt32 := (List.range (rembSsrcCount payload)).map
    (rembSsrc payload)

theorem length_rembSsrcs (payload : List UInt8) :
    (rembSsrcs payload).length = rembSsrcCount payload := by
  simp [rembSsrcs]

/-- The byte in front of the bit rate is masked. -/
theorem mantissa_eq (h : 16 ≤ payload.length) :
    beNat (bytesAt payload 12 4) &&& rtcpPacketRembMantissaBitmask = rembMantissa payload := by
  obtain ⟨b, bs, hb, hbs⟩ : ∃ b bs, bytesAt payload 12 4 = b :: bs ∧ bytesAt payload 13 3 = bs := by
    obtain ⟨b, bs, hb⟩ := List.exists_cons_of_length_pos (l := payload.drop 12)
      (by rw [List.length_drop]; omega)
    have hdrop : payload.drop 13 = bs := by
      rw [← List.tail_drop, hb]
      rfl
    exact ⟨b, bs.take 3, by rw [bytesAt, hb]; rfl, by rw [bytesAt, hdrop]⟩
  have hlen : bs.length = 3 := by rw [← hbs, length_bytesAt (by omega)]
  have hmask : rtcpPacketRembMantissaBitmask = 2 ^ 18 - 1 := rfl
  rw [rembMantissa, hb, hbs, hmask, Nat.and_two_pow_sub_one_eq_mod, beNat, hlen]
  omega

/-- **What `rembValueGet` returns**. -/
theorem rembValueGet_eq (payload : List UInt8) : rembValueGet payload =
    .ok (if payload.length < 16 then .error .rtcpInputRembTooSmall
      else if 16 + rembSsrcCount payload * 4 ≤ payload.length then
        .ok ⟨rembMantissa payload, rembExponent payload, rembSsrcs payload⟩
      else .error .rtcpInputRembInvalid) := by
  rw [rembValueGet]
  by_cases hlen : payload.length < 16
  · have hshort : ¬ payload.length ≥ rtcpPacketRembMinSize := Nat.not_le_of_lt hlen
    rw [if_pos hlen, if_neg hshort]
  · have hle : payload.length ≥ rtcpPacketRembMinSize := Nat.le_of_not_lt hlen
    have hread : ∀ i n, i + n ≤ 16 → fieldAt payload i n = .ok (bytesAt payload i n) := by
      intro i n h
      exact fieldAt_ok_iff.mpr ⟨h.trans hle, rfl⟩
    rw [if_neg hlen, if_pos hle, hread _ _ (by decide), hread _ _ (by decide),
      hread _ _ (by decide)]
    show (if payload.length ≥ 16 + rembSsrcCount payload * 4 then _ else _ : Except Failure _) = _
    split_ifs with hssrcs
    · have hexponent : beNat (bytesAt payload 13 1) >>> 2 = rembExponent payload :=
        Nat.shiftRight_eq_div_pow _ _
      have hread' : ∀ i ∈ List.range (rembSsrcCount payload), 16 + i * 4 + 4 ≤ payload.length := by
        intro i hi
        have hlt := List.mem_range.mp hi
        omega
      rw [← mantissa_eq hle, ← hexponent]
      exact bind_eq_ok_iff.mpr ⟨_, mapM_uint32At (fun i => 16 + i * 4) _ hread', rfl⟩
    · rfl

/-! ### The shift -/

/-- The shift gives the product if it is a 32-bit number, and only then. -/
theorem shiftLeft32_eq_iff {mantissa exponent : Nat} (hm : mantissa < 2 ^ 18) :
    (shiftLeft32 mantissa exponent).map UInt32.toNat = some (mantissa * 2 ^ exponent) ↔
      exponent < 32 ∧ mantissa * 2 ^ exponent < 2 ^ 32 := by
  rw [shiftLeft32]
  split_ifs with he
  · have hshift : (UInt32.ofNat mantissa <<< UInt32.ofNat exponent).toNat =
        mantissa * 2 ^ exponent % 2 ^ 32 := by
      rw [UInt32.toNat_shiftLeft, UInt32.toNat_ofNat_of_lt' (by show mantissa < 2 ^ 32; omega),
        UInt32.toNat_ofNat_of_lt' (by show exponent < 2 ^ 32; omega), Nat.mod_eq_of_lt he,
        Nat.shiftLeft_eq]
    rw [Option.map_some, hshift, Option.some.injEq]
    constructor
    · intro h
      rw [← h]
      exact ⟨he, Nat.mod_lt _ (by decide)⟩
    · rintro ⟨-, hlt⟩
      exact Nat.mod_eq_of_lt hlt
  · simp [he]

/-- **The bit rate of a REMB is the declared one** if and only if the exponent is below 32 and the
product is a 32-bit number.  The SSRCs are the declared ones in any case. -/
theorem rembValueGet_exact_iff {value : RembValue}
    (hvalue : rembValueGet payload = .ok (.ok value)) :
    RembExact payload value ↔
      rembExponent payload < 32 ∧ rembMantissa payload * 2 ^ rembExponent payload < 2 ^ 32 := by
  rw [rembValueGet_eq] at hvalue
  have hvalue := Except.ok.inj hvalue
  split_ifs at hvalue with hlen hssrcs
  obtain rfl := Except.ok.inj hvalue
  have hm : rembMantissa payload < 2 ^ 18 := Nat.mod_lt _ (by decide)
  rw [← shiftLeft32_eq_iff hm]
  constructor
  · intro h
    exact h.maximumBitRate
  · intro h
    refine
      { maximumBitRate := h
        length_ssrcList := length_rembSsrcs payload
        ssrcs := fun i hi => ⟨by omega, ?_⟩ }
    show (rembSsrcs payload)[i]? = _
    simp [rembSsrcs, hi]

/-- A bit rate of 4 Mbit/s for one SSRC. -/
def smallRemb : List UInt8 := [0, 0, 0, 1, 0, 0, 0, 0, 0x52, 0x45, 0x4d, 0x42, 1, 0x13, 0xd0, 0x90,
    0, 0, 0, 7]

theorem rembValueGet_exact_smallRemb : RembExact smallRemb ⟨250000, 4, [7]⟩ :=
  (@rembValueGet_exact_iff smallRemb _ (by decide +kernel)).mpr (by decide +kernel)

/-- A bit rate of 2^17 * 2^15 bit/s, which is 2^32, is taken for 0. -/
theorem not_rembExact_two_pow_32 :
    ∃ payload value, isRembPacket payload = .ok .success ∧ rembValueGet payload = .ok (.ok value) ∧
      value.maximumBitRate = some 0 ∧ ¬ RembExact payload value := by
  refine ⟨[0, 0, 0, 1, 0, 0, 0, 0, 0x52, 0x45, 0x4d, 0x42, 1, 0x3e, 0, 0, 0, 0, 0, 7],
    ⟨2 ^ 17, 15, [7]⟩,
    by decide +kernel, by decide +kernel, by decide +kernel, ?_⟩
  intro h
  have hrate := h.maximumBitRate
  revert hrate
  decide +kernel

end KvsWebrtc.Rtcp
