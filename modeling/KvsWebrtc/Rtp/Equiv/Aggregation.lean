import KvsWebrtc.Common.BigEndian
import KvsWebrtc.Rtp.Equiv.RtpH264Payloader

/-!
# Aggregation packets

The bytes that the loops over an aggregation packet go through, as a relation between them and the
NAL units (`Aggregate`): these are exactly the bytes from which the loops read inside the packet
(`aggregate_of_stapUnits`), and then the second loop writes the NAL units with start codes
(`Aggregate.walk`).
-/

namespace KvsWebrtc.Rtp

def sized (nalu : List UInt8) : List UInt8 := beBytes 2 nalu.length ++ nalu

/-- The bytes from a size on.  A size of zero ends the loop as the end of the packet does. -/
inductive Aggregate : List UInt8 → List (List UInt8) → Prop
  | last (nalu rest : List UInt8) (hlen : nalu.length < 2 ^ 16) (h : nalu = [] ∨ rest = []) :
      Aggregate (sized nalu ++ rest) [nalu]
  | cons (nalu : List UInt8) (hne : nalu ≠ []) (hlen : nalu.length < 2 ^ 16) {bytes : List UInt8}
      {nalus : List (List UInt8)} (h : Aggregate bytes nalus) :
      Aggregate (sized nalu ++ bytes) (nalu :: nalus)

/-- The NAL units, each preceded by the four-byte start code. -/
def startCoded (nalus : List (List UInt8)) : List UInt8 := nalus.flatMap (start4ByteCode ++ ·)

@[simp] theorem startCoded_cons (nalu : List UInt8) (nalus : List (List UInt8)) :
    startCoded (nalu :: nalus) = start4ByteCode ++ nalu ++ startCoded nalus :=
  List.flatMap_cons

@[simp] theorem startCoded_nil : startCoded [] = [] := rfl

/-- The sum of the lengths that the first loop adds up. -/
def stapTotal (units : List (Nat × Nat)) : Nat :=
  (units.map fun u => u.2 + start4ByteCode.length).sum

/-! ### The size at an offset -/

def subNaluSize (raw : List UInt8) (p : Nat) : Nat :=
  (raw.getD p 0).toNat * 256 + (raw.getD (p + 1) 0).toNat

theorem subNaluSize_lt (raw : List UInt8) (p : Nat) : subNaluSize raw p < 2 ^ 16 := by
  have h0 := (raw.getD p 0).toNat_lt
  have h1 := (raw.getD (p + 1) 0).toNat_lt
  rw [subNaluSize]
  omega

theorem subNaluSize_beBytes (pre post : List UInt8) {n : Nat} (hn : n < 2 ^ 16) :
    subNaluSize (pre ++ (beBytes 2 n ++ post)) pre.length = n := by
  have h0 : (pre ++ (beBytes 2 n ++ post)).getD pre.length 0 = UInt8.ofNat (n / 256) := by
    simp [beBytes, List.getD_eq_getElem?_getD]
  have h1 : (pre ++ (beBytes 2 n ++ post)).getD (pre.length + 1) 0 = UInt8.ofNat n := by
    simp [beBytes, List.getD_eq_getElem?_getD]
  rw [subNaluSize, h0, h1]
  simp only [UInt8.toNat_ofNat']
  omega

theorem subNaluSize_sized (pre nalu post : List UInt8) (hlen : nalu.length < 2 ^ 16) :
    subNaluSize (pre ++ (sized nalu ++ post)) pre.length = nalu.length := by
  rw [sized, List.append_assoc]
  exact subNaluSize_beBytes pre (nalu ++ post) hlen

theorem beBytes_subNaluSize (raw : List UInt8) (p : Nat) :
    beBytes 2 (subNaluSize raw p) = [raw.getD p 0, raw.getD (p + 1) 0] := by
  have hbe := beBytes_beNat [raw.getD p 0, raw.getD (p + 1) 0]
  simpa [beNat, subNaluSize] using hbe

theorem drop_eq_two {raw : List UInt8} {p : Nat} (h : p + 2 ≤ raw.length) :
    raw.drop p = [raw.getD p 0, raw.getD (p + 1) 0] ++ raw.drop (p + 2) := by
  have hp : p < raw.length := by omega
  have hp' : p + 1 < raw.length := by omega
  rw [List.drop_eq_getElem_cons hp, List.drop_eq_getElem_cons hp', List.getD_eq_getElem?_getD,
    List.getD_eq_getElem?_getD, List.getElem?_eq_getElem hp, List.getElem?_eq_getElem hp']
  rfl

theorem drop_eq_sized {raw : List UInt8} {p : Nat} (h : p + 2 + subNaluSize raw p ≤ raw.length) :
    raw.drop p = sized ((raw.drop (p + 2)).take (subNaluSize raw p)) ++
      raw.drop (p + 2 + subNaluSize raw p) := by
  have hlen : ((raw.drop (p + 2)).take (subNaluSize raw p)).length = subNaluSize raw p := by
    rw [List.length_take, List.length_drop]
    omega
  have hrest : (raw.drop (p + 2)).take (subNaluSize raw p) ++ raw.drop (p + 2 + subNaluSize raw p) =
      raw.drop (p + 2) := by
    rw [show raw.drop (p + 2 + subNaluSize raw p) = (raw.drop (p + 2)).drop (subNaluSize raw p) from
      List.drop_drop.symm]
    exact List.take_append_drop _ _
  rw [sized, hlen, beBytes_subNaluSize, List.append_assoc, hrest, ← drop_eq_two (by omega)]

/-! ### The loops -/

theorem length_sized (nalu : List UInt8) : (sized nalu).length = 2 + nalu.length := by
  rw [sized, List.length_append, length_beBytes]

/-- A packet that is put together from a start, a NAL unit with its size and more bytes. -/
theorem copyFrom_sized (pre nalu post : List UInt8) :
    copyFrom (pre ++ (sized nalu ++ post)) (pre.length + 2) nalu.length = .ok nalu := by
  have hdrop : (pre ++ (sized nalu ++ post)).drop (pre.length + 2) = nalu ++ post := by
    rw [← List.drop_drop, List.drop_left, sized, List.append_assoc]
    exact List.drop_left' (length_beBytes 2 _)
  rw [copyFrom, if_pos, hdrop, List.take_left]
  right
  rw [List.length_append, List.length_append, length_sized]
  omega

theorem Aggregate.length_pos {bytes : List UInt8} {nalus : List (List UInt8)}
    (h : Aggregate bytes nalus) :
    0 < bytes.length := by
  cases h <;> rw [List.length_append, length_sized] <;> omega

/-- The loops read inside of the packet, and write the NAL units. -/
theorem Aggregate.walk {bytes : List UInt8} {nalus : List (List UInt8)} (h : Aggregate bytes nalus)
    (pre : List UInt8) :
    ∃ units, stapUnits (pre ++ bytes) pre.length = .ok units ∧
      stapTotal units = (startCoded nalus).length ∧
      stapWrite (pre ++ bytes) units = .ok (startCoded nalus) := by
  induction h generalizing pre with
  | last nalu rest hlen hend =>
    have hsize := subNaluSize_sized pre nalu rest hlen
    -- the loop ends after the last NAL unit, empty or not
    have hlast : ¬ (0 < nalu.length ∧
        pre.length + 2 + nalu.length < (pre ++ (sized nalu ++ rest)).length) := by
      rw [List.length_append, List.length_append, length_sized]
      rcases hend with rfl | rfl
      · simp
      · rw [List.length_nil]
        omega
    refine ⟨[(pre.length + 2, nalu.length)], ?_, ?_, ?_⟩
    · rw [stapUnits, if_pos]
      · simp only [subNaluSize] at hsize
        simp only [hsize, if_neg hlast]
      · rw [List.length_append, List.length_append, length_sized]
        omega
    · simp [stapTotal, Nat.add_comm]
    · simp [stapWrite, copyFrom_sized]
  | cons nalu hne hlen hbytes ih =>
    rename_i bytes nalus
    have hsize := subNaluSize_sized pre nalu bytes hlen
    have hpos := List.length_pos_iff.mpr hne
    have hmore := hbytes.length_pos
    obtain ⟨units, hunits, htotal, hwrite⟩ := ih (pre ++ sized nalu)
    have hstart : (pre ++ sized nalu).length = pre.length + 2 + nalu.length := by
      rw [List.length_append, length_sized]
      omega
    rw [List.append_assoc, hstart] at hunits
    rw [List.append_assoc] at hwrite
    refine ⟨(pre.length + 2, nalu.length) :: units, ?_, ?_, ?_⟩
    · rw [stapUnits, if_pos]
      · simp only [subNaluSize] at hsize
        simp only [hsize]
        rw [if_pos, hunits]
        rw [List.length_append, List.length_append, length_sized]
        omega
      · rw [List.length_append, List.length_append, length_sized]
        omega
    · rw [stapTotal] at htotal
      simp only [stapTotal, List.map_cons, List.sum_cons, htotal, startCoded_cons,
        List.length_append]
      omega
    · simp [stapWrite, copyFrom_sized, hwrite]

theorem stapWrite_cons {raw : List UInt8} {u : Nat × Nat} {units : List (Nat × Nat)}
    {out : List UInt8} (h : stapWrite raw (u :: units) = .ok out) :
    (u.2 = 0 ∨ u.1 + u.2 ≤ raw.length) ∧ ∃ rest, stapWrite raw units = .ok rest := by
  rw [stapWrite, copyFrom] at h
  split_ifs at h with hin
  · refine ⟨hin, ?_⟩
    cases hrest : stapWrite raw units with
    | error e => rw [hrest] at h; cases h
    | ok rest => exact ⟨rest, rfl⟩

/-- If both loops read inside of the packet the bytes are those of an aggregation packet. -/
theorem aggregate_of_stapUnits {raw : List UInt8} {p : Nat} {units : List (Nat × Nat)}
    {out : List UInt8} (hunits : stapUnits raw p = .ok units)
    (hout : stapWrite raw units = .ok out) :
    ∃ nalus, Aggregate (raw.drop p) nalus := by
  induction p using stapUnits.induct raw generalizing units out with
  | case1 p hp size hmore e he =>
    rw [stapUnits, if_pos hp] at hunits
    simp only [size] at hmore he
    simp only [if_pos hmore, he] at hunits
    cases hunits
  | case2 p hp size hmore units' hunits' =>
    rename_i ih
    rw [stapUnits, if_pos hp] at hunits
    simp only [size] at hmore hunits'
    simp only [if_pos hmore, hunits'] at hunits
    obtain rfl := Except.ok.inj hunits
    -- the NAL unit ends before the packet does, and the next size is read behind it
    obtain ⟨-, rest, hrest⟩ := stapWrite_cons hout
    obtain ⟨nalus, hnalus⟩ := ih hunits' hrest
    have hle : p + 2 + subNaluSize raw p ≤ raw.length := hmore.2.le
    have hlen : ((raw.drop (p + 2)).take (subNaluSize raw p)).length = subNaluSize raw p := by
      rw [List.length_take, List.length_drop]
      omega
    rw [drop_eq_sized hle]
    refine ⟨_, .cons _ ?_ ?_ hnalus⟩
    · rw [← List.length_pos_iff, hlen]
      exact hmore.1
    · rw [hlen]
      exact subNaluSize_lt raw p
  | case3 p hp size =>
    rename_i hmore
    rw [stapUnits, if_pos hp] at hunits
    simp only [size] at hmore
    simp only [if_neg hmore] at hunits
    obtain rfl := Except.ok.inj hunits
    -- the last NAL unit: that it lies inside is only known from the bytes that are written
    obtain ⟨hin, -⟩ := stapWrite_cons hout
    have hle : p + 2 + subNaluSize raw p ≤ raw.length := by
      rcases hin with hzero | hin
      · exact (congrArg (p + 2 + ·) hzero).trans_le hp
      · exact hin
    have hlen : ((raw.drop (p + 2)).take (subNaluSize raw p)).length = subNaluSize raw p := by
      rw [List.length_take, List.length_drop]
      omega
    rw [drop_eq_sized hle]
    refine ⟨_, .last _ _ ?_ ?_⟩
    · rw [hlen]
      exact subNaluSize_lt raw p
    · rw [← List.length_eq_zero_iff, hlen, List.drop_eq_nil_iff]
      by_cases hzero : subNaluSize raw p = 0
      · exact .inl hzero
      · right
        by_contra hlt
        exact hmore ⟨Nat.pos_of_ne_zero hzero, Nat.not_le.mp hlt⟩
  | case4 p hp =>
    rw [stapUnits, if_neg hp] at hunits
    cases hunits

/-! ### Packets of `STAP-A` -/

/-- A packet of NAL units with their sizes. -/
def stapA (header : UInt8) (nalus : List (List UInt8)) : List UInt8 := header :: nalus.flatMap sized

theorem aggregate_flatMap {nalus : List (List UInt8)} (hne : nalus ≠ [])
    (hnalus : ∀ nalu ∈ nalus, 1 ≤ nalu.length ∧ nalu.length ≤ 65535) :
    Aggregate (nalus.flatMap sized) nalus := by
  induction nalus with
  | nil => exact absurd rfl hne
  | cons nalu nalus ih =>
    obtain ⟨hpos, hle⟩ := hnalus nalu List.mem_cons_self
    rw [List.flatMap_cons]
    by_cases hnil : nalus = []
    · rw [hnil]
      exact .last nalu [] (by omega) (.inr rfl)
    · exact .cons nalu (List.length_pos_iff.mp hpos) (by omega)
        (ih hnil fun n hn => hnalus n (List.mem_cons_of_mem nalu hn))

/-- What the depayloader makes of an aggregation packet with the sizes behind the header byte. -/
theorem depayH264_stapA {header : UInt8} (hheader : (header &&& 31).toNat = 24) {bytes : List UInt8}
    {nalus : List (List UInt8)} (h : Aggregate bytes nalus) (size : Option Nat) :
    depayH264FromRtpPayload (header :: bytes) size =
      depayWrite size ((startCoded nalus).length % 2 ^ 32) true (.ok (startCoded nalus)) := by
  obtain ⟨units, hunits, htotal, hwrite⟩ := h.walk [header]
  rw [stapTotal] at htotal
  simp only [List.singleton_append, List.length_singleton] at hunits hwrite
  simp only [depayH264FromRtpPayload, hheader, depayStap, stapAHeaderSize, hunits, hwrite,
    stapLength, htotal]

/-- **`STAP-A`**: the size-only call returns the number of bytes, and the call with a buffer of that
size the NAL units in order, each preceded by the four-byte start code, as a starting packet. -/
theorem stapA_depay {header : UInt8} (hheader : (header &&& 31).toNat = 24)
    {nalus : List (List UInt8)} (hne : nalus ≠ [])
    (hnalus : ∀ nalu ∈ nalus, 1 ≤ nalu.length ∧ nalu.length ≤ 65535)
    (hout : (startCoded nalus).length < 2 ^ 32) :
    depayH264FromRtpPayload (stapA header nalus) none = .ok ⟨(startCoded nalus).length, true, []⟩ ∧
      ∀ size, (startCoded nalus).length ≤ size →
        depayH264FromRtpPayload (stapA header nalus) (some size) =
          .ok ⟨(startCoded nalus).length, true, startCoded nalus⟩ := by
  have hdepay := depayH264_stapA hheader (aggregate_flatMap hne hnalus)
  rw [Nat.mod_eq_of_lt hout] at hdepay
  refine ⟨hdepay none, fun size hsize => ?_⟩
  rw [stapA, hdepay, depayWrite]
  simp only [if_pos hsize, Nat.mod_eq_of_lt hout]

theorem stapA_depay_two :
    depayH264FromRtpPayload (stapA 0x78 [[0x67, 1], [0x68]]) none = .ok ⟨11, true, []⟩ ∧
      ∀ size, 11 ≤ size → depayH264FromRtpPayload (stapA 0x78 [[0x67, 1], [0x68]]) (some size) =
        .ok ⟨11, true, [0, 0, 0, 1, 0x67, 1, 0, 0, 0, 1, 0x68]⟩ :=
  @stapA_depay 0x78 (by decide) [[0x67, 1], [0x68]] (by decide) (by decide) (by decide)

/-- If the length of the output wraps the buffer of the second call is too small for it. -/
theorem depayOne_stapA_overflow {header : UInt8} (hheader : (header &&& 31).toNat = 24)
    {nalus : List (List UInt8)} (hne : nalus ≠ [])
    (hnalus : ∀ nalu ∈ nalus, 1 ≤ nalu.length ∧ nalu.length ≤ 65535)
    (hout : 2 ^ 32 ≤ (startCoded nalus).length) :
    depayOne depayH264FromRtpPayload (stapA header nalus) = .error .outOfBounds := by
  have hdepay := depayH264_stapA hheader (aggregate_flatMap hne hnalus)
  have hlt := Nat.mod_lt (startCoded nalus).length (Nat.two_pow_pos 32)
  rw [stapA, depayOne, hdepay]
  simp only [depayWrite]
  rw [hdepay]
  simp only [depayWrite, le_refl, if_true]
  rw [if_neg (by omega)]

theorem length_stapA_replicate (header b : UInt8) (n : Nat) :
    (stapA header (List.replicate n [b])).length = 3 * n + 1 ∧
      (startCoded (List.replicate n [b])).length = 5 * n := by
  induction n with
  | zero => exact ⟨rfl, rfl⟩
  | succ n ih =>
    rw [stapA, List.length_cons] at ih
    rw [List.replicate_succ, stapA, List.flatMap_cons, startCoded_cons, List.length_cons,
      List.length_append, List.length_append, List.length_append, length_sized]
    simp only [start4ByteCode, List.length_cons, List.length_nil]
    omega

/-- **An output of 2^32 bytes or more**: of as many NAL units of one byte as make it four bytes
longer than 2^32 the size-only call returns four, and there is no room for the bytes. -/
theorem stapA_overflow :
    (stapA 0x78 (List.replicate 858993460 [7])).length < 2 ^ 32 ∧
      depayOne depayH264FromRtpPayload (stapA 0x78 (List.replicate 858993460 [7])) =
        .error .outOfBounds := by
  obtain ⟨hlen, hout⟩ := length_stapA_replicate 0x78 7 858993460
  refine ⟨by rw [hlen]; decide, depayOne_stapA_overflow (by decide) ?_ ?_ (by rw [hout]; decide)⟩
  · exact List.ne_nil_of_length_pos (by rw [List.length_replicate]; decide)
  · intro nalu hnalu
    rw [List.eq_of_mem_replicate hnalu]
    decide

end KvsWebrtc.Rtp
