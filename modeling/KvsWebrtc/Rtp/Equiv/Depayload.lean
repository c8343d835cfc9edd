import KvsWebrtc.Rtp.Codecs
import KvsWebrtc.Rtp.Equiv.Aggregation

/-!
# Which payloads are safe to take apart

`depay_safe_iff` says for each depayloader which payloads it reads and writes without leaving its
buffers: the header is there, the sizes in an aggregation packet stay inside of it, and the output
can be counted.  No `FU-B` fragment is among them, and of a `STAP-B` packet both ways to read it
have to be.
-/

namespace KvsWebrtc.Rtp

/-! ### The sizes in an aggregation packet -/

/-- The bytes from a size on of which the sizes are read inside of the packet, while the last NAL
unit can reach behind its end. -/
inductive Sizes : List UInt8 → List Nat → Prop
  | last (n : Nat) (rest : List UInt8) (hn : n < 2 ^ 16) (h : n = 0 ∨ rest.length ≤ n) :
      Sizes (beBytes 2 n ++ rest) [n]
  | cons (nalu : List UInt8) (hne : nalu ≠ []) (hlen : nalu.length < 2 ^ 16) {bytes : List UInt8}
      {sizes : List Nat} (h : Sizes bytes sizes) : Sizes (sized nalu ++ bytes)
      (nalu.length :: sizes)

/-- The length that the sizes add up to, with a start code for each. -/
def sizesTotal (sizes : List Nat) : Nat := (sizes.map (· + start4ByteCode.length)).sum

theorem Aggregate.sizes {bytes : List UInt8} {nalus : List (List UInt8)}
    (h : Aggregate bytes nalus) :
    Sizes bytes (nalus.map List.length) := by
  induction h with
  | last nalu rest hlen hend =>
    rw [sized, List.append_assoc]
    refine .last _ _ hlen ?_
    rcases hend with rfl | rfl
    · exact .inl rfl
    · right
      simp
  | cons nalu hne hlen _ ih => exact .cons nalu hne hlen ih

theorem sizesTotal_map_length (nalus : List (List UInt8)) :
    sizesTotal (nalus.map List.length) = (startCoded nalus).length := by
  induction nalus with
  | nil => rfl
  | cons nalu nalus ih =>
    rw [sizesTotal, List.map_cons, List.map_cons, List.sum_cons, startCoded_cons,
      List.length_append, List.length_append, ← ih, sizesTotal]
    omega

theorem Sizes.ne_nil {bytes : List UInt8} {sizes : List Nat} (h : Sizes bytes sizes) :
    sizes ≠ [] := by
  cases h <;> exact List.cons_ne_nil _ _

theorem Sizes.two_le_length {bytes : List UInt8} {sizes : List Nat} (h : Sizes bytes sizes) :
    2 ≤ bytes.length := by
  cases h with
  | last n rest => simp
  | cons nalu => rw [List.length_append, length_sized]; omega

theorem Sizes.walk {bytes : List UInt8} {sizes : List Nat} (h : Sizes bytes sizes)
    (pre : List UInt8) :
    ∃ units, stapUnits (pre ++ bytes) pre.length = .ok units ∧ units.map Prod.snd = sizes := by
  induction h generalizing pre with
  | last n rest hn hend =>
    have hsize := subNaluSize_beBytes pre rest hn
    have hlen : (pre ++ (beBytes 2 n ++ rest)).length = pre.length + 2 + rest.length := by
      simp [Nat.add_assoc]
    refine ⟨[(pre.length + 2, n)], ?_, rfl⟩
    rw [stapUnits, if_pos (by omega)]
    simp only [subNaluSize] at hsize
    simp only [hsize]
    rw [if_neg (by omega)]
  | @cons nalu hne hlen bytes sizes hbytes ih =>
    have hsize := subNaluSize_sized pre nalu bytes hlen
    have hpos := List.length_pos_iff.mpr hne
    have hmore := hbytes.two_le_length
    obtain ⟨units, hunits, hmap⟩ := ih (pre ++ sized nalu)
    have hstart : (pre ++ sized nalu).length = pre.length + 2 + nalu.length := by
      rw [List.length_append, length_sized, Nat.add_assoc]
    rw [List.append_assoc, hstart] at hunits
    have hlen' : (pre ++ (sized nalu ++ bytes)).length = pre.length + 2 + nalu.length +
        bytes.length := by
      rw [← List.append_assoc, List.length_append, hstart]
    refine ⟨(pre.length + 2, nalu.length) :: units, ?_, ?_⟩
    · rw [stapUnits, if_pos (by omega)]
      simp only [subNaluSize] at hsize
      simp only [hsize]
      rw [if_pos (by omega), hunits]
    · rw [List.map_cons, hmap]

theorem sizes_of_stapUnits {raw : List UInt8} {p : Nat} {units : List (Nat × Nat)}
    (hunits : stapUnits raw p = .ok units) : Sizes (raw.drop p) (units.map Prod.snd) := by
  induction p using stapUnits.induct raw generalizing units with
  | case1 p hp size hmore e he =>
    rw [stapUnits, if_pos hp] at hunits
    simp only [size] at hmore he
    simp only [if_pos hmore, he] at hunits
    cases hunits
  | case2 p hp size hmore units' hunits' =>
    rename_i ih
    rw [stapUnits, if_pos hp] at hunits
    simp only [size] at hmore hunits'
    simp only [if_pos hmore, hunits'] at hunits
    obtain rfl := Except.ok.inj hunits
    have hle : p + 2 + subNaluSize raw p ≤ raw.length := hmore.2.le
    have hlen : ((raw.drop (p + 2)).take (subNaluSize raw p)).length = subNaluSize raw p := by
      rw [List.length_take, List.length_drop]
      omega
    -- the units behind this one are those of the rest
    have hcons := Sizes.cons ((raw.drop (p + 2)).take (subNaluSize raw p))
      (List.length_pos_iff.mp (by rw [hlen]; exact hmore.1))
      (by rw [hlen]; exact subNaluSize_lt raw p)
      (ih hunits')
    rw [hlen] at hcons
    rw [drop_eq_sized hle]
    exact hcons
  | case3 p hp size =>
    rename_i hmore
    rw [stapUnits, if_pos hp] at hunits
    simp only [size] at hmore
    simp only [if_neg hmore] at hunits
    obtain rfl := Except.ok.inj hunits
    have hlast := Sizes.last (subNaluSize raw p) (raw.drop (p + 2)) (subNaluSize_lt raw p) (by
      rw [List.length_drop]
      by_cases hzero : subNaluSize raw p = 0
      · exact .inl hzero
      · right
        by_contra hlt
        exact hmore ⟨Nat.pos_of_ne_zero hzero, by simp only [subNaluSize] at hlt; omega⟩)
    rw [beBytes_subNaluSize, ← drop_eq_two hp] at hlast
    exact hlast
  | case4 p hp =>
    rw [stapUnits, if_neg hp] at hunits
    cases hunits

namespace DepayRtpPayloadFunc

/-- The payload of H.264 as a whole: the header of a fragment, and the NAL units of an aggregation
packet. Of `STAP-B` the sizes are taken from behind the decoding order number and the bytes from the
number on. -/
def H264Whole (raw : List UInt8) : Prop :=
  match (raw.headD 0 &&& 31).toNat with
  | 28 => 2 ≤ raw.length ∧ (raw.getD 1 0 &&& 0x80 ≠ 0 → raw.length + 3 < 2 ^ 32)
  | 29 => False
  | 24 => ∃ nalus, Aggregate (raw.drop 1) nalus ∧ (startCoded nalus).length < 2 ^ 32
  | 25 => ∃ sizes nalus, Sizes (raw.drop 3) sizes ∧ Aggregate (raw.drop 1) nalus ∧
      sizesTotal sizes = (startCoded nalus).length ∧ (startCoded nalus).length < 2 ^ 32
  | _ => raw.length + 4 < 2 ^ 32

def H265Whole (raw : List UInt8) : Prop :=
  if (raw.headD 0 >>> 1) &&& 0x3F = h265FuTypeId then
    3 ≤ raw.length ∧ (raw.getD 2 0 &&& 0x80 ≠ 0 → raw.length + 3 < 2 ^ 32)
  else raw.length + 4 < 2 ^ 32

def vp8DescriptorBytes (raw : List UInt8) : Nat :=
  if raw.headD 0 &&& 0x80 = 0 then 1
  else
    let control := raw.getD 1 0
    2 + (if control &&& 0x80 = 0 then 0 else if raw.getD 2 0 &&& 0x80 = 0 then 1 else 2) +
      ((if control &&& 0x40 = 0 then 0 else 1) +
        (if control &&& 0x20 = 0 ∧ control &&& 0x10 = 0 then 0 else 1))

/-- The payloads that a depayloader takes apart without leaving its buffers. -/
def Whole : DepayRtpPayloadFunc → List UInt8 → Prop
  | h264, raw => H264Whole raw
  | h265, raw => H265Whole raw
  | vp8, raw => vp8DescriptorBytes raw ≤ raw.length

/-! ### What is written -/

variable {f : DepayRtpPayloadFunc} {raw bytes : List UInt8} {isStart : Bool}

theorem safe_of_depayWrite
    (hdepay : ∀ size, f.depay raw size = depayWrite size bytes.length isStart (.ok bytes))
    (hlengths : ∀ v ∈ f.lengths raw, 0 ≤ v ∧ v < 2 ^ 32) : f.Safe raw where
  inside size := by
    rw [hdepay]
    cases size with
    | none => exact fun h => by cases h
    | some size =>
      rw [depayWrite]
      split_ifs with hle
      · exact fun h => by simp at h
      · exact fun h => by cases h
  fills := by
    refine ⟨⟨bytes.length, isStart, []⟩, ⟨bytes.length % 2 ^ 32, isStart, bytes⟩, ?_, ?_, rfl⟩
    · rw [hdepay]
      rfl
    · rw [hdepay, depayWrite]
      simp
  no_wrap := hlengths

/-- The two calls of a depayloader that is safe both go to their end. -/
theorem Safe.depayWrite (h : f.Safe raw) {n : Nat} {write : Except Failure (List UInt8)}
    (hdepay : ∀ size, f.depay raw size = depayWrite size n isStart write) :
    ∃ bytes, write = .ok bytes ∧ bytes.length = n := by
  obtain ⟨sizes, filled, hsizes, hfilled, hlen⟩ := h.fills
  rw [hdepay] at hsizes hfilled
  obtain rfl := Except.ok.inj hsizes
  simp only [KvsWebrtc.Rtp.depayWrite, le_refl, if_true] at hfilled
  cases write with
  | error e => cases hfilled
  | ok bytes =>
    simp only at hfilled
    split_ifs at hfilled
    obtain rfl := Except.ok.inj hfilled
    exact ⟨bytes, rfl, hlen⟩

/-! ### Aggregation packets -/

theorem mem_stapSums {units : List (Nat × Nat)} (hne : units ≠ []) (sum : Nat) :
    ((sum + stapTotal units : Nat) : Int) ∈ stapSums sum units := by
  induction units generalizing sum with
  | nil => exact absurd rfl hne
  | cons u units ih =>
    rw [stapSums, stapTotal, List.map_cons, List.sum_cons]
    by_cases hnil : units = []
    · rw [hnil]
      exact List.mem_cons_self
    · have hmem := ih hnil (sum + (u.2 + start4ByteCode.length))
      rw [Nat.add_assoc] at hmem
      exact List.mem_cons_of_mem _ hmem

theorem le_of_mem_stapSums {units : List (Nat × Nat)} {sum : Nat} {v : Int}
    (h : v ∈ stapSums sum units) : 0 ≤ v ∧ v ≤ (sum + stapTotal units : Nat) := by
  induction units generalizing sum with
  | nil => cases h
  | cons u units ih =>
    rw [stapTotal, List.map_cons, List.sum_cons, ← stapTotal]
    rcases List.mem_cons.mp h with rfl | h
    · omega
    · have hle := ih h
      omega

theorem stapTotal_eq (units : List (Nat × Nat)) :
    stapTotal units = sizesTotal (units.map Prod.snd) := by
  rw [stapTotal, sizesTotal, List.map_map]
  rfl

/-- An aggregation packet is safe if the sizes are read inside and the NAL units lie inside, from
where each loop starts, and both add up to the same length. -/
theorem safe_stap_iff {a b : Nat}
    (hdepay : ∀ size, f.depay raw size = depayStap raw size a b)
    (hlengths : f.lengths raw = stapLengths raw a ++ stapLengths raw b) :
    f.Safe raw ↔ ∃ sizes nalus, Sizes (raw.drop a) sizes ∧ Aggregate (raw.drop b) nalus ∧
      sizesTotal sizes = (startCoded nalus).length ∧ (startCoded nalus).length < 2 ^ 32 := by
  have hdrop : ∀ {p}, p ≤ raw.length → (raw.take p).length = p := fun hp => by
    rw [List.length_take, Nat.min_eq_left hp]
  constructor
  · intro h
    cases hunits : stapUnits raw a with
    | error e =>
      obtain ⟨sizes, filled, hsizes, -⟩ := h.fills
      rw [hdepay, depayStap, hunits] at hsizes
      cases hsizes
    | ok units =>
      -- the call with a buffer has written as many bytes as the first loop has counted
      have hwrite := h.depayWrite fun size => by rw [hdepay, depayStap, hunits]
      obtain ⟨bytes, hbytes, hlen⟩ := hwrite
      cases hunits' : stapUnits raw b with
      | error e =>
        rw [hunits'] at hbytes
        cases hbytes
      | ok units' =>
        rw [hunits'] at hbytes
        simp only at hbytes
        obtain ⟨nalus, hnalus⟩ := aggregate_of_stapUnits hunits' hbytes
        have hb := hnalus.length_pos
        rw [List.length_drop] at hb
        obtain ⟨units'', hwalk, htotal, hout⟩ := hnalus.walk (raw.take b)
        rw [List.take_append_drop, hdrop (by omega), hunits'] at hwalk
        obtain rfl := Except.ok.inj hwalk
        rw [List.take_append_drop, hbytes] at hout
        obtain rfl := Except.ok.inj hout
        have hne : units ≠ [] := by
          rintro rfl
          exact (sizes_of_stapUnits hunits).ne_nil rfl
        -- the last sum of the first loop is the whole length
        have hlt : ((0 + stapTotal units : Nat) : Int) < 2 ^ 32 := by
          refine (h.no_wrap _ ?_).2
          rw [hlengths, stapLengths, hunits]
          exact List.mem_append_left _ (mem_stapSums hne 0)
        have hlt' : stapTotal units < 2 ^ 32 := by omega
        have hmod : stapLength units = stapTotal units := Nat.mod_eq_of_lt hlt'
        refine ⟨_, nalus, sizes_of_stapUnits hunits, hnalus, ?_, ?_⟩
        · rw [← stapTotal_eq, hlen, hmod]
        · rw [hlen, hmod]
          exact hlt'
  · rintro ⟨sizes, nalus, hsizes, hnalus, heq, hlt⟩
    obtain ⟨units, hunits, hmap⟩ := hsizes.walk (raw.take a)
    obtain ⟨units', hunits', htotal, hwrite⟩ := hnalus.walk (raw.take b)
    have ha := hsizes.two_le_length
    have hb := hnalus.length_pos
    rw [List.length_drop] at ha hb
    rw [List.take_append_drop, hdrop (by omega)] at hunits
    rw [List.take_append_drop, hdrop (by omega)] at hunits'
    rw [List.take_append_drop] at hwrite
    have htotal' : stapTotal units = (startCoded nalus).length := by rw [stapTotal_eq, hmap, heq]
    have hmod : stapLength units = (startCoded nalus).length :=
      (Nat.mod_eq_of_lt (htotal'.trans_lt hlt)).trans htotal'
    refine @safe_of_depayWrite f raw (startCoded nalus) true ?_ ?_
    · intro size
      rw [hdepay, depayStap, hunits]
      simp only [hunits', hwrite, hmod]
    · intro v hv
      rw [hlengths, stapLengths, stapLengths, hunits, hunits', List.mem_append] at hv
      rcases hv with hv | hv
      · have hle := le_of_mem_stapSums hv
        omega
      · have hle := le_of_mem_stapSums hv
        omega

/-! ### H.264 -/

theorem h264Whole_of_stapA (h : (raw.headD 0 &&& 31).toNat = 24) :
    H264Whole raw ↔ ∃ sizes nalus, Sizes (raw.drop 1) sizes ∧ Aggregate (raw.drop 1) nalus ∧
      sizesTotal sizes = (startCoded nalus).length ∧ (startCoded nalus).length < 2 ^ 32 := by
  simp only [H264Whole, h]
  constructor
  · rintro ⟨nalus, hnalus, hlt⟩
    exact ⟨_, nalus, hnalus.sizes, hnalus, sizesTotal_map_length nalus, hlt⟩
  · rintro ⟨sizes, nalus, -, hnalus, -, hlt⟩
    exact ⟨nalus, hnalus, hlt⟩

theorem safe_fuA_iff {indicator : UInt8} {rest : List UInt8} (h : (indicator &&& 31).toNat = 28)
    (hlen : (indicator :: rest).length < 2 ^ 32) :
    h264.Safe (indicator :: rest) ↔ H264Whole (indicator :: rest) := by
  simp only [H264Whole, List.headD_cons, h]
  cases rest with
  | nil =>
    refine ⟨fun hsafe => absurd ?_ (hsafe.inside none), fun hwhole => absurd hwhole.1 (by simp)⟩
    simp only [depay, depayH264FromRtpPayload, h]
  | cons header data =>
    simp only [List.length_cons] at hlen ⊢
    by_cases hstart : header &&& 0x80 ≠ 0
    · have hlengths : h264.lengths (indicator :: header :: data) =
          [((data.length + 1 + 1 : Nat) : Int) - fuAHeaderSize] ++
            startLengths (((data.length + 1 + 1 : Nat) : Int) - fuAHeaderSize + 1) ++
            [((data.length + 1 + 1 : Nat) : Int) - fuAHeaderSize + 1 - 1] := by
        simp only [lengths, h264Lengths, List.headD_cons, h]
        exact if_pos hstart
      constructor
      · intro hsafe
        refine ⟨by omega, fun _ => ?_⟩
        -- the first fragment is the one that grows by a start code
        have hwrap := hsafe.no_wrap (((data.length + 1 + 1 : Nat) : Int) - fuAHeaderSize + 1 + 4)
          (by
          rw [hlengths]
          simp [startLengths, start4ByteCode])
        simp only [fuAHeaderSize] at hwrap
        omega
      · rintro ⟨-, hlt⟩
        have hlt' := hlt hstart
        refine @safe_of_depayWrite h264 _
          (start4ByteCode ++ ((indicator &&& 0x60) ||| (header &&& 0x1F)) :: data) true ?_ ?_
        · intro size
          have hcount : (data.length + 1 + start4ByteCode.length) % 2 ^ 32 =
              (start4ByteCode ++ ((indicator &&& 0x60) ||| (header &&& 0x1F)) :: data).length := by
            rw [List.length_append, List.length_cons, Nat.add_comm]
            exact Nat.mod_eq_of_lt
              (by simp only [start4ByteCode, List.length_cons, List.length_nil]; omega)
          simp only [depay, depayH264FromRtpPayload, h, if_pos hstart, hcount]
        · intro v hv
          rw [hlengths] at hv
          simp only [startLengths, start4ByteCode, fuAHeaderSize, List.mem_append, List.mem_cons,
            List.not_mem_nil, or_false, List.length_cons, List.length_nil] at hv
          omega
    · have hlengths : h264.lengths (indicator :: header :: data) =
          [((data.length + 1 + 1 : Nat) : Int) - fuAHeaderSize] := by
        simp only [lengths, h264Lengths, List.headD_cons, h]
        exact if_neg hstart
      refine ⟨fun _ => ⟨by omega, fun hne => absurd hne hstart⟩, fun _ => ?_⟩
      refine @safe_of_depayWrite h264 _ data false ?_ ?_
      · intro size
        simp only [depay, depayH264FromRtpPayload, h, if_neg hstart]
      · intro v hv
        rw [hlengths, List.mem_singleton, fuAHeaderSize] at hv
        omega

/-- A `FU-B` fragment of one byte makes a length wrap, and of a longer one the bytes behind its end
are copied. -/
theorem not_safe_fuB {indicator : UInt8} {rest : List UInt8} (h : (indicator &&& 31).toNat = 29) :
    ¬ h264.Safe (indicator :: rest) := by
  intro hsafe
  have hdepay : ∀ size, h264.depay (indicator :: rest) size =
      KvsWebrtc.Rtp.depayWrite size rest.length
      false (copyFrom (indicator :: rest) fuBHeaderSize rest.length) := fun size => by
    simp only [depay, depayH264FromRtpPayload, h]
  obtain ⟨bytes, hbytes, -⟩ := hsafe.depayWrite hdepay
  rw [copyFrom] at hbytes
  -- as many bytes as are behind the indicator are copied from behind a header of four, so there are
  -- none
  split_ifs at hbytes with hin
  rw [List.length_cons, fuBHeaderSize] at hin
  have hwrap := hsafe.no_wrap (((rest.length + 1 : Nat) : Int) - fuAHeaderSize) (by
    simp only [lengths, h264Lengths, List.headD_cons, h, List.length_cons]
    exact List.mem_cons_self)
  simp only [fuAHeaderSize] at hwrap
  omega

/-- A payload that is a NAL unit, which is copied behind a start code. -/
theorem safe_single_iff (hdepay : ∀ size, f.depay raw size =
      KvsWebrtc.Rtp.depayWrite size ((raw.length + start4ByteCode.length) % 2 ^ 32) true
        (.ok (start4ByteCode ++ raw)))
    (hmem : ((raw.length : Int) + start4ByteCode.length) ∈ f.lengths raw)
    (hle : ∀ v ∈ f.lengths raw, 0 ≤ v ∧ v ≤ (raw.length : Int) + start4ByteCode.length) :
    f.Safe raw ↔ raw.length + 4 < 2 ^ 32 := by
  have hstart : start4ByteCode.length = 4 := rfl
  constructor
  · intro h
    have hwrap := h.no_wrap _ hmem
    omega
  · intro hlt
    refine @safe_of_depayWrite f raw (start4ByteCode ++ raw) true ?_ ?_
    · intro size
      rw [hdepay, hstart, Nat.mod_eq_of_lt hlt, List.length_append, hstart, Nat.add_comm]
    · intro v hv
      have hbound := hle v hv
      omega

theorem safe_h264_iff {indicator : UInt8} {rest : List UInt8}
    (hlen : (indicator :: rest).length < 2 ^ 32) :
    h264.Safe (indicator :: rest) ↔ H264Whole (indicator :: rest) := by
  by_cases h28 : (indicator &&& 31).toNat = 28
  · exact safe_fuA_iff h28 hlen
  by_cases h29 : (indicator &&& 31).toNat = 29
  · simp only [H264Whole, List.headD_cons, h29]
    exact iff_of_false (not_safe_fuB h29) id
  by_cases h24 : (indicator &&& 31).toNat = 24
  · refine (@safe_stap_iff h264 (indicator :: rest) 1 1 ?_ ?_).trans
      (@h264Whole_of_stapA (indicator :: rest) h24).symm
    · intro size
      simp only [depay, depayH264FromRtpPayload, h24, stapAHeaderSize]
    · simp only [lengths, h264Lengths, List.headD_cons, h24, stapAHeaderSize]
  by_cases h25 : (indicator &&& 31).toNat = 25
  · simp only [H264Whole, List.headD_cons, h25]
    refine @safe_stap_iff h264 (indicator :: rest) 3 1 ?_ ?_
    · intro size
      simp only [depay, depayH264FromRtpPayload, h25, stapAHeaderSize, stapBHeaderSize]
    · simp only [lengths, h264Lengths, List.headD_cons, h25, stapAHeaderSize, stapBHeaderSize]
  · have hlengths : h264.lengths (indicator :: rest) = startLengths ((indicator :: rest).length :
        Int) := by
      simp only [lengths, h264Lengths, List.headD_cons]
    have hwhole : H264Whole (indicator :: rest) ↔ (indicator :: rest).length + 4 < 2 ^ 32 := by
      simp only [H264Whole, List.headD_cons]
    rw [hwhole]
    refine safe_single_iff ?_ ?_ ?_
    · intro size
      simp only [depay, depayH264FromRtpPayload]
    · rw [hlengths]
      simp [startLengths]
    · intro v hv
      rw [hlengths] at hv
      simp only [startLengths, start4ByteCode, List.mem_cons, List.not_mem_nil, or_false] at hv ⊢
      omega

/-! ### H.265 -/

theorem safe_h265Fu_iff {b0 : UInt8} {rest : List UInt8}
    (h : (b0 >>> 1) &&& 0x3F = h265FuTypeId) (hlen : (b0 :: rest).length < 2 ^ 32) :
    h265.Safe (b0 :: rest) ↔
      3 ≤ (b0 :: rest).length ∧
        ((b0 :: rest).getD 2 0 &&& 0x80 ≠ 0 → (b0 :: rest).length + 3 < 2 ^ 32) := by
  rcases rest with _ | ⟨b1, _ | ⟨b2, data⟩⟩
  · refine ⟨fun hsafe => absurd ?_ (hsafe.inside none), fun hwhole => absurd hwhole.1 (by simp)⟩
    simp only [depay, depayH265FromRtpPayload, if_pos h]
  · refine ⟨fun hsafe => absurd ?_ (hsafe.inside none), fun hwhole => absurd hwhole.1 (by simp)⟩
    simp only [depay, depayH265FromRtpPayload, if_pos h]
  · simp only [List.length_cons, List.getD_cons_succ, List.getD_cons_zero] at hlen ⊢
    by_cases hstart : b2 &&& 0x80 ≠ 0
    · have hlengths : h265.lengths (b0 :: b1 :: b2 :: data) =
          [((data.length + 1 + 1 + 1 : Nat) : Int) - h265FuHeaderSize,
            ((data.length + 1 + 1 + 1 : Nat) : Int) - h265FuHeaderSize + 2,
            ((data.length + 1 + 1 + 1 : Nat) : Int) - h265FuHeaderSize + 2 +
            start4ByteCode.length] := by
        simp only [lengths, h265Lengths, List.headD_cons]
        exact (if_pos h).trans (if_pos hstart)
      constructor
      · intro hsafe
        refine ⟨by omega, fun _ => ?_⟩
        have hwrap := hsafe.no_wrap
          (((data.length + 1 + 1 + 1 : Nat) : Int) - h265FuHeaderSize + 2 + start4ByteCode.length)
          (by
            rw [hlengths]
            simp)
        simp only [h265FuHeaderSize, start4ByteCode, List.length_cons, List.length_nil] at hwrap
        omega
      · rintro ⟨-, hlt⟩
        have hlt' := hlt hstart
        refine @safe_of_depayWrite h265 _
          (start4ByteCode ++ (((b2 &&& 0x3F) <<< 1) ||| (b0 &&& 0x81)) :: b1 :: data) true ?_ ?_
        · intro size
          have hcount : (data.length + 2 + start4ByteCode.length) % 2 ^ 32 =
              (start4ByteCode ++ (((b2 &&& 0x3F) <<< 1) |||
              (b0 &&& 0x81)) :: b1 :: data).length := by
            rw [List.length_append, List.length_cons, List.length_cons, Nat.add_comm]
            exact Nat.mod_eq_of_lt
              (by simp only [start4ByteCode, List.length_cons, List.length_nil]; omega)
          simp only [depay, depayH265FromRtpPayload, if_pos h, if_pos hstart, hcount]
        · intro v hv
          rw [hlengths] at hv
          simp only [start4ByteCode, h265FuHeaderSize, List.mem_cons, List.not_mem_nil, or_false,
            List.length_cons, List.length_nil] at hv
          omega
    · have hlengths : h265.lengths (b0 :: b1 :: b2 :: data) =
          [((data.length + 1 + 1 + 1 : Nat) : Int) - h265FuHeaderSize] := by
        simp only [lengths, h265Lengths, List.headD_cons]
        exact (if_pos h).trans (if_neg hstart)
      refine ⟨fun _ => ⟨by omega, fun hne => absurd hne hstart⟩, fun _ => ?_⟩
      refine @safe_of_depayWrite h265 _ data false ?_ ?_
      · intro size
        simp only [depay, depayH265FromRtpPayload, if_pos h, if_neg hstart]
      · intro v hv
        rw [hlengths, List.mem_singleton, h265FuHeaderSize] at hv
        omega

theorem safe_h265_iff {b0 : UInt8} {rest : List UInt8} (hlen : (b0 :: rest).length < 2 ^ 32) :
    h265.Safe (b0 :: rest) ↔ H265Whole (b0 :: rest) := by
  by_cases h : (b0 >>> 1) &&& 0x3F = h265FuTypeId
  · rw [H265Whole, List.headD_cons, if_pos h]
    exact safe_h265Fu_iff h hlen
  · have hlengths : h265.lengths (b0 :: rest) =
        [((b0 :: rest).length : Int), ((b0 :: rest).length : Int) + start4ByteCode.length] := by
      simp only [lengths, h265Lengths, List.headD_cons]
      exact if_neg h
    rw [H265Whole, List.headD_cons, if_neg h]
    refine safe_single_iff ?_ ?_ ?_
    · intro size
      simp only [depay, depayH265FromRtpPayload, if_neg h]
    · rw [hlengths]
      simp
    · intro v hv
      rw [hlengths] at hv
      simp only [start4ByteCode, List.mem_cons, List.not_mem_nil, or_false] at hv ⊢
      omega

/-! ### VP8 -/

theorem vp8DescriptorLength_eq_bytes {n : Nat} (h : vp8DescriptorLength raw = .ok n) :
    n = vp8DescriptorBytes raw := by
  rcases raw with _ | ⟨first, _ | ⟨control, _ | ⟨pictureID, rest⟩⟩⟩
  · cases h
  all_goals
    simp only [vp8DescriptorLength] at h
    simp only [vp8DescriptorBytes, List.headD_cons, List.getD_cons_succ, List.getD_cons_zero]
    split_ifs at h ⊢ <;> simp_all

theorem vp8DescriptorLength_ok (hne : raw ≠ []) (hle : vp8DescriptorBytes raw ≤ raw.length) :
    ∃ n, vp8DescriptorLength raw = .ok n := by
  rcases raw with _ | ⟨first, _ | ⟨control, _ | ⟨pictureID, rest⟩⟩⟩
  · exact absurd rfl hne
  all_goals
    simp only [vp8DescriptorBytes, List.headD_cons, List.getD_cons_succ, List.getD_cons_zero,
      List.length_cons, List.length_nil] at hle
    simp only [vp8DescriptorLength]
    split_ifs at hle ⊢ <;> first | exact ⟨_, rfl⟩ | omega

theorem safe_vp8_iff (hne : raw ≠ []) (hlen : raw.length < 2 ^ 32) :
    vp8.Safe raw ↔ vp8DescriptorBytes raw ≤ raw.length := by
  constructor
  · intro h
    cases hn : vp8DescriptorLength raw with
    | error e =>
      obtain ⟨sizes, filled, hsizes, -⟩ := h.fills
      simp only [depay, depayVP8FromRtpPayload, if_neg hne, hn] at hsizes
      cases hsizes
    | ok n =>
      -- the length without the descriptor would wrap
      have hwrap := h.no_wrap ((raw.length : Int) - n) (by
        simp only [lengths, vp8Lengths, hn]
        exact List.mem_singleton_self _)
      rw [← vp8DescriptorLength_eq_bytes hn]
      omega
  · intro hle
    obtain ⟨n, hn⟩ := vp8DescriptorLength_ok hne hle
    rw [← vp8DescriptorLength_eq_bytes hn] at hle
    have hmod : (raw.length + (2 ^ 32 - n)) % 2 ^ 32 = (raw.drop n).length := by
      rw [List.length_drop]
      omega
    have hcopy : copyFrom raw n (raw.drop n).length = .ok (raw.drop n) := by
      rw [copyFrom, if_pos (.inr (by rw [List.length_drop]; omega)), List.take_length]
    refine @safe_of_depayWrite vp8 raw (raw.drop n) true ?_ ?_
    · intro size
      simp only [depay, depayVP8FromRtpPayload, if_neg hne, hn, hmod, hcopy]
    · intro v hv
      simp only [lengths, vp8Lengths, hn, List.mem_singleton] at hv
      omega

/-! ### All of them -/

/-- **Which payloads are safe**: a depayloader stays inside of its buffers, with lengths that do not
wrap and as many bytes as it has announced, exactly for the whole ones. -/
theorem depay_safe_iff (f : DepayRtpPayloadFunc) (hne : raw ≠ []) (hlen : raw.length < 2 ^ 32) :
    f.Safe raw ↔ f.Whole raw := by
  obtain ⟨b, rest, rfl⟩ := List.exists_cons_of_ne_nil hne
  cases f with
  | h264 => exact safe_h264_iff hlen
  | h265 => exact safe_h265_iff hlen
  | vp8 => exact safe_vp8_iff hne hlen

theorem safe_three : h264.Safe [0x7C, 0x85, 1] ↔ h264.Whole [0x7C, 0x85, 1] :=
  depay_safe_iff h264 (by decide) (by decide)

/-- **A payload of one byte** that is the indicator of a fragment: the byte behind it is read. -/
theorem fuA_indicator_alone : ¬ h264.Safe [0x7C] :=
  fun h => h.inside none (by decide)

end DepayRtpPayloadFunc

end KvsWebrtc.Rtp
