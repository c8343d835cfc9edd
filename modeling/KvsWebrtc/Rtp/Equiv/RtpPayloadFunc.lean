import KvsWebrtc.Rtp.Equiv.RtpH264Payloader
import KvsWebrtc.Rtp.Equiv.RtpH265Payloader
import KvsWebrtc.Rtp.Equiv.RtpVP8Payloader
import KvsWebrtc.Rtp.Codecs

/-!
# The two calls of a packetizer

Both calls of the packetizers for NAL units go through the NAL units that the scanner finds in the
buffer, whatever these are (`nalusOf`), and what they count and write is the list of their payloads.
 So the calls agree if the bytes of the payloads can be counted (`passesAgree_iff`); an empty frame
is the exception of `createPayloadForG711`.
-/

namespace KvsWebrtc.Rtp

/-! ### The NAL units of any buffer -/

/-- The NAL units that the loop of `createPayloadForH264` comes to. -/
def nalusOf (nalus : List UInt8) : Except Failure (List (List UInt8)) :=
  match _h : getNextNaluLength nalus with
  | .error e => .error e
  | .ok (startIndex, nextNaluLength) =>
    let cur := nalus.drop startIndex
    if cur = [] then .ok []
    else
      let rest := cur.drop nextNaluLength
      if rest = [] then .ok [cur.take nextNaluLength]
      else
        match nalusOf rest with
        | .error e => .error e
        | .ok units => .ok (cur.take nextNaluLength :: units)
termination_by nalus.length
decreasing_by
  have := getNextNaluLength_start _h
  rw [List.length_drop, List.length_drop]
  omega

theorem nalusOf_error {nalus : List UInt8} {e : Failure} (h : getNextNaluLength nalus = .error e) :
    nalusOf nalus = .error e := by
  rw [nalusOf]
  split
  · next e' he =>
    rw [h] at he
    rw [Except.error.inj he]
  · next start len hstart => rw [h] at hstart; cases hstart

theorem nalusOf_ok {nalus : List UInt8} {start len : Nat}
    (h : getNextNaluLength nalus = .ok (start, len)) :
    nalusOf nalus =
      if nalus.drop start = [] then .ok []
      else if (nalus.drop start).drop len = [] then .ok [(nalus.drop start).take len]
      else
        match nalusOf ((nalus.drop start).drop len) with
        | .error e => .error e
        | .ok units => .ok ((nalus.drop start).take len :: units) := by
  rw [nalusOf]
  split
  · next e he => rw [h] at he; cases he
  · next start' len' hstart =>
    rw [h] at hstart
    obtain ⟨rfl, rfl⟩ := Prod.mk.inj (Except.ok.inj hstart)
    rfl

/-- How the scanner goes through a buffer to its end. -/
inductive Scans : List UInt8 → List (List UInt8) → Prop
  | nil {nalus start len} (hnext : getNextNaluLength nalus = .ok (start, len))
      (hcur : nalus.drop start = []) : Scans nalus []
  | last {nalus start len} (hnext : getNextNaluLength nalus = .ok (start, len))
      (hcur : nalus.drop start ≠ []) (hrest : (nalus.drop start).drop len = []) :
      Scans nalus [(nalus.drop start).take len]
  | cons {nalus start len units} (hnext : getNextNaluLength nalus = .ok (start, len))
      (hcur : nalus.drop start ≠ []) (hrest : (nalus.drop start).drop len ≠ [])
      (h : Scans ((nalus.drop start).drop len) units) :
      Scans nalus ((nalus.drop start).take len :: units)

/-- The scanner takes at least a byte from a buffer before it looks at the rest. -/
theorem scan_induction {motive : List UInt8 → Prop}
    (h : ∀ nalus, (∀ start len, getNextNaluLength nalus = .ok (start, len) →
      motive ((nalus.drop start).drop len)) → motive nalus) (nalus : List UInt8) :
      motive nalus := by
  induction hn : nalus.length using Nat.strong_induction_on generalizing nalus with
  | _ n ih =>
    refine h nalus fun start len hnext => ih _ ?_ _ rfl
    have hstart := getNextNaluLength_start hnext
    rw [List.length_drop, List.length_drop]
    omega

theorem scans_of_nalusOf {nalus : List UInt8} {units : List (List UInt8)}
    (h : nalusOf nalus = .ok units) : Scans nalus units := by
  induction nalus using scan_induction generalizing units with
  | h nalus ih =>
    cases hnext : getNextNaluLength nalus with
    | error e =>
      rw [nalusOf_error hnext] at h
      cases h
    | ok r =>
      obtain ⟨start, len⟩ := r
      rw [nalusOf_ok hnext] at h
      split_ifs at h with hcur hrest
      · rw [← Except.ok.inj h]
        exact .nil hnext hcur
      · rw [← Except.ok.inj h]
        exact .last hnext hcur hrest
      · cases hunits : nalusOf ((nalus.drop start).drop len) with
        | error e =>
          rw [hunits] at h
          cases h
        | ok rest =>
          rw [hunits] at h
          rw [← Except.ok.inj h]
          exact .cons hnext hcur hrest (ih start len hnext hunits)

def Filled.count (f : Filled) (payloads : List (List UInt8)) : Filled :=
  { f with
    payloadLength := (f.payloadLength + totalLength payloads) % 2 ^ 32
    payloadSubLenSize := (f.payloadSubLenSize + payloads.length) % 2 ^ 32 }

theorem count_empty {ps : List (List UInt8)} (htotal : totalLength ps < 2 ^ 32)
    (hcount : ps.length < 2 ^ 32) :
    Filled.empty.count ps = ⟨totalLength ps, ps.length, [], []⟩ := by
  simp only [Filled.count, Filled.empty, Nat.zero_add, Nat.mod_eq_of_lt htotal,
    Nat.mod_eq_of_lt hcount]

section Nalus

variable {fu : FragmentationUnit} {mtu : Nat}

theorem createPayloads_error {nalus : List UInt8} {e : Failure}
    (h : getNextNaluLength nalus = .error e) (room : Option Room) (f : Filled) :
    createPayloads fu mtu nalus room f = .error e := by
  rw [createPayloads]
  split
  · next e' he =>
    rw [h] at he
    rw [Except.error.inj he]
  · next start len hstart => rw [h] at hstart; cases hstart

theorem createPayloads_ok (hmtu : fu.headerSize < mtu) {nalus : List UInt8} {start len : Nat}
    (h : getNextNaluLength nalus = .ok (start, len)) (room : Option Room) (f : Filled) :
    createPayloads fu mtu nalus room f =
      if nalus.drop start = [] then .ok f
      else
        match addPayloads room Filled.empty
        (naluPayloads fu hmtu ((nalus.drop start).take len)) with
        | .error e => .error e
        | .ok g =>
          if (nalus.drop start).drop len = [] then .ok (f.append g)
          else createPayloads fu mtu ((nalus.drop start).drop len) (room.map (·.sub g))
          (f.append g) := by
  rw [createPayloads]
  split
  · next e he => rw [h] at he; cases he
  · next start' len' hstart =>
    rw [h] at hstart
    obtain ⟨rfl, rfl⟩ := Prod.mk.inj (Except.ok.inj hstart)
    have hfilled := createPayloadFromNaluWith_eq fu hmtu
    simp only [hfilled] <;> rfl

def nalusPayloads (hmtu : fu.headerSize < mtu) (units : List (List UInt8)) : List (List UInt8) :=
  units.flatMap (naluPayloads fu hmtu)

theorem nalusPayloads_cons (hmtu : fu.headerSize < mtu) (nalu : List UInt8)
    (units : List (List UInt8)) :
    nalusPayloads hmtu (nalu :: units) = naluPayloads fu hmtu nalu ++ nalusPayloads hmtu units :=
  List.flatMap_cons

theorem nalusPayloads_singleton (hmtu : fu.headerSize < mtu) (nalu : List UInt8) :
    nalusPayloads hmtu [nalu] = naluPayloads fu hmtu nalu := by
  rw [nalusPayloads_cons]
  exact List.append_nil _

theorem Filled.count_append (f : Filled) (ps qs : List (List UInt8)) :
    (f.append (Filled.empty.count ps)).count qs = f.count (ps ++ qs) := by
  simp only [Filled.count, Filled.append, Filled.empty, totalLength_append, List.length_append,
    Nat.zero_add, Nat.add_mod_mod, Nat.mod_add_mod, Nat.add_assoc, List.append_nil]

theorem Filled.append_count (f : Filled) (ps : List (List UInt8)) :
    f.append (Filled.empty.count ps) = f.count ps := by
  simp only [Filled.count, Filled.append, Filled.empty, Nat.zero_add, Nat.add_mod_mod,
    List.append_nil]

theorem addPayloads_empty (ps : List (List UInt8)) :
    addPayloads none Filled.empty ps = .ok (Filled.empty.count ps) :=
  addPayloads_none ps (by decide) (by decide)

/-- A call without buffers counts the payloads of the NAL units. -/
theorem Scans.sizes (hmtu : fu.headerSize < mtu) {nalus : List UInt8} {units : List (List UInt8)}
    (h : Scans nalus units) {f : Filled} (hlen : f.payloadLength < 2 ^ 32)
    (hcount : f.payloadSubLenSize < 2 ^ 32) :
    createPayloads fu mtu nalus none f = .ok (f.count (nalusPayloads hmtu units)) := by
  induction h generalizing f with
  | nil hnext hcur =>
    rw [createPayloads_ok hmtu hnext, if_pos hcur]
    simp only [nalusPayloads, List.flatMap_nil, Filled.count, totalLength_nil, List.length_nil,
      Nat.add_zero, Nat.mod_eq_of_lt hlen, Nat.mod_eq_of_lt hcount]
  | last hnext hcur hrest =>
    rw [createPayloads_ok hmtu hnext, if_neg hcur, addPayloads_empty]
    simp only [if_pos hrest, nalusPayloads_singleton, Filled.append_count]
  | cons hnext hcur hrest _ ih =>
    rw [createPayloads_ok hmtu hnext, if_neg hcur, addPayloads_empty]
    simp only [if_neg hrest, Option.map_none]
    rw [ih (Nat.mod_lt _ (by decide)) (Nat.mod_lt _ (by decide)), nalusPayloads_cons,
      Filled.count_append]

theorem addPayloads_written {r : Room} {payloads : List (List UInt8)} {f g : Filled}
    (h : addPayloads (some r) f payloads = .ok g) :
    g.payloadBuffer = f.payloadBuffer ++ payloads.flatten ∧
      g.payloadSubLength = f.payloadSubLength ++ payloads.map List.length := by
  induction payloads generalizing f with
  | nil =>
    rw [← Except.ok.inj h]
    simp
  | cons p ps ih =>
    rw [addPayloads] at h
    cases hadd : f.addPayload (some r) p with
    | error e => rw [hadd] at h; cases h
    | ok f' =>
      rw [hadd] at h
      have hf' : f'.payloadBuffer = f.payloadBuffer ++ p ∧
          f'.payloadSubLength = f.payloadSubLength ++ [p.length] := by
        simp only [Filled.addPayload] at hadd
        split_ifs at hadd
        rw [← Except.ok.inj hadd]
        exact ⟨rfl, rfl⟩
      obtain ⟨hbuffer, hsub⟩ := ih h
      rw [hbuffer, hsub, hf'.1, hf'.2]
      simp

theorem Scans.written (hmtu : fu.headerSize < mtu) {nalus : List UInt8} {units : List (List UInt8)}
    (h : Scans nalus units) {r : Room} {f g : Filled}
    (hg : createPayloads fu mtu nalus (some r) f = .ok g) :
    g.payloadBuffer = f.payloadBuffer ++ (nalusPayloads hmtu units).flatten ∧
      g.payloadSubLength = f.payloadSubLength ++ (nalusPayloads hmtu units).map List.length := by
  induction h generalizing r f with
  | nil hnext hcur =>
    rw [createPayloads_ok hmtu hnext, if_pos hcur] at hg
    rw [← Except.ok.inj hg]
    simp [nalusPayloads]
  | @last nalus start len hnext hcur hrest =>
    rw [createPayloads_ok hmtu hnext, if_neg hcur] at hg
    cases hadd : addPayloads (some r) Filled.empty
        (naluPayloads fu hmtu ((nalus.drop start).take len)) with
    | error e => rw [hadd] at hg; cases hg
    | ok f' =>
      simp only [hadd, if_pos hrest] at hg
      obtain ⟨hbuffer, hsub⟩ := addPayloads_written hadd
      rw [← Except.ok.inj hg, nalusPayloads_singleton]
      simp [Filled.append, hbuffer, hsub, Filled.empty]
  | @cons nalus start len units hnext hcur hrest _ ih =>
    rw [createPayloads_ok hmtu hnext, if_neg hcur] at hg
    cases hadd : addPayloads (some r) Filled.empty
        (naluPayloads fu hmtu ((nalus.drop start).take len)) with
    | error e => rw [hadd] at hg; cases hg
    | ok f' =>
      simp only [hadd, if_neg hrest] at hg
      obtain ⟨hbuffer, hsub⟩ := addPayloads_written hadd
      obtain ⟨hbuffer', hsub'⟩ := ih hg
      rw [hbuffer', hsub', nalusPayloads_cons]
      simp [Filled.append, hbuffer, hsub, Filled.empty]

theorem Scans.fills (hmtu : fu.headerSize < mtu) {nalus : List UInt8} {units : List (List UInt8)}
    (h : Scans nalus units) {r : Room} (hr : r.maxPayloadLength < 2 ^ 32)
    (hr' : r.maxPayloadSubLenSize < 2 ^ 32)
    (hroom : totalLength (nalusPayloads hmtu units) ≤ r.maxPayloadLength)
    (hroom' : (nalusPayloads hmtu units).length ≤ r.maxPayloadSubLenSize) (f : Filled) :
    ∃ g, createPayloads fu mtu nalus (some r) f = .ok g := by
  induction h generalizing f r with
  | nil hnext hcur => exact ⟨f, by rw [createPayloads_ok hmtu hnext, if_pos hcur]⟩
  | last hnext hcur hrest =>
    rw [nalusPayloads_singleton] at hroom hroom'
    rw [createPayloads_ok hmtu hnext, if_neg hcur,
      addPayloads_some hr hr' _ rfl rfl (by simpa [Filled.empty] using hroom)
        (by simpa [Filled.empty] using hroom')]
    exact ⟨_, if_pos hrest⟩
  | cons hnext hcur hrest _ ih =>
    rw [nalusPayloads_cons, totalLength_append] at hroom
    rw [nalusPayloads_cons, List.length_append] at hroom'
    rw [createPayloads_ok hmtu hnext, if_neg hcur,
      addPayloads_some hr hr' _ rfl rfl (by simp only [Filled.empty, List.length_nil]; omega)
        (by simp only [Filled.empty, List.length_nil]; omega)]
    simp only [if_neg hrest, Option.map_some]
    refine ih ?_ ?_ ?_ ?_ _ <;> simp only [Room.sub, Filled.empty] <;> omega

/-- If the scanner fails the call without buffers fails in the same way. -/
theorem createPayloads_sizes_error (hmtu : fu.headerSize < mtu) {nalus : List UInt8} {e : Failure}
    (h : nalusOf nalus = .error e) (f : Filled) :
    createPayloads fu mtu nalus none f = .error e := by
  induction nalus using scan_induction generalizing f with
  | h nalus ih =>
    cases hnext : getNextNaluLength nalus with
    | error e' =>
      rw [nalusOf_error hnext] at h
      rw [createPayloads_error hnext, Except.error.inj h]
    | ok r =>
      obtain ⟨start, len⟩ := r
      rw [nalusOf_ok hnext] at h
      rw [createPayloads_ok hmtu hnext]
      split_ifs at h ⊢ with hcur hrest
      rw [addPayloads_empty]
      simp only [Option.map_none]
      refine ih start len hnext ?_ _
      cases hunits : nalusOf ((nalus.drop start).drop len) with
      | error e' =>
        rw [hunits] at h
        exact h
      | ok units =>
        rw [hunits] at h
        cases h

theorem naluPayloads_ne_nil (hmtu : fu.headerSize < mtu) (hfu : fu.naluHeaderSize ≤ fu.headerSize)
    (nalu : List UInt8) : naluPayloads fu hmtu nalu ≠ [] := by
  rw [naluPayloads]
  split_ifs with hle
  · exact List.cons_ne_nil _ _
  · have hdrop : nalu.drop fu.naluHeaderSize ≠ [] := by
      rw [ne_eq, List.drop_eq_nil_iff]
      omega
    rw [fragments, dif_neg hdrop]
    exact List.cons_ne_nil _ _

/-- Without any room a call with buffers fails too. -/
theorem createPayloads_zero (hmtu : fu.headerSize < mtu) (hfu : fu.naluHeaderSize ≤ fu.headerSize)
    {nalus : List UInt8} {s : Status} (h : nalusOf nalus = .error (.status s)) (f : Filled) :
    ∃ s', createPayloads fu mtu nalus (some ⟨0, 0⟩) f = .error (.status s') := by
  cases hnext : getNextNaluLength nalus with
  | error e =>
    rw [nalusOf_error hnext] at h
    rw [createPayloads_error hnext, Except.error.inj h]
    exact ⟨s, rfl⟩
  | ok r =>
    obtain ⟨start, len⟩ := r
    rw [nalusOf_ok hnext] at h
    have hcur : nalus.drop start ≠ [] := by
      intro hcur
      rw [if_pos hcur] at h
      cases h
    rw [createPayloads_ok hmtu hnext, if_neg hcur]
    obtain ⟨p, ps, hp⟩ := List.exists_cons_of_ne_nil
      (naluPayloads_ne_nil hmtu hfu ((nalus.drop start).take len))
    -- the first payload is one too many
    have hcount : ¬ ((Filled.empty.payloadSubLenSize + 1) % 2 ^ 32 ≤ 0 ∧
        (Filled.empty.payloadLength + p.length) % 2 ^ 32 ≤ 0) := by
      simp [Filled.empty]
    simp only [hp, addPayloads, Filled.addPayload, if_neg hcount]
    exact ⟨_, rfl⟩

theorem length_fragments_le (nalu : List UInt8) {maxPayloadSize : Nat} (hmax : 0 < maxPayloadSize)
    (remaining : List UInt8) :
    (fragments fu nalu maxPayloadSize hmax remaining).length ≤ remaining.length := by
  induction remaining using fragments.induct maxPayloadSize hmax with
  | case1 => simp [fragments]
  | case2 remaining hne size ih =>
    have hpos := List.length_pos_iff.mpr hne
    rw [List.length_drop] at ih
    rw [fragments, dif_neg hne, List.length_cons]
    show (fragments fu nalu maxPayloadSize hmax (remaining.drop size)).length + 1 ≤ _
    have hsize : 0 < size := Nat.lt_min.mpr ⟨hmax, hpos⟩
    omega

theorem length_naluPayloads_le (hmtu : fu.headerSize < mtu) (nalu : List UInt8) :
    (naluPayloads fu hmtu nalu).length ≤ nalu.length + 1 := by
  rw [naluPayloads]
  split_ifs with hle
  · simp
  · have hfragments := @length_fragments_le fu nalu _ (room_pos hmtu) (nalu.drop fu.naluHeaderSize)
    rw [List.length_drop] at hfragments
    omega

/-- There are no more payloads than bytes in the buffer, as every NAL unit has a start code. -/
theorem Scans.length_le (hmtu : fu.headerSize < mtu) {nalus : List UInt8}
    {units : List (List UInt8)} (h : Scans nalus units) :
    (nalusPayloads hmtu units).length ≤ nalus.length := by
  induction h with
  | nil hnext hcur => exact Nat.zero_le _
  | @last nalus start len hnext hcur hrest =>
    have hstart := getNextNaluLength_start hnext
    have hle := length_naluPayloads_le hmtu ((nalus.drop start).take len)
    rw [ne_eq, List.drop_eq_nil_iff] at hcur
    rw [List.length_take, List.length_drop] at hle
    rw [nalusPayloads_singleton]
    omega
  | @cons nalus start len units hnext hcur hrest _ ih =>
    have hstart := getNextNaluLength_start hnext
    have hle := length_naluPayloads_le hmtu ((nalus.drop start).take len)
    rw [ne_eq, List.drop_eq_nil_iff] at hcur
    rw [List.length_take, List.length_drop] at hle
    rw [List.length_drop, List.length_drop] at ih
    rw [nalusPayloads_cons, List.length_append]
    omega

theorem totalLength_nalusPayloads (hmtu : fu.headerSize < mtu)
    (hheader : ∀ nalu flag, (fu.header nalu flag).length = fu.headerSize)
    (units : List (List UInt8)) :
    totalLength (nalusPayloads hmtu units) = (units.map (payloadSize fu mtu)).sum := by
  induction units with
  | nil => rfl
  | cons nalu units ih =>
    rw [nalusPayloads_cons, totalLength_append, ih, List.map_cons, List.sum_cons, naluPayloads,
      payloadSize]
    split_ifs with hle
    · simp
    · rw [totalLength_fragments (hheader nalu), List.length_drop]

/-- The scanner fails with a status, or the payloads of the NAL units that it finds have fewer than
2^32 bytes. -/
def NalusFit (fu : FragmentationUnit) (mtu : Nat) (nalus : List UInt8) : Prop :=
  match nalusOf nalus with
  | .error (.status _) => True
  | .error .outOfBounds => False
  | .ok units => (units.map (payloadSize fu mtu)).sum < 2 ^ 32

theorem passesAgree_nalus {codec : RtcCodec} {nalus : List UInt8}
    (hfunc : ∀ fuel room, codec.rtpPayloadFunc fuel mtu nalus room =
      some (createPayloadForWith fu mtu nalus room))
    (hreported : ∀ room f, codec.reported room f = (room.maxPayloadLength,
      room.maxPayloadSubLenSize))
    (hmtu : fu.headerSize < mtu) (hfu : fu.naluHeaderSize ≤ fu.headerSize)
    (hheader : ∀ nalu flag, (fu.header nalu flag).length = fu.headerSize)
    (hlen : nalus.length < 2 ^ 32) : PassesAgree codec mtu nalus ↔ NalusFit fu mtu nalus := by
  simp only [PassesAgree, NalusFit, hfunc, hreported, createPayloadForWith, if_pos hmtu,
    Option.some.injEq, true_and]
  cases hunits : nalusOf nalus with
  | error e =>
    have hsizes := createPayloads_sizes_error hmtu hunits Filled.empty
    cases e with
    | status s =>
      -- both calls fail, the second one for want of room
      obtain ⟨s', hs'⟩ := createPayloads_zero hmtu hfu hunits Filled.empty
      exact ⟨fun _ => trivial, fun _ => ⟨0, .inl ⟨s, s', hsizes, hs'⟩⟩⟩
    | outOfBounds =>
      simp [hsizes]
  | ok units =>
    have hscans := scans_of_nalusOf hunits
    have hsizes := hscans.sizes hmtu (f := Filled.empty) (by decide) (by decide)
    have hcount := lt_of_le_of_lt (hscans.length_le hmtu) hlen
    simp only [← totalLength_nalusPayloads hmtu hheader, hsizes, reduceCtorEq, false_and,
      exists_false, false_or, Except.ok.injEq]
    constructor
    · -- all bytes are written, so the number that is counted has not wrapped
      rintro ⟨-, sizes, f, rfl, hf, -, hbuffer, -⟩
      rw [(hscans.written hmtu hf).1] at hbuffer
      simp only [Filled.empty, Filled.count, List.nil_append, length_flatten_eq,
        Nat.zero_add] at hbuffer
      rw [hbuffer]
      exact Nat.mod_lt _ (by decide)
    · intro htotal
      obtain ⟨g, hg⟩ := hscans.fills hmtu
        (r := ⟨totalLength (nalusPayloads hmtu units), (nalusPayloads hmtu units).length⟩) htotal
        hcount
        le_rfl le_rfl Filled.empty
      obtain ⟨hbuffer, hsub⟩ := hscans.written hmtu hg
      refine ⟨0, _, g, count_empty htotal hcount, hg, ?_, ?_, ?_⟩
      · rw [hsub]
        rfl
      · rw [hbuffer]
        exact length_flatten_eq _
      · rw [hsub]
        exact List.length_map _

end Nalus

/-! ### The packetizers for frames -/

theorem passesAgree_vp8 {mtu : Nat} (hmtu : vp8Fu.headerSize < mtu) (hmtu' : mtu < 2 ^ 32)
    {data : List UInt8} (hlen : data.length < 2 ^ 32) :
    PassesAgree .vp8 mtu data ↔ totalLength (vp8Payloads hmtu data) < 2 ^ 32 := by
  have hcount := length_vp8Payloads_le hmtu data
  have hsizes : writePayloads none Filled.empty (vp8Payloads hmtu data) =
      .ok (Filled.empty.count (vp8Payloads hmtu data)) := by
    rw [writePayloads_none]
    exact addPayloads_empty _
  constructor
  · rintro ⟨fuel, ⟨s, s', hs, -⟩ | ⟨sizes, f, hfirst, hsecond, -, -, hbuffer, -⟩⟩
    · -- the first call does not fail
      have hunique := createPayloadForVP8_unique hmtu hmtu' hlen hs
      rw [hsizes] at hunique
      cases hunique
    · have hunique := createPayloadForVP8_unique hmtu hmtu' hlen hfirst
      rw [hsizes] at hunique
      obtain rfl := Except.ok.inj hunique
      have hwritten := createPayloadForVP8_unique hmtu hmtu' hlen hsecond
      rw [writePayloads_some _ (by decide) (by decide) (Nat.zero_le _) (Nat.zero_le _)] at hwritten
      split_ifs at hwritten
      rw [Except.ok.inj hwritten] at hbuffer
      simp only [Filled.empty, Filled.count, List.nil_append, length_flatten_eq,
        Nat.zero_add] at hbuffer
      rw [hbuffer]
      exact Nat.mod_lt _ (by decide)
  · intro htotal
    have hroom := count_empty htotal (lt_of_le_of_lt hcount htotal)
    have hfilled := writePayloads_some (vp8Payloads hmtu data) (f := Filled.empty)
      (r := ⟨totalLength (vp8Payloads hmtu data), (vp8Payloads hmtu data).length⟩) (by decide)
      (by decide) (Nat.zero_le _) (Nat.zero_le _)
    simp only [Filled.empty, List.length_nil, Nat.zero_add, le_refl, and_self, if_true,
      List.nil_append, Nat.mod_eq_of_lt htotal, Nat.mod_eq_of_lt
      (lt_of_le_of_lt hcount htotal)] at hfilled
    have heq := fun room => createPayloadForVP8_eq hmtu hmtu' hlen room
      (Nat.lt_succ_self data.length)
    have hfirst := heq none
    rw [hsizes, hroom] at hfirst
    have hsecond := heq (some ⟨totalLength (vp8Payloads hmtu data), (vp8Payloads hmtu data).length⟩)
    simp only [Filled.empty, hfilled] at hsecond
    exact ⟨data.length + 1, .inr ⟨_, _, hfirst, hsecond, rfl, rfl, length_flatten_eq _,
      List.length_map _⟩⟩

/-- The lengths of a frame that is not empty: as many as have been counted, and they add up. -/
theorem g711SubLengths_spec {mtu : Nat} (hmtu : 0 < mtu) {n : Nat} (hn : 0 < n) :
    (g711SubLengths mtu n).sum = n ∧
      (g711SubLengths mtu n).length = n / mtu + if n % mtu = 0 then 0 else 1 := by
  induction n using Nat.strong_induction_on with
  | _ n ih =>
    rw [g711SubLengths]
    by_cases hlt : mtu < n
    · obtain ⟨hsum, hcount⟩ := ih (n - mtu) (by omega) (by omega)
      rw [if_pos ⟨hlt, hmtu⟩, List.sum_cons, List.length_cons, hsum, hcount,
        Nat.div_eq_sub_div hmtu hlt.le, Nat.mod_eq_sub_mod hlt.le]
      omega
    · rw [if_neg (by omega), List.sum_singleton, List.length_singleton]
      refine ⟨rfl, ?_⟩
      obtain rfl | hlt' := Nat.eq_or_lt_of_le (Nat.not_lt.mp hlt)
      · rw [Nat.div_self hmtu, Nat.mod_self, if_pos rfl]
      · rw [Nat.div_eq_of_lt hlt', Nat.mod_eq_of_lt hlt', if_neg (by omega)]

theorem passesAgree_g711 {mtu : Nat} (hmtu : 0 < mtu) {frame : List UInt8} :
    PassesAgree .g711 mtu frame ↔ frame ≠ [] := by
  constructor
  · rintro ⟨fuel, ⟨s, s', hs, -⟩ | ⟨sizes, f, hfirst, hsecond, -⟩⟩ rfl
    · cases hs
    · -- a length is written although none has been counted
      obtain rfl := Except.ok.inj (Option.some.inj hfirst)
      simp [RtcCodec.rtpPayloadFunc, createPayloadForG711, g711SubLengths] at hsecond
  · intro hne
    obtain ⟨hsum, hcount⟩ := g711SubLengths_spec hmtu (List.length_pos_iff.mpr hne)
    refine ⟨0, .inr ⟨_, ⟨frame.length, _, frame, g711SubLengths mtu frame.length⟩, rfl, ?_, rfl,
      hsum, rfl, hcount⟩⟩
    simp only [RtcCodec.rtpPayloadFunc, createPayloadForG711, hcount, le_refl, and_self, if_true]

theorem passesAgree_opus (mtu : Nat) (frame : List UInt8) : PassesAgree .opus mtu frame := by
  refine ⟨0, .inr ⟨_, ⟨frame.length, 1, frame, [frame.length]⟩, rfl, ?_, rfl, List.sum_singleton,
    rfl, rfl⟩⟩
  simp only [RtcCodec.rtpPayloadFunc, createPayloadForOpus, le_refl, and_self, if_true]

/-! ### All of them -/

/-- The frames whose payloads can be counted; with `createPayloadForG711`, the ones that are not
empty. -/
def RtcCodec.Fits (codec : RtcCodec) (mtu : Nat) (frameData : List UInt8) : Prop :=
  match codec with
  | .h264 => NalusFit fuA mtu frameData
  | .h265 => NalusFit h265Fu mtu frameData
  | .vp8 => frameData.length + (frameData.length + (mtu - 1) - 1) / (mtu - 1) < 2 ^ 32
  | .g711 => frameData ≠ []
  | .opus => True

/-- **The two calls of a packetizer agree** exactly for the frames that fit. -/
theorem passesAgree_iff (codec : RtcCodec) {mtu : Nat} (hmtu : codec.headerSize < mtu)
    (hmtu' : mtu < 2 ^ 32) {frameData : List UInt8} (hlen : frameData.length < 2 ^ 32) :
    PassesAgree codec mtu frameData ↔ codec.Fits mtu frameData := by
  cases codec with
  | h264 =>
    exact passesAgree_nalus (fun _ _ => rfl) (fun _ _ => rfl) hmtu
      (by decide) fuA_lawful.length_header
      hlen
  | h265 =>
    exact passesAgree_nalus (fun _ _ => rfl) (fun _ _ => rfl) hmtu (by decide)
      h265Fu_lawful.length_header hlen
  | vp8 =>
    have hheader : vp8Fu.headerSize < mtu := hmtu
    rw [passesAgree_vp8 hheader hmtu' hlen, totalLength_vp8Payloads]
    rfl
  | g711 => exact passesAgree_g711 hmtu
  | opus => exact ⟨fun _ => trivial, fun _ => passesAgree_opus mtu frameData⟩

theorem passesAgree_two : PassesAgree .g711 2 [1, 2, 3] ↔ RtcCodec.Fits .g711 2 [1, 2, 3] :=
  passesAgree_iff .g711 (by decide) (by decide) (by decide)

/-- **An empty frame**: `createPayloadForG711` counts no payload, and writes a length. -/
theorem empty_frame_writes_length : ¬ PassesAgree .g711 1200 [] :=
  fun h => (passesAgree_g711 (by decide)).mp h rfl

end KvsWebrtc.Rtp
