import KvsWebrtc.Rtp.Payloader
import Mathlib.Tactic.Ring
import Mathlib.Tactic.Linarith

/-!
# Correctness of the packetization

* `getNextNaluLength_startCode`: the scanner finds the first NAL unit of a stream.
* `createPayloadFromNaluWith_eq`: the payloads of a NAL unit are those of `naluPayloads`, counted
  modulo 2^32 and written one after the other.
* `LawfulCodec.roundTrips`: for a codec whose depayloader undoes its fragments, the payloads of a
  stream give its NAL units back.
-/

namespace KvsWebrtc.Rtp

/-! ### The scanner -/

def EndsStartCode (nalus : List UInt8) (p : Nat) : Prop :=
  nalus[p]? = some 1 ∧ nalus[p - 1]? = some 0 ∧ nalus[p - 2]? = some 0

/-- The scan ends at the first start code, if there is one. -/
theorem findStartCode_found {nalus : List UInt8} {e : Nat} (hlen : nalus.length < 2 ^ 32)
    (he : EndsStartCode nalus e) :
    ∀ {p : Nat}, p ≤ e → (∀ q, p ≤ q → q < e → ¬ EndsStartCode nalus q) →
      findStartCode nalus p = .ok (e, if nalus[e - 3]? = some 0 then 3 else 2) := by
  have helt : e < nalus.length := (List.getElem?_eq_some_iff.mp he.1).1
  intro p
  induction hn : e - p using Nat.strong_induction_on generalizing p with
  | _ n ih =>
    intro hpe hno
    have hmod : p % 2 ^ 32 = p := Nat.mod_eq_of_lt (by omega)
    rw [findStartCode, hmod, if_pos (by omega)]
    rcases Nat.lt_or_eq_of_le hpe with hlt | rfl
    · obtain ⟨b, hb⟩ : ∃ b, nalus[p]? = some b := ⟨_, List.getElem?_eq_getElem (by omega)⟩
      have hnot := hno p le_rfl hlt
      split
      · next hnone => rw [hb] at hnone; cases hnone
      · next b' hb' =>
        obtain rfl : b = b' := Option.some.inj (hb.symm.trans hb')
        by_cases hzero : b = 0
        · rw [if_pos hzero]
          exact ih (e - (p + 1)) (by omega) rfl hlt fun q hq => hno q (by omega)
        · rw [if_neg hzero, if_neg]
          · -- `p` is neither of the zeros of the code at `e`
            have h1 : p ≠ e - 1 := by
              rintro rfl
              exact hzero (Option.some.inj (hb.symm.trans he.2.1))
            have h2 : p ≠ e - 2 := by
              rintro rfl
              exact hzero (Option.some.inj (hb.symm.trans he.2.2))
            exact ih (e - (p + 3)) (by omega) rfl (by omega) fun q hq => hno q (by omega)
          · rintro ⟨rfl, hprev⟩
            exact hnot ⟨hb, hprev⟩
    · split
      · next hnone => rw [he.1] at hnone; cases hnone
      · next b hb =>
        obtain rfl : 1 = b := Option.some.inj (he.1.symm.trans hb)
        rw [if_neg (by decide), if_pos ⟨rfl, he.2⟩]

/-- Without a start code the scan runs to the end, and at most two bytes past it. -/
theorem findStartCode_end {nalus : List UInt8} (hlen : nalus.length + 2 < 2 ^ 32) :
    ∀ {p : Nat}, p ≤ nalus.length + 2 → (∀ q, p ≤ q → ¬ EndsStartCode nalus q) →
      ∃ last, nalus.length ≤ last ∧ findStartCode nalus p = .ok (last, 0) := by
  intro p
  induction hn : nalus.length + 2 - p using Nat.strong_induction_on generalizing p with
  | _ n ih =>
    intro hp hno
    have hmod : p % 2 ^ 32 = p := Nat.mod_eq_of_lt (by omega)
    rw [findStartCode, hmod]
    by_cases hlt : p < nalus.length
    · rw [if_pos hlt]
      split
      · next hnone => rw [List.getElem?_eq_getElem hlt] at hnone; cases hnone
      · next b hb =>
        by_cases hzero : b = 0
        · rw [if_pos hzero]
          exact ih _ (by omega) rfl (by omega) fun q hq => hno q (by omega)
        · rw [if_neg hzero, if_neg]
          · exact ih _ (by omega) rfl (by omega) fun q hq => hno q (by omega)
          · rintro ⟨rfl, hprev⟩
            exact hno p le_rfl ⟨hb, hprev⟩
    · rw [if_neg hlt]
      exact ⟨p, by omega, rfl⟩

theorem isInfix_of_getElem? {nalu : List UInt8} {k : Nat} {a b c : UInt8} (ha : nalu[k]? = some a)
    (hb : nalu[k + 1]? = some b) (hc : nalu[k + 2]? = some c) : [a, b, c] <:+: nalu := by
  obtain ⟨hk, rfl⟩ := List.getElem?_eq_some_iff.mp ha
  obtain ⟨hk1, rfl⟩ := List.getElem?_eq_some_iff.mp hb
  obtain ⟨hk2, rfl⟩ := List.getElem?_eq_some_iff.mp hc
  refine ⟨nalu.take k, nalu.drop (k + 3), ?_⟩
  have hdrop : nalu.drop k = nalu[k] :: nalu[k + 1] :: nalu[k + 2] :: nalu.drop (k + 3) := by
    rw [List.drop_eq_getElem_cons hk, List.drop_eq_getElem_cons hk1, List.drop_eq_getElem_cons hk2]
  calc nalu.take k ++ [nalu[k], nalu[k + 1], nalu[k + 2]] ++ nalu.drop (k + 3)
      = nalu.take k ++ nalu.drop k := by rw [hdrop, List.append_assoc]; rfl
    _ = nalu := List.take_append_drop k nalu

/-- After a start code no other one ends in the NAL unit, nor where what follows has no `1`. -/
theorem not_endsStartCode {zeros nalu post : List UInt8} (hnalu : IsNalu nalu) {q : Nat}
    (hq : zeros.length + 1 ≤ q)
    (hpost : ∀ i, q = zeros.length + 1 + nalu.length + i → post[i]? ≠ some 1) :
    ¬ EndsStartCode (zeros ++ 1 :: (nalu ++ post)) q := by
  rintro ⟨h0, h1, h2⟩
  obtain ⟨i, rfl⟩ : ∃ i, q = zeros.length + (i + 1) := ⟨q - zeros.length - 1, by omega⟩
  rw [List.getElem?_append_right (by omega), Nat.add_sub_cancel_left, List.getElem?_cons_succ] at h0
  by_cases hin : i < nalu.length
  · rw [List.getElem?_append_left hin] at h0
    match i with
    | 0 =>
      -- the byte before is the `1` of the start code
      rw [show zeros.length + (0 + 1) - 1 = zeros.length by omega,
        List.getElem?_append_right le_rfl, Nat.sub_self, List.getElem?_cons_zero] at h1
      exact absurd (Option.some.inj h1) (by decide)
    | 1 =>
      rw [show zeros.length + (1 + 1) - 2 = zeros.length by omega,
        List.getElem?_append_right le_rfl, Nat.sub_self, List.getElem?_cons_zero] at h2
      exact absurd (Option.some.inj h2) (by decide)
    | i + 2 =>
      rw [show zeros.length + (i + 2 + 1) - 1 = zeros.length + (i + 1 + 1) by omega,
        List.getElem?_append_right (by omega), Nat.add_sub_cancel_left, List.getElem?_cons_succ,
        List.getElem?_append_left (by omega)] at h1
      rw [show zeros.length + (i + 2 + 1) - 2 = zeros.length + (i + 1) by omega,
        List.getElem?_append_right (by omega), Nat.add_sub_cancel_left, List.getElem?_cons_succ,
        List.getElem?_append_left (by omega)] at h2
      exact hnalu.no_startCode (isInfix_of_getElem? h2 h1 h0)
  · rw [List.getElem?_append_right (by omega)] at h0
    exact hpost (i - nalu.length) (by omega) h0

def zerosOf (fourBytes : Bool) : Nat := if fourBytes then 3 else 2

theorem startCode_eq (fourBytes : Bool) :
    startCode fourBytes = List.replicate (zerosOf fourBytes) 0 ++ [1] := by
  cases fourBytes <;> rfl

@[simp] theorem length_startCode (fourBytes : Bool) :
    (startCode fourBytes).length = zerosOf fourBytes + 1 := by
  cases fourBytes <;> rfl

theorem leadingZeros_startCode (fourBytes : Bool) (rest : List UInt8) :
    leadingZeros (startCode fourBytes ++ rest) = zerosOf fourBytes := by
  cases fourBytes <;> rfl

theorem startCode_zerosOf (fourBytes : Bool) (rest : List UInt8) :
    (startCode fourBytes ++ rest)[zerosOf fourBytes]? = some 1 := by
  cases fourBytes <;> rfl

theorem startCode_append (fourBytes : Bool) (rest : List UInt8) :
    startCode fourBytes ++ rest = List.replicate (zerosOf fourBytes) 0 ++ 1 :: rest := by
  rw [startCode_eq, List.append_assoc]
  rfl

theorem getElem?_after (fourBytes : Bool) (nalu post : List UInt8) (i : Nat) :
    (startCode fourBytes ++ (nalu ++ post))[zerosOf fourBytes + 1 + nalu.length + i]? =
      post[i]? := by
  rw [← List.append_assoc, List.getElem?_append_right, List.length_append, length_startCode,
    Nat.add_sub_cancel_left]
  rw [List.length_append, length_startCode]
  omega

/-- The start code after a NAL unit ends the scan, and its zeros are counted right: the byte before
a three-byte code is the last one of the NAL unit. -/
theorem findStartCode_next {fourBytes b : Bool} {nalu rest : List UInt8} (hnalu : IsNalu nalu)
    (hlen : (startCode fourBytes ++ (nalu ++ (startCode b ++ rest))).length < 2 ^ 32) :
    findStartCode (startCode fourBytes ++ (nalu ++ (startCode b ++ rest))) (zerosOf fourBytes + 1) =
      .ok (zerosOf fourBytes + 1 + nalu.length + zerosOf b, zerosOf b) := by
  have hat := getElem?_after fourBytes nalu (startCode b ++ rest)
  have hz : zerosOf b = 2 ∨ zerosOf b = 3 := by cases b <;> simp [zerosOf]
  have hends : EndsStartCode (startCode fourBytes ++ (nalu ++ (startCode b ++ rest)))
      (zerosOf fourBytes + 1 + nalu.length + zerosOf b) := by
    refine ⟨?_, ?_, ?_⟩
    · rw [hat, startCode_zerosOf]
    · rw [Nat.add_sub_assoc (by omega), hat]
      cases b <;> rfl
    · rw [Nat.add_sub_assoc (by omega), hat]
      cases b <;> rfl
  rw [findStartCode_found hlen hends (by omega)]
  · congr 2
    cases b with
    | true =>
      rw [Nat.add_sub_assoc (by decide), hat]
      exact if_pos rfl
    | false =>
      rw [if_neg]
      · rfl
      · intro hlast
        apply hnalu.getLast?_ne
        rw [List.getLast?_eq_getElem?]
        have hpos := List.length_pos_iff.mpr hnalu.ne_nil
        have htwo : zerosOf false = 2 := rfl
        rw [htwo, List.getElem?_append_right (by rw [length_startCode]; omega), length_startCode,
          List.getElem?_append_left (by omega)] at hlast
        rw [← hlast]
        congr 1
        omega
  · intro q hq hqe
    rw [startCode_append]
    apply not_endsStartCode hnalu
    · rw [List.length_replicate]
      exact hq
    · intro i hi hone
      rw [List.length_replicate] at hi
      rw [startCode_append, List.getElem?_append_left (by rw [List.length_replicate]; omega),
        List.getElem?_replicate, if_pos (by omega)] at hone
      exact absurd (Option.some.inj hone) (by decide)

/-- **The scanner** finds the first NAL unit of a stream. -/
theorem getNextNaluLength_startCode {fourBytes : Bool} {nalu rest : List UInt8}
    (hnalu : IsNalu nalu) (hlen : (startCode fourBytes ++ (nalu ++ rest)).length + 2 < 2 ^ 32)
    (hrest : rest = [] ∨ ∃ b rest', rest = startCode b ++ rest') :
    getNextNaluLength (startCode fourBytes ++ (nalu ++ rest)) =
      .ok ((startCode fourBytes).length, nalu.length) := by
  have hz : zerosOf fourBytes = 2 ∨ zerosOf fourBytes = 3 := by cases fourBytes <;> simp [zerosOf]
  have hlength : (startCode fourBytes ++ (nalu ++ rest)).length =
      zerosOf fourBytes + 1 + (nalu.length + rest.length) := by simp
  simp only [getNextNaluLength, leadingZeros_startCode]
  rw [if_pos ⟨by omega, by omega, by omega, startCode_zerosOf _ _⟩]
  rcases hrest with rfl | ⟨b, rest', rfl⟩
  · obtain ⟨last, hge, hfind⟩ := findStartCode_end hlen
      (p := zerosOf fourBytes + 1) (by omega) (by
        intro q hq
        rw [startCode_append]
        apply not_endsStartCode hnalu
        · rwa [List.length_replicate]
        · intro i _ hone
          cases hone)
    simp only [hfind, length_startCode, Except.ok.injEq, Prod.mk.injEq, true_and]
    rw [List.length_nil] at hlength
    omega
  · rw [findStartCode_next hnalu (by omega)]
    simp only [length_startCode, Except.ok.injEq, Prod.mk.injEq, true_and]
    rw [hlength, List.length_append, length_startCode]
    omega

/-! ### The payloads of one NAL unit -/

/-- The payloads of a list, counted and written one after the other. -/
def addPayloads (room : Option Room) (f : Filled) : List (List UInt8) → Except Failure Filled
  | [] => .ok f
  | payload :: payloads =>
    match f.addPayload room payload with
    | .error e => .error e
    | .ok f' => addPayloads room f' payloads

def fragments (fu : FragmentationUnit) (nalu : List UInt8) (maxPayloadSize : Nat)
    (hmax : 0 < maxPayloadSize) (remaining : List UInt8) : List (List UInt8) :=
  if _h : remaining = [] then []
  else
    let size := min maxPayloadSize remaining.length
    (fu.header nalu (fragmentFlag (nalu.length - fu.naluHeaderSize) remaining.length size) ++
      remaining.take size) :: fragments fu nalu maxPayloadSize hmax (remaining.drop size)
termination_by remaining.length
decreasing_by
  have := List.length_pos_iff.mpr _h
  rw [List.length_drop]
  omega

/-- There is room for bytes behind the header of a fragment. -/
theorem room_pos {fu : FragmentationUnit} {mtu : Nat} (hmtu : fu.headerSize < mtu) :
    0 < mtu - fu.headerSize :=
  Nat.sub_pos_of_lt hmtu

def naluPayloads (fu : FragmentationUnit) {mtu : Nat} (hmtu : fu.headerSize < mtu)
    (nalu : List UInt8) : List (List UInt8) :=
  if nalu.length ≤ mtu then [nalu]
  else fragments fu nalu (mtu - fu.headerSize) (room_pos hmtu) (nalu.drop fu.naluHeaderSize)

theorem createFragments_eq (fu : FragmentationUnit) (nalu : List UInt8) (room : Option Room)
    {maxPayloadSize : Nat} (hmax : 0 < maxPayloadSize) (remaining : List UInt8) (f : Filled) :
    createFragments fu nalu room maxPayloadSize hmax remaining f =
      addPayloads room f (fragments fu nalu maxPayloadSize hmax remaining) := by
  induction remaining, f using createFragments.induct fu nalu room maxPayloadSize hmax with
  | case1 f => simp [createFragments, fragments, addPayloads]
  | case2 remaining f hne size flag e he =>
    rw [createFragments, fragments, dif_neg hne, dif_neg hne, addPayloads]
    show (match f.addPayload room (fu.header nalu flag ++ remaining.take size) with
      | .error e => Except.error e
      | .ok f' => createFragments fu nalu room maxPayloadSize hmax (remaining.drop size) f') = _
    rw [he]
  | case3 remaining f hne size flag f' hf' ih =>
    rw [createFragments, fragments, dif_neg hne, dif_neg hne, addPayloads]
    show (match f.addPayload room (fu.header nalu flag ++ remaining.take size) with
      | .error e => Except.error e
      | .ok f' => createFragments fu nalu room maxPayloadSize hmax (remaining.drop size) f') = _
    rw [hf']
    exact ih

theorem createPayloadFromNaluWith_eq (fu : FragmentationUnit) {mtu : Nat}
    (hmtu : fu.headerSize < mtu) (nalu : List UInt8) (room : Option Room) :
    createPayloadFromNaluWith fu mtu nalu room =
      addPayloads room Filled.empty (naluPayloads fu hmtu nalu) := by
  rw [createPayloadFromNaluWith, dif_pos hmtu, naluPayloads]
  split_ifs with hle
  · rw [addPayloads]
    cases Filled.empty.addPayload room nalu with
    | error e => rfl
    | ok f => rfl
  · exact createFragments_eq fu nalu room _ _ _

def totalLength (payloads : List (List UInt8)) : Nat := (payloads.map List.length).sum

@[simp] theorem totalLength_nil : totalLength [] = 0 := rfl

@[simp] theorem totalLength_cons (p : List UInt8) (ps : List (List UInt8)) :
    totalLength (p :: ps) = p.length + totalLength ps := List.sum_cons

@[simp] theorem totalLength_append (ps qs : List (List UInt8)) :
    totalLength (ps ++ qs) = totalLength ps + totalLength qs := by
  rw [totalLength, List.map_append, List.sum_append]
  rfl

theorem length_flatten_eq (ps : List (List UInt8)) : ps.flatten.length = totalLength ps :=
  List.length_flatten

/-- Without a buffer the payloads are counted modulo 2^32. -/
theorem addPayloads_none (payloads : List (List UInt8)) {f : Filled}
    (hlen : f.payloadLength < 2 ^ 32) (hcount : f.payloadSubLenSize < 2 ^ 32) :
    addPayloads none f payloads =
      .ok { f with payloadLength := (f.payloadLength + totalLength payloads) % 2 ^ 32
                   payloadSubLenSize := (f.payloadSubLenSize + payloads.length) % 2 ^ 32 } := by
  induction payloads generalizing f with
  | nil =>
    simp only [addPayloads, totalLength_nil, List.length_nil, Nat.add_zero, Nat.mod_eq_of_lt hlen,
      Nat.mod_eq_of_lt hcount]
  | cons p ps ih =>
    rw [addPayloads, Filled.addPayload]
    simp only
    rw [ih (Nat.mod_lt _ (by decide)) (Nat.mod_lt _ (by decide))]
    simp only [totalLength_cons, List.length_cons, Nat.mod_add_mod, Nat.add_assoc, Nat.add_comm 1]

/-- In a buffer that is large enough the payloads stand one after the other. -/
theorem addPayloads_some {r : Room} (hr : r.maxPayloadLength < 2 ^ 32)
    (hr' : r.maxPayloadSubLenSize < 2 ^ 32) (payloads : List (List UInt8)) {f : Filled}
    (hlen : f.payloadLength = f.payloadBuffer.length)
    (hcount : f.payloadSubLenSize = f.payloadSubLength.length)
    (hroom : f.payloadBuffer.length + totalLength payloads ≤ r.maxPayloadLength)
    (hroom' : f.payloadSubLength.length + payloads.length ≤ r.maxPayloadSubLenSize) :
    addPayloads (some r) f payloads =
      .ok ⟨f.payloadLength + totalLength payloads, f.payloadSubLenSize + payloads.length,
        f.payloadBuffer ++ payloads.flatten, f.payloadSubLength ++ payloads.map List.length⟩ := by
  induction payloads generalizing f with
  | nil => simp [addPayloads]
  | cons p ps ih =>
    rw [totalLength_cons] at hroom
    rw [List.length_cons] at hroom'
    have hmod : (f.payloadLength + p.length) % 2 ^ 32 = f.payloadLength + p.length :=
      Nat.mod_eq_of_lt (by omega)
    have hmod' : (f.payloadSubLenSize + 1) % 2 ^ 32 = f.payloadSubLenSize + 1 :=
      Nat.mod_eq_of_lt (by omega)
    rw [addPayloads, Filled.addPayload]
    simp only [hmod, hmod']
    rw [if_pos ⟨by omega, by omega⟩, if_pos ⟨by omega, by omega⟩]
    simp only
    rw [ih]
    · simp only [totalLength_cons, List.length_cons, List.flatten_cons, List.map_cons,
        List.append_assoc, List.singleton_append, Except.ok.injEq, Filled.mk.injEq, and_true]
      omega
    · show f.payloadLength + p.length = (f.payloadBuffer ++ p).length
      rw [List.length_append, hlen]
    · show f.payloadSubLenSize + 1 = (f.payloadSubLength ++ [p.length]).length
      rw [List.length_append, hcount]
      rfl
    · show (f.payloadBuffer ++ p).length + totalLength ps ≤ r.maxPayloadLength
      rw [List.length_append]
      omega
    · show (f.payloadSubLength ++ [p.length]).length + ps.length ≤ r.maxPayloadSubLenSize
      rw [List.length_append, List.length_singleton]
      omega

theorem addPayload_some_inv {r : Room} {f g : Filled} {p : List UInt8}
    (h : f.addPayload (some r) p = .ok g) :
    g.payloadBuffer = f.payloadBuffer ++ p ∧ f.payloadBuffer.length + p.length ≤
      r.maxPayloadLength := by
  simp only [Filled.addPayload] at h
  split_ifs at h with hfits hroom
  obtain rfl := Except.ok.inj h
  exact ⟨rfl, hroom.1⟩

/-- No more is written than there is room for. -/
theorem le_of_addPayloads {r : Room} {payloads : List (List UInt8)} (hne : payloads ≠ [])
    {f g : Filled} (h : addPayloads (some r) f payloads = .ok g) :
    f.payloadBuffer.length + totalLength payloads ≤ r.maxPayloadLength := by
  induction payloads generalizing f with
  | nil => exact absurd rfl hne
  | cons p ps ih =>
    rw [addPayloads] at h
    cases hadd : f.addPayload (some r) p with
    | error e => rw [hadd] at h; cases h
    | ok f' =>
      rw [hadd] at h
      obtain ⟨hbuffer, hroom⟩ := addPayload_some_inv hadd
      rw [totalLength_cons]
      by_cases hps : ps = []
      · rw [hps, totalLength_nil]
        omega
      · have hle := ih hps h
        rw [hbuffer, List.length_append] at hle
        omega

/-! ### The payloads of a stream -/

section Stream

variable {P : List UInt8 → Prop} {fu : FragmentationUnit} {mtu : Nat}

theorem annexB_cons (u : AnnexBUnit P) (us : List (AnnexBUnit P)) :
    annexB (u :: us) = startCode u.fourBytes ++ (u.nalu ++ annexB us) := by
  rw [annexB, List.flatMap_cons, List.append_assoc]
  rfl

theorem annexB_eq_nil_or (units : List (AnnexBUnit P)) :
    annexB units = [] ∨ ∃ b rest, annexB units = startCode b ++ rest := by
  cases units with
  | nil => exact .inl rfl
  | cons u us => exact .inr ⟨u.fourBytes, u.nalu ++ annexB us, annexB_cons u us⟩

/-- One round of the loop deals with one NAL unit. -/
theorem createPayloads_cons (hmtu : fu.headerSize < mtu) (hP : ∀ {nalu}, P nalu → IsNalu nalu)
    (u : AnnexBUnit P) (us : List (AnnexBUnit P)) (hlen : (annexB (u :: us)).length + 2 < 2 ^ 32)
    (room : Option Room) (f : Filled) :
    createPayloads fu mtu (annexB (u :: us)) room f =
      match addPayloads room Filled.empty (naluPayloads fu hmtu u.nalu) with
      | .error e => .error e
      | .ok g =>
        if us = [] then .ok (f.append g)
        else createPayloads fu mtu (annexB us) (room.map (·.sub g)) (f.append g) := by
  have hnalu := hP u.isNalu
  rw [annexB_cons] at hlen ⊢
  have hnext := getNextNaluLength_startCode hnalu hlen (annexB_eq_nil_or us)
  have hcur : (startCode u.fourBytes ++ (u.nalu ++ annexB us)).drop (startCode u.fourBytes).length =
      u.nalu ++ annexB us := List.drop_left
  have hne : u.nalu ++ annexB us ≠ [] := by
    simp only [ne_eq, List.append_eq_nil_iff, hnalu.ne_nil, false_and, not_false_eq_true]
  have hrest : annexB us = [] ↔ us = [] := by
    cases us with
    | nil => exact ⟨fun _ => rfl, fun _ => rfl⟩
    | cons v vs => simp [annexB_cons, startCode_append]
  rw [createPayloads]
  split
  · next e he => rw [hnext] at he; cases he
  · next start len hstart =>
    rw [hnext] at hstart
    obtain ⟨rfl, rfl⟩ := Prod.mk.inj (Except.ok.inj hstart)
    have hfilled := createPayloadFromNaluWith_eq fu hmtu
    simp only [hcur, if_neg hne, List.take_left, List.drop_left, hfilled, hrest] <;> rfl

def streamPayloads (hmtu : fu.headerSize < mtu) (units : List (AnnexBUnit P)) : List (List UInt8) :=
  units.flatMap fun u => naluPayloads fu hmtu u.nalu

theorem streamPayloads_cons (hmtu : fu.headerSize < mtu) (u : AnnexBUnit P)
    (us : List (AnnexBUnit P)) :
    streamPayloads hmtu (u :: us) = naluPayloads fu hmtu u.nalu ++ streamPayloads hmtu us := by
  rw [streamPayloads, List.flatMap_cons]
  rfl

/-- The first call counts the payloads modulo 2^32. -/
theorem createPayloads_none (hmtu : fu.headerSize < mtu) (hP : ∀ {nalu}, P nalu → IsNalu nalu)
    {units : List (AnnexBUnit P)} (hne : units ≠ []) (hlen : (annexB units).length + 2 < 2 ^ 32)
    (f : Filled) :
    createPayloads fu mtu (annexB units) none f =
      .ok { f with
        payloadLength := (f.payloadLength + totalLength (streamPayloads hmtu units)) % 2 ^ 32
        payloadSubLenSize := (f.payloadSubLenSize + (streamPayloads hmtu units).length) %
        2 ^ 32 } := by
  induction units generalizing f with
  | nil => exact absurd rfl hne
  | cons u us ih =>
    rw [createPayloads_cons hmtu hP u us hlen, addPayloads_none _ (by decide) (by decide)]
    have hlen' : (annexB us).length + 2 < 2 ^ 32 := by
      rw [annexB_cons, List.length_append, List.length_append] at hlen
      omega
    by_cases hus : us = []
    · subst hus
      simp [Filled.append, Filled.empty, streamPayloads]
    · simp only [if_neg hus]
      rw [Option.map_none, ih hus hlen']
      simp [Filled.append, Filled.empty, streamPayloads_cons, Nat.add_assoc]

/-- The second call writes the payloads, if they fit. -/
theorem createPayloads_some (hmtu : fu.headerSize < mtu) (hP : ∀ {nalu}, P nalu → IsNalu nalu)
    {units : List (AnnexBUnit P)} (hne : units ≠ []) (hlen : (annexB units).length + 2 < 2 ^ 32)
    {r : Room} (hr : r.maxPayloadLength < 2 ^ 32) (hr' : r.maxPayloadSubLenSize < 2 ^ 32)
    (hroom : totalLength (streamPayloads hmtu units) ≤ r.maxPayloadLength)
    (hroom' : (streamPayloads hmtu units).length ≤ r.maxPayloadSubLenSize) (f : Filled) :
    ∃ g, createPayloads fu mtu (annexB units) (some r) f = .ok g ∧
      g.payloadBuffer = f.payloadBuffer ++ (streamPayloads hmtu units).flatten ∧
      g.payloadSubLength = f.payloadSubLength ++ (streamPayloads hmtu units).map List.length := by
  induction units generalizing f r with
  | nil => exact absurd rfl hne
  | cons u us ih =>
    rw [streamPayloads_cons, totalLength_append] at hroom
    rw [streamPayloads_cons, List.length_append] at hroom'
    rw [createPayloads_cons hmtu hP u us hlen, addPayloads_some hr hr' _ rfl rfl
      (by simp only [Filled.empty, List.length_nil]; omega)
      (by simp only [Filled.empty, List.length_nil]; omega)]
    have hlen' : (annexB us).length + 2 < 2 ^ 32 := by
      rw [annexB_cons, List.length_append, List.length_append] at hlen
      omega
    by_cases hus : us = []
    · subst hus
      refine ⟨_, rfl, ?_, ?_⟩ <;> simp [Filled.append, Filled.empty, streamPayloads]
    · simp only [if_neg hus, Option.map_some]
      obtain ⟨g, hg, hbuffer, hsub⟩ := ih hus hlen'
        (r := r.sub ⟨Filled.empty.payloadLength + totalLength (naluPayloads fu hmtu u.nalu),
          Filled.empty.payloadSubLenSize + (naluPayloads fu hmtu u.nalu).length,
          Filled.empty.payloadBuffer ++ (naluPayloads fu hmtu u.nalu).flatten,
          Filled.empty.payloadSubLength ++ (naluPayloads fu hmtu u.nalu).map List.length⟩)
        (by simp only [Room.sub]; omega) (by simp only [Room.sub]; omega)
        (by simp only [Room.sub, Filled.empty]; omega)
        (by simp only [Room.sub, Filled.empty]; omega)
        _
      refine ⟨g, hg, ?_, ?_⟩
      · rw [hbuffer, streamPayloads_cons, List.flatten_append]
        simp [Filled.append, Filled.empty]
      · rw [hsub, streamPayloads_cons, List.map_append]
        simp [Filled.append, Filled.empty]

theorem splitLengths_flatten (ps : List (List UInt8)) :
    (ps.map List.length).splitLengths ps.flatten = ps := by
  induction ps with
  | nil => rfl
  | cons p ps ih =>
    rw [List.map_cons, List.splitLengths_cons, List.flatten_cons, List.take_left, List.drop_left,
      ih]

/-- The two calls give the payloads of the stream, if their bytes can be counted. -/
theorem payloadsOf_annexB (hmtu : fu.headerSize < mtu) (hP : ∀ {nalu}, P nalu → IsNalu nalu)
    {units : List (AnnexBUnit P)} (hne : units ≠ []) (hlen : (annexB units).length + 2 < 2 ^ 32)
    (htotal : totalLength (streamPayloads hmtu units) < 2 ^ 32)
    (hcount : (streamPayloads hmtu units).length < 2 ^ 32) :
    payloadsOf (createPayloadForWith fu mtu (annexB units)) = .ok (streamPayloads hmtu units) := by
  have hsizes := createPayloads_none hmtu hP hne hlen Filled.empty
  simp only [Filled.empty, Nat.zero_add, Nat.mod_eq_of_lt htotal, Nat.mod_eq_of_lt hcount] at hsizes
  obtain ⟨g, hg, hbuffer, hsub⟩ := createPayloads_some hmtu hP hne hlen
    (r := ⟨totalLength (streamPayloads hmtu units), (streamPayloads hmtu units).length⟩)
    htotal hcount le_rfl le_rfl Filled.empty
  simp only [payloadsOf, createPayloadForWith, if_pos hmtu, Filled.empty, hsizes] at hg ⊢
  rw [hg]
  show Except.ok (g.payloadSubLength.splitLengths g.payloadBuffer) = _
  rw [hbuffer, hsub]
  exact congrArg Except.ok (splitLengths_flatten _)

/-- A NAL unit whose payloads have 2^32 bytes or more does not get through: the first call returns
the number of bytes modulo 2^32, and the buffer of the second one is too small. -/
theorem payloadsOf_overflow (hmtu : fu.headerSize < mtu) (hP : ∀ {nalu}, P nalu → IsNalu nalu)
    {u : AnnexBUnit P} (hlen : (annexB [u]).length + 2 < 2 ^ 32)
    (htotal : 2 ^ 32 ≤ totalLength (naluPayloads fu hmtu u.nalu)) (payloads : List (List UInt8)) :
    payloadsOf (createPayloadForWith fu mtu (annexB [u])) ≠ .ok payloads := by
  intro h
  have hsizes := createPayloads_none hmtu hP (List.cons_ne_nil u []) hlen Filled.empty
  have hne : naluPayloads fu hmtu u.nalu ≠ [] := by
    intro hnil
    rw [hnil, totalLength_nil] at htotal
    exact absurd htotal (by decide)
  simp only [payloadsOf, createPayloadForWith, if_pos hmtu, hsizes] at h
  rw [createPayloads_cons hmtu hP u [] hlen] at h
  revert h
  cases hadd : addPayloads _ Filled.empty (naluPayloads fu hmtu u.nalu) with
  | error e => intro h; cases h
  | ok g =>
    intro _
    have hle := le_of_addPayloads hne hadd
    have hlt : (Filled.empty.payloadLength + totalLength (streamPayloads hmtu [u])) % 2 ^ 32 <
        2 ^ 32 :=
      Nat.mod_lt _ (by decide)
    simp only [Filled.empty, List.length_nil] at hle hlt
    omega

end Stream

/-! ### Sizes of the fragments -/

section Fragments

variable {fu : FragmentationUnit} {nalu : List UInt8} {maxPayloadSize : Nat}

/-- A fragment is no longer than its header and the maximal size. -/
theorem length_of_mem_fragments (hheader : ∀ flag, (fu.header nalu flag).length = fu.headerSize)
    (hmax : 0 < maxPayloadSize) (remaining : List UInt8) :
    ∀ p ∈ fragments fu nalu maxPayloadSize hmax remaining,
      fu.headerSize ≤ p.length ∧ p.length ≤ fu.headerSize + maxPayloadSize := by
  induction remaining using fragments.induct maxPayloadSize hmax with
  | case1 => simp [fragments]
  | case2 remaining hne size ih =>
    rw [fragments, dif_neg hne]
    intro p hp
    rcases List.mem_cons.mp hp with rfl | hp
    · rw [List.length_append, hheader, List.length_take]
      omega
    · exact ih p hp

/-- The bytes of the fragments: those of the NAL unit and a header for every `maxPayloadSize` of
them, the last ones counting as so many. -/
theorem totalLength_fragments (hheader : ∀ flag, (fu.header nalu flag).length = fu.headerSize)
    (hmax : 0 < maxPayloadSize) (remaining : List UInt8) :
    totalLength (fragments fu nalu maxPayloadSize hmax remaining) =
      remaining.length +
        fu.headerSize * ((remaining.length + maxPayloadSize - 1) / maxPayloadSize) := by
  induction remaining using fragments.induct maxPayloadSize hmax with
  | case1 =>
    rw [fragments, dif_pos rfl, totalLength_nil, List.length_nil, Nat.zero_add, Nat.zero_add,
      Nat.div_eq_of_lt (by omega), Nat.mul_zero]
  | case2 remaining hne size ih =>
    have hpos := List.length_pos_iff.mpr hne
    rw [fragments, dif_neg hne, totalLength_cons]
    show (fu.header nalu _ ++ remaining.take size).length +
      totalLength (fragments fu nalu maxPayloadSize hmax (remaining.drop size)) = _
    rw [ih, List.length_append, hheader, List.length_take, List.length_drop]
    rcases Nat.le_total maxPayloadSize remaining.length with hle | hle
    · have hsize : size = maxPayloadSize := Nat.min_eq_left hle
      have hdiv : (remaining.length + maxPayloadSize - 1) / maxPayloadSize =
          (remaining.length - maxPayloadSize + maxPayloadSize - 1) / maxPayloadSize + 1 := by
        rw [← Nat.add_div_right _ hmax]
        congr 1
        omega
      rw [hsize, hdiv, Nat.min_eq_left hle, Nat.mul_succ]
      omega
    · have hsize : size = remaining.length := Nat.min_eq_right hle
      have hone : (remaining.length + maxPayloadSize - 1) / maxPayloadSize = 1 :=
        Nat.div_eq_of_lt_le (by omega) (by omega)
      rw [hsize, hone, Nat.sub_self, Nat.zero_add, Nat.div_eq_of_lt (by omega), Nat.min_self]
      omega

end Fragments

/-! ### Round trips -/

section RoundTrip

variable {P : List UInt8 → Prop} {fu : FragmentationUnit} {mtu : Nat}
  {depay : List UInt8 → Option Nat → Except Failure Depayed}

/-- A codec whose depayloader takes a NAL unit and the fragments of one.  The first fragment gives
the header of the NAL unit back, and the other ones only their bytes. -/
structure LawfulCodec (P : List UInt8 → Prop) (fu : FragmentationUnit)
    (depay : List UInt8 → Option Nat → Except Failure Depayed) : Prop where
  isNalu : ∀ {nalu}, P nalu → IsNalu nalu
  length_header : ∀ nalu flag, (fu.header nalu flag).length = fu.headerSize
  naluHeaderSize_lt : fu.naluHeaderSize < fu.headerSize
  depay_single : ∀ {nalu}, P nalu → nalu.length + 4 < 2 ^ 32 →
    depayOne depay nalu = .ok (start4ByteCode ++ nalu)
  depay_first : ∀ {nalu}, P nalu → ∀ data, fu.naluHeaderSize + data.length + 4 < 2 ^ 32 →
    depayOne depay (fu.header nalu 0x80 ++ data) =
      .ok (start4ByteCode ++ (nalu.take fu.naluHeaderSize ++ data))
  depay_later : ∀ nalu data {flag}, flag = 0x40 ∨ flag = 0 →
    depayOne depay (fu.header nalu flag ++ data) = .ok data

/-- What is written comes back, if the length computed for it is right. -/
theorem depayOne_depayWrite {depay : List UInt8 → Option Nat → Except Failure Depayed}
    {payload bytes : List UInt8} {isStart : Bool}
    (h : ∀ size, depay payload size = depayWrite size bytes.length isStart (.ok bytes)) :
    depayOne depay payload = .ok bytes := by
  simp only [depayOne, h, depayWrite, le_refl, if_true]

theorem depayAll_cons {p : List UInt8} {ps : List (List UInt8)} {a b : List UInt8}
    (hp : depayOne depay p = .ok a) (hps : depayAll depay ps = .ok b) :
    depayAll depay (p :: ps) = .ok (a ++ b) := by
  simp only [depayAll, hp, hps]

theorem depayAll_append {ps qs : List (List UInt8)} {a b : List UInt8}
    (hps : depayAll depay ps = .ok a) (hqs : depayAll depay qs = .ok b) :
    depayAll depay (ps ++ qs) = .ok (a ++ b) := by
  induction ps generalizing a with
  | nil =>
    obtain rfl := Except.ok.inj hps
    exact hqs
  | cons p ps ih =>
    rw [depayAll] at hps
    cases hp : depayOne depay p with
    | error e => rw [hp] at hps; cases hps
    | ok c =>
      cases hrest : depayAll depay ps with
      | error e => rw [hp, hrest] at hps; cases hps
      | ok d =>
        rw [hp, hrest] at hps
        obtain rfl := Except.ok.inj hps
        rw [List.append_assoc]
        exact depayAll_cons hp (ih hrest)

theorem fragmentFlag_later {total remaining : Nat} (h : remaining < total) (size : Nat) :
    fragmentFlag total remaining size = 0x40 ∨ fragmentFlag total remaining size = 0 := by
  rw [fragmentFlag, if_neg h.ne]
  split_ifs
  · exact .inl rfl
  · exact .inr rfl

theorem fragments_pieces {R : List UInt8 → List UInt8 → Prop} {maxPayloadSize : Nat}
    (hmax : 0 < maxPayloadSize) (nalu : List UInt8) {remaining : List UInt8}
    (h : ∀ rest : List UInt8, rest.length ≤ remaining.length → ∀ size,
      R (fu.header nalu (fragmentFlag (nalu.length - fu.naluHeaderSize) rest.length size) ++
        rest.take size) (rest.take size)) :
    ∃ pieces, List.Forall₂ R (fragments fu nalu maxPayloadSize hmax remaining) pieces ∧
      remaining = pieces.flatten := by
  induction remaining using fragments.induct maxPayloadSize hmax with
  | case1 =>
    rw [fragments, dif_pos rfl]
    exact ⟨[], .nil, rfl⟩
  | case2 remaining hne size ih =>
    obtain ⟨pieces, hpieces, hrest⟩ :=
      ih fun rest hle => h rest (hle.trans (by rw [List.length_drop]; exact Nat.sub_le _ _))
    rw [fragments, dif_neg hne]
    refine ⟨remaining.take size :: pieces, .cons (h remaining le_rfl size) hpieces, ?_⟩
    rw [List.flatten_cons, ← hrest, List.take_append_drop]

namespace LawfulCodec

variable (h : LawfulCodec P fu depay)

include h

/-- After the first fragment the bytes that remain come back as they are. -/
theorem depayAll_later {maxPayloadSize : Nat} (hmax : 0 < maxPayloadSize) (nalu : List UInt8)
    (remaining : List UInt8) (hlt : remaining.length < nalu.length - fu.naluHeaderSize) :
    depayAll depay (fragments fu nalu maxPayloadSize hmax remaining) = .ok remaining := by
  induction remaining using fragments.induct maxPayloadSize hmax with
  | case1 =>
    rw [fragments, dif_pos rfl]
    rfl
  | case2 remaining hne size ih =>
    rw [fragments, dif_neg hne]
    have hrest := ih (by rw [List.length_drop]; omega)
    have hall := depayAll_cons (h.depay_later nalu (remaining.take size)
      (fragmentFlag_later hlt size)) hrest
    rw [List.take_append_drop] at hall
    exact hall

/-- **One NAL unit**: its payloads give it back, with a start code before it. -/
theorem depayAll_naluPayloads (hmtu : fu.headerSize < mtu) {nalu : List UInt8} (hnalu : P nalu)
    (hlen : nalu.length + 4 < 2 ^ 32) :
    depayAll depay (naluPayloads fu hmtu nalu) = .ok (start4ByteCode ++ nalu) := by
  have hlt := h.naluHeaderSize_lt
  rw [naluPayloads]
  split_ifs with hle
  · have hall := depayAll_cons (h.depay_single hnalu hlen) (show depayAll depay [] =
      .ok [] from rfl)
    rwa [List.append_nil] at hall
  · have hne : nalu.drop fu.naluHeaderSize ≠ [] := by
      rw [ne_eq, List.drop_eq_nil_iff]
      omega
    have hpos := List.length_pos_iff.mpr hne
    rw [fragments, dif_neg hne]
    simp only [List.length_drop] at hpos ⊢
    -- the first fragment carries the start bit, however few there are
    rw [fragmentFlag, if_pos rfl]
    have hfirst := h.depay_first hnalu
      ((nalu.drop fu.naluHeaderSize).take (min (mtu - fu.headerSize)
      (nalu.length - fu.naluHeaderSize)))
      (by rw [List.length_take, List.length_drop]; omega)
    have hlater := h.depayAll_later (Nat.sub_pos_of_lt hmtu) nalu
      ((nalu.drop fu.naluHeaderSize).drop (min (mtu - fu.headerSize)
      (nalu.length - fu.naluHeaderSize)))
      (by rw [List.length_drop, List.length_drop]; omega)
    have hall := depayAll_cons hfirst hlater
    rw [List.append_assoc, List.append_assoc, List.take_append_drop, List.take_append_drop] at hall
    exact hall

theorem depayAll_streamPayloads (hmtu : fu.headerSize < mtu) {units : List (AnnexBUnit P)}
    (hlen : (annexB units).length + 2 < 2 ^ 32) :
    depayAll depay (streamPayloads hmtu units) = .ok (withStart4ByteCodes units) := by
  induction units with
  | nil => rfl
  | cons u us ih =>
    rw [annexB_cons, List.length_append, List.length_append, length_startCode] at hlen
    have hzeros : 2 ≤ zerosOf u.fourBytes := by cases u.fourBytes <;> decide
    rw [streamPayloads_cons, withStart4ByteCodes, List.flatMap_cons]
    exact depayAll_append (h.depayAll_naluPayloads hmtu u.isNalu (by omega)) (ih (by omega))

theorem totalLength_naluPayloads (hmtu : fu.headerSize < mtu) (nalu : List UInt8) :
    totalLength (naluPayloads fu hmtu nalu) = payloadSize fu mtu nalu := by
  rw [naluPayloads, payloadSize]
  split_ifs
  · rw [totalLength_cons, totalLength_nil, Nat.add_zero]
  · rw [totalLength_fragments (h.length_header nalu), List.length_drop]

theorem totalLength_streamPayloads (hmtu : fu.headerSize < mtu) (units : List (AnnexBUnit P)) :
    totalLength (streamPayloads hmtu units) = totalPayloadSize fu mtu units := by
  induction units with
  | nil => rfl
  | cons u us ih =>
    rw [streamPayloads_cons, totalLength_append, h.totalLength_naluPayloads, ih]
    rfl

theorem length_of_mem_naluPayloads (hmtu : fu.headerSize < mtu) {nalu : List UInt8}
    (hnalu : P nalu) :
    ∀ p ∈ naluPayloads fu hmtu nalu, 0 < p.length ∧ p.length ≤ mtu := by
  have hlt := h.naluHeaderSize_lt
  rw [naluPayloads]
  intro p hp
  split_ifs at hp with hle
  · rw [List.mem_singleton.mp hp]
    exact ⟨List.length_pos_iff.mpr (h.isNalu hnalu).ne_nil, hle⟩
  · have hmem := length_of_mem_fragments (h.length_header nalu) _ _ p hp
    omega

theorem length_of_mem_streamPayloads (hmtu : fu.headerSize < mtu) (units : List (AnnexBUnit P)) :
    ∀ p ∈ streamPayloads hmtu units, 0 < p.length ∧ p.length ≤ mtu := by
  intro p hp
  obtain ⟨u, -, hpu⟩ := List.mem_flatMap.mp hp
  exact h.length_of_mem_naluPayloads hmtu u.isNalu p hpu

end LawfulCodec

/-- There are no more payloads than bytes in them. -/
theorem length_le_totalLength {ps : List (List UInt8)} (hpos : ∀ p ∈ ps, 0 < p.length) :
    ps.length ≤ totalLength ps := by
  induction ps with
  | nil => exact le_rfl
  | cons p ps ih =>
    have hp := hpos p List.mem_cons_self
    have hps := ih fun q hq => hpos q (List.mem_cons_of_mem p hq)
    rw [totalLength_cons, List.length_cons]
    omega

/-- **Round trip**: the payloads of a stream are no longer than `mtu` and give its NAL units back,
if the lengths that are added up on the way are below 2^32. -/
theorem LawfulCodec.roundTrips (h : LawfulCodec P fu depay) (hmtu : fu.headerSize < mtu)
    {units : List (AnnexBUnit P)} (hne : units ≠ []) (hlen : (annexB units).length + 2 < 2 ^ 32)
    (htotal : totalPayloadSize fu mtu units < 2 ^ 32) :
    RoundTrips (createPayloadForWith fu) depay mtu units := by
  have hmem := h.length_of_mem_streamPayloads hmtu units
  have hcount := length_le_totalLength fun p hp => (hmem p hp).1
  rw [← h.totalLength_streamPayloads hmtu] at htotal
  refine ⟨streamPayloads hmtu units, ?_, fun p hp => (hmem p hp).2, ?_⟩
  · exact payloadsOf_annexB hmtu h.isNalu hne hlen htotal (by omega)
  · exact h.depayAll_streamPayloads hmtu hlen

/-- A NAL unit whose payloads have 2^32 bytes or more does not come back. -/
theorem LawfulCodec.not_roundTrips (h : LawfulCodec P fu depay) (hmtu : fu.headerSize < mtu)
    {u : AnnexBUnit P} (hlen : (annexB [u]).length + 2 < 2 ^ 32)
    (htotal : 2 ^ 32 ≤ payloadSize fu mtu u.nalu) :
    ¬ RoundTrips (createPayloadForWith fu) depay mtu [u] := by
  rintro ⟨payloads, hpayloads, -⟩
  rw [← h.totalLength_naluPayloads hmtu] at htotal
  exact payloadsOf_overflow hmtu h.isNalu hlen htotal payloads hpayloads

/-- A buffer of which the scan steps over 2^32 has no payloads: the offset is small again, while the
pointer is behind the buffer. -/
theorem findStartCode_overflow {nalus : List UInt8} (hlen : nalus.length < 2 ^ 32)
    (hpos : 0 < nalus.length) {p : Nat} (hp : p ≤ 2 ^ 32) (hmod : p % 3 = 2 ^ 32 % 3)
    (hbytes : ∀ q, p ≤ q → q < 2 ^ 32 → q % 3 = p % 3 → nalus[q]? = some 2) :
    findStartCode nalus p = .error .outOfBounds := by
  induction hn : 2 ^ 32 - p using Nat.strong_induction_on generalizing p with
  | _ n ih =>
    rw [findStartCode]
    rcases Nat.lt_or_eq_of_le hp with hlt | rfl
    · have hat := hbytes p le_rfl hlt rfl
      have hplen := (List.getElem?_eq_some_iff.mp hat).1
      rw [Nat.mod_eq_of_lt hlt, if_pos hplen]
      split
      · rfl
      · next b hb =>
        obtain rfl : 2 = b := Option.some.inj (hat.symm.trans hb)
        rw [if_neg (by decide), if_neg (fun hone => absurd hone.1 (by decide))]
        exact ih _ (by omega) (by omega) (by omega)
          (fun q hq hqlt hqmod => hbytes q (by omega) hqlt (by omega)) rfl
    · rw [Nat.mod_self, if_pos hpos]
      split
      · rfl
      · next b hb =>
        have := (List.getElem?_eq_some_iff.mp hb).1
        omega

/-! ### A NAL unit of equal bytes -/

theorem headD_replicate {n : Nat} (hn : 0 < n) : (List.replicate n (2 : UInt8)).headD 0 = 2 := by
  obtain ⟨m, rfl⟩ := Nat.exists_eq_add_one.mpr hn
  rw [List.replicate_succ, List.headD_cons]

theorem isNalu_replicate {n : Nat} (hn : 0 < n) : IsNalu (List.replicate n 2) where
  ne_nil := by
    rw [ne_eq, List.replicate_eq_nil_iff]
    omega
  no_startCode := by
    intro hinfix
    have hmem : (0 : UInt8) ∈ List.replicate n 2 := hinfix.subset List.mem_cons_self
    exact absurd (List.eq_of_mem_replicate hmem) (by decide)
  getLast?_ne := by
    intro hlast
    have hmem : (0 : UInt8) ∈ List.replicate n 2 := List.mem_of_getLast? hlast
    exact absurd (List.eq_of_mem_replicate hmem) (by decide)

theorem annexB_singleton (u : AnnexBUnit P) : annexB [u] = startCode u.fourBytes ++ u.nalu := by
  rw [annexB_cons]
  exact congrArg (startCode u.fourBytes ++ ·) (List.append_nil _)

theorem LawfulCodec.not_roundTrips_replicate (h : LawfulCodec P fu depay)
    (hmtu : fu.headerSize < mtu) {n : Nat} (hnalu : P (List.replicate n 2)) (hlen : n + 6 < 2 ^ 32)
    (htotal : 2 ^ 32 ≤ (if n ≤ mtu then n else n - fu.naluHeaderSize +
      fu.headerSize * ((n - fu.naluHeaderSize + (mtu - fu.headerSize) - 1) /
        (mtu - fu.headerSize)))) :
    ¬ RoundTrips (createPayloadForWith fu) depay mtu
      [(⟨true, List.replicate n 2, hnalu⟩ : AnnexBUnit P)] := by
  apply h.not_roundTrips hmtu
  · have hcode : (startCode true).length = 4 := rfl
    rw [annexB_singleton, List.length_append, List.length_replicate, hcode]
    omega
  · rw [payloadSize, List.length_replicate]
    exact htotal

/-- In a buffer of 2^32 - 1 bytes the scan may leave the buffer. -/
theorem not_roundTrips_scan (hmtu : fu.headerSize < mtu)
    (hnalu : P (List.replicate (2 ^ 32 - 5) 2)) :
    ¬ RoundTrips (createPayloadForWith fu) depay mtu
      [(⟨true, List.replicate (2 ^ 32 - 5) 2, hnalu⟩ : AnnexBUnit P)] := by
  rintro ⟨payloads, hpayloads, -⟩
  have hlength : (startCode true ++ List.replicate (2 ^ 32 - 5) (2 : UInt8)).length =
      2 ^ 32 - 1 := by
    rw [List.length_append, List.length_replicate, length_startCode]
    rfl
  have hscan : getNextNaluLength (startCode true ++ List.replicate (2 ^ 32 - 5) 2) =
      .error .outOfBounds := by
    simp only [getNextNaluLength, leadingZeros_startCode]
    rw [hlength, if_pos ⟨by decide, by decide, by decide, startCode_zerosOf _ _⟩,
      findStartCode_overflow (by rw [hlength]; decide) (by rw [hlength]; decide) (by decide)
      (by decide)]
    intro q hq hlt hmod
    have hfour : zerosOf true + 1 = 4 := rfl
    rw [hfour] at hq hmod
    rw [List.getElem?_append_right (by rw [length_startCode]; exact hq), length_startCode,
      List.getElem?_replicate, if_pos]
    rw [hfour]
    omega
  have hcreate : ∀ room f, createPayloads fu mtu (startCode true ++ List.replicate (2 ^ 32 - 5) 2)
      room f = .error .outOfBounds := by
    intro room f
    rw [createPayloads]
    split
    · next e he => rw [hscan] at he; rw [Except.error.inj he]
    · next start len hok => rw [hscan] at hok; cases hok
  rw [annexB_singleton] at hpayloads
  simp only [payloadsOf, createPayloadForWith, if_pos hmtu, hcreate] at hpayloads
  cases hpayloads

end RoundTrip

end KvsWebrtc.Rtp
