import KvsWebrtc.Rtcp.RollingBuffer
import KvsWebrtc.Rtcp.ValidIndices

/-!
# Which indices are returned

The ends of a window are compared by their sequence numbers.  In a window of one packet they are
equal, and it is taken for one that goes round: every sequence number is found in it.  In larger
windows the two cases are right (`validSeqIndex_eq`).  The capacity is compared after an index has
been stored, so with none the first one is stored all the same (`returnsStored_iff`).
-/

namespace KvsWebrtc.ValidIndices

variable {lastIndex : UInt64} {size validIndexListLen : UInt32} {sequenceNumberList : List UInt16}
  {seqNum : UInt16}

/-! ### The stored index -/

/-- Two stored indices are at most 65534 apart, so they are congruent only if they are equal. -/
theorem stored_unique {last n i j : Nat} (hn : n ≤ 65535) (hi : Stored last n i)
    (hj : Stored last n j) (h : i % 65536 = j % 65536) : i = j := by
  unfold Stored at hi hj
  omega

/-- **The stored index** of a sequence number is the only one that is congruent to it. -/
theorem storedIndex_eq_some_iff {last n s i : Nat} (hn : n ≤ 65535) (hle : n ≤ last + 1) :
    storedIndex last n s = some i ↔ Stored last n i ∧ i % 65536 = s := by
  have hmem : ∀ k, k ∈ (List.range n).map (fun i => last + 1 - n + i) ↔ Stored last n k := by
    intro k
    rw [List.mem_map]
    unfold Stored
    constructor
    · rintro ⟨j, hj, rfl⟩
      have hlt := List.mem_range.mp hj
      omega
    · intro hk
      exact ⟨k - (last + 1 - n), List.mem_range.mpr (by omega), by omega⟩
  constructor
  · intro h
    have hpred := List.find?_some h
    exact ⟨(hmem i).mp (List.mem_of_find?_eq_some h), by simpa using hpred⟩
  · rintro ⟨hstored, hs⟩
    cases hfind : storedIndex last n s with
    | none =>
      have hnone := List.find?_eq_none.mp hfind i ((hmem i).mpr hstored)
      exact absurd (by simpa using hs) hnone
    | some j =>
      have hpred := List.find?_some hfind
      have hj := (hmem j).mp (List.mem_of_find?_eq_some hfind)
      rw [stored_unique hn hj hstored (by rw [hs]; simpa using hpred)]

theorem storedIndex_eq_none_iff {last n s : Nat} (hn : n ≤ 65535) (hle : n ≤ last + 1) :
    storedIndex last n s = none ↔ ∀ i, Stored last n i → i % 65536 ≠ s := by
  constructor
  · intro h i hi hs
    have hsome := (storedIndex_eq_some_iff hn hle).mpr ⟨hi, hs⟩
    rw [h] at hsome
    cases hsome
  · intro h
    cases hfind : storedIndex last n s with
    | none => rfl
    | some i =>
      obtain ⟨hi, hs⟩ := (storedIndex_eq_some_iff hn hle).mp hfind
      exact absurd hs (h i hi)

/-! ### The computed index -/

namespace IsWindow

theorem firstIndex (h : IsWindow lastIndex size) :
    (firstIndex lastIndex size).toNat = lastIndex.toNat + 1 - size.toNat := by
  obtain ⟨h1, h2, h3⟩ := h
  have hlt := lastIndex.toNat_lt
  rw [ValidIndices.firstIndex, UInt64.toNat_add, UInt64.toNat_sub, UInt32.toNat_toUInt64,
    show (1 : UInt64).toNat = 1 from rfl]
  omega

theorem startSeq (h : IsWindow lastIndex size) :
    (startSeq lastIndex size).toNat = (lastIndex.toNat + 1 - size.toNat) % 65536 := by
  rw [ValidIndices.startSeq, UInt64.toNat_toUInt16, h.firstIndex]

end IsWindow

theorem endSeq_toNat (lastIndex : UInt64) : (endSeq lastIndex).toNat = lastIndex.toNat % 65536 :=
  UInt64.toNat_toUInt16 _

/-- **In a window of two or more packets** the computed index is the stored one. -/
theorem validSeqIndex_eq (h : IsWindow lastIndex size) (hsize : 1 < size.toNat) (seqNum : UInt16) :
    (validSeqIndex lastIndex size seqNum).map UInt64.toNat =
      storedIndex lastIndex.toNat size.toNat seqNum.toNat := by
  have hstart := h.startSeq
  have hend := endSeq_toNat lastIndex
  have hfirst := h.firstIndex
  obtain ⟨-, h2, h3⟩ := h
  have hlast := lastIndex.toNat_lt
  have hseq : seqNum.toNat < 65536 := seqNum.toNat_lt
  rw [validSeqIndex]
  simp only [ge_iff_le, UInt16.le_iff_toNat_le]
  symm
  split_ifs with hlow hhigh
  · rw [Option.map_some, storedIndex_eq_some_iff h2 h3, UInt64.toNat_sub, UInt64.toNat_add,
      UInt16.toNat_toUInt64, UInt16.toNat_toUInt64, hfirst]
    unfold Stored
    omega
  · rw [Option.map_some, storedIndex_eq_some_iff h2 h3, UInt64.toNat_add, UInt64.toNat_sub,
      UInt16.toNat_toUInt64, UInt16.toNat_toUInt64]
    unfold Stored
    omega
  · rw [Option.map_none, storedIndex_eq_none_iff h2 h3]
    intro i hi hs
    unfold Stored at hi
    omega

/-- **In a window of one packet** every sequence number is found, and its index is that of the
packet only if it is that packet's number. -/
theorem validSeqIndex_one (lastIndex : UInt64) (seqNum : UInt16) :
    ∃ index, validSeqIndex lastIndex 1 seqNum = some index ∧
      (index = lastIndex ↔ seqNum = endSeq lastIndex) := by
  have hwindow : IsWindow lastIndex 1 := ⟨Nat.le_refl 1, by decide, Nat.le_add_left 1 _⟩
  have hone : (1 : UInt32).toNat = 1 := rfl
  have hstart := hwindow.startSeq
  have hend := endSeq_toNat lastIndex
  have hfirst := hwindow.firstIndex
  have hlast := lastIndex.toNat_lt
  have hseq : seqNum.toNat < 65536 := seqNum.toNat_lt
  rw [hone, Nat.add_sub_cancel] at hstart hfirst
  rw [validSeqIndex]
  simp only [ge_iff_le, UInt16.le_iff_toNat_le]
  split_ifs with hlow hhigh
  · refine ⟨_, rfl, ?_⟩
    rw [← UInt64.toNat_inj, ← UInt16.toNat_inj, UInt64.toNat_sub, UInt64.toNat_add,
      UInt16.toNat_toUInt64, UInt16.toNat_toUInt64, hfirst]
    omega
  · refine ⟨_, rfl, ?_⟩
    rw [← UInt64.toNat_inj, ← UInt16.toNat_inj, UInt64.toNat_add, UInt64.toNat_sub,
      UInt16.toNat_toUInt64, UInt16.toNat_toUInt64]
    omega
  · omega

/-- The index of `RtpRollingBuffer.validSeqIndex`, which counts without wrapping. -/
theorem validSeqIndex_rtpRollingBuffer (h : IsWindow lastIndex size) {b : RtpRollingBuffer}
    (hlast : b.lastIndex = lastIndex.toNat)
    (hsize : b.rollingBuffer.rollingBufferGetSize = size.toNat)
    (hroom : lastIndex.toNat + 65536 < 2 ^ 64) (seqNum : UInt16) :
    (validSeqIndex lastIndex size seqNum).map UInt64.toNat = b.validSeqIndex seqNum.toNat := by
  have hstart := h.startSeq
  have hend := endSeq_toNat lastIndex
  have hfirst := h.firstIndex
  have hseq : seqNum.toNat < 65536 := seqNum.toNat_lt
  obtain ⟨h1, -, h3⟩ := h
  rw [validSeqIndex, RtpRollingBuffer.validSeqIndex, RtpRollingBuffer.startIndex, hlast, hsize,
    ← hstart, ← hend, ← hfirst]
  simp only [ge_iff_le, UInt16.le_iff_toNat_le]
  rw [apply_ite (Option.map UInt64.toNat), apply_ite (Option.map UInt64.toNat), Option.map_some,
    Option.map_some, Option.map_none, UInt64.toNat_sub, UInt64.toNat_add, UInt64.toNat_add,
    UInt64.toNat_sub, UInt16.toNat_toUInt64, UInt16.toNat_toUInt64, UInt16.toNat_toUInt64]
  have hlow : (2 ^ 64 - (startSeq lastIndex size).toNat +
      ((firstIndex lastIndex size).toNat + seqNum.toNat) % 2 ^ 64) % 2 ^ 64 =
      (firstIndex lastIndex size).toNat + seqNum.toNat - (startSeq lastIndex size).toNat := by
    omega
  have hhigh : ((2 ^ 64 - (endSeq lastIndex).toNat + lastIndex.toNat) % 2 ^ 64 + seqNum.toNat) %
      2 ^ 64 =
      lastIndex.toNat - (endSeq lastIndex).toNat + seqNum.toNat := by
    omega
  rw [hlow, hhigh]

/-! ### The loop -/

theorem validIndexLoop_eq (sequenceNumberList : List UInt16) {found : List UInt64}
    (h : found.length < max validIndexListLen.toNat 1) :
    validIndexLoop lastIndex size validIndexListLen sequenceNumberList found =
      found ++ (sequenceNumberList.filterMap (validSeqIndex lastIndex size)).take
        (max validIndexListLen.toNat 1 - found.length) := by
  induction sequenceNumberList generalizing found with
  | nil => simp [validIndexLoop]
  | cons seqNum rest ih =>
    rw [validIndexLoop]
    cases hindex : validSeqIndex lastIndex size seqNum with
    | none =>
      rw [List.filterMap_cons_none hindex]
      exact ih h
    | some index =>
      obtain ⟨room, hroom⟩ : ∃ room, max validIndexListLen.toNat 1 - found.length = room + 1 :=
        ⟨max validIndexListLen.toNat 1 - found.length - 1, by omega⟩
      rw [List.filterMap_cons_some hindex, hroom, List.take_succ_cons]
      dsimp only
      split_ifs with hmore
      · have hlen : (found ++ [index]).length = found.length + 1 := by simp
        have hroom' : max validIndexListLen.toNat 1 - (found ++ [index]).length = room := by
          rw [hlen]
          omega
        rw [ih (by rw [hlen]; omega), hroom', List.append_assoc]
        rfl
      · have hzero : room = 0 := by omega
        rw [hzero, List.take_zero]

theorem getValidSeqIndexList_eq (h : IsWindow lastIndex size) :
    rtpRollingBufferGetValidSeqIndexList lastIndex size sequenceNumberList validIndexListLen =
      (sequenceNumberList.filterMap (validSeqIndex lastIndex size)).take
      (max validIndexListLen.toNat 1) := by
  have hpos : size > 0 := UInt32.lt_iff_toNat_lt.mpr h.size_pos
  have hroom : ([] : List UInt64).length < max validIndexListLen.toNat 1 :=
    Nat.lt_of_lt_of_le Nat.one_pos (Nat.le_max_right _ _)
  rw [rtpRollingBufferGetValidSeqIndexList, if_pos hpos, validIndexLoop_eq _ hroom]
  rfl

/-! ### One packet, and more -/

theorem map_filterMap_validSeqIndex (h : IsWindow lastIndex size) (hsize : 1 < size.toNat) :
    (sequenceNumberList.filterMap (validSeqIndex lastIndex size)).map UInt64.toNat =
      sequenceNumberList.filterMap fun seqNum =>
        storedIndex lastIndex.toNat size.toNat seqNum.toNat := by
  rw [List.map_filterMap]
  exact List.filterMap_congr fun seqNum _ => validSeqIndex_eq h hsize seqNum

theorem returnsStored_large (h : IsWindow lastIndex size) (hsize : 1 < size.toNat) :
    ReturnsStored lastIndex size sequenceNumberList validIndexListLen ↔ validIndexListLen ≠ 0 ∨
      ∀ seqNum ∈ sequenceNumberList, storedIndex lastIndex.toNat size.toNat seqNum.toNat =
        none := by
  rw [ReturnsStored, getValidSeqIndexList_eq h, List.map_take, map_filterMap_validSeqIndex h hsize]
  by_cases hcap : validIndexListLen = 0
  · -- one index is returned and none fits
    subst hcap
    show List.take 1 _ = [] ↔ _
    simp
  · have hpos : 1 ≤ validIndexListLen.toNat := Nat.pos_of_ne_zero fun hz =>
      hcap (UInt32.toNat_inj.mp hz)
    rw [Nat.max_eq_left hpos]
    exact iff_of_true rfl (.inl hcap)

theorem storedIndex_one (last : Nat) {s : Nat} :
    storedIndex last 1 s = if s = last % 65536 then some last else none := by
  simp [storedIndex, eq_comm]

/-- Entries that are all kept up to a length. -/
theorem take_filterMap_of_take {α β : Type*} {f : α → β} {k : α → Option β} {l : List α} {n : Nat}
    (h : ∀ a ∈ l.take n, k a = some (f a)) : (l.filterMap k).take n = (l.map f).take n := by
  induction l generalizing n with
  | nil => rfl
  | cons a l ih =>
    cases n with
    | zero => rfl
    | succ n =>
      rw [List.take_succ_cons] at h
      rw [List.filterMap_cons_some (h a List.mem_cons_self), List.map_cons, List.take_succ_cons,
        List.take_succ_cons, ih fun b hb => h b (List.mem_cons_of_mem a hb)]

theorem returnsStored_one (lastIndex : UInt64) :
    ReturnsStored lastIndex 1 sequenceNumberList validIndexListLen ↔
      if validIndexListLen = 0 then sequenceNumberList = []
      else ∀ seqNum ∈ sequenceNumberList.take validIndexListLen.toNat,
        seqNum = endSeq lastIndex := by
  have hwindow : IsWindow lastIndex 1 := ⟨Nat.le_refl 1, by decide, Nat.le_add_left 1 _⟩
  have hone : (1 : UInt32).toNat = 1 := rfl
  choose index hindex hsame using validSeqIndex_one lastIndex
  have hall : sequenceNumberList.filterMap (validSeqIndex lastIndex 1) =
      sequenceNumberList.map index := by
    rw [List.filterMap_congr fun seqNum _ => hindex seqNum]
    exact congrFun List.filterMap_eq_map' sequenceNumberList
  rw [ReturnsStored, getValidSeqIndexList_eq hwindow, hall, hone]
  split_ifs with hcap
  · subst hcap
    show ((sequenceNumberList.map index).take 1).map UInt64.toNat = [] ↔ _
    simp
  · have hpos : 1 ≤ validIndexListLen.toNat := Nat.pos_of_ne_zero fun hz =>
      hcap (UInt32.toNat_inj.mp hz)
    rw [Nat.max_eq_left hpos]
    constructor
    · intro h seqNum hmem
      -- every index that is returned is that of the packet
      have hreturned : (index seqNum).toNat ∈ ((sequenceNumberList.map index).take
          validIndexListLen.toNat).map UInt64.toNat := by
        rw [← List.map_take, List.map_map]
        exact List.mem_map_of_mem hmem
      rw [h] at hreturned
      obtain ⟨seqNum', -, hstored⟩ := List.mem_filterMap.mp (List.mem_of_mem_take hreturned)
      rw [storedIndex_one] at hstored
      split_ifs at hstored with hs
      exact (hsame seqNum).mp (UInt64.toNat_inj.mp (Option.some.inj hstored).symm)
    · intro h
      rw [List.map_take, List.map_map]
      symm
      apply take_filterMap_of_take
      intro seqNum hmem
      obtain rfl := h seqNum hmem
      rw [storedIndex_one, if_pos (endSeq_toNat lastIndex), Function.comp_apply, (hsame _).mpr rfl]

/-- **The valid indices** of a list of sequence numbers are the stored ones, in order and up to the
capacity, if and only if there is room for one (or none of the numbers has one) and, where the
buffer holds one packet, the numbers are that of the packet. -/
theorem returnsStored_iff (h : IsWindow lastIndex size) :
    ReturnsStored lastIndex size sequenceNumberList validIndexListLen ↔
      Unambiguous lastIndex size sequenceNumberList validIndexListLen := by
  rw [Unambiguous]
  split_ifs with hone hcap
  · subst hone
    rw [returnsStored_one, if_pos hcap]
  · subst hone
    rw [returnsStored_one, if_neg hcap]
  · have hne : size.toNat ≠ 1 := fun heq => hone (UInt32.toNat_inj.mp heq)
    have hpos := h.size_pos
    exact returnsStored_large h (by omega)

/-- Three packets across a multiple of 2^16; the second number is not one of theirs. -/
theorem returnsStored_wrap : ReturnsStored 65537 3 [1, 7, 65535] 8 :=
  (returnsStored_iff ⟨by decide, by decide, by decide⟩).mpr (.inl (by decide))

/-- The buffer holds the packet 7 only, and an index is returned for the number 9. -/
theorem not_returnsStored_one_packet : IsWindow 7 1 ∧ ¬ ReturnsStored 7 1 [9] 8 := by
  refine ⟨⟨by decide, by decide, by decide⟩, ?_⟩
  unfold ReturnsStored
  decide +kernel

end KvsWebrtc.ValidIndices
