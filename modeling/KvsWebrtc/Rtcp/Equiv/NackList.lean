import KvsWebrtc.PeerConnection.Retransmitter
import KvsWebrtc.Rtcp.NackList
import Mathlib.Data.UInt

/-!
# What is stored of a NACK

The loops push the sequence numbers of the payload in order.  A number is stored if the count is not
above the capacity, which lets one more number through than there is room for, and the count is
returned, which wraps.  So the list is what is meant if and only if all numbers fit and are fewer
than 2^16 (`listsNumbers_iff`).
-/

namespace KvsWebrtc.NackList

variable {payload : List UInt8} {len : Option UInt32} {capacity : UInt32}

/-! ### The loops push the numbers -/

theorem bit_ne_zero_iff (blp j : Nat) : (blp &&& (1 <<< j)) >>> j ≠ 0 ↔ blp.testBit j = true := by
  rw [Nat.shiftRight_and_distrib, Nat.shiftLeft_shiftRight, Nat.testBit, Nat.and_comm]
  simp

theorem foldl_bits (pid blp : UInt16) (js : List Nat) (s : Nacks) :
    js.foldl
        (fun s j =>
          if (blp.toNat &&& (1 <<< j)) >>> j ≠ 0 then s.push len (pid + UInt16.ofNat j + 1)
            else s) s =
      (((js.map (· + 1)).filter fun k => blp.toNat.testBit (k - 1)).map fun k =>
        pid + UInt16.ofNat k).foldl
        (Nacks.push len) s := by
  induction js generalizing s with
  | nil => rfl
  | cons j js ih =>
    rw [List.foldl_cons, List.map_cons, List.filter_cons, ih]
    simp only [bit_ne_zero_iff, Nat.add_sub_cancel]
    split_ifs with hbit
    · have hnext : pid + UInt16.ofNat j + 1 = pid + UInt16.ofNat (j + 1) := by
        rw [UInt16.ofNat_add, ← UInt16.add_assoc]
        rfl
      rw [List.map_cons, List.foldl_cons, hnext]
    · rfl

theorem entry_eq (pid blp : UInt16) (s : Nacks) :
    s.entry len pid blp = (entryNumbers pid blp).foldl (Nacks.push len) s := by
  rw [Nacks.entry, foldl_bits, entryNumbers, List.foldl_cons]

theorem nackLoop_eq (bytes : List UInt8) (s : Nacks) :
    nackLoop len bytes s = (numbersOf bytes).foldl (Nacks.push len) s := by
  fun_induction numbersOf bytes generalizing s with
  | case1 a b c d rest ih => rw [nackLoop, ih, entry_eq, List.foldl_append]
  | case2 bytes hshort =>
    rw [nackLoop]
    · rfl
    · exact hshort

/-! ### The numbers are counted in 16 bits -/

theorem foldl_push_count (numbers : List UInt16) (s : Nacks) :
    (numbers.foldl (Nacks.push len) s).sequenceNumberCount =
      s.sequenceNumberCount + UInt16.ofNat numbers.length := by
  induction numbers generalizing s with
  | nil => simp
  | cons x numbers ih =>
    rw [List.foldl_cons, ih, List.length_cons, UInt16.ofNat_add, UInt16.add_comm (UInt16.ofNat _),
      ← UInt16.add_assoc]
    rfl

theorem foldl_push_none (numbers : List UInt16) (s : Nacks) :
    (numbers.foldl (Nacks.push none) s).stores = s.stores := by
  induction numbers generalizing s with
  | nil => rfl
  | cons x numbers ih => rw [List.foldl_cons, ih, Nacks.push]

theorem inOrder_append (numbers : List UInt16) (x : UInt16) :
    inOrder (numbers ++ [x]) = inOrder numbers ++ [(numbers.length, x)] := by
  simp [inOrder, List.zipIdx_append]

@[simp] theorem length_inOrder (numbers : List UInt16) :
    (inOrder numbers).length = numbers.length := by
  simp [inOrder]

/-- **The stores**: one number more than the capacity. -/
theorem foldl_push_some (numbers : List UInt16) (h : numbers.length ≤ 65536) :
    (numbers.foldl (Nacks.push (some capacity)) ⟨0, []⟩).stores =
      inOrder (numbers.take (capacity.toNat + 1)) := by
  induction numbers using List.reverseRecOn with
  | nil => rfl
  | append_singleton numbers x ih =>
    rw [List.length_append, List.length_singleton] at h
    have hcount : (numbers.foldl (Nacks.push (some capacity)) ⟨0, []⟩).sequenceNumberCount.toNat =
        numbers.length := by
      rw [foldl_push_count, UInt16.zero_add, UInt16.toNat_ofNat']
      omega
    rw [List.foldl_append, List.foldl_cons, List.foldl_nil, Nacks.push]
    dsimp only
    rw [hcount, ih (by omega)]
    split_ifs with hroom
    · rw [List.take_of_length_le (by omega), List.take_of_length_le (by simp; omega),
        inOrder_append]
    · rw [List.take_append_of_le_length (by omega)]

/-! ### What a call returns -/

/-- **What a call returns** for a payload of whole entries. -/
theorem rtcpNackListGet_eq (hlen : rtcpNackListLen ≤ payload.length)
    (hfour : payload.length % 4 = 0) :
    ∃ r, rtcpNackListGet payload len = .ok r ∧
      r.stores = ((nackNumbers payload).foldl (Nacks.push len) ⟨0, []⟩).stores ∧
      r.sequenceNumberListLen.toNat = (nackNumbers payload).length % 65536 := by
  rw [rtcpNackListGet, if_pos ⟨hlen, hfour⟩]
  refine ⟨_, rfl, ?_, ?_⟩
  · rw [nackLoop_eq, nackNumbers]
  · dsimp only
    rw [nackLoop_eq, foldl_push_count, UInt16.zero_add, UInt16.toNat_toUInt32, UInt16.toNat_ofNat']
    rfl

/-- **The list of a NACK** is stored and counted as meant if and only if there are no more sequence
numbers than the list has room for, and fewer than 2^16. -/
theorem listsNumbers_iff (hlen : rtcpNackListLen ≤ payload.length) (hfour : payload.length % 4 = 0)
    (capacity : UInt32) :
    ListsNumbers payload capacity ↔
      (nackNumbers payload).length ≤ capacity.toNat ∧ (nackNumbers payload).length < 2 ^ 16 := by
  obtain ⟨r, hr, hstores, hcount⟩ := @rtcpNackListGet_eq payload (some capacity) hlen hfour
  obtain ⟨r₀, hr₀, hstores₀, hcount₀⟩ := @rtcpNackListGet_eq payload none hlen hfour
  rw [foldl_push_none] at hstores₀
  constructor
  · rintro ⟨⟨r', hr', hlist, -, -⟩, ⟨r₀', hr₀', -, hall⟩⟩
    obtain rfl := Except.ok.inj (hr.symm.trans hr')
    obtain rfl := Except.ok.inj (hr₀.symm.trans hr₀')
    have hlt : (nackNumbers payload).length < 2 ^ 16 := by omega
    refine ⟨?_, hlt⟩
    -- one more number is stored than there is room for, unless there are no more numbers
    rw [hstores, foldl_push_some _ (Nat.le_of_lt hlt)] at hlist
    have hlength := congrArg List.length hlist
    rw [length_inOrder, length_inOrder, List.length_take, List.length_take] at hlength
    omega
  · rintro ⟨hroom, hlt⟩
    have hall : r.stores = inOrder (nackNumbers payload) := by
      rw [hstores, foldl_push_some _ (Nat.le_of_lt hlt), List.take_of_length_le (by omega)]
    refine ⟨⟨r, hr, ?_, ?_, ?_⟩, ⟨r₀, hr₀, hstores₀, by omega⟩⟩
    · rw [hall, List.take_of_length_le hroom]
    · intro store hmem
      rw [hall, inOrder, List.mem_map] at hmem
      obtain ⟨⟨x, i⟩, hi, rfl⟩ := hmem
      have hi : i < (nackNumbers payload).length := by simpa using (List.mem_zipIdx hi).2.1
      exact Nat.lt_of_lt_of_le hi hroom
    · rw [hall, length_inOrder, hcount]
      exact Nat.mod_eq_of_lt hlt

/-- Three numbers of one entry across the wrap, and a list of three. -/
theorem listsNumbers_wrap :
    ListsNumbers [0, 0, 0, 1, 0, 0, 0, 2, 0xff, 0xff, 0x00, 0x03] 3 :=
  (listsNumbers_iff (by decide) (by decide) 3).mpr (by decide +kernel)

/-- Two numbers and a list of one: the second number is stored behind the end of the list, and the
count is two. -/
theorem not_listsNumbers_two : ¬ ListsNumbers [0, 0, 0, 1, 0, 0, 0, 2, 0, 5, 0, 1] 1 := by
  rintro ⟨⟨r, hr, -, hroom, -⟩, -⟩
  have hstore : (1, 6) ∈ r.stores := by
    have hstored : rtcpNackListGet [0, 0, 0, 1, 0, 0, 0, 2, 0, 5, 0, 1] (some 1) =
        .ok ⟨1, 2, 2, [(0, 5), (1, 6)]⟩ := by decide +kernel
    obtain rfl := Except.ok.inj (hr.symm.trans hstored)
    decide
  exact absurd (hroom _ hstore) (by decide)

/-! ### The list of a retransmitter -/

theorem nackEntry_eq (pid blp : UInt16) :
    nackEntry pid.toNat blp.toNat = (entryNumbers pid blp).map UInt16.toNat := by
  rw [nackEntry, entryNumbers, List.map_cons, List.map_map, List.filter_map, List.map_map]
  congr 1
  generalize List.range 16 = js
  induction js with
  | nil => rfl
  | cons j js ih =>
    simp only [Nat.add_assoc] at ih
    cases hbit : blp.toNat.testBit j <;> simp [hbit, ih, Nat.add_assoc]

/-- The numbers of `nackNumbers`, as the retransmitter counts them. -/
theorem map_numbersOf (bytes : List UInt8) :
    KvsWebrtc.nackNumbers bytes = (numbersOf bytes).map UInt16.toNat := by
  have hint : ∀ a b : UInt8, int16Of a b = (getInt16 a b).toNat := by
    intro a b
    have ha := a.toNat_lt
    have hb := b.toNat_lt
    simp only [int16Of, getInt16, beNat, UInt16.toNat_ofNat', List.length_cons, List.length_nil,
      pow_zero]
    omega
  fun_induction numbersOf bytes with
  | case1 a b c d rest ih =>
    rw [KvsWebrtc.nackNumbers, hint, hint, nackEntry_eq, ih, List.map_append]
  | case2 bytes hshort =>
    rw [KvsWebrtc.nackNumbers]
    · rfl
    · exact hshort

def applyStores (stores : List (Nat × UInt16)) (memory : Cells) : Cells :=
  stores.foldl (fun memory store => Function.update memory store.1 store.2.toNat) memory

theorem storeNumbers_eq (numbers : List UInt16) (s : Nacks) (memory : Cells) :
    storeNumbers capacity.toNat s.sequenceNumberCount.toNat (applyStores s.stores memory)
        (numbers.map UInt16.toNat) =
      ((numbers.foldl (Nacks.push (some capacity)) s).sequenceNumberCount.toNat,
        applyStores (numbers.foldl (Nacks.push (some capacity)) s).stores memory) := by
  induction numbers generalizing s with
  | nil => rfl
  | cons x numbers ih =>
    rw [List.map_cons, storeNumbers, List.foldl_cons, ← ih, Nacks.push]
    have hcount : (s.sequenceNumberCount + 1).toNat = (s.sequenceNumberCount.toNat + 1) % 65536 :=
      UInt16.toNat_add _ _
    rw [hcount]
    congr 1
    split_ifs with hroom
    · rw [applyStores, applyStores, List.foldl_append]
      rfl
    · rfl

/-- **The list of a retransmitter** is written by the same stores. -/
theorem rtcpNackListGet_retransmitter {r : Retransmitter}
    (hcapacity : r.seqNumListLen = capacity.toNat) (hlen : rtcpNackListLen ≤ payload.length)
    (hfour : payload.length % 4 = 0) :
    ∃ result, rtcpNackListGet payload (some capacity) = .ok result ∧
      KvsWebrtc.rtcpNackListGet r payload =
        (result.sequenceNumberListLen.toNat, applyStores result.stores r.memory) := by
  refine ⟨_, if_pos ⟨hlen, hfour⟩, ?_⟩
  have hstores := @storeNumbers_eq capacity (nackNumbers payload) ⟨0, []⟩ r.memory
  dsimp only
  rw [KvsWebrtc.rtcpNackListGet, hcapacity, map_numbersOf, nackLoop_eq]
  exact hstores

end KvsWebrtc.NackList
