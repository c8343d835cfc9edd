import KvsWebrtc.Rtcp.RollingBuffer
import Mathlib.Data.Nat.ModEq
import Mathlib.Tactic.SplitIfs

/-!
# Rolling buffers without holes

A buffer that is only appended to holds an item at every index from tail to head (`HoleFree`).
Taking an item out and putting it back at the same index restores such a buffer; putting it anywhere
else frees an item.
-/

namespace KvsWebrtc.RollingBuffer

variable {α : Type*} {b : RollingBuffer α} {i j : Nat} {x : α}

/-- Every index from tail to head holds an item, and the indices have slots of their own. -/
structure HoleFree (b : RollingBuffer α) : Prop where
  capacity_pos : 0 < b.capacity
  tail_le_head : b.tailIndex ≤ b.headIndex
  size_le : b.headIndex - b.tailIndex ≤ b.capacity
  items : ∀ i, b.InRange i → b.itemAt i ≠ none

/-- The indices from tail to head have slots of their own. -/
theorem mapIndex_inj (hsize : b.headIndex - b.tailIndex ≤ b.capacity) (hi : b.InRange i)
    (hj : b.InRange j) (heq : b.mapIndex i = b.mapIndex j) : i = j := by
  obtain ⟨hi1, hi2⟩ := hi
  obtain ⟨hj1, hj2⟩ := hj
  -- two indices with the same slot differ by a multiple of the capacity
  wlog hle : i ≤ j generalizing i j with hsymm
  · exact (hsymm heq.symm hj1 hj2 hi1 hi2 (by omega)).symm
  have hdvd : b.capacity ∣ j - i := (Nat.modEq_iff_dvd' hle).mp heq
  have hzero := Nat.eq_zero_of_dvd_of_lt hdvd (by omega)
  omega

@[simp] theorem inRange_set (d : Option α) : (b.set j d).InRange i ↔ b.InRange i := Iff.rfl

theorem itemAt_set_self (d : Option α) : (b.set i d).itemAt i = d := by
  unfold itemAt set mapIndex
  exact Function.update_self _ _ _

theorem itemAt_set_ne (hsize : b.headIndex - b.tailIndex ≤ b.capacity) (hi : b.InRange i)
    (hj : b.InRange j) (hne : i ≠ j) (d : Option α) : (b.set j d).itemAt i = b.itemAt i := by
  unfold itemAt set mapIndex
  exact Function.update_of_ne (fun heq => hne (mapIndex_inj hsize hi hj heq)) _ _

/-- An item that is put back where it was restores the buffer. -/
theorem set_set_self (hx : b.itemAt i = some x) :
    (((b.set i none).free ((b.set i none).itemAt i)).set i (some x)) = b := by
  have hslot : b.dataBuffer (b.mapIndex i) = some x := hx
  rw [itemAt_set_self]
  unfold set free mapIndex at *
  dsimp only
  rw [Function.update_idem, ← hslot, Function.update_eq_self, Option.toList_none, List.append_nil]

/-! ### The operations -/

theorem createRollingBuffer_holeFree {capacity : Nat}
    (h : createRollingBuffer capacity = .ok b) : HoleFree b := by
  unfold createRollingBuffer at h
  split_ifs at h with hc
  obtain rfl := Except.ok.inj h
  exact
    { capacity_pos := Nat.pos_of_ne_zero hc
      tail_le_head := Nat.le_refl 0
      size_le := Nat.zero_le _
      items := fun i hi => absurd hi.1 (Nat.not_lt_zero i) }

theorem headIndex_append (b : RollingBuffer α) (x : α) :
    (b.rollingBufferAppendData x).1.headIndex = b.headIndex + 1 := by
  unfold rollingBufferAppendData
  split_ifs with hempty
  · rw [hempty]
  · rfl
  · rfl

/-- The slot of the head is no other item's while there is room. -/
theorem mapIndex_ne_head (hroom : b.headIndex - b.tailIndex < b.capacity) (hi : b.InRange i) :
    b.mapIndex i ≠ b.mapIndex b.headIndex := by
  obtain ⟨hlt, hle⟩ := hi
  intro heq
  have hdvd : b.capacity ∣ b.headIndex - i := (Nat.modEq_iff_dvd' (by omega)).mp heq
  have hzero := Nat.eq_zero_of_dvd_of_lt hdvd (by omega)
  omega

/-- Writing at the head index makes room for one more item. -/
theorem HoleFree.push (h : HoleFree b) (hroom : b.headIndex - b.tailIndex < b.capacity) (x : α) :
    HoleFree { b.set b.headIndex (some x) with headIndex := b.headIndex + 1 } := by
  have htail := h.tail_le_head
  refine
    { capacity_pos := h.capacity_pos
      tail_le_head := Nat.le_succ_of_le htail
      size_le := by
        show b.headIndex + 1 - b.tailIndex ≤ b.capacity
        omega
      items := fun i hi => ?_ }
  obtain ⟨hi1, hi2⟩ := hi
  have hi1' : i < b.headIndex + 1 := hi1
  have hi2' : b.tailIndex ≤ i := hi2
  by_cases hlast : i = b.headIndex
  · subst hlast
    have hitem : (b.set b.headIndex (some x)).itemAt b.headIndex = some x :=
      itemAt_set_self (some x)
    exact hitem.trans_ne (Option.some_ne_none x)
  · have hi : b.InRange i := ⟨by omega, hi2'⟩
    have hitem : (b.set b.headIndex (some x)).itemAt i = b.itemAt i :=
      Function.update_of_ne (mapIndex_ne_head hroom hi) _ _
    exact hitem.trans_ne (h.items i hi)

theorem HoleFree.shift (h : HoleFree b) (hne : b.tailIndex < b.headIndex) (d : Option α) :
    HoleFree { b.free d with tailIndex := b.tailIndex + 1 } := by
  have hsize := h.size_le
  exact
    { capacity_pos := h.capacity_pos
      tail_le_head := hne
      size_le := by
        show b.headIndex - (b.tailIndex + 1) ≤ b.capacity
        omega
      items := fun i hi => h.items i ⟨hi.1, Nat.le_of_succ_le hi.2⟩ }

/-- **Appending leaves no hole.** -/
theorem HoleFree.append (h : HoleFree b) (x : α) :
    HoleFree (b.rollingBufferAppendData x).1 := by
  have hpos := h.capacity_pos
  have htail := h.tail_le_head
  have hsize := h.size_le
  unfold rollingBufferAppendData
  split_ifs with hempty hfull
  · have hpush := h.push (by omega) x
    rw [hempty] at hpush
    exact hpush
  · exact (h.shift (by omega) _).push (by
      show b.headIndex - (b.tailIndex + 1) < b.capacity
      omega) x
  · exact h.push (by omega) x

/-- **What an append does to the items**: the new one is the last, and the others are those of
before. -/
theorem HoleFree.itemAt_append (h : HoleFree b) (x : α)
    (hi : (b.rollingBufferAppendData x).1.InRange i) :
    (i = b.headIndex ∧ (b.rollingBufferAppendData x).1.itemAt i = some x) ∨
      (b.InRange i ∧ (b.rollingBufferAppendData x).1.itemAt i = b.itemAt i) := by
  have hsize := h.size_le
  have hpos := h.capacity_pos
  have hlt : i < b.headIndex + 1 := headIndex_append b x ▸ hi.1
  by_cases hlast : i = b.headIndex
  · left
    refine ⟨hlast, ?_⟩
    subst hlast
    unfold rollingBufferAppendData
    split_ifs with hempty hfull
    · rw [hempty]
      exact Function.update_self _ _ _
    · exact Function.update_self _ _ _
    · exact Function.update_self _ _ _
  · right
    unfold rollingBufferAppendData at hi ⊢
    split_ifs at hi ⊢ with hempty hfull
    · have htail : b.tailIndex ≤ i := hi.2
      omega
    · -- the slot is that of the item that has been freed
      have htail : b.tailIndex + 1 ≤ i := hi.2
      refine ⟨⟨by omega, by omega⟩, ?_⟩
      apply Function.update_of_ne
      apply mapIndex_ne_head (b := { b.free (b.itemAt b.tailIndex) with
        tailIndex := b.tailIndex + 1 })
      · show b.headIndex - (b.tailIndex + 1) < b.capacity
        omega
      · exact ⟨show i < b.headIndex by omega, htail⟩
    · have htail : b.tailIndex ≤ i := hi.2
      have hin : b.InRange i := ⟨by omega, htail⟩
      exact ⟨hin, Function.update_of_ne (mapIndex_ne_head (by omega) hin) _ _⟩

/-- Takes the item `x` out at `i` and puts it in at `j`, or frees it if that is out of range. -/
def putBack (b : RollingBuffer α) (i j : Nat) (x : α) : RollingBuffer α :=
  let (status, b) := (b.set i none).rollingBufferInsertData j x
  if status = .rollingBufferNotInRange then b.free (some x) else b

theorem putBack_of_inRange (hj : b.InRange j) :
    b.putBack i j x = ((b.set i none).free ((b.set i none).itemAt j)).set j (some x) := by
  unfold putBack rollingBufferInsertData
  rw [if_pos ((inRange_set none).mpr hj)]
  rfl

theorem putBack_of_not_inRange (hj : ¬ b.InRange j) :
    b.putBack i j x = (b.set i none).free (some x) := by
  unfold putBack rollingBufferInsertData
  rw [if_neg (mt (inRange_set none).mp hj)]
  rfl

theorem putBack_self (hi : b.InRange i) (hx : b.itemAt i = some x) : b.putBack i i x = b := by
  rw [putBack_of_inRange hi]
  exact set_set_self hx

/-- An item that is put anywhere else replaces another one or is lost: something is freed. -/
theorem HoleFree.putBack_ne (h : HoleFree b) (hi : b.InRange i) (hne : j ≠ i) :
    ∃ y, (b.putBack i j x).freed = b.freed ++ [y] := by
  by_cases hj : b.InRange j
  · obtain ⟨y, hy⟩ := Option.ne_none_iff_exists'.mp (h.items j hj)
    refine ⟨y, ?_⟩
    rw [putBack_of_inRange hj, itemAt_set_ne h.size_le hj hi hne, hy]
    rfl
  · rw [putBack_of_not_inRange hj]
    exact ⟨x, rfl⟩

theorem putBack_freed : ∃ more, (b.putBack i j x).freed = b.freed ++ more := by
  by_cases hj : b.InRange j
  · rw [putBack_of_inRange hj]
    exact ⟨_, rfl⟩
  · rw [putBack_of_not_inRange hj]
    exact ⟨_, rfl⟩

end KvsWebrtc.RollingBuffer
