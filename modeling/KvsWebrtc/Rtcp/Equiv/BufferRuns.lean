import KvsWebrtc.Common.HoledQueue
import KvsWebrtc.Common.Run
import KvsWebrtc.Rtcp.Equiv.RollingBuffer

/-!
# Rolling buffers as bounded queues with holes

A rolling buffer of capacity `n` is the queue that keeps the last `n` items (`Refines`): an index is
the place of a queue, the ring has the items of the window, and what the buffer frees is what the
queue drops.  So in every run of calls through a handle the indices are consecutive, an extract
gives what the queue has in its place, and every item that was stored has been freed once, was taken
out, or is still in the buffer (`BufferRun.behaves_along`).
-/

namespace KvsWebrtc.RollingBuffer

open HoledQueue

variable {α : Type*} {b : RollingBuffer α} {h : List (Call α)} {n i : Nat} {x : α}

def items (b : RollingBuffer α) : List α :=
  (List.range' b.tailIndex b.rollingBufferGetSize).filterMap b.itemAt

/-- A call through a handle. -/
inductive BufferCall (α : Type*)
  | append (data : α)
  | insert (index : Nat) (data : α)
  | extract (index : Nat)
  | free

/-- A buffer, whether its handle is still there, and the calls that were made through it, the last
one first. -/
structure BufferRun (α : Type*) where
  buffer : RollingBuffer α
  live : Bool
  history : List (Call α)

namespace BufferRun

/-- A call through a `NULL` handle is refused, or has nothing to free. -/
def step (r : BufferRun α) (call : BufferCall α) : BufferRun α :=
  if r.live then
    match call with
    | .append data =>
      { r with
        buffer := (r.buffer.rollingBufferAppendData data).1
        history := .append data :: r.history }
    | .insert index data =>
      { r with
        buffer := (r.buffer.rollingBufferInsertData index data).2
        history := .insert index data :: r.history }
    | .extract index =>
      { r with
        buffer := (r.buffer.rollingBufferExtractData index).2
        history := .extract index :: r.history }
    | .free => { r with buffer := r.buffer.freeRollingBuffer, live := false }
  else r

/-- What a buffer of capacity `n` is to do. -/
structure Behaves (n : Nat) (r : BufferRun α) : Prop where
  tail_le_head : r.buffer.tailIndex ≤ r.buffer.headIndex
  size_le : r.buffer.headIndex - r.buffer.tailIndex ≤ n
  /-- An append returns how many items have been appended. -/
  append : r.live → ∀ data, (r.buffer.rollingBufferAppendData data).2 = appended r.history
  insert : r.live → ∀ index data, (r.buffer.rollingBufferInsertData index data).1
    = if InWindow n r.history index then .success else .rollingBufferNotInRange
  /-- An extract gives what was last stored at the index, if it is one of the last `n` and the item
  has not been taken out since. -/
  extract : r.live → ∀ index, (r.buffer.rollingBufferExtractData index).1
    = if InWindow n r.history index then lastStored n r.history index else none
  /-- Every item that was stored has been freed, was taken out, or is in the buffer. -/
  ledger : (stored n r.history).Perm (r.buffer.freed ++ taken n r.history ++ r.buffer.items)
  /-- Nothing is left behind. -/
  destroyed : r.live = false → r.buffer.items = []

end BufferRun

/-- The buffer is the queue that these calls make. -/
structure Refines (n : Nat) (b : RollingBuffer α) (h : List (Call α)) : Prop where
  capacity : b.capacity = n
  headIndex : b.headIndex = appended h
  tailIndex : b.tailIndex = appended h - n
  items : ∀ i, InWindow n h i → b.itemAt i = lastStored n h i
  freed : b.freed = dropped n h

theorem createRollingBuffer_refines (h : createRollingBuffer n = .ok b) : Refines n b [] := by
  unfold createRollingBuffer at h
  split_ifs at h
  obtain rfl := Except.ok.inj h
  exact
    { capacity := rfl
      headIndex := rfl
      tailIndex := (Nat.zero_sub n).symm
      items := fun i hi => absurd hi.1 (Nat.not_lt_zero i)
      freed := rfl }

namespace Refines

theorem inRange_iff (hr : Refines n b h) : b.InRange i ↔ InWindow n h i := by
  simp only [InRange, InWindow, hr.headIndex, hr.tailIndex]
  omega

theorem size_le (hr : Refines n b h) : b.headIndex - b.tailIndex ≤ b.capacity := by
  rw [hr.headIndex, hr.tailIndex, hr.capacity]
  omega

theorem items_eq (hr : Refines n b h) : b.items = held n h := by
  have hwindow : List.range' b.tailIndex b.rollingBufferGetSize = window n h := by
    simp only [rollingBufferGetSize, window, hr.headIndex, hr.tailIndex]
    congr 1
    omega
  rw [RollingBuffer.items, hwindow, held]
  apply List.filterMap_congr
  intro i hi
  exact hr.items i (mem_window.mp hi)

theorem append_index (hr : Refines n b h) (x : α) :
    (b.rollingBufferAppendData x).2 = appended h := by
  have hhead := hr.headIndex
  unfold rollingBufferAppendData
  split_ifs with hempty hfull
  · exact hempty.symm.trans hhead
  · exact hhead
  · exact hhead

theorem append (hr : Refines n b h) (hn : 0 < n) (x : α) :
    Refines n (b.rollingBufferAppendData x).1 (.append x :: h) := by
  have hhead := hr.headIndex
  have htail := hr.tailIndex
  have hcap := hr.capacity
  -- the new item has the slot of its index, and the others keep theirs
  have hitems : ∀ {d : RollingBuffer α}, d.capacity = n → d.headIndex = appended h →
      d.tailIndex = appended h + 1 - n → d.dataBuffer = b.dataBuffer →
      ∀ i, InWindow n (.append x :: h) i →
        (d.set (appended h) (some x)).itemAt i = lastStored n (.append x :: h) i := by
    intro d hdcap hdhead hdtail hdata i hi
    obtain ⟨hi1, hi2⟩ := hi
    simp only [appended_append] at hi1 hi2
    by_cases hlast : i = appended h
    · rw [hlast, itemAt_set_self, lastStored_append_self]
    · have hin : d.InRange i := ⟨by omega, by omega⟩
      have hslot := mapIndex_ne_head (by omega) hin
      rw [lastStored_append_ne hlast, ← hr.items i ⟨by omega, by omega⟩]
      rw [hdhead] at hslot
      have hset : (d.set (appended h) (some x)).itemAt i = d.itemAt i :=
        Function.update_of_ne hslot _ _
      rw [hset]
      simp only [itemAt, mapIndex, hdcap, hcap, hdata]
  unfold rollingBufferAppendData
  split_ifs with hempty hfull
  · -- an empty buffer whose window is not full
    have hzero : appended h = 0 := by omega
    have hlt : appended h < n := by omega
    have htail0 : b.tailIndex = appended h := by omega
    exact
      { capacity := hcap
        headIndex := by simp [htail0]
        tailIndex := by
          show b.tailIndex = appended h + 1 - n
          omega
        items := by
          rw [htail0]
          exact hitems hcap hhead (by omega) rfl
        freed := by
          show b.freed = dropped n (.append x :: h)
          simp [dropped, hlt, hr.freed] }
  · have hle : n ≤ appended h := by omega
    exact
      { capacity := hcap
        headIndex := by
          show b.headIndex + 1 = appended h + 1
          omega
        tailIndex := by
          show b.tailIndex + 1 = appended h + 1 - n
          omega
        items := by
          have hset := hitems (d := { b.free (b.itemAt b.tailIndex) with
            tailIndex := b.tailIndex + 1 })
            hcap hhead (show b.tailIndex + 1 = _ by omega) rfl
          rw [← hhead] at hset
          exact hset
        freed := by
          show b.freed ++ (b.itemAt b.tailIndex).toList = dropped n (.append x :: h)
          rw [hr.items b.tailIndex ⟨by omega, by omega⟩, htail, hr.freed]
          simp [dropped, Nat.not_lt.mpr hle] }
  · have hlt : appended h < n := by omega
    exact
      { capacity := hcap
        headIndex := by
          show b.headIndex + 1 = appended h + 1
          omega
        tailIndex := by
          show b.tailIndex = appended h + 1 - n
          omega
        items := by
          have hset := hitems hcap hhead (by omega) rfl
          rw [← hhead] at hset
          exact hset
        freed := by
          show b.freed = dropped n (.append x :: h)
          simp [dropped, hlt, hr.freed] }

theorem itemAt_set (hr : Refines n b h) (hi : InWindow n h i) (d : Option α) {j : Nat}
    (hj : InWindow n h j) :
    (b.set i d).itemAt j = Function.update (lastStored n h) i d j := by
  by_cases heq : j = i
  · rw [heq, itemAt_set_self, Function.update_self]
  · rw [itemAt_set_ne hr.size_le (hr.inRange_iff.mpr hj) (hr.inRange_iff.mpr hi) heq,
      Function.update_of_ne heq, hr.items j hj]

theorem insert (hr : Refines n b h) (i : Nat) (x : α) :
    Refines n (b.rollingBufferInsertData i x).2 (.insert i x :: h) := by
  unfold rollingBufferInsertData
  split_ifs with hi
  · rw [hr.inRange_iff] at hi
    exact
      { capacity := hr.capacity
        headIndex := hr.headIndex
        tailIndex := hr.tailIndex
        items := fun j hj => by
          rw [lastStored_insert hi]
          exact hr.itemAt_set hi (some x) hj
        freed := by
          show b.freed ++ (b.itemAt i).toList = dropped n (.insert i x :: h)
          simp [dropped, item, hi, hr.freed, hr.items i hi] }
  · rw [hr.inRange_iff] at hi
    exact
      { capacity := hr.capacity
        headIndex := hr.headIndex
        tailIndex := hr.tailIndex
        items := fun j hj => by
          rw [lastStored_insert_of_not hi]
          exact hr.items j hj
        freed := by simp [dropped, item, hi, hr.freed] }

theorem insert_status (hr : Refines n b h) (i : Nat) (x : α) :
    (b.rollingBufferInsertData i x).1
      = if InWindow n h i then .success else .rollingBufferNotInRange := by
  unfold rollingBufferInsertData
  simp only [hr.inRange_iff]
  split_ifs <;> rfl

theorem extract (hr : Refines n b h) (i : Nat) :
    Refines n (b.rollingBufferExtractData i).2 (.extract i :: h) := by
  unfold rollingBufferExtractData
  split_ifs with hi
  · rw [hr.inRange_iff] at hi
    exact
      { capacity := hr.capacity
        headIndex := hr.headIndex
        tailIndex := hr.tailIndex
        items := fun j hj => by
          rw [lastStored_extract hi]
          exact hr.itemAt_set hi none hj
        freed := hr.freed }
  · rw [hr.inRange_iff] at hi
    exact
      { capacity := hr.capacity
        headIndex := hr.headIndex
        tailIndex := hr.tailIndex
        items := fun j hj => by
          rw [lastStored_extract_of_not hi]
          exact hr.items j hj
        freed := hr.freed }

theorem extract_item (hr : Refines n b h) (i : Nat) :
    (b.rollingBufferExtractData i).1 = if InWindow n h i then lastStored n h i else none := by
  unfold rollingBufferExtractData
  simp only [hr.inRange_iff]
  split_ifs with hi
  · exact hr.items i hi
  · rfl

end Refines

/-! ### Destruction -/

/-- The loop frees what is from tail to head, in that order, and ends at the head. -/
theorem freeItems_spec (rounds : Nat) (b : RollingBuffer α)
    (hsize : b.headIndex - b.tailIndex ≤ b.capacity) (hrounds : b.headIndex - b.tailIndex = rounds)
    (hle : b.tailIndex ≤ b.headIndex) :
    (freeItems rounds b).tailIndex = b.headIndex ∧ (freeItems rounds b).headIndex = b.headIndex ∧
      (freeItems rounds b).freed = b.freed ++ (List.range' b.tailIndex rounds).filterMap
        b.itemAt := by
  induction rounds generalizing b with
  | zero =>
    refine ⟨?_, rfl, by simp [freeItems]⟩
    show b.tailIndex = b.headIndex
    omega
  | succ rounds ih =>
    have hlt : b.tailIndex < b.headIndex := by omega
    set c : RollingBuffer α :=
      { (b.free (b.itemAt b.tailIndex)).set b.tailIndex none with
      tailIndex := b.tailIndex + 1 } with hc
    have hstep : freeItems (rounds + 1) b = freeItems rounds c := by
      rw [freeItems, if_pos hlt]
      rfl
    obtain ⟨htail, hhead, hfreed⟩ := ih c (show b.headIndex - (b.tailIndex + 1) ≤ b.capacity by
      omega)
      (show b.headIndex - (b.tailIndex + 1) = rounds by omega) hlt
    -- the slots of the later indices are as they were
    have hrest : (List.range' (b.tailIndex + 1) rounds).filterMap c.itemAt
        = (List.range' (b.tailIndex + 1) rounds).filterMap b.itemAt := by
      apply List.filterMap_congr
      intro i hi
      rw [List.mem_range'_1] at hi
      exact itemAt_set_ne (b := b.free (b.itemAt b.tailIndex)) hsize
        ⟨by show i < b.headIndex; omega,
        by show b.tailIndex ≤ i; omega⟩ ⟨hlt, Nat.le_refl _⟩ (by omega) none
    refine ⟨hstep ▸ htail, hstep ▸ hhead, ?_⟩
    rw [hstep, hfreed]
    show b.freed ++ (b.itemAt b.tailIndex).toList
      ++ (List.range' (b.tailIndex + 1) rounds).filterMap c.itemAt = _
    rw [hrest, List.range'_succ]
    cases hitem : b.itemAt b.tailIndex with
    | none => simp [List.filterMap_cons_none hitem]
    | some y => simp [List.filterMap_cons_some hitem]

theorem freeRollingBuffer_spec (hsize : b.headIndex - b.tailIndex ≤ b.capacity)
    (hle : b.tailIndex ≤ b.headIndex) :
    b.freeRollingBuffer.tailIndex = b.headIndex ∧ b.freeRollingBuffer.headIndex = b.headIndex ∧
      b.freeRollingBuffer.freed = b.freed ++ b.items :=
  freeItems_spec b.rollingBufferGetSize b hsize rfl hle

/-! ### Runs -/

namespace BufferRun

/-- What holds in every state of a run. -/
structure Inv (n : Nat) (r : BufferRun α) : Prop where
  refines : r.live → Refines n r.buffer r.history
  freed : r.live = false → r.buffer.tailIndex = r.buffer.headIndex ∧
    r.buffer.freed = dropped n r.history ++ held n r.history

/-- **One call.** -/
theorem Inv.step {r : BufferRun α} (hinv : Inv n r) (hn : 0 < n) (call : BufferCall α) :
    Inv n (r.step call) := by
  unfold BufferRun.step
  split_ifs with hlive
  · have hr := hinv.refines hlive
    cases call with
    | append data =>
      exact
        { refines := fun _ => hr.append hn data
          freed := fun hdead => absurd (hlive.symm.trans hdead) (by simp) }
    | insert index data =>
      exact
        { refines := fun _ => hr.insert index data
          freed := fun hdead => absurd (hlive.symm.trans hdead) (by simp) }
    | extract index =>
      exact
        { refines := fun _ => hr.extract index
          freed := fun hdead => absurd (hlive.symm.trans hdead) (by simp) }
    | free =>
      have hle : r.buffer.tailIndex ≤ r.buffer.headIndex := by
        rw [hr.headIndex, hr.tailIndex]
        exact Nat.sub_le _ _
      obtain ⟨htail, hhead, hfreed⟩ := freeRollingBuffer_spec hr.size_le hle
      exact
        { refines := fun hdead => absurd hdead (by simp)
          freed := fun _ => by
            refine ⟨htail.trans hhead.symm, ?_⟩
            rw [hfreed, hr.items_eq, hr.freed] }
  · exact hinv

theorem Inv.behaves {r : BufferRun α} (hinv : Inv n r) (hn : 0 < n) : Behaves n r := by
  have hledger := stored_perm hn r.history
  cases hlive : r.live with
  | true =>
    have hr := hinv.refines hlive
    have hsize := hr.size_le
    rw [hr.capacity] at hsize
    exact
      { tail_le_head := by
          rw [hr.headIndex, hr.tailIndex]
          exact Nat.sub_le _ _
        size_le := hsize
        append := fun _ data => hr.append_index data
        insert := fun _ index data => hr.insert_status index data
        extract := fun _ index => hr.extract_item index
        ledger := by
          rw [hr.freed, hr.items_eq]
          exact hledger
        destroyed := fun hdead => absurd (hlive.symm.trans hdead) (by simp) }
  | false =>
    obtain ⟨hends, hfreed⟩ := hinv.freed hlive
    have hempty : r.buffer.items = [] := by simp [RollingBuffer.items, rollingBufferGetSize, hends]
    exact
      { tail_le_head := Nat.le_of_eq hends
        size_le := by simp [hends]
        append := fun h => absurd (hlive.symm.trans h) (by simp)
        insert := fun h => absurd (hlive.symm.trans h) (by simp)
        extract := fun h => absurd (hlive.symm.trans h) (by simp)
        ledger := by
          rw [hfreed, hempty, List.append_nil]
          refine hledger.trans ?_
          simp only [List.append_assoc]
          exact List.Perm.append_left _ List.perm_append_comm
        destroyed := fun _ => hempty }

/-- **A rolling buffer is a bounded queue with holes**, in every state of every run of calls. -/
theorem behaves_along (hcreate : createRollingBuffer n = .ok b) (calls : List (BufferCall α)) :
    Along step (Behaves n) { buffer := b, live := true, history := [] } calls := by
  have hn : 0 < n := by
    unfold createRollingBuffer at hcreate
    split_ifs at hcreate with hzero
    exact Nat.pos_of_ne_zero hzero
  have hinv : Along step (Inv n) { buffer := b, live := true, history := [] } calls :=
    along_of_step (fun r call h => h.step hn call)
      { refines := fun _ => createRollingBuffer_refines hcreate
        freed := fun hdead => absurd hdead (by simp) }
      calls
  exact hinv.mono fun r h => h.behaves hn

/-- An item is taken out and put back, and the one that was first leaves the window. -/
theorem behaves_along_putBack :
    Along step (Behaves 2)
      { buffer := { capacity := 2, headIndex := 0, tailIndex := 0,
                    dataBuffer := fun _ => none, freed := [] }
        live := true
        history := [] }
      [.append 7, .append 8, .extract 1, .append 9, .insert 1 8, .free] :=
  behaves_along rfl [.append 7, .append 8, .extract 1, .append 9, .insert 1 8, .free]

end BufferRun

end KvsWebrtc.RollingBuffer
