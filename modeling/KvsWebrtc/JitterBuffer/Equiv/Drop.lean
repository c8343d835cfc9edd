import KvsWebrtc.JitterBuffer.Parse
import Mathlib.Tactic.SplitIfs

/-!
# Storing a packet, dropping a range and one round of the parse

What `pushStore` and `jitterBufferDropBufferData` do.  For the latter: the entries from `startIndex`
to `endIndex` leave the table, each is freed, the head moves past them and the overflow flags are
cleared when the ends are back in order.  Nothing else changes.

The loop of `jitterBufferDropBufferData` ends when the index before the current one is `endIndex`.
So the range of all sequence numbers looks like the empty one, and nothing is removed for it
(`removesRange_iff`); the call of `freeJitterBuffer` is of that kind.

The branches of `parseBody` get one equation each, and the loop and the parse are given in terms of
them.
-/

namespace KvsWebrtc

@[simp] theorem frameEvents_append (l₁ l₂ : List JbEvent) :
    frameEvents (l₁ ++ l₂) = frameEvents l₁ ++ frameEvents l₂ := List.filter_append l₁ l₂

@[simp] theorem frameEvents_packetFreed (addr : Nat) : frameEvents [.packetFreed addr] = [] := rfl

@[simp] theorem frameEvents_frameReady (startIndex endIndex : Nat) (size : UInt32) :
    frameEvents [.frameReady startIndex endIndex size] = [.frameReady startIndex endIndex size] :=
  rfl

namespace JitterBuffer

variable (jb : JitterBuffer)

/-- How far `x` lies past `a` on the circle of sequence numbers. -/
def seqDist (a x : Nat) : Nat := (x + 65536 - a) % 65536

theorem seqDist_succ_iff {a x n : Nat} (ha : a < 65536) (hx : x < 65536) :
    seqDist a x < n + 1 ↔ x = a ∨ seqDist (uint16Inc a) x < n := by
  unfold seqDist uint16Inc
  omega

theorem removeEntry_table (index : Nat) :
    (jb.removeEntry index).pkgBufferHashTable =
      Function.update jb.pkgBufferHashTable index none := by
  unfold removeEntry
  split
  · rename_i h
    rw [← h, Function.update_eq_self]
  · rfl

/-- Apart from the table and the trace, removing an entry changes nothing. -/
theorem removeEntry_frame (index : Nat) :
    jb.removeEntry index = { jb with
      pkgBufferHashTable := (jb.removeEntry index).pkgBufferHashTable
      trace := (jb.removeEntry index).trace } := by
  unfold removeEntry
  split <;> rfl

theorem removeEntry_frameEvents (index : Nat) :
    frameEvents (jb.removeEntry index).trace = frameEvents jb.trace := by
  unfold removeEntry
  split
  · rfl
  · simp [emit]

theorem pushStore_frame (p : RtpPacket) :
    jb.pushStore p = { jb with
      pkgBufferHashTable := (jb.pushStore p).pkgBufferHashTable
      trace := (jb.pushStore p).trace } := by
  unfold pushStore
  rw [removeEntry_frame]

theorem pushStore_table (p : RtpPacket) :
    (jb.pushStore p).pkgBufferHashTable =
      Function.update jb.pkgBufferHashTable p.seq (some p) := by
  unfold pushStore
  dsimp only
  rw [removeEntry_table, Function.update_idem]

theorem pushStore_frameEvents (p : RtpPacket) :
    frameEvents (jb.pushStore p).trace = frameEvents jb.trace :=
  jb.removeEntry_frameEvents p.seq

theorem dropLoop_table {index x : Nat} (n : Nat) (hi : index < 65536) (hx : x < 65536) :
    (dropLoop n index jb).pkgBufferHashTable x =
      if seqDist index x < n then none else jb.pkgBufferHashTable x := by
  induction n generalizing index jb with
  | zero => simp [dropLoop]
  | succ n ih =>
    have hinc : uint16Inc index < 65536 := Nat.mod_lt _ (by decide)
    rw [dropLoop, ih _ hinc, removeEntry_table]
    simp only [seqDist_succ_iff hi hx, Function.update_apply]
    by_cases hx' : x = index
    · simp [hx']
    · simp [hx']

theorem dropLoop_table_of_ne_none {x : Nat} (n index : Nat)
    (h : (dropLoop n index jb).pkgBufferHashTable x ≠ none) :
    (dropLoop n index jb).pkgBufferHashTable x = jb.pkgBufferHashTable x := by
  induction n generalizing index jb with
  | zero => rfl
  | succ n ih =>
    rw [dropLoop] at h ⊢
    have heq := ih _ _ h
    rw [heq] at h
    rw [heq, removeEntry_table]
    rw [removeEntry_table] at h
    refine Function.update_of_ne ?_ _ _
    rintro rfl
    exact h (Function.update_self _ _ _)

theorem dropLoop_frame (n index : Nat) :
    dropLoop n index jb = { jb with
      pkgBufferHashTable := (dropLoop n index jb).pkgBufferHashTable
      trace := (dropLoop n index jb).trace } := by
  induction n generalizing index jb with
  | zero => rfl
  | succ n ih =>
    rw [dropLoop, ih, removeEntry_frame]

theorem dropLoop_frameEvents (n index : Nat) :
    frameEvents (dropLoop n index jb).trace = frameEvents jb.trace := by
  induction n generalizing index jb with
  | zero => rfl
  | succ n ih => rw [dropLoop, ih, removeEntry_frameEvents]

/-- A flag that is cleared exactly when it is set and `p` fails. -/
theorem clear_eq_and {p : Prop} [Decidable p] (b : Bool) (h : b = true → p) :
    (b && decide p) = b := by
  cases b with
  | false => rfl
  | true => rw [decide_eq_true (h rfl)]; rfl

theorem exitTimestampOverflowCheck_eq :
    jb.exitTimestampOverflowCheck.2 = { jb with
      timestampOverFlowState :=
        jb.timestampOverFlowState && decide (jb.tailTimestamp < jb.headTimestamp) } := by
  unfold exitTimestampOverflowCheck
  split_ifs with h
  · rw [decide_eq_false (by omega), Bool.and_false]
  · rw [clear_eq_and _ fun hf => Nat.lt_of_not_le fun hle => h ⟨hf, hle⟩]

theorem exitSequenceNumberOverflowCheck_eq :
    jb.exitSequenceNumberOverflowCheck.2 = { jb with
      sequenceNumberOverflowState :=
        jb.sequenceNumberOverflowState &&
          decide (jb.tailSequenceNumber < jb.headSequenceNumber) } := by
  unfold exitSequenceNumberOverflowCheck
  split_ifs with h
  · rw [decide_eq_false (by omega), Bool.and_false]
  · rw [clear_eq_and _ fun hf => Nat.lt_of_not_le fun hle => h ⟨hf, hle⟩]

theorem finishDrop_eq {jb' : JitterBuffer} {table : Nat → Option RtpPacket} {trace : List JbEvent}
    (h : jb' = { jb with pkgBufferHashTable := table, trace := trace })
    (endIndex nextTimestamp : Nat) :
    jb'.finishDrop endIndex nextTimestamp = { jb with
      headTimestamp := nextTimestamp
      headSequenceNumber := uint16Inc endIndex
      timestampOverFlowState :=
        jb.timestampOverFlowState && decide (jb.tailTimestamp < nextTimestamp)
      sequenceNumberOverflowState :=
        jb.sequenceNumberOverflowState && decide (jb.tailSequenceNumber < uint16Inc endIndex)
      pkgBufferHashTable := table
      trace := trace } := by
  subst h
  unfold finishDrop
  rw [exitSequenceNumberOverflowCheck_eq, exitTimestampOverflowCheck_eq]

/-- **What dropping a range does**: the entries leave the table, the head moves past them and the
exit checks clear each flag whose ends are back in order. -/
theorem jitterBufferDropBufferData_eq (startIndex endIndex nextTimestamp : Nat) :
    jb.jitterBufferDropBufferData startIndex endIndex nextTimestamp =
      { jb with
        headTimestamp := nextTimestamp
        headSequenceNumber := uint16Inc endIndex
        timestampOverFlowState :=
          jb.timestampOverFlowState && decide (jb.tailTimestamp < nextTimestamp)
        sequenceNumberOverflowState :=
          jb.sequenceNumberOverflowState && decide (jb.tailSequenceNumber < uint16Inc endIndex)
        pkgBufferHashTable :=
          (dropLoop (dropCount startIndex endIndex) startIndex jb).pkgBufferHashTable
        trace := (dropLoop (dropCount startIndex endIndex) startIndex jb).trace } :=
  finishDrop_eq jb (dropLoop_frame jb _ _) _ _

/-- The table and the trace of a buffer given by its fields.  The buffers are variables here, so
that the term stays small. -/
theorem table_of_eq {jb jb' : JitterBuffer} {head timestamp : Nat} {f g : Bool}
    {table : Nat → Option RtpPacket} {trace : List JbEvent}
    (h : jb' = { jb with
        headTimestamp := timestamp
        headSequenceNumber := head
        timestampOverFlowState := f
        sequenceNumberOverflowState := g
        pkgBufferHashTable := table
        trace := trace }) : jb'.pkgBufferHashTable = table ∧ jb'.trace = trace := by
  rw [h]
  exact ⟨rfl, rfl⟩

theorem jitterBufferDropBufferData_table {startIndex x : Nat} (endIndex nextTimestamp : Nat)
    (hs : startIndex < 65536) (hx : x < 65536) :
    (jb.jitterBufferDropBufferData startIndex endIndex nextTimestamp).pkgBufferHashTable x =
      if seqDist startIndex x < dropCount startIndex endIndex then none
      else jb.pkgBufferHashTable x := by
  rw [(table_of_eq (jitterBufferDropBufferData_eq jb startIndex endIndex nextTimestamp)).1]
  exact dropLoop_table jb _ hs hx

theorem jitterBufferDropBufferData_table_of_ne_none {startIndex endIndex nextTimestamp x : Nat}
    (h : (jb.jitterBufferDropBufferData startIndex endIndex nextTimestamp).pkgBufferHashTable x
      ≠ none) :
    (jb.jitterBufferDropBufferData startIndex endIndex nextTimestamp).pkgBufferHashTable x =
      jb.pkgBufferHashTable x := by
  rw [(table_of_eq (jitterBufferDropBufferData_eq jb startIndex endIndex nextTimestamp)).1] at h ⊢
  exact dropLoop_table_of_ne_none jb _ _ h

theorem jitterBufferDropBufferData_trace (startIndex endIndex nextTimestamp : Nat) :
    (jb.jitterBufferDropBufferData startIndex endIndex nextTimestamp).trace =
      (dropLoop (dropCount startIndex endIndex) startIndex jb).trace :=
  (table_of_eq (jitterBufferDropBufferData_eq jb startIndex endIndex nextTimestamp)).2

theorem processed_trace : ({ jb with firstFrameProcessed := true }).trace = jb.trace := rfl

theorem pushStore_trace (p : RtpPacket) :
    (jb.pushStore p).trace = (jb.removeEntry p.seq).trace := by
  unfold pushStore
  generalize jb.removeEntry p.seq = jb'
  rfl

theorem processed_table :
    ({ jb with firstFrameProcessed := true }).pkgBufferHashTable = jb.pkgBufferHashTable := rfl

@[simp] theorem emit_table (e : JbEvent) :
    (jb.emit e).pkgBufferHashTable = jb.pkgBufferHashTable := rfl

/-! ### Which entries a drop removes -/

/-- The sequence number lies in the circular range from `startIndex` to `endIndex`, both
included. -/
def InSeqRange (startIndex endIndex x : Nat) : Prop := seqDist startIndex x ≤
    seqDist startIndex endIndex

instance (startIndex endIndex x : Nat) : Decidable (InSeqRange startIndex endIndex x) :=
  inferInstanceAs (Decidable (_ ≤ _))

/-- The range goes round to the sequence number before `startIndex`. -/
def FullRange (startIndex endIndex : Nat) : Prop := uint16Dec startIndex = endIndex

/-- `jitterBufferDropBufferData` removes the entries in the range from `startIndex` to `endIndex`
and leaves the others. -/
def RemovesRange (jb : JitterBuffer) (startIndex endIndex nextTimestamp : Nat) : Prop :=
  ∀ x < 65536,
    (jb.jitterBufferDropBufferData startIndex endIndex nextTimestamp).pkgBufferHashTable x =
      if InSeqRange startIndex endIndex x then none else jb.pkgBufferHashTable x

variable {jb : JitterBuffer} {startIndex endIndex nextTimestamp : Nat}

theorem dropCount_full (hs : startIndex < 65536) (h : FullRange startIndex endIndex) :
    dropCount startIndex endIndex = 0 := by
  unfold FullRange uint16Dec at h
  unfold dropCount
  omega

/-- In every other case the loop runs once for each sequence number of the range. -/
theorem dropCount_of_not_full (hs : startIndex < 65536) (he : endIndex < 65536)
    (h : ¬ FullRange startIndex endIndex) :
    dropCount startIndex endIndex = seqDist startIndex endIndex + 1 := by
  unfold FullRange uint16Dec at h
  unfold dropCount seqDist
  omega

theorem inSeqRange_of_full (hs : startIndex < 65536) (h : FullRange startIndex endIndex) (x : Nat) :
    InSeqRange startIndex endIndex x := by
  unfold FullRange uint16Dec at h
  unfold InSeqRange seqDist
  omega

theorem removesRange_of_not_full (hs : startIndex < 65536) (he : endIndex < 65536)
    (h : ¬ FullRange startIndex endIndex) : RemovesRange jb startIndex endIndex nextTimestamp := by
  intro x hx
  rw [jitterBufferDropBufferData_table jb endIndex nextTimestamp hs hx,
    dropCount_of_not_full hs he h]
  by_cases hin : InSeqRange startIndex endIndex x
  · rw [if_pos hin, if_pos (Nat.lt_succ_of_le hin)]
  · rw [if_neg hin, if_neg fun hlt => hin (Nat.le_of_lt_succ hlt)]

theorem table_of_full (hs : startIndex < 65536) (h : FullRange startIndex endIndex) {x : Nat}
    (hx : x < 65536) :
    (jb.jitterBufferDropBufferData startIndex endIndex nextTimestamp).pkgBufferHashTable x =
      jb.pkgBufferHashTable x := by
  rw [jitterBufferDropBufferData_table jb endIndex nextTimestamp hs hx, dropCount_full hs h]
  simp

/-- **A drop removes exactly the entries of its range**, unless the range is the full one and the
table is not empty. -/
theorem removesRange_iff (jb : JitterBuffer) (startIndex endIndex : UInt16) (nextTimestamp : Nat) :
    RemovesRange jb startIndex.toNat endIndex.toNat nextTimestamp ↔
      ¬ FullRange startIndex.toNat endIndex.toNat ∨ ∀ x < 65536, jb.pkgBufferHashTable x =
        none := by
  have hs : startIndex.toNat < 65536 := startIndex.toNat_lt
  have he : endIndex.toNat < 65536 := endIndex.toNat_lt
  by_cases hfull : FullRange startIndex.toNat endIndex.toNat
  · -- every entry is in the range and none is removed
    have hstep : ∀ x < 65536,
        ((jb.jitterBufferDropBufferData startIndex.toNat endIndex.toNat
        nextTimestamp).pkgBufferHashTable x =
          if InSeqRange startIndex.toNat endIndex.toNat x then none else jb.pkgBufferHashTable x) ↔
        jb.pkgBufferHashTable x = none := by
      intro x hx
      rw [table_of_full hs hfull hx, if_pos (inSeqRange_of_full hs hfull x)]
    constructor
    · intro h
      exact .inr fun x hx => (hstep x hx).mp (h x hx)
    · intro h x hx
      exact (hstep x hx).mpr ((h.resolve_left (not_not_intro hfull)) x hx)
  · exact ⟨fun _ => .inl hfull, fun _ => removesRange_of_not_full hs he hfull⟩

/-- The call of `freeJitterBuffer` leaves a stored packet where it is. -/
theorem not_removesRange_sweep :
    ¬ RemovesRange
      { JitterBuffer.empty 900 90000 with
        pkgBufferHashTable := fun x => if x = 7 then some (markedPacket 1 7 200 true) else none }
      0 maxRtpSequenceNum 0 := by
  intro h
  have hseven := h 7 (by decide)
  revert hseven
  decide +kernel

/-! ### One iteration of the parse loop -/

variable {cb : JbCallbacks} {bufferClosed : Bool} {earliest : Nat} {s : ParseState} {p : RtpPacket}

/-- The head frame may be given up: it is too old, or the buffer is being closed. -/
def Expired (jb : JitterBuffer) (bufferClosed : Bool) (earliest : Nat) : Prop :=
  jb.headTimestamp < earliest ∨ bufferClosed = true

/-- The frame that ends before the current index has its first packet and no gap. -/
def Complete (s : ParseState) : Prop :=
  s.containStartForEarliestFrame = true ∧ s.isFrameDataContinuous = true

/-- A missing packet ends the parse while the head frame is young. -/
theorem parseBody_wait (hp : s.jb.pkgBufferHashTable s.index = none)
    (hage : ¬ s.jb.Expired bufferClosed earliest) :
    parseBody cb bufferClosed earliest s = .cleanUp .success s.jb := by
  unfold parseBody
  rw [hp]
  exact if_neg hage

/-- A missing packet breaks an expired head frame. -/
theorem parseBody_gap (hp : s.jb.pkgBufferHashTable s.index = none)
    (hage : s.jb.Expired bufferClosed earliest) :
    parseBody cb bufferClosed earliest s =
      .next { s with isFrameDataContinuous := false, index := uint16Inc s.index } := by
  unfold parseBody
  rw [hp]
  exact if_pos hage

theorem parseBody_same (hp : s.jb.pkgBufferHashTable s.index = some p)
    (hts : p.ts = s.jb.headTimestamp) :
    parseBody cb bufferClosed earliest s =
      parseDepay cb { s with lastNonNullIndex := s.index } p := by
  unfold parseBody
  rw [hp]
  exact if_neg (not_not_intro hts)

/-- A packet of the next frame delivers a complete head frame. -/
theorem parseBody_deliver (hp : s.jb.pkgBufferHashTable s.index = some p)
    (hts : p.ts ≠ s.jb.headTimestamp) (hc : Complete s) :
    parseBody cb bufferClosed earliest s =
      parseDeliver cb { s with lastNonNullIndex := s.index } p := by
  unfold parseBody
  rw [hp]
  dsimp only
  rw [if_pos hts]
  exact if_pos hc

/-- A packet of the next frame drops an incomplete head frame that has expired. -/
theorem parseBody_drop (hp : s.jb.pkgBufferHashTable s.index = some p)
    (hts : p.ts ≠ s.jb.headTimestamp) (hc : ¬ Complete s)
    (hage : s.jb.Expired bufferClosed earliest) :
    parseBody cb bufferClosed earliest s =
      parseDrop cb { s with lastNonNullIndex := s.index } p := by
  unfold parseBody
  rw [hp]
  dsimp only
  rw [if_pos hts]
  exact (if_neg hc).trans (if_pos hage)

/-- A packet of the next frame ends the parse when the head frame is incomplete and young. -/
theorem parseBody_stop (hp : s.jb.pkgBufferHashTable s.index = some p)
    (hts : p.ts ≠ s.jb.headTimestamp) (hc : ¬ Complete s)
    (hage : ¬ s.jb.Expired bufferClosed earliest) :
    parseBody cb bufferClosed earliest s = .stop { s with lastNonNullIndex := s.index } := by
  unfold parseBody
  rw [hp]
  dsimp only
  rw [if_pos hts]
  exact (if_neg hc).trans (if_neg hage)

theorem parseDepay_error {status : Status} (h : cb.depay p = .error status) :
    parseDepay cb s p = .cleanUp status s.jb := by
  unfold parseDepay
  rw [h]

theorem parseDepay_ok {size : UInt32} {isStart : Bool} (h : cb.depay p = .ok (size, isStart)) :
    parseDepay cb s p = .next { s with
      curFrameSize := s.curFrameSize + size
      containStartForEarliestFrame :=
        s.containStartForEarliestFrame || (isStart && s.jb.headTimestamp = p.ts)
      index := uint16Inc s.index } := by
  unfold parseDepay
  rw [h]

/-- The buffer after the frame that ends before `s.index` was reported and its packets freed. -/
def delivered (s : ParseState) (p : RtpPacket) : JitterBuffer :=
  { (s.jb.emit (.frameReady s.startDropIndex (uint16Dec s.index)
      s.curFrameSize)).jitterBufferDropBufferData s.startDropIndex (uint16Dec s.index) p.ts with
    firstFrameProcessed := true }

theorem parseDeliver_success (h : cb.onFrameReadyFn s.jb.trace s.startDropIndex
      (uint16Dec s.index) s.curFrameSize = .success) :
    parseDeliver cb s p = parseDepay cb
      { s with
        jb := delivered s p
        startDropIndex := s.index
        containStartForEarliestFrame := false
        curFrameSize := 0 } p := by
  unfold parseDeliver
  dsimp only
  rw [h]
  rfl

theorem parseDeliver_failed (h : cb.onFrameReadyFn s.jb.trace s.startDropIndex
      (uint16Dec s.index) s.curFrameSize ≠ .success) :
    ∃ e, parseDeliver cb s p = .cleanUp e
      (s.jb.emit (.frameReady s.startDropIndex (uint16Dec s.index) s.curFrameSize)) := by
  unfold parseDeliver
  dsimp only
  split
  · contradiction
  · exact ⟨_, rfl⟩

/-- The buffer after the frame that ends before `s.index` was reported as dropped and its packets
freed. -/
def dropped (s : ParseState) (p : RtpPacket) : JitterBuffer :=
  { (s.jb.emit (.frameDropped s.startDropIndex (uint16Dec s.index)
      s.jb.headTimestamp)).jitterBufferDropBufferData s.startDropIndex (uint16Dec s.index) p.ts with
    firstFrameProcessed := true }

theorem parseDrop_eq : parseDrop cb s p = parseDepay cb
    { s with
      jb := dropped s p
      isFrameDataContinuous := true
      startDropIndex := s.index
      curFrameSize := 0 } p := rfl

end JitterBuffer

end KvsWebrtc
