import KvsWebrtc.JitterBuffer.Equiv.Drop
import KvsWebrtc.JitterBuffer.Frames

/-!
# What a parse can do to the buffer

Whatever the callbacks answer, an iteration of the parse loop does one of three things to the
buffer: nothing, call a frame callback, or call one and move the head to the packet at the current
index, which has another timestamp than the head frame (`Move`).  `parse_induction` is the induction
rule that follows: what these moves preserve, `jitterBufferInternalParse` preserves.
-/

namespace KvsWebrtc.JitterBuffer

/-- The buffer after effect `e` and after dropping the `k` places from the head on; the packet `p`
behind them gives the new head timestamp. -/
def moveHead (jb : JitterBuffer) (k : Nat) (p : RtpPacket) (e : JbEvent) : JitterBuffer :=
  { (jb.emit e).jitterBufferDropBufferData jb.headSequenceNumber
      ((jb.headSequenceNumber + k + 65535) % 65536) p.ts with
    firstFrameProcessed := true }

/-- What an iteration at place `k` can do to the buffer. -/
inductive Move (jb : JitterBuffer) (k : Nat) : JitterBuffer → Prop
  | stay : Move jb k jb
  | report (e : JbEvent) : e.isFrame = true → Move jb k (jb.emit e)
  | advance (p : RtpPacket) (e : JbEvent) : e.isFrame = true → jb.slot k = some p →
      p.ts ≠ jb.headTimestamp → Move jb k (jb.moveHead k p e)

/-- The loop reads place `k` and has `n` places left. -/
structure ParsePos (n k : Nat) (s : ParseState) : Prop where
  head_lt : s.jb.headSequenceNumber < 65536
  tail_lt : s.jb.tailSequenceNumber < 65536
  startDropIndex : s.startDropIndex = s.jb.headSequenceNumber
  index : s.index = (s.jb.headSequenceNumber + k) % 65536
  count : k + n = s.jb.parseCount

def ParseFlow.jb : ParseFlow → JitterBuffer
  | .next s => s.jb
  | .stop s => s.jb
  | .cleanUp _ jb => jb

variable {cb : JbCallbacks} {bufferClosed : Bool} {earliest n k : Nat} {s : ParseState}
  {p : RtpPacket}

theorem parsePos_init {jb : JitterBuffer} (h1 : jb.headSequenceNumber < 65536)
    (h2 : jb.tailSequenceNumber < 65536) : ParsePos jb.parseCount 0 jb.parseInit :=
  { head_lt := h1
    tail_lt := h2
    startDropIndex := rfl
    index := (Nat.mod_eq_of_lt h1).symm
    count := Nat.zero_add _ }

theorem parseCount_lt (jb : JitterBuffer) : jb.parseCount < 65536 := Nat.mod_lt _ (by decide)

/-- Moving the head to place `k` leaves the places from there on. -/
theorem moveHead_fields (jb : JitterBuffer) (k : Nat) (p : RtpPacket) (e : JbEvent)
    (hk : k < jb.parseCount) (h1 : jb.headSequenceNumber < 65536) :
    (jb.moveHead k p e).headSequenceNumber = (jb.headSequenceNumber + k) % 65536 ∧
      (jb.moveHead k p e).tailSequenceNumber = jb.tailSequenceNumber ∧
      (jb.moveHead k p e).headTimestamp = p.ts ∧
      (jb.moveHead k p e).tailTimestamp = jb.tailTimestamp ∧
      (jb.moveHead k p e).parseCount = jb.parseCount - k := by
  have hhead : (jb.moveHead k p e).headSequenceNumber = (jb.headSequenceNumber + k) % 65536 := by
    unfold moveHead
    rw [jitterBufferDropBufferData_eq]
    dsimp only
    unfold uint16Inc
    omega
  have htail : (jb.moveHead k p e).tailSequenceNumber = jb.tailSequenceNumber := by
    unfold moveHead
    rw [jitterBufferDropBufferData_eq]
    rfl
  refine ⟨hhead, htail, ?_, ?_, ?_⟩
  · unfold moveHead
    rw [jitterBufferDropBufferData_eq]
  · unfold moveHead
    rw [jitterBufferDropBufferData_eq]
    rfl
  · unfold parseCount uint16Inc at hk ⊢
    rw [hhead, htail]
    omega

theorem moveHead_started (jb : JitterBuffer) (k : Nat) (p : RtpPacket) (e : JbEvent) :
    (jb.moveHead k p e).started = jb.started := by
  unfold moveHead
  rw [jitterBufferDropBufferData_eq]
  rfl

theorem moveHead_flags (jb : JitterBuffer) (k : Nat) (p : RtpPacket) (e : JbEvent) :
    (jb.moveHead k p e).sequenceNumberOverflowState = (jb.sequenceNumberOverflowState &&
        decide (jb.tailSequenceNumber < (jb.headSequenceNumber + k) % 65536)) ∧
      (jb.moveHead k p e).timestampOverFlowState =
        (jb.timestampOverFlowState && decide (jb.tailTimestamp < p.ts)) := by
  have hinc : uint16Inc ((jb.headSequenceNumber + k + 65535) % 65536) =
      (jb.headSequenceNumber + k) % 65536 := by
    unfold uint16Inc
    omega
  unfold moveHead
  rw [jitterBufferDropBufferData_eq]
  dsimp only [emit]
  rw [hinc]
  exact ⟨rfl, rfl⟩

theorem moveHead_table_of_ne_none (jb : JitterBuffer) (k : Nat) (p : RtpPacket) (e : JbEvent)
    {x : Nat} (h : (jb.moveHead k p e).pkgBufferHashTable x ≠ none) :
    (jb.moveHead k p e).pkgBufferHashTable x = jb.pkgBufferHashTable x := by
  unfold moveHead at h ⊢
  rw [processed_table] at h ⊢
  rw [← emit_table jb e]
  exact jitterBufferDropBufferData_table_of_ne_none (jb.emit e) h

/-- The table after the head has moved to place `k`: the places before it are empty. -/
theorem moveHead_table (jb : JitterBuffer) (k : Nat) (p : RtpPacket) (e : JbEvent)
    (hk : k < 65536) (h1 : jb.headSequenceNumber < 65536) {x : Nat} (hx : x < 65536) :
    (jb.moveHead k p e).pkgBufferHashTable x =
      if seqDist jb.headSequenceNumber x < k then none else jb.pkgBufferHashTable x := by
  have hcount : dropCount jb.headSequenceNumber ((jb.headSequenceNumber + k + 65535) % 65536) =
      k := by
    unfold dropCount
    omega
  have htable := jitterBufferDropBufferData_table (jb.emit e)
    ((jb.headSequenceNumber + k + 65535) % 65536) p.ts h1 hx
  rw [hcount, emit_table] at htable
  unfold moveHead
  rw [processed_table]
  exact htable

/-- After the head has moved, the places are counted from the new head. -/
theorem slot_moveHead {jb : JitterBuffer} {e : JbEvent} (h1 : jb.headSequenceNumber < 65536)
    (hk : k < jb.parseCount) {j : Nat} (hj : j < jb.parseCount - k) :
    (jb.moveHead k p e).slot j = jb.slot (k + j) := by
  have hlt := jb.parseCount_lt
  obtain ⟨hhead, -⟩ := moveHead_fields jb k p e hk h1
  have hindex : ((jb.headSequenceNumber + k) % 65536 + j) % 65536 =
      (jb.headSequenceNumber + (k + j)) % 65536 := by omega
  rw [slot_eq, slot_eq, hhead, hindex,
    moveHead_table jb k p e (by omega) h1 (Nat.mod_lt _ (by decide)), if_neg]
  unfold seqDist
  omega

/-! ### One iteration -/

theorem parseDepay_jb : (parseDepay cb s p).jb = s.jb := by
  unfold parseDepay
  split <;> rfl

theorem parseDepay_next {s' : ParseState} (h : parseDepay cb s p = .next s') :
    s'.jb = s.jb ∧ s'.startDropIndex = s.startDropIndex ∧ s'.index = uint16Inc s.index := by
  unfold parseDepay at h
  split at h
  · cases h
  · obtain rfl := ParseFlow.next.inj h
    exact ⟨rfl, rfl, rfl⟩

theorem parseDepay_ne_stop {s' : ParseState} : parseDepay cb s p ≠ .stop s' := by
  unfold parseDepay
  split <;> exact fun h => ParseFlow.noConfusion h

/-- After an iteration that goes on, the loop is one place further. -/
theorem ParsePos.of_depay {s' : ParseState} (q : ParsePos (n + 1) k s)
    (h : parseDepay cb s p = .next s') : ParsePos n (k + 1) s' := by
  obtain ⟨h1, h2, h3⟩ := parseDepay_next h
  have hindex := q.index
  have hcount := q.count
  exact
    { head_lt := h1 ▸ q.head_lt
      tail_lt := h1 ▸ q.tail_lt
      startDropIndex := by rw [h1, h2, q.startDropIndex]
      index := by
        rw [h1, h3, hindex]
        unfold uint16Inc
        omega
      count := by rw [h1]; omega }

/-- The loop position after the head has moved to the current index. -/
theorem ParsePos.advance (q : ParsePos (n + 1) k s) (p : RtpPacket) (e : JbEvent)
    {s' : ParseState} (hjb : s'.jb = s.jb.moveHead k p e) (hstart : s'.startDropIndex = s.index)
    (hindex : s'.index = s.index) : ParsePos (n + 1) 0 s' := by
  have hcount := q.count
  obtain ⟨h1, h2, -, -, h5⟩ := moveHead_fields s.jb k p e (by omega) q.head_lt
  exact
    { head_lt := by rw [hjb, h1]; exact Nat.mod_lt _ (by decide)
      tail_lt := by rw [hjb, h2]; exact q.tail_lt
      startDropIndex := by rw [hstart, hjb, h1, q.index]
      index := by
        rw [hindex, hjb, h1, q.index]
        omega
      count := by rw [hjb, h5]; omega }

theorem uint16Dec_index (q : ParsePos n k s) :
    uint16Dec s.index = (s.jb.headSequenceNumber + k + 65535) % 65536 := by
  rw [q.index]
  unfold uint16Dec
  omega

theorem delivered_eq (q : ParsePos n k s) :
    delivered s p = s.jb.moveHead k p
      (.frameReady s.startDropIndex (uint16Dec s.index) s.curFrameSize) := by
  unfold delivered moveHead
  rw [q.startDropIndex, uint16Dec_index q]

theorem dropped_eq (q : ParsePos n k s) :
    dropped s p = s.jb.moveHead k p
      (.frameDropped s.startDropIndex (uint16Dec s.index) s.jb.headTimestamp) := by
  unfold dropped moveHead
  rw [q.startDropIndex, uint16Dec_index q]

theorem parseDeliver_move (q : ParsePos (n + 1) k s) (hslot : s.jb.slot k = some p)
    (hts : p.ts ≠ s.jb.headTimestamp) :
    Move s.jb k (parseDeliver cb s p).jb ∧
      (∀ s', parseDeliver cb s p = .next s' → ∃ k', ParsePos n k' s') ∧
      ∀ s', parseDeliver cb s p ≠ .stop s' := by
  by_cases hready : cb.onFrameReadyFn s.jb.trace s.startDropIndex (uint16Dec s.index)
      s.curFrameSize = .success
  · rw [parseDeliver_success hready, parseDepay_jb, delivered_eq q]
    refine ⟨.advance p _ rfl hslot hts, fun s' h => ⟨1, ?_⟩, fun s' => parseDepay_ne_stop⟩
    refine ParsePos.of_depay ?_ h
    exact q.advance p _ rfl rfl rfl
  · obtain ⟨e, he⟩ := parseDeliver_failed hready
    rw [he]
    exact ⟨.report _ rfl, fun s' h => ParseFlow.noConfusion h, fun s' h => ParseFlow.noConfusion h⟩

theorem parseDrop_move (q : ParsePos (n + 1) k s) (hslot : s.jb.slot k = some p)
    (hts : p.ts ≠ s.jb.headTimestamp) :
    Move s.jb k (parseDrop cb s p).jb ∧
      (∀ s', parseDrop cb s p = .next s' → ∃ k', ParsePos n k' s') ∧
      ∀ s', parseDrop cb s p ≠ .stop s' := by
  rw [parseDrop_eq, parseDepay_jb, dropped_eq q]
  refine ⟨.advance p _ rfl hslot hts, fun s' h => ⟨1, ?_⟩, fun s' => parseDepay_ne_stop⟩
  refine ParsePos.of_depay ?_ h
  exact q.advance p _ rfl rfl rfl

/-- **One iteration of the parse loop** makes a move, and goes on one place further. -/
theorem parseBody_move (q : ParsePos (n + 1) k s) :
    Move s.jb k (parseBody cb bufferClosed earliest s).jb ∧
      (∀ s', parseBody cb bufferClosed earliest s = .next s' → ∃ k', ParsePos n k' s') ∧
      ∀ s', parseBody cb bufferClosed earliest s = .stop s' →
        s'.startDropIndex = s'.jb.headSequenceNumber := by
  have q' : ParsePos (n + 1) k { s with lastNonNullIndex := s.index } := { q with }
  cases hp : s.jb.pkgBufferHashTable s.index with
  | none =>
    -- an empty place is passed if the frame is given up, or ends the parse
    by_cases hage : s.jb.Expired bufferClosed earliest
    · rw [parseBody_gap hp hage]
      refine ⟨.stay, fun s' h => ⟨k + 1, ?_⟩, fun s' h => ParseFlow.noConfusion h⟩
      obtain rfl := ParseFlow.next.inj h
      have hindex := q.index
      have hcount := q.count
      exact
        { q with
          index := by
            dsimp only
            rw [hindex]
            unfold uint16Inc
            omega
          count := by dsimp only; omega }
    · rw [parseBody_wait hp hage]
      exact ⟨.stay, fun s' h => ParseFlow.noConfusion h, fun s' h => ParseFlow.noConfusion h⟩
  | some p =>
    have hslot : s.jb.slot k = some p := by rw [slot, ← q.index, hp]
    -- a packet of another frame ends the head frame, which is delivered, dropped or kept
    by_cases hts : p.ts = s.jb.headTimestamp
    · rw [parseBody_same hp hts, parseDepay_jb]
      exact ⟨.stay, fun s' h => ⟨k + 1, q'.of_depay h⟩, fun s' h => absurd h parseDepay_ne_stop⟩
    · by_cases hc : Complete s
      · rw [parseBody_deliver hp hts hc]
        obtain ⟨h1, h2, h3⟩ := @parseDeliver_move cb n k _ p q' hslot hts
        exact ⟨h1, h2, fun s' h => absurd h (h3 s')⟩
      · by_cases hage : s.jb.Expired bufferClosed earliest
        · rw [parseBody_drop hp hts hc hage]
          obtain ⟨h1, h2, h3⟩ := @parseDrop_move cb n k _ p q' hslot hts
          exact ⟨h1, h2, fun s' h => absurd h (h3 s')⟩
        · rw [parseBody_stop hp hts hc hage]
          refine ⟨.stay, fun s' h => ParseFlow.noConfusion h, fun s' h => ?_⟩
          obtain rfl := ParseFlow.stop.inj h
          exact q.startDropIndex

/-! ### The whole parse -/

section Induction

variable {I : JitterBuffer → Prop}
  (hreport : ∀ jb e, I jb → e.isFrame = true → I (jb.emit e))
  (hadvance : ∀ jb k p e, I jb → jb.headSequenceNumber < 65536 → k < jb.parseCount →
    e.isFrame = true → jb.slot k = some p → p.ts ≠ jb.headTimestamp → I (jb.moveHead k p e))

include hreport hadvance

theorem parseLoop_induction (n : Nat) {k : Nat} {s : ParseState} (q : ParsePos n k s)
    (h : I s.jb) :
    I (parseLoop cb bufferClosed earliest n s).jb ∧
      ∀ s', parseLoop cb bufferClosed earliest n s = .stop s' →
        s'.startDropIndex = s'.jb.headSequenceNumber := by
  induction n generalizing k s with
  | zero =>
    refine ⟨h, fun s' hs => ?_⟩
    obtain rfl := ParseFlow.stop.inj hs
    exact q.startDropIndex
  | succ n ih =>
    obtain ⟨hmove, hnext, hstop⟩ := @parseBody_move cb bufferClosed earliest n k s q
    have hcount := q.count
    have hI : I (parseBody cb bufferClosed earliest s).jb := by
      generalize (parseBody cb bufferClosed earliest s).jb = jb' at hmove
      cases hmove with
      | stay => exact h
      | report e he => exact hreport _ e h he
      | advance p e he hslot hts => exact hadvance _ k p e h q.head_lt (by omega) he hslot hts
    rw [parseLoop]
    cases hb : parseBody cb bufferClosed earliest s with
    | next s' =>
      obtain ⟨k', q'⟩ := hnext s' hb
      rw [hb] at hI
      exact ih q' hI
    | stop s' =>
      rw [hb] at hI
      refine ⟨hI, fun s'' hs => ?_⟩
      obtain rfl := ParseFlow.stop.inj hs
      exact hstop _ hb
    | cleanUp e jb' =>
      rw [hb] at hI
      exact ⟨hI, fun s'' hs => ParseFlow.noConfusion hs⟩

/-- **What every move preserves, the parse of an open buffer preserves.** -/
theorem parse_induction {jb : JitterBuffer} (h1 : jb.headSequenceNumber < 65536)
    (h2 : jb.tailSequenceNumber < 65536) (h : I jb) :
    I (jitterBufferInternalParse cb jb false).2 := by
  have hloop : I (parseLoop cb false jb.earliestAllowedTimestamp jb.parseCount
      jb.parseInit).jb :=
    (parseLoop_induction hreport hadvance jb.parseCount (parsePos_init h1 h2) h).1
  unfold jitterBufferInternalParse
  split_ifs with hzero
  · exact h
  · generalize parseLoop cb false jb.earliestAllowedTimestamp jb.parseCount jb.parseInit = flow
      at hloop
    cases flow with
    | next s => exact hloop
    | stop s => exact hloop
    | cleanUp e jb' => exact hloop

end Induction

theorem jitterBufferPush_jb (cb : JbCallbacks) (jb : JitterBuffer) (p : RtpPacket) :
    (jitterBufferPush cb jb p).jb =
      (jitterBufferInternalParse cb (jb.pushAccept p).2 false).2 := by
  unfold jitterBufferPush
  obtain ⟨discarded, jb'⟩ := jb.pushAccept p
  dsimp only

theorem pushAll_cons (cb : JbCallbacks) (jb : JitterBuffer) (p : RtpPacket) (l : List RtpPacket) :
    pushAll cb jb (p :: l) = pushAll cb (jitterBufferPush cb jb p).jb l := rfl

theorem pushAll_concat (cb : JbCallbacks) (jb : JitterBuffer) (l : List RtpPacket) (p : RtpPacket) :
    pushAll cb jb (l ++ [p]) =
      (jitterBufferInternalParse cb ((pushAll cb jb l).pushAccept p).2 false).2 := by
  rw [← jitterBufferPush_jb, pushAll, List.foldl_append, List.foldl_cons, List.foldl_nil, pushAll]

end KvsWebrtc.JitterBuffer
