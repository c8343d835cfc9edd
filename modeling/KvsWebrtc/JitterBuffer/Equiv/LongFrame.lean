import KvsWebrtc.JitterBuffer.Equiv.Pushes

/-!
# A frame longer than the buffer is designed for

"This purposefully misses the usecase where the buffer has >65000 entries": a first frame of 65024
packets from sequence number zero.  Its last packet lies so close to the wrap that it is taken for
an earlier one, the head moves past the tail, and from then on the parse loop has nothing to look
at and every later packet is rejected (`FullCircle.push`).
-/

namespace KvsWebrtc

open JitterBuffer

/-- The window has closed to a full circle: the head is one past the tail.  All timestamps are
`time`. -/
structure FullCircle (jb : JitterBuffer) (time : ℕ) : Prop where
  started : jb.started = true
  seqFlag : jb.sequenceNumberOverflowState = true
  tsFlag : jb.timestampOverFlowState = false
  headSeq : jb.headSequenceNumber = 65023
  tailSeq : jb.tailSequenceNumber = 65022
  headTs : jb.headTimestamp = time
  tailTs : jb.tailTimestamp = time

variable {jb : JitterBuffer} {time : ℕ} {cb : JbCallbacks}

namespace FullCircle

theorem emit (h : FullCircle jb time) (e : JbEvent) : FullCircle (jb.emit e) time := { h with }

theorem parse (h : FullCircle jb time) :
    jitterBufferInternalParse cb jb false = (.success, jb) := by
  have hcount : jb.parseCount = 0 := by
    unfold parseCount uint16Inc
    rw [h.headSeq, h.tailSeq]
  unfold jitterBufferInternalParse
  rw [hcount, parseLoop]
  simp only [Bool.false_eq_true, false_and, if_false]
  exact ite_self _

/-- A later packet whose timestamp has wrapped is discarded. -/
theorem push (h : FullCircle jb time) {p : RtpPacket} (hseq : 65023 < p.seq)
    (hlat : jb.maxLatency < time) (hts : p.ts < time - jb.maxLatency) (htime : time < 2 ^ 32) :
    jitterBufferPush cb jb p = ⟨.success, true, jb.emit (.packetFreed p.addr)⟩ := by
  have h1 := h.headSeq
  have h2 := h.tailSeq
  have h3 := h.headTs
  have h4 := h.tailTs
  have htail : jb.tailSequenceNumberCheck p = (false, jb) :=
    tailSequenceNumberCheck_none jb p (by omega) fun hnew => by
      have := hnew.2 h.seqFlag
      omega
  -- the window is a full circle, so no number lies outside
  have hover : jb.enterSequenceNumberOverflowCheck p = (false, jb) := by
    refine enterSequenceNumberOverflowCheck_none jb p ?_ ?_
    · rw [← Bool.not_eq_true, sequenceNumberOverflow_iff, h.seqFlag]
      exact fun hc => Bool.noConfusion hc.1
    · rw [← Bool.not_eq_true, sequenceNumberUnderflow_iff, h.seqFlag]
      exact fun hc => Bool.noConfusion hc.1
  have henter : jb.enterTimestampOverflowCheck p = (false, jb) := by
    unfold enterTimestampOverflowCheck
    rw [h.tsFlag, if_neg Bool.false_ne_true, if_pos ⟨by omega, by omega⟩, htail]
    rfl
  have htailTs : jb.tailTimestampCheck p = (false, jb) := by
    unfold tailTimestampCheck
    rw [if_neg (by omega)]
  have hpush : (jb.pushStart p).pushTail p = jb := by
    rw [pushStart, if_pos h.started, pushTail, pushTailSequenceNumber_not jb p hover, htail,
      pushTailTimestamp_not jb p henter, htailTs]
  -- the packet is older than the window allows, and is freed
  have hwithin : jb.withinLatencyTolerance p = (false, jb) := by
    have hlatency : jb.withinLatency p = false := by
      unfold withinLatency
      rw [h.tsFlag, if_neg Bool.false_ne_true, decide_eq_false]
      omega
    unfold withinLatencyTolerance
    rw [htailTs]
    simp only [Bool.false_eq_true, false_or]
    rw [if_neg (by omega), hlatency]
  have haccept : jb.pushAccept p = (true, jb.emit (.packetFreed p.addr)) := by
    unfold pushAccept
    rw [hpush, hwithin]
    rfl
  unfold jitterBufferPush
  rw [haccept]
  dsimp only
  rw [(h.emit _).parse]

end FullCircle

/-- The packet 65023 past the head, still of the head frame, closes the circle. -/
theorem Refines.push_close {S : RtpStream} {L : ℕ} {a : Held} (r : Refines S L jb a)
    (hseq : S.firstSeq = 0) (hhead : a.head = 0) (htail : a.tail = 65022)
    (hframe : S.frameOf (a.tail + 1) = 0) :
    ∃ jb', jitterBufferPush cb jb (S.packet (a.tail + 1)) = ⟨.success, false, jb'⟩ ∧
      FullCircle jb' (S.packet 0).ts ∧ jb'.maxLatency = jb.maxLatency ∧
      frameEvents jb'.trace = frameEvents jb.trace := by
  have hmono := S.frameOf_mono (show a.tail ≤ a.tail + 1 by omega)
  have hts : ∀ i, S.frameOf i = 0 → (S.packet i).ts = (S.packet 0).ts := fun i hi =>
    S.ts_eq_of_frameOf_eq (hi.trans S.frameOf_zero.symm)
  have h1 : jb.headSequenceNumber = 0 := by
    rw [r.window.headSeq, hhead, RtpStream.posAt, hseq]
  have h2 : jb.tailSequenceNumber = 65022 := by
    rw [r.window.tailSeq, htail, RtpStream.posAt, hseq]
  have h3 : jb.headTimestamp = (S.packet 0).ts := by rw [r.window.headTs, hhead, S.ts_eq]
  have h4 : jb.tailTimestamp = (S.packet 0).ts := by
    rw [r.window.tailTs, ← S.ts_eq, hts a.tail (by omega)]
  have h5 : (S.packet (a.tail + 1)).seq = 65023 := by rw [S.seq_packet, hseq, htail]
  have h6 := hts (a.tail + 1) hframe
  have hseqFlag : jb.sequenceNumberOverflowState = false := by
    rw [← Bool.not_eq_true, r.window.seqFlag, hhead, htail, RtpStream.posAt, RtpStream.posAt, hseq]
    decide
  have htsFlag : jb.timestampOverFlowState = false := by
    rw [← Bool.not_eq_true]
    intro hf
    have hlt := r.window.turn_of_tsFlag hf
    have hsame : S.frameOf a.tail = S.frameOf 0 := by rw [S.frameOf_zero]; omega
    rw [hhead, RtpStream.turnAt, RtpStream.turnAt, RtpStream.timeAt, RtpStream.timeAt,
      hsame] at hlt
    exact absurd hlt (lt_irrefl _)
  -- the packet is taken for one before the head
  have hunder : jb.sequenceNumberUnderflow (S.packet (a.tail + 1)) = true := by
    rw [sequenceNumberUnderflow_iff]
    refine ⟨hseqFlag, by omega, ?_, by omega, by omega, ?_⟩
    · simp [headCheckingAllowed, h3, h6]
    · simp [underflowPossible, h3, h6]
  have hpush := pushTailSequenceNumber_entered jb _
    (enterSequenceNumberOverflowCheck_underflow jb _ hunder)
  have hcircle : FullCircle { jb with
      sequenceNumberOverflowState := true
      headSequenceNumber := (S.packet (a.tail + 1)).seq
      headTimestamp := (S.packet (a.tail + 1)).ts } (S.packet 0).ts :=
    ⟨r.window.started, rfl, htsFlag, h5, h2, h6, h4⟩
  generalize hjb₁ : ({ jb with
      sequenceNumberOverflowState := true
      headSequenceNumber := (S.packet (a.tail + 1)).seq
      headTimestamp := (S.packet (a.tail + 1)).ts } : JitterBuffer) = jb₁ at hpush hcircle
  have htail : jb₁.tailTimestamp = (S.packet (a.tail + 1)).ts := hcircle.tailTs.trans h6.symm
  have hstore : FullCircle (jb₁.pushStore (S.packet (a.tail + 1))) (S.packet 0).ts := by
    rw [pushStore_frame]
    exact { hcircle with }
  have haccept : jb.pushAccept (S.packet (a.tail + 1)) =
      (false, jb₁.pushStore (S.packet (a.tail + 1))) := by
    unfold pushAccept
    rw [pushStart, if_pos r.window.started, pushTail, hpush, pushTailTimestamp_same jb₁ _ htail,
      withinLatencyTolerance_same jb₁ _ htail]
    dsimp only
    rw [if_pos rfl, pushHead_same _ _ (hstore.headSeq.trans h5.symm)
      (hstore.headTs.trans h6.symm) (hstore.tailTs.trans h6.symm)]
  refine ⟨jb₁.pushStore (S.packet (a.tail + 1)), ?_, hstore, ?_, ?_⟩
  · unfold jitterBufferPush
    rw [haccept]
    dsimp only
    rw [hstore.parse]
  · rw [pushStore_frame, ← hjb₁]
  · rw [pushStore_frameEvents, ← hjb₁]

/-- A first frame of at least `n + 2 = 65024` packets from sequence number zero closes the circle
before it is reported. -/
theorem pushAll_longFrame {S : RtpStream} {L n : ℕ} (hn : n = 65022) (hL : L < 4294967295) (c : ℕ)
    (hdepay : S.DepaysFrom cb) (hready : cb.AlwaysReady) (hseq : S.firstSeq = 0)
    (hframe : S.frameOf (n + 1) = 0) :
    FullCircle (pushAll cb (.empty L c) ((List.range (n + 2)).map S.packet)) (S.packet 0).ts ∧
      (pushAll cb (.empty L c) ((List.range (n + 2)).map S.packet)).maxLatency = L ∧
      frameEvents (pushAll cb (.empty L c) ((List.range (n + 2)).map S.packet)).trace = [] := by
  obtain ⟨hsteps, hheld⟩ := @allSteps_inOrder S L n fun k hk => by omega
  obtain ⟨-, r⟩ := pushAll_first hL c hdepay hready hsteps
  have hmono := S.frameOf_mono (show n ≤ n + 1 by omega)
  have hhead : S.oldestHeld n = 0 := by
    have h1 := S.oldestHeld_le_frameStart n
    have h2 : S.frameStart n = 0 :=
      S.frameStart_eq_of_frameOf_eq (Nat.zero_le _) (by rw [S.frameOf_zero]; omega)
    omega
  rw [hheld] at r
  obtain ⟨jb', hpush, hcircle, hlat, htrace⟩ := r.push_close hseq hhead hn hframe
  have hrun : pushAll cb (.empty L c) ((List.range (n + 2)).map S.packet) = jb' := by
    rw [List.range_succ, List.map_append, pushAll_append, range_eq_cons]
    exact congrArg PushResult.jb hpush
  rw [hrun]
  refine ⟨hcircle, hlat.trans r.latency, ?_⟩
  rw [htrace, r.reported]
  exact congrArg S.reportsBefore hhead

/-- Packets after the frame whose timestamp has wrapped are discarded. -/
theorem pushes_after_longFrame {S : RtpStream} {L n : ℕ} (hn : n = 65022) (hL : L < 4294967295)
    (c : ℕ) (hdepay : S.DepaysFrom cb) (hready : cb.AlwaysReady) (hseq : S.firstSeq = 0)
    (hframe : S.frameOf (n + 1) = 0) (hlat : L < (S.packet 0).ts)
    (h1 : (S.packet (n + 2)).ts < (S.packet 0).ts - L)
    (h2 : (S.packet (n + 3)).ts < (S.packet 0).ts - L) :
    (∃ x ∈ pushes cb (.empty L c) ((List.range (n + 4)).map S.packet), x.discarded = true) ∧
      frameEvents (pushAll cb (.empty L c) ((List.range (n + 4)).map S.packet)).trace = [] := by
  obtain ⟨hcircle, hL', htrace⟩ := pushAll_longFrame hn hL c hdepay hready hseq hframe
  have hsplit : List.range (n + 4) = List.range (n + 2) ++ [n + 2, n + 3] := by
    rw [List.range_succ, List.range_succ, List.append_assoc]
    rfl
  rw [hsplit, List.map_append, pushes_append, pushAll_append]
  generalize pushAll cb (.empty L c) ((List.range (n + 2)).map S.packet) = jb at *
  have hs1 : 65023 < (S.packet (n + 2)).seq := by rw [S.seq_packet]; omega
  have hs2 : 65023 < (S.packet (n + 3)).seq := by rw [S.seq_packet]; omega
  have htime := (S.packet 0).ts_lt
  have hp1 : jitterBufferPush cb jb (S.packet (n + 2)) = _ :=
    hcircle.push hs1 (by omega) (by omega) htime
  have hp2 : jitterBufferPush cb (jb.emit (.packetFreed (S.packet (n + 2)).addr))
      (S.packet (n + 3)) = _ :=
    (hcircle.emit _).push hs2 (by simp only [emit]; omega) (by simp only [emit]; omega) htime
  constructor
  · refine ⟨⟨.success, true, jb.emit (.packetFreed (S.packet (n + 2)).addr)⟩,
      List.mem_append_right _ ?_, rfl⟩
    rw [List.map_cons, pushes, hp1]
    exact List.mem_cons_self
  · rw [pushAll, List.map_cons, List.map_cons, List.map_nil, List.foldl_cons, List.foldl_cons,
      List.foldl_nil, hp1, hp2]
    simp only [emit, frameEvents_append, htrace]
    rfl

/-- A first frame of 65024 packets, then frames of one packet. -/
def longFrameStream : RtpStream :=
  .ofFrames 0 (fun i => i - 65023) (fun k => 4294967286 + 15 * k) rfl (fun i => by omega)
    (fun k => by omega) (fun k => by omega)

theorem longFrameStream_depaysFrom : longFrameStream.DepaysFrom markCallbacks :=
  RtpStream.ofFrames_depaysFrom _ _ _ _ _ _ _

end KvsWebrtc
