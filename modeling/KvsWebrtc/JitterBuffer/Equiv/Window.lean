import KvsWebrtc.JitterBuffer.Stream
import KvsWebrtc.JitterBuffer.Equiv.Checks
import KvsWebrtc.JitterBuffer.Equiv.Drop

/-!
# The window checks on a stream

`Window S A jb h t` says that the ends, timestamps and overflow flags of `jb` are those of the
packets `h` and `t` of the stream `S`.  The timestamp flag may lag behind: when one packet wraps
both counters, `enterSequenceNumberOverflowCheck` overwrites the tail timestamp before
`enterTimestampOverflowCheck` compares with it, and the flag stays clear although the head lies in
an earlier turn.  The last clause of `Window` asks that in this case no packet of an earlier turn
is still outstanding.

Under this invariant a packet of the stream does what it should: one inside the window moves
neither end (`pushTail_inside`), one past the tail becomes the tail (`pushTail_past`), both are
within the latency tolerance, and neither is taken for a new head (`pushHead_eq`).
-/

namespace KvsWebrtc

open JitterBuffer

/-- The window of `jb` reaches from packet `h` to packet `t` of the stream, of which `A` have
arrived. -/
structure Window (S : RtpStream) (A : Finset ℕ) (jb : JitterBuffer) (h t : ℕ) : Prop where
  started : jb.started = true
  headSeq : jb.headSequenceNumber = S.posAt h % 65536
  tailSeq : jb.tailSequenceNumber = S.posAt t % 65536
  headTs : jb.headTimestamp = S.timeAt h % 4294967296
  tailTs : jb.tailTimestamp = S.timeAt t % 4294967296
  le : h ≤ t
  width : t ≤ h + 65022
  turn : S.timeAt t < S.timeAt h + 4294967296
  seqFlag : jb.sequenceNumberOverflowState = true ↔ S.posAt h / 65536 < S.posAt t / 65536
  turn_of_tsFlag : jb.timestampOverFlowState = true → S.turnAt h < S.turnAt t
  tsFlag_of_turn : S.turnAt h < S.turnAt t →
    jb.timestampOverFlowState = true ∨ ∀ i, S.turnAt i < S.turnAt t → i ∈ A

namespace Window

variable {S : RtpStream} {A : Finset ℕ} {jb : JitterBuffer} {h t i : ℕ}

/-- The sequence numbers of a window, in the form the arithmetic needs. -/
theorem seq_facts (w : Window S A jb h t) :
    jb.headSequenceNumber = (S.firstSeq + h) % 65536 ∧
    jb.tailSequenceNumber = (S.firstSeq + t) % 65536 ∧ h ≤ t ∧ t ≤ h + 65022 ∧
    (jb.sequenceNumberOverflowState = true ∧ (S.firstSeq + h) / 65536 < (S.firstSeq + t) / 65536 ∨
      jb.sequenceNumberOverflowState = false ∧
        (S.firstSeq + h) / 65536 = (S.firstSeq + t) / 65536) := by
  have hle := w.le
  have hflag := w.seqFlag
  refine ⟨w.headSeq, w.tailSeq, hle, w.width, ?_⟩
  unfold RtpStream.posAt at hflag
  cases hf : jb.sequenceNumberOverflowState with
  | true => exact Or.inl ⟨rfl, hflag.mp hf⟩
  | false =>
    refine Or.inr ⟨rfl, ?_⟩
    have hnot : ¬ (S.firstSeq + h) / 65536 < (S.firstSeq + t) / 65536 := fun hlt => by
      rw [hflag.mpr hlt] at hf
      cases hf
    omega

/-- The timestamps of a window and of a packet in it that has not arrived before. -/
theorem ts_facts (w : Window S A jb h t) (hi : h ≤ i) (hit : i ≤ t) (hnew : i ∉ A) :
    S.timeAt h ≤ S.timeAt i ∧ S.timeAt i ≤ S.timeAt t ∧
    (jb.timestampOverFlowState = true ∧
        S.timeAt h / 4294967296 < S.timeAt t / 4294967296 ∨
      jb.timestampOverFlowState = false ∧
        S.timeAt i / 4294967296 = S.timeAt t / 4294967296) := by
  have h1 := S.timeAt_mono hi
  have h2 := S.timeAt_mono hit
  refine ⟨h1, h2, ?_⟩
  cases hf : jb.timestampOverFlowState with
  | true => exact Or.inl ⟨rfl, w.turn_of_tsFlag hf⟩
  | false =>
    refine Or.inr ⟨rfl, ?_⟩
    by_contra hne
    have hlt : S.turnAt i < S.turnAt t := by unfold RtpStream.turnAt; omega
    have hht : S.turnAt h < S.turnAt t := by unfold RtpStream.turnAt at hlt ⊢; omega
    rcases w.tsFlag_of_turn hht with h3 | h3
    · rw [hf] at h3; cases h3
    · exact hnew (h3 i hlt)

/-! ### Sequence number checks -/

/-- A packet inside the window is never taken for a new head. -/
theorem headSequenceNumberCheck_eq (w : Window S A jb h t) (hi : h < i) (hit : i ≤ t) :
    jb.headSequenceNumberCheck (S.packet i) = (false, jb) := by
  have hs := S.seq_packet i
  obtain ⟨h1, h2, h3, h4, h5⟩ := w.seq_facts
  refine headSequenceNumberCheck_none jb _ (by omega) ?_
  rintro ⟨-, hlt, -, hflag⟩
  rcases h5 with ⟨hf, h5⟩ | ⟨hf, h5⟩
  · have := hflag hf
    omega
  · omega

/-- A packet before the tail is never taken for a new tail. -/
theorem tailSequenceNumberCheck_inside (w : Window S A jb h t) (hi : h ≤ i) (hit : i < t) :
    jb.tailSequenceNumberCheck (S.packet i) = (false, jb) := by
  have hs := S.seq_packet i
  obtain ⟨h1, h2, h3, h4, h5⟩ := w.seq_facts
  refine tailSequenceNumberCheck_none jb _ (by omega) ?_
  rintro ⟨hlt, hflag⟩
  rcases h5 with ⟨hf, h5⟩ | ⟨hf, h5⟩
  · have := hflag hf
    omega
  · omega

/-- A packet past the tail is its successor in the window, unless the sequence number wraps. -/
theorem isNewTail_of_past (w : Window S A jb h t) (hit : t < i) (hwidth : i ≤ h + 65022)
    (hepoch : S.posAt i / 65536 = S.posAt t / 65536) : jb.isNewTail (S.packet i) := by
  have hs := S.seq_packet i
  unfold RtpStream.posAt at hepoch
  obtain ⟨h1, h2, h3, h4, h5⟩ := w.seq_facts
  refine ⟨by omega, fun hf => ?_⟩
  rcases h5 with ⟨-, h5⟩ | ⟨hf', -⟩
  · omega
  · rw [hf'] at hf; cases hf

/-- Inside the window, and past the tail in the same epoch, no overflow is detected. -/
theorem enterSequenceNumberOverflowCheck_eq (w : Window S A jb h t) (hi : h ≤ i)
    (hwidth : i ≤ h + 65022) (hepoch : i ≤ t ∨ S.posAt i / 65536 = S.posAt t / 65536) :
    jb.enterSequenceNumberOverflowCheck (S.packet i) = (false, jb) := by
  have hs := S.seq_packet i
  unfold RtpStream.posAt at hepoch
  obtain ⟨h1, h2, h3, h4, h5⟩ := w.seq_facts
  refine enterSequenceNumberOverflowCheck_none jb _ ?_ ?_
  · rw [← Bool.not_eq_true, sequenceNumberOverflow_iff]
    rintro ⟨hf, h6, h7, h8⟩
    rcases h5 with ⟨hf', h5⟩ | ⟨-, h5⟩
    · rw [hf] at hf'; cases hf'
    · omega
  · rw [← Bool.not_eq_true, sequenceNumberUnderflow_iff]
    rintro ⟨hf, h6, -, h8, h9, -⟩
    rcases h5 with ⟨hf', h5⟩ | ⟨-, h5⟩
    · rw [hf] at hf'; cases hf'
    · omega

/-- A packet at most 513 past the tail and across the wrap is detected as an overflow. -/
theorem sequenceNumberOverflow_of_past (w : Window S A jb h t) (hit : t < i) (hgap : i ≤ t + 513)
    (hwidth : i ≤ h + 65022) (hepoch : S.posAt i / 65536 ≠ S.posAt t / 65536) :
    jb.sequenceNumberOverflow (S.packet i) = true := by
  have hs := S.seq_packet i
  unfold RtpStream.posAt at hepoch
  obtain ⟨h1, h2, h3, h4, h5⟩ := w.seq_facts
  rw [sequenceNumberOverflow_iff]
  rcases h5 with ⟨-, h5⟩ | ⟨hf, h5⟩
  · omega
  · exact ⟨hf, by omega, by omega, by omega⟩

/-! ### Timestamp checks -/

theorem enterTimestampOverflowCheck_inside (w : Window S A jb h t) (hi : h < i) (hit : i < t)
    (hnew : i ∉ A) : jb.enterTimestampOverflowCheck (S.packet i) = (false, jb) := by
  have hts := S.ts_eq i
  have h1 := w.headTs
  have h2 := w.tailTs
  obtain ⟨h3, h4, ⟨hf, h5⟩ | ⟨hf, h5⟩⟩ := w.ts_facts hi.le hit.le hnew
  · unfold enterTimestampOverflowCheck
    rw [if_pos hf]
  · unfold enterTimestampOverflowCheck
    rw [hf, w.tailSequenceNumberCheck_inside hi.le hit,
      w.headSequenceNumberCheck_eq hi hit.le]
    simp only [Bool.false_eq_true, if_false, ite_self]

theorem tailTimestampCheck_inside (w : Window S A jb h t) (hi : h ≤ i) (hit : i ≤ t)
    (hnew : i ∉ A) : jb.tailTimestampCheck (S.packet i) = (false, jb) := by
  have hts := S.ts_eq i
  have h1 := w.headTs
  have h2 := w.tailTs
  have h6 := w.turn
  obtain ⟨h3, h4, ⟨hf, h5⟩ | ⟨hf, h5⟩⟩ := w.ts_facts hi hit hnew
  · unfold tailTimestampCheck
    split_ifs with hlt hhead
    · rw [hf] at hhead
      have : ¬ jb.headTimestamp > (S.packet i).ts := by omega
      simp_all
    · rfl
    · rfl
  · unfold tailTimestampCheck
    rw [if_neg (by omega)]

/-- The tail checks leave a buffer alone when the packet lies inside its window. -/
theorem pushTail_inside (w : Window S A jb h t) (hi : h < i) (hit : i < t) (hnew : i ∉ A) :
    jb.pushTail (S.packet i) = jb := by
  have hw := w.width
  have hseq : jb.pushTailSequenceNumber (S.packet i) = jb := by
    rw [pushTailSequenceNumber_not jb _
        (w.enterSequenceNumberOverflowCheck_eq hi.le (by omega) (Or.inl hit.le)),
      w.tailSequenceNumberCheck_inside hi.le hit]
  have hts : jb.pushTailTimestamp (S.packet i) = jb := by
    rw [pushTailTimestamp_not jb _ (w.enterTimestampOverflowCheck_inside hi hit hnew),
      w.tailTimestampCheck_inside hi.le hit.le hnew]
  rw [pushTail, hseq, hts]

theorem insert (w : Window S A jb h t) (i : ℕ) : Window S (Insert.insert i A) jb h t :=
  { w with
    tsFlag_of_turn := fun hturn => (w.tsFlag_of_turn hturn).imp_right fun hall j hj =>
      Finset.mem_insert_of_mem (hall j hj) }

theorem emit (w : Window S A jb h t) (e : JbEvent) : Window S A (jb.emit e) h t := { w with }

/-- The buffer after packet `p` has become its tail. -/
def withTail (jb : JitterBuffer) (p : RtpPacket) (seqFlag tsFlag : Bool) : JitterBuffer :=
  { jb with
    tailSequenceNumber := p.seq
    tailTimestamp := p.ts
    sequenceNumberOverflowState := seqFlag
    timestampOverFlowState := tsFlag }

/-- The tail checks when the packet wraps the sequence number: the tail timestamp is overwritten
first, so the timestamp flag keeps its value. -/
theorem pushTail_wrap (w : Window S A jb h t) (hit : t < i) (hgap : i ≤ t + 513)
    (hwidth : i ≤ h + 65022) (hepoch : S.posAt i / 65536 ≠ S.posAt t / 65536) :
    jb.pushTail (S.packet i) = withTail jb (S.packet i) true jb.timestampOverFlowState := by
  have hover := w.sequenceNumberOverflow_of_past hit hgap hwidth hepoch
  have hseq : jb.pushTailSequenceNumber (S.packet i) =
      withTail jb (S.packet i) true jb.timestampOverFlowState := by
    rw [pushTailSequenceNumber_entered jb _ (enterSequenceNumberOverflowCheck_overflow jb _ hover)]
    rfl
  rw [pushTail, hseq, pushTailTimestamp_same]
  rfl

/-- Once a packet past the tail has become the tail, it is not taken for a new head. -/
theorem headSequenceNumberCheck_extended (w : Window S A jb h t) (hit : t < i)
    (hwidth : i ≤ h + 65022) (hepoch : S.posAt i / 65536 = S.posAt t / 65536) :
    ({ jb with tailSequenceNumber := (S.packet i).seq }).headSequenceNumberCheck (S.packet i) =
      (false, { jb with tailSequenceNumber := (S.packet i).seq }) := by
  have hs := S.seq_packet i
  unfold RtpStream.posAt at hepoch
  obtain ⟨h1, h2, h3, h4, h5⟩ := w.seq_facts
  refine headSequenceNumberCheck_none _ _ (by simp only; omega) ?_
  rintro ⟨-, hlt, -, hflag⟩
  simp only at hlt hflag
  rcases h5 with ⟨hf, -⟩ | ⟨-, h5⟩
  · exact absurd (hflag hf) (lt_irrefl _)
  · omega

/-- The tail checks when the packet extends the window within the same epoch. -/
theorem pushTail_extend (w : Window S A jb h t) (hit : t < i) (hwidth : i ≤ h + 65022)
    (hturn : S.timeAt i < S.timeAt h + 4294967296)
    (hepoch : S.posAt i / 65536 = S.posAt t / 65536) :
    jb.pushTail (S.packet i) =
      withTail jb (S.packet i) jb.sequenceNumberOverflowState
        (jb.timestampOverFlowState || decide (S.turnAt t < S.turnAt i)) := by
  have hle := w.le
  have hnew := w.isNewTail_of_past hit hwidth hepoch
  have hts := S.ts_eq i
  have h1 := w.headTs
  have h2 := w.tailTs
  have h3 := S.timeAt_mono w.le
  have h4 := S.timeAt_mono hit.le
  -- the packet lies ahead of the tail, in the same turn of the numbers
  have hseq : jb.pushTailSequenceNumber (S.packet i) =
      { jb with tailSequenceNumber := (S.packet i).seq } := by
    rw [pushTailSequenceNumber_not jb _
        (w.enterSequenceNumberOverflowCheck_eq (by omega) hwidth (Or.inr hepoch)),
      tailSequenceNumberCheck_new jb _ hnew]
  rw [pushTail, hseq]
  unfold RtpStream.turnAt
  by_cases hwrap : jb.timestampOverFlowState = false ∧
      S.timeAt t / 4294967296 < S.timeAt i / 4294967296
  · -- the timestamp wraps with this packet
    obtain ⟨hf, hlt⟩ := hwrap
    rw [pushTailTimestamp_wrap { jb with tailSequenceNumber := (S.packet i).seq } _ rfl hf
      (by simp only; omega) (by simp only; omega), hf, decide_eq_true hlt]
    rfl
  · have hflag : jb.timestampOverFlowState = true →
        S.timeAt h / 4294967296 < S.timeAt t / 4294967296 := w.turn_of_tsFlag
    have hsame : S.timeAt t / 4294967296 = S.timeAt i / 4294967296 := by
      cases hf : jb.timestampOverFlowState with
      | true => have := hflag hf; omega
      | false => have := not_and.mp hwrap hf; omega
    rw [pushTailTimestamp_advance { jb with tailSequenceNumber := (S.packet i).seq } _ rfl
      (w.headSequenceNumberCheck_extended hit hwidth hepoch) (by simp only; omega), hsame]
    · simp only [lt_irrefl, decide_false, Bool.or_false]
      rfl
    · intro hf
      have := hflag hf
      simp only
      omega

/-- **A packet past the tail becomes the tail.**  When it wraps both counters, every packet of an
earlier turn must have arrived. -/
theorem pushTail_past (w : Window S A jb h t) (hit : t < i) (hgap : i ≤ t + 513)
    (hwidth : i ≤ h + 65022) (hturn : S.timeAt i < S.timeAt h + 4294967296)
    (hboth : S.posAt i / 65536 ≠ S.posAt t / 65536 → S.turnAt t < S.turnAt i →
      ∀ j, S.turnAt j < S.turnAt i → j ∈ A) :
    ∃ seqFlag tsFlag, jb.pushTail (S.packet i) = withTail jb (S.packet i) seqFlag tsFlag ∧
      Window S (Insert.insert i A) (withTail jb (S.packet i) seqFlag tsFlag) h i := by
  have hle := w.le
  have hlast := S.timeAt_mono hit.le
  have hfirst := S.timeAt_mono hle
  obtain ⟨-, -, -, -, hseqFlag⟩ := w.seq_facts
  have hturnFlag := w.turn_of_tsFlag
  have hflagTurn := w.tsFlag_of_turn
  -- the clauses that do not depend on the flags
  have hwindow : ∀ seqFlag tsFlag,
      (seqFlag = true ↔ S.posAt h / 65536 < S.posAt i / 65536) →
      (tsFlag = true → S.turnAt h < S.turnAt i) →
      (S.turnAt h < S.turnAt i → tsFlag = true ∨ ∀ j, S.turnAt j < S.turnAt i → j ∈ A) →
      Window S (Insert.insert i A) (withTail jb (S.packet i) seqFlag tsFlag) h i := by
    intro seqFlag tsFlag h1 h2 h3
    exact
      { started := w.started
        headSeq := w.headSeq
        tailSeq := S.seq_eq i
        headTs := w.headTs
        tailTs := S.ts_eq i
        le := by omega
        width := hwidth
        turn := hturn
        seqFlag := h1
        turn_of_tsFlag := h2
        tsFlag_of_turn := fun hlt => (h3 hlt).imp_right fun hall j hj =>
          Finset.mem_insert_of_mem (hall j hj) }
  by_cases hepoch : S.posAt i / 65536 = S.posAt t / 65536
  · refine ⟨_, _, w.pushTail_extend hit hwidth hturn hepoch, hwindow _ _ ?_ ?_ ?_⟩
    · rw [hepoch]
      exact w.seqFlag
    · rw [Bool.or_eq_true, decide_eq_true_eq]
      unfold RtpStream.turnAt at hturnFlag ⊢
      rintro (hf | hlt)
      · have := hturnFlag hf
        omega
      · omega
    · intro hlt
      rw [Bool.or_eq_true, decide_eq_true_eq]
      by_cases hti : S.turnAt t < S.turnAt i
      · exact Or.inl (Or.inr hti)
      · have heq : S.turnAt i = S.turnAt t := by
          unfold RtpStream.turnAt at hti ⊢
          omega
        rw [heq] at hlt ⊢
        exact (hflagTurn hlt).imp_left Or.inl
  · refine ⟨_, _, w.pushTail_wrap hit hgap hwidth hepoch, hwindow _ _ ?_ ?_ ?_⟩
    · unfold RtpStream.posAt at hepoch ⊢
      simp only [true_iff]
      omega
    · intro hf
      have := hturnFlag hf
      unfold RtpStream.turnAt at this ⊢
      omega
    · intro hlt
      by_cases hti : S.turnAt t < S.turnAt i
      · exact Or.inr (hboth hepoch hti)
      · have heq : S.turnAt i = S.turnAt t := by
          unfold RtpStream.turnAt at hti ⊢
          omega
        rw [heq] at hlt ⊢
        exact hflagTurn hlt

/-! ### Latency and head checks -/

/-- A late packet whose age is at most the maximum latency is accepted. -/
theorem withinLatencyTolerance_inside (w : Window S A jb h t) (hi : h ≤ i) (hit : i ≤ t)
    (hnew : i ∉ A) (hspan : S.timeAt t ≤ S.timeAt h + jb.maxLatency)
    (hlat : jb.maxLatency < 4294967295) :
    jb.withinLatencyTolerance (S.packet i) = (true, jb) := by
  have hts := S.ts_eq i
  have h1 := w.headTs
  have h2 := w.tailTs
  have h6 := w.turn
  have hwithin : jb.tailTimestamp ≠ (S.packet i).ts → jb.withinLatency (S.packet i) = true := by
    intro hne
    unfold withinLatency maxRtpTimestamp
    obtain ⟨h3, h4, ⟨hf, h5⟩ | ⟨hf, h5⟩⟩ := w.ts_facts hi hit hnew
    · rw [if_pos hf, decide_eq_true_eq]
      split_ifs <;> omega
    · rw [if_neg (by rw [hf]; exact Bool.false_ne_true), decide_eq_true_eq]
      omega
  unfold withinLatencyTolerance
  rw [w.tailTimestampCheck_inside hi hit hnew]
  simp only [Bool.false_eq_true, false_or]
  split_ifs with heq
  · rfl
  · rw [hwithin heq]

theorem withinLatencyTolerance_tail (w : Window S A jb h t) :
    jb.withinLatencyTolerance (S.packet t) = (true, jb) :=
  withinLatencyTolerance_same jb _ (by rw [w.tailTs, S.ts_eq])

/-- The head checks leave a buffer alone when the packet lies inside its window. -/
theorem pushHead_eq (w : Window S A jb h t) (hi : h < i) (hit : i ≤ t) :
    jb.pushHead (S.packet i) = jb := by
  have hseq := w.headSequenceNumberCheck_eq hi hit
  have hts : jb.headTimestampCheck (S.packet i) = (false, jb) := by
    unfold headTimestampCheck
    rw [hseq]
    simp only [Bool.false_eq_true, if_false, ite_self]
  unfold pushHead
  rw [hts, hseq]
  exact ite_self _

/-! ### Moving the head -/

/-- Dropping the packets before packet `j` makes it the head. -/
theorem dropBufferData (w : Window S A jb h t) {j : ℕ} (hj : h < j) (hjt : j ≤ t) :
    Window S A (jb.jitterBufferDropBufferData (S.posAt h % 65536) (S.posAt (j - 1) % 65536)
      (S.packet j).ts) j t := by
  have hinc : uint16Inc (S.posAt (j - 1) % 65536) = S.posAt j % 65536 := by
    unfold uint16Inc RtpStream.posAt
    omega
  have h1 := w.tailSeq
  have h2 := w.tailTs
  have h3 := w.width
  have h4 := w.turn
  have h5 := S.timeAt_mono hj.le
  have h6 := S.timeAt_mono hjt
  have h7 := w.turn_of_tsFlag
  have h8 := w.tsFlag_of_turn
  have h9 := w.seqFlag
  unfold RtpStream.turnAt at h7 h8
  rw [jitterBufferDropBufferData_eq, hinc, S.ts_eq]
  refine
    { started := w.started, headSeq := rfl, tailSeq := h1, headTs := rfl, tailTs := h2
      le := hjt, width := by omega, turn := by omega, seqFlag := ?_, turn_of_tsFlag := ?_
      tsFlag_of_turn := ?_ }
  · simp only [Bool.and_eq_true, decide_eq_true_eq]
    rw [h9, h1]
    unfold RtpStream.posAt
    omega
  · simp only [Bool.and_eq_true, decide_eq_true_eq]
    unfold RtpStream.turnAt
    rintro ⟨hf, hlt⟩
    have := h7 hf
    omega
  · simp only [Bool.and_eq_true, decide_eq_true_eq]
    unfold RtpStream.turnAt
    intro hlt
    refine (h8 (by omega)).imp_left fun hf => ⟨hf, ?_⟩
    omega

end Window

end KvsWebrtc
