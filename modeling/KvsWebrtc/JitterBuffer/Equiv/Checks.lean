import KvsWebrtc.JitterBuffer.Parse
import Mathlib.Tactic.SplitIfs

/-!
# What the window checks can do

One inversion lemma for each check of `jitterBufferPush`: the cases that can occur, each with the
condition under which it does and the buffer it leaves.  Everything later is derived from these.
-/

namespace KvsWebrtc.JitterBuffer

variable (jb : JitterBuffer) (p : RtpPacket)

/-- The packet lies before the head and is close enough to become the new one. -/
def isNewHead : Prop :=
  jb.headCheckingAllowed p = true ∧ p.seq < jb.headSequenceNumber ∧
    jb.headSequenceNumber ≤ p.seq + 512 ∧
    (jb.sequenceNumberOverflowState = true → jb.tailSequenceNumber < p.seq)

/-- The packet lies past the tail and, after a wrap, still before the head. -/
def isNewTail : Prop :=
  jb.tailSequenceNumber < p.seq ∧
    (jb.sequenceNumberOverflowState = true → p.seq < jb.headSequenceNumber)

theorem headSequenceNumberCheck_same (h : jb.headSequenceNumber = p.seq) :
    jb.headSequenceNumberCheck p = (true, jb) := by
  unfold headSequenceNumberCheck
  rw [if_pos h]

theorem minimumHead_le_iff : (p.seq ≥ if jb.headSequenceNumber ≥ maxOutOfOrderPacketDifference then
      jb.headSequenceNumber - maxOutOfOrderPacketDifference else 0) ↔
    jb.headSequenceNumber ≤ p.seq + 512 := by
  unfold maxOutOfOrderPacketDifference
  split_ifs <;> omega

theorem headSequenceNumberCheck_new (h : jb.isNewHead p) :
    jb.headSequenceNumberCheck p = (true, { jb with headSequenceNumber := p.seq }) := by
  obtain ⟨hallowed, hlt, hmin, hflag⟩ := h
  unfold headSequenceNumberCheck
  simp only [minimumHead_le_iff]
  rw [if_neg (by omega), if_pos hallowed, if_pos hlt, if_pos hmin]
  split_ifs with hf hc
  · rfl
  · exact absurd ⟨hflag hf, hlt, hmin⟩ hc
  · rfl

theorem headSequenceNumberCheck_none (hne : jb.headSequenceNumber ≠ p.seq)
    (h : ¬ jb.isNewHead p) : jb.headSequenceNumberCheck p = (false, jb) := by
  unfold headSequenceNumberCheck
  simp only [minimumHead_le_iff]
  rw [if_neg hne]
  split_ifs with hallowed hf hc hlt hmin
  · exact absurd ⟨hallowed, hc.2.1, hc.2.2, fun _ => hc.1⟩ h
  · rfl
  · exact absurd ⟨hallowed, hlt, hmin, fun hf' => absurd hf' hf⟩ h
  · rfl
  · rfl
  · rfl

theorem headSequenceNumberCheck_of_false (h : (jb.headSequenceNumberCheck p).1 = false) :
    jb.headSequenceNumberCheck p = (false, jb) := by
  by_cases hsame : jb.headSequenceNumber = p.seq
  · rw [headSequenceNumberCheck_same jb p hsame] at h
    cases h
  · by_cases hnew : jb.isNewHead p
    · rw [headSequenceNumberCheck_new jb p hnew] at h
      cases h
    · exact headSequenceNumberCheck_none jb p hsame hnew

theorem headSequenceNumberCheck_fst :
    (jb.headSequenceNumberCheck p).1 = true ↔ jb.headSequenceNumber = p.seq ∨ jb.isNewHead p := by
  by_cases hsame : jb.headSequenceNumber = p.seq
  · simp [headSequenceNumberCheck_same jb p hsame, hsame]
  · by_cases hnew : jb.isNewHead p
    · simp [headSequenceNumberCheck_new jb p hnew, hnew]
    · simp [headSequenceNumberCheck_none jb p hsame hnew, hsame, hnew]

theorem tailSequenceNumberCheck_same (h : jb.tailSequenceNumber = p.seq) :
    jb.tailSequenceNumberCheck p = (true, jb) := by
  unfold tailSequenceNumberCheck
  rw [if_pos h]

theorem tailSequenceNumberCheck_new (h : jb.isNewTail p) :
    jb.tailSequenceNumberCheck p = (true, { jb with tailSequenceNumber := p.seq }) := by
  obtain ⟨hlt, hflag⟩ := h
  unfold tailSequenceNumberCheck
  rw [if_neg (by omega), if_pos]
  refine ⟨hlt, ?_⟩
  cases hf : jb.sequenceNumberOverflowState with
  | false => exact Or.inl rfl
  | true => exact Or.inr (hflag hf)

theorem tailSequenceNumberCheck_none (hne : jb.tailSequenceNumber ≠ p.seq)
    (h : ¬ jb.isNewTail p) : jb.tailSequenceNumberCheck p = (false, jb) := by
  unfold tailSequenceNumberCheck
  rw [if_neg hne, if_neg]
  rintro ⟨hlt, hf | hf⟩
  · exact h ⟨hlt, fun hf' => by rw [hf] at hf'; cases hf'⟩
  · exact h ⟨hlt, fun _ => hf⟩

theorem tailSequenceNumberCheck_of_false (h : (jb.tailSequenceNumberCheck p).1 = false) :
    jb.tailSequenceNumberCheck p = (false, jb) := by
  by_cases hsame : jb.tailSequenceNumber = p.seq
  · rw [tailSequenceNumberCheck_same jb p hsame] at h
    cases h
  · by_cases hnew : jb.isNewTail p
    · rw [tailSequenceNumberCheck_new jb p hnew] at h
      cases h
    · exact tailSequenceNumberCheck_none jb p hsame hnew

theorem sequenceNumberOverflow_iff : jb.sequenceNumberOverflow p = true ↔
    jb.sequenceNumberOverflowState = false ∧ 65535 ≤ jb.tailSequenceNumber + 512 ∧
      p.seq < jb.tailSequenceNumber ∧ p.seq + (65535 - jb.tailSequenceNumber) ≤ 512 := by
  unfold sequenceNumberOverflow maxRtpSequenceNum maxOutOfOrderPacketDifference
  rw [decide_eq_true_eq]
  constructor
  · rintro ⟨hf, h1, h2, h3⟩
    exact ⟨hf, by omega, h2, by omega⟩
  · rintro ⟨hf, h1, h2, h3⟩
    exact ⟨hf, by omega, h2, by omega⟩

theorem sequenceNumberUnderflow_iff : jb.sequenceNumberUnderflow p = true ↔
    jb.sequenceNumberOverflowState = false ∧ jb.tailSequenceNumber + 512 < 65535 ∧
      jb.headCheckingAllowed p = true ∧ jb.headSequenceNumber < 512 ∧
      65023 + jb.headSequenceNumber ≤ p.seq ∧ jb.underflowPossible p = true := by
  unfold sequenceNumberUnderflow maxRtpSequenceNum maxOutOfOrderPacketDifference
  rw [decide_eq_true_eq]
  constructor
  · rintro ⟨hf, h1, h2, h3, h4, h5⟩
    exact ⟨hf, by omega, h2, h3, by omega, h5⟩
  · rintro ⟨hf, h1, h2, h3, h4, h5⟩
    exact ⟨hf, by omega, h2, h3, by omega, h5⟩

theorem enterSequenceNumberOverflowCheck_none (h1 : jb.sequenceNumberOverflow p = false)
    (h2 : jb.sequenceNumberUnderflow p = false) :
    jb.enterSequenceNumberOverflowCheck p = (false, jb) := by
  unfold enterSequenceNumberOverflowCheck
  rw [h1, h2]
  rfl

theorem enterSequenceNumberOverflowCheck_overflow (h : jb.sequenceNumberOverflow p = true) :
    jb.enterSequenceNumberOverflowCheck p =
      (true, { jb with
        sequenceNumberOverflowState := true
        tailSequenceNumber := p.seq
        tailTimestamp := p.ts }) := by
  unfold enterSequenceNumberOverflowCheck
  rw [if_pos h]

theorem enterSequenceNumberOverflowCheck_underflow (h : jb.sequenceNumberUnderflow p = true) :
    jb.enterSequenceNumberOverflowCheck p =
      (true, { jb with
        sequenceNumberOverflowState := true
        headSequenceNumber := p.seq
        headTimestamp := p.ts }) := by
  have hover : ¬ jb.sequenceNumberOverflow p = true := by
    rw [sequenceNumberOverflow_iff]
    rw [sequenceNumberUnderflow_iff] at h
    omega
  unfold enterSequenceNumberOverflowCheck
  rw [if_neg hover, if_pos h]

theorem enterTimestampOverflowCheck_overflow (hf : jb.timestampOverFlowState = false)
    (htail : jb.tailSequenceNumber = p.seq) (h1 : p.ts < jb.headTimestamp)
    (h2 : p.ts < jb.tailTimestamp) :
    jb.enterTimestampOverflowCheck p =
      (true, { jb with timestampOverFlowState := true, tailTimestamp := p.ts }) := by
  unfold enterTimestampOverflowCheck
  rw [hf, if_neg Bool.false_ne_true, if_pos ⟨h1, h2⟩, tailSequenceNumberCheck_same jb p htail]
  rfl

/-- Without a wrap of the timestamp, and without a new head, nothing is entered. -/
theorem enterTimestampOverflowCheck_none
    (h : jb.timestampOverFlowState = true ∨ jb.headTimestamp ≤ p.ts ∨ jb.tailTimestamp ≤ p.ts)
    (hhead : jb.headSequenceNumberCheck p = (false, jb)) :
    jb.enterTimestampOverflowCheck p = (false, jb) := by
  unfold enterTimestampOverflowCheck
  rw [hhead]
  rcases h with h | h
  · rw [if_pos h]
  · rw [if_neg (show ¬ (jb.headTimestamp > p.ts ∧ jb.tailTimestamp > p.ts) by omega)]
    simp only [Bool.false_eq_true, if_false, ite_self]

/-- A packet that carries the tail sequence number updates a smaller tail timestamp. -/
theorem tailTimestampCheck_tail (htail : jb.tailSequenceNumber = p.seq)
    (hle : jb.tailTimestamp ≤ p.ts) (hhead : jb.timestampOverFlowState = true →
      p.ts < jb.headTimestamp) :
    (jb.tailTimestampCheck p).2 = { jb with tailTimestamp := p.ts } := by
  unfold tailTimestampCheck
  rw [tailSequenceNumberCheck_same jb p htail]
  rcases Nat.eq_or_lt_of_le hle with heq | hlt
  · rw [if_neg (by omega), ← heq]
  · rw [if_pos hlt, if_pos]
    · rfl
    · cases hf : jb.timestampOverFlowState with
      | false => exact Or.inl rfl
      | true => exact Or.inr (hhead hf)

/-! ### The tail checks together -/

theorem pushTailSequenceNumber_entered {jb' : JitterBuffer}
    (h : jb.enterSequenceNumberOverflowCheck p = (true, jb')) :
    jb.pushTailSequenceNumber p = jb' := by
  simp only [pushTailSequenceNumber, h, if_true]

theorem pushTailSequenceNumber_not {jb' : JitterBuffer}
    (h : jb.enterSequenceNumberOverflowCheck p = (false, jb')) :
    jb.pushTailSequenceNumber p = (jb'.tailSequenceNumberCheck p).2 := by
  simp only [pushTailSequenceNumber, h, Bool.false_eq_true, if_false]

theorem pushTailTimestamp_entered {jb' : JitterBuffer}
    (h : jb.enterTimestampOverflowCheck p = (true, jb')) : jb.pushTailTimestamp p = jb' := by
  simp only [pushTailTimestamp, h, if_true]

theorem pushTailTimestamp_not {jb' : JitterBuffer}
    (h : jb.enterTimestampOverflowCheck p = (false, jb')) :
    jb.pushTailTimestamp p = (jb'.tailTimestampCheck p).2 := by
  simp only [pushTailTimestamp, h, Bool.false_eq_true, if_false]

/-- A packet whose timestamp is the tail timestamp moves nothing. -/
theorem pushTailTimestamp_same (h : jb.tailTimestamp = p.ts) : jb.pushTailTimestamp p = jb := by
  have h1 : jb.enterTimestampOverflowCheck p = (false, jb) := by
    unfold enterTimestampOverflowCheck
    rw [if_neg (show ¬ (jb.headTimestamp > p.ts ∧ jb.tailTimestamp > p.ts) by omega),
      if_neg (show ¬ (jb.headTimestamp < p.ts ∧ jb.tailTimestamp < p.ts) by omega), ite_self]
  rw [pushTailTimestamp_not jb p h1, tailTimestampCheck, if_neg (by omega)]

/-- A packet that carries the tail sequence number and a timestamp below both ends wraps. -/
theorem pushTailTimestamp_wrap (htail : jb.tailSequenceNumber = p.seq)
    (hf : jb.timestampOverFlowState = false) (h1 : p.ts < jb.headTimestamp)
    (h2 : p.ts < jb.tailTimestamp) :
    jb.pushTailTimestamp p = { jb with timestampOverFlowState := true, tailTimestamp := p.ts } :=
  pushTailTimestamp_entered jb p (enterTimestampOverflowCheck_overflow jb p hf htail h1 h2)

/-- A packet that carries the tail sequence number and no smaller timestamp advances the tail. -/
theorem pushTailTimestamp_advance (htail : jb.tailSequenceNumber = p.seq)
    (hhead : jb.headSequenceNumberCheck p = (false, jb)) (hle : jb.tailTimestamp ≤ p.ts)
    (hlt : jb.timestampOverFlowState = true → p.ts < jb.headTimestamp) :
    jb.pushTailTimestamp p = { jb with tailTimestamp := p.ts } := by
  rw [pushTailTimestamp_not jb p (enterTimestampOverflowCheck_none jb p
    (Or.inr (Or.inr hle)) hhead), tailTimestampCheck_tail jb p htail hle hlt]

theorem withinLatencyTolerance_snd :
    (jb.withinLatencyTolerance p).2 = (jb.tailTimestampCheck p).2 := by
  unfold withinLatencyTolerance
  dsimp only
  split_ifs <;> rfl

/-- A packet with the tail timestamp is within the latency tolerance. -/
theorem withinLatencyTolerance_same (h : jb.tailTimestamp = p.ts) :
    jb.withinLatencyTolerance p = (true, jb) := by
  unfold withinLatencyTolerance tailTimestampCheck
  rw [if_neg (by omega)]
  simp only [h, or_true, if_true]

/-- A packet that is both ends of the window moves nothing. -/
theorem pushHead_same (h1 : jb.headSequenceNumber = p.seq) (h2 : jb.headTimestamp = p.ts)
    (h3 : jb.tailTimestamp = p.ts) : jb.pushHead p = jb := by
  have hts : jb.headTimestampCheck p = (false, jb) := by
    unfold headTimestampCheck
    rw [if_neg (show ¬ (jb.headTimestamp > p.ts ∧ jb.tailTimestamp < p.ts) by omega),
      if_neg (show ¬ (jb.headTimestamp > p.ts ∨ jb.tailTimestamp < p.ts) by omega), ite_self,
      ite_self]
  unfold pushHead
  rw [hts, headSequenceNumberCheck_same jb p h1, ite_self]

/-- A packet that moves neither end by its sequence number enters no timestamp overflow. -/
theorem enterTimestampOverflowCheck_neither (htail : jb.tailSequenceNumberCheck p = (false, jb))
    (hhead : jb.headSequenceNumberCheck p = (false, jb)) :
    jb.enterTimestampOverflowCheck p = (false, jb) := by
  unfold enterTimestampOverflowCheck
  rw [htail, hhead]
  simp only [Bool.false_eq_true, if_false, ite_self]

theorem tailTimestampCheck_not_tail (htail : jb.tailSequenceNumberCheck p = (false, jb)) :
    jb.tailTimestampCheck p = (false, jb) := by
  unfold tailTimestampCheck
  rw [htail]
  simp only [Bool.false_eq_true, if_false, ite_self]

/-- The head checks make a packet just before the head the new one. -/
theorem pushHead_head (h : jb.isNewHead p) : (jb.pushHead p).headSequenceNumber = p.seq := by
  have hnew := headSequenceNumberCheck_new jb p h
  have hlast : ∀ jb' : JitterBuffer, jb'.headSequenceNumber = p.seq ∨ jb' = jb →
      (jb'.headSequenceNumberCheck p).2.headSequenceNumber = p.seq := by
    rintro jb' (hsame | rfl)
    · rw [headSequenceNumberCheck_same jb' p hsame]
      exact hsame
    · rw [hnew]
  unfold pushHead
  rw [if_pos h.1]
  apply hlast
  -- the timestamp check either leaves the buffer or makes the packet the head
  unfold headTimestampCheck
  rw [if_pos h.1, hnew]
  split_ifs
  · exact Or.inl rfl
  · exact Or.inr rfl
  · exact Or.inl rfl
  · exact Or.inr rfl

/-! ### The first packet -/

/-- A buffer opened by its first packet, before the tail timestamp is set. -/
def opened (L c : Nat) (p : RtpPacket) (tailTimestamp : Nat) : JitterBuffer :=
  { JitterBuffer.empty L c with
    started := true
    headSequenceNumber := p.seq
    tailSequenceNumber := p.seq
    headTimestamp := p.ts
    tailTimestamp := tailTimestamp }

theorem pushTail_first (L c : Nat) (p : RtpPacket) :
    ((JitterBuffer.empty L c).pushStart p).pushTail p = opened L c p p.ts := by
  have hstart : (JitterBuffer.empty L c).pushStart p = opened L c p 0 := rfl
  have hseq : (opened L c p 0).pushTailSequenceNumber p = opened L c p 0 := by
    rw [pushTailSequenceNumber_not _ p (enterSequenceNumberOverflowCheck_none _ p ?_ ?_),
      tailSequenceNumberCheck_same _ p rfl]
    · rw [← Bool.not_eq_true, sequenceNumberOverflow_iff]
      rintro ⟨-, -, h, -⟩
      exact absurd h (Nat.lt_irrefl _)
    · rw [← Bool.not_eq_true, sequenceNumberUnderflow_iff]
      rintro ⟨-, -, -, -, h, -⟩
      simp only [opened] at h
      omega
  have hts : (opened L c p 0).enterTimestampOverflowCheck p = (false, opened L c p 0) := by
    unfold enterTimestampOverflowCheck
    simp only [opened, Nat.lt_irrefl, gt_iff_lt, false_and, if_false, ite_self]
  rw [pushTail, hstart, hseq, pushTailTimestamp_not _ p hts,
    tailTimestampCheck_tail _ p rfl (Nat.zero_le _) fun h => by cases h]
  rfl

theorem pushAccept_first (L c : Nat) (p : RtpPacket) :
    (JitterBuffer.empty L c).pushAccept p = (false, (opened L c p p.ts).pushStore p) := by
  unfold pushAccept
  rw [pushTail_first, withinLatencyTolerance_same _ p rfl]
  dsimp only
  rw [if_pos rfl, pushHead_same _ _ rfl rfl rfl]

end KvsWebrtc.JitterBuffer
