import KvsWebrtc.JitterBuffer.Equiv.Checks
import KvsWebrtc.JitterBuffer.Equiv.Drop

/-!
# The window invariant under the checks

`WindowInvariant jb` is what all decisions of the buffer assume: the stored sequence numbers lie
between head and tail, and each overflow flag says whether its ends are out of order.

Every check of `jitterBufferPush` keeps it, up to the packet being pushed, with two exceptions:
`enterSequenceNumberOverflowCheck` moves an end of the window, and the timestamp of that end,
whatever the other end and the timestamp flag are; and a packet outside the window is stored if its
timestamp is recent enough.  `AcceptOk` rules these out.
-/

namespace KvsWebrtc

open JitterBuffer

/-- Every stored sequence number lies in the circular interval from head to tail, and each flag is
set exactly when its ends are out of order. -/
structure WindowInvariant (jb : JitterBuffer) : Prop where
  stored : ∀ x, jb.pkgBufferHashTable x ≠ none →
    seqDist jb.headSequenceNumber x ≤ seqDist jb.headSequenceNumber jb.tailSequenceNumber
  seqFlag : jb.sequenceNumberOverflowState = true ↔ jb.headSequenceNumber > jb.tailSequenceNumber
  tsFlag : jb.timestampOverFlowState = true ↔ jb.headTimestamp > jb.tailTimestamp

/-- The window invariant for all stored packets but the one with sequence number `skip`. -/
structure Coherent (jb : JitterBuffer) (skip : Nat) : Prop where
  started : jb.started = true
  head_lt : jb.headSequenceNumber < 65536
  tail_lt : jb.tailSequenceNumber < 65536
  stored : ∀ x ≠ skip, jb.pkgBufferHashTable x ≠ none → x < 65536 ∧
    seqDist jb.headSequenceNumber x ≤ seqDist jb.headSequenceNumber jb.tailSequenceNumber
  seqFlag : jb.sequenceNumberOverflowState = true ↔ jb.headSequenceNumber > jb.tailSequenceNumber
  tsFlag : jb.timestampOverFlowState = true ↔ jb.headTimestamp > jb.tailTimestamp

/-- The sequence number lies between head and tail. -/
def JitterBuffer.inWindow (jb : JitterBuffer) (x : Nat) : Prop :=
  seqDist jb.headSequenceNumber x ≤ seqDist jb.headSequenceNumber jb.tailSequenceNumber

/-- The packet does not run into a gap of the checks: a packet detected as a wrap of the sequence
number leaves the window short of a full circle and fits the timestamp flag, and a packet that is
neither inside the window nor moves one of its ends is too old to be stored. -/
structure AcceptOk (jb : JitterBuffer) (p : RtpPacket) : Prop where
  overflow : jb.sequenceNumberOverflow p = true → p.seq < jb.headSequenceNumber ∧
    (jb.timestampOverFlowState = true ↔ jb.headTimestamp > p.ts)
  underflow : jb.sequenceNumberUnderflow p = true → jb.tailSequenceNumber < p.seq ∧
    (jb.timestampOverFlowState = true ↔ p.ts > jb.tailTimestamp)
  place : jb.inWindow p.seq ∨ jb.sequenceNumberOverflow p = true ∨
    jb.sequenceNumberUnderflow p = true ∨ jb.isNewTail p ∨ jb.isNewHead p ∨
    ¬ (jb.tailTimestamp = p.ts ∨ jb.withinLatency p = true)

/-- `jb'` is `jb` with a wider window. -/
structure Widens (jb jb' : JitterBuffer) : Prop where
  inWindow : ∀ x < 65536, jb.inWindow x → jb'.inWindow x
  table : jb'.pkgBufferHashTable = jb.pkgBufferHashTable

theorem Widens.refl (jb : JitterBuffer) : Widens jb jb := ⟨fun _ _ h => h, rfl⟩

theorem Widens.trans {jb₁ jb₂ jb₃ : JitterBuffer} (h : Widens jb₁ jb₂) (h' : Widens jb₂ jb₃) :
    Widens jb₁ jb₃ :=
  ⟨fun x hx hin => h'.inWindow x hx (h.inWindow x hx hin), h'.table.trans h.table⟩

namespace Coherent

variable {jb : JitterBuffer} {skip x : Nat} {p : RtpPacket}

/-- Moving the tail forward, short of the head, widens the window. -/
theorem inWindow_newTail (c : Coherent jb skip) (h : jb.isNewTail p) (hin : jb.inWindow x) :
    ({ jb with tailSequenceNumber := p.seq }).inWindow x := by
  have h1 := c.head_lt
  have h2 := c.tail_lt
  have h3 := p.seq_lt
  have h4 := c.seqFlag
  obtain ⟨h5, h6⟩ := h
  unfold inWindow seqDist at hin ⊢
  dsimp only
  by_cases hf : jb.sequenceNumberOverflowState = true
  · have := h6 hf
    have := h4.mp hf
    omega
  · have := mt h4.mpr hf
    omega

/-- Moving the head backward, short of the tail, widens the window. -/
theorem inWindow_newHead (c : Coherent jb skip) (h : jb.isNewHead p) (hx : x < 65536)
    (hin : jb.inWindow x) : ({ jb with headSequenceNumber := p.seq }).inWindow x := by
  have h1 := c.head_lt
  have h2 := c.tail_lt
  have h3 := p.seq_lt
  have h4 := c.seqFlag
  obtain ⟨-, h5, h6, h7⟩ := h
  unfold inWindow seqDist at hin ⊢
  dsimp only
  by_cases hf : jb.sequenceNumberOverflowState = true
  · have := h7 hf
    have := h4.mp hf
    omega
  · have := mt h4.mpr hf
    omega

theorem newTail (c : Coherent jb skip) (h : jb.isNewTail p) :
    Coherent { jb with tailSequenceNumber := p.seq } skip :=
  { started := c.started
    head_lt := c.head_lt
    tail_lt := p.seq_lt
    stored := fun x hx hne => by
      obtain ⟨hlt, hin⟩ := c.stored x hx hne
      exact ⟨hlt, c.inWindow_newTail h hin⟩
    seqFlag := by
      have h4 := c.seqFlag
      obtain ⟨h5, h6⟩ := h
      dsimp only
      constructor
      · exact fun hf => h6 hf
      · intro hgt
        exact h4.mpr (by omega)
    tsFlag := c.tsFlag }

theorem newHead (c : Coherent jb skip) (h : jb.isNewHead p) :
    Coherent { jb with headSequenceNumber := p.seq } skip :=
  { started := c.started
    head_lt := p.seq_lt
    tail_lt := c.tail_lt
    stored := fun x hx hne => by
      obtain ⟨hlt, hin⟩ := c.stored x hx hne
      exact ⟨hlt, c.inWindow_newHead h hlt hin⟩
    seqFlag := by
      have h4 := c.seqFlag
      obtain ⟨-, h5, -, h7⟩ := h
      dsimp only
      constructor
      · exact fun hf => h7 hf
      · intro hgt
        exact h4.mpr (by omega)
    tsFlag := c.tsFlag }

/-! ### The checks -/

theorem tailSequenceNumberCheck (c : Coherent jb skip) (p : RtpPacket) :
    ∃ b t, jb.tailSequenceNumberCheck p = (b, { jb with tailSequenceNumber := t }) ∧
      Coherent { jb with tailSequenceNumber := t } skip ∧
      Widens jb { jb with tailSequenceNumber := t } ∧ (b = true → t = p.seq) := by
  by_cases hsame : jb.tailSequenceNumber = p.seq
  · exact ⟨_, _, tailSequenceNumberCheck_same jb p hsame, c, .refl jb, fun _ => hsame⟩
  · by_cases hnew : jb.isNewTail p
    · exact ⟨_, _, tailSequenceNumberCheck_new jb p hnew, c.newTail hnew,
        ⟨fun x _ hin => c.inWindow_newTail hnew hin, rfl⟩, fun _ => rfl⟩
    · exact ⟨_, _, tailSequenceNumberCheck_none jb p hsame hnew, c, .refl jb,
        fun h => Bool.noConfusion h⟩

theorem headSequenceNumberCheck (c : Coherent jb skip) (p : RtpPacket) :
    ∃ b h, jb.headSequenceNumberCheck p = (b, { jb with headSequenceNumber := h }) ∧
      Coherent { jb with headSequenceNumber := h } skip ∧
      Widens jb { jb with headSequenceNumber := h } ∧ (b = true → h = p.seq) := by
  by_cases hsame : jb.headSequenceNumber = p.seq
  · exact ⟨_, _, headSequenceNumberCheck_same jb p hsame, c, .refl jb, fun _ => hsame⟩
  · by_cases hnew : jb.isNewHead p
    · exact ⟨_, _, headSequenceNumberCheck_new jb p hnew, c.newHead hnew,
        ⟨fun x hx hin => c.inWindow_newHead hnew hx hin, rfl⟩, fun _ => rfl⟩
    · exact ⟨_, _, headSequenceNumberCheck_none jb p hsame hnew, c, .refl jb,
        fun h => Bool.noConfusion h⟩

/-- Giving the buffer a new tail timestamp, with a flag that fits. -/
theorem setTailTs (c : Coherent jb skip) {ts : Nat} {flag : Bool}
    (h : flag = true ↔ jb.headTimestamp > ts) :
    Coherent { jb with timestampOverFlowState := flag, tailTimestamp := ts } skip :=
  { c with tsFlag := h }

/-- Giving the buffer a new head timestamp, with a flag that fits. -/
theorem setHeadTs (c : Coherent jb skip) {ts : Nat} {flag : Bool}
    (h : flag = true ↔ ts > jb.tailTimestamp) :
    Coherent { jb with timestampOverFlowState := flag, headTimestamp := ts } skip :=
  { c with tsFlag := h }

theorem enterTimestampOverflowCheck (c : Coherent jb skip) (p : RtpPacket) :
    Coherent (jb.enterTimestampOverflowCheck p).2 skip ∧
      Widens jb (jb.enterTimestampOverflowCheck p).2 := by
  obtain ⟨b, t, ht, ct, wt, -⟩ := c.tailSequenceNumberCheck p
  obtain ⟨b', h, hh, ch, wh, -⟩ := c.headSequenceNumberCheck p
  unfold JitterBuffer.enterTimestampOverflowCheck
  rw [ht, hh]
  dsimp only
  split_ifs with hf hdown hb hup hb'
  · exact ⟨c, .refl jb⟩
  · exact ⟨ct.setTailTs (by simpa using hdown.1), wt.trans ⟨fun _ _ hin => hin, rfl⟩⟩
  · exact ⟨ct, wt⟩
  · exact ⟨ch.setHeadTs (by simpa using hup.2), wh.trans ⟨fun _ _ hin => hin, rfl⟩⟩
  · exact ⟨ch, wh⟩
  · exact ⟨c, .refl jb⟩

theorem tailTimestampCheck (c : Coherent jb skip) (p : RtpPacket) :
    Coherent (jb.tailTimestampCheck p).2 skip ∧ Widens jb (jb.tailTimestampCheck p).2 := by
  obtain ⟨b, t, ht, ct, wt, -⟩ := c.tailSequenceNumberCheck p
  have hflag := c.tsFlag
  unfold JitterBuffer.tailTimestampCheck
  rw [ht]
  dsimp only
  split_ifs with hlt hhead hb
  · refine ⟨ct.setTailTs ?_, wt.trans ⟨fun _ _ hin => hin, rfl⟩⟩
    -- the flag keeps its value: the head timestamp is on the same side of both
    dsimp only
    constructor
    · intro hf
      exact hhead.resolve_left (by rw [hf]; exact Bool.noConfusion)
    · intro hgt
      exact hflag.mpr (by omega)
  · exact ⟨ct, wt⟩
  · exact ⟨c, .refl jb⟩
  · exact ⟨c, .refl jb⟩

theorem pushTailTimestamp (c : Coherent jb skip) (p : RtpPacket) :
    Coherent (jb.pushTailTimestamp p) skip ∧ Widens jb (jb.pushTailTimestamp p) := by
  obtain ⟨ce, we⟩ := c.enterTimestampOverflowCheck p
  obtain ⟨ct, wt⟩ := ce.tailTimestampCheck p
  unfold JitterBuffer.pushTailTimestamp
  generalize hr : jb.enterTimestampOverflowCheck p = r at *
  dsimp only
  split_ifs
  · exact ⟨ce, we⟩
  · exact ⟨ct, we.trans wt⟩

/-- After the tail checks, a packet with a later timestamp than an unwrapped tail is not the head:
`enterTimestampOverflowCheck` would have set the flag. -/
theorem not_head_of_pushTailTimestamp (c : Coherent jb skip) (p : RtpPacket)
    (hf : (jb.pushTailTimestamp p).timestampOverFlowState = false)
    (hlt : (jb.pushTailTimestamp p).tailTimestamp < p.ts) :
    ((jb.pushTailTimestamp p).headSequenceNumberCheck p).1 = false := by
  obtain ⟨b, t, ht, -, -, -⟩ := c.tailSequenceNumberCheck p
  have hflag := c.tsFlag
  by_cases htso : jb.timestampOverFlowState = true
  · -- the flag is not cleared by the tail checks
    exfalso
    have henter : jb.enterTimestampOverflowCheck p = (false, jb) := by
      unfold JitterBuffer.enterTimestampOverflowCheck
      rw [if_pos htso]
    rw [pushTailTimestamp_not jb p henter] at hf
    unfold JitterBuffer.tailTimestampCheck at hf
    rw [ht] at hf
    dsimp only at hf
    split_ifs at hf <;> (rw [htso] at hf; cases hf)
  · have hle : jb.headTimestamp ≤ jb.tailTimestamp := Nat.le_of_not_lt (mt hflag.mpr htso)
    rw [Bool.not_eq_true] at htso
    rcases Nat.lt_or_ge jb.tailTimestamp p.ts with hup | hdown
    · cases hb : (jb.headSequenceNumberCheck p).1 with
      | true =>
        exfalso
        obtain ⟨b', h, hh, -, -, -⟩ := c.headSequenceNumberCheck p
        rw [hh] at hb
        have henter : jb.enterTimestampOverflowCheck p =
            (true, { jb with
              headSequenceNumber := h
              timestampOverFlowState := true
              headTimestamp := p.ts }) := by
          unfold JitterBuffer.enterTimestampOverflowCheck
          rw [htso, if_neg Bool.false_ne_true, if_neg (by omega), if_pos ⟨by omega, hup⟩, hh]
          exact if_pos hb
        rw [pushTailTimestamp_entered jb p henter] at hf
        cases hf
      | false =>
        have hnone := headSequenceNumberCheck_of_false jb p hb
        have henter : jb.enterTimestampOverflowCheck p = (false, jb) :=
          enterTimestampOverflowCheck_none jb p (Or.inr (Or.inr (Nat.le_of_lt hup))) hnone
        rw [pushTailTimestamp_not jb p henter] at hlt ⊢
        unfold JitterBuffer.tailTimestampCheck at hlt ⊢
        rw [if_pos hup, if_pos (Or.inl htso), ht] at hlt ⊢
        dsimp only at hlt ⊢
        split_ifs at hlt ⊢ with hbt
        · exact absurd hlt (Nat.lt_irrefl _)
        · rw [Bool.not_eq_true] at hbt
          have hsame := tailSequenceNumberCheck_of_false jb p (by rw [ht]; exact hbt)
          rw [ht] at hsame
          rw [(Prod.mk.inj hsame).2]
          exact hb
    · exfalso
      have hnot : (jb.tailTimestampCheck p).2 = jb := by
        unfold JitterBuffer.tailTimestampCheck
        rw [if_neg (by omega)]
      by_cases hwrap : (jb.headTimestamp > p.ts ∧ jb.tailTimestamp > p.ts) ∧ b = true
      · have henter : jb.enterTimestampOverflowCheck p =
            (true, { jb with
              tailSequenceNumber := t
              timestampOverFlowState := true
              tailTimestamp := p.ts }) := by
          unfold JitterBuffer.enterTimestampOverflowCheck
          rw [htso, if_neg Bool.false_ne_true, if_pos hwrap.1, ht]
          exact if_pos hwrap.2
        rw [pushTailTimestamp_entered jb p henter] at hf
        cases hf
      · have henter : jb.enterTimestampOverflowCheck p = (false, jb) := by
          unfold JitterBuffer.enterTimestampOverflowCheck
          rw [htso, if_neg Bool.false_ne_true]
          split_ifs with ha hup
          · have hb : (jb.tailSequenceNumberCheck p).1 = false := by
              rw [ht, ← Bool.not_eq_true]
              exact fun hb => hwrap ⟨ha, hb⟩
            rw [tailSequenceNumberCheck_of_false jb p hb]
            rfl
          · omega
          · rfl
        rw [pushTailTimestamp_not jb p henter, hnot] at hlt
        omega

/-- The same after `withinLatencyTolerance` has run the tail timestamp check once more. -/
theorem not_head_of_tailTimestampCheck (c : Coherent jb skip) (p : RtpPacket)
    (h : jb.timestampOverFlowState = false → jb.tailTimestamp < p.ts →
      (jb.headSequenceNumberCheck p).1 = false)
    (hf : (jb.tailTimestampCheck p).2.timestampOverFlowState = false)
    (hlt : (jb.tailTimestampCheck p).2.tailTimestamp < p.ts) :
    ((jb.tailTimestampCheck p).2.headSequenceNumberCheck p).1 = false := by
  obtain ⟨b, t, ht, -, -, -⟩ := c.tailSequenceNumberCheck p
  unfold JitterBuffer.tailTimestampCheck at hf hlt ⊢
  rw [ht] at hf hlt ⊢
  dsimp only at hf hlt ⊢
  split_ifs at hf hlt ⊢ with h1 h2 hb
  · exact absurd hlt (Nat.lt_irrefl _)
  · rw [Bool.not_eq_true] at hb
    have hsame := tailSequenceNumberCheck_of_false jb p (by rw [ht]; exact hb)
    rw [ht] at hsame
    rw [(Prod.mk.inj hsame).2]
    exact h hf h1
  · exact h hf hlt
  · exact h hf hlt

theorem headTimestampCheck (c : Coherent jb skip) (p : RtpPacket)
    (h : jb.timestampOverFlowState = false → jb.tailTimestamp < p.ts →
      (jb.headSequenceNumberCheck p).1 = false) :
    Coherent (jb.headTimestampCheck p).2 skip ∧ Widens jb (jb.headTimestampCheck p).2 := by
  obtain ⟨b, h', hh, ch, wh, -⟩ := c.headSequenceNumberCheck p
  rw [hh] at h
  unfold JitterBuffer.headTimestampCheck
  rw [hh]
  dsimp only at h ⊢
  split_ifs with hallowed htso hin hb hout hb'
  · refine ⟨ch.setHeadTs ?_, wh.trans ⟨fun _ _ hin => hin, rfl⟩⟩
    simp only [htso, true_iff]
    exact hin.2
  · exact ⟨ch, wh⟩
  · exact ⟨c, .refl jb⟩
  · refine ⟨ch.setHeadTs ?_, wh.trans ⟨fun _ _ hin => hin, rfl⟩⟩
    rw [Bool.not_eq_true] at htso
    simp only [htso, Bool.false_eq_true, false_iff]
    intro hgt
    rw [h htso hgt] at hb'
    cases hb'
  · exact ⟨ch, wh⟩
  · exact ⟨c, .refl jb⟩
  · exact ⟨c, .refl jb⟩

theorem pushHead (c : Coherent jb skip) (p : RtpPacket)
    (h : jb.timestampOverFlowState = false → jb.tailTimestamp < p.ts →
      (jb.headSequenceNumberCheck p).1 = false) :
    Coherent (jb.pushHead p) skip ∧ Widens jb (jb.pushHead p) := by
  obtain ⟨ct, wt⟩ := c.headTimestampCheck p h
  obtain ⟨b, h', hh, ch, wh, -⟩ := ct.headSequenceNumberCheck p
  unfold JitterBuffer.pushHead
  rw [hh]
  split_ifs
  · exact ⟨ch, wt.trans wh⟩
  · exact ⟨c, .refl jb⟩

/-! ### Storing the packet -/

theorem store (c : Coherent jb p.seq) : Coherent (jb.pushStore p) p.seq := by
  have htable := jb.pushStore_table p
  rw [pushStore_frame] at htable ⊢
  exact
    { c with
      stored := fun x hx hne => by
        rw [htable, Function.update_of_ne hx] at hne
        exact c.stored x hx hne }

/-- The skipped packet lies in the window as well. -/
theorem unskip (c : Coherent jb x) (hx : x < 65536) (hin : jb.inWindow x) : Coherent jb skip :=
  { c with
    stored := fun y _ hne => by
      by_cases hy : y = x
      · exact hy ▸ ⟨hx, hin⟩
      · exact c.stored y hy hne }

theorem windowInvariant (c : ∀ skip, Coherent jb skip) : WindowInvariant jb :=
  ⟨fun x hne => ((c (x + 1)).stored x (by omega) hne).2, (c 0).seqFlag, (c 0).tsFlag⟩

/-! ### The tail checks together -/

/-- An overflow that stays short of the head widens the window. -/
theorem overflow (c : Coherent jb skip) (h : jb.sequenceNumberOverflow p = true)
    (ha : p.seq < jb.headSequenceNumber ∧
      (jb.timestampOverFlowState = true ↔ jb.headTimestamp > p.ts)) :
    Coherent { jb with
        sequenceNumberOverflowState := true
        tailSequenceNumber := p.seq
        tailTimestamp := p.ts } skip ∧
      Widens jb { jb with
        sequenceNumberOverflowState := true
        tailSequenceNumber := p.seq
        tailTimestamp := p.ts } := by
  rw [sequenceNumberOverflow_iff] at h
  have h1 := c.head_lt
  have h2 := c.tail_lt
  have h4 : ¬ jb.headSequenceNumber > jb.tailSequenceNumber :=
    mt c.seqFlag.mpr (by rw [h.1]; exact Bool.false_ne_true)
  have hwiden : ∀ x < 65536, jb.inWindow x → seqDist jb.headSequenceNumber x ≤
      seqDist jb.headSequenceNumber p.seq := by
    intro x hx hin
    unfold inWindow seqDist at hin
    unfold seqDist
    omega
  refine ⟨?_, ⟨hwiden, rfl⟩⟩
  exact
    { started := c.started
      head_lt := h1
      tail_lt := p.seq_lt
      stored := fun x hx hne => by
        obtain ⟨hlt, hin⟩ := c.stored x hx hne
        exact ⟨hlt, hwiden x hlt hin⟩
      seqFlag := ⟨fun _ => ha.1, fun _ => rfl⟩
      tsFlag := ha.2 }

/-- An underflow that stays short of the tail widens the window. -/
theorem underflow (c : Coherent jb skip) (h : jb.sequenceNumberUnderflow p = true)
    (ha : jb.tailSequenceNumber < p.seq ∧
      (jb.timestampOverFlowState = true ↔ p.ts > jb.tailTimestamp)) :
    Coherent { jb with
        sequenceNumberOverflowState := true
        headSequenceNumber := p.seq
        headTimestamp := p.ts } skip ∧
      Widens jb { jb with
        sequenceNumberOverflowState := true
        headSequenceNumber := p.seq
        headTimestamp := p.ts } := by
  rw [sequenceNumberUnderflow_iff] at h
  have h1 := c.head_lt
  have h2 := c.tail_lt
  have h3 := p.seq_lt
  have h4 : ¬ jb.headSequenceNumber > jb.tailSequenceNumber :=
    mt c.seqFlag.mpr (by rw [h.1]; exact Bool.false_ne_true)
  have hwiden : ∀ x < 65536, jb.inWindow x → seqDist p.seq x ≤
      seqDist p.seq jb.tailSequenceNumber := by
    intro x hx hin
    unfold inWindow seqDist at hin
    unfold seqDist
    omega
  refine ⟨?_, ⟨hwiden, rfl⟩⟩
  exact
    { started := c.started
      head_lt := h3
      tail_lt := h2
      stored := fun x hx hne => by
        obtain ⟨hlt, hin⟩ := c.stored x hx hne
        exact ⟨hlt, hwiden x hlt hin⟩
      seqFlag := ⟨fun _ => ha.1, fun _ => rfl⟩
      tsFlag := ha.2 }

theorem inWindow_tail (h : jb.tailSequenceNumber = x) : jb.inWindow x := by
  rw [← h]
  exact Nat.le_refl _

theorem inWindow_head (h : jb.headSequenceNumber = x) : jb.inWindow x := by
  unfold inWindow seqDist
  omega

/-- After the sequence number part of the tail checks, a packet that wraps or extends the window
lies in it. -/
theorem pushTailSequenceNumber (c : Coherent jb skip) (ha : AcceptOk jb p) :
    Coherent (jb.pushTailSequenceNumber p) skip ∧ Widens jb (jb.pushTailSequenceNumber p) ∧
      (jb.sequenceNumberOverflow p = true ∨ jb.sequenceNumberUnderflow p = true ∨
        jb.isNewTail p → (jb.pushTailSequenceNumber p).inWindow p.seq) := by
  by_cases hover : jb.sequenceNumberOverflow p = true
  · obtain ⟨c', w⟩ := c.overflow hover (ha.overflow hover)
    rw [pushTailSequenceNumber_entered jb p (enterSequenceNumberOverflowCheck_overflow jb p hover)]
    exact ⟨c', w, fun _ => inWindow_tail rfl⟩
  · by_cases hunder : jb.sequenceNumberUnderflow p = true
    · obtain ⟨c', w⟩ := c.underflow hunder (ha.underflow hunder)
      rw [pushTailSequenceNumber_entered jb p
        (enterSequenceNumberOverflowCheck_underflow jb p hunder)]
      exact ⟨c', w, fun _ => inWindow_head rfl⟩
    · obtain ⟨b, t, ht, ct, wt, -⟩ := c.tailSequenceNumberCheck p
      rw [Bool.not_eq_true] at hover hunder
      rw [pushTailSequenceNumber_not jb p
        (enterSequenceNumberOverflowCheck_none jb p hover hunder), ht]
      refine ⟨ct, wt, ?_⟩
      rintro (h | h | h)
      · rw [hover] at h; cases h
      · rw [hunder] at h; cases h
      · rw [tailSequenceNumberCheck_new jb p h] at ht
        rw [← (Prod.mk.inj ht).2]
        exact inWindow_tail rfl

theorem pushTail (c : Coherent jb skip) (ha : AcceptOk jb p) :
    Coherent (jb.pushTail p) skip ∧ Widens jb (jb.pushTail p) := by
  obtain ⟨cs, ws, -⟩ := c.pushTailSequenceNumber ha
  obtain ⟨ct, wt⟩ := cs.pushTailTimestamp p
  exact ⟨ct, ws.trans wt⟩

/-- A packet outside the window that is neither a new tail nor detected as a wrap moves nothing
before it is stored, unless `enterTimestampOverflowCheck` makes it the head. -/
theorem pushTail_outside (hout : ¬ jb.inWindow p.seq)
    (hover : jb.sequenceNumberOverflow p = false) (hunder : jb.sequenceNumberUnderflow p = false)
    (htail : ¬ jb.isNewTail p) :
    jb.pushTail p = jb ∨ jb.isNewHead p ∧ (jb.pushTail p).headSequenceNumber = p.seq := by
  have ht : jb.tailSequenceNumberCheck p = (false, jb) :=
    tailSequenceNumberCheck_none jb p (fun h => hout (inWindow_tail h)) htail
  have hseq : jb.pushTailSequenceNumber p = jb := by
    rw [pushTailSequenceNumber_not jb p (enterSequenceNumberOverflowCheck_none jb p hover hunder),
      ht]
  -- neither the sequence number nor the tail timestamp moves
  have hts := tailTimestampCheck_not_tail jb p ht
  rw [JitterBuffer.pushTail, hseq]
  by_cases hnew : jb.isNewHead p
  · by_cases hup : jb.timestampOverFlowState = false ∧ jb.headTimestamp < p.ts ∧
        jb.tailTimestamp < p.ts
    · right
      have henter : jb.enterTimestampOverflowCheck p =
          (true, { jb with
            headSequenceNumber := p.seq
            timestampOverFlowState := true
            headTimestamp := p.ts }) := by
        unfold JitterBuffer.enterTimestampOverflowCheck
        rw [hup.1, if_neg Bool.false_ne_true, if_neg (by omega), if_pos hup.2,
          headSequenceNumberCheck_new jb p hnew]
        rfl
      rw [pushTailTimestamp_entered jb p henter]
      exact ⟨hnew, rfl⟩
    · left
      have henter : jb.enterTimestampOverflowCheck p = (false, jb) := by
        unfold JitterBuffer.enterTimestampOverflowCheck
        rw [ht]
        split_ifs with hf h1 h2
        · rfl
        · rfl
        · exact absurd ⟨Bool.not_eq_true _ ▸ hf, h2⟩ hup
        · rfl
      rw [pushTailTimestamp_not jb p henter, hts]
  · left
    have hh : jb.headSequenceNumberCheck p = (false, jb) :=
      headSequenceNumberCheck_none jb p (fun h => hout (inWindow_head h)) hnew
    rw [pushTailTimestamp_not jb p (enterTimestampOverflowCheck_neither jb p ht hh), hts]

theorem inWindow_pushStore (h : jb.inWindow x) : (jb.pushStore p).inWindow x := by
  rw [pushStore_frame]
  exact h

/-- What `jitterBufferPush` has stored, it finds in its window. -/
theorem inWindow_of_stored (c : ∀ skip, Coherent jb skip) (ha : AcceptOk jb p)
    (hwithin : ((jb.pushTail p).withinLatencyTolerance p).1 = true)
    (hw : Widens jb (((jb.pushTail p).tailTimestampCheck p).2))
    (hh : Widens ((((jb.pushTail p).tailTimestampCheck p).2).pushStore p)
      (((((jb.pushTail p).tailTimestampCheck p).2).pushStore p).pushHead p)) :
    (((((jb.pushTail p).tailTimestampCheck p).2).pushStore p).pushHead p).inWindow p.seq := by
  have hx := p.seq_lt
  by_cases hin : (((jb.pushTail p).tailTimestampCheck p).2).inWindow p.seq
  · exact hh.inWindow _ hx (inWindow_pushStore hin)
  · have hout : ¬ jb.inWindow p.seq := fun h => hin (hw.inWindow _ hx h)
    have hts := ((c 0).pushTail ha).1.tailTimestampCheck p
    have hseq := ((c 0).pushTailSequenceNumber ha)
    have hwt := (hseq.1.pushTailTimestamp p).2
    -- neither a wrap nor a new tail: these would have put the packet in the window
    have hnone : ¬ (jb.sequenceNumberOverflow p = true ∨ jb.sequenceNumberUnderflow p = true ∨
        jb.isNewTail p) := fun h =>
      hin (hts.2.inWindow _ hx (hwt.inWindow _ hx (hseq.2.2 h)))
    rw [not_or, not_or, Bool.not_eq_true, Bool.not_eq_true] at hnone
    obtain ⟨hover, hunder, htail⟩ := hnone
    have htailCheck : jb.tailSequenceNumberCheck p = (false, jb) :=
      tailSequenceNumberCheck_none jb p (fun h => hout (inWindow_tail h)) htail
    rcases pushTail_outside hout hover hunder htail with heq | ⟨-, hhead⟩
    · rw [heq, tailTimestampCheck_not_tail jb p htailCheck] at hin ⊢
      rw [heq] at hwithin
      rcases ha.place with h | h | h | h | h | h
      · exact absurd h hout
      · rw [hover] at h; cases h
      · rw [hunder] at h; cases h
      · exact absurd h htail
      · apply inWindow_head
        apply pushHead_head
        rw [pushStore_frame]
        exact h
      · -- too old: it was not stored
        exfalso
        unfold withinLatencyTolerance at hwithin
        rw [tailTimestampCheck_not_tail jb p htailCheck] at hwithin
        simp only [Bool.false_eq_true, false_or] at hwithin
        split_ifs at hwithin with h'
        · exact h (Or.inl h')
        · exact h (Or.inr hwithin)
    · exact absurd (hts.2.inWindow _ hx (inWindow_head hhead)) hin

/-- **The invariant before the parse.** -/
theorem pushAccept (c : ∀ skip, Coherent jb skip) (ha : AcceptOk jb p) :
    ∀ skip, Coherent (jb.pushAccept p).2 skip := by
  have hstart : jb.pushStart p = jb := by rw [pushStart, if_pos (c 0).started]
  have ct := fun skip => (c skip).pushTail ha
  have cts := fun skip => (ct skip).1.tailTimestampCheck p
  unfold JitterBuffer.pushAccept
  rw [hstart]
  have hsnd := withinLatencyTolerance_snd (jb.pushTail p) p
  cases hw : (jb.pushTail p).withinLatencyTolerance p with
  | mk within jb' =>
    rw [hw] at hsnd
    obtain rfl : jb' = ((jb.pushTail p).tailTimestampCheck p).2 := hsnd
    dsimp only
    split_ifs with hwithin
    · have hno := not_head_of_tailTimestampCheck (ct 0).1 p
        (not_head_of_pushTailTimestamp ((c 0).pushTailSequenceNumber ha).1 p)
      have hstore := (cts p.seq).1.store
      have hno' : ((((jb.pushTail p).tailTimestampCheck p).2).pushStore p).timestampOverFlowState
            = false →
          ((((jb.pushTail p).tailTimestampCheck p).2).pushStore p).tailTimestamp < p.ts →
          (((((jb.pushTail p).tailTimestampCheck p).2).pushStore p).headSequenceNumberCheck p).1
            = false := by
        rw [pushStore_frame, ← Bool.not_eq_true, ← Bool.not_eq_true, headSequenceNumberCheck_fst]
        intro h1 h2
        have h3 := hno (by rwa [← Bool.not_eq_true]) h2
        rw [← Bool.not_eq_true, headSequenceNumberCheck_fst] at h3
        exact h3
      obtain ⟨ch, wh⟩ := hstore.pushHead p hno'
      intro skip
      refine ch.unskip p.seq_lt ?_
      exact inWindow_of_stored c ha (by rw [hw]; exact hwithin) ((ct 0).2.trans (cts 0).2) wh
    · intro skip
      exact { (cts skip).1 with }

end Coherent

end KvsWebrtc
