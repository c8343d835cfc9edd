import KvsWebrtc.JitterBuffer.Equiv.Drop

/-!
# What accepting a packet may change

The checks of `jitterBufferPush` may move an end of the window to the packet's sequence number and
timestamp and set a flag; they never touch the packet table (`Touches`).  So after `pushAccept` the
table is the old one, or the old one with the packet in it.
-/

namespace KvsWebrtc.JitterBuffer

/-- `jb'` differs from `jb` at most in its ends, which may have moved to the packet, and its
flags. -/
structure Touches (p : RtpPacket) (jb jb' : JitterBuffer) : Prop where
  head : jb'.headSequenceNumber = jb.headSequenceNumber ∨ jb'.headSequenceNumber = p.seq
  tail : jb'.tailSequenceNumber = jb.tailSequenceNumber ∨ jb'.tailSequenceNumber = p.seq
  maxLatency : jb'.maxLatency = jb.maxLatency
  table : jb'.pkgBufferHashTable = jb.pkgBufferHashTable
  trace : jb'.trace = jb.trace

variable {jb jb₁ jb₂ : JitterBuffer} {p : RtpPacket}

theorem Touches.refl (jb : JitterBuffer) (p : RtpPacket) : Touches p jb jb :=
  ⟨.inl rfl, .inl rfl, rfl, rfl, rfl⟩

theorem Touches.trans (h : Touches p jb jb₁) (h' : Touches p jb₁ jb₂) : Touches p jb jb₂ :=
  { head := by
      rcases h'.head with h1 | h1
      · rw [h1]
        exact h.head
      · exact .inr h1
    tail := by
      rcases h'.tail with h1 | h1
      · rw [h1]
        exact h.tail
      · exact .inr h1
    maxLatency := h'.maxLatency.trans h.maxLatency
    table := h'.table.trans h.table
    trace := h'.trace.trans h.trace }

theorem Touches.setTimestamps (h : Touches p jb jb₁) (headTs tailTs : Nat) (flag : Bool) :
    Touches p jb { jb₁ with
      headTimestamp := headTs
      tailTimestamp := tailTs
      timestampOverFlowState := flag } :=
  { h with }

section Checks

variable (jb : JitterBuffer) (p : RtpPacket)

theorem touches_pushStart : Touches p jb (jb.pushStart p) := by
  unfold pushStart
  split_ifs
  · exact .refl jb p
  · exact ⟨.inr rfl, .inr rfl, rfl, rfl, rfl⟩

theorem touches_headSequenceNumberCheck : Touches p jb (jb.headSequenceNumberCheck p).2 := by
  unfold headSequenceNumberCheck
  dsimp only
  split_ifs
  all_goals first
    | exact .refl jb p
    | exact ⟨.inr rfl, .inl rfl, rfl, rfl, rfl⟩

theorem touches_tailSequenceNumberCheck : Touches p jb (jb.tailSequenceNumberCheck p).2 := by
  unfold tailSequenceNumberCheck
  split_ifs
  · exact .refl jb p
  · exact ⟨.inl rfl, .inr rfl, rfl, rfl, rfl⟩
  · exact .refl jb p

theorem touches_enterSequenceNumberOverflowCheck :
    Touches p jb (jb.enterSequenceNumberOverflowCheck p).2 := by
  unfold enterSequenceNumberOverflowCheck
  split_ifs
  · exact ⟨.inl rfl, .inr rfl, rfl, rfl, rfl⟩
  · exact ⟨.inr rfl, .inl rfl, rfl, rfl, rfl⟩
  · exact .refl jb p

theorem touches_enterTimestampOverflowCheck :
    Touches p jb (jb.enterTimestampOverflowCheck p).2 := by
  have htail := touches_tailSequenceNumberCheck jb p
  have hhead := touches_headSequenceNumberCheck jb p
  unfold enterTimestampOverflowCheck
  generalize jb.tailSequenceNumberCheck p = t at htail
  generalize jb.headSequenceNumberCheck p = h at hhead
  obtain ⟨isTail, jbTail⟩ := t
  obtain ⟨isHead, jbHead⟩ := h
  dsimp only at htail hhead ⊢
  split_ifs
  · exact .refl jb p
  · exact htail.setTimestamps _ _ _
  · exact htail
  · exact hhead.setTimestamps _ _ _
  · exact hhead
  · exact .refl jb p

theorem touches_tailTimestampCheck : Touches p jb (jb.tailTimestampCheck p).2 := by
  have htail := touches_tailSequenceNumberCheck jb p
  unfold tailTimestampCheck
  generalize jb.tailSequenceNumberCheck p = t at htail
  obtain ⟨isTail, jbTail⟩ := t
  dsimp only at htail ⊢
  split_ifs
  · exact htail.setTimestamps _ _ _
  · exact htail
  · exact .refl jb p
  · exact .refl jb p

theorem touches_headTimestampCheck : Touches p jb (jb.headTimestampCheck p).2 := by
  have hhead := touches_headSequenceNumberCheck jb p
  unfold headTimestampCheck
  generalize jb.headSequenceNumberCheck p = h at hhead
  obtain ⟨isHead, jbHead⟩ := h
  dsimp only at hhead ⊢
  split_ifs
  all_goals first
    | exact .refl jb p
    | exact hhead
    | exact hhead.setTimestamps _ _ _

theorem touches_pushTail : Touches p jb (jb.pushTail p) := by
  have hseq : Touches p jb (jb.pushTailSequenceNumber p) := by
    have henter := touches_enterSequenceNumberOverflowCheck jb p
    unfold pushTailSequenceNumber
    generalize jb.enterSequenceNumberOverflowCheck p = t at henter
    obtain ⟨entered, jb₁⟩ := t
    dsimp only at henter ⊢
    split_ifs
    · exact henter
    · exact henter.trans (touches_tailSequenceNumberCheck jb₁ p)
  have hts : ∀ jb₁ : JitterBuffer, Touches p jb₁ (jb₁.pushTailTimestamp p) := by
    intro jb₁
    have henter := touches_enterTimestampOverflowCheck jb₁ p
    unfold pushTailTimestamp
    generalize jb₁.enterTimestampOverflowCheck p = t at henter
    obtain ⟨entered, jb₂⟩ := t
    dsimp only at henter ⊢
    split_ifs
    · exact henter
    · exact henter.trans (touches_tailTimestampCheck jb₂ p)
  exact hseq.trans (hts _)

theorem touches_withinLatencyTolerance : Touches p jb (jb.withinLatencyTolerance p).2 := by
  have htail := touches_tailTimestampCheck jb p
  unfold withinLatencyTolerance
  generalize jb.tailTimestampCheck p = t at htail
  obtain ⟨isTail, jb₁⟩ := t
  dsimp only at htail ⊢
  split_ifs
  · exact htail
  · exact htail

theorem touches_pushHead : Touches p jb (jb.pushHead p) := by
  unfold pushHead
  split_ifs
  · exact (touches_headTimestampCheck jb p).trans (touches_headSequenceNumberCheck _ p)
  · exact .refl jb p

/-- **What accepting a packet does**: it is discarded and freed, or stored between two changes of
the window. -/
theorem pushAccept_cases :
    (∃ jb₁, Touches p jb jb₁ ∧ jb.pushAccept p = (true, jb₁.emit (.packetFreed p.addr))) ∨
      ∃ jb₁ jb₂, Touches p jb jb₁ ∧ Touches p (jb₁.pushStore p) jb₂ ∧
        jb.pushAccept p = (false, jb₂) := by
  have h := ((touches_pushStart jb p).trans (touches_pushTail _ p)).trans
    (touches_withinLatencyTolerance _ p)
  unfold pushAccept
  generalize ((jb.pushStart p).pushTail p).withinLatencyTolerance p = t at h
  obtain ⟨within, jb₁⟩ := t
  dsimp only at h ⊢
  cases within with
  | true => exact .inr ⟨jb₁, _, h, touches_pushHead _ p, rfl⟩
  | false => exact .inl ⟨jb₁, h, rfl⟩

end Checks

theorem pushStore_head (jb : JitterBuffer) (p : RtpPacket) :
    (jb.pushStore p).headSequenceNumber = jb.headSequenceNumber := by
  rw [pushStore_frame]

theorem pushStore_tail (jb : JitterBuffer) (p : RtpPacket) :
    (jb.pushStore p).tailSequenceNumber = jb.tailSequenceNumber := by
  rw [pushStore_frame]

/-! ### Sequence numbers and stored packets -/

/-- The ends of the window are sequence numbers, and each stored packet is one of `l` under its own
sequence number. -/
structure Stores (l : List RtpPacket) (jb : JitterBuffer) : Prop where
  head_lt : jb.headSequenceNumber < 65536
  tail_lt : jb.tailSequenceNumber < 65536
  stored : ∀ x q, jb.pkgBufferHashTable x = some q → q ∈ l ∧ q.seq = x

theorem Stores.touch {l : List RtpPacket} (h : Stores l jb) (t : Touches p jb jb₁) :
    Stores l jb₁ :=
  { head_lt := by
      rcases t.head with h1 | h1
      · rw [h1]
        exact h.head_lt
      · rw [h1]
        exact p.seq_lt
    tail_lt := by
      rcases t.tail with h1 | h1
      · rw [h1]
        exact h.tail_lt
      · rw [h1]
        exact p.seq_lt
    stored := by
      rw [t.table]
      exact h.stored }

theorem Stores.emit {l : List RtpPacket} (h : Stores l jb) (e : JbEvent) : Stores l (jb.emit e) :=
  { h with }

theorem Stores.mono {l l' : List RtpPacket} (h : Stores l jb) (hl : ∀ q ∈ l, q ∈ l') :
    Stores l' jb :=
  { h with stored := fun x q hq => ⟨hl q (h.stored x q hq).1, (h.stored x q hq).2⟩ }

theorem Stores.store {l : List RtpPacket} (h : Stores l jb) (p : RtpPacket) :
    Stores (l ++ [p]) (jb.pushStore p) :=
  { head_lt := by
      rw [pushStore_head]
      exact h.head_lt
    tail_lt := by
      rw [pushStore_tail]
      exact h.tail_lt
    stored := fun x q hq => by
      rw [pushStore_table] at hq
      by_cases hx : x = p.seq
      · rw [hx, Function.update_self] at hq
        obtain rfl := Option.some.inj hq
        exact ⟨by simp, hx.symm⟩
      · rw [Function.update_of_ne hx] at hq
        exact ⟨List.mem_append_left _ (h.stored x q hq).1, (h.stored x q hq).2⟩ }

/-- After a packet is accepted, the stored packets are old ones or the new one. -/
theorem Stores.pushAccept {l : List RtpPacket} (h : Stores l jb) (p : RtpPacket) :
    Stores (l ++ [p]) (jb.pushAccept p).2 := by
  rcases pushAccept_cases jb p with ⟨jb₁, t, heq⟩ | ⟨jb₁, jb₂, t, t', heq⟩
  · rw [heq]
    exact ((h.touch t).emit _).mono fun q hq => List.mem_append_left _ hq
  · rw [heq]
    exact ((h.touch t).store p).touch t'

theorem stores_empty (L c : Nat) : Stores [] (JitterBuffer.empty L c) :=
  { head_lt := show 65535 < 65536 by decide
    tail_lt := show 65535 < 65536 by decide
    stored := fun x q hq => by cases hq }

end KvsWebrtc.JitterBuffer
