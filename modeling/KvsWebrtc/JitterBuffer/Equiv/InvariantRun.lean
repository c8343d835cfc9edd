import KvsWebrtc.Common.Run
import KvsWebrtc.JitterBuffer.Equiv.Invariant
import KvsWebrtc.JitterBuffer.Equiv.ParseMoves

/-!
# The window invariant along runs of pushes

A parse moves the head to stored packets and clears a flag whose ends are back in order; it never
sets one.  So it keeps the window invariant as long as it meets no timestamp above the tail's after
one that is not (`TimestampsInOrder`).  Together with `AcceptOk` this gives the invariant after
every push of a run (`windowInvariant_run`), and a duplicated packet shows that it is needed.
-/

namespace KvsWebrtc

open JitterBuffer

namespace JitterBuffer

/-- The packet `k` places past the head has a timestamp above the tail timestamp. -/
def slotAbove (jb : JitterBuffer) (k : Nat) : Bool :=
  (jb.slot k).any fun q => jb.tailTimestamp < q.ts

/-- The packet `k` places past the head has a timestamp at or below the tail timestamp. -/
def slotBelow (jb : JitterBuffer) (k : Nat) : Bool :=
  (jb.slot k).any fun q => q.ts ≤ jb.tailTimestamp

/-- From head to tail, no timestamp above the tail timestamp comes after one at or below it: the
timestamps wrap at most once, and only if the head timestamp is above the tail timestamp. -/
def TimestampsInOrder (jb : JitterBuffer) : Prop :=
  ∀ k < jb.parseCount, jb.slotAbove k = true →
    jb.tailTimestamp < jb.headTimestamp ∧ ∀ j < k, jb.slotBelow j = false

instance (jb : JitterBuffer) : Decidable jb.TimestampsInOrder :=
  inferInstanceAs (Decidable (∀ k < jb.parseCount, jb.slotAbove k = true →
    jb.tailTimestamp < jb.headTimestamp ∧ ∀ j < k, jb.slotBelow j = false))

variable {jb : JitterBuffer} {k : Nat} {p : RtpPacket} {e : JbEvent}

theorem timestampsInOrder_moveHead (h : jb.TimestampsInOrder) (h1 : jb.headSequenceNumber < 65536)
    (hk : k < jb.parseCount) (hp : jb.slot k = some p) :
    (jb.moveHead k p e).TimestampsInOrder := by
  obtain ⟨-, -, hts, htail, hcount⟩ := moveHead_fields jb k p e hk h1
  intro j hj habove
  rw [hcount] at hj
  -- places `j` and below of the new window are places `k + j` and below of the old one
  have hold : ∀ i ≤ j, (jb.moveHead k p e).slotAbove i = jb.slotAbove (k + i) ∧
      (jb.moveHead k p e).slotBelow i = jb.slotBelow (k + i) := by
    intro i hi
    unfold slotAbove slotBelow
    rw [slot_moveHead h1 hk (by omega), htail]
    exact ⟨rfl, rfl⟩
  rw [(hold j (Nat.le_refl j)).1] at habove
  obtain ⟨-, hbelow⟩ := h (k + j) (by omega) habove
  rw [hts, htail]
  refine ⟨?_, fun i hi => ?_⟩
  · rcases Nat.eq_zero_or_pos j with rfl | hpos
    · unfold slotAbove at habove
      rw [Nat.add_zero, hp] at habove
      simpa using habove
    · have := hbelow k (by omega)
      unfold slotBelow at this
      rw [hp] at this
      simpa using this
  · rw [(hold i (by omega)).2]
    exact hbelow (k + i) (by omega)

end JitterBuffer

/-! ### The parse -/

variable {jb : JitterBuffer} {k skip : Nat} {p : RtpPacket} {e : JbEvent}

theorem Coherent.moveHead (c : Coherent jb skip) (h : jb.TimestampsInOrder)
    (hk : k < jb.parseCount) (hp : jb.slot k = some p) : Coherent (jb.moveHead k p e) skip := by
  have h1 := c.head_lt
  have h2 := c.tail_lt
  have hlt := jb.parseCount_lt
  obtain ⟨hhead, htail, hts, htts, -⟩ := moveHead_fields jb k p e hk h1
  obtain ⟨hseqFlag, htsFlag⟩ := moveHead_flags jb k p e
  refine
    { started := by rw [moveHead_started]; exact c.started
      head_lt := by rw [hhead]; exact Nat.mod_lt _ (by decide)
      tail_lt := by rw [htail]; exact h2
      stored := fun x hx hne => ?_
      seqFlag := ?_
      tsFlag := ?_ }
  · obtain ⟨hx', hin⟩ := c.stored x hx (moveHead_table_of_ne_none jb k p e hne ▸ hne)
    rw [moveHead_table jb k p e (by omega) h1 hx'] at hne
    have hge : ¬ seqDist jb.headSequenceNumber x < k := fun hlt => hne (if_pos hlt)
    refine ⟨hx', ?_⟩
    rw [hhead, htail]
    unfold parseCount uint16Inc at hk
    unfold seqDist at hin hge ⊢
    omega
  · rw [hseqFlag, hhead, htail, Bool.and_eq_true, decide_eq_true_eq, and_iff_right_iff_imp]
    -- the head stays at or before the tail in a window that does not wrap
    intro hgt
    refine c.seqFlag.mpr ?_
    unfold parseCount uint16Inc at hk
    omega
  · rw [htsFlag, hts, htts, Bool.and_eq_true, decide_eq_true_eq, and_iff_right_iff_imp]
    intro hgt
    refine c.tsFlag.mpr (h k hk ?_).1
    unfold slotAbove
    rw [hp]
    simpa using hgt

theorem parse_coherent {cb : JbCallbacks} (c : ∀ skip, Coherent jb skip)
    (h : jb.TimestampsInOrder) :
    ∀ skip, Coherent (jitterBufferInternalParse cb jb false).2 skip := by
  have hI : (∀ skip, Coherent (jitterBufferInternalParse cb jb false).2 skip) ∧
      (jitterBufferInternalParse cb jb false).2.TimestampsInOrder := by
    apply parse_induction (I := fun jb => (∀ skip, Coherent jb skip) ∧ jb.TimestampsInOrder) _ _
      (c 0).head_lt (c 0).tail_lt ⟨c, h⟩
    · rintro jb e ⟨c, h⟩ -
      exact ⟨fun skip => { c skip with }, h⟩
    · rintro jb k p e ⟨c, h⟩ h1 hk - hp -
      exact ⟨fun skip => (c skip).moveHead h hk hp, timestampsInOrder_moveHead h h1 hk hp⟩
  exact hI.1

/-! ### Runs -/

/-- The push meets no gap of the checks and the parse no timestamps out of order. -/
def PushOk (jb : JitterBuffer) (p : RtpPacket) : Prop :=
  (jb.started = true → AcceptOk jb p) ∧ (jb.pushAccept p).2.TimestampsInOrder

instance (jb : JitterBuffer) (p : RtpPacket) : Decidable (AcceptOk jb p) :=
  have : Decidable (jb.inWindow p.seq) := inferInstanceAs (Decidable (_ ≤ _))
  have : Decidable (jb.isNewTail p) := inferInstanceAs (Decidable (_ ∧ _))
  have : Decidable (jb.isNewHead p) := inferInstanceAs (Decidable (_ ∧ _))
  decidable_of_iff
    ((jb.sequenceNumberOverflow p = true → p.seq < jb.headSequenceNumber ∧
        (jb.timestampOverFlowState = true ↔ jb.headTimestamp > p.ts)) ∧
      (jb.sequenceNumberUnderflow p = true → jb.tailSequenceNumber < p.seq ∧
        (jb.timestampOverFlowState = true ↔ p.ts > jb.tailTimestamp)) ∧
      (jb.inWindow p.seq ∨ jb.sequenceNumberOverflow p = true ∨
        jb.sequenceNumberUnderflow p = true ∨ jb.isNewTail p ∨ jb.isNewHead p ∨
        ¬ (jb.tailTimestamp = p.ts ∨ jb.withinLatency p = true)))
    ⟨fun ⟨h1, h2, h3⟩ => ⟨h1, h2, h3⟩, fun h => ⟨h.overflow, h.underflow, h.place⟩⟩

instance (jb : JitterBuffer) (p : RtpPacket) : Decidable (PushOk jb p) :=
  inferInstanceAs (Decidable (_ ∧ _))

theorem coherent_first (L c : Nat) (p : RtpPacket) (skip : Nat) :
    Coherent ((JitterBuffer.empty L c).pushAccept p).2 skip := by
  rw [pushAccept_first]
  have hopened : Coherent (opened L c p p.ts) p.seq :=
    { started := rfl
      head_lt := p.seq_lt
      tail_lt := p.seq_lt
      stored := fun x _ hne => absurd rfl hne
      seqFlag := by simp [opened, JitterBuffer.empty]
      tsFlag := by simp [opened, JitterBuffer.empty] }
  exact hopened.store.unskip p.seq_lt (Coherent.inWindow_pushStore (Coherent.inWindow_tail rfl))

def Reached (jb : JitterBuffer) : Prop :=
  (∃ L c, jb = .empty L c) ∨ ∀ skip, Coherent jb skip

theorem Reached.push {cb : JbCallbacks} (h : Reached jb) (hok : PushOk jb p) :
    ∀ skip, Coherent (jitterBufferPush cb jb p).jb skip := by
  rw [jitterBufferPush_jb]
  refine parse_coherent ?_ hok.2
  rcases h with ⟨L, c, rfl⟩ | c
  · exact coherent_first L c p
  · exact Coherent.pushAccept c (hok.1 (c 0).started)

/-- **The window invariant along runs**: if every push of a run meets `PushOk`, the invariant holds
after each of them, whatever the callbacks answer. -/
theorem windowInvariant_run (cb : JbCallbacks) {maxLatency clockRate : UInt32}
    (hcreate : createJitterBuffer maxLatency clockRate = .ok jb) (l : List RtpPacket)
    (hok : AllSteps (fun jb p => (jitterBufferPush cb jb p).jb) PushOk jb l) :
    ∀ l₁ p l₂, l = l₁ ++ p :: l₂ → WindowInvariant (pushAll cb jb (l₁ ++ [p])) := by
  intro l₁ p l₂ hl
  obtain ⟨L, c, rfl, -, -⟩ := createJitterBuffer_ok hcreate
  rw [hl, allSteps_append, allSteps_cons] at hok
  obtain ⟨hl₁, hp, -⟩ := hok
  have hreached : Reached (pushAll cb (.empty L c) l₁) :=
    (hl₁.along (I := Reached) (fun _ _ h hok => Or.inr (h.push hok)) (Or.inl ⟨L, c, rfl⟩)).last
  rw [pushAll_concat, ← jitterBufferPush_jb]
  exact Coherent.windowInvariant (hreached.push hp)

/-- A loss, a reordering and a wrap of each counter: packets 65533, 65535, 1, 0 and 3. -/
def wrapArrivals : List RtpPacket :=
  [markedPacket 0 65533 4294967000 true, markedPacket 1 65535 4000 true,
    markedPacket 2 1 8000 true, markedPacket 3 0 4000 false, markedPacket 4 3 12000 true]

theorem windowInvariant_run_wrapArrivals :
    ∃ jb, createJitterBuffer 0 90000 = .ok jb ∧
      AllSteps (fun jb p => (jitterBufferPush markCallbacks jb p).jb) PushOk jb wrapArrivals ∧
      WindowInvariant (pushAll markCallbacks jb wrapArrivals) := by
  have hcreate : createJitterBuffer 0 90000 = .ok (.empty 180000 90000) := rfl
  have hok : AllSteps (fun jb p => (jitterBufferPush markCallbacks jb p).jb) PushOk
      (.empty 180000 90000) wrapArrivals := by
    decide +kernel
  exact ⟨_, hcreate, hok, windowInvariant_run markCallbacks hcreate wrapArrivals hok
    (wrapArrivals.take 4) (markedPacket 4 3 12000 true) [] rfl⟩

/-- Packet 10 is delivered when packet 11 starts the next frame, and then arrives again: it is
young enough to be stored and lies before the head. -/
theorem duplicate_outside_window :
    ¬ ∀ (cb : JbCallbacks) (maxLatency clockRate : UInt32) (jb : JitterBuffer)
        (l : List RtpPacket), createJitterBuffer maxLatency clockRate = .ok jb → l ≠ [] →
      WindowInvariant (pushAll cb jb l) := by
  intro h
  have hstored := (h markCallbacks 0 90000 (.empty 180000 90000)
    [markedPacket 0 10 100 true, markedPacket 1 11 200 true, markedPacket 2 10 100 true]
    rfl (by decide)).stored 10 (by decide +kernel)
  revert hstored
  decide +kernel

end KvsWebrtc
