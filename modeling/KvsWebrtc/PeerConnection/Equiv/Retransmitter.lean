import KvsWebrtc.Common.Run
import KvsWebrtc.PeerConnection.Retransmitter
import KvsWebrtc.Rtcp.Equiv.RollingBuffer

/-!
# What a NACK does to the rolling buffer

`resendPacketOnNack` takes the packets out of the rolling buffer at the indices it found and puts
the `k`-th one back at the `k`-th sequence number of the NACK.  So it leaves the buffer as it was
exactly if for every packet found these two agree (`NackOk`): the numbers NACKed before it are all
in the buffer too, and no index has passed 65535.
-/

namespace KvsWebrtc

open RollingBuffer RtpRollingBuffer

variable {construct : ConstructRtx} {rtx : Bool} {mem : Cells} {b : RollingBuffer RtpPacket}

/-- The packet at `index`, if there is one, is put back where it was: the sequence number it is put
back at is its index, and the packet to resend can be built. -/
def GoodEntry (construct : ConstructRtx) (rtx : Bool) (b : RollingBuffer RtpPacket)
    (seqNum index : Nat) : Prop :=
  b.InRange index → seqNum = index ∧
    ∀ p, b.itemAt index = some p → rtx = true → (construct p.rawPacket).failed = false

/-- All entries from `k` on are good. -/
def GoodEntries (construct : ConstructRtx) (rtx : Bool) (mem : Cells)
    (b : RollingBuffer RtpPacket) :
    Nat → List Nat → Prop
  | _, [] => True
  | k, index :: rest =>
    GoodEntry construct rtx b (mem k) index ∧ GoodEntries construct rtx mem b (k + 1) rest

/-! ### The loop -/

section Loop

variable {k index : Nat} {rest : List Nat} {n : UInt16} {p : RtpPacket}

theorem resendLoop_out (hi : ¬ b.InRange index) :
    resendLoop construct rtx mem k (index :: rest) (b, n) =
      resendLoop construct rtx mem (k + 1) rest (b, n) := by
  rw [resendLoop]
  unfold rollingBufferExtractData
  rw [if_neg hi]

theorem resendLoop_hole (hi : b.InRange index) (hp : b.itemAt index = none) :
    resendLoop construct rtx mem k (index :: rest) (b, n) =
      resendLoop construct rtx mem (k + 1) rest (b.set index none, n) := by
  rw [resendLoop]
  unfold rollingBufferExtractData
  rw [if_pos hi, hp]

/-- The packet to resend cannot be built: the original is lost. -/
theorem resendLoop_failed (hi : b.InRange index) (hp : b.itemAt index = some p)
    (hfail : rtx = true ∧ (construct p.rawPacket).failed = true) :
    (resendLoop construct rtx mem k (index :: rest) (b, n)).2.1 =
      (b.set index none).free (some p) := by
  rw [resendLoop]
  unfold rollingBufferExtractData
  rw [if_pos hi, hp]
  dsimp only
  rw [if_pos hfail]

theorem resendLoop_put (hi : b.InRange index) (hp : b.itemAt index = some p)
    (hok : ¬ (rtx = true ∧ (construct p.rawPacket).failed = true)) :
    ∃ n', resendLoop construct rtx mem k (index :: rest) (b, n) =
      resendLoop construct rtx mem (k + 1) rest (b.putBack index (mem k) p, n') := by
  rw [resendLoop]
  unfold rollingBufferExtractData
  rw [if_pos hi, hp]
  dsimp only
  rw [if_neg hok]
  exact ⟨_, rfl⟩

end Loop

theorem resendLoop_freed (k : Nat) (valid : List Nat) (b : RollingBuffer RtpPacket) (n : UInt16) :
    ∃ more, (resendLoop construct rtx mem k valid (b, n)).2.1.freed = b.freed ++ more := by
  induction valid generalizing k b n with
  | nil => exact ⟨[], (List.append_nil _).symm⟩
  | cons index rest ih =>
    by_cases hi : b.InRange index
    · cases hp : b.itemAt index with
      | none =>
        rw [resendLoop_hole hi hp]
        exact ih (k + 1) (b.set index none) n
      | some p =>
        by_cases hfail : rtx = true ∧ (construct p.rawPacket).failed = true
        · rw [resendLoop_failed hi hp hfail]
          exact ⟨[p], rfl⟩
        · obtain ⟨n', heq⟩ := @resendLoop_put construct rtx mem b k index rest n p hi hp hfail
          obtain ⟨more, hmore⟩ := ih (k + 1) (b.putBack index (mem k) p) n'
          obtain ⟨more', hmore'⟩ := putBack_freed (b := b) (i := index) (j := mem k) (x := p)
          exact ⟨more' ++ more, by rw [heq, hmore, hmore', List.append_assoc]⟩
    · rw [resendLoop_out hi]
      exact ih (k + 1) b n

/-- An entry that is not good frees a packet for good. -/
theorem resendLoop_bad {k index : Nat} {rest : List Nat} {n : UInt16} (h : HoleFree b)
    (hbad : ¬ GoodEntry construct rtx b (mem k) index) :
    (resendLoop construct rtx mem k (index :: rest) (b, n)).2.1 ≠ b := by
  unfold GoodEntry at hbad
  obtain ⟨hi, hbad⟩ := Classical.not_imp.mp hbad
  obtain ⟨p, hp⟩ := Option.ne_none_iff_exists'.mp (h.items index hi)
  -- something was freed, and stays freed
  suffices hfreed : ∃ y more, (resendLoop construct rtx mem k (index :: rest) (b, n)).2.1.freed =
      b.freed ++ y :: more by
    intro heq
    obtain ⟨y, more, hfreed⟩ := hfreed
    rw [heq] at hfreed
    have hlen := congrArg List.length hfreed
    rw [List.length_append, List.length_cons] at hlen
    omega
  by_cases hfail : rtx = true ∧ (construct p.rawPacket).failed = true
  · rw [resendLoop_failed hi hp hfail]
    exact ⟨p, [], rfl⟩
  · have hne : mem k ≠ index := by
      intro hseq
      refine hbad ⟨hseq, fun q hq hrtx => ?_⟩
      rw [hp] at hq
      obtain rfl := Option.some.inj hq
      simpa [hrtx] using hfail
    obtain ⟨n', heq⟩ := @resendLoop_put construct rtx mem b k index rest n p hi hp hfail
    obtain ⟨y, hy⟩ := h.putBack_ne (x := p) hi hne
    obtain ⟨more, hmore⟩ := @resendLoop_freed construct rtx mem (k + 1) rest
      (b.putBack index (mem k) p) n'
    refine ⟨y, more, ?_⟩
    rw [heq, hmore, hy, List.append_assoc]
    rfl

/-- **The loop leaves a buffer without holes as it was exactly if all entries are good.** -/
theorem resendLoop_unchanged_iff (h : HoleFree b) (k : Nat) (valid : List Nat) (n : UInt16) :
    (resendLoop construct rtx mem k valid (b, n)).2.1 = b ↔
      GoodEntries construct rtx mem b k valid := by
  induction valid generalizing k n with
  | nil => exact ⟨fun _ => trivial, fun _ => rfl⟩
  | cons index rest ih =>
    rw [GoodEntries]
    by_cases hgood : GoodEntry construct rtx b (mem k) index
    · rw [and_iff_right hgood]
      by_cases hi : b.InRange index
      · obtain ⟨p, hp⟩ := Option.ne_none_iff_exists'.mp (h.items index hi)
        obtain ⟨hseq, hbuild⟩ := hgood hi
        have hok : ¬ (rtx = true ∧ (construct p.rawPacket).failed = true) := by
          rintro ⟨hrtx, hfail⟩
          rw [hbuild p hp hrtx] at hfail
          cases hfail
        obtain ⟨n', heq⟩ := @resendLoop_put construct rtx mem b k index rest n p hi hp hok
        rw [heq, hseq, putBack_self hi hp]
        exact ih (k + 1) n'
      · rw [resendLoop_out hi]
        exact ih (k + 1) n
    · exact ⟨fun heq => absurd heq (resendLoop_bad h hgood), fun hall => absurd hall.1 hgood⟩

/-! ### One NACK -/

/-- The NACK finds its packets where it puts them back: if it reaches a transceiver with a
retransmitter, all entries it finds are good. -/
def NackOk (construct : ConstructRtx) (ts : List SenderTransceiver) (payload : List UInt8) : Prop :=
  ∀ senderSsrc receiverSsrc i t r, rtcpNackSsrcs payload = .ok (senderSsrc, receiverSsrc) →
    findTransceiverBySsrc ts receiverSsrc = some i → ts[i]? = some t → t.retransmitter = some r →
    GoodEntries construct (t.payloadType ≠ t.rtxPayloadType) (t.nacked r payload).2
      t.packetBuffer.rollingBuffer 0 (t.nacked r payload).1

def packetBuffers (ts : List SenderTransceiver) : List RtpRollingBuffer :=
  ts.map SenderTransceiver.packetBuffer

theorem resend_packetBuffer {t : SenderTransceiver} {r : Retransmitter}
    (ht : HoleFree t.packetBuffer.rollingBuffer) (hr : t.retransmitter = some r)
    (payload : List UInt8) :
    (t.resend construct payload).2.packetBuffer = t.packetBuffer ↔
      GoodEntries construct (t.payloadType ≠ t.rtxPayloadType) (t.nacked r payload).2
        t.packetBuffer.rollingBuffer 0 (t.nacked r payload).1 := by
  rw [← resendLoop_unchanged_iff ht 0 _ t.rtxSequenceNumber]
  unfold SenderTransceiver.resend
  rw [hr]
  dsimp only
  generalize (resendLoop construct (t.payloadType ≠ t.rtxPayloadType) (t.nacked r payload).2 0
    (t.nacked r payload).1 (t.packetBuffer.rollingBuffer, t.rtxSequenceNumber)).2.1 = b
  constructor
  · intro heq
    exact congrArg RtpRollingBuffer.rollingBuffer heq
  · intro heq
    rw [heq]

theorem packetBuffers_set {ts : List SenderTransceiver} {i : Nat} {t t' : SenderTransceiver}
    (ht : ts[i]? = some t) :
    packetBuffers (ts.set i t') = packetBuffers ts ↔ t'.packetBuffer = t.packetBuffer := by
  unfold packetBuffers
  rw [List.map_set]
  have hi : (ts.map SenderTransceiver.packetBuffer)[i]? = some t.packetBuffer := by
    rw [List.getElem?_map, ht]
    rfl
  constructor
  · intro heq
    have hget := congrArg (·[i]?) heq
    obtain ⟨hlt, -⟩ := List.getElem?_eq_some_iff.mp hi
    rw [hi, List.getElem?_set_self hlt] at hget
    exact Option.some.inj hget
  · intro heq
    obtain ⟨hlt, hget⟩ := List.getElem?_eq_some_iff.mp hi
    rw [heq, ← hget, List.set_getElem_self]

/-- **One NACK** leaves buffers without holes as they were exactly if it finds its packets where it
puts them back. -/
theorem resendPacketOnNack_unchanged_iff {ts : List SenderTransceiver}
    (h : ∀ t ∈ ts, HoleFree t.packetBuffer.rollingBuffer) (payload : List UInt8) :
    packetBuffers (resendPacketOnNack construct payload ts).2 = packetBuffers ts ↔
      NackOk construct ts payload := by
  unfold NackOk resendPacketOnNack
  -- only a NACK that finds its transceiver comes to a rolling buffer
  rcases hssrcs : rtcpNackSsrcs payload with e | ⟨senderSsrc, receiverSsrc⟩
  · refine ⟨fun _ s r i t r' heq => ?_, fun _ => rfl⟩
    cases heq
  · dsimp only
    cases hfind : findTransceiverBySsrc ts receiverSsrc with
    | none =>
      constructor
      · intro _ s' r' i t r heq hi
        obtain ⟨rfl, rfl⟩ := Prod.mk.inj (Except.ok.inj heq)
        rw [hfind] at hi
        cases hi
      · intro _
        cases findTransceiverBySsrc ts senderSsrc <;> rfl
    | some i =>
      dsimp only
      cases ht : ts[i]? with
      | none =>
        refine ⟨fun _ s' r' j t r heq hj htj => ?_, fun _ => rfl⟩
        obtain ⟨rfl, rfl⟩ := Prod.mk.inj (Except.ok.inj heq)
        rw [hfind] at hj
        obtain rfl := Option.some.inj hj
        rw [ht] at htj
        cases htj
      | some t =>
        have hfree := h t (List.mem_of_getElem? ht)
        dsimp only
        rw [packetBuffers_set ht]
        constructor
        · intro hsame s' r' j t' r heq hj htj hr
          obtain ⟨rfl, rfl⟩ := Prod.mk.inj (Except.ok.inj heq)
          rw [hfind] at hj
          obtain rfl := Option.some.inj hj
          rw [ht] at htj
          obtain rfl := Option.some.inj htj
          exact (resend_packetBuffer hfree hr payload).mp hsame
        · intro hgood
          cases hr : t.retransmitter with
          | none =>
            unfold SenderTransceiver.resend
            rw [hr]
          | some r =>
            exact (resend_packetBuffer hfree hr payload).mpr
              (hgood senderSsrc receiverSsrc i t r rfl hfind ht hr)

/-! ### Runs -/

/-- What happens to the senders: a packet is sent, or a NACK arrives. -/
inductive SenderOp
  | add (i : Nat) (p : RtpPacket)
  | nack (payload : List UInt8)

def senderStep (construct : ConstructRtx) (ts : List SenderTransceiver) :
    SenderOp → List SenderTransceiver
  | .add i p => ts.modify i fun t =>
    { t with packetBuffer := t.packetBuffer.rtpRollingBufferAddRtpPacket p }
  | .nack payload => (resendPacketOnNack construct payload ts).2

/-- If the operation is a NACK, it leaves the rolling buffers as they were. -/
def NackLeavesBuffers (construct : ConstructRtx) (ts : List SenderTransceiver) : SenderOp → Prop
  | .add _ _ => True
  | .nack payload => packetBuffers (resendPacketOnNack construct payload ts).2 = packetBuffers ts

/-- If the operation is a NACK, it finds its packets where it puts them back. -/
def OpOk (construct : ConstructRtx) (ts : List SenderTransceiver) : SenderOp → Prop
  | .add _ _ => True
  | .nack payload => NackOk construct ts payload

def AllHoleFree (ts : List SenderTransceiver) : Prop :=
  ∀ b ∈ packetBuffers ts, HoleFree b.rollingBuffer

theorem AllHoleFree.add {ts : List SenderTransceiver} (h : AllHoleFree ts) (i : Nat)
    (p : RtpPacket) : AllHoleFree (senderStep construct ts (.add i p)) := by
  intro b hb
  obtain ⟨t, ht, rfl⟩ := List.mem_map.mp hb
  obtain ⟨j, hj⟩ := List.mem_iff_getElem?.mp ht
  rw [senderStep, List.getElem?_modify] at hj
  obtain ⟨t', ht', heq⟩ := Option.map_eq_some_iff.mp hj
  have hfree := h t'.packetBuffer (List.mem_map.mpr ⟨t', List.mem_of_getElem? ht', rfl⟩)
  split_ifs at heq
  · subst heq
    exact hfree.append p
  · subst heq
    exact hfree

/-- **NACKs along runs**: from senders with new rolling buffers, every NACK of a run of sends and
NACKs leaves the buffers as they were if and only if every NACK finds its packets where it puts them
back. -/
theorem nacks_leave_buffers_iff (construct : ConstructRtx) {ts : List SenderTransceiver}
    (hnew : ∀ t ∈ ts, ∃ capacity, createRollingBuffer capacity = .ok t.packetBuffer.rollingBuffer)
    (l : List SenderOp) :
    AllSteps (senderStep construct) (NackLeavesBuffers construct) ts l ↔
      AllSteps (senderStep construct) (OpOk construct) ts l := by
  refine allSteps_congr (I := AllHoleFree) ?_ ?_ ?_ l
  · intro ts op h
    cases op with
    | add i p => exact Iff.rfl
    | nack payload =>
      exact resendPacketOnNack_unchanged_iff
        (fun t ht => h t.packetBuffer (List.mem_map.mpr ⟨t, ht, rfl⟩)) payload
  · intro ts op h hsame
    cases op with
    | add i p => exact h.add i p
    | nack payload =>
      intro b hb
      refine h b ?_
      rw [← show packetBuffers (resendPacketOnNack construct payload ts).2 = packetBuffers ts from
        hsame]
      exact hb
  · intro b hb
    obtain ⟨t, ht, rfl⟩ := List.mem_map.mp hb
    obtain ⟨capacity, hcreate⟩ := hnew t ht
    exact createRollingBuffer_holeFree hcreate

/-- A sender of SSRC 7 with a new rolling buffer, which resends packets as they were. -/
def newSender (capacity : Nat) : SenderTransceiver where
  ssrc := 7
  rtxSsrc := 8
  jitterBufferSsrc := 9
  payloadType := 96
  rtxPayloadType := 96
  rtxSequenceNumber := 0
  packetBuffer :=
    { rollingBuffer :=
        { capacity := capacity, headIndex := 0, tailIndex := 0, dataBuffer := fun _ => none,
          freed := [] }
      lastIndex := 0 }
  retransmitter := some { seqNumListLen := 1000, validIndexListLen := 1000, memory := fun _ => 0 }

/-- Three packets are sent, and the sequence numbers 0 and 1 are NACKed. -/
def nackedRun : List SenderOp :=
  [.add 0 (default : RtpPacket), .add 0 (default : RtpPacket), .add 0 (default : RtpPacket),
    .nack [0, 0, 0, 9, 0, 0, 0, 7, 0, 0, 0, 1]]

theorem nacks_leave_buffers_iff_nackedRun :
    (∀ t ∈ [newSender 4], ∃ capacity,
      createRollingBuffer capacity = .ok t.packetBuffer.rollingBuffer) ∧
    AllSteps (senderStep fun _ => .success) (NackLeavesBuffers fun _ => .success) [newSender 4]
      nackedRun := by
  have hnew : ∀ t ∈ [newSender 4], ∃ capacity,
      createRollingBuffer capacity = .ok t.packetBuffer.rollingBuffer := by
    intro t ht
    obtain rfl := List.mem_singleton.mp ht
    exact ⟨4, rfl⟩
  refine ⟨hnew, (nacks_leave_buffers_iff (fun _ => .success) hnew nackedRun).mpr ?_⟩
  refine ⟨trivial, trivial, trivial, ?_, trivial⟩
  intro senderSsrc receiverSsrc i t r hssrcs hi ht hr
  obtain ⟨rfl, rfl⟩ := Prod.mk.inj (Except.ok.inj hssrcs)
  obtain rfl : 0 = i := Option.some.inj hi
  obtain rfl := Option.some.inj ht
  obtain rfl := Option.some.inj hr
  exact ⟨fun _ => ⟨by decide +kernel, fun _ _ h => Bool.noConfusion h⟩,
    fun _ => ⟨by decide +kernel, fun _ _ h => Bool.noConfusion h⟩, trivial⟩

/-- In a buffer of two packets, number 0 is gone when numbers 0 and 1 are NACKed: packet 1 is put
back at 0, which is out of range, and freed. -/
theorem nack_frees_packet :
    ¬ ∀ (construct : ConstructRtx) (ts : List SenderTransceiver) (l : List SenderOp),
      (∀ t ∈ ts, ∃ capacity, createRollingBuffer capacity = .ok t.packetBuffer.rollingBuffer) →
      AllSteps (senderStep construct) (NackLeavesBuffers construct) ts l := by
  intro h
  have hrun := h (fun _ => .success) [newSender 2] nackedRun (by
    intro t ht
    obtain rfl := List.mem_singleton.mp ht
    exact ⟨2, rfl⟩)
  have hsame := hrun.2.2.2.1
  have hfreed := congrArg (List.map fun b => b.rollingBuffer.freed.length) hsame
  revert hfreed
  decide +kernel

end KvsWebrtc
