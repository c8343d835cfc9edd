import KvsWebrtc.JitterBuffer.Equiv.Drop
import KvsWebrtc.JitterBuffer.Equiv.Window

/-!
# The jitter buffer refines the abstract one

`Refines S L jb a` relates a buffer to the abstract state `a`: the window of `jb` reaches from
`a.head` to `a.tail`, its table holds exactly the packets of the window that have arrived, and the
frames it has reported are those that end before `a.head`.

`parse_refines` follows the parse loop over one stream: it delivers frame after frame and stops at
the first missing packet.  `push_refines` puts the tail checks, the store and the parse together:
an admissible arrival takes a refinement of `a` to a refinement of `S.arrive a i`, and neither
discards the packet nor drops a frame.
-/

namespace KvsWebrtc

open JitterBuffer

/-- `onFrameReady` succeeds whatever happened before. -/
def JbCallbacks.AlwaysReady (cb : JbCallbacks) : Prop :=
  ∀ trace startIndex endIndex size,
    cb.onFrameReadyFn trace startIndex endIndex size = .success

structure Refines (S : RtpStream) (L : ℕ) (jb : JitterBuffer) (a : Held) : Prop where
  window : Window S a.arrived jb a.head a.tail
  latency : jb.maxLatency = L
  table : ∀ i, a.head ≤ i → i < a.head + 65536 →
    jb.pkgBufferHashTable (S.posAt i % 65536) =
      if i ∈ a.arrived then some (S.packet i) else none
  arrived_le : ∀ i ∈ a.arrived, i ≤ a.tail
  arrived_of_le : ∀ i ≤ a.head, i ∈ a.arrived
  tail_mem : a.tail ∈ a.arrived
  starts_head : S.starts a.head = true
  span : (∀ i ≤ a.tail, i ∈ a.arrived) ∨ S.timeAt a.tail ≤ S.timeAt a.head + L
  reported : frameEvents jb.trace = S.reportsBefore a.head

/-- The state of the parse loop when the frame that starts with packet `g` is being read and
packet `j` comes next. -/
structure ParseAt (S : RtpStream) (L : ℕ) (a : Held) (g j : ℕ) (s : ParseState) : Prop where
  refines : Refines S L s.jb { a with head := g }
  index : s.index = S.posAt j % 65536
  startDropIndex : s.startDropIndex = S.posAt g % 65536
  continuous : s.isFrameDataContinuous = true
  containStart : s.containStartForEarliestFrame = decide (g < j)
  size : s.curFrameSize = ∑ k ∈ Finset.Ico g j, S.size k
  le : g ≤ j
  le_tail : j ≤ a.tail + 1
  frame : ∀ k, g ≤ k → k < j → k ∈ a.arrived ∧ S.frameOf k = S.frameOf g

variable {S : RtpStream} {L : ℕ} {cb : JbCallbacks} {a : Held} {g j : ℕ} {s : ParseState}

theorem Refines.processed {jb : JitterBuffer} (r : Refines S L jb a) :
    Refines S L { jb with firstFrameProcessed := true } a :=
  { r with window := { r.window with } }

namespace ParseAt

theorem tableAt (q : ParseAt S L a g j s) (hj : j ≤ a.tail) :
    s.jb.pkgBufferHashTable s.index = if j ∈ a.arrived then some (S.packet j) else none := by
  have h1 := q.refines.window.width
  have h2 := q.le
  simp only at h1
  rw [q.index]
  exact q.refines.table j h2 (by simp only; omega)

theorem tableAt_mem (q : ParseAt S L a g j s) (hj : j ≤ a.tail) (hmem : j ∈ a.arrived) :
    s.jb.pkgBufferHashTable s.index = some (S.packet j) := by
  rw [q.tableAt hj, if_pos hmem]

theorem headTimestamp_eq (q : ParseAt S L a g j s) (hframe : S.frameOf j = S.frameOf g) :
    s.jb.headTimestamp = (S.packet j).ts := by
  rw [q.refines.window.headTs, ← S.ts_eq, S.ts_eq_of_frameOf_eq hframe]

theorem headTimestamp_ne (q : ParseAt S L a g j s) (hj : j ≤ a.tail)
    (hframe : S.frameOf j ≠ S.frameOf g) : (S.packet j).ts ≠ s.jb.headTimestamp := by
  have hturn := q.refines.window.turn
  have hmono := S.timeAt_mono hj
  have hhead : s.jb.headTimestamp = S.timeAt g % 4294967296 := q.refines.window.headTs
  simp only at hturn
  rw [hhead, ← S.ts_eq]
  exact S.ts_ne_of_frameOf_ne q.le (by omega) hframe

/-- Behind its first packet the head frame can be delivered. -/
theorem complete (q : ParseAt S L a g j s) (hgj : g < j) : Complete s :=
  ⟨by rw [q.containStart, decide_eq_true hgj], q.continuous⟩

theorem uint16Dec_index (q : ParseAt S L a g j s) (hgj : g < j) :
    uint16Dec s.index = S.posAt (j - 1) % 65536 := by
  rw [q.index]
  unfold uint16Dec RtpStream.posAt
  omega

/-- At a missing packet the head frame is not too old: the parse ends. -/
theorem parseBody_missing (q : ParseAt S L a g j s) (hj : j ≤ a.tail) (hmiss : j ∉ a.arrived)
    {earliest : ℕ} (he : earliest ≤ S.timeAt a.tail % 4294967296 - L) :
    parseBody cb false earliest s = .cleanUp .success s.jb := by
  have h1 := q.refines.window.headTs
  have h2 := q.refines.window.turn
  have h3 := S.timeAt_mono q.refines.window.le
  simp only at h1 h2 h3
  have hspan : S.timeAt a.tail ≤ S.timeAt g + L :=
    q.refines.span.resolve_left fun hall => hmiss (hall j hj)
  refine JitterBuffer.parseBody_wait (by rw [q.tableAt hj, if_neg hmiss]) ?_
  rintro (hold | hclosed)
  · omega
  · cases hclosed

theorem parseBody_same (q : ParseAt S L a g j s) (hdepay : S.DepaysFrom cb) (hj : j ≤ a.tail)
    (hmem : j ∈ a.arrived) (hframe : S.frameOf j = S.frameOf g) (earliest : ℕ) :
    ∃ s', parseBody cb false earliest s = .next s' ∧ ParseAt S L a g (j + 1) s' := by
  have hts := q.headTimestamp_eq hframe
  have hle := q.le
  obtain ⟨isStart, hok, hfirst⟩ := hdepay j
  refine ⟨_, (JitterBuffer.parseBody_same (q.tableAt_mem hj hmem) hts.symm).trans
    (parseDepay_ok hok), ?_⟩
  exact
    { refines := q.refines
      index := by
        simp only [q.index, uint16Inc, RtpStream.posAt]
        omega
      startDropIndex := q.startDropIndex
      continuous := q.continuous
      containStart := by
        rw [decide_eq_true (by omega : g < j + 1)]
        rcases Nat.eq_or_lt_of_le hle with rfl | hlt
        · have hstart := hfirst q.refines.starts_head
          simp [hstart, hts]
        · simp [q.containStart, hlt]
      size := by
        simp only [q.size]
        exact (Finset.sum_Ico_succ_top hle _).symm
      le := by omega
      le_tail := by omega
      frame := by
        intro k hk hkj
        rcases Nat.lt_or_ge k j with hlt | hge
        · exact q.frame k hk hlt
        · obtain rfl : k = j := by omega
          exact ⟨hmem, hframe⟩ }

/-- Delivering the head frame makes packet `j`, the first of the next frame, the head. -/
theorem refines_deliver (q : ParseAt S L a g j s) (hj : j ≤ a.tail) (hmem : j ∈ a.arrived)
    (hframe : S.frameOf j ≠ S.frameOf g) :
    Refines S L
      ((s.jb.emit (.frameReady s.startDropIndex (S.posAt (j - 1) % 65536)
        s.curFrameSize)).jitterBufferDropBufferData s.startDropIndex (S.posAt (j - 1) % 65536)
        (S.packet j).ts) { a with head := j } := by
  have hgj : g < j := lt_of_le_of_ne q.le fun h => hframe (h ▸ rfl)
  have hwidth := q.refines.window.width
  have hlast := q.frame (j - 1) (by omega) (by omega)
  simp only at hwidth
  have hw := q.refines.window.emit (.frameReady s.startDropIndex (S.posAt (j - 1) % 65536)
    s.curFrameSize)
  have hcount : dropCount (S.posAt g % 65536) (S.posAt (j - 1) % 65536) = j - g := by
    unfold dropCount RtpStream.posAt
    omega
  -- the packet that ends the frame starts the next one
  have hstarts : S.starts j = true := S.starts_of_frameOf_ne hgj hlast.2 hframe
  have hwin := hw.dropBufferData hgj hj
  rw [q.startDropIndex] at hwin ⊢
  refine
    { window := hwin
      latency := ?_
      table := ?_
      arrived_le := q.refines.arrived_le
      arrived_of_le := ?_
      tail_mem := q.refines.tail_mem
      starts_head := hstarts
      span := ?_
      reported := ?_ }
  · rw [jitterBufferDropBufferData_eq]
    exact q.refines.latency
  · intro i hi hij
    simp only at hi hij ⊢
    rw [jitterBufferDropBufferData_table _ _ _ (Nat.mod_lt _ (by decide))
      (Nat.mod_lt _ (by decide)), hcount]
    by_cases hwrap : i < g + 65536
    · rw [if_neg]
      · exact q.refines.table i (by simp only; omega) hwrap
      · unfold seqDist RtpStream.posAt
        omega
    · -- the slot was used by a packet of the frame just delivered
      have hout : i ∉ a.arrived := fun hi' => by
        have := q.refines.arrived_le i hi'
        simp only at this
        omega
      rw [if_pos, if_neg hout]
      unfold seqDist RtpStream.posAt
      omega
  · intro i hi
    simp only at hi ⊢
    rcases Nat.lt_or_ge i g with hlt | hge
    · exact q.refines.arrived_of_le i hlt.le
    · rcases Nat.eq_or_lt_of_le hi with rfl | hlt
      · exact hmem
      · exact (q.frame i hge hlt).1
  · have := S.timeAt_mono q.le
    refine q.refines.span.imp_right fun h => ?_
    simp only at h ⊢
    omega
  · have hprev := q.refines.reported
    simp only at hprev ⊢
    rw [jitterBufferDropBufferData_trace, dropLoop_frameEvents,
      S.reportsBefore_of_frame hgj q.refines.starts_head hlast.2 hframe, ← hprev, q.size, S.seq_eq,
      S.seq_eq]
    simp [emit]

/-- At the first packet of the next frame the head frame is delivered. -/
theorem parseBody_next (q : ParseAt S L a g j s) (hdepay : S.DepaysFrom cb)
    (hready : cb.AlwaysReady) (hj : j ≤ a.tail) (hmem : j ∈ a.arrived)
    (hframe : S.frameOf j ≠ S.frameOf g) (earliest : ℕ) :
    ∃ s', parseBody cb false earliest s = .next s' ∧ ParseAt S L a j (j + 1) s' := by
  have hgj : g < j := lt_of_le_of_ne q.le fun h => hframe (h ▸ rfl)
  have hts := q.headTimestamp_ne hj hframe
  have hdec := q.uint16Dec_index hgj
  have hnext : Refines S L (delivered { s with lastNonNullIndex := s.index } (S.packet j))
      { a with head := j } := by
    unfold delivered
    dsimp only
    rw [hdec]
    exact (q.refines_deliver hj hmem hframe).processed
  have hheadTs := hnext.window.headTs
  rw [← S.ts_eq] at hheadTs
  obtain ⟨isStart, hok, hfirst⟩ := hdepay j
  have hstarts := hfirst hnext.starts_head
  refine ⟨_, (JitterBuffer.parseBody_deliver (q.tableAt_mem hj hmem) hts (q.complete hgj)).trans
    ((parseDeliver_success (hready _ _ _ _)).trans (parseDepay_ok hok)), ?_⟩
  exact
    { refines := hnext
      index := by
        simp only [q.index, uint16Inc, RtpStream.posAt]
        omega
      startDropIndex := q.index
      continuous := q.continuous
      containStart := by
        simp only at hheadTs hstarts ⊢
        simp [hheadTs, hstarts]
      size := by simp
      le := by omega
      le_tail := by omega
      frame := by
        intro k hk hkj
        obtain rfl : k = j := by omega
        exact ⟨hmem, rfl⟩ }

/-- The frame being read starts at the first packet of the frame of the packet before `j`. -/
theorem frameStart_eq (q : ParseAt S L a g j s) (hgj : g < j) : S.frameStart (j - 1) = g := by
  have hlast := q.frame (j - 1) (by omega) (by omega)
  rw [S.frameStart_eq_of_frameOf_eq (by omega) hlast.2,
    S.frameStart_of_starts q.refines.starts_head]

/-- The buffer a parse loop leaves behind: all of the frames before the first missing packet have
been delivered. -/
theorem parseLoop_refines (hdepay : S.DepaysFrom cb) (hready : cb.AlwaysReady) {earliest : ℕ}
    (he : earliest ≤ S.timeAt a.tail % 4294967296 - L) (n : ℕ) (q : ParseAt S L a g j s)
    (hn : j + n = a.tail + 1) :
    ∃ jb, Refines S L jb { a with head := S.frameStart (firstMissing a.arrived n j - 1) } ∧
      (parseLoop cb false earliest n s = .cleanUp .success jb ∨
        ∃ s', parseLoop cb false earliest n s = .stop s' ∧ s'.jb = jb) := by
  induction n generalizing g j s with
  | zero =>
    have hg : g ≤ a.tail := q.refines.window.le
    refine ⟨s.jb, ?_, Or.inr ⟨s, rfl, rfl⟩⟩
    rw [firstMissing, q.frameStart_eq (by omega)]
    exact q.refines
  | succ n ih =>
    have hj : j ≤ a.tail := by omega
    rw [firstMissing, parseLoop]
    by_cases hmem : j ∈ a.arrived
    · rw [if_pos hmem]
      -- one iteration, staying in the frame or delivering it
      obtain ⟨g', s', hbody, q'⟩ : ∃ g' s', parseBody cb false earliest s = .next s' ∧
          ParseAt S L a g' (j + 1) s' := by
        by_cases hframe : S.frameOf j = S.frameOf g
        · exact ⟨g, q.parseBody_same hdepay hj hmem hframe earliest⟩
        · exact ⟨j, q.parseBody_next hdepay hready hj hmem hframe earliest⟩
      rw [hbody]
      exact ih q' (by omega)
    · have hgj : g < j := lt_of_le_of_ne q.le fun h =>
        hmem (h ▸ q.refines.arrived_of_le g le_rfl)
      rw [if_neg hmem, q.parseBody_missing hj hmem he]
      refine ⟨s.jb, ?_, Or.inl rfl⟩
      rw [q.frameStart_eq hgj]
      exact q.refines

end ParseAt

namespace Refines

variable {jb : JitterBuffer}

theorem parseAt_init (r : Refines S L jb a) : ParseAt S L a a.head a.head jb.parseInit :=
  { refines := r
    index := r.window.headSeq
    startDropIndex := r.window.headSeq
    continuous := rfl
    containStart := by simp [parseInit]
    size := by simp [parseInit]
    le := le_rfl
    le_tail := by have := r.window.le; omega
    frame := fun k h1 h2 => by omega }

theorem earliestAllowedTimestamp_le (r : Refines S L jb a) :
    jb.earliestAllowedTimestamp ≤ S.timeAt a.tail % 4294967296 - L := by
  unfold earliestAllowedTimestamp
  rw [r.window.tailTs, r.latency]
  split_ifs <;> omega

theorem parseCount_eq (r : Refines S L jb a) : jb.parseCount = a.tail + 1 - a.head := by
  have h1 := r.window.le
  have h2 := r.window.width
  unfold parseCount uint16Inc
  rw [r.window.headSeq, r.window.tailSeq]
  unfold RtpStream.posAt
  omega

/-- **The parse delivers the frames before the first missing packet**, unless the newest timestamp
is zero. -/
theorem parse (r : Refines S L jb a) (hdepay : S.DepaysFrom cb) (hready : cb.AlwaysReady) :
    ∃ jb', jitterBufferInternalParse cb jb false = (.success, jb') ∧
      Refines S L jb' (S.settle a) := by
  have hle := r.window.le
  unfold jitterBufferInternalParse RtpStream.settle
  rw [r.window.tailTs, ← S.ts_eq]
  split_ifs with hzero
  · exact ⟨jb, rfl, r⟩
  · obtain ⟨jb', hr, hloop | ⟨s', hloop, hs⟩⟩ :=
      ParseAt.parseLoop_refines hdepay hready r.earliestAllowedTimestamp_le
        (a.tail + 1 - a.head) r.parseAt_init (by omega)
    · rw [r.parseCount_eq, hloop]
      exact ⟨jb', rfl, hr⟩
    · rw [r.parseCount_eq, hloop]
      refine ⟨s'.jb, ?_, hs ▸ hr⟩
      simp

variable {i : ℕ}

theorem head_lt (r : Refines S L jb a) (ha : S.Admits L a i) : a.head < i := by
  by_contra hle
  exact ha.fresh (r.arrived_of_le i (by omega))

/-- The tail and latency checks accept an admissible packet: the window then reaches to the newer
of it and the old tail, and nothing but the window has changed. -/
theorem accept (r : Refines S L jb a) (hL : L < 4294967295) (ha : S.Admits L a i) :
    ∃ jb', (jb.pushStart (S.packet i)).pushTail (S.packet i) = jb' ∧
      jb'.withinLatencyTolerance (S.packet i) = (true, jb') ∧
      Window S (insert i a.arrived) jb' a.head (max a.tail i) ∧
      jb'.maxLatency = jb.maxLatency ∧ jb'.pkgBufferHashTable = jb.pkgBufferHashTable ∧
      jb'.trace = jb.trace := by
  have hhead := r.head_lt ha
  have hstart : jb.pushStart (S.packet i) = jb := by
    rw [pushStart, if_pos r.window.started]
  rw [hstart]
  rcases Nat.lt_or_ge a.tail i with hnew | hlate
  · have hmax : max a.tail i = i := max_eq_right hnew.le
    have hwidth := ha.width
    have hturn := ha.turn
    rw [hmax] at hwidth hturn ⊢
    obtain ⟨seqFlag, tsFlag, heq, hw⟩ := r.window.pushTail_past hnew ha.gap hwidth hturn
      fun h1 h2 j hj => ha.wrap hnew h1 h2 j
        (lt_of_not_ge fun hij => absurd (S.turnAt_mono hij) (by omega)) hj
    exact ⟨_, heq, hw.withinLatencyTolerance_tail, hw, rfl, rfl, rfl⟩
  · have hlt : i < a.tail := lt_of_le_of_ne hlate fun h => ha.fresh (h ▸ r.tail_mem)
    have hspan : S.timeAt a.tail ≤ S.timeAt a.head + jb.maxLatency := by
      rw [r.latency]
      exact r.span.resolve_left fun hall => ha.fresh (hall i hlt.le)
    rw [max_eq_left hlate]
    refine ⟨jb, r.window.pushTail_inside hhead hlt ha.fresh, ?_, r.window.insert i, rfl, rfl, rfl⟩
    exact r.window.withinLatencyTolerance_inside hhead.le hlt.le ha.fresh hspan
      (by rw [r.latency]; exact hL)

theorem store (r : Refines S L jb a) (ha : S.Admits L a i) {jb' : JitterBuffer}
    (hw : Window S (insert i a.arrived) jb' a.head (max a.tail i))
    (hlatency : jb'.maxLatency = jb.maxLatency)
    (htable : jb'.pkgBufferHashTable = jb.pkgBufferHashTable) (htrace : jb'.trace = jb.trace) :
    Refines S L (jb'.pushStore (S.packet i))
      { arrived := insert i a.arrived, head := a.head, tail := max a.tail i } := by
  refine
    { window := ?_
      latency := ?_
      table := ?_
      arrived_le := ?_
      arrived_of_le := fun j hj => Finset.mem_insert_of_mem (r.arrived_of_le j hj)
      tail_mem := ?_
      starts_head := r.starts_head
      span := ha.span.imp_left fun hall j hj => hall j (Nat.lt_succ_of_le hj)
      reported := ?_ }
  · rw [pushStore_frame]
    exact { hw with }
  · rw [pushStore_frame]
    exact hlatency.trans r.latency
  · intro j hj hjh
    simp only at hj hjh ⊢
    have hhead := r.head_lt ha
    have hwidth := ha.width
    have hle := Nat.le_max_right a.tail i
    simp only [pushStore_table, htable, S.seq_eq, Function.update_apply, Finset.mem_insert]
    -- the slot of the new packet is that of no other number in the window
    by_cases hji : j = i
    · subst hji
      simp
    · rw [if_neg, r.table j hj hjh]
      · simp [hji]
      · unfold RtpStream.posAt
        omega
  · intro j hj
    rcases Finset.mem_insert.mp hj with rfl | hj
    · exact Nat.le_max_right _ _
    · exact (r.arrived_le j hj).trans (Nat.le_max_left _ _)
  · rcases max_choice a.tail i with h | h
    · simp only [h]
      exact Finset.mem_insert_of_mem r.tail_mem
    · simp only [h]
      exact Finset.mem_insert_self _ _
  · rw [pushStore_frameEvents, htrace]
    exact r.reported

/-- An admissible packet is stored, and the head stays where it is. -/
theorem pushAccept_admits (r : Refines S L jb a) (hL : L < 4294967295) (ha : S.Admits L a i) :
    ∃ jb', jb.pushAccept (S.packet i) = (false, jb') ∧
      Refines S L jb' { arrived := insert i a.arrived, head := a.head, tail := max a.tail i } := by
  obtain ⟨jb₁, h1, h2, hw, h3, h4, h5⟩ := r.accept hL ha
  have hstore := r.store ha hw h3 h4 h5
  refine ⟨_, ?_, hstore⟩
  unfold pushAccept
  rw [h1, h2]
  dsimp only
  rw [if_pos rfl, hstore.window.pushHead_eq (r.head_lt ha) (Nat.le_max_right _ _)]

/-- **An admissible arrival is taken as the abstract buffer takes it.** -/
theorem push (r : Refines S L jb a) (hL : L < 4294967295) (hdepay : S.DepaysFrom cb)
    (hready : cb.AlwaysReady) (ha : S.Admits L a i) :
    ∃ jb', jitterBufferPush cb jb (S.packet i) = ⟨.success, false, jb'⟩ ∧
      Refines S L jb' (S.arrive a i) := by
  obtain ⟨jb₁, haccept, hstore⟩ := r.pushAccept_admits hL ha
  obtain ⟨jb', hparse, hr⟩ := hstore.parse hdepay hready
  refine ⟨jb', ?_, hr⟩
  unfold jitterBufferPush
  rw [haccept]
  dsimp only
  rw [hparse]

end Refines

end KvsWebrtc
