import KvsWebrtc.PeerConnection.Equiv.TwccTable
import Mathlib.Algebra.Order.BigOperators.Group.List
import Mathlib.Data.List.Induction

/-!
# What the reports of a connection add up to

A run is a list of events from a new manager, in which feedback packets may overlap, repeat, be lost
or cover numbers that have never been sent.  The packets sent are known by their records: the record
of the n-th one has the address `n`.

`Accounted` says what a report tells.  Over a whole run a packet counts as received in one report at
most, and as sent in no report after that one (`twcc_accounting`).  A packet that has been reported
as lost may still be received, so a further report that finds it in the table counts it as sent
again (`lost_packets_count_again`).
-/

namespace KvsWebrtc

/-- A call of `onSenderBandwidthEstimation`, with the manager whose table it accounts for. -/
structure TwccReport where
  manager : TwccManager
  estimation : BandwidthEstimation

namespace TwccManager

open SeqNum Twcc

/-! ### The reports of a run -/

def reportOf (m : TwccManager) : TwccEvent → Option TwccReport
  | .packetSent _ _ => none
  | .feedback payload =>
    match m.parseRtcpTwccPacket payload with
    | .error _ => none
    | .ok parsed => (m.handle (.feedback payload)).2.map fun estimation => ⟨parsed, estimation⟩

def reports : TwccManager → List TwccEvent → List TwccReport
  | _, [] => []
  | m, event :: events => (m.reportOf event).toList ++ (m.step event).reports events

/-- The packets sent for which there is a record, with their send times. -/
def sentPackets (events : List TwccEvent) : List (RtpPacket × Nat) :=
  events.filterMap fun
    | .packetSent p sentTime =>
      if p.header.extensionProfile = twccExtProfile then some (p, sentTime) else none
    | .feedback _ => none

/-- The record of the packet at its address, under the number of the packet. -/
def IsRecord (sent : List (RtpPacket × Nat)) (key : UInt64) (info : TwccRtpPacketInfo) : Prop :=
  ∃ p sentTime, sent[info.addr]? = some (p, sentTime) ∧
    key = (twccSeqNum p.header.extensionPayload).toUInt64 ∧ info.localTimeKvs = sentTime ∧
    info.packetSize = p.payloadLength

/-- A feedback packet has a status other than lost for a number. -/
def ReportsReceived (payload : List UInt8) (seqNum : UInt16) : Prop :=
  ∃ baseSeqNum times i time, readFeedback payload = .ok (baseSeqNum, times) ∧
    times[i]? = some (some time) ∧ time ≠ twccPacketLostTime ∧ seqNum = baseSeqNum + UInt16.ofNat i

/-- At some point of the run, a feedback packet gave a received status to the packet. -/
def ReceivedStatus (events : List TwccEvent) (addr : Nat) : Prop :=
  ∃ past payload later seqNum info, events = past ++ .feedback payload :: later ∧
    (past.foldl step create).twccRtpPktInfosHashTable seqNum.toUInt64 = some info ∧
    info.addr = addr ∧
    ReportsReceived payload seqNum

/-- The record under the number before the first one.  Before number 0 there is none: what the code
looks up is the key `2 ^ 64 - 1`. -/
def previousRecord (m : TwccManager) : Option TwccRtpPacketInfo :=
  if m.prevReportedBaseSeqNum = 0 then none
  else m.twccRtpPktInfosHashTable (m.prevReportedBaseSeqNum - 1).toUInt64

/-- The record with whose send the duration starts: that before the first number or, where there is
none, the first one covered.  If the former was sent at time zero, which stands for an unknown time,
the record of the first number goes before it. -/
def startRecord (m : TwccManager) : Option TwccRtpPacketInfo :=
  match m.previousRecord with
  | none => m.covered.head?
  | some previous =>
    if previous.localTimeKvs = twccPacketUnitializedTime then
      (m.twccRtpPktInfosHashTable m.prevReportedBaseSeqNum.toUInt64).or (some previous)
    else some previous

/-- The duration goes from the start to the send of the last record that the report covers. -/
def Spans (m : TwccManager) (duration : Int) : Prop :=
  ∃ start ∈ m.startRecord, ∃ last ∈ m.covered.getLast?,
    duration = (last.localTimeKvs : Int) - start.localTimeKvs

/-- What a report tells about the packets of the run so far. -/
structure Accounted (events : List TwccEvent) (r : TwccReport) : Prop where
  sent : ∀ info ∈ r.manager.covered, ∃ key, IsRecord (sentPackets events) key info
  once : (r.manager.covered.map (·.addr)).Nodup
  counts : Counts r.manager.covered r.estimation
  status : ∀ info ∈ r.manager.received, ReceivedStatus events info.addr
  receivedBytes_le : r.estimation.receivedBytes ≤ r.estimation.sentBytes
  receivedPackets_le : r.estimation.receivedPackets ≤ r.estimation.sentPackets
  duration : Spans r.manager r.estimation.duration

/-! ### The duration -/

theorem visit_recorded {s : UpdateState} (hs : s.localStartTimeRecorded = true) (seqNum : UInt16) :
    (visit s seqNum).localStartTimeRecorded = true ∧
      (visit s seqNum).localStartTimeKvs = s.localStartTimeKvs ∧
      (visit s seqNum).estimation.duration =
        (s.manager.twccRtpPktInfosHashTable seqNum.toUInt64).elim s.estimation.duration
          fun info => (info.localTimeKvs : Int) - s.localStartTimeKvs := by
  rw [visit, recordStart, if_pos hs, countPacket]
  cases s.manager.twccRtpPktInfosHashTable seqNum.toUInt64 with
  | none => exact ⟨hs, rfl, rfl⟩
  | some info =>
    dsimp only
    split_ifs <;> exact ⟨hs, rfl, rfl⟩

theorem duration_walk {s : UpdateState} (hs : s.localStartTimeRecorded = true)
    {seqNums : List UInt16} (hnodup : seqNums.Nodup) :
    (seqNums.foldl visit s).estimation.duration =
      (s.manager.recordsAt seqNums).getLast?.elim s.estimation.duration
        fun info => (info.localTimeKvs : Int) - s.localStartTimeKvs := by
  induction seqNums generalizing s with
  | nil => rfl
  | cons seqNum seqNums ih =>
    obtain ⟨hseqNum, hnodup⟩ := List.nodup_cons.mp hnodup
    obtain ⟨hrecorded, hstart, hduration⟩ := visit_recorded hs seqNum
    rw [List.foldl_cons, ih hrecorded hnodup, hstart, hduration, visit_manager,
      recordsAt_acknowledge hseqNum, recordsAt_cons, List.getLast?_append]
    cases (s.manager.recordsAt seqNums).getLast? with
    | some last => rfl
    | none => cases s.manager.twccRtpPktInfosHashTable seqNum.toUInt64 <;> rfl

theorem visit_recordStart {s : UpdateState} {seqNum : UInt16}
    (h : (recordStart s seqNum).localStartTimeRecorded = true) :
    visit s seqNum = visit (recordStart s seqNum) seqNum := by
  rw [visit, visit, recordStart.eq_def (recordStart s seqNum), if_pos h]

def seqNumsFrom (base : UInt16) (n : Nat) : List UInt16 :=
  (List.range n).map fun i => base + UInt16.ofNat i

theorem seqNumsFrom_succ (base : UInt16) (n : Nat) :
    seqNumsFrom base (n + 1) = base :: seqNumsFrom (base + 1) n := by
  rw [seqNumsFrom, List.range_succ_eq_map, List.map_cons, List.map_map]
  congr 1
  · exact UInt16.add_zero base
  · apply List.map_congr_left
    intro i _
    exact add_ofNat_succ base i

theorem table_before_zero {m : TwccManager}
    (hkeys : ∀ key info, m.twccRtpPktInfosHashTable key = some info →
      ∃ seqNum : UInt16, key = seqNum.toUInt64) {base : UInt16} (hzero : base = 0) :
    m.twccRtpPktInfosHashTable (base.toUInt64 - 1) = none := by
  subst hzero
  by_contra hkey
  obtain ⟨info, hinfo⟩ := Option.ne_none_iff_exists'.mp hkey
  obtain ⟨seqNum, hseqNum⟩ := hkeys _ info hinfo
  have hnat := congrArg UInt64.toNat hseqNum
  have hlt := seqNum.toNat_lt
  rw [UInt16.toNat_toUInt64, show ((0 : UInt16).toUInt64 - 1).toNat = 2 ^ 64 - 1 from rfl] at hnat
  omega

/-- Without the packet before the first number, the duration starts with the first record. -/
theorem duration_walk_of_none {s : UpdateState} {base : UInt16} {n : Nat}
    (hs : s.localStartTimeRecorded = false)
    (hkeys : ∀ key info, s.manager.twccRtpPktInfosHashTable key = some info →
      ∃ seqNum : UInt16, key = seqNum.toUInt64)
    (hprevious : s.manager.twccRtpPktInfosHashTable (base.toUInt64 - 1) = none)
    (hnodup : (seqNumsFrom base n).Nodup) {last : TwccRtpPacketInfo}
    (hlast : last ∈ (s.manager.recordsAt (seqNumsFrom base n)).getLast?) :
    ∃ first ∈ (s.manager.recordsAt (seqNumsFrom base n)).head?,
      ((seqNumsFrom base n).foldl visit s).estimation.duration =
        (last.localTimeKvs : Int) - first.localTimeKvs := by
  induction n generalizing s base with
  | zero => exact nomatch hlast
  | succ n ih =>
    rw [seqNumsFrom_succ] at hnodup hlast ⊢
    cases hinfo : s.manager.twccRtpPktInfosHashTable base.toUInt64 with
    | some first =>
      have hstart : recordStart s base =
          { s with localStartTimeKvs := first.localTimeKvs, localStartTimeRecorded := true } := by
        rw [recordStart, hs, if_neg Bool.false_ne_true, hprevious]
        dsimp only
        rw [if_pos rfl, hinfo]
      refine ⟨first, ?_, ?_⟩
      · rw [recordsAt_cons, hinfo]
        rfl
      · have hrecorded : (recordStart s base).localStartTimeRecorded = true := by rw [hstart]
        rw [List.foldl_cons, visit_recordStart hrecorded, ← List.foldl_cons,
          duration_walk hrecorded hnodup, hstart, Option.mem_def.mp hlast]
        rfl
    | none =>
      -- nothing happens at this number, and the next one has none before it either
      have hvisit : visit s base = { s with localStartTimeKvs := twccPacketUnitializedTime } := by
        rw [visit, recordStart, hs, if_neg Bool.false_ne_true, hprevious]
        dsimp only
        rw [if_pos rfl, hinfo]
        dsimp only
        rw [countPacket, hinfo]
      have hnext : s.manager.twccRtpPktInfosHashTable ((base + 1).toUInt64 - 1) = none := by
        by_cases hzero : base + 1 = 0
        · exact table_before_zero hkeys hzero
        · rw [toUInt64_sub_one hzero, UInt16.add_sub_cancel]
          exact hinfo
      rw [recordsAt_cons, hinfo] at hlast ⊢
      rw [List.foldl_cons, hvisit]
      exact ih (s := { s with localStartTimeKvs := twccPacketUnitializedTime }) hs hkeys hnext
        (List.nodup_cons.mp hnodup).2 hlast

theorem duration_walk_of_recordsAt_nil {s : UpdateState} {seqNums : List UInt16}
    (hnodup : seqNums.Nodup) (h : s.manager.recordsAt seqNums = []) :
    (seqNums.foldl visit s).estimation.duration = s.estimation.duration := by
  induction seqNums generalizing s with
  | nil => rfl
  | cons seqNum seqNums ih =>
    obtain ⟨hseqNum, hnodup⟩ := List.nodup_cons.mp hnodup
    rw [recordsAt_cons] at h
    obtain ⟨hinfo, hrest⟩ := List.append_eq_nil_iff.mp h
    rw [Option.toList_eq_nil_iff] at hinfo
    obtain ⟨hmanager, hestimation⟩ := recordStart_manager s seqNum
    have hvisit : (visit s seqNum).estimation = s.estimation := by
      rw [visit, countPacket, hmanager, hinfo]
      exact hestimation
    rw [List.foldl_cons, ih hnodup, hvisit]
    rw [visit_manager, recordsAt_acknowledge hseqNum]
    exact hrest

/-- The first number finds the start where there is a record before it. -/
theorem recordStart_of_previous {s : UpdateState} {previous : TwccRtpPacketInfo}
    (hs : s.localStartTimeRecorded = false) (hprevious : s.manager.previousRecord = some previous) :
    ∃ start ∈ s.manager.startRecord, recordStart s s.manager.prevReportedBaseSeqNum =
      { s with localStartTimeKvs := start.localTimeKvs, localStartTimeRecorded := true } := by
  have hstart := hprevious
  rw [previousRecord] at hprevious
  split_ifs at hprevious with hzero
  rw [startRecord, hstart, recordStart, hs, if_neg Bool.false_ne_true, toUInt64_sub_one hzero,
    hprevious]
  dsimp only
  by_cases htime : previous.localTimeKvs = twccPacketUnitializedTime
  · rw [if_pos htime, if_pos htime]
    cases s.manager.twccRtpPktInfosHashTable s.manager.prevReportedBaseSeqNum.toUInt64 with
    | none => exact ⟨previous, rfl, rfl⟩
    | some own => exact ⟨own, rfl, rfl⟩
  · rw [if_neg htime, if_neg htime]
    exact ⟨previous, rfl, rfl⟩

/-- **The duration of a report.** -/
theorem spans_updateTwccHashTable {m : TwccManager}
    (hkeys : ∀ key info, m.twccRtpPktInfosHashTable key = some info →
      ∃ seqNum : UInt16, key = seqNum.toUInt64)
    (hduration : m.updateTwccHashTable.2.duration ≠ 0) :
    Spans m m.updateTwccHashTable.2.duration := by
  let s : UpdateState := ⟨m, twccPacketUnitializedTime, false, ⟨0, 0, 0, 0, 0⟩⟩
  have hwalk : m.updateTwccHashTable.2 = (m.reportedSeqNums.foldl visit s).estimation := rfl
  have hnodup := m.reportedSeqNums_nodup
  cases hlast : m.covered.getLast? with
  | none =>
    -- nothing has been covered
    have hempty : m.covered = [] := List.getLast?_eq_none_iff.mp hlast
    rw [hwalk, duration_walk_of_recordsAt_nil (s := s) hnodup hempty] at hduration
    exact absurd rfl hduration
  | some last =>
    cases hprevious : m.previousRecord with
    | none =>
      have hkey : m.twccRtpPktInfosHashTable (m.prevReportedBaseSeqNum.toUInt64 - 1) = none := by
        rw [previousRecord] at hprevious
        split_ifs at hprevious with hzero
        · exact table_before_zero hkeys hzero
        · rw [toUInt64_sub_one hzero]
          exact hprevious
      obtain ⟨first, hfirst, heq⟩ := duration_walk_of_none (s := s) rfl hkeys hkey hnodup hlast
      refine ⟨first, ?_, last, hlast, heq⟩
      rw [startRecord, hprevious]
      exact hfirst
    | some previous =>
      -- the range is not empty, so that its first number finds the start
      obtain ⟨n, hn⟩ : ∃ n, (m.lastReportedSeqNum + 1 - m.prevReportedBaseSeqNum).toNat =
          n + 1 := by
        apply Nat.exists_eq_succ_of_ne_zero
        intro hzero
        have hempty : m.covered = [] := by
          rw [covered, reportedSeqNums, hzero]
          rfl
        rw [hempty] at hlast
        exact nomatch hlast
      have hnumbers : m.reportedSeqNums = m.prevReportedBaseSeqNum ::
          seqNumsFrom (m.prevReportedBaseSeqNum + 1) n := by
        rw [reportedSeqNums, hn]
        exact seqNumsFrom_succ m.prevReportedBaseSeqNum n
      obtain ⟨start, hmem, hstart⟩ := recordStart_of_previous (s := s) rfl hprevious
      have hrecorded : (recordStart s m.prevReportedBaseSeqNum).localStartTimeRecorded = true := by
        rw [hstart]
      refine ⟨start, hmem, last, hlast, ?_⟩
      have hcovered : (m.recordsAt m.reportedSeqNums).getLast? = some last := hlast
      rw [hnumbers] at hnodup hcovered
      rw [hwalk, hnumbers, List.foldl_cons, visit_recordStart hrecorded, ← List.foldl_cons,
        duration_walk hrecorded hnodup, hstart, hcovered]
      rfl

/-! ### The records of a run -/

/-- What the table knows about the packets of a run. -/
structure Sound (events : List TwccEvent) (m : TwccManager) : Prop where
  nextAddr : m.nextAddr = (sentPackets events).length
  record : ∀ key info, m.twccRtpPktInfosHashTable key = some info →
  IsRecord (sentPackets events) key info
  status : ∀ key info, m.twccRtpPktInfosHashTable key = some info →
    info.remoteTimeKvs ≠ twccPacketLostTime → ReceivedStatus events info.addr

theorem IsRecord.append {sent : List (RtpPacket × Nat)} {key : UInt64} {info : TwccRtpPacketInfo}
    (h : IsRecord sent key info) (more : List (RtpPacket × Nat)) :
    IsRecord (sent ++ more) key info := by
  obtain ⟨p, sentTime, hsent, hrest⟩ := h
  refine ⟨p, sentTime, ?_, hrest⟩
  rw [List.getElem?_append_left (List.getElem?_eq_some_iff.mp hsent).1]
  exact hsent

theorem ReceivedStatus.append {events : List TwccEvent} {addr : Nat}
    (h : ReceivedStatus events addr) (more : List TwccEvent) :
    ReceivedStatus (events ++ more) addr := by
  obtain ⟨past, payload, later, seqNum, info, rfl, hrest⟩ := h
  exact ⟨past, payload, later ++ more, seqNum, info, by
    rw [List.append_assoc, List.cons_append], hrest⟩

theorem sentPackets_append (events more : List TwccEvent) :
    sentPackets (events ++ more) = sentPackets events ++ sentPackets more :=
  List.filterMap_append

theorem Accounted.append {events : List TwccEvent} {r : TwccReport} (h : Accounted events r)
    (more : List TwccEvent) : Accounted (events ++ more) r where
  sent := by
    intro info hinfo
    obtain ⟨key, hkey⟩ := h.sent info hinfo
    rw [sentPackets_append]
    exact ⟨key, hkey.append _⟩
  once := h.once
  counts := h.counts
  status := fun info hinfo => (h.status info hinfo).append more
  receivedBytes_le := h.receivedBytes_le
  receivedPackets_le := h.receivedPackets_le
  duration := h.duration

theorem IsRecord.key_eq {sent : List (RtpPacket × Nat)} {key key' : UInt64}
    {info info' : TwccRtpPacketInfo} (h : IsRecord sent key info) (h' : IsRecord sent key' info')
    (haddr : info.addr = info'.addr) :
    key = key' := by
  obtain ⟨p, sentTime, hsent, hkey, -⟩ := h
  obtain ⟨p', sentTime', hsent', hkey', -⟩ := h'
  rw [haddr, hsent'] at hsent
  obtain ⟨rfl, rfl⟩ := Prod.mk.inj (Option.some.inj hsent)
  rw [hkey, hkey']

theorem Sound.keys {events : List TwccEvent} {m : TwccManager} (h : Sound events m) (key : UInt64)
    (info : TwccRtpPacketInfo) (hinfo : m.twccRtpPktInfosHashTable key = some info) :
    ∃ seqNum : UInt16, key = seqNum.toUInt64 := by
  obtain ⟨p, sentTime, -, hkey, -⟩ := h.record key info hinfo
  exact ⟨_, hkey⟩

theorem Sound.packetSent {events : List TwccEvent} {m : TwccManager} (h : Sound events m)
    (p : RtpPacket) (sentTime : Nat) :
    Sound (events ++ [.packetSent p sentTime]) (m.twccManagerOnPacketSent p sentTime) where
  nextAddr := by
    rw [nextAddr_packetSent, sentPackets_append, List.length_append, h.nextAddr]
    by_cases hprofile : p.header.extensionProfile = twccExtProfile <;> simp [sentPackets, hprofile]
  record := by
    intro key info hinfo
    rw [sentPackets_append]
    rcases table_packetSent hinfo with ⟨hprofile, hkey, rfl⟩ | hold
    · refine ⟨p, sentTime, ?_, hkey, rfl, rfl⟩
      have haddr : (m.infoOf p sentTime).addr = (sentPackets events).length := h.nextAddr
      rw [haddr, List.getElem?_append_right (Nat.le_refl _), Nat.sub_self]
      simp [sentPackets, hprofile]
    · exact (h.record key info hold).append _
  status := by
    intro key info hinfo hreceived
    rcases table_packetSent hinfo with ⟨-, -, rfl⟩ | hold
    · exact absurd rfl hreceived
    · exact (h.status key info hold hreceived).append _

/-- Reading a feedback packet adds its statuses to those of the run. -/
theorem Sound.parsed {events : List TwccEvent} (h : Sound events (events.foldl step create))
    {payload : List UInt8} {parsed : TwccManager}
    (hparsed : (events.foldl step create).parseRtcpTwccPacket payload = .ok parsed) :
    Sound (events ++ [.feedback payload]) parsed := by
  obtain ⟨baseSeqNum, times, hread, rfl⟩ := parseRtcpTwccPacket_eq_ok_iff.mp hparsed
  have hsent : sentPackets (events ++ [.feedback payload]) = sentPackets events := by
    rw [sentPackets_append]
    exact List.append_nil _
  constructor
  · rw [reportAll_frame, hsent]
    exact h.nextAddr
  · intro key info' hinfo'
    obtain ⟨info, hinfo, hcases⟩ := reportAll_cases hinfo'
    have hrecord := h.record key info hinfo
    rw [hsent]
    rcases hcases with rfl | ⟨i, time, -, -, rfl⟩
    · exact hrecord
    · exact hrecord
  · intro key info' hinfo' hreceived
    obtain ⟨info, hinfo, hcases⟩ := reportAll_cases hinfo'
    rcases hcases with rfl | ⟨i, time, htime, rfl, rfl⟩
    · exact (h.status key info' hinfo hreceived).append _
    · exact ⟨events, payload, [], _, info, rfl, hinfo, rfl, baseSeqNum, times, i, time, hread,
        htime, hreceived, rfl⟩

theorem table_updateTwccHashTable {m : TwccManager} {key : UInt64} {info : TwccRtpPacketInfo}
    (h : m.updateTwccHashTable.1.twccRtpPktInfosHashTable key = some info) :
    m.twccRtpPktInfosHashTable key = some info := by
  rw [updateTwccHashTable_manager, table_walk] at h
  split_ifs at h
  · exact (Option.filter_eq_some_iff.mp h).1
  · exact h

theorem Sound.updated {events : List TwccEvent} {m : TwccManager} (h : Sound events m) :
    Sound events m.updateTwccHashTable.1 where
  nextAddr := by
    rw [updateTwccHashTable_manager, walk_frame]
    exact h.nextAddr
  record := fun key info hinfo => h.record key info (table_updateTwccHashTable hinfo)
  status := fun key info hinfo => h.status key info (table_updateTwccHashTable hinfo)

theorem step_feedback (m : TwccManager) (payload : List UInt8) :
    (∃ parsed, m.parseRtcpTwccPacket payload = .ok parsed ∧
      m.step (.feedback payload) = parsed.updateTwccHashTable.1) ∨
    (∃ e, m.parseRtcpTwccPacket payload = .error e) ∧ m.step (.feedback payload) = m := by
  cases hparsed : m.parseRtcpTwccPacket payload with
  | ok parsed => exact .inl ⟨parsed, rfl, by
    simp [step, handle, onRtcpTwccPacket_eq, hparsed, bind, Except.bind]⟩
  | error e => exact .inr ⟨⟨e, rfl⟩, by
    simp [step, handle, onRtcpTwccPacket_eq, hparsed, bind, Except.bind]⟩

theorem sound_run (events : List TwccEvent) : Sound events (events.foldl step create) := by
  induction events using List.reverseRecOn with
  | nil =>
    constructor
    · rfl
    · intro key info h
      exact nomatch h
    · intro key info h
      exact nomatch h
  | append_singleton events event ih =>
    rw [List.foldl_concat]
    cases event with
    | packetSent p sentTime => exact ih.packetSent p sentTime
    | feedback payload =>
      rcases step_feedback (events.foldl step create) payload with ⟨parsed, hparsed, hstep⟩ | ⟨-,
        hstep⟩
      · rw [hstep]
        exact (ih.parsed hparsed).updated
      · rw [hstep]
        constructor
        · rw [sentPackets_append, List.length_append]
          exact ih.nextAddr
        · intro key info hinfo
          rw [sentPackets_append]
          exact (ih.record key info hinfo).append _
        · intro key info hinfo hreceived
          exact (ih.status key info hinfo hreceived).append _

/-! ### One report -/

theorem reportOf_eq_some_iff {m : TwccManager} {event : TwccEvent} {r : TwccReport} :
    m.reportOf event = some r ↔
      ∃ payload, event = .feedback payload ∧ m.parseRtcpTwccPacket payload = .ok r.manager ∧
        r.manager.updateTwccHashTable.2 = r.estimation ∧ r.estimation.duration > 0 := by
  cases event with
  | packetSent p sentTime =>
    constructor
    · intro h
      cases h
    · rintro ⟨payload, h, -⟩
      cases h
  | feedback payload =>
    obtain ⟨manager, estimation⟩ := r
    cases hparsed : m.parseRtcpTwccPacket payload with
    | error e => simp [reportOf, hparsed]
    | ok parsed =>
      have hcall : (m.handle (.feedback payload)).2 =
          if parsed.updateTwccHashTable.2.duration > 0 then some parsed.updateTwccHashTable.2
            else none := by
        simp [handle, onRtcpTwccPacket_eq, hparsed, bind, Except.bind]
      have hreport : m.reportOf (.feedback payload) =
          ((m.handle (.feedback payload)).2.map fun estimation => ⟨parsed, estimation⟩) := by
        simp only [reportOf, hparsed]
      rw [hreport, hcall]
      constructor
      · intro h
        split_ifs at h with hpos
        · obtain ⟨rfl, rfl⟩ := TwccReport.mk.inj (Option.some.inj h)
          exact ⟨payload, rfl, hparsed, rfl, hpos⟩
        · cases h
      · rintro ⟨payload', hpayload, hparsed', hestimation, hpos⟩
        obtain rfl := TwccEvent.feedback.inj hpayload
        obtain rfl : parsed = manager := Except.ok.inj (hparsed.symm.trans hparsed')
        obtain rfl : parsed.updateTwccHashTable.2 = estimation := hestimation
        rw [if_pos hpos]
        rfl

/-- The reports are the calls of `onSenderBandwidthEstimation`. -/
theorem reportOf_estimation (m : TwccManager) (event : TwccEvent) :
    (m.reportOf event).map (·.estimation) = (m.handle event).2 := by
  cases event with
  | packetSent p sentTime => rfl
  | feedback payload =>
    cases hparsed : m.parseRtcpTwccPacket payload with
    | error e => simp [reportOf, handle, onRtcpTwccPacket_eq, hparsed, bind, Except.bind]
    | ok parsed =>
      rw [reportOf, hparsed, Option.map_map]
      exact Option.map_id'

theorem covered_table {m : TwccManager} {info : TwccRtpPacketInfo} (h : info ∈ m.covered) :
    ∃ seqNum ∈ m.reportedSeqNums, m.twccRtpPktInfosHashTable seqNum.toUInt64 = some info :=
  List.mem_filterMap.mp h

theorem accounted_reportOf {events : List TwccEvent} {event : TwccEvent} {r : TwccReport}
    (h : (events.foldl step create).reportOf event = some r) : Accounted (events ++ [event]) r := by
  obtain ⟨payload, rfl, hparsed, hestimation, hpos⟩ := reportOf_eq_some_iff.mp h
  have hsound := (sound_run events).parsed hparsed
  have hcounts := hestimation ▸ r.manager.updateTwccHashTable_counts
  constructor
  · intro info hinfo
    obtain ⟨seqNum, -, htable⟩ := covered_table hinfo
    exact ⟨_, hsound.record _ info htable⟩
  · rw [covered, recordsAt, List.map_filterMap]
    apply List.Nodup.filterMap
    · intro seqNum seqNum' addr haddr haddr'
      obtain ⟨info, hinfo, rfl⟩ := Option.map_eq_some_iff.mp haddr
      obtain ⟨info', hinfo', heq⟩ := Option.map_eq_some_iff.mp haddr'
      exact toUInt64_inj.mp ((hsound.record _ info hinfo).key_eq
        (hsound.record _ info' hinfo') heq.symm)
    · exact r.manager.reportedSeqNums_nodup
  · exact hcounts
  · intro info hinfo
    obtain ⟨hcovered, hreceived⟩ := List.mem_filter.mp hinfo
    obtain ⟨seqNum, -, htable⟩ := covered_table hcovered
    exact hsound.status _ info htable (bne_iff_ne.mp hreceived)
  · rw [hcounts.receivedBytes, hcounts.sentBytes]
    exact (List.filter_sublist.map _).sum_le_sum fun _ _ => Nat.zero_le _
  · rw [hcounts.receivedPackets, hcounts.sentPackets]
    exact List.length_filter_le ..
  · rw [← hestimation] at hpos ⊢
    exact spans_updateTwccHashTable hsound.keys (ne_of_gt hpos)

/-! ### All reports of a run -/

/-- The packet can still be covered by a report: it has not been sent yet, or it is in the table. -/
def Live (m : TwccManager) (addr : Nat) : Prop :=
  m.nextAddr ≤ addr ∨ ∃ key info, m.twccRtpPktInfosHashTable key = some info ∧ info.addr = addr

/-- The packets that can be covered after reading a feedback packet could be before. -/
theorem Live.of_parsed {m parsed : TwccManager} {payload : List UInt8} {addr : Nat}
    (hparsed : m.parseRtcpTwccPacket payload = .ok parsed) (h : parsed.Live addr) :
    m.Live addr := by
  obtain ⟨baseSeqNum, times, -, rfl⟩ := parseRtcpTwccPacket_eq_ok_iff.mp hparsed
  rcases h with hnext | ⟨key, info', hinfo', rfl⟩
  · left
    rw [reportAll_frame] at hnext
    exact hnext
  · obtain ⟨info, hinfo, rfl | ⟨i, time, -, -, rfl⟩⟩ := reportAll_cases hinfo'
    · exact .inr ⟨key, info', hinfo, rfl⟩
    · exact .inr ⟨key, info, hinfo, rfl⟩

theorem Live.of_updated {m : TwccManager} {addr : Nat} (h : m.updateTwccHashTable.1.Live addr) :
    m.Live addr := by
  rcases h with hnext | ⟨key, info, hinfo, rfl⟩
  · left
    rw [updateTwccHashTable_manager, walk_frame] at hnext
    exact hnext
  · exact .inr ⟨key, info, table_updateTwccHashTable hinfo, rfl⟩

/-- **The step lemma**: no packet comes back. -/
theorem Live.of_step {m : TwccManager} {event : TwccEvent} {addr : Nat}
    (h : (m.step event).Live addr) :
    m.Live addr := by
  cases event with
  | packetSent p sentTime =>
    rcases h with hnext | ⟨key, info, hinfo, rfl⟩
    · left
      change (m.twccManagerOnPacketSent p sentTime).nextAddr ≤ addr at hnext
      rw [nextAddr_packetSent] at hnext
      split_ifs at hnext <;> omega
    · rcases table_packetSent hinfo with ⟨-, -, rfl⟩ | hold
      · exact .inl (Nat.le_refl _)
      · exact .inr ⟨key, info, hold, rfl⟩
  | feedback payload =>
    rcases step_feedback m payload with ⟨parsed, hparsed, hstep⟩ | ⟨-, hstep⟩
    · rw [hstep] at h
      exact h.of_updated.of_parsed hparsed
    · rwa [hstep] at h

theorem live_of_mem_reports {m : TwccManager} {events : List TwccEvent} {r : TwccReport}
    (hr : r ∈ m.reports events) {info : TwccRtpPacketInfo} (hinfo : info ∈ r.manager.covered) :
    m.Live info.addr := by
  induction events generalizing m with
  | nil => exact nomatch hr
  | cons event events ih =>
    rcases List.mem_append.mp hr with hfirst | hlater
    · obtain ⟨payload, -, hparsed, -⟩ := reportOf_eq_some_iff.mp (Option.mem_toList.mp hfirst)
      obtain ⟨seqNum, -, htable⟩ := covered_table hinfo
      exact Live.of_parsed hparsed (.inr ⟨_, info, htable, rfl⟩)
    · exact (ih hlater).of_step

theorem not_live_of_received {events : List TwccEvent} {event : TwccEvent} {r : TwccReport}
    (hr : (events.foldl step create).reportOf event = some r) {info : TwccRtpPacketInfo}
    (hinfo : info ∈ r.manager.received) :
    ¬ ((events.foldl step create).step event).Live info.addr := by
  obtain ⟨payload, rfl, hparsed, -⟩ := reportOf_eq_some_iff.mp hr
  have hsound := (sound_run events).parsed hparsed
  have hstep : (events.foldl step create).step (.feedback payload) =
      r.manager.updateTwccHashTable.1 := by
    rcases step_feedback (events.foldl step create) payload with ⟨parsed, hparsed',
      hstep⟩ | ⟨⟨e, he⟩, -⟩
    · rw [hstep, Except.ok.inj (hparsed'.symm.trans hparsed)]
    · exact nomatch he.symm.trans hparsed
  obtain ⟨hcovered, hreceived⟩ := List.mem_filter.mp hinfo
  obtain ⟨seqNum, hseqNum, htable⟩ := covered_table hcovered
  have hrecord := hsound.record _ info htable
  rw [hstep]
  rintro (hnext | ⟨key, info', hinfo', haddr⟩)
  · -- it has been sent
    obtain ⟨p, sentTime, hsent, -⟩ := hrecord
    have hlt := (List.getElem?_eq_some_iff.mp hsent).1
    rw [updateTwccHashTable_manager, walk_frame] at hnext
    change r.manager.nextAddr ≤ info.addr at hnext
    rw [hsound.nextAddr] at hnext
    omega
  · -- it has been removed from its number
    have hkey := (hsound.record key info' (table_updateTwccHashTable hinfo')).key_eq hrecord haddr
    rw [hkey, updateTwccHashTable_manager, table_walk, if_pos ⟨seqNum, hseqNum, rfl⟩,
      htable] at hinfo'
    rw [Option.filter_some, hreceived] at hinfo'
    exact nomatch hinfo'

theorem reports_pairwise (events later : List TwccEvent) :
    ((events.foldl step create).reports later).Pairwise fun r r' =>
      ∀ info ∈ r.manager.received, ∀ info' ∈ r'.manager.covered, info.addr ≠ info'.addr := by
  induction later generalizing events with
  | nil => exact .nil
  | cons event later ih =>
    have hrest := ih (events ++ [event])
    rw [List.foldl_concat] at hrest
    refine List.pairwise_append.mpr ⟨?_, hrest, ?_⟩
    · cases (events.foldl step create).reportOf event with
      | none => exact .nil
      | some r => exact List.pairwise_singleton _ r
    · intro r hr r' hr' info hinfo info' hinfo' haddr
      apply not_live_of_received (Option.mem_toList.mp hr) hinfo
      rw [haddr]
      exact live_of_mem_reports hr' hinfo'

theorem mem_reports {m : TwccManager} {events : List TwccEvent} {r : TwccReport}
    (h : r ∈ m.reports events) :
    ∃ past event later, events = past ++ event :: later ∧ (past.foldl step m).reportOf event =
      some r := by
  induction events generalizing m with
  | nil => exact nomatch h
  | cons event events ih =>
    rcases List.mem_append.mp h with hfirst | hlater
    · exact ⟨[], event, events, rfl, Option.mem_toList.mp hfirst⟩
    · obtain ⟨past, event', later, rfl, hr⟩ := ih hlater
      exact ⟨event :: past, event', later, rfl, hr⟩

def numberedPacket (seqNum : UInt8) : RtpPacket :=
  let header : RtpPacketHeader :=
    { version := 2, padding := false, extension := true, csrcCount := 0
      marker := false, payloadType := 96, sequenceNumber := 0, timestamp := 0, ssrc := 1
      csrcArray := [], extensionProfile := twccExtProfile
      extensionLength := 4, extensionPayload := [0x10, 0, seqNum, 0] }
  { addr := 0, header := header, payload := [0, 0, 0], payloadLength := 3, rawPacket := [] }

/-- Three packets are sent, and a feedback packet that comes twice reports the second and the third
as lost. -/
def lostTwice : List TwccEvent :=
  let payload := [0, 0, 0, 1, 0, 0, 0, 1, 0, 0, 0, 3, 0, 0, 1, 0, 0x20, 1, 0, 2, 4, 0, 0, 0]
  [.packetSent (numberedPacket 0) 10, .packetSent (numberedPacket 1) 20,
  .packetSent (numberedPacket 2) 30, .feedback payload, .feedback payload]

/-- Three packets are sent, and a feedback packet reports the second and the third as received. -/
def restReported : List TwccEvent :=
  [.packetSent (numberedPacket 0) 10, .packetSent (numberedPacket 1) 20,
    .packetSent (numberedPacket 2) 30,
    .feedback [0, 0, 0, 1, 0, 0, 0, 1, 0, 1, 0, 2, 0, 0, 1, 0, 0x20, 2, 4, 4]]

end TwccManager

end KvsWebrtc
