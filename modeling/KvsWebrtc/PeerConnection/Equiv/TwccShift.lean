import KvsWebrtc.Common.Run
import KvsWebrtc.PeerConnection.Equiv.TwccAccounting

/-!
# Shifted sequence numbers

`Shifted k` relates an event to one with `k` added to its sequence numbers, modulo `2^16`.  Two
managers that have seen events so related have the same records, at shifted numbers
(`ShiftedManager`), and what they report differs in two cases only.  The key in front of that of
number zero is not the key of 65535, so that the packet before number zero is not found.  And the
last number that has been reported is zero before there is one.

So the reports are the same along a run if the first feedback packet stores a time, and no feedback
packet starts at zero in one of the runs only while the packet before is in the table
(`estimations_shifted`).
-/

namespace KvsWebrtc.TwccManager

open SeqNum Twcc

/-! ### Shifted events -/

def baseSeqNumOf (payload : List UInt8) : UInt16 := UInt16.ofNat (beNat (bytesAt payload 8 2))

/-- An event, and the event with `k` added to its sequence numbers. -/
inductive Shifted (k : UInt16) : TwccEvent → TwccEvent → Prop
  | packetSent {p p' : RtpPacket} (sentTime : Nat)
    (extensionProfile : p'.header.extensionProfile = p.header.extensionProfile)
    (seqNum : p.header.extensionProfile = twccExtProfile →
      twccSeqNum p'.header.extensionPayload = twccSeqNum p.header.extensionPayload + k)
    (payloadLength : p'.payloadLength = p.payloadLength) :
    Shifted k (.packetSent p sentTime) (.packetSent p' sentTime)
  | feedback {payload payload' : List UInt8} (length : payload'.length = payload.length)
    (drop : payload'.drop 10 = payload.drop 10)
    (base : 10 ≤ payload.length → baseSeqNumOf payload' = baseSeqNumOf payload + k) :
    Shifted k (.feedback payload) (.feedback payload')

/-- Reading behind the base sequence number. -/
theorem fieldAt_of_drop {payload payload' : List UInt8} (hlength : payload'.length = payload.length)
    (hdrop : payload'.drop 10 = payload.drop 10) {i : Nat} (hi : 10 ≤ i) (n : Nat) :
    fieldAt payload' i n = fieldAt payload i n := by
  obtain ⟨j, rfl⟩ := Nat.exists_eq_add_of_le hi
  rw [fieldAt, fieldAt, hlength, bytesAt, bytesAt, ← List.drop_drop, ← List.drop_drop, hdrop]

theorem recvOffset_le_readStatus {payload : List UInt8} {symbol : Nat} {c c' : Cursor}
    {time : Option Nat} (h : readStatus payload symbol c = .ok (time, c')) :
    c.recvOffset ≤ c'.recvOffset := by
  have hreceive : ∀ recvOffset referenceTime recvDelta,
      (receive recvOffset referenceTime recvDelta).2.recvOffset = recvOffset := by
    intro recvOffset referenceTime recvDelta
    rw [receive]
    split_ifs <;> rfl
  rw [readStatus.eq_def] at h
  split at h
  · obtain ⟨-, rfl⟩ := Prod.mk.inj (Except.ok.inj h)
    exact Nat.le_refl _
  · obtain ⟨delta, -, h⟩ := bind_eq_ok_iff.mp h
    have hoffset := hreceive (c.recvOffset + 1) c.referenceTime (beNat delta)
    rw [Except.ok.inj h] at hoffset
    exact hoffset ▸ Nat.le_add_right c.recvOffset 1
  · obtain ⟨delta, -, h⟩ := bind_eq_ok_iff.mp h
    have hoffset := hreceive (c.recvOffset + 2) c.referenceTime (signed16 delta)
    rw [Except.ok.inj h] at hoffset
    exact hoffset ▸ Nat.le_add_right c.recvOffset 2
  · obtain ⟨-, rfl⟩ := Prod.mk.inj (Except.ok.inj h)
    exact Nat.le_refl _

theorem le_skipChunks {bytes : List UInt8} {packetsRemaining : Int} {chunkOffset offset : Nat}
    (h : skipChunks bytes packetsRemaining chunkOffset = .ok offset) : chunkOffset ≤ offset := by
  fun_induction skipChunks bytes packetsRemaining chunkOffset with
  | case1 => exact (Except.ok.inj h).le
  | case2 => cases h
  | case3 => exact (Except.ok.inj h).le
  | case4 hi lo rest packetsRemaining chunkOffset hpos packetChunk packets ih =>
    exact (Nat.le_add_right chunkOffset 2).trans (ih h)
  | case5 => exact (Except.ok.inj h).le

theorem readStatuses_of_drop {payload payload' : List UInt8}
    (hlength : payload'.length = payload.length) (hdrop : payload'.drop 10 = payload.drop 10)
    (symbols : List Nat) {c : Cursor} (hc : 10 ≤ c.recvOffset) :
    readStatuses payload' symbols c = readStatuses payload symbols c := by
  induction symbols generalizing c with
  | nil => rfl
  | cons symbol symbols ih =>
    have hstatus : readStatus payload' symbol c = readStatus payload symbol c := by
      rw [readStatus.eq_def, readStatus.eq_def]
      simp only [uint16At, fieldAt_of_drop hlength hdrop hc]
    rw [readStatuses, readStatuses, hstatus]
    cases hread : readStatus payload symbol c with
    | error e => rfl
    | ok read =>
      obtain ⟨time, c'⟩ := read
      have hrest := ih (hc.trans (recvOffset_le_readStatus hread))
      simp only [bind, Except.bind, hrest]

/-- **A shifted feedback packet** says the same from another number on. -/
theorem readFeedback_shifted {k : UInt16} {payload payload' : List UInt8}
    (h : Shifted k (.feedback payload) (.feedback payload')) :
    readFeedback payload' = (readFeedback payload).map fun read => (read.1 + k, read.2) := by
  obtain ⟨⟩ | ⟨hlength, hdrop, hbase⟩ := h
  have hfield := fun {i} (hi : 10 ≤ i) n => fieldAt_of_drop hlength hdrop hi n
  have hchunks : payload'.drop 16 = payload.drop 16 := by
    rw [show 16 = 10 + 6 from rfl, ← List.drop_drop, ← List.drop_drop, hdrop]
  rw [readFeedback, readFeedback]
  by_cases hlong : 10 ≤ payload.length
  · have hread : ∀ {bytes : List UInt8}, 10 ≤ bytes.length →
        uint16At bytes 8 = .ok (beNat (bytesAt bytes 8 2)) := by
      intro bytes hbytes
      rw [uint16At, fieldAt, if_pos hbytes]
      rfl
    have hcount : uint16At payload' 10 = uint16At payload 10 :=
      congrArg (Except.map beNat) (hfield (Nat.le_refl 10) 2)
    rw [hread hlong, hread (hlength ▸ hlong), hcount, hfield (by omega), hchunks]
    cases uint16At payload 10 with
    | error e => rfl
    | ok count =>
    cases fieldAt payload 12 3 with
    | error e => rfl
    | ok reference =>
    cases hskip : skipChunks (payload.drop 16) count 16 with
    | error e => simp only [hskip, bind, Except.bind, Except.map]
    | ok recvOffset =>
    cases hsymbols : symbolsIn (payload.drop 16) count with
    | error e => simp only [hskip, hsymbols, bind, Except.bind, Except.map]
    | ok symbols =>
    have hstatuses := readStatuses_of_drop hlength hdrop symbols
      (c := ⟨recvOffset, referenceTimeOf (beNat reference)⟩)
      ((le_skipChunks hskip).trans' (by omega))
    simp only [hskip, hsymbols, hstatuses, bind, Except.bind]
    cases readStatuses payload symbols ⟨recvOffset, referenceTimeOf (beNat reference)⟩ with
    | error e => rfl
    | ok statuses => exact congrArg (fun base => Except.ok (base, statuses.1)) (hbase hlong)
  · have hread : ∀ {bytes : List UInt8}, ¬ 10 ≤ bytes.length →
        uint16At bytes 8 = .error .outOfBounds := by
      intro bytes hbytes
      rw [uint16At, fieldAt, if_neg hbytes]
      rfl
    rw [hread hlong, hread (hlength ▸ hlong)]
    rfl

/-! ### Shifted tables -/

def keyBeforeZero : UInt64 := (0 : UInt16).toUInt64 - 1

theorem toUInt64_ne_keyBeforeZero (seqNum : UInt16) : keyBeforeZero ≠ seqNum.toUInt64 := by
  intro h
  have hnat := congrArg UInt64.toNat h
  have hlt := seqNum.toNat_lt
  rw [UInt16.toNat_toUInt64, show keyBeforeZero.toNat = 2 ^ 64 - 1 from rfl] at hnat
  omega

theorem table_before {m : TwccManager} (h : m.twccRtpPktInfosHashTable keyBeforeZero = none)
    (seqNum : UInt16) : m.twccRtpPktInfosHashTable (seqNum.toUInt64 - 1) =
      if seqNum = 0 then none else m.twccRtpPktInfosHashTable (seqNum - 1).toUInt64 := by
  split_ifs with hzero
  · rw [hzero]
    exact h
  · rw [toUInt64_sub_one hzero]

/-- The tables have the same records, at shifted numbers, and none where there is no number. -/
structure ShiftedTable (k : UInt16) (m m' : TwccManager) : Prop where
  table : ∀ seqNum : UInt16,
    m'.twccRtpPktInfosHashTable (seqNum + k).toUInt64 = m.twccRtpPktInfosHashTable seqNum.toUInt64
  beforeZero : m.twccRtpPktInfosHashTable keyBeforeZero = none
  beforeZero' : m'.twccRtpPktInfosHashTable keyBeforeZero = none

namespace ShiftedTable

variable {k : UInt16} {m m' n n' : TwccManager}

theorem congr (h : ShiftedTable k m m')
    (hn : n.twccRtpPktInfosHashTable = m.twccRtpPktInfosHashTable)
    (hn' : n'.twccRtpPktInfosHashTable = m'.twccRtpPktInfosHashTable) : ShiftedTable k n n' :=
  ⟨fun seqNum => hn ▸ hn' ▸ h.table seqNum, hn ▸ h.beforeZero, hn' ▸ h.beforeZero'⟩

/-- The same record is put at a number and at the shifted one. -/
theorem update (h : ShiftedTable k m m') (seqNum : UInt16) (record : Option TwccRtpPacketInfo)
    (hn : n.twccRtpPktInfosHashTable =
      Function.update m.twccRtpPktInfosHashTable seqNum.toUInt64 record)
    (hn' : n'.twccRtpPktInfosHashTable =
      Function.update m'.twccRtpPktInfosHashTable (seqNum + k).toUInt64 record) :
      ShiftedTable k n n' := by
  refine ⟨fun other => ?_, ?_, ?_⟩
  · rw [hn, hn', Function.update_apply, Function.update_apply, h.table]
    simp only [toUInt64_inj, UInt16.add_left_inj]
  · rw [hn, Function.update_of_ne (toUInt64_ne_keyBeforeZero seqNum), h.beforeZero]
  · rw [hn', Function.update_of_ne (toUInt64_ne_keyBeforeZero _), h.beforeZero']

/-- **The packet before** a number, unless it has been lost sight of in one of the tables. -/
theorem before (h : ShiftedTable k m m') {seqNum : UInt16}
    (hbefore : (seqNum = 0 ↔ seqNum + k = 0) ∨
      m.twccRtpPktInfosHashTable (seqNum - 1).toUInt64 = none) :
    m'.twccRtpPktInfosHashTable ((seqNum + k).toUInt64 - 1) =
      m.twccRtpPktInfosHashTable (seqNum.toUInt64 - 1) := by
  have hprevious : m'.twccRtpPktInfosHashTable (seqNum + k - 1).toUInt64 =
      m.twccRtpPktInfosHashTable (seqNum - 1).toUInt64 := by
    rw [← h.table, UInt16.sub_eq_add_neg, UInt16.sub_eq_add_neg, UInt16.add_assoc,
      UInt16.add_comm k, UInt16.add_assoc]
  rw [table_before h.beforeZero', table_before h.beforeZero, hprevious]
  -- where only one of the numbers is zero, only one of the packets would be found
  split_ifs with hzero' hzero hzero
  · rfl
  · exact (hbefore.resolve_left fun hiff => hzero (hiff.mpr hzero')).symm
  · exact hbefore.resolve_left fun hiff => hzero' (hiff.mp hzero)
  · rfl

/-! ### The walk over the numbers of a report -/

/-- The variables of `updateTwccHashTable`, with the tables at shifted numbers. -/
structure Update (k : UInt16) (s s' : UpdateState) : Prop where
  table : ShiftedTable k s.manager s'.manager
  localStartTimeKvs : s'.localStartTimeKvs = s.localStartTimeKvs
  localStartTimeRecorded : s'.localStartTimeRecorded = s.localStartTimeRecorded
  estimation : s'.estimation = s.estimation

variable {s s' : UpdateState}

theorem Update.recordStart (h : Update k s s') {seqNum : UInt16}
    (hbefore : s.localStartTimeRecorded = false → (seqNum = 0 ↔ seqNum + k = 0) ∨
      s.manager.twccRtpPktInfosHashTable (seqNum - 1).toUInt64 = none) :
    Update k (TwccManager.recordStart s seqNum) (TwccManager.recordStart s' (seqNum + k)) := by
  rw [TwccManager.recordStart, TwccManager.recordStart, h.localStartTimeRecorded]
  cases hrecorded : s.localStartTimeRecorded with
  | true => exact h
  | false =>
    rw [if_neg Bool.false_ne_true, if_neg Bool.false_ne_true, h.table.before (hbefore hrecorded)]
    cases s.manager.twccRtpPktInfosHashTable (seqNum.toUInt64 - 1) with
    | none =>
      dsimp only
      rw [if_pos rfl, if_pos rfl, h.table.table]
      cases s.manager.twccRtpPktInfosHashTable seqNum.toUInt64 with
      | none => exact ⟨h.table, rfl, rfl, h.estimation⟩
      | some info => exact ⟨h.table, rfl, rfl, h.estimation⟩
    | some before =>
      dsimp only
      split_ifs
      · rw [h.table.table]
        cases s.manager.twccRtpPktInfosHashTable seqNum.toUInt64 with
        | none => exact ⟨h.table, rfl, rfl, h.estimation⟩
        | some info => exact ⟨h.table, rfl, rfl, h.estimation⟩
      · exact ⟨h.table, rfl, rfl, h.estimation⟩

theorem Update.countPacket (h : Update k s s') (seqNum : UInt16) :
    Update k (TwccManager.countPacket s seqNum) (TwccManager.countPacket s' (seqNum + k)) := by
  rw [TwccManager.countPacket, TwccManager.countPacket, h.table.table]
  cases s.manager.twccRtpPktInfosHashTable seqNum.toUInt64 with
  | none => exact h
  | some info =>
    dsimp only
    rw [h.estimation, h.localStartTimeKvs]
    split_ifs
    · exact ⟨h.table.update seqNum none rfl rfl, rfl, h.localStartTimeRecorded, rfl⟩
    · exact ⟨h.table, rfl, h.localStartTimeRecorded, rfl⟩

/-- A round finds the start of the interval, unless there is no packet with its number. -/
theorem recorded_recordStart {s : UpdateState} {seqNum : UInt16} {info : TwccRtpPacketInfo}
    (h : s.manager.twccRtpPktInfosHashTable seqNum.toUInt64 = some info) :
    (TwccManager.recordStart s seqNum).localStartTimeRecorded = true := by
  rw [TwccManager.recordStart]
  split_ifs with hrecorded
  · exact hrecorded
  · cases s.manager.twccRtpPktInfosHashTable (seqNum.toUInt64 - 1) with
    | none =>
      dsimp only
      rw [if_pos rfl, h]
    | some before =>
      dsimp only
      split_ifs
      · rw [h]
      · rfl

theorem table_of_not_recorded {s : UpdateState} {seqNum : UInt16}
    (h : (visit s seqNum).localStartTimeRecorded = false) :
    (visit s seqNum).manager.twccRtpPktInfosHashTable seqNum.toUInt64 = none := by
  rw [visit_manager, table_acknowledge, if_pos rfl]
  cases hinfo : s.manager.twccRtpPktInfosHashTable seqNum.toUInt64 with
  | none => rfl
  | some info =>
    have hrecorded := recorded_recordStart hinfo
    rw [visit, TwccManager.countPacket, (recordStart_manager s seqNum).1, hinfo] at h
    dsimp only at h
    split_ifs at h
    · exact absurd (hrecorded.symm.trans h) (by decide)
    · exact absurd (hrecorded.symm.trans h) (by decide)

/-- **The walk** is the same at shifted numbers, if it starts in the same way. -/
theorem Update.walk {n : Nat} {base : UInt16} (h : Update k s s')
    (hbefore : s.localStartTimeRecorded = false → (base = 0 ↔ base + k = 0) ∨
      s.manager.twccRtpPktInfosHashTable (base - 1).toUInt64 = none) :
    Update k ((seqNumsFrom base n).foldl visit s) ((seqNumsFrom (base + k) n).foldl visit s') := by
  induction n generalizing base s s' with
  | zero => exact h
  | succ n ih =>
    rw [seqNumsFrom_succ, seqNumsFrom_succ, List.foldl_cons, List.foldl_cons, UInt16.add_assoc base,
      UInt16.add_comm k, ← UInt16.add_assoc]
    -- a round that has not found the start leaves no packet behind that the next one could find
    refine ih ((h.recordStart hbefore).countPacket base) fun hrecorded => .inr ?_
    rw [UInt16.add_sub_cancel]
    exact table_of_not_recorded hrecorded

/-! ### The times of a feedback packet -/

/-- **The times of a feedback packet** are stored at shifted numbers, and so is the last number, if
there is a time. -/
theorem reportAll {times : List (Option Nat)} {seqNum : UInt16} (h : ShiftedTable k m m')
    (hlast : m'.lastReportedSeqNum = m.lastReportedSeqNum + k ∨ times.any Option.isSome) :
    ShiftedTable k (m.reportAll seqNum times) (m'.reportAll (seqNum + k) times) ∧
      (m'.reportAll (seqNum + k) times).lastReportedSeqNum =
        (m.reportAll seqNum times).lastReportedSeqNum + k := by
  induction times generalizing m m' seqNum with
  | nil => exact ⟨h, hlast.resolve_right Bool.false_ne_true⟩
  | cons time times ih =>
    rw [TwccManager.reportAll, TwccManager.reportAll, UInt16.add_assoc, UInt16.add_comm k,
      ← UInt16.add_assoc]
    cases time with
    | none => exact ih h hlast
    | some time =>
      -- the last number is now one that has been shifted, whatever it was
      refine ih ?_ (.inl rfl)
      exact h.update seqNum _ rfl (congrArg (Function.update _ _) (congrArg _ (h.table seqNum)))

/-! ### The rolling window -/

theorem remove (h : ShiftedTable k m m') (seqNum : UInt16) (info : TwccRtpPacketInfo) :
    ShiftedTable k (m.remove seqNum info) (m'.remove (seqNum + k) info) :=
  h.update seqNum none rfl rfl

/-- **The loop over the window** goes on to shifted numbers. -/
theorem deletionLoop (h : ShiftedTable k m m') (sentTime n : Nat) (seqNum : UInt16) :
    ShiftedTable k (TwccManager.deletionLoop sentTime n m seqNum).1
        (TwccManager.deletionLoop sentTime n m' (seqNum + k)).1 ∧
      (TwccManager.deletionLoop sentTime n m' (seqNum + k)).2 =
        (TwccManager.deletionLoop sentTime n m seqNum).2 + k := by
  induction n generalizing m m' seqNum with
  | zero => exact ⟨h, rfl⟩
  | succ n ih =>
    have hnext : seqNum + k + 1 = seqNum + 1 + k := by
      rw [UInt16.add_assoc, UInt16.add_comm k, ← UInt16.add_assoc]
    rw [TwccManager.deletionLoop, TwccManager.deletionLoop, h.table, hnext]
    cases m.twccRtpPktInfosHashTable seqNum.toUInt64 with
    | none => exact ih h (seqNum + 1)
    | some info =>
      dsimp only
      split_ifs
      · exact ih (h.remove seqNum info) (seqNum + 1)
      · exact ⟨h, rfl⟩
      · exact ih h (seqNum + 1)

end ShiftedTable

theorem deletionLoop_of_none {sentTime n : Nat} {m : TwccManager} {seqNum : UInt16}
    (h : ∀ i < n, m.twccRtpPktInfosHashTable (seqNum + UInt16.ofNat i).toUInt64 = none) :
    deletionLoop sentTime (n + 1) m seqNum = deletionLoop sentTime 1 m
    (seqNum + UInt16.ofNat n) := by
  induction n generalizing seqNum with
  | zero => rw [show UInt16.ofNat 0 = 0 from rfl, UInt16.add_zero]
  | succ n ih =>
    have hnone := h 0 (Nat.succ_pos n)
    rw [show UInt16.ofNat 0 = 0 from rfl, UInt16.add_zero] at hnone
    rw [deletionLoop, hnone, add_ofNat_succ]
    refine ih fun i hi => ?_
    rw [← add_ofNat_succ]
    exact h (i + 1) (Nat.succ_lt_succ hi)

/-- **The first packet sent** is the first one in the window. -/
theorem packetSent_of_empty {m : TwccManager}
    (hempty : ∀ key, m.twccRtpPktInfosHashTable key = none) {p : RtpPacket}
    (hprofile : p.header.extensionProfile = twccExtProfile) (sentTime : Nat) :
    m.twccManagerOnPacketSent p sentTime =
      { m.stored p sentTime with
        firstSeqNumInRollingWindow := twccSeqNum p.header.extensionPayload } := by
  let seqNum := twccSeqNum p.header.extensionPayload
  have hreach : m.firstSeqNumInRollingWindow + UInt16.ofNat
      (seqNum - m.firstSeqNumInRollingWindow).toNat =
      seqNum := by
    rw [UInt16.ofNat_toNat, UInt16.add_comm, UInt16.sub_add_cancel]
  have hloop : (m.stored p sentTime).forget sentTime seqNum = (m.stored p sentTime, seqNum) := by
    have hinfo := (table_stored m p sentTime seqNum.toUInt64).trans (if_pos rfl)
    show TwccManager.deletionLoop sentTime ((seqNum - m.firstSeqNumInRollingWindow).toNat + 1) _
      m.firstSeqNumInRollingWindow = _
    rw [deletionLoop_of_none, hreach, TwccManager.deletionLoop, hinfo]
    · have hnow : ¬ sentTime - sentTime > twccEstimatorTimeWindow := by
        rw [Nat.sub_self]
        exact Nat.not_lt_zero _
      exact (if_pos (Nat.le_refl sentTime)).trans (if_neg hnow)
    · intro i hi
      rw [table_stored, if_neg, hempty]
      rw [toUInt64_inj]
      show _ ≠ seqNum
      rw [← hreach, ne_eq, add_ofNat_inj]
      · exact Nat.ne_of_lt hi
      · exact hi.trans (UInt16.toNat_lt _)
      · exact UInt16.toNat_lt _
  rw [packetSent_eq hprofile, hloop]

/-! ### Shifted managers -/

/-- The managers have the same records, at shifted numbers, and the same window, unless nothing has
been sent yet. -/
structure ShiftedManager (k : UInt16) (m m' : TwccManager) : Prop extends ShiftedTable k m m' where
  nextAddr : m'.nextAddr = m.nextAddr
  first : m'.firstSeqNumInRollingWindow = m.firstSeqNumInRollingWindow + k ∨
    (∀ key, m.twccRtpPktInfosHashTable key = none) ∧ ∀ key, m'.twccRtpPktInfosHashTable key = none

theorem add_sub_add_right (a b k : UInt16) : a + k - (b + k) = a - b := by
  have hsum : a + k = a - b + (b + k) := by rw [← UInt16.add_assoc, UInt16.sub_add_cancel]
  rw [hsum, UInt16.add_sub_cancel]

namespace ShiftedManager

variable {k : UInt16} {m m' : TwccManager}

theorem create (k : UInt16) : ShiftedManager k TwccManager.create TwccManager.create where
  table _ := rfl
  beforeZero := rfl
  beforeZero' := rfl
  nextAddr := rfl
  first := .inr ⟨fun _ => rfl, fun _ => rfl⟩

/-- **A packet is sent**, and the same packet with a shifted number. -/
theorem packetSent (h : ShiftedManager k m m') {p p' : RtpPacket} {sentTime : Nat}
    (hshift : Shifted k (.packetSent p sentTime) (.packetSent p' sentTime)) :
    ShiftedManager k (m.twccManagerOnPacketSent p sentTime)
    (m'.twccManagerOnPacketSent p' sentTime) := by
  obtain ⟨-, hprofile', hseqNum, hlength⟩ | - := hshift
  by_cases hprofile : p.header.extensionProfile = twccExtProfile
  · replace hseqNum := hseqNum hprofile
    have hstored : ShiftedTable k (m.stored p sentTime) (m'.stored p' sentTime) := by
      have hinfo : m'.infoOf p' sentTime = m.infoOf p sentTime := by
        rw [infoOf, infoOf, hlength, h.nextAddr]
      refine h.toShiftedTable.update (twccSeqNum p.header.extensionPayload)
        (some (m.infoOf p sentTime)) rfl ?_
      rw [← hseqNum, ← hinfo]
      rfl
    have hnextAddr : (m'.twccManagerOnPacketSent p' sentTime).nextAddr =
        (m.twccManagerOnPacketSent p sentTime).nextAddr := by
      rw [nextAddr_packetSent, nextAddr_packetSent, if_pos hprofile, if_pos (hprofile' ▸ hprofile),
        h.nextAddr]
    rcases h.first with hfirst | ⟨hempty, hempty'⟩
    · have hcount : (twccSeqNum p'.header.extensionPayload - m'.firstSeqNumInRollingWindow).toNat =
          (twccSeqNum p.header.extensionPayload - m.firstSeqNumInRollingWindow).toNat := by
        rw [hseqNum, hfirst, add_sub_add_right]
      have hloop : ShiftedTable k
            ((m.stored p sentTime).forget sentTime (twccSeqNum p.header.extensionPayload)).1
            ((m'.stored p' sentTime).forget sentTime (twccSeqNum p'.header.extensionPayload)).1 ∧
          ((m'.stored p' sentTime).forget sentTime (twccSeqNum p'.header.extensionPayload)).2 =
            ((m.stored p sentTime).forget sentTime (twccSeqNum p.header.extensionPayload)).2 +
            k := by
        show ShiftedTable k _ (TwccManager.deletionLoop sentTime
          ((twccSeqNum p'.header.extensionPayload - m'.firstSeqNumInRollingWindow).toNat + 1) _
            m'.firstSeqNumInRollingWindow).1 ∧ (TwccManager.deletionLoop sentTime
          ((twccSeqNum p'.header.extensionPayload - m'.firstSeqNumInRollingWindow).toNat + 1) _
            m'.firstSeqNumInRollingWindow).2 = _
        rw [hcount, hfirst]
        exact hstored.deletionLoop sentTime _ m.firstSeqNumInRollingWindow
      rw [packetSent_eq hprofile, packetSent_eq (hprofile' ▸ hprofile)] at hnextAddr ⊢
      exact ⟨hloop.1.congr rfl rfl, hnextAddr, .inl hloop.2⟩
    · -- both windows start at the first packet
      rw [packetSent_of_empty hempty hprofile] at hnextAddr ⊢
      rw [packetSent_of_empty hempty' (hprofile' ▸ hprofile)] at hnextAddr ⊢
      exact ⟨hstored.congr rfl rfl, hnextAddr, .inl hseqNum⟩
  · rw [twccManagerOnPacketSent, twccManagerOnPacketSent, if_neg hprofile,
      if_neg (hprofile' ▸ hprofile)]
    exact h

theorem lastReportedSeqNum_packetSent (m : TwccManager) (p : RtpPacket) (sentTime : Nat) :
    (m.twccManagerOnPacketSent p sentTime).lastReportedSeqNum = m.lastReportedSeqNum := by
  by_cases hprofile : p.header.extensionProfile = twccExtProfile
  · rw [packetSent_eq hprofile, forget, deletionLoop_frame]
    rfl
  · rw [twccManagerOnPacketSent, if_neg hprofile]

/-- **A feedback packet** is accounted for, and the same packet with a shifted base number. -/
theorem updateTwccHashTable (h : ShiftedManager k m m')
    (hlast : m'.lastReportedSeqNum = m.lastReportedSeqNum + k)
    (hbase : m'.prevReportedBaseSeqNum = m.prevReportedBaseSeqNum + k)
    (hbefore : (m.prevReportedBaseSeqNum = 0 ↔ m.prevReportedBaseSeqNum + k = 0) ∨
      m.twccRtpPktInfosHashTable (m.prevReportedBaseSeqNum - 1).toUInt64 = none) :
    ShiftedManager k m.updateTwccHashTable.1 m'.updateTwccHashTable.1 ∧
      m'.updateTwccHashTable.2 = m.updateTwccHashTable.2 ∧
      m'.updateTwccHashTable.1.lastReportedSeqNum = m.updateTwccHashTable.1.lastReportedSeqNum +
        k := by
  have hnumbers : m'.reportedSeqNums = seqNumsFrom (m.prevReportedBaseSeqNum + k)
      (m.lastReportedSeqNum + 1 - m.prevReportedBaseSeqNum).toNat := by
    have hcount : m'.lastReportedSeqNum + 1 - m'.prevReportedBaseSeqNum =
        m.lastReportedSeqNum + 1 - m.prevReportedBaseSeqNum := by
      rw [hlast, hbase, UInt16.add_assoc, UInt16.add_comm k, ← UInt16.add_assoc, add_sub_add_right]
    rw [reportedSeqNums, hcount, hbase]
    rfl
  have hstart : ShiftedTable.Update k ⟨m, twccPacketUnitializedTime, false, ⟨0, 0, 0, 0, 0⟩⟩
      ⟨m', twccPacketUnitializedTime, false, ⟨0, 0, 0, 0, 0⟩⟩ := ⟨h.toShiftedTable, rfl, rfl, rfl⟩
  have hwalk := hstart.walk (n := (m.lastReportedSeqNum + 1 - m.prevReportedBaseSeqNum).toNat)
    fun _ => hbefore
  rw [← hnumbers] at hwalk
  -- besides the table the managers stay as they are
  have hkept : ∀ m : TwccManager, m.updateTwccHashTable.1 =
      { m with
        twccRtpPktInfosHashTable := m.updateTwccHashTable.1.twccRtpPktInfosHashTable
        freed := m.updateTwccHashTable.1.freed } := by
    intro m
    rw [updateTwccHashTable_manager]
    exact walk_frame m m.reportedSeqNums
  have hempty : ∀ m : TwccManager, (∀ key, m.twccRtpPktInfosHashTable key = none) →
      ∀ key, m.updateTwccHashTable.1.twccRtpPktInfosHashTable key = none := by
    intro m hnone key
    rw [updateTwccHashTable_manager, table_walk, hnone key]
    exact ite_self _
  refine ⟨⟨hwalk.table, ?_, ?_⟩, hwalk.estimation, ?_⟩
  · rw [hkept m, hkept m']
    exact h.nextAddr
  · refine h.first.imp (fun hfirst => ?_) fun hnone => ⟨hempty m hnone.1, hempty m' hnone.2⟩
    rw [hkept m, hkept m']
    exact hfirst
  · rw [hkept m, hkept m']
    exact hlast

end ShiftedManager

/-! ### Feedback packets -/

/-- The manager when a feedback packet has been read. -/
def parsed (m : TwccManager) (baseSeqNum : UInt16) (times : List (Option Nat)) : TwccManager :=
  { m with prevReportedBaseSeqNum := baseSeqNum }.reportAll baseSeqNum times

theorem handle_of_read {m : TwccManager} {payload : List UInt8} {baseSeqNum : UInt16}
    {times : List (Option Nat)} (h : readFeedback payload = .ok (baseSeqNum, times)) :
    m.handle (.feedback payload) =
      ((m.parsed baseSeqNum times).updateTwccHashTable.1,
        if (m.parsed baseSeqNum times).updateTwccHashTable.2.duration > 0 then
          some (m.parsed baseSeqNum times).updateTwccHashTable.2 else none) := by
  have hparsed : m.parseRtcpTwccPacket payload = .ok (m.parsed baseSeqNum times) :=
    parseRtcpTwccPacket_eq_ok_iff.mpr ⟨baseSeqNum, times, h, rfl⟩
  simp only [handle, onRtcpTwccPacket_eq, hparsed, bind, Except.bind]

theorem handle_of_error {m : TwccManager} {payload : List UInt8} {e : Failure}
    (h : readFeedback payload = .error e) : m.handle (.feedback payload) = (m, none) := by
  cases hparsed : m.parseRtcpTwccPacket payload with
  | error e => simp only [handle, onRtcpTwccPacket_eq, hparsed, bind, Except.bind]
  | ok parsed =>
    obtain ⟨_, _, hread, -⟩ := parseRtcpTwccPacket_eq_ok_iff.mp hparsed
    cases h.symm.trans hread

/-- The base number of a feedback packet is zero in both runs or in none, or the packet before it is
not in the table. -/
def StartsAlike (k : UInt16) (m : TwccManager) : TwccEvent → Prop
  | .packetSent _ _ => True
  | .feedback payload =>
    match readFeedback payload with
    | .error _ => True
    | .ok (baseSeqNum, _) =>
      (baseSeqNum = 0 ↔ baseSeqNum + k = 0) ∨
        m.twccRtpPktInfosHashTable (baseSeqNum - 1).toUInt64 = none

/-- The first feedback packet that can be read stores a time. -/
def FirstStores : List TwccEvent → Prop
  | [] => True
  | .packetSent _ _ :: events => FirstStores events
  | .feedback payload :: events =>
    match readFeedback payload with
    | .error _ => FirstStores events
    | .ok (_, times) => times.any Option.isSome

/-- **A feedback packet that can be read**, and the same packet with a shifted base number. -/
theorem ShiftedManager.feedback {k : UInt16} {m m' : TwccManager} (h : ShiftedManager k m m')
    {payload payload' : List UInt8} {baseSeqNum : UInt16} {times : List (Option Nat)}
    (hread : readFeedback payload = .ok (baseSeqNum, times))
    (hread' : readFeedback payload' = .ok (baseSeqNum + k, times))
    (hlast : m'.lastReportedSeqNum = m.lastReportedSeqNum + k ∨ times.any Option.isSome)
    (hstarts : StartsAlike k m (.feedback payload)) :
    ShiftedManager k (m.step (.feedback payload)) (m'.step (.feedback payload')) ∧
      (m'.handle (.feedback payload')).2 = (m.handle (.feedback payload)).2 ∧
      (m'.step (.feedback payload')).lastReportedSeqNum =
        (m.step (.feedback payload)).lastReportedSeqNum + k := by
  have hbase : ShiftedTable k { m with prevReportedBaseSeqNum := baseSeqNum }
      { m' with prevReportedBaseSeqNum := baseSeqNum + k } := h.toShiftedTable.congr rfl rfl
  obtain ⟨htable, hparsedLast⟩ : ShiftedTable k (m.parsed baseSeqNum times)
        (m'.parsed (baseSeqNum + k) times) ∧
      (m'.parsed (baseSeqNum + k) times).lastReportedSeqNum =
        (m.parsed baseSeqNum times).lastReportedSeqNum + k := hbase.reportAll hlast
  -- the parser makes no records
  have hempty : ∀ {m : TwccManager} {baseSeqNum : UInt16} {key : UInt64},
      m.twccRtpPktInfosHashTable key = none →
        (m.parsed baseSeqNum times).twccRtpPktInfosHashTable key = none := by
    intro m baseSeqNum key hnone
    by_contra hsome
    obtain ⟨info', hinfo'⟩ := Option.ne_none_iff_exists'.mp hsome
    obtain ⟨info, hinfo, -⟩ := reportAll_cases hinfo'
    exact nomatch hnone.symm.trans hinfo
  -- nor does it change anything but the table and the two bounds
  have hkept : ∀ (m : TwccManager) (baseSeqNum : UInt16), m.parsed baseSeqNum times =
      { m with
        twccRtpPktInfosHashTable := (m.parsed baseSeqNum times).twccRtpPktInfosHashTable
        prevReportedBaseSeqNum := baseSeqNum
        lastReportedSeqNum := (m.parsed baseSeqNum times).lastReportedSeqNum } :=
    fun m baseSeqNum => reportAll_frame _ baseSeqNum times
  have hparsed : ShiftedManager k (m.parsed baseSeqNum times)
      (m'.parsed (baseSeqNum + k) times) := by
    refine ⟨htable, ?_, ?_⟩
    · rw [hkept m, hkept m']
      exact h.nextAddr
    · refine h.first.imp (fun hfirst => ?_) fun hnone =>
        ⟨fun key => hempty (hnone.1 key), fun key => hempty (hnone.2 key)⟩
      rw [hkept m, hkept m']
      exact hfirst
  have hprev : ∀ (m : TwccManager) (baseSeqNum : UInt16),
      (m.parsed baseSeqNum times).prevReportedBaseSeqNum = baseSeqNum := by
    intro m baseSeqNum
    rw [hkept m]
  rw [StartsAlike, hread] at hstarts
  obtain ⟨hmanager, hestimation, hupdatedLast⟩ := hparsed.updateTwccHashTable hparsedLast
    (by rw [hprev, hprev]) (by
      rw [hprev]
      exact hstarts.imp id fun hnone => hempty hnone)
  rw [step, step, handle_of_read hread, handle_of_read hread', hestimation]
  exact ⟨hmanager, rfl, hupdatedLast⟩

/-! ### Runs -/

theorem estimations_cons (m : TwccManager) (event : TwccEvent) (events : List TwccEvent) :
    (m.reports (event :: events)).map (·.estimation) =
      (m.handle event).2.toList ++ ((m.step event).reports events).map (·.estimation) := by
  rw [reports, List.map_append, ← reportOf_estimation]
  cases m.reportOf event <;> rfl

/-- **The estimations of a run** are those of the run with shifted numbers. -/
theorem ShiftedManager.reports {k : UInt16} {m m' : TwccManager} (h : ShiftedManager k m m')
    {events events' : List TwccEvent} (hshift : List.Forall₂ (Shifted k) events events')
    (hlast : m'.lastReportedSeqNum = m.lastReportedSeqNum + k ∨ FirstStores events)
    (hstarts : AllSteps step (StartsAlike k) m events) :
    (m'.reports events').map (·.estimation) = (m.reports events).map (·.estimation) := by
  induction hshift generalizing m m' with
  | nil => rfl
  | @cons event event' events events' hevent hrest ih =>
    rw [estimations_cons, estimations_cons]
    match event, event', hevent with
    | .packetSent p sentTime, .packetSent p' sentTime', hevent =>
      obtain rfl : sentTime' = sentTime := by
        cases hevent
        rfl
      have hlast' : (m'.twccManagerOnPacketSent p' sentTime').lastReportedSeqNum =
          (m.twccManagerOnPacketSent p sentTime').lastReportedSeqNum + k ∨ FirstStores events := by
        rw [lastReportedSeqNum_packetSent, lastReportedSeqNum_packetSent]
        exact hlast
      exact ih (h.packetSent hevent) hlast' hstarts.2
    | .feedback payload, .feedback payload', hevent =>
      have hreads := readFeedback_shifted hevent
      cases hread : readFeedback payload with
      | error e =>
        rw [hread] at hreads
        rw [FirstStores, hread] at hlast
        have hstarts := hstarts.2
        rw [step, handle_of_error hread] at hstarts
        -- the packet is dropped in both runs
        rw [step, step, handle_of_error hread, handle_of_error hreads, ih h hlast hstarts]
      | ok read =>
        rw [hread] at hreads
        rw [FirstStores, hread] at hlast
        obtain ⟨hmanager, hestimation, hlast'⟩ := h.feedback hread hreads hlast hstarts.1
        rw [hestimation, ih hmanager (.inl hlast') hstarts.2]

instance StartsAlike.decidable (k : UInt16) (m : TwccManager) : ∀ event, Decidable
    (StartsAlike k m event)
  | .packetSent _ _ => .isTrue trivial
  | .feedback payload =>
    match h : readFeedback payload with
    | .error _ => .isTrue (by rw [StartsAlike, h]; trivial)
    | .ok (baseSeqNum, _) =>
      decidable_of_iff ((baseSeqNum = 0 ↔ baseSeqNum + k = 0) ∨
        m.twccRtpPktInfosHashTable (baseSeqNum - 1).toUInt64 = none) (by rw [StartsAlike, h])

instance FirstStores.decidable : ∀ events, Decidable (FirstStores events)
  | [] => .isTrue trivial
  | .packetSent _ _ :: events => FirstStores.decidable events
  | .feedback payload :: events =>
    match h : readFeedback payload with
    | .error _ =>
      have := FirstStores.decidable events
      decidable_of_iff (FirstStores events) (by rw [FirstStores, h])
    | .ok (_, times) => decidable_of_iff (times.any Option.isSome) (by rw [FirstStores, h])

def lastNumberPacket : RtpPacket :=
  { numberedPacket 0 with
    header := { (numberedPacket 0).header with extensionPayload := [0x10, 0xFF, 0xFF, 0] } }

/-- A feedback packet that has received a number of packets from `baseSeqNum` on. -/
def receivedFrom (baseSeqNum : UInt16) (count : UInt8) : List UInt8 :=
  [0, 0, 0, 1, 0, 0, 0, 1] ++ beBytes 2 baseSeqNum.toNat ++ [0, count, 0, 0, 1, 0, 0x20, count] ++
    List.replicate count.toNat 4

end KvsWebrtc.TwccManager
