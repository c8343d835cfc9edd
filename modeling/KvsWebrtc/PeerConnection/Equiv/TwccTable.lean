import KvsWebrtc.PeerConnection.Equiv.Twcc
import Mathlib.Data.List.Nodup

/-!
# What feedback and sends do to the table

A walk of `updateTwccHashTable` over sequence numbers removes the records that have been received,
and its counts are sums over the records that it covers (`walk_counts`).  A send stores one record
and then forgets some: the table of `twccRollingWindowDeletion` is part of the one before, and what
has left it is freed.
-/

namespace KvsWebrtc.TwccManager

open SeqNum Twcc

/-! ### The numbers of a report -/

/-- The numbers of a report are different: there are at most 65535 of them. -/
theorem reportedSeqNums_nodup (m : TwccManager) : m.reportedSeqNums.Nodup := by
  apply List.Nodup.map_on
  · intro i hi j hj h
    have hcount := (m.lastReportedSeqNum + 1 - m.prevReportedBaseSeqNum).toNat_lt
    rw [List.mem_range] at hi hj
    exact (add_ofNat_inj (by omega) (by omega)).mp h
  · exact List.nodup_range

/-! ### A walk over sequence numbers -/

def isReceived (info : TwccRtpPacketInfo) : Bool := info.remoteTimeKvs != twccPacketLostTime

/-- A round of the loop of `updateTwccHashTable`. -/
def visit (s : UpdateState) (seqNum : UInt16) : UpdateState := countPacket
    (recordStart s seqNum) seqNum

def acknowledge (m : TwccManager) (seqNum : UInt16) : TwccManager :=
  match m.twccRtpPktInfosHashTable seqNum.toUInt64 with
  | none => m
  | some info => if isReceived info then m.remove seqNum info else m

def recordsAt (m : TwccManager) (seqNums : List UInt16) : List TwccRtpPacketInfo :=
  seqNums.filterMap fun seqNum => m.twccRtpPktInfosHashTable seqNum.toUInt64

def covered (m : TwccManager) : List TwccRtpPacketInfo := m.recordsAt m.reportedSeqNums

def received (m : TwccManager) : List TwccRtpPacketInfo := m.covered.filter isReceived

theorem table_remove (m : TwccManager) (seqNum : UInt16) (info : TwccRtpPacketInfo) (key : UInt64) :
    (m.remove seqNum info).twccRtpPktInfosHashTable key =
      if key = seqNum.toUInt64 then none else m.twccRtpPktInfosHashTable key :=
  Function.update_apply ..

theorem recordStart_manager (s : UpdateState) (seqNum : UInt16) :
    (recordStart s seqNum).manager = s.manager ∧ (recordStart s seqNum).estimation =
      s.estimation := by
  unfold recordStart
  split
  · exact ⟨rfl, rfl⟩
  · split <;> dsimp only <;> split
    · split <;> exact ⟨rfl, rfl⟩
    · exact ⟨rfl, rfl⟩
    · split <;> exact ⟨rfl, rfl⟩
    · exact ⟨rfl, rfl⟩

theorem visit_manager (s : UpdateState) (seqNum : UInt16) :
    (visit s seqNum).manager = s.manager.acknowledge seqNum := by
  rw [visit, countPacket, acknowledge, (recordStart_manager s seqNum).1]
  cases s.manager.twccRtpPktInfosHashTable seqNum.toUInt64 with
  | none => exact (recordStart_manager s seqNum).1
  | some info =>
    dsimp only
    simp only [isReceived, bne_iff_ne]
    split_ifs
    · rfl
    · rfl

theorem walk_manager (s : UpdateState) (seqNums : List UInt16) :
    (seqNums.foldl visit s).manager = seqNums.foldl acknowledge s.manager := by
  induction seqNums generalizing s with
  | nil => rfl
  | cons seqNum seqNums ih => rw [List.foldl_cons, List.foldl_cons, ih, visit_manager]

theorem table_acknowledge (m : TwccManager) (seqNum : UInt16) (key : UInt64) :
    (m.acknowledge seqNum).twccRtpPktInfosHashTable key =
      if key = seqNum.toUInt64 then (m.twccRtpPktInfosHashTable key).filter fun info =>
        !isReceived info
      else m.twccRtpPktInfosHashTable key := by
  rw [acknowledge]
  split_ifs with hkey
  · rw [hkey]
    cases hinfo : m.twccRtpPktInfosHashTable seqNum.toUInt64 with
    | none => exact hinfo
    | some info =>
      dsimp only
      rw [Option.filter_some]
      cases isReceived info with
      | false => exact hinfo
      | true => exact (table_remove ..).trans (if_pos rfl)
  · split
    · rfl
    · split
      · rw [table_remove, if_neg hkey]
      · rfl

/-- **The table after a walk**: what has been received is no longer there. -/
theorem table_walk (m : TwccManager) (seqNums : List UInt16) (key : UInt64) :
    (seqNums.foldl acknowledge m).twccRtpPktInfosHashTable key =
      if ∃ seqNum ∈ seqNums, key = seqNum.toUInt64 then
        (m.twccRtpPktInfosHashTable key).filter fun info => !isReceived info
      else m.twccRtpPktInfosHashTable key := by
  induction seqNums generalizing m with
  | nil => simp
  | cons seqNum seqNums ih =>
    rw [List.foldl_cons, ih, table_acknowledge]
    by_cases hkey : key = seqNum.toUInt64
    · simp [hkey, Option.filter_filter]
    · simp [hkey]

theorem recordsAt_cons (m : TwccManager) (seqNum : UInt16) (seqNums : List UInt16) :
    m.recordsAt (seqNum :: seqNums) =
      (m.twccRtpPktInfosHashTable seqNum.toUInt64).toList ++ m.recordsAt seqNums := by
  rw [recordsAt, List.filterMap_cons]
  cases m.twccRtpPktInfosHashTable seqNum.toUInt64 <;> rfl

/-- A round does not touch the records of other numbers. -/
theorem recordsAt_acknowledge {m : TwccManager} {seqNum : UInt16} {seqNums : List UInt16}
    (h : seqNum ∉ seqNums) : (m.acknowledge seqNum).recordsAt seqNums = m.recordsAt seqNums := by
  apply List.filterMap_congr
  intro other hother
  rw [table_acknowledge, if_neg]
  intro hkey
  rw [toUInt64_inj] at hkey
  exact h (hkey ▸ hother)

/-- Rounds change the table and what has been freed. -/
theorem walk_frame (m : TwccManager) (seqNums : List UInt16) :
    seqNums.foldl acknowledge m =
      { m with
        twccRtpPktInfosHashTable := (seqNums.foldl acknowledge m).twccRtpPktInfosHashTable
        freed := (seqNums.foldl acknowledge m).freed } := by
  induction seqNums generalizing m with
  | nil => rfl
  | cons seqNum seqNums ih =>
    have hround : m.acknowledge seqNum =
        { m with
          twccRtpPktInfosHashTable := (m.acknowledge seqNum).twccRtpPktInfosHashTable
          freed := (m.acknowledge seqNum).freed } := by
      unfold acknowledge
      split
      · rfl
      · split <;> rfl
    rw [List.foldl_cons, ih, hround]

/-- The counts of a report over some records. -/
structure Counts (infos : List TwccRtpPacketInfo) (e : BandwidthEstimation) : Prop where
  sentPackets : e.sentPackets = infos.length
  sentBytes : e.sentBytes = (infos.map fun info => info.packetSize.toNat).sum
  receivedPackets : e.receivedPackets = (infos.filter isReceived).length
  receivedBytes : e.receivedBytes = ((infos.filter isReceived).map fun info =>
    info.packetSize.toNat).sum

theorem Counts.nil : Counts [] ⟨0, 0, 0, 0, 0⟩ := ⟨rfl, rfl, rfl, rfl⟩

theorem counts_visit {s : UpdateState} {infos : List TwccRtpPacketInfo}
    (h : Counts infos s.estimation) (seqNum : UInt16) :
    Counts (infos ++ (s.manager.twccRtpPktInfosHashTable seqNum.toUInt64).toList)
      (visit s seqNum).estimation := by
  obtain ⟨hmanager, hestimation⟩ := recordStart_manager s seqNum
  rw [visit, countPacket, hmanager, hestimation]
  cases s.manager.twccRtpPktInfosHashTable seqNum.toUInt64 with
  | none => simpa only [Option.toList_none, List.append_nil, hestimation] using h
  | some info =>
    have hlost : isReceived info = true ↔ info.remoteTimeKvs ≠ twccPacketLostTime := bne_iff_ne
    dsimp only
    split_ifs with hreceived
    · have hfilter := List.filter_cons_of_pos (l := []) (hlost.mpr hreceived)
      constructor <;>
        simp [List.filter_append, hfilter, h.sentPackets, h.sentBytes, h.receivedPackets,
          h.receivedBytes]
    · have hfilter := List.filter_cons_of_neg (l := []) (mt hlost.mp hreceived)
      constructor <;>
        simp [List.filter_append, hfilter, h.sentPackets, h.sentBytes, h.receivedPackets,
          h.receivedBytes]

/-- **The counts of a walk** are those over the records that the table has for its numbers. -/
theorem walk_counts {s : UpdateState} {infos : List TwccRtpPacketInfo}
    (h : Counts infos s.estimation) {seqNums : List UInt16} (hnodup : seqNums.Nodup) :
    Counts (infos ++ s.manager.recordsAt seqNums) (seqNums.foldl visit s).estimation := by
  induction seqNums generalizing s infos with
  | nil => simpa [recordsAt] using h
  | cons seqNum seqNums ih =>
    obtain ⟨hseqNum, hnodup⟩ := List.nodup_cons.mp hnodup
    have hnext := ih (counts_visit h seqNum) hnodup
    rwa [visit_manager, recordsAt_acknowledge hseqNum, List.append_assoc, ← recordsAt_cons] at hnext

theorem updateTwccHashTable_manager (m : TwccManager) :
    m.updateTwccHashTable.1 = m.reportedSeqNums.foldl acknowledge m :=
  walk_manager _ m.reportedSeqNums

theorem updateTwccHashTable_counts (m : TwccManager) :
    Counts m.covered m.updateTwccHashTable.2 := by
  have hwalk := walk_counts (s := ⟨m, twccPacketUnitializedTime, false, ⟨0, 0, 0, 0, 0⟩⟩) Counts.nil
    m.reportedSeqNums_nodup
  exact hwalk

/-! ### A send -/

theorem deletionLoop_frame (sentTime n : Nat) (m : TwccManager) (seqNum : UInt16) :
    (deletionLoop sentTime n m seqNum).1 =
      { m with
        twccRtpPktInfosHashTable := (deletionLoop sentTime n m seqNum).1.twccRtpPktInfosHashTable
        freed := (deletionLoop sentTime n m seqNum).1.freed } := by
  fun_induction deletionLoop sentTime n m seqNum with
  | case1 m seqNum => rfl
  | case2 n m seqNum hinfo ih => exact ih
  | case3 n m seqNum info hinfo hle hold ih => exact ih
  | case4 n m seqNum info hinfo hle hold => rfl
  | case5 n m seqNum info hinfo hle ih => exact ih

theorem table_deletionLoop {sentTime n : Nat} {m : TwccManager} {seqNum : UInt16} {key : UInt64}
    {info : TwccRtpPacketInfo}
    (h : (deletionLoop sentTime n m seqNum).1.twccRtpPktInfosHashTable key = some info) :
    m.twccRtpPktInfosHashTable key = some info := by
  fun_induction deletionLoop sentTime n m seqNum with
  | case1 m seqNum => exact h
  | case2 n m seqNum hinfo ih => exact ih h
  | case3 n m seqNum old hinfo hle hold ih =>
    have htable := ih h
    rw [table_remove] at htable
    split_ifs at htable
    exact htable
  | case4 n m seqNum old hinfo hle hold => exact h
  | case5 n m seqNum old hinfo hle ih => exact ih h

def stored (m : TwccManager) (p : RtpPacket) (sentTime : Nat) : TwccManager :=
  { m.upsert (twccSeqNum p.header.extensionPayload) (m.infoOf p sentTime) with
  nextAddr := m.nextAddr + 1 }

theorem table_stored (m : TwccManager) (p : RtpPacket) (sentTime : Nat) (key : UInt64) :
    (m.stored p sentTime).twccRtpPktInfosHashTable key =
      if key = (twccSeqNum p.header.extensionPayload).toUInt64 then some (m.infoOf p sentTime)
      else m.twccRtpPktInfosHashTable key :=
  Function.update_apply ..

def forget (m : TwccManager) (sentTime : Nat) (endingSeqNum : UInt16) : TwccManager × UInt16 :=
  deletionLoop sentTime ((endingSeqNum - m.firstSeqNumInRollingWindow).toNat + 1) m
    m.firstSeqNumInRollingWindow

theorem packetSent_eq {m : TwccManager} {p : RtpPacket}
    (hprofile : p.header.extensionProfile = twccExtProfile) (sentTime : Nat) :
    m.twccManagerOnPacketSent p sentTime =
      { ((m.stored p sentTime).forget sentTime (twccSeqNum p.header.extensionPayload)).1 with
        firstSeqNumInRollingWindow :=
          ((m.stored p sentTime).forget sentTime (twccSeqNum p.header.extensionPayload)).2 } := by
  rw [twccManagerOnPacketSent, if_pos hprofile]
  rfl

theorem nextAddr_packetSent (m : TwccManager) (p : RtpPacket) (sentTime : Nat) :
    (m.twccManagerOnPacketSent p sentTime).nextAddr =
      if p.header.extensionProfile = twccExtProfile then m.nextAddr + 1 else m.nextAddr := by
  split_ifs with hprofile
  · rw [packetSent_eq hprofile, forget, deletionLoop_frame]
    rfl
  · rw [twccManagerOnPacketSent, if_neg hprofile]

/-- **The table after a send** has the record of the packet and records that were there before. -/
theorem table_packetSent {m : TwccManager} {p : RtpPacket} {sentTime : Nat} {key : UInt64}
    {info : TwccRtpPacketInfo}
    (h : (m.twccManagerOnPacketSent p sentTime).twccRtpPktInfosHashTable key = some info) :
    (p.header.extensionProfile = twccExtProfile ∧
      key = (twccSeqNum p.header.extensionPayload).toUInt64 ∧ info = m.infoOf p sentTime) ∨
    m.twccRtpPktInfosHashTable key = some info := by
  by_cases hprofile : p.header.extensionProfile = twccExtProfile
  · rw [packetSent_eq hprofile] at h
    have hstored := table_deletionLoop h
    rw [table_stored] at hstored
    split_ifs at hstored with hkey
    · exact .inl ⟨hprofile, hkey, (Option.some.inj hstored).symm⟩
    · exact .inr hstored
  · rw [twccManagerOnPacketSent, if_neg hprofile] at h
    exact .inr h

end KvsWebrtc.TwccManager
