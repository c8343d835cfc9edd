import KvsWebrtc.Common.Run
import KvsWebrtc.PeerConnection.Equiv.TwccAccounting

/-!
# The packets that the table remembers

`History` says what the table is for: it has the records of exactly the packets that were sent
within the estimator's window and have not been acknowledged, and every record ever allocated is in
the table or has been freed once.

It holds along every run whose steps meet `Fits` (`history_along`).  A packet must not be sent under
a number that is still in the table: the record under it is lost and never freed
(`number_free_of_ledger`).  The records that have expired must come first in the order of the
numbers, for the loop that removes them stops at the first one that has not, and at the number of
the packet.  And a feedback packet must not store times for more statuses than `updateTwccHashTable`
walks over.
-/

namespace KvsWebrtc.TwccManager

open SeqNum Twcc

/-! ### Allocations -/

def addrAt (m : TwccManager) (key : UInt64) : Option Nat :=
  (m.twccRtpPktInfosHashTable key).map (·.addr)

/-- Every record ever allocated is in the table, once, or it has been freed, once. -/
structure Ledger (m : TwccManager) : Prop where
  unique : ∀ key key' addr, m.addrAt key = some addr → m.addrAt key' = some addr → key = key'
  stored_lt : ∀ key addr, m.addrAt key = some addr → addr < m.nextAddr
  freed_lt : ∀ addr ∈ m.freed, addr < m.nextAddr
  freed_nodup : m.freed.Nodup
  stored_iff : ∀ addr < m.nextAddr, (∃ key, m.addrAt key = some addr) ↔ addr ∉ m.freed

theorem addrAt_eq_some_iff {m : TwccManager} {key : UInt64} {addr : Nat} :
    m.addrAt key = some addr ↔
      ∃ info, m.twccRtpPktInfosHashTable key = some info ∧ info.addr = addr :=
  Option.map_eq_some_iff

theorem addrAt_eq_none_iff {m : TwccManager} {key : UInt64} :
    m.addrAt key = none ↔ m.twccRtpPktInfosHashTable key = none :=
  Option.map_eq_none_iff

theorem addrAt_remove (m : TwccManager) (seqNum : UInt16) (info : TwccRtpPacketInfo)
    (key : UInt64) :
    (m.remove seqNum info).addrAt key = if key = seqNum.toUInt64 then none else m.addrAt key := by
  rw [addrAt, table_remove]
  split_ifs <;> rfl

theorem addrAt_stored (m : TwccManager) (p : RtpPacket) (sentTime : Nat) (key : UInt64) :
    (m.stored p sentTime).addrAt key =
      if key = (twccSeqNum p.header.extensionPayload).toUInt64 then some m.nextAddr
        else m.addrAt key := by
  rw [addrAt, table_stored]
  split_ifs <;> rfl

theorem ledger_create : Ledger create := by
  constructor
  · intro key key' addr h
    exact nomatch h
  · intro key addr h
    exact nomatch h
  · intro addr h
    exact nomatch h
  · exact .nil
  · intro addr h
    exact absurd h (Nat.not_lt_zero addr)

theorem Ledger.congr {m m' : TwccManager} (h : Ledger m)
    (haddr : ∀ key, m'.addrAt key = m.addrAt key) (hnext : m'.nextAddr = m.nextAddr)
    (hfreed : m'.freed = m.freed) : Ledger m' := by
  have haddrAt : m'.addrAt = m.addrAt := funext haddr
  constructor
  · rw [haddrAt]
    exact h.unique
  · rw [haddrAt, hnext]
    exact h.stored_lt
  · rw [hfreed, hnext]
    exact h.freed_lt
  · rw [hfreed]
    exact h.freed_nodup
  · rw [haddrAt, hnext, hfreed]
    exact h.stored_iff

theorem Ledger.remove {m : TwccManager} (h : Ledger m) {seqNum : UInt16} {info : TwccRtpPacketInfo}
    (hinfo : m.twccRtpPktInfosHashTable seqNum.toUInt64 = some info) :
    Ledger (m.remove seqNum info) := by
  have haddr : m.addrAt seqNum.toUInt64 = some info.addr :=
    addrAt_eq_some_iff.mpr ⟨info, hinfo, rfl⟩
  have hold : ∀ {key addr}, (m.remove seqNum info).addrAt key = some addr →
      key ≠ seqNum.toUInt64 ∧ m.addrAt key = some addr := by
    intro key addr hkey
    rw [addrAt_remove] at hkey
    split_ifs at hkey with hne
    exact ⟨hne, hkey⟩
  constructor
  · intro key key' addr hkey hkey'
    exact h.unique key key' addr (hold hkey).2 (hold hkey').2
  · intro key addr hkey
    exact h.stored_lt key addr (hold hkey).2
  · intro addr hmem
    rcases List.mem_append.mp hmem with hmem | hmem
    · exact h.freed_lt addr hmem
    · rw [List.mem_singleton.mp hmem]
      exact h.stored_lt _ _ haddr
  · apply List.nodup_append.mpr
    refine ⟨h.freed_nodup, List.nodup_singleton _, ?_⟩
    rintro addr hmem _ hsingle rfl
    rw [List.mem_singleton.mp hsingle] at hmem
    exact (h.stored_iff _ (h.stored_lt _ _ haddr)).mp ⟨_, haddr⟩ hmem
  · intro addr hlt
    show _ ↔ addr ∉ m.freed ++ [info.addr]
    rw [List.mem_append, List.mem_singleton, not_or, ← h.stored_iff addr hlt]
    constructor
    · rintro ⟨key, hkey⟩
      obtain ⟨hne, hkey⟩ := hold hkey
      exact ⟨⟨key, hkey⟩, fun heq => hne (h.unique _ _ _ (heq ▸ hkey) haddr)⟩
    · rintro ⟨⟨key, hkey⟩, hne⟩
      refine ⟨key, ?_⟩
      rw [addrAt_remove, if_neg]
      · exact hkey
      · rintro rfl
        exact hne (Option.some.inj (hkey.symm.trans haddr))

theorem Ledger.walk {m : TwccManager} (h : Ledger m) (seqNums : List UInt16) :
    Ledger (seqNums.foldl acknowledge m) := by
  induction seqNums generalizing m with
  | nil => exact h
  | cons seqNum seqNums ih =>
    apply ih
    rw [acknowledge]
    split
    · exact h
    · split_ifs
      · exact h.remove ‹_›
      · exact h

theorem Ledger.deletionLoop {m : TwccManager} (h : Ledger m) (sentTime n : Nat) (seqNum : UInt16) :
    Ledger (deletionLoop sentTime n m seqNum).1 := by
  fun_induction TwccManager.deletionLoop sentTime n m seqNum with
  | case1 m seqNum => exact h
  | case2 n m seqNum hinfo ih => exact ih h
  | case3 n m seqNum info hinfo hle hold ih => exact ih (h.remove hinfo)
  | case4 n m seqNum info hinfo hle hold => exact h
  | case5 n m seqNum info hinfo hle ih => exact ih h

/-- A record under a free number is a new allocation. -/
theorem Ledger.stored {m : TwccManager} (h : Ledger m) {p : RtpPacket}
    (hfree : m.twccRtpPktInfosHashTable (twccSeqNum p.header.extensionPayload).toUInt64 = none)
    (sentTime : Nat) : Ledger (m.stored p sentTime) := by
  -- the new record has the next address, the others are as they were
  have hcases : ∀ {key addr}, (m.stored p sentTime).addrAt key = some addr →
      (key = (twccSeqNum p.header.extensionPayload).toUInt64 ∧ addr = m.nextAddr) ∨
        m.addrAt key = some addr := by
    intro key addr hkey
    rw [addrAt_stored] at hkey
    split_ifs at hkey with heq
    · exact .inl ⟨heq, (Option.some.inj hkey).symm⟩
    · exact .inr hkey
  have hnext : (m.stored p sentTime).nextAddr = m.nextAddr + 1 := rfl
  constructor
  · intro key key' addr hkey hkey'
    rcases hcases hkey with ⟨rfl, rfl⟩ | hkey <;> rcases hcases hkey' with ⟨rfl, haddr⟩ | hkey'
    · rfl
    · exact absurd (h.stored_lt _ _ hkey') (Nat.lt_irrefl _)
    · exact absurd (haddr ▸ h.stored_lt _ _ hkey) (Nat.lt_irrefl _)
    · exact h.unique key key' addr hkey hkey'
  · intro key addr hkey
    rw [hnext]
    rcases hcases hkey with ⟨-, rfl⟩ | hkey
    · exact Nat.lt_succ_self _
    · exact Nat.lt_succ_of_lt (h.stored_lt key addr hkey)
  · intro addr hmem
    exact Nat.lt_succ_of_lt (h.freed_lt addr hmem)
  · exact h.freed_nodup
  · intro addr hlt
    rw [hnext] at hlt
    show _ ↔ addr ∉ m.freed
    rcases Nat.lt_succ_iff_lt_or_eq.mp hlt with hlt | rfl
    · rw [← h.stored_iff addr hlt]
      constructor
      · rintro ⟨key, hkey⟩
        rcases hcases hkey with ⟨-, rfl⟩ | hkey
        · exact absurd hlt (Nat.lt_irrefl _)
        · exact ⟨key, hkey⟩
      · rintro ⟨key, hkey⟩
        refine ⟨key, ?_⟩
        rw [addrAt_stored, if_neg]
        · exact hkey
        · rintro rfl
          rw [addrAt_eq_none_iff.mpr hfree] at hkey
          exact nomatch hkey
    · constructor
      · intro _ hmem
        exact absurd (h.freed_lt _ hmem) (Nat.lt_irrefl _)
      · intro _
        exact ⟨_, (addrAt_stored ..).trans (if_pos rfl)⟩

theorem mem_freed_deletionLoop {sentTime n : Nat} {m : TwccManager} {seqNum : UInt16} {addr : Nat}
    (h : addr ∈ (TwccManager.deletionLoop sentTime n m seqNum).1.freed) :
    addr ∈ m.freed ∨ ∃ key, m.addrAt key = some addr := by
  fun_induction TwccManager.deletionLoop sentTime n m seqNum with
  | case1 m seqNum => exact .inl h
  | case2 n m seqNum hinfo ih => exact ih h
  | case3 n m seqNum info hinfo hle hold ih =>
    rcases ih h with hmem | ⟨key, hkey⟩
    · rcases List.mem_append.mp hmem with hmem | hmem
      · exact .inl hmem
      · rw [List.mem_singleton.mp hmem]
        exact .inr ⟨_, addrAt_eq_some_iff.mpr ⟨info, hinfo, rfl⟩⟩
    · rw [addrAt_remove] at hkey
      split_ifs at hkey
      exact .inr ⟨key, hkey⟩
  | case4 n m seqNum info hinfo hle hold => exact .inl h
  | case5 n m seqNum info hinfo hle ih => exact ih h

/-- **A number must be free**: a record that is replaced is neither in the table nor freed. -/
theorem number_free_of_ledger {m : TwccManager} {p : RtpPacket} {sentTime : Nat}
    (hprofile : p.header.extensionProfile = twccExtProfile) (h : Ledger m)
    (h' : Ledger (m.twccManagerOnPacketSent p sentTime)) :
    m.twccRtpPktInfosHashTable (twccSeqNum p.header.extensionPayload).toUInt64 = none := by
  by_contra hne
  obtain ⟨old, hold⟩ := Option.ne_none_iff_exists'.mp hne
  have haddr : m.addrAt (twccSeqNum p.header.extensionPayload).toUInt64 = some old.addr :=
    addrAt_eq_some_iff.mpr ⟨old, hold, rfl⟩
  have hlt := h.stored_lt _ _ haddr
  -- the record is not in the table any more when the loop starts
  have hlost : ∀ key, (m.stored p sentTime).addrAt key ≠ some old.addr := by
    intro key hkey
    rw [addrAt_stored] at hkey
    split_ifs at hkey with heq
    · exact absurd (Option.some.inj hkey) (Nat.ne_of_gt hlt)
    · exact heq (h.unique _ _ _ hkey haddr)
  have hiff := h'.stored_iff old.addr (by
    rw [nextAddr_packetSent, if_pos hprofile]
    exact Nat.lt_succ_of_lt hlt)
  rw [packetSent_eq hprofile] at hiff
  by_cases hmem : old.addr ∈ ((m.stored p sentTime).forget sentTime
      (twccSeqNum p.header.extensionPayload)).1.freed
  · rcases mem_freed_deletionLoop hmem with hmem | ⟨key, hkey⟩
    · exact (h.stored_iff old.addr hlt).mp ⟨_, haddr⟩ hmem
    · exact hlost key hkey
  · obtain ⟨key, hkey⟩ := hiff.mpr hmem
    obtain ⟨info, hinfo, haddr'⟩ := addrAt_eq_some_iff.mp hkey
    exact hlost key (addrAt_eq_some_iff.mpr ⟨info, table_deletionLoop hinfo, haddr'⟩)

/-! ### What the loop forgets -/

def Expired (sentTime : Nat) (info : TwccRtpPacketInfo) : Prop :=
  sentTime - info.localTimeKvs > twccEstimatorTimeWindow

/-- From a first number on, the expired records are among the next `n` numbers, and before all
others. -/
def ExpiredFirst (m : TwccManager) (sentTime : Nat) (first : UInt16) (n : Nat) : Prop :=
  ∀ (seqNum : UInt16) (info : TwccRtpPacketInfo),
    m.twccRtpPktInfosHashTable seqNum.toUInt64 = some info → Expired sentTime info →
      (seqNum - first).toNat < n ∧
        ∀ (other : UInt16) (info' : TwccRtpPacketInfo),
          m.twccRtpPktInfosHashTable other.toUInt64 = some info' → ¬ Expired sentTime info' →
            (seqNum - first).toNat < (other - first).toNat

theorem ExpiredFirst.next {m m' : TwccManager} {sentTime n : Nat} {first : UInt16}
    (h : ExpiredFirst m sentTime first (n + 1))
    (htable : ∀ key info, m'.twccRtpPktInfosHashTable key = some info →
      key ≠ first.toUInt64 ∧ m.twccRtpPktInfosHashTable key = some info) :
    ExpiredFirst m' sentTime (first + 1) n := by
  intro seqNum info hinfo hexpired
  obtain ⟨hne, hinfo⟩ := htable _ info hinfo
  obtain ⟨hlt, hfirst⟩ := h seqNum info hinfo hexpired
  rw [toNat_sub_succ (fun heq => hne (congrArg _ heq))] at hlt hfirst
  refine ⟨by omega, ?_⟩
  intro other info' hinfo' hother
  obtain ⟨hne', hinfo'⟩ := htable _ info' hinfo'
  have hbefore := hfirst other info' hinfo' hother
  rw [toNat_sub_succ (fun heq => hne' (congrArg _ heq))] at hbefore
  omega

/-- **What the loop forgets**: the expired records, where it can reach them all. -/
theorem table_deletionLoop_iff {m : TwccManager} {sentTime n : Nat} {first : UInt16}
    (htimes : ∀ key info, m.twccRtpPktInfosHashTable key = some info → info.localTimeKvs ≤ sentTime)
    (hkeys : ∀ key info, m.twccRtpPktInfosHashTable key = some info →
      ∃ seqNum : UInt16, key = seqNum.toUInt64)
    (hfirst : ExpiredFirst m sentTime first n) (key : UInt64) (info : TwccRtpPacketInfo) :
    (deletionLoop sentTime n m first).1.twccRtpPktInfosHashTable key = some info ↔
      m.twccRtpPktInfosHashTable key = some info ∧ ¬ Expired sentTime info := by
  have hnone : ∀ {m : TwccManager} {first : UInt16} {key : UInt64} {info : TwccRtpPacketInfo},
      m.twccRtpPktInfosHashTable first.toUInt64 = none →
      m.twccRtpPktInfosHashTable key = some info → key ≠ first.toUInt64 := by
    rintro m first key info hfree hinfo rfl
    exact nomatch hfree.symm.trans hinfo
  fun_induction deletionLoop sentTime n m first with
  | case1 m first =>
    refine ⟨fun h => ⟨h, ?_⟩, And.left⟩
    intro hexpired
    obtain ⟨seqNum, rfl⟩ := hkeys key info h
    exact absurd (hfirst seqNum info h hexpired).1 (Nat.not_lt_zero _)
  | case2 n m first hfree ih =>
    exact ih htimes hkeys (hfirst.next fun key info hinfo => ⟨hnone hfree hinfo, hinfo⟩)
  | case3 n m first old hold hle hexpired ih =>
    have hsub : ∀ key info, (m.remove first old).twccRtpPktInfosHashTable key = some info →
        key ≠ first.toUInt64 ∧ m.twccRtpPktInfosHashTable key = some info := by
      intro key info hinfo
      rw [table_remove] at hinfo
      split_ifs at hinfo with hne
      exact ⟨hne, hinfo⟩
    refine (ih (fun key info hinfo => htimes key info (hsub key info hinfo).2)
      (fun key info hinfo => hkeys key info (hsub key info hinfo).2) (hfirst.next hsub)).trans ?_
    apply and_congr_left
    intro hkept
    constructor
    · intro hinfo
      exact (hsub key info hinfo).2
    · intro hinfo
      rw [table_remove, if_neg]
      · exact hinfo
      · rintro rfl
        obtain rfl := Option.some.inj (hold.symm.trans hinfo)
        exact hkept hexpired
  | case4 n m first old hold hle hkept =>
    -- the loop stops at a record that has not expired, so that none has
    refine ⟨fun h => ⟨h, ?_⟩, And.left⟩
    intro hexpired
    obtain ⟨seqNum, rfl⟩ := hkeys key info h
    have hlt := (hfirst seqNum info h hexpired).2 first old hold hkept
    rw [UInt16.sub_self] at hlt
    exact absurd hlt (Nat.not_lt_zero _)
  | case5 n m first old hold hlt ih =>
    exact absurd (htimes _ old hold) hlt

/-- **What a send leaves in the table**: the record of the packet and the others that have not
expired. -/
theorem addrAt_packetSent {m : TwccManager} {p : RtpPacket} {sentTime : Nat}
    (hprofile : p.header.extensionProfile = twccExtProfile)
    (htimes : ∀ key info, m.twccRtpPktInfosHashTable key = some info → info.localTimeKvs ≤ sentTime)
    (hkeys : ∀ key info, m.twccRtpPktInfosHashTable key = some info →
      ∃ seqNum : UInt16, key = seqNum.toUInt64)
    (hfirst : ExpiredFirst m sentTime m.firstSeqNumInRollingWindow
      (twccSeqNum p.header.extensionPayload - m.firstSeqNumInRollingWindow).toNat)
    (key : UInt64) (addr : Nat) :
    (m.twccManagerOnPacketSent p sentTime).addrAt key = some addr ↔
      (key = (twccSeqNum p.header.extensionPayload).toUInt64 ∧ addr = m.nextAddr) ∨
        ∃ info, key ≠ (twccSeqNum p.header.extensionPayload).toUInt64 ∧
          m.twccRtpPktInfosHashTable key = some info ∧ ¬ Expired sentTime info ∧
            info.addr = addr := by
  have hcases : ∀ key info, (m.stored p sentTime).twccRtpPktInfosHashTable key = some info →
      (key = (twccSeqNum p.header.extensionPayload).toUInt64 ∧ info = m.infoOf p sentTime) ∨
        (key ≠ (twccSeqNum p.header.extensionPayload).toUInt64 ∧
          m.twccRtpPktInfosHashTable key = some info) := by
    intro key info hinfo
    rw [table_stored] at hinfo
    split_ifs at hinfo with hkey
    · exact .inl ⟨hkey, (Option.some.inj hinfo).symm⟩
    · exact .inr ⟨hkey, hinfo⟩
  -- the record is as old as the clock is late, which is not at all
  have hnew : ¬ Expired sentTime (m.infoOf p sentTime) := by
    show ¬ sentTime - sentTime > twccEstimatorTimeWindow
    rw [Nat.sub_self]
    exact Nat.not_lt_zero _
  -- the deletion frees exactly the records that have expired
  have hloop : ∀ info, (m.twccManagerOnPacketSent p sentTime).twccRtpPktInfosHashTable key = some
      info ↔
      (m.stored p sentTime).twccRtpPktInfosHashTable key = some info ∧ ¬ Expired sentTime info := by
    intro info
    rw [packetSent_eq hprofile]
    apply table_deletionLoop_iff
    · intro key info hinfo
      rcases hcases key info hinfo with ⟨-, rfl⟩ | ⟨-, hold⟩
      · exact Nat.le_refl _
      · exact htimes key info hold
    · intro key info hinfo
      rcases hcases key info hinfo with ⟨hkey, -⟩ | ⟨-, hold⟩
      · exact ⟨_, hkey⟩
      · exact hkeys key info hold
    · -- the new record is one of those that have not expired
      intro seqNum info hinfo hexpired
      rcases hcases _ info hinfo with ⟨-, rfl⟩ | ⟨-, hinfo⟩
      · exact absurd hexpired hnew
      · obtain ⟨hlt, hothers⟩ := hfirst seqNum info hinfo hexpired
        refine ⟨Nat.lt_succ_of_lt hlt, ?_⟩
        intro other info' hinfo' hother
        rcases hcases _ info' hinfo' with ⟨hkey, -⟩ | ⟨-, hinfo'⟩
        · rwa [toUInt64_inj.mp hkey]
        · exact hothers other info' hinfo' hother
  rw [addrAt_eq_some_iff]
  constructor
  · rintro ⟨info, hinfo, rfl⟩
    obtain ⟨hinfo, hkept⟩ := (hloop info).mp hinfo
    rcases hcases key info hinfo with ⟨hkey, rfl⟩ | ⟨hkey, hold⟩
    · exact .inl ⟨hkey, rfl⟩
    · exact .inr ⟨info, hkey, hold, hkept, rfl⟩
  · rintro (⟨hkey, rfl⟩ | ⟨info, hkey, hold, hkept, rfl⟩)
    · refine ⟨m.infoOf p sentTime, (hloop _).mpr ⟨?_, hnew⟩, rfl⟩
      rw [table_stored, if_pos hkey]
    · refine ⟨info, (hloop info).mpr ⟨?_, hkept⟩, rfl⟩
      rw [table_stored, if_neg hkey]
      exact hold

/-! ### What a feedback packet acknowledges -/

theorem addr_setTime (info : TwccRtpPacketInfo) (time : Option Nat) :
    (info.setTime time).addr = info.addr := by
  cases time <;> rfl

theorem addrAt_reportAll (m : TwccManager) (seqNum : UInt16) (times : List (Option Nat))
    (key : UInt64) :
    (m.reportAll seqNum times).addrAt key = m.addrAt key := by
  induction times generalizing m seqNum with
  | nil => rfl
  | cons time times ih =>
    rw [reportAll, ih, addrAt, table_reportTime]
    split_ifs
    · rw [Option.map_map]
      congr 1
      funext info
      exact addr_setTime info time
    · rfl

/-- Statuses without times change nothing. -/
theorem reportAll_of_none {m : TwccManager} {seqNum : UInt16} {times : List (Option Nat)}
    (h : ∀ time ∈ times, time = none) : m.reportAll seqNum times = m := by
  induction times generalizing seqNum with
  | nil => rfl
  | cons time times ih =>
    obtain ⟨rfl, htimes⟩ := List.forall_mem_cons.mp h
    rw [reportAll]
    exact ih htimes

/-- The last number of a packet is that of its last status with a time. -/
theorem lastReportedSeqNum_reportAll (m : TwccManager) (seqNum : UInt16) {times : List (Option Nat)}
    {i : Nat} {time : Nat} (htime : times[i]? = some (some time)) :
    ∃ j last, i ≤ j ∧ times[j]? = some (some last) ∧
      (m.reportAll seqNum times).lastReportedSeqNum = seqNum + UInt16.ofNat j := by
  induction times generalizing m seqNum i time with
  | nil => exact nomatch htime
  | cons first times ih =>
    rw [reportAll]
    by_cases hmore : ∃ i' time' : Nat, times[i']? = some (some time')
    · obtain ⟨i', time', htime'⟩ := hmore
      cases i with
      | zero =>
        obtain ⟨j, last, -, hlast, hreported⟩ := ih (m.reportTime seqNum first) (seqNum + 1) htime'
        exact ⟨j + 1, last, Nat.zero_le _, hlast, by rw [hreported, add_ofNat_succ]⟩
      | succ i =>
        obtain ⟨j, last, hij, hlast, hreported⟩ := ih (m.reportTime seqNum first) (seqNum + 1) htime
        exact ⟨j + 1, last, Nat.succ_le_succ hij, hlast, by rw [hreported, add_ofNat_succ]⟩
    · have hnone : ∀ time ∈ times, time = none := by
        intro time' hmem
        obtain ⟨i', hi'⟩ := List.mem_iff_getElem?.mp hmem
        cases time' with
        | none => rfl
        | some time' => exact absurd ⟨i', time', hi'⟩ hmore
      cases i with
      | zero =>
        obtain rfl := Option.some.inj htime
        refine ⟨0, time, Nat.le_refl _, rfl, ?_⟩
        rw [reportAll_of_none hnone]
        exact (UInt16.add_zero seqNum).symm
      | succ i => exact absurd ⟨i, time, htime⟩ hmore

/-- Every time that the packet stores is for one of the first 65535 statuses. -/
def TimesFit (times : List (Option Nat)) : Prop :=
  ∀ i time, times[i]? = some (some time) → i < 65535

theorem table_reportAll {m : TwccManager} {seqNum : UInt16} {times : List (Option Nat)}
    (hfit : TimesFit times) {i : Nat} {time : Nat} (htime : times[i]? = some (some time)) :
    (m.reportAll seqNum times).twccRtpPktInfosHashTable (seqNum + UInt16.ofNat i).toUInt64 =
      (m.twccRtpPktInfosHashTable (seqNum + UInt16.ofNat i).toUInt64).map
      (·.setTime (some time)) := by
  have hi := hfit i time htime
  have hrest : ∀ time ∈ times.drop 65535, time = none := by
    intro time' hmem
    obtain ⟨j, hj⟩ := List.mem_iff_getElem?.mp hmem
    cases time' with
    | none => rfl
    | some time' =>
      rw [List.getElem?_drop] at hj
      exact absurd (hfit _ time' hj) (by omega)
  rw [← List.take_append_drop 65535 times, reportAll_append, reportAll_of_none hrest]
  apply table_reportAll_of_lt
  · have hlen := List.length_take_le 65535 times
    omega
  · rw [List.getElem?_take_of_lt hi]
    exact htime

/-- **What a feedback packet acknowledges**: the records with a received status leave the table. -/
theorem addrAt_updateTwccHashTable {m : TwccManager}
    (hlost : ∀ key info, m.twccRtpPktInfosHashTable key = some info →
      info.remoteTimeKvs = twccPacketLostTime)
    {payload : List UInt8} {baseSeqNum : UInt16} {times : List (Option Nat)}
    (hread : readFeedback payload = .ok (baseSeqNum, times)) (hfit : TimesFit times)
    (seqNum : UInt16) (addr : Nat) :
    ({ m with prevReportedBaseSeqNum := baseSeqNum }.reportAll baseSeqNum
        times).updateTwccHashTable.1.addrAt seqNum.toUInt64 = some addr ↔
      m.addrAt seqNum.toUInt64 = some addr ∧ ¬ ReportsReceived payload seqNum := by
  let based : TwccManager := { m with prevReportedBaseSeqNum := baseSeqNum }
  have hlostBased : ∀ key info, based.twccRtpPktInfosHashTable key = some info →
      info.remoteTimeKvs = twccPacketLostTime := hlost
  set parsed := based.reportAll baseSeqNum times with hparsed
  have haddr : parsed.addrAt seqNum.toUInt64 = m.addrAt seqNum.toUInt64 := addrAt_reportAll based ..
  rw [updateTwccHashTable_manager, addrAt_eq_some_iff, table_walk]
  by_cases hreports : ReportsReceived payload seqNum
  · -- its record is marked, and the walk comes to it
    obtain ⟨base', times', i, time, hread', htime, hne, rfl⟩ := hreports
    obtain ⟨rfl, rfl⟩ := Prod.mk.inj (Except.ok.inj (hread.symm.trans hread'))
    have hreceived : ∀ info, parsed.twccRtpPktInfosHashTable (baseSeqNum +
        UInt16.ofNat i).toUInt64 =
        some info → isReceived info = true := by
      intro info hinfo
      rw [hparsed, table_reportAll hfit htime] at hinfo
      obtain ⟨old, -, rfl⟩ := Option.map_eq_some_iff.mp hinfo
      exact bne_iff_ne.mpr hne
    obtain ⟨j, last, hij, hlast, hreported⟩ := lastReportedSeqNum_reportAll based baseSeqNum htime
    have hj := hfit j last hlast
    have hmem : baseSeqNum + UInt16.ofNat i ∈ parsed.reportedSeqNums := by
      have hbase : parsed.prevReportedBaseSeqNum = baseSeqNum := by
        rw [hparsed, reportAll_frame]
      rw [reportedSeqNums, hbase, hreported]
      refine List.mem_map.mpr ⟨i, List.mem_range.mpr ?_, rfl⟩
      have hcount : baseSeqNum + UInt16.ofNat j + 1 - baseSeqNum = UInt16.ofNat (j + 1) := by
        rw [UInt16.ofNat_add, UInt16.add_assoc, UInt16.add_comm baseSeqNum, UInt16.add_sub_cancel]
        rfl
      rw [hcount, UInt16.toNat_ofNat', Nat.mod_eq_of_lt (by omega)]
      omega
    rw [if_pos ⟨_, hmem, rfl⟩]
    constructor
    · rintro ⟨info, hinfo, -⟩
      obtain ⟨hinfo, hkept⟩ := Option.filter_eq_some_iff.mp hinfo
      rw [hreceived info hinfo] at hkept
      cases hkept
    · rintro ⟨-, hnot⟩
      exact absurd ⟨baseSeqNum, times, i, time, hread, htime, hne, rfl⟩ hnot
  · -- its record is not marked, or as lost
    have hkept : ∀ info, parsed.twccRtpPktInfosHashTable seqNum.toUInt64 = some info →
        isReceived info = false := by
      intro info' hinfo'
      rw [isReceived, bne_eq_false_iff_eq]
      obtain ⟨info, hinfo, rfl | ⟨i, time, htime, hkey, rfl⟩⟩ := reportAll_cases hinfo'
      · exact hlostBased _ _ hinfo
      · by_contra hne
        exact hreports ⟨baseSeqNum, times, i, time, hread, htime, hne, toUInt64_inj.mp hkey⟩
    -- the walk passes the record, or does not come to it
    have hfilter : (if ∃ seqNum' ∈ parsed.reportedSeqNums, seqNum.toUInt64 = seqNum'.toUInt64 then
        (parsed.twccRtpPktInfosHashTable seqNum.toUInt64).filter fun info => !isReceived info
        else parsed.twccRtpPktInfosHashTable seqNum.toUInt64) =
          parsed.twccRtpPktInfosHashTable seqNum.toUInt64 := by
      split_ifs
      · cases hinfo : parsed.twccRtpPktInfosHashTable seqNum.toUInt64 with
        | none => rfl
        | some info => rw [Option.filter_some, hkept info hinfo, Bool.not_false, if_pos rfl]
      · rfl
    rw [hfilter, ← addrAt_eq_some_iff, haddr, and_iff_left hreports]

/-! ### The history of a run -/

def lastSent (events : List TwccEvent) : Nat := ((sentPackets events).getLast?.map (·.2)).getD 0

def SendsInOrder (events : List TwccEvent) : Prop := ((sentPackets events).map (·.2)).Pairwise
    (· ≤ ·)

instance (events : List TwccEvent) : Decidable (SendsInOrder events) :=
  inferInstanceAs (Decidable (List.Pairwise _ _))

/-- The table has the records of exactly the packets that were sent within the window and have not
been acknowledged, under their numbers, and the other records have been freed. -/
structure History (events : List TwccEvent) (m : TwccManager) : Prop where
  kept_iff : ∀ addr p sentTime, (sentPackets events)[addr]? = some (p, sentTime) →
    (m.addrAt (twccSeqNum p.header.extensionPayload).toUInt64 = some addr ↔
      ¬ ReceivedStatus events addr ∧ lastSent events - sentTime ≤ twccEstimatorTimeWindow)
  records : ∀ key info, m.twccRtpPktInfosHashTable key = some info →
  IsRecord (sentPackets events) key info
  ledger : Ledger m

/-- The condition on a step: a packet is sent under a number that is not in the table, and from the
first number of the window on, the expired records come before this number and before all others; a
feedback packet does not store times for more statuses than the walk covers. -/
def Fits (m : TwccManager) : TwccEvent → Prop
  | .packetSent p sentTime => p.header.extensionProfile = twccExtProfile →
      m.twccRtpPktInfosHashTable (twccSeqNum p.header.extensionPayload).toUInt64 = none ∧
        ExpiredFirst m sentTime m.firstSeqNumInRollingWindow
          (twccSeqNum p.header.extensionPayload - m.firstSeqNumInRollingWindow).toNat
  | .feedback payload => ∀ baseSeqNum times, readFeedback payload = .ok (baseSeqNum, times) →
    TimesFit times

theorem receivedStatus_append_singleton {events : List TwccEvent} {event : TwccEvent} {addr : Nat} :
    ReceivedStatus (events ++ [event]) addr ↔
      ReceivedStatus events addr ∨ ∃ payload seqNum, event = .feedback payload ∧
        (events.foldl step create).addrAt seqNum.toUInt64 = some addr ∧
          ReportsReceived payload seqNum := by
  constructor
  · rintro ⟨past, payload, later, seqNum, info, heq, hinfo, rfl, hreports⟩
    rcases List.eq_nil_or_concat later with rfl | ⟨later, last, rfl⟩
    · obtain ⟨rfl, hlast⟩ := List.append_inj' heq rfl
      exact .inr ⟨payload, seqNum, (List.singleton_inj.mp hlast),
        addrAt_eq_some_iff.mpr ⟨info, hinfo, rfl⟩, hreports⟩
    · rw [List.concat_eq_append, ← List.cons_append, ← List.append_assoc] at heq
      obtain ⟨rfl, -⟩ := List.append_inj' heq rfl
      exact .inl ⟨past, payload, later, seqNum, info, rfl, hinfo, rfl, hreports⟩
  · rintro (h | ⟨payload, seqNum, rfl, haddr, hreports⟩)
    · exact h.append _
    · obtain ⟨info, hinfo, rfl⟩ := addrAt_eq_some_iff.mp haddr
      exact ⟨events, payload, [], seqNum, info, rfl, hinfo, rfl, hreports⟩

theorem ReceivedStatus.lt_length {events : List TwccEvent} {addr : Nat}
    (h : ReceivedStatus events addr) :
    addr < (sentPackets events).length := by
  obtain ⟨past, payload, later, seqNum, info, rfl, hinfo, rfl, -⟩ := h
  obtain ⟨p, sentTime, hsent, -⟩ := (sound_run past).record _ info hinfo
  have hlt := (List.getElem?_eq_some_iff.mp hsent).1
  rw [sentPackets_append, List.length_append]
  omega

/-- The records that are left in the table wait for an acknowledgement. -/
theorem History.lost {events : List TwccEvent} (h : History events (events.foldl step create))
    (key : UInt64) (info : TwccRtpPacketInfo)
    (hinfo : (events.foldl step create).twccRtpPktInfosHashTable key = some info) :
    info.remoteTimeKvs = twccPacketLostTime := by
  by_contra hne
  have hstatus := (sound_run events).status key info hinfo hne
  obtain ⟨p, sentTime, hsent, rfl, -⟩ := h.records key info hinfo
  exact ((h.kept_iff _ p sentTime hsent).mp (addrAt_eq_some_iff.mpr ⟨info, hinfo, rfl⟩)).1 hstatus

theorem SendsInOrder.le_last {events : List TwccEvent} {p : RtpPacket} {sentTime : Nat}
    (h : SendsInOrder (events ++ [.packetSent p sentTime]))
    (hprofile : p.header.extensionProfile = twccExtProfile) {p' : RtpPacket} {sentTime' : Nat}
    (hmem : (p', sentTime') ∈ sentPackets events) : sentTime' ≤ sentTime := by
  rw [SendsInOrder, sentPackets_append, List.map_append, List.pairwise_append] at h
  apply h.2.2 sentTime' (List.mem_map.mpr ⟨_, hmem, rfl⟩)
  simp [sentPackets, hprofile]

theorem SendsInOrder.lastSent_le {events : List TwccEvent} {p : RtpPacket} {sentTime : Nat}
    (h : SendsInOrder (events ++ [.packetSent p sentTime]))
    (hprofile : p.header.extensionProfile = twccExtProfile) : lastSent events ≤ sentTime := by
  rw [lastSent]
  cases hlast : (sentPackets events).getLast? with
  | none => exact Nat.zero_le _
  | some last => exact h.le_last hprofile (List.mem_of_getLast? hlast)

theorem History.localTime_eq {events : List TwccEvent} {m : TwccManager} (h : History events m)
    {key : UInt64} {info : TwccRtpPacketInfo} (hinfo : m.twccRtpPktInfosHashTable key = some info)
    {p : RtpPacket} {sentTime : Nat} (hp : (sentPackets events)[info.addr]? = some (p, sentTime)) :
    info.localTimeKvs = sentTime := by
  obtain ⟨p', sentTime', hp', -, htime, -⟩ := h.records key info hinfo
  obtain ⟨rfl, rfl⟩ := Prod.mk.inj (Option.some.inj (hp'.symm.trans hp))
  exact htime

theorem History.idle {events : List TwccEvent} {event : TwccEvent} {m : TwccManager}
    (h : History events m) (hsent : sentPackets [event] = [])
    (hstatus : ∀ addr, ReceivedStatus (events ++ [event]) addr → ReceivedStatus events addr) :
    History (events ++ [event]) m := by
  have hsentAll : sentPackets (events ++ [event]) = sentPackets events := by
    rw [sentPackets_append, hsent, List.append_nil]
  constructor
  · intro addr p sentTime hp
    rw [hsentAll] at hp
    rw [h.kept_iff addr p sentTime hp, lastSent, lastSent, hsentAll]
    exact and_congr_left fun _ => not_congr ⟨fun hold => hold.append _, hstatus addr⟩
  · intro key info hinfo
    rw [hsentAll]
    exact h.records key info hinfo
  · exact h.ledger

/-- **A send keeps the history.** -/
theorem History.packetSent {events : List TwccEvent} (h : History events (events.foldl step create))
    {p : RtpPacket} {sentTime : Nat} (horder : SendsInOrder (events ++ [.packetSent p sentTime]))
    (hfits : Fits (events.foldl step create) (.packetSent p sentTime)) :
    History (events ++ [.packetSent p sentTime])
      ((events.foldl step create).twccManagerOnPacketSent p sentTime) := by
  -- sending reports nothing
  have hstatus : ∀ addr, ReceivedStatus (events ++ [.packetSent p sentTime]) addr ↔
      ReceivedStatus events addr := by
    intro addr
    rw [receivedStatus_append_singleton]
    constructor
    · rintro (hold | ⟨payload, seqNum, hevent, -⟩)
      · exact hold
      · cases hevent
    · exact .inl
  by_cases hprofile : p.header.extensionProfile = twccExtProfile
  · have hsound := sound_run events
    have hrecords := (sound_run (events ++ [.packetSent p sentTime])).record
    rw [List.foldl_concat] at hrecords
    set m := events.foldl step create
    obtain ⟨hfree, hexpired⟩ := hfits hprofile
    have hsent : sentPackets (events ++ [.packetSent p sentTime]) = sentPackets events ++
        [(p, sentTime)] := by
      rw [sentPackets_append]
      simp [sentPackets, hprofile]
    have hlast : lastSent (events ++ [.packetSent p sentTime]) = sentTime := by
      rw [lastSent, hsent, List.getLast?_append]
      rfl
    have htimes : ∀ key info, m.twccRtpPktInfosHashTable key = some info →
        info.localTimeKvs ≤ sentTime := by
      intro key info hinfo
      obtain ⟨p', sentTime', hsent', -, htime, -⟩ := h.records key info hinfo
      rw [htime]
      exact horder.le_last hprofile (List.mem_of_getElem? hsent')
    have haddr := addrAt_packetSent hprofile htimes hsound.keys hexpired
    constructor
    · intro addr p' sentTime' hp'
      rw [hstatus, hlast, haddr, hsound.nextAddr]
      rw [hsent] at hp'
      rcases Nat.lt_or_ge addr (sentPackets events).length with hlt | hge
      · -- an earlier packet stays if it has not expired now
        rw [List.getElem?_append_left hlt] at hp'
        have hle := horder.lastSent_le hprofile
        have hkept := h.kept_iff addr p' sentTime' hp'
        constructor
        · rintro (⟨-, rfl⟩ | ⟨info, -, hinfo, hexpired, rfl⟩)
          · exact absurd hlt (Nat.lt_irrefl _)
          · refine ⟨(hkept.mp (addrAt_eq_some_iff.mpr ⟨info, hinfo, rfl⟩)).1, ?_⟩
            rw [Expired, h.localTime_eq hinfo hp'] at hexpired
            exact Nat.le_of_not_lt hexpired
        · rintro ⟨hnot, hwindow⟩
          obtain ⟨info, hinfo, rfl⟩ := addrAt_eq_some_iff.mp (hkept.mpr ⟨hnot, by omega⟩)
          refine .inr ⟨info, ?_, hinfo, ?_, rfl⟩
          · intro hkey
            rw [hkey, hfree] at hinfo
            cases hinfo
          · rw [Expired, h.localTime_eq hinfo hp']
            exact Nat.not_lt_of_le hwindow
      · -- the packet itself
        rw [List.getElem?_append_right hge] at hp'
        have hzero : addr - (sentPackets events).length = 0 :=
          Nat.lt_one_iff.mp (List.getElem?_eq_some_iff.mp hp').1
        rw [hzero] at hp'
        obtain ⟨rfl, rfl⟩ := Prod.mk.inj (Option.some.inj hp')
        constructor
        · intro _
          refine ⟨fun hold => absurd hold.lt_length (Nat.not_lt_of_le hge), ?_⟩
          rw [Nat.sub_self]
          exact Nat.zero_le _
        · intro _
          exact .inl ⟨rfl, by omega⟩
    · exact hrecords
    · rw [packetSent_eq hprofile]
      apply ((h.ledger.stored hfree sentTime).deletionLoop sentTime _ _).congr
      · intro key
        rfl
      · rfl
      · rfl
  · rw [twccManagerOnPacketSent, if_neg hprofile]
    apply h.idle
    · simp [sentPackets, hprofile]
    · exact fun addr => (hstatus addr).mp

/-- **A feedback packet keeps the history.** -/
theorem History.feedback {events : List TwccEvent} (h : History events (events.foldl step create))
    {payload : List UInt8} (hfits : Fits (events.foldl step create) (.feedback payload)) :
    History (events ++ [.feedback payload])
    ((events.foldl step create).step (.feedback payload)) := by
  have hrecords := (sound_run (events ++ [.feedback payload])).record
  rw [List.foldl_concat] at hrecords
  rcases step_feedback (events.foldl step create) payload with ⟨parsed, hparsed, hstep⟩ | ⟨⟨e, he⟩,
    hstep⟩
  · rw [hstep] at hrecords ⊢
    obtain ⟨baseSeqNum, times, hread, rfl⟩ := parseRtcpTwccPacket_eq_ok_iff.mp hparsed
    have haddr := addrAt_updateTwccHashTable h.lost hread (hfits baseSeqNum times hread)
    have hsent : sentPackets (events ++ [.feedback payload]) = sentPackets events := by
      rw [sentPackets_append]
      exact List.append_nil _
    constructor
    · intro addr p sentTime hp
      rw [hsent] at hp
      rw [haddr, h.kept_iff addr p sentTime hp, receivedStatus_append_singleton, lastSent, lastSent,
        hsent, not_or, and_right_comm]
      apply and_congr_left
      intro hwindow
      apply and_congr_right
      intro hnot
      -- the record of the packet is the one under its number
      have hown := (h.kept_iff addr p sentTime hp).mpr ⟨hnot, hwindow⟩
      constructor
      · rintro hreports ⟨payload', seqNum, hevent, hseqNum, hreports'⟩
        obtain rfl := TwccEvent.feedback.inj hevent
        rw [toUInt64_inj.mp (h.ledger.unique _ _ _ hseqNum hown)] at hreports'
        exact hreports hreports'
      · intro hnone hreports
        exact hnone ⟨payload, _, rfl, hown, hreports⟩
    · exact hrecords
    · rw [updateTwccHashTable_manager]
      apply Ledger.walk
      apply h.ledger.congr
      · intro key
        exact addrAt_reportAll _ _ _ key
      · rw [reportAll_frame]
      · rw [reportAll_frame]
  · rw [hstep]
    apply h.idle
    · rfl
    · intro addr hstatus
      rcases receivedStatus_append_singleton.mp hstatus with hold | ⟨payload', seqNum, hevent, -,
        hreports⟩
      · exact hold
      · -- a packet that has not been read reports nothing
        obtain rfl := TwccEvent.feedback.inj hevent
        obtain ⟨baseSeqNum, times, i, time, hread, -⟩ := hreports
        have hok := (parseRtcpTwccPacket_eq_ok_iff (m := events.foldl step create)).mpr
          ⟨baseSeqNum, times, hread, rfl⟩
        exact nomatch he.symm.trans hok

def firstThree : List UInt8 := [0, 0, 0, 1, 0, 0, 0, 1, 0, 0, 0, 3, 0, 0, 1, 0, 0x20, 3, 4, 4, 4, 0,
    0, 0]

/-- Three packets are sent, the last one when the first two have expired, and acknowledged. -/
def threeSent : List TwccEvent :=
  [.packetSent (numberedPacket 0) 10, .packetSent (numberedPacket 1) 20,
    .packetSent (numberedPacket 2) 30000000, .feedback firstThree]

def sentTwice : List TwccEvent :=
  [.packetSent (numberedPacket 0) 10, .packetSent (numberedPacket 0) 20]

end KvsWebrtc.TwccManager
