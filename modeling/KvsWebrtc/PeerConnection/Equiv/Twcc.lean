import KvsWebrtc.Common.SeqNum
import KvsWebrtc.PeerConnection.Twcc
import Mathlib.Tactic.SplitIfs

/-!
# What a feedback packet says

The parser reads its statuses without looking at the table, so it is two functions: `readFeedback`
finds the times that a packet stores, and `reportAll` stores them (`parseRtcpTwccPacket_eq_ok_iff`).
 The table afterwards is described by `table_reportAll_of_lt`, where the packet has no more statuses
than there are sequence numbers, and by `reportAll_cases` in general.
-/

namespace KvsWebrtc

namespace Twcc

/-- The times that the statuses store, from the first one on, and where the cursor ends. -/
def readStatuses (payload : List UInt8) : List Nat → Cursor → Except Failure
    (List (Option Nat) × Cursor)
  | [], c => .ok ([], c)
  | symbol :: symbols, c => do
    let (time, c) ← readStatus payload symbol c
    let (times, c) ← readStatuses payload symbols c
    .ok (time :: times, c)

def symbolsIn : List UInt8 → Int → Except Failure (List Nat)
  | hi :: lo :: rest, packetsRemaining =>
    if packetsRemaining > 0 then do
      let symbols := chunkSymbols (beNat [hi, lo]) packetsRemaining.toNat
      let more ← symbolsIn rest (packetsRemaining - symbols.length)
      .ok (symbols ++ more)
    else .ok []
  | _, packetsRemaining => if packetsRemaining > 0 then .error .outOfBounds else .ok []

def referenceTimeOf (reference : Nat) : Nat :=
  (convertTimescale (reference * 64) millisecondsPerSecond hundredsOfNanosInASecond).toNat

/-- The base sequence number of a packet and the times that it stores from there on. -/
def readFeedback (payload : List UInt8) : Except Failure (UInt16 × List (Option Nat)) := do
  let baseSeqNum ← uint16At payload 8
  let packetStatusCount ← uint16At payload 10
  let reference ← fieldAt payload 12 3
  let recvOffset ← TwccManager.skipChunks (payload.drop 16) packetStatusCount 16
  let symbols ← symbolsIn (payload.drop 16) packetStatusCount
  let (times, _) ← readStatuses payload symbols ⟨recvOffset, referenceTimeOf (beNat reference)⟩
  .ok (UInt16.ofNat baseSeqNum, times)

theorem readStatuses_cons_eq_ok_iff {payload : List UInt8} {symbol : Nat} {symbols : List Nat}
    {c c' : Cursor} {times : List (Option Nat)} :
    readStatuses payload (symbol :: symbols) c = .ok (times, c') ↔
      ∃ time c₁ more, readStatus payload symbol c = .ok (time, c₁) ∧
        readStatuses payload symbols c₁ = .ok (more, c') ∧ times = time :: more := by
  rw [readStatuses, bind_eq_ok_iff]
  constructor
  · rintro ⟨⟨time, c₁⟩, htime, h⟩
    obtain ⟨⟨more, c₂⟩, hmore, h⟩ := bind_eq_ok_iff.mp h
    obtain ⟨rfl, rfl⟩ := Prod.mk.inj (Except.ok.inj h)
    exact ⟨time, c₁, more, htime, hmore, rfl⟩
  · rintro ⟨time, c₁, more, htime, hmore, rfl⟩
    exact ⟨(time, c₁), htime, bind_eq_ok_iff.mpr ⟨(more, c'), hmore, rfl⟩⟩

theorem readStatuses_append_eq_ok_iff {payload : List UInt8} {symbols₁ symbols₂ : List Nat}
    {c c' : Cursor} {times : List (Option Nat)} :
    readStatuses payload (symbols₁ ++ symbols₂) c = .ok (times, c') ↔
      ∃ times₁ c₁ times₂, readStatuses payload symbols₁ c = .ok (times₁, c₁) ∧
        readStatuses payload symbols₂ c₁ = .ok (times₂, c') ∧ times = times₁ ++ times₂ := by
  induction symbols₁ generalizing c times with
  | nil =>
    constructor
    · intro h
      exact ⟨[], c, times, rfl, h, rfl⟩
    · rintro ⟨times₁, c₁, times₂, h₁, h₂, rfl⟩
      obtain ⟨rfl, rfl⟩ := Prod.mk.inj (Except.ok.inj h₁)
      exact h₂
  | cons symbol symbols₁ ih =>
    rw [List.cons_append, readStatuses_cons_eq_ok_iff]
    constructor
    · rintro ⟨time, c₁, more, htime, hmore, rfl⟩
      obtain ⟨times₁, c₂, times₂, h₁, h₂, rfl⟩ := ih.mp hmore
      exact ⟨time :: times₁, c₂, times₂,
        readStatuses_cons_eq_ok_iff.mpr ⟨time, c₁, times₁, htime, h₁, rfl⟩, h₂, rfl⟩
    · rintro ⟨times', c₂, times₂, h, h₂, rfl⟩
      obtain ⟨time, c₁, times₁, htime, h₁, rfl⟩ := readStatuses_cons_eq_ok_iff.mp h
      exact ⟨time, c₁, times₁ ++ times₂, htime, ih.mpr ⟨times₁, c₂, times₂, h₁, h₂, rfl⟩, rfl⟩

theorem length_readStatuses {payload : List UInt8} {symbols : List Nat} {c c' : Cursor}
    {times : List (Option Nat)} (h : readStatuses payload symbols c = .ok (times, c')) :
    times.length = symbols.length := by
  induction symbols generalizing c times with
  | nil =>
    obtain ⟨rfl, -⟩ := Prod.mk.inj (Except.ok.inj h)
    rfl
  | cons symbol symbols ih =>
    obtain ⟨time, c₁, more, -, hmore, rfl⟩ := readStatuses_cons_eq_ok_iff.mp h
    rw [List.length_cons, List.length_cons, ih hmore]

end Twcc

namespace TwccManager

open SeqNum Twcc

/-! ### Storing the times -/

def reportTime (m : TwccManager) (seqNum : UInt16) : Option Nat → TwccManager
  | none => m
  | some time => m.report seqNum time

/-- Stores the times of the statuses from a sequence number on. -/
def reportAll : TwccManager → UInt16 → List (Option Nat) → TwccManager
  | m, _, [] => m
  | m, seqNum, time :: times => reportAll (m.reportTime seqNum time) (seqNum + 1) times

theorem reportAll_append (m : TwccManager) (seqNum : UInt16) (times₁ times₂ : List (Option Nat)) :
    m.reportAll seqNum (times₁ ++ times₂) =
      (m.reportAll seqNum times₁).reportAll (seqNum + UInt16.ofNat times₁.length) times₂ := by
  induction times₁ generalizing m seqNum with
  | nil => simp [reportAll]
  | cons time times₁ ih =>
    rw [List.cons_append, reportAll, reportAll, ih, List.length_cons, UInt16.ofNat_add,
      UInt16.add_assoc, UInt16.add_comm 1]
    rfl

theorem foldlM_parseStatus_eq_ok_iff {payload : List UInt8} {symbols : List Nat}
    {s s' : ParseState} :
    symbols.foldlM (parseStatus payload) s = .ok s' ↔
      ∃ times c, readStatuses payload symbols s.cursor = .ok (times, c) ∧
        s' = ⟨s.manager.reportAll s.packetSeqNum times,
          s.packetSeqNum + UInt16.ofNat times.length, c⟩ := by
  induction symbols generalizing s with
  | nil =>
    constructor
    · intro h
      obtain rfl := Except.ok.inj h
      exact ⟨[], s.cursor, rfl, by simp [reportAll]⟩
    · rintro ⟨times, c, h, rfl⟩
      obtain ⟨rfl, rfl⟩ := Prod.mk.inj (Except.ok.inj h)
      simp [reportAll, pure, Except.pure]
  | cons symbol symbols ih =>
    rw [List.foldlM_cons, bind_eq_ok_iff]
    have hnext : ∀ n, s.packetSeqNum + 1 + UInt16.ofNat n = s.packetSeqNum +
        UInt16.ofNat (n + 1) := by
      intro n
      rw [UInt16.ofNat_add, UInt16.add_assoc, UInt16.add_comm 1]
      rfl
    constructor
    · rintro ⟨s₁, hs₁, h⟩
      rw [parseStatus, bind_eq_ok_iff] at hs₁
      obtain ⟨⟨time, c₁⟩, htime, hs₁⟩ := hs₁
      obtain rfl := Except.ok.inj hs₁
      obtain ⟨times, c, htimes, rfl⟩ := ih.mp h
      refine ⟨time :: times, c, readStatuses_cons_eq_ok_iff.mpr ⟨time, c₁, times, htime, htimes,
        rfl⟩, ?_⟩
      rw [List.length_cons, ← hnext]
      cases time <;> rfl
    · rintro ⟨times', c, h, rfl⟩
      obtain ⟨time, c₁, times, htime, htimes, rfl⟩ := readStatuses_cons_eq_ok_iff.mp h
      refine ⟨_, bind_eq_ok_iff.mpr ⟨(time, c₁), htime, rfl⟩, ih.mpr ⟨times, c, htimes, ?_⟩⟩
      rw [List.length_cons, ← hnext]
      cases time <;> rfl

theorem parseChunks_eq_ok_iff {payload bytes : List UInt8} {packetsRemaining : Int}
    {s s' : ParseState} :
    parseChunks payload bytes packetsRemaining s = .ok s' ↔
      ∃ symbols times c, symbolsIn bytes packetsRemaining = .ok symbols ∧
        readStatuses payload symbols s.cursor = .ok (times, c) ∧
        s' = ⟨s.manager.reportAll s.packetSeqNum times,
          s.packetSeqNum + UInt16.ofNat times.length, c⟩ := by
  -- no chunk is left, or no packet
  have hstop : ∀ {s : ParseState}, (Except.ok s : Except Failure ParseState) = .ok s' ↔
      ∃ symbols times c, (Except.ok [] : Except Failure (List Nat)) = .ok symbols ∧
        readStatuses payload symbols s.cursor = .ok (times, c) ∧
        s' = ⟨s.manager.reportAll s.packetSeqNum times,
          s.packetSeqNum + UInt16.ofNat times.length, c⟩ := by
    intro s
    constructor
    · intro h
      obtain rfl := Except.ok.inj h
      exact ⟨[], [], s.cursor, rfl, rfl, by simp [reportAll]⟩
    · rintro ⟨symbols, times, c, hsymbols, h, rfl⟩
      obtain rfl := Except.ok.inj hsymbols
      obtain ⟨rfl, rfl⟩ := Prod.mk.inj (Except.ok.inj h)
      simp [reportAll]
  induction bytes, packetsRemaining using symbolsIn.induct generalizing s with
  | case1 hi lo rest packetsRemaining hpos symbols =>
    rename_i ih
    rw [parseChunks, symbolsIn, if_pos hpos, if_pos hpos, bind_eq_ok_iff]
    simp only [bind_eq_ok_iff, foldlM_parseStatus_eq_ok_iff]
    constructor
    · rintro ⟨s₁, ⟨times₁, c₁, h₁, rfl⟩, h⟩
      obtain ⟨more, times₂, c, hmore, h₂, rfl⟩ := ih.mp h
      refine ⟨_, times₁ ++ times₂, c, ⟨more, hmore, rfl⟩,
        readStatuses_append_eq_ok_iff.mpr ⟨times₁, c₁, times₂, h₁, h₂, rfl⟩, ?_⟩
      rw [reportAll_append, List.length_append, UInt16.ofNat_add, UInt16.add_assoc]
    · rintro ⟨all, times, c, ⟨more, hmore, hall⟩, h, rfl⟩
      obtain rfl := Except.ok.inj hall
      obtain ⟨times₁, c₁, times₂, h₁, h₂, rfl⟩ := readStatuses_append_eq_ok_iff.mp h
      refine ⟨_, ⟨times₁, c₁, h₁, rfl⟩, ih.mpr ⟨more, times₂, c, hmore, h₂, ?_⟩⟩
      rw [reportAll_append, List.length_append, UInt16.ofNat_add, UInt16.add_assoc]
  | case2 hi lo rest packetsRemaining hpos =>
    rw [parseChunks, symbolsIn, if_neg hpos, if_neg hpos]
    exact hstop
  | case3 bytes packetsRemaining hpos hbytes =>
    rw [parseChunks, symbolsIn, if_pos hpos, if_pos hpos]
    · constructor
      · intro h
        exact nomatch h
      · rintro ⟨symbols, times, c, hsymbols, -⟩
        exact nomatch hsymbols
    · exact hbytes
    · exact hbytes
  | case4 bytes packetsRemaining hpos hbytes =>
    rw [parseChunks, symbolsIn, if_neg hpos, if_neg hpos]
    · exact hstop
    · exact hbytes
    · exact hbytes

/-- **What the parser does**: it stores the times that the packet says, which do not depend on the
manager. -/
theorem parseRtcpTwccPacket_eq_ok_iff {payload : List UInt8} {m m' : TwccManager} :
    m.parseRtcpTwccPacket payload = .ok m' ↔
      ∃ baseSeqNum times, readFeedback payload = .ok (baseSeqNum, times) ∧
        m' = { m with prevReportedBaseSeqNum := baseSeqNum }.reportAll baseSeqNum times := by
  rw [parseRtcpTwccPacket, parseRtcpTwccPacketIn, readFeedback]
  simp only [bind_eq_ok_iff, parseChunks_eq_ok_iff]
  constructor
  · rintro ⟨base, hbase, count, hcount, reference, hreference, offset, hoffset, s,
      ⟨symbols, times, c, hsymbols, htimes, rfl⟩, h⟩
    obtain rfl := Except.ok.inj h
    exact ⟨_, times, ⟨base, hbase, count, hcount, reference, hreference, offset, hoffset, symbols,
      hsymbols, (times, c), htimes, rfl⟩, rfl⟩
  · rintro ⟨baseSeqNum, times, ⟨base, hbase, count, hcount, reference, hreference, offset, hoffset,
      symbols, hsymbols, ⟨times', c⟩, htimes, h⟩, rfl⟩
    obtain ⟨rfl, rfl⟩ := Prod.mk.inj (Except.ok.inj h)
    exact ⟨base, hbase, count, hcount, reference, hreference, offset, hoffset, _,
      ⟨symbols, times', c, hsymbols, htimes, rfl⟩, rfl⟩

theorem onRtcpTwccPacket_eq (m : TwccManager) (payload : List UInt8) :
    m.onRtcpTwccPacket payload = m.parseRtcpTwccPacket payload >>= fun m =>
      .ok (m.updateTwccHashTable.1, if m.updateTwccHashTable.2.duration > 0 then
        some m.updateTwccHashTable.2 else none) := rfl

/-! ### The table afterwards -/

end TwccManager

def TwccRtpPacketInfo.setTime (info : TwccRtpPacketInfo) : Option Nat → TwccRtpPacketInfo
  | none => info
  | some time => { info with remoteTimeKvs := time }

namespace TwccManager

open SeqNum

theorem table_reportTime (m : TwccManager) (seqNum : UInt16) (time : Option Nat) (key : UInt64) :
    (m.reportTime seqNum time).twccRtpPktInfosHashTable key =
      if key = seqNum.toUInt64 then (m.twccRtpPktInfosHashTable key).map (·.setTime time)
      else m.twccRtpPktInfosHashTable key := by
  cases time with
  | none =>
    have hsame : (fun info : TwccRtpPacketInfo => info.setTime none) = id := rfl
    rw [hsame, Option.map_id, id, ite_self]
    rfl
  | some time =>
    show Function.update _ _ _ key = _
    rw [Function.update_apply]
    split_ifs with hkey
    · rw [hkey]
      rfl
    · rfl

/-- A packet stores times in the table, and the last number with one. -/
theorem reportAll_frame (m : TwccManager) (seqNum : UInt16) (times : List (Option Nat)) :
    m.reportAll seqNum times =
      { m with
        twccRtpPktInfosHashTable := (m.reportAll seqNum times).twccRtpPktInfosHashTable
        lastReportedSeqNum := (m.reportAll seqNum times).lastReportedSeqNum } := by
  induction times generalizing m seqNum with
  | nil => rfl
  | cons time times ih =>
    rw [reportAll, ih]
    cases time <;> rfl

theorem table_reportAll_of_ne {m : TwccManager} {seqNum : UInt16} {times : List (Option Nat)}
    {key : UInt64} (h : ∀ i < times.length, key ≠ (seqNum + UInt16.ofNat i).toUInt64) :
    (m.reportAll seqNum times).twccRtpPktInfosHashTable key = m.twccRtpPktInfosHashTable key := by
  induction times generalizing m seqNum with
  | nil => rfl
  | cons time times ih =>
    rw [reportAll, ih, table_reportTime, if_neg]
    · have hzero := h 0 (Nat.zero_lt_succ _)
      rwa [show UInt16.ofNat 0 = 0 from rfl, UInt16.add_zero] at hzero
    · intro i hi
      have hsucc := h (i + 1) (Nat.succ_lt_succ hi)
      rwa [add_ofNat_succ] at hsucc

/-- **The table after a packet** with no more statuses than there are sequence numbers. -/
theorem table_reportAll_of_lt {m : TwccManager} {seqNum : UInt16} {times : List (Option Nat)}
    (hlen : times.length ≤ 65536) {i : Nat} {time : Option Nat} (htime : times[i]? = some time) :
    (m.reportAll seqNum times).twccRtpPktInfosHashTable (seqNum + UInt16.ofNat i).toUInt64 =
      (m.twccRtpPktInfosHashTable (seqNum + UInt16.ofNat i).toUInt64).map (·.setTime time) := by
  induction times generalizing m seqNum i with
  | nil => exact nomatch htime
  | cons first times ih =>
    have hshort : times.length < 65536 := hlen
    rw [reportAll]
    cases i with
    | zero =>
      -- none of the other statuses comes back to the first number
      obtain rfl := Option.some.inj htime
      have hzero : seqNum + UInt16.ofNat 0 = seqNum := UInt16.add_zero seqNum
      rw [hzero, table_reportAll_of_ne, table_reportTime, if_pos rfl]
      intro i hi hkey
      have heq := toUInt64_inj.mp hkey
      rw [← add_ofNat_succ] at heq
      exact add_ofNat_ne_self (Nat.zero_lt_succ i) (by omega) heq.symm
    | succ i =>
      have hi : i < times.length := Nat.lt_of_succ_lt_succ (List.getElem?_eq_some_iff.mp htime).1
      have hne : (seqNum + UInt16.ofNat (i + 1)).toUInt64 ≠ seqNum.toUInt64 := fun hkey =>
        add_ofNat_ne_self (Nat.zero_lt_succ i) (by omega) (toUInt64_inj.mp hkey)
      rw [add_ofNat_succ] at hne ⊢
      rw [ih (by omega) htime, table_reportTime, if_neg hne]

/-- What a packet makes of a record, however long it is: the record stays, and its time is the one
before or one of those that the packet stores for its number. -/
theorem reportAll_cases {m : TwccManager} {seqNum : UInt16} {times : List (Option Nat)}
    {key : UInt64} {info' : TwccRtpPacketInfo}
    (h : (m.reportAll seqNum times).twccRtpPktInfosHashTable key = some info') :
    ∃ info, m.twccRtpPktInfosHashTable key = some info ∧ (info' = info ∨
      ∃ i time, times[i]? = some (some time) ∧ key = (seqNum + UInt16.ofNat i).toUInt64 ∧
        info' = { info with remoteTimeKvs := time }) := by
  induction times generalizing m seqNum with
  | nil => exact ⟨info', h, .inl rfl⟩
  | cons first times ih =>
    rw [reportAll] at h
    obtain ⟨info₁, hinfo₁, hcases⟩ := ih h
    rw [table_reportTime] at hinfo₁
    have hinfo : ∃ info, m.twccRtpPktInfosHashTable key = some info ∧
        (info₁ = info ∨ ∃ time, first = some time ∧ key = seqNum.toUInt64 ∧
          info₁ = { info with remoteTimeKvs := time }) := by
      split_ifs at hinfo₁ with hkey
      · obtain ⟨info, hinfo, rfl⟩ := Option.map_eq_some_iff.mp hinfo₁
        refine ⟨info, hinfo, ?_⟩
        cases first with
        | none => exact .inl rfl
        | some time => exact .inr ⟨time, rfl, hkey, rfl⟩
      · exact ⟨info₁, hinfo₁, .inl rfl⟩
    obtain ⟨info, hinfo, hfirst⟩ := hinfo
    refine ⟨info, hinfo, ?_⟩
    rcases hcases with rfl | ⟨i, time, htime, hkey, rfl⟩
    · rcases hfirst with rfl | ⟨time, rfl, hkey, rfl⟩
      · exact .inl rfl
      · refine .inr ⟨0, time, rfl, ?_, rfl⟩
        rw [hkey]
        congr 1
        exact (UInt16.add_zero seqNum).symm
    · refine .inr ⟨i + 1, time, htime, ?_, ?_⟩
      · rw [hkey, add_ofNat_succ]
      · rcases hfirst with rfl | ⟨_, rfl, -, rfl⟩ <;> rfl

end TwccManager

end KvsWebrtc
