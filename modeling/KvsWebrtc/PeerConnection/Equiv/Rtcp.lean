import KvsWebrtc.PeerConnection.Equiv.Twcc
import KvsWebrtc.PeerConnection.Rtcp
import KvsWebrtc.Rtcp.Equiv.RtcpPacket

/-!
# Handling RTCP packets safely

The payload of a packet lies in the buffer that has been received, but its handler may read behind
it. `RightlyHandled` says that it does not, and that its loops end soon enough; `Roomy` is what the
payload has to hold for this.  A compound buffer is handled rightly if all of its packets are roomy,
and only then (`rightly_handled_iff`).

Reports, REMBs and NACKs always are: their handlers look at the length first.  Those of FIR, PLI and
SLI read the second word of a payload that may have none.  Transport-wide feedback declares the
number of its statuses: its parser goes on behind the payload until the chunks it finds there make
up for them, and it reads the deltas without looking at the length at all.
-/

namespace KvsWebrtc

/-! ### Reads -/

theorem exists_bind_eq_ok_iff {ε α β : Type} {x : Except ε α} {f : α → Except ε β} :
    (∃ r, (x >>= f) = .ok r) ↔ ∃ a, x = .ok a ∧ ∃ r, f a = .ok r := by
  simp only [bind_eq_ok_iff]
  exact ⟨fun ⟨r, a, ha, hr⟩ => ⟨a, ha, r, hr⟩, fun ⟨a, ha, r, hr⟩ => ⟨r, a, ha, hr⟩⟩

theorem uint16At_ok_iff {payload : List UInt8} {offset : Nat} {v : Nat} :
    Twcc.uint16At payload offset = .ok v ↔
      offset + 2 ≤ payload.length ∧ v = beNat (bytesAt payload offset 2) := by
  rw [Twcc.uint16At, fieldAt]
  split_ifs with hle
  · simp only [Except.map, Except.ok.injEq, hle, true_and, eq_comm]
  · simp [Except.map, hle]

/-! ### Transport-wide feedback -/

namespace Twcc

/-- The chunks in some bytes for `n` statuses, as far as there are any. -/
def chunksFor : List UInt8 → Nat → List Nat
  | hi :: lo :: rest, n =>
    if n = 0 then []
    else
      let packetChunk := beNat [hi, lo]
      packetChunk :: chunksFor rest (n - (chunkSymbols packetChunk n).length)
  | _, _ => []

/-- The symbols that the parser takes from these chunks. -/
def statusesFor : List UInt8 → Nat → List Nat
  | hi :: lo :: rest, n =>
    if n = 0 then []
    else
      let symbols := chunkSymbols (beNat [hi, lo]) n
      symbols ++ statusesFor rest (n - symbols.length)
  | _, _ => []

def deltaSize : Nat → Nat
  | 1 => 1
  | 2 => 2
  | _ => 0

/-- The number of statuses that a feedback packet declares. -/
def statusCount (payload : List UInt8) : Nat := beNat (bytesAt payload 10 2)

/-- **Feedback that can be read**: there is a header, the chunks are enough for the statuses, and
the deltas are there. -/
structure Roomy (payload : List UInt8) : Prop where
  header : 16 ≤ payload.length
  covered : statusCount payload ≤ (statusesFor (payload.drop 16) (statusCount payload)).length
  deltas : 16 + 2 * (chunksFor (payload.drop 16) (statusCount payload)).length +
    ((statusesFor (payload.drop 16) (statusCount payload)).map deltaSize).sum ≤ payload.length

instance (payload : List UInt8) : Decidable (Roomy payload) :=
  decidable_of_iff (_ ∧ _ ∧ _)
    ⟨fun ⟨header, covered, deltas⟩ => ⟨header, covered, deltas⟩, fun h =>
    ⟨h.header, h.covered, h.deltas⟩⟩

/-! ### The chunks -/

theorem statusesFor_zero (bytes : List UInt8) : statusesFor bytes 0 = [] := by
  match bytes with
  | [] => rfl
  | [_] => rfl
  | _ :: _ :: _ => rw [statusesFor, if_pos rfl]

theorem chunksFor_zero (bytes : List UInt8) : chunksFor bytes 0 = [] := by
  match bytes with
  | [] => rfl
  | [_] => rfl
  | _ :: _ :: _ => rw [chunksFor, if_pos rfl]

theorem length_chunkSymbols_eq (packetChunk n : Nat) :
    (chunkSymbols packetChunk n).length =
      if isRunlen packetChunk then runlenGet packetChunk else min
      (statusVectorCount packetChunk) n := by
  rw [chunkSymbols]
  split_ifs <;> simp

/-- A chunk has at most the statuses that are left, or those of the longest run. -/
theorem length_chunkSymbols_le (packetChunk n : Nat) :
    (chunkSymbols packetChunk n).length ≤ max n (2 ^ 13 - 1) := by
  rw [length_chunkSymbols_eq]
  split_ifs
  · exact Nat.le_trans Nat.and_le_right (Nat.le_max_right _ _)
  · exact Nat.le_trans (Nat.min_le_right _ _) (Nat.le_max_left _ _)

theorem length_chunksFor_le (bytes : List UInt8) (n : Nat) :
    2 * (chunksFor bytes n).length ≤ bytes.length := by
  induction bytes, n using chunksFor.induct with
  | case1 hi lo rest => simp [chunksFor]
  | case2 hi lo rest n h packetChunk ih =>
    have hstep : chunksFor (hi :: lo :: rest) n =
        packetChunk :: chunksFor rest (n - (chunkSymbols packetChunk n).length) := by
      rw [chunksFor, if_neg h]
    rw [hstep, List.length_cons, List.length_cons, List.length_cons]
    omega
  | case3 bytes n h =>
    rw [chunksFor]
    · exact Nat.zero_le _
    · exact h

/-- Only the last run goes beyond the statuses that are left. -/
theorem length_statusesFor_le (bytes : List UInt8) (n : Nat) :
    (statusesFor bytes n).length ≤ n + 2 ^ 13 := by
  induction bytes, n using statusesFor.induct with
  | case1 hi lo rest => simp [statusesFor]
  | case2 hi lo rest n h symbols ih =>
    have hchunk : symbols.length ≤ max n (2 ^ 13 - 1) := length_chunkSymbols_le _ n
    rw [statusesFor, if_neg h]
    show (symbols ++ statusesFor rest (n - symbols.length)).length ≤ _
    rw [List.length_append]
    by_cases hlast : n ≤ symbols.length
    · rw [Nat.sub_eq_zero_of_le hlast, statusesFor_zero]
      simp only [List.length_nil]
      omega
    · omega
  | case3 bytes n h =>
    rw [statusesFor]
    · exact Nat.zero_le _
    · exact h

/-- The loop over the chunks takes their symbols, and fails if these are not enough. -/
theorem symbolsIn_eq_ok_iff {bytes : List UInt8} {packetsRemaining : Int} {symbols : List Nat} :
    symbolsIn bytes packetsRemaining = .ok symbols ↔
      packetsRemaining.toNat ≤ (statusesFor bytes packetsRemaining.toNat).length ∧
        symbols = statusesFor bytes packetsRemaining.toNat := by
  induction bytes, packetsRemaining using symbolsIn.induct generalizing symbols with
  | case1 hi lo rest packetsRemaining hpos first =>
    rename_i ih
    -- a chunk can have more symbols than there are packets left
    have hleft : (packetsRemaining - first.length).toNat =
        packetsRemaining.toNat - first.length := by omega
    rw [symbolsIn, if_pos hpos, bind_eq_ok_iff, statusesFor, if_neg (by omega)]
    show (∃ more, symbolsIn rest (packetsRemaining - first.length) = .ok more ∧
        Except.ok (first ++ more) = .ok symbols) ↔
      _ ≤ (first ++ statusesFor rest (packetsRemaining.toNat - first.length)).length ∧
        symbols = first ++ statusesFor rest (packetsRemaining.toNat - first.length)
    simp only [ih, hleft, List.length_append]
    constructor
    · rintro ⟨more, ⟨hcovered, rfl⟩, h⟩
      exact ⟨by omega, (Except.ok.inj h).symm⟩
    · rintro ⟨hcovered, rfl⟩
      exact ⟨_, ⟨by omega, rfl⟩, rfl⟩
  | case2 hi lo rest packetsRemaining hpos =>
    have hzero : packetsRemaining.toNat = 0 := by omega
    rw [symbolsIn, if_neg hpos, hzero, statusesFor_zero]
    constructor
    · intro h
      exact ⟨Nat.zero_le _, (Except.ok.inj h).symm⟩
    · rintro ⟨-, rfl⟩
      rfl
  | case3 bytes packetsRemaining hpos hbytes =>
    rw [symbolsIn, if_pos hpos, statusesFor]
    · constructor
      · intro h
        cases h
      · rintro ⟨hcovered, -⟩
        simp only [List.length_nil] at hcovered
        omega
    · exact hbytes
    · exact hbytes
  | case4 bytes packetsRemaining hpos hbytes =>
    rw [symbolsIn, if_neg hpos, statusesFor]
    · constructor
      · intro h
        exact ⟨by simp only [List.length_nil]; omega, (Except.ok.inj h).symm⟩
      · rintro ⟨-, rfl⟩
        rfl
    · exact hbytes
    · exact hbytes

/-- The loop that looks for the first delta goes over the same chunks. -/
theorem skipChunks_eq {bytes : List UInt8} {packetsRemaining : Int} {chunkOffset : Nat}
    (heven : bytes.length % 2 = 0) :
    TwccManager.skipChunks bytes packetsRemaining chunkOffset =
      .ok (chunkOffset + 2 * (chunksFor bytes packetsRemaining.toNat).length) := by
  induction bytes, packetsRemaining, chunkOffset using TwccManager.skipChunks.induct with
  | case1 packetsRemaining chunkOffset => rfl
  | case2 b packetsRemaining chunkOffset hpos => simp at heven
  | case3 b packetsRemaining chunkOffset hpos => simp at heven
  | case4 hi lo rest packetsRemaining chunkOffset hpos packetChunk packets ih =>
    have hlen := length_chunkSymbols_eq packetChunk packetsRemaining.toNat
    have hleft : (packetsRemaining - packets).toNat =
        packetsRemaining.toNat - (chunkSymbols packetChunk packetsRemaining.toNat).length := by
      show (packetsRemaining - if isRunlen packetChunk then _ else _).toNat = _
      split_ifs at hlen ⊢ <;> omega
    have hrest : rest.length % 2 = 0 := by
      simp only [List.length_cons] at heven
      omega
    rw [TwccManager.skipChunks, if_pos hpos, chunksFor, if_neg (by omega)]
    show TwccManager.skipChunks rest (packetsRemaining - packets) (chunkOffset + 2) =
      .ok (chunkOffset + 2 * (packetChunk :: chunksFor rest (packetsRemaining.toNat -
        (chunkSymbols packetChunk packetsRemaining.toNat).length)).length)
    rw [ih hrest, hleft, List.length_cons]
    congr 1
    omega
  | case5 hi lo rest packetsRemaining chunkOffset hpos =>
    have hzero : packetsRemaining.toNat = 0 := by omega
    rw [TwccManager.skipChunks, if_neg hpos, hzero, chunksFor_zero]
    rfl

/-! ### The deltas -/

theorem recvOffset_receive (recvOffset referenceTime : Nat) (recvDelta : Int) :
    (receive recvOffset referenceTime recvDelta).2.recvOffset = recvOffset := by
  rw [receive]
  split_ifs <;> rfl

theorem readStatus_ok_iff {payload : List UInt8} (symbol : Nat) {c : Cursor}
    (h : c.recvOffset ≤ payload.length) :
    (∃ r, readStatus payload symbol c = .ok r) ↔ c.recvOffset + deltaSize symbol ≤
      payload.length := by
  match symbol with
  | 0 => simpa [readStatus, deltaSize] using h
  | 1 => simp [readStatus, deltaSize, exists_bind_eq_ok_iff, fieldAt_ok_iff]
  | 2 => simp [readStatus, deltaSize, exists_bind_eq_ok_iff, uint16At_ok_iff]
  | _ + 3 => simpa [readStatus, deltaSize] using h

theorem recvOffset_readStatus {payload : List UInt8} {symbol : Nat} {c : Cursor}
    {r : Option Nat × Cursor} (h : readStatus payload symbol c = .ok r) :
    r.2.recvOffset = c.recvOffset + deltaSize symbol := by
  match symbol with
  | 0 =>
    obtain rfl := Except.ok.inj h
    rfl
  | 1 =>
    obtain ⟨delta, -, hr⟩ := bind_eq_ok_iff.mp h
    obtain rfl := Except.ok.inj hr
    exact recvOffset_receive _ _ _
  | 2 =>
    obtain ⟨delta, -, hr⟩ := bind_eq_ok_iff.mp h
    obtain rfl := Except.ok.inj hr
    exact recvOffset_receive _ _ _
  | _ + 3 =>
    obtain rfl := Except.ok.inj h
    rfl

/-- The statuses are read if all of their deltas are there. -/
theorem readStatuses_ok_iff {payload : List UInt8} {symbols : List Nat} {c : Cursor}
    (h : c.recvOffset ≤ payload.length) :
    (∃ r, readStatuses payload symbols c = .ok r) ↔
      c.recvOffset + (symbols.map deltaSize).sum ≤ payload.length := by
  induction symbols generalizing c with
  | nil => simpa [readStatuses] using h
  | cons symbol symbols ih =>
    have hsum : ((symbol :: symbols).map deltaSize).sum = deltaSize symbol +
        (symbols.map deltaSize).sum := by
      simp
    rw [hsum, readStatuses, exists_bind_eq_ok_iff]
    constructor
    · rintro ⟨⟨time, c₁⟩, hread, hmore⟩
      obtain ⟨more, hmore, -⟩ := exists_bind_eq_ok_iff.mp hmore
      have hoffset : c₁.recvOffset = c.recvOffset + deltaSize symbol := recvOffset_readStatus hread
      have hle := (readStatus_ok_iff symbol h).mp ⟨_, hread⟩
      have hrest := (ih (by omega)).mp ⟨_, hmore⟩
      omega
    · intro hle
      obtain ⟨⟨time, c₁⟩, hread⟩ := (readStatus_ok_iff symbol h).mpr (by omega)
      have hoffset : c₁.recvOffset = c.recvOffset + deltaSize symbol := recvOffset_readStatus hread
      obtain ⟨r, hr⟩ := (ih (c := c₁) (by omega)).mpr (by omega)
      exact ⟨(time, c₁), hread, exists_bind_eq_ok_iff.mpr ⟨r, hr, _, rfl⟩⟩

/-- **A feedback packet is read to its end** if it is roomy, and only then. -/
theorem readFeedback_ok_iff {payload : List UInt8} (haligned : payload.length % 4 = 0) :
    (∃ r, readFeedback payload = .ok r) ↔ Roomy payload := by
  have hlen : (payload.drop 16).length = payload.length - 16 := List.length_drop
  have hchunks := length_chunksFor_le (payload.drop 16) (statusCount payload)
  simp only [readFeedback, exists_bind_eq_ok_iff, uint16At_ok_iff, fieldAt_ok_iff,
    symbolsIn_eq_ok_iff, skipChunks_eq (show (payload.drop 16).length % 2 = 0 by omega),
    Except.ok.injEq]
  constructor
  · rintro ⟨_, -, _, ⟨-, rfl⟩, _, ⟨hheader, -⟩, _, rfl, _, ⟨hcovered, rfl⟩, r, hr, -⟩
    have hheader : 16 ≤ payload.length := by omega
    exact ⟨hheader, hcovered, (readStatuses_ok_iff (by
      show 16 + 2 * (chunksFor (payload.drop 16) (statusCount payload)).length ≤ _
      omega)).mp ⟨r, hr⟩⟩
  · rintro ⟨hheader, hcovered, hdeltas⟩
    obtain ⟨r, hr⟩ :=
      (readStatuses_ok_iff (c := ⟨_, referenceTimeOf (beNat (bytesAt payload 12 3))⟩) (by
      show 16 + 2 * (chunksFor (payload.drop 16) (statusCount payload)).length ≤ _
      omega)).mpr hdeltas
    exact ⟨_, ⟨by omega, rfl⟩, _, ⟨by omega, rfl⟩, _, ⟨by omega, rfl⟩, _, rfl, _, ⟨hcovered, rfl⟩,
      r, hr, _, rfl⟩

end Twcc

namespace TwccManager

open Twcc

theorem onRtcpTwccPacket_ok_iff {payload : List UInt8} (haligned : payload.length % 4 = 0)
    (m : TwccManager) : (∃ r, m.onRtcpTwccPacket payload = .ok r) ↔ Roomy payload := by
  rw [onRtcpTwccPacket_eq, exists_bind_eq_ok_iff, ← readFeedback_ok_iff haligned]
  constructor
  · rintro ⟨m', hm', -⟩
    obtain ⟨baseSeqNum, times, hread, -⟩ := parseRtcpTwccPacket_eq_ok_iff.mp hm'
    exact ⟨_, hread⟩
  · rintro ⟨⟨baseSeqNum, times⟩, hread⟩
    exact ⟨_, parseRtcpTwccPacket_eq_ok_iff.mpr ⟨baseSeqNum, times, hread, rfl⟩, _, rfl⟩

end TwccManager

namespace Rtcp

/-! ### What is to be shown -/

/-- A loop of a handler: its rounds, of which a `break` may leave some out, and what bounds them. -/
structure LoopRun where
  rounds : Nat
  bound : Nat
deriving DecidableEq

def nackTarget (c : KvsPeerConnection) (payload : List UInt8) :
    Option (SenderTransceiver × Retransmitter) :=
  match rtcpNackSsrcs payload with
  | .error _ => none
  | .ok (_, receiverSsrc) => do
    let i ← findTransceiverBySsrc c.transceivers receiverSsrc
    let t ← c.transceivers[i]?
    let r ← t.retransmitter
    some (t, r)

/-- The loops over the entries of a NACK and the bits of their masks, and then those over the
sequence numbers and over the packets that are found for them. -/
def nackLoops (c : KvsPeerConnection) (payload : List UInt8) : List LoopRun :=
  match readNack payload with
  | .error _ => []
  | .ok entries =>
    [⟨entries.length, payload.length⟩, ⟨16 * entries.length, 16 * payload.length⟩] ++
      match nackTarget c payload with
      | none => []
      | some (t, r) =>
        [⟨(rtcpNackListGet r payload).1, 17 * payload.length⟩,
          ⟨(t.nacked r payload).1.length, 17 * payload.length⟩]

def rembLoops (payload : List UInt8) : List LoopRun :=
  match rembValueGet payload with
  | .ok (.ok value) =>
    [⟨value.ssrcList.length, payload.length⟩, ⟨value.ssrcList.length, payload.length⟩]
  | _ => []

/-- The two loops over the chunks, those over the statuses of a chunk in all, and the one over the
sequence numbers, which are 16-bit numbers. -/
def twccLoops (m : TwccManager) (payload : List UInt8) : List LoopRun :=
  let count := Twcc.statusCount payload
  let chunks := Twcc.chunksFor (payload.drop 16) count
  let statuses := Twcc.statusesFor (payload.drop 16) count
  [⟨chunks.length, payload.length⟩, ⟨chunks.length, payload.length⟩,
    ⟨statuses.length, count + 2 ^ 13⟩] ++
    match m.parseRtcpTwccPacket payload with
    | .error _ => []
    | .ok m => [⟨m.reportedSeqNums.length, 2 ^ 16⟩]

def Handler.loops (c : KvsPeerConnection) (p : RtcpPacket) : Handler → List LoopRun
  | .nack => nackLoops c p.payload
  | .remb => rembLoops p.payload
  | .twcc =>
    match c.twccManager, c.estimating with
    | some m, true => twccLoops m p.payload
    | _, _ => []
  | .fir | .pli | .sli | .senderReport | .receiverReport | .unhandled => []

def Handler.Roomy (c : KvsPeerConnection) (p : RtcpPacket) : Handler → Prop
  | .fir | .pli | .sli => 8 ≤ p.payload.length
  | .twcc => c.twccManager.isSome ∧ c.estimating → Twcc.Roomy p.payload
  | .nack | .remb | .senderReport | .receiverReport | .unhandled => True

def Roomy (h : KvsPeerConnection × RtcpPacket) : Prop :=
  ∀ handler, handlerOf h.2 = .ok handler → handler.Roomy h.1 h.2

/-- **A compound buffer is handled safely**: every handler reads its own payload only, and its loops
end in time. -/
structure SafelyHandled (construct : ConstructRtx) (c : KvsPeerConnection) (buff : List UInt8) :
    Prop where
  inside : ∃ outcome, onRtcpPacket c construct buff = .ok outcome
  ends : ∀ h ∈ handled c construct buff, ∀ handler, handlerOf h.2 = .ok handler →
    ∀ l ∈ handler.loops h.1 h.2, l.rounds ≤ l.bound

/-! ### The handlers -/

section

variable {c : KvsPeerConnection} {p : RtcpPacket} {construct : ConstructRtx}

theorem payload_aligned (p : RtcpPacket) : p.payload.length % 4 = 0 := by
  rw [p.payload_length]
  exact Nat.mul_mod_left _ _

/-- FIR, SLI and PLI need two words. -/
theorem onMediaSsrc_ok_iff {memory : List UInt8} (events : Nat → List RtcpEvent)
    (unknown : Status) :
    (∃ o, onMediaSsrc c memory events unknown = .ok o) ↔ 8 ≤ memory.length := by
  rw [onMediaSsrc, exists_bind_eq_ok_iff]
  simp only [uint32At_ok_iff]
  constructor
  · rintro ⟨_, ⟨hle, rfl⟩, -⟩
    exact hle
  · intro hle
    refine ⟨_, ⟨hle, rfl⟩, ?_⟩
    split <;> exact ⟨_, rfl⟩

theorem onRtcpSenderReport_ok : ∃ o, onRtcpSenderReport c p = .ok o := by
  rw [onRtcpSenderReport]
  split_ifs with hlen
  · exact ⟨_, rfl⟩
  · have hlen : p.payload.length = 24 := not_not.mp hlen
    rw [exists_bind_eq_ok_iff]
    refine ⟨_, uint32At_ok_iff.mpr ⟨by omega, rfl⟩, ?_⟩
    split
    · exact ⟨_, rfl⟩
    · simp [exists_bind_eq_ok_iff, uint32At_ok_iff, fieldAt_ok_iff, hlen]

theorem onRtcpReceiverReport_ok : ∃ o, onRtcpReceiverReport c p = .ok o := by
  rw [onRtcpReceiverReport]
  split_ifs with hlen
  · exact ⟨_, rfl⟩
  · have hlen : p.payload.length = 28 := not_not.mp hlen
    simp only [exists_bind_eq_ok_iff]
    refine ⟨_, uint32At_ok_iff.mpr ⟨by omega, rfl⟩, _, uint32At_ok_iff.mpr ⟨by omega, rfl⟩, ?_⟩
    split
    · exact ⟨_, rfl⟩
    · simp [exists_bind_eq_ok_iff, uint32At_ok_iff, fieldAt_ok_iff, hlen]

theorem rembValueGet_ok (payload : List UInt8) :
    ∃ r, rembValueGet payload = .ok r ∧ ∀ value, r = .ok value → value.ssrcList.length ≤
      payload.length := by
  refine ⟨_, rembValueGet_eq payload, ?_⟩
  intro value hvalue
  split_ifs at hvalue with hlen hssrcs
  obtain rfl := Except.ok.inj hvalue
  rw [length_rembSsrcs]
  omega

theorem onRtcpRembPacket_ok : ∃ o, onRtcpRembPacket c p = .ok o := by
  obtain ⟨r, hr, -⟩ := rembValueGet_ok p.payload
  rw [onRtcpRembPacket, exists_bind_eq_ok_iff]
  refine ⟨r, hr, ?_⟩
  cases r <;> exact ⟨_, rfl⟩

/-- The entries of a NACK are read, and their sequence numbers are those of the list. -/
theorem readNackEntries_ok {bytes : List UInt8} (haligned : bytes.length % 4 = 0) :
    ∃ entries, readNackEntries bytes = .ok entries ∧ 4 * entries.length = bytes.length ∧
      nackNumbers bytes = entries.flatMap fun e => nackEntry e.1 e.2 := by
  induction bytes using readNackEntries.induct with
  | case1 => exact ⟨[], rfl, rfl, rfl⟩
  | case2 a b c d rest ih =>
    simp only [List.length_cons] at haligned
    obtain ⟨entries, hentries, hlen, hnumbers⟩ := ih (by omega)
    refine ⟨(int16Of a b, int16Of c d) :: entries, ?_, ?_, ?_⟩
    · rw [readNackEntries, hentries]
      rfl
    · simp only [List.length_cons]
      omega
    · rw [nackNumbers, hnumbers, List.flatMap_cons]
  | case3 bytes hnil hcons =>
    rcases bytes with _ | ⟨a, _ | ⟨b, _ | ⟨c, _ | ⟨d, rest⟩⟩⟩⟩
    · exact absurd rfl hnil
    · simp at haligned
    · simp at haligned
    · simp at haligned
    · exact absurd rfl (hcons a b c d rest)

theorem length_of_rtcpNackSsrcs {payload : List UInt8} {ssrcs : UInt32 × UInt32}
    (h : rtcpNackSsrcs payload = .ok ssrcs) : 8 ≤ payload.length := by
  by_contra hshort
  unfold rtcpNackSsrcs at h
  rw [if_neg fun hlen => hshort hlen.1] at h
  exact nomatch h

theorem readNack_ok {payload : List UInt8} (haligned : payload.length % 4 = 0) :
    ∃ entries, readNack payload = .ok entries ∧ 4 * entries.length ≤ payload.length ∧
      ∀ ssrcs, rtcpNackSsrcs payload = .ok ssrcs →
        nackNumbers (payload.drop rtcpNackListLen) = entries.flatMap fun e =>
          nackEntry e.1 e.2 := by
  rw [readNack]
  cases hssrcs : rtcpNackSsrcs payload with
  | error status => exact ⟨[], rfl, Nat.zero_le _, nofun⟩
  | ok ssrcs =>
    have hlen := length_of_rtcpNackSsrcs hssrcs
    have hdrop : (payload.drop rtcpNackListLen).length = payload.length - 8 := List.length_drop
    have hwords : (payload.drop rtcpNackListLen).length % 4 = 0 := by omega
    obtain ⟨entries, hentries, hcount, hnumbers⟩ := readNackEntries_ok hwords
    exact ⟨entries, hentries, by omega, fun _ _ => hnumbers⟩

theorem onNack_ok : ∃ o, onNack c p construct = .ok o := by
  obtain ⟨entries, hentries, -⟩ := readNack_ok (payload_aligned p)
  rw [onNack, exists_bind_eq_ok_iff]
  exact ⟨entries, hentries, _, rfl⟩

theorem onRtcpTwccPacket_ok_iff :
    (∃ o, onRtcpTwccPacket c p p.payload = .ok o) ↔
      (c.twccManager.isSome ∧ c.estimating → Twcc.Roomy p.payload) := by
  rw [onRtcpTwccPacket]
  cases hm : c.twccManager with
  | none => simp
  | some m =>
    cases hestimating : c.estimating with
    | false => simp
    | true =>
      simp only [exists_bind_eq_ok_iff, Option.isSome_some, and_self, forall_const]
      rw [← TwccManager.onRtcpTwccPacket_ok_iff (payload_aligned p) m]
      constructor
      · rintro ⟨r, hr, -⟩
        exact ⟨r, hr⟩
      · rintro ⟨r, hr⟩
        exact ⟨r, hr, _, rfl⟩

theorem isRembPacket_ok (payload : List UInt8) : ∃ status, isRembPacket payload = .ok status := by
  rw [isRembPacket]
  split_ifs with hlen
  · have hlen : 16 ≤ payload.length := hlen
    exact exists_bind_eq_ok_iff.mpr ⟨_, fieldAt_ok_iff.mpr ⟨by show 8 + 4 ≤ _; omega, rfl⟩, _, rfl⟩
  · exact ⟨_, rfl⟩

theorem handlerOf_ok (p : RtcpPacket) : ∃ handler, handlerOf p = .ok handler := by
  obtain ⟨status, hstatus⟩ := isRembPacket_ok p.payload
  rw [handlerOf]
  simp only [hstatus]
  split_ifs <;> first | exact ⟨_, rfl⟩ | skip
  all_goals
    refine exists_bind_eq_ok_iff.mpr ⟨_, rfl, ?_⟩
    split_ifs <;> exact ⟨_, rfl⟩

/-- **A handler reads its payload only** if it is roomy, and only then. -/
theorem run_ok_iff (handler : Handler) :
    (∃ o, handler.run c p p.payload construct = .ok o) ↔ handler.Roomy c p := by
  cases handler with
  | fir => exact onMediaSsrc_ok_iff _ _
  | pli => exact onMediaSsrc_ok_iff _ _
  | sli => exact onMediaSsrc_ok_iff _ _
  | twcc => exact onRtcpTwccPacket_ok_iff
  | nack => exact iff_of_true onNack_ok trivial
  | remb => exact iff_of_true onRtcpRembPacket_ok trivial
  | senderReport => exact iff_of_true onRtcpSenderReport_ok trivial
  | receiverReport => exact iff_of_true onRtcpReceiverReport_ok trivial
  | unhandled => exact iff_of_true ⟨_, rfl⟩ trivial

theorem handle_ok_iff (construct : ConstructRtx) :
    (∃ o, handle c p construct = .ok o) ↔ Roomy (c, p) := by
  obtain ⟨handler, hhandler⟩ := handlerOf_ok p
  rw [handle, handleIn, hhandler]
  show (∃ o, handler.run c p p.payload construct = .ok o) ↔ _
  rw [run_ok_iff]
  constructor
  · intro h handler' hhandler'
    obtain rfl := Except.ok.inj (hhandler.symm.trans hhandler')
    exact h
  · intro h
    exact h handler hhandler

end

/-! ### The loops of the handlers -/

theorem length_nackEntry_le (pid blp : Nat) : (nackEntry pid blp).length ≤ 17 := by
  have hfilter := List.length_filterMap_le
    (fun j => if blp.testBit j then some ((pid + j + 1) % 65536) else none) (List.range 16)
  rw [List.length_range] at hfilter
  rw [nackEntry, List.length_cons]
  omega

theorem length_flatMap_nackEntry_le (entries : List (Nat × Nat)) :
    (entries.flatMap fun e => nackEntry e.1 e.2).length ≤ 17 * entries.length := by
  induction entries with
  | nil => exact Nat.le_refl 0
  | cons e entries ih =>
    have he := length_nackEntry_le e.1 e.2
    rw [List.flatMap_cons, List.length_append, List.length_cons]
    omega

theorem storeNumbers_le (len count : Nat) (mem : Cells) (numbers : List Nat) :
    (storeNumbers len count mem numbers).1 ≤ count + numbers.length := by
  induction numbers generalizing count mem with
  | nil => exact Nat.le_refl count
  | cons number numbers ih =>
    have hmod := Nat.mod_le (count + 1) 65536
    rw [storeNumbers, List.length_cons]
    exact Nat.le_trans (ih _ _) (by omega)

theorem length_validLoop_le (b : RtpRollingBuffer) (r : Retransmitter) (n pos : Nat) (mem : Cells)
    (found : List Nat) : (validLoop b r n pos mem found).1.length ≤ found.length + n := by
  induction n generalizing pos mem found with
  | zero => exact Nat.le_refl _
  | succ n ih =>
    rw [validLoop]
    split
    · exact Nat.le_trans (ih _ _ _) (by omega)
    · dsimp only
      split_ifs
      · exact Nat.le_trans (ih _ _ _) (by rw [List.length_append, List.length_singleton]; omega)
      · rw [List.length_append, List.length_singleton]
        omega

theorem length_nacked_le (t : SenderTransceiver) (r : Retransmitter) (payload : List UInt8) :
    (t.nacked r payload).1.length ≤ (rtcpNackListGet r payload).1 := by
  unfold SenderTransceiver.nacked rtpRollingBufferGetValidSeqIndexList
  dsimp only
  split_ifs
  · exact Nat.le_trans (length_validLoop_le _ _ _ _ _ _) (by simp)
  · exact Nat.zero_le _

theorem ssrcs_of_nackTarget {c : KvsPeerConnection} {payload : List UInt8}
    {target : SenderTransceiver × Retransmitter} (h : nackTarget c payload = some target) :
    ∃ ssrcs, rtcpNackSsrcs payload = .ok ssrcs := by
  unfold nackTarget at h
  split at h
  · cases h
  · next heq => exact ⟨_, heq⟩

theorem nackLoops_le {c : KvsPeerConnection} {payload : List UInt8}
    (haligned : payload.length % 4 = 0) :
    ∀ l ∈ nackLoops c payload, l.rounds ≤ l.bound := by
  obtain ⟨entries, hentries, hcount, hnumbers⟩ := readNack_ok haligned
  rw [nackLoops, hentries]
  intro l hl
  rcases List.mem_append.mp hl with hl | hl
  · simp only [List.mem_cons, List.not_mem_nil, or_false] at hl
    rcases hl with rfl | rfl
    · show entries.length ≤ payload.length
      omega
    · show 16 * entries.length ≤ 16 * payload.length
      omega
  · cases htarget : nackTarget c payload with
    | none =>
      rw [htarget] at hl
      exact absurd hl List.not_mem_nil
    | some target =>
      obtain ⟨t, r⟩ := target
      obtain ⟨ssrcs, hssrcs⟩ := ssrcs_of_nackTarget htarget
      have hfilled : (rtcpNackListGet r payload).1 ≤ 17 * payload.length := by
        have hstored := storeNumbers_le r.seqNumListLen 0 r.memory
          (nackNumbers (payload.drop rtcpNackListLen))
        have hlen := length_flatMap_nackEntry_le entries
        rw [hnumbers ssrcs hssrcs] at hstored
        rw [rtcpNackListGet, hnumbers ssrcs hssrcs]
        omega
      rw [htarget] at hl
      simp only [List.mem_cons, List.not_mem_nil, or_false] at hl
      rcases hl with rfl | rfl
      · exact hfilled
      · exact Nat.le_trans (length_nacked_le t r payload) hfilled

theorem rembLoops_le (payload : List UInt8) : ∀ l ∈ rembLoops payload, l.rounds ≤ l.bound := by
  obtain ⟨r, hr, hle⟩ := rembValueGet_ok payload
  rw [rembLoops, hr]
  cases r with
  | error status => exact fun _ hl => absurd hl List.not_mem_nil
  | ok value =>
    intro l hl
    simp only [List.mem_cons, List.not_mem_nil, or_false, or_self] at hl
    obtain rfl := hl
    exact hle value rfl

theorem length_reportedSeqNums_le (m : TwccManager) : m.reportedSeqNums.length ≤ 2 ^ 16 := by
  rw [TwccManager.reportedSeqNums, List.length_map, List.length_range]
  exact Nat.le_of_lt (UInt16.toNat_lt _)

theorem twccLoops_le (m : TwccManager) (payload : List UInt8) :
    ∀ l ∈ twccLoops m payload, l.rounds ≤ l.bound := by
  have hchunks := Twcc.length_chunksFor_le (payload.drop 16) (Twcc.statusCount payload)
  have hstatuses := Twcc.length_statusesFor_le (payload.drop 16) (Twcc.statusCount payload)
  rw [List.length_drop] at hchunks
  intro l hl
  rw [twccLoops] at hl
  rcases List.mem_append.mp hl with hl | hl
  · simp only [List.mem_cons, List.not_mem_nil, or_false] at hl
    rcases hl with rfl | rfl | rfl
    · show (Twcc.chunksFor _ _).length ≤ payload.length
      omega
    · show (Twcc.chunksFor _ _).length ≤ payload.length
      omega
    · exact hstatuses
  · split at hl
    · exact absurd hl List.not_mem_nil
    · obtain rfl := List.mem_singleton.mp hl
      exact length_reportedSeqNums_le _

/-- **The loops of a handler end in time.** -/
theorem loops_le (c : KvsPeerConnection) (p : RtcpPacket) (handler : Handler) :
    ∀ l ∈ handler.loops c p, l.rounds ≤ l.bound := by
  cases handler with
  | nack => exact nackLoops_le (payload_aligned p)
  | remb => exact rembLoops_le p.payload
  | twcc =>
    rw [Handler.loops]
    split
    · exact twccLoops_le _ _
    · exact fun _ hl => absurd hl List.not_mem_nil
  | _ => exact fun _ hl => absurd hl List.not_mem_nil

/-! ### Compound buffers -/

section

variable {construct : ConstructRtx}

/-- A round takes its packet off the bytes. -/
theorem length_drop_le (b : UInt8) (buff : List UInt8) (p : RtcpPacket) :
    ((b :: buff).drop (p.payload.length + rtcpPacketHeaderLen)).length ≤ buff.length := by
  rw [List.length_drop, List.length_cons, rtcpPacketHeaderLen]
  omega

/-- More rounds than bytes make no difference. -/
theorem packetLoop_congr {view : View} {fuel fuel' : Nat} {c : KvsPeerConnection}
    {buff : List UInt8} (h : buff.length ≤ fuel) (h' : buff.length ≤ fuel') :
    packetLoop construct view fuel c buff = packetLoop construct view fuel' c buff := by
  induction fuel generalizing fuel' c buff with
  | zero =>
    obtain rfl := List.length_eq_zero_iff.mp (Nat.le_zero.mp h)
    cases fuel' <;> rfl
  | succ fuel ih =>
    match buff with
    | [] => cases fuel' <;> rfl
    | b :: buff =>
      have hpos : fuel' ≠ 0 := Nat.ne_of_gt (Nat.lt_of_lt_of_le (Nat.zero_lt_succ buff.length) h')
      obtain ⟨fuel', rfl⟩ := Nat.exists_eq_add_one_of_ne_zero hpos
      rw [packetLoop, packetLoop]
      cases setRtcpPacketFromBytes (b :: buff) with
      | error status => rfl
      | ok p =>
        have hdrop := length_drop_le b buff p
        have hrest : ∀ c',
            packetLoop construct view fuel c'
                ((b :: buff).drop (p.payload.length + rtcpPacketHeaderLen)) =
              packetLoop construct view fuel' c'
                ((b :: buff).drop (p.payload.length + rtcpPacketHeaderLen)) := by
          intro c'
          exact ih (Nat.le_trans hdrop (Nat.le_of_succ_le_succ h))
            (Nat.le_trans hdrop (Nat.le_of_succ_le_succ h'))
        simp only [hrest]

/-- **The handlers return** if all packets are roomy, and only then. -/
theorem packetLoop_ok_iff (fuel : Nat) (c : KvsPeerConnection) (buff : List UInt8) :
    (∃ o, packetLoop construct payloadOnly fuel c buff = .ok o) ↔
      ∀ h ∈ handledLoop construct payloadOnly fuel c buff, Roomy (h.connection, h.packet) := by
  induction fuel generalizing c buff with
  | zero => exact iff_of_true ⟨_, rfl⟩ fun _ hh => absurd hh List.not_mem_nil
  | succ fuel ih =>
    match buff with
    | [] => exact iff_of_true ⟨_, rfl⟩ fun _ hh => absurd hh List.not_mem_nil
    | b :: buff =>
      rw [packetLoop, handledLoop]
      cases hp : setRtcpPacketFromBytes (b :: buff) with
      | error status => exact iff_of_true ⟨_, rfl⟩ fun _ hh => absurd hh List.not_mem_nil
      | ok p =>
        have hhandle : handleIn c p (payloadOnly (b :: buff) p) construct = handle c p construct :=
          rfl
        dsimp only
        rw [hhandle, exists_bind_eq_ok_iff, List.forall_mem_cons, ← handle_ok_iff construct]
        cases houtcome : handle c p construct with
        | error failure => simp
        | ok outcome =>
          simp only [Except.ok.injEq, exists_eq_left', exists_eq', true_and]
          split_ifs with hfailed
          · exact iff_of_true ⟨_, rfl⟩ fun _ hh => absurd hh List.not_mem_nil
          · rw [exists_bind_eq_ok_iff, ← ih]
            exact ⟨fun ⟨o, ho, _⟩ => ⟨o, ho⟩, fun ⟨o, ho⟩ => ⟨o, ho, _, rfl⟩⟩

end

/-- **Compound buffers are handled safely** if all packets that get to a handler are roomy, and only
then. -/
theorem safely_handled_iff (construct : ConstructRtx) (c : KvsPeerConnection) (buff : List UInt8) :
    SafelyHandled construct c buff ↔ ∀ h ∈ handled c construct buff, Roomy h := by
  have hok := @packetLoop_ok_iff construct buff.length c buff
  rw [← List.forall_mem_map (P := Roomy)] at hok
  constructor
  · intro h
    exact hok.mp h.inside
  · intro h
    exact ⟨hok.mpr h, fun h _ handler _ => loops_le h.1 h.2 handler⟩

def estimatingConnection : KvsPeerConnection := ⟨[], some TwccManager.create, true⟩

/-- A FIR without a payload, and feedback on one packet without a chunk. -/
theorem not_safely_handled :
    ¬ SafelyHandled (fun _ => .success) estimatingConnection [0x80, 192, 0, 0] ∧
      ¬ SafelyHandled (fun _ => .success) estimatingConnection
        [0x8F, 205, 0, 4, 0, 0, 0, 1, 0, 0, 0, 2, 0, 7, 0, 1, 0, 0, 1, 0] := by
  constructor
  · rintro ⟨⟨outcome, houtcome⟩, -⟩
    have hfir : (onRtcpPacket estimatingConnection (fun _ => .success)
        [0x80, 192, 0, 0]).toOption.isSome = false := by decide +kernel
    simp [houtcome, Except.toOption] at hfir
  · rintro ⟨⟨outcome, houtcome⟩, -⟩
    have htwcc : (onRtcpPacket estimatingConnection (fun _ => .success)
        [0x8F, 205, 0, 4, 0, 0, 0, 1, 0, 0, 0, 2, 0, 7, 0, 1, 0, 0, 1, 0]).toOption.isSome =
        false := by
      decide +kernel
    simp [houtcome, Except.toOption] at htwcc

end Rtcp

end KvsWebrtc
