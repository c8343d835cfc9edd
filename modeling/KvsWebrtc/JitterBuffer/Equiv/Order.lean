import KvsWebrtc.JitterBuffer.Equiv.LongFrame
import Mathlib.Tactic.IntervalCases

/-!
# Delivery of a stream, in order and reordered

A stream pushed in order has all its frames but the last two reported (`inOrder_reported`).  A
permutation that keeps the first packet first and displaces no packet by more than 512 positions
reports the same frames in the same order (`reordered_reported`).
-/

namespace KvsWebrtc

open JitterBuffer

variable {S : RtpStream} {L : ℕ} {cb : JbCallbacks}

/-- **In-order delivery.**  When the packets from the first of the oldest unreported frame to the
newest number at most 65023, pushing the stream in order reports every frame that at least two
later frames follow, once, in order, with its first and last sequence number and its size, and
drops none. -/
theorem inOrder_reported (hdepay : S.DepaysFrom cb) (hready : cb.AlwaysReady)
    {maxLatency clockRate : UInt32} {jb : JitterBuffer}
    (hcreate : createJitterBuffer maxLatency clockRate = .ok jb) (n : ℕ)
    (hwidth : ∀ t < n, t + 1 ≤ S.oldestHeld t + 65022) :
    ∃ h ≤ n, S.starts h = true ∧ S.frameOf n ≤ S.frameOf h + 1 ∧
      frameEvents (pushAll cb jb ((List.range (n + 1)).map S.packet)).trace = S.reportsBefore h ∧
      ∀ i j t, JbEvent.frameDropped i j t ∉
        (pushAll cb jb ((List.range (n + 1)).map S.packet)).trace := by
  obtain ⟨L, c, rfl, hL, -⟩ := createJitterBuffer_ok hcreate
  obtain ⟨hsteps, hheld⟩ := allSteps_inOrder (L := L) hwidth
  obtain ⟨-, hr⟩ := pushAll_first hL c hdepay hready hsteps
  rw [hheld] at hr
  rw [range_eq_cons]
  exact ⟨S.oldestHeld n, S.oldestHeld_le n, S.starts_oldestHeld n, S.frameOf_le_oldestHeld n,
    hr.reported, hr.frameDropped_not_mem⟩

def pairStream (firstSeq firstTime period : ℕ) (h1 : 0 < period) (h2 : period < 2147483648) :
    RtpStream :=
  .ofFrames firstSeq (fun i => i / 2) (fun k => firstTime + period * k) rfl (fun i => by omega)
    (fun k => by rw [Nat.mul_add]; omega) (fun k => by rw [Nat.mul_add]; omega)

theorem pairStream_depaysFrom (firstSeq firstTime period : ℕ) (h1 h2) :
    (pairStream firstSeq firstTime period h1 h2).DepaysFrom markCallbacks :=
  RtpStream.ofFrames_depaysFrom _ _ _ _ _ _ _

theorem createJitterBuffer_default :
    createJitterBuffer 0 90000 = .ok (.empty 180000 90000) := rfl

/-- A depayloader that marks every packet, as that of H.264 does where each packet of a frame holds
a NAL unit of its own. -/
def unitCallbacks : JbCallbacks := { markCallbacks with depayPayloadFn := fun _ _ => .ok (1, true) }

/-- Sequence numbers from 65533 and timestamps `2^32 - 10`, `0`, `10`, ...: both counters wrap. -/
def zeroStream : RtpStream := pairStream 65533 4294967286 10 (by decide) (by decide)

theorem inOrder_reported_zeroStream :
    ∃ h ≤ 7, zeroStream.starts h = true ∧ zeroStream.frameOf 7 ≤ zeroStream.frameOf h + 1 ∧
      frameEvents (pushAll unitCallbacks (.empty 180000 90000)
        ((List.range 8).map zeroStream.packet)).trace = zeroStream.reportsBefore h ∧
      ∀ i j t, JbEvent.frameDropped i j t ∉ (pushAll unitCallbacks
        (.empty 180000 90000) ((List.range 8).map zeroStream.packet)).trace :=
  inOrder_reported (fun _ => ⟨true, rfl, fun _ => rfl⟩) (fun _ _ _ _ => rfl)
    createJitterBuffer_default 7 (by decide)

/-- The frames of `longFrameStream` have fewer than 65536 packets and two frames follow the first
one, but it is not reported. -/
theorem longFrame_not_reported :
    (∀ i, longFrameStream.frameOf i < longFrameStream.frameOf (i + 65535)) ∧
      longFrameStream.frameOf (65022 + 3) = 2 ∧
      frameEvents (pushAll markCallbacks (.empty 180000 90000)
        ((List.range (65022 + 4)).map longFrameStream.packet)).trace = [] := by
  refine ⟨fun i => ?_, rfl, ?_⟩
  · simp only [longFrameStream, RtpStream.ofFrames]
    omega
  · exact (pushes_after_longFrame rfl (by decide) 90000 longFrameStream_depaysFrom
      (fun _ _ _ _ => rfl) rfl rfl (by decide) (by decide) (by decide)).2

/-- **Order independence.**  A permutation that keeps the first packet first, displaces no packet by
more than 512 positions and always fits reports the same frames as the order of sending, and
neither discards a packet nor drops a frame. -/
theorem reordered_reported (hdepay : S.DepaysFrom cb) (hready : cb.AlwaysReady)
    {maxLatency clockRate : UInt32} {jb : JitterBuffer}
    (hcreate : createJitterBuffer maxLatency clockRate = .ok jb) (n : ℕ) {l : List ℕ}
    (hperm : (0 :: l).Perm (List.range (n + 1)))
    (hdisp : ∀ k i, (0 :: l)[k]? = some i → i ≤ k + 512 ∧ k ≤ i + 512)
    (hfits : AllSteps S.arrive (S.Fits jb.maxLatency) Held.first l)
    (hlast : (S.packet n).ts ≠ 0) :
    frameEvents (pushAll cb jb ((0 :: l).map S.packet)).trace =
        frameEvents (pushAll cb jb ((List.range (n + 1)).map S.packet)).trace ∧
      (∀ x ∈ pushes cb jb ((0 :: l).map S.packet), x.discarded = false) ∧
      ∀ i j t, JbEvent.frameDropped i j t ∉ (pushAll cb jb ((0 :: l).map S.packet)).trace := by
  obtain ⟨L, c, rfl, hL, -⟩ := createJitterBuffer_ok hcreate
  have hmem : ∀ i, i ∈ 0 :: l ↔ i ≤ n := fun i => by
    rw [hperm.mem_iff, List.mem_range, Nat.lt_succ_iff]
  have hadmits : AllSteps S.arrive (S.Admits L) Held.first l :=
    @RtpStream.allSteps_admits S L Held.first [0] l hfits rfl (by simp [Held.first])
      (hperm.nodup_iff.mpr List.nodup_range) fun k i h => (hdisp k i h).1
  obtain ⟨hres, hr⟩ := pushAll_first hL c hdepay hready hadmits
  -- everything up to `n` has arrived
  have harrived : ∀ i, i ∈ (l.foldl S.arrive Held.first).arrived ↔ i ≤ n := fun i => by
    rw [S.foldl_arrive_arrived, ← hmem]
    simp [Held.first]
  have htail : (l.foldl S.arrive Held.first).tail = n :=
    le_antisymm ((harrived _).mp hr.tail_mem) (hr.arrived_le n ((harrived n).mpr le_rfl))
  have hhead := S.foldl_arrive_head_of_complete htail (fun j hj => (harrived j).mpr hj) hlast
  -- the order of sending fits as well
  have hwidth : ∀ t < n, t + 1 ≤ S.oldestHeld t + 65022 := fun t ht =>
    S.width_of_allSteps hfits (Nat.zero_le _) t (Nat.zero_le _) (by omega)
  obtain ⟨hsteps, hheld⟩ := allSteps_inOrder (L := L) hwidth
  obtain ⟨-, hr'⟩ := pushAll_first hL c hdepay hready hsteps
  rw [hheld] at hr'
  refine ⟨?_, fun x hx => (hres x hx).2, hr.frameDropped_not_mem⟩
  rw [range_eq_cons, hr.reported, hr'.reported, hhead]
  exact congrArg S.reportsBefore (S.oldestHeld_of_ts_ne hlast).symm

/-- Sequence numbers from 65533 and timestamps `2^32 - 10`, `5`, `20`, ... -/
def wrapStream : RtpStream := pairStream 65533 4294967286 15 (by decide) (by decide)

/-- Packets 1 and 2 and packets 3 and 4 swapped, around the wraps of both counters. -/
theorem reordered_reported_wrapStream :
    frameEvents (pushAll markCallbacks (.empty 180000 90000)
        ([0, 2, 1, 4, 3, 5].map wrapStream.packet)).trace =
        frameEvents (pushAll markCallbacks (.empty 180000 90000)
          ((List.range 6).map wrapStream.packet)).trace ∧
      (∀ x ∈ pushes markCallbacks (.empty 180000 90000)
        ([0, 2, 1, 4, 3, 5].map wrapStream.packet), x.discarded = false) ∧
      ∀ i j t, JbEvent.frameDropped i j t ∉ (pushAll markCallbacks
        (.empty 180000 90000) ([0, 2, 1, 4, 3, 5].map wrapStream.packet)).trace := by
  refine reordered_reported (pairStream_depaysFrom _ _ _ _ _) (fun _ _ _ _ => rfl)
    createJitterBuffer_default 5 (by decide) ?_ (by decide +kernel) (by decide)
  intro k i h
  have hk : k < 6 := (List.getElem?_eq_some_iff.mp h).1
  interval_cases k <;> (cases h; omega)

/-- Without the conditions of `reordered_reported` the order matters.  In `longFrameStream`, whose
timestamps span 35 ticks, a packet is discarded even in order.  When sequence number 0 wraps both
counters, packet 65535 is discarded if it comes after it.  When the last timestamp is zero, a packet
of the last frame that comes early hides a frame that is reported in order. -/
theorem order_matters :
    (∃ x ∈ pushes markCallbacks (.empty 180000 90000)
        ((List.range (65022 + 4)).map longFrameStream.packet), x.discarded = true) ∧
      (pushes markCallbacks (.empty 180000 90000) ([0, 2, 1, 3].map
        (pairStream 65534 4294967286 15 (by decide) (by decide)).packet)).map
          PushResult.discarded = [false, false, true, false] ∧
      frameEvents (pushAll markCallbacks (.empty 180000 90000) ([0, 4, 1, 2, 3, 5].map
        (pairStream 7 4294967276 10 (by decide) (by decide)).packet)).trace ≠
      frameEvents (pushAll markCallbacks (.empty 180000 90000) ([0, 1, 2, 3, 4, 5].map
        (pairStream 7 4294967276 10 (by decide) (by decide)).packet)).trace := by
  refine ⟨?_, by decide +kernel, by decide +kernel⟩
  exact (pushes_after_longFrame rfl (by decide) 90000 longFrameStream_depaysFrom
      (fun _ _ _ _ => rfl) rfl rfl (by decide) (by decide) (by decide)).1

end KvsWebrtc
