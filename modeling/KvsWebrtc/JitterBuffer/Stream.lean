import KvsWebrtc.JitterBuffer.Parse
import Mathlib.Algebra.BigOperators.Intervals
import Mathlib.Data.UInt
import Mathlib.Order.Monotone.Basic

/-!
# RTP streams and the packets held by a jitter buffer

The abstract side of the jitter buffer.  An `RtpStream` is a stream of frames in sending order,
with the counters unwrapped: packet `i` has position `firstSeq + i`, whose low 16 bits are its
sequence number, and belongs to frame `frameOf i`, whose `time` has the RTP timestamp as its low
32 bits.

`Held` is what a jitter buffer is for: the set of packets that have arrived, the first packet of the
oldest frame not yet reported, and the newest packet.  `RtpStream.arrive` takes one arrival: the
frames before the first missing packet are reported, except for the one that packet may still
belong to.  The code's `tailTimestamp != 0` guard is part of the specification: while the newest
frame has timestamp zero nothing is reported.
-/

namespace KvsWebrtc

/-- A stream of frames in sending order.  `size` is the depayloaded size of each packet. -/
structure RtpStream where
  packet : ℕ → RtpPacket
  size : ℕ → UInt32
  firstSeq : ℕ
  frameOf : ℕ → ℕ
  time : ℕ → ℕ
  seq_packet : ∀ i, (packet i).seq = (firstSeq + i) % 65536
  ts_packet : ∀ i, (packet i).ts = time (frameOf i) % 4294967296
  frameOf_zero : frameOf 0 = 0
  frameOf_succ : ∀ i, frameOf (i + 1) = frameOf i ∨ frameOf (i + 1) = frameOf i + 1
  time_lt : ∀ k, time k < time (k + 1)
  time_step : ∀ k, time (k + 1) < time k + 2147483648

namespace RtpStream

/-- The stream with the given frames, of packets whose payload marks the first of a frame. -/
def ofFrames (firstSeq : ℕ) (frameOf time : ℕ → ℕ) (h0 : frameOf 0 = 0)
    (h1 : ∀ i, frameOf (i + 1) = frameOf i ∨ frameOf (i + 1) = frameOf i + 1)
    (h2 : ∀ k, time k < time (k + 1)) (h3 : ∀ k, time (k + 1) < time k + 2147483648) :
    RtpStream where
  packet i := markedPacket i (firstSeq + i) (time (frameOf i)) (i = 0 ∨ frameOf i ≠ frameOf (i - 1))
  size _ := 1
  firstSeq := firstSeq
  frameOf := frameOf
  time := time
  seq_packet _ := UInt16.toNat_ofNat'
  ts_packet _ := UInt32.toNat_ofNat'
  frameOf_zero := h0
  frameOf_succ := h1
  time_lt := h2
  time_step := h3

variable (S : RtpStream)

/-- The unwrapped sequence number of packet `i`. -/
def posAt (i : ℕ) : ℕ := S.firstSeq + i

/-- The unwrapped timestamp of packet `i`. -/
def timeAt (i : ℕ) : ℕ := S.time (S.frameOf i)

/-- The turn of the 32-bit timestamp counter that packet `i` falls in. -/
def turnAt (i : ℕ) : ℕ := S.timeAt i / 4294967296

/-- Packet `i` is the first of its frame. -/
def starts (i : ℕ) : Bool := i = 0 ∨ S.frameOf i ≠ S.frameOf (i - 1)

/-- The first packet of the frame of packet `i`. -/
def frameStart : ℕ → ℕ
  | 0 => 0
  | i + 1 => if S.frameOf (i + 1) = S.frameOf i then frameStart i else i + 1

/-- The depayloader gives the sizes of the stream, and marks the first packets at least. -/
def DepaysFrom (cb : JbCallbacks) : Prop :=
  ∀ i, ∃ isStart, cb.depay (S.packet i) = .ok (S.size i, isStart) ∧
    (S.starts i = true → isStart = true)

theorem ofFrames_depaysFrom (firstSeq : ℕ) (frameOf time : ℕ → ℕ) (h0 h1 h2 h3) :
    (ofFrames firstSeq frameOf time h0 h1 h2 h3).DepaysFrom markCallbacks := by
  intro i
  refine ⟨(ofFrames firstSeq frameOf time h0 h1 h2 h3).starts i, ?_, id⟩
  simp [JbCallbacks.depay, markCallbacks, markedPacket, ofFrames, starts]

/-- The report of the frame that ends with packet `i`. -/
def readyEndingAt (i : ℕ) : JbEvent :=
  .frameReady (S.packet (S.frameStart i)).seq (S.packet i).seq
    (∑ j ∈ Finset.Ico (S.frameStart i) (i + 1), S.size j)

/-- The reports, in order, of the frames that end before packet `h`, the first of its frame. -/
def reportsBefore : ℕ → List JbEvent
  | 0 => []
  | h + 1 => reportsBefore h ++ if S.starts (h + 1) then [S.readyEndingAt h] else []

/-! ### Frames and times -/

theorem frameOf_mono : Monotone S.frameOf :=
  monotone_nat_of_le_succ fun i => by rcases S.frameOf_succ i with h | h <;> omega

theorem time_strictMono : StrictMono S.time := strictMono_nat_of_lt_succ S.time_lt

theorem timeAt_mono : Monotone S.timeAt :=
  fun _ _ h => S.time_strictMono.monotone (S.frameOf_mono h)

theorem timeAt_lt_iff {i j : ℕ} : S.timeAt i < S.timeAt j ↔ S.frameOf i < S.frameOf j :=
  S.time_strictMono.lt_iff_lt

/-- Neighbouring packets are less than half a turn apart. -/
theorem timeAt_succ_lt (i : ℕ) : S.timeAt (i + 1) < S.timeAt i + 2147483648 := by
  unfold timeAt
  rcases S.frameOf_succ i with h | h
  · rw [h]; omega
  · rw [h]; exact S.time_step _

theorem turnAt_mono : Monotone S.turnAt :=
  fun _ _ h => Nat.div_le_div_right (S.timeAt_mono h)

theorem ts_eq (i : ℕ) : (S.packet i).ts = S.timeAt i % 4294967296 := S.ts_packet i

theorem seq_eq (i : ℕ) : (S.packet i).seq = S.posAt i % 65536 := S.seq_packet i

/-- Within one turn, two packets have the same timestamp exactly when they share a frame. -/
theorem ts_ne_of_frameOf_ne {i j : ℕ} (hij : i ≤ j) (hturn : S.timeAt j < S.timeAt i + 4294967296)
    (hne : S.frameOf j ≠ S.frameOf i) : (S.packet j).ts ≠ (S.packet i).ts := by
  have hlt : S.timeAt i < S.timeAt j :=
    S.timeAt_lt_iff.mpr (lt_of_le_of_ne (S.frameOf_mono hij) (Ne.symm hne))
  rw [S.ts_eq, S.ts_eq]
  omega

theorem ts_eq_of_frameOf_eq {i j : ℕ} (h : S.frameOf j = S.frameOf i) :
    (S.packet j).ts = (S.packet i).ts := by
  rw [S.ts_eq, S.ts_eq, timeAt, timeAt, h]

theorem frameStart_le : ∀ i, S.frameStart i ≤ i
  | 0 => le_rfl
  | i + 1 => by
    rw [frameStart]
    split_ifs
    · exact (frameStart_le i).trans (Nat.le_succ i)
    · exact le_rfl

theorem frameOf_frameStart : ∀ i, S.frameOf (S.frameStart i) = S.frameOf i
  | 0 => rfl
  | i + 1 => by
    rw [frameStart]
    split_ifs with h
    · rw [frameOf_frameStart i, h]
    · rfl

theorem starts_zero : S.starts 0 = true := by simp [starts]

theorem starts_succ (i : ℕ) : S.starts (i + 1) = decide (S.frameOf (i + 1) ≠ S.frameOf i) := by
  simp [starts]

theorem starts_frameStart : ∀ i, S.starts (S.frameStart i) = true
  | 0 => S.starts_zero
  | i + 1 => by
    rw [frameStart]
    split_ifs with h
    · exact starts_frameStart i
    · rw [starts_succ]; exact decide_eq_true h

theorem frameStart_of_starts {i : ℕ} (h : S.starts i = true) : S.frameStart i = i := by
  cases i with
  | zero => rfl
  | succ i =>
    rw [starts_succ, decide_eq_true_eq] at h
    rw [frameStart, if_neg h]

/-- All packets of a frame share its first packet. -/
theorem frameStart_eq_of_frameOf_eq {i j : ℕ} (hij : i ≤ j) (h : S.frameOf j = S.frameOf i) :
    S.frameStart j = S.frameStart i := by
  induction j, hij using Nat.le_induction with
  | base => rfl
  | succ j hij ih =>
    have hj : S.frameOf (j + 1) = S.frameOf j := by
      have h1 := S.frameOf_mono hij
      have h2 := S.frameOf_mono (show j ≤ j + 1 by omega)
      omega
    rw [frameStart, if_pos hj]
    exact ih (hj ▸ h)

theorem frameStart_mono : Monotone S.frameStart :=
  monotone_nat_of_le_succ fun i => by
    rw [frameStart]
    split_ifs
    · exact le_rfl
    · exact (S.frameStart_le i).trans (Nat.le_succ i)

theorem starts_of_frameOf_ne {i j : ℕ} (hij : i < j) (hsame : S.frameOf (j - 1) = S.frameOf i)
    (hne : S.frameOf j ≠ S.frameOf i) : S.starts j = true := by
  obtain ⟨k, rfl⟩ : ∃ k, j = k + 1 := ⟨j - 1, by omega⟩
  rw [starts_succ, decide_eq_true_eq]
  rw [Nat.add_sub_cancel] at hsame
  rwa [hsame]

theorem reportsBefore_eq_of_frameOf_eq {i j : ℕ} (hij : i ≤ j) (h : S.frameOf j = S.frameOf i) :
    S.reportsBefore j = S.reportsBefore i := by
  induction j, hij using Nat.le_induction with
  | base => rfl
  | succ j hij ih =>
    have hj : S.frameOf (j + 1) = S.frameOf j := by
      have h1 := S.frameOf_mono hij
      have h2 := S.frameOf_mono (show j ≤ j + 1 by omega)
      omega
    rw [reportsBefore, starts_succ, hj, ih (hj ▸ h)]
    simp

theorem reportsBefore_of_frame {g j : ℕ} (hgj : g < j) (hg : S.starts g = true)
    (hsame : S.frameOf (j - 1) = S.frameOf g) (hne : S.frameOf j ≠ S.frameOf g) :
    S.reportsBefore j = S.reportsBefore g ++
      [.frameReady (S.packet g).seq (S.packet (j - 1)).seq (∑ k ∈ Finset.Ico g j, S.size k)] := by
  have hstart := S.starts_of_frameOf_ne hgj hsame hne
  obtain ⟨k, rfl⟩ : ∃ k, j = k + 1 := ⟨j - 1, by omega⟩
  rw [Nat.add_sub_cancel] at hsame ⊢
  have hfs : S.frameStart k = g := by
    rw [S.frameStart_eq_of_frameOf_eq (by omega) hsame, S.frameStart_of_starts hg]
  rw [reportsBefore, hstart, if_pos rfl, S.reportsBefore_eq_of_frameOf_eq (by omega) hsame,
    readyEndingAt, hfs]

theorem frameDropped_not_mem_reportsBefore (h i j t : ℕ) :
    JbEvent.frameDropped i j t ∉ S.reportsBefore h := by
  induction h with
  | zero => exact List.not_mem_nil
  | succ h ih =>
    rw [reportsBefore, List.mem_append]
    rintro (hmem | hmem)
    · exact ih hmem
    · split_ifs at hmem
      · cases List.mem_singleton.mp hmem
      · exact List.not_mem_nil hmem

end RtpStream

/-! ### The packets held -/

/-- The state of an abstract jitter buffer: the packets that have arrived, the first packet of the
oldest frame not yet reported and the newest packet. -/
structure Held where
  arrived : Finset ℕ
  head : ℕ
  tail : ℕ
deriving DecidableEq

/-- The first index from `j` on, among the next `n`, that is not in `A`. -/
def firstMissing (A : Finset ℕ) : ℕ → ℕ → ℕ
  | 0, j => j
  | n + 1, j => if j ∈ A then firstMissing A n (j + 1) else j

theorem firstMissing_le (A : Finset ℕ) : ∀ n j, firstMissing A n j ≤ j + n
  | 0, _ => le_rfl
  | n + 1, j => by
    rw [firstMissing]
    split_ifs
    · have := firstMissing_le A n (j + 1)
      omega
    · omega

theorem firstMissing_eq_of_forall (A : Finset ℕ) :
    ∀ n j, (∀ i, j ≤ i → i < j + n → i ∈ A) → firstMissing A n j = j + n
  | 0, _, _ => rfl
  | n + 1, j, h => by
    rw [firstMissing, if_pos (h j le_rfl (by omega)),
      firstMissing_eq_of_forall A n (j + 1) fun i h1 h2 => h i (by omega) (by omega)]
    omega

def Held.first : Held := { arrived := {0}, head := 0, tail := 0 }

namespace RtpStream

variable (S : RtpStream)

/-- Reports the frames before the first missing packet, up to the one that packet may still belong
to. -/
def settle (a : Held) : Held where
  arrived := a.arrived
  head :=
    if (S.packet a.tail).ts = 0 then a.head
    else S.frameStart (firstMissing a.arrived (a.tail + 1 - a.head) a.head - 1)
  tail := a.tail

def arrive (a : Held) (i : ℕ) : Held :=
  S.settle { arrived := insert i a.arrived, head := a.head, tail := max a.tail i }

@[simp] theorem arrive_arrived (a : Held) (i : ℕ) :
    (S.arrive a i).arrived = insert i a.arrived := rfl

@[simp] theorem arrive_tail (a : Held) (i : ℕ) : (S.arrive a i).tail = max a.tail i := rfl

/-- If the packet wraps both counters at once, nothing from before the timestamp wrap is still
missing. -/
def NoDoubleWrap (a : Held) (i : ℕ) : Prop :=
  a.tail < i → S.posAt i / 65536 ≠ S.posAt a.tail / 65536 → S.turnAt a.tail < S.turnAt i →
    ∀ j < i, S.turnAt j < S.turnAt i → j ∈ a.arrived

instance (a : Held) (i : ℕ) : Decidable (S.NoDoubleWrap a i) :=
  inferInstanceAs (Decidable (a.tail < i → S.posAt i / 65536 ≠ S.posAt a.tail / 65536 →
    S.turnAt a.tail < S.turnAt i → ∀ j < i, S.turnAt j < S.turnAt i → j ∈ a.arrived))

/-- A jitter buffer with maximum latency `L` has room for the packet: from the oldest unreported
frame to the newest packet there are at most 65023 packets and less than a turn of the timestamp
counter and, while a packet is missing, no more than `L`. -/
structure Fits (L : ℕ) (a : Held) (i : ℕ) : Prop where
  width : max a.tail i ≤ a.head + 65022
  turn : S.timeAt (max a.tail i) < S.timeAt a.head + 4294967296
  span : (∀ j < max a.tail i + 1, j ∈ insert i a.arrived) ∨
    S.timeAt (max a.tail i) ≤ S.timeAt a.head + L
  wrap : S.NoDoubleWrap a i

theorem fits_iff (L : ℕ) (a : Held) (i : ℕ) :
    S.Fits L a i ↔ max a.tail i ≤ a.head + 65022 ∧
      S.timeAt (max a.tail i) < S.timeAt a.head + 4294967296 ∧
      ((∀ j < max a.tail i + 1, j ∈ insert i a.arrived) ∨
        S.timeAt (max a.tail i) ≤ S.timeAt a.head + L) ∧ S.NoDoubleWrap a i :=
  ⟨fun h => ⟨h.width, h.turn, h.span, h.wrap⟩, fun ⟨h1, h2, h3, h4⟩ => ⟨h1, h2, h3, h4⟩⟩

instance (L : ℕ) (a : Held) (i : ℕ) : Decidable (S.Fits L a i) :=
  decidable_of_iff _ (S.fits_iff L a i).symm

/-- The arrivals the buffer takes in their place: new packets that fit, at most 513 past the
newest. -/
structure Admits (L : ℕ) (a : Held) (i : ℕ) : Prop extends S.Fits L a i where
  fresh : i ∉ a.arrived
  gap : i ≤ a.tail + 513

end RtpStream

end KvsWebrtc
