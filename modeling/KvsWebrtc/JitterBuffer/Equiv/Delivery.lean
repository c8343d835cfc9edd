import KvsWebrtc.JitterBuffer.Equiv.FrameData
import KvsWebrtc.JitterBuffer.Equiv.Pushes

/-!
# The calls for the frames of a stream

A buffer that takes the packets of a stream as the abstract one does calls `onFrameReadyFn` once for
each frame that ends before its new head, in the order of the frames (`runCalls_first`), and holds
the packets of the frame at the call (`ReadyCall.Reports`).  `jitterBufferFillFrameData` then writes
what the depayloader makes of these packets, one behind the other (`fillLoop_packets`).
-/

namespace KvsWebrtc

open JitterBuffer

/-- The call is for the packets from `g` up to `j`, which are a frame, and the buffer holds them. -/
structure JitterBuffer.ReadyCall.IsRange (S : RtpStream) (c : ReadyCall) (g j : ℕ) : Prop where
  lt : g < j
  width : j ≤ g + 65023
  starts : S.starts g = true
  frame : ∀ i, g ≤ i → i < j → S.frameOf i = S.frameOf g
  next : S.frameOf j = S.frameOf g + 1
  startIndex : c.startIndex = S.posAt g % 65536
  endIndex : c.endIndex = S.posAt (j - 1) % 65536
  frameSize : c.frameSize = ∑ i ∈ Finset.Ico g j, S.size i
  stored : ∀ i, g ≤ i → i < j → c.jb.pkgBufferHashTable (S.posAt i % 65536) = some (S.packet i)

def JitterBuffer.ReadyCall.Reports (S : RtpStream) (c : ReadyCall) (k : ℕ) : Prop :=
  ∃ g j, c.IsRange S g j ∧ S.frameOf g = k

/-- The calls are for the frames from `k` up to `k'`, one for each. -/
def ReportsFrom (S : RtpStream) (calls : List ReadyCall) (k k' : ℕ) : Prop :=
  ∃ n, k' = k + n ∧ List.Forall₂ (ReadyCall.Reports S) calls (List.range' k n)

variable {S : RtpStream} {L : ℕ} {cb : JbCallbacks} {a : Held} {g j : ℕ} {s : ParseState}
  {jb : JitterBuffer} {calls calls' : List ReadyCall} {k k' k'' : ℕ}

theorem ReportsFrom.nil (k : ℕ) : ReportsFrom S [] k k := ⟨0, rfl, .nil⟩

theorem ReportsFrom.append (h : ReportsFrom S calls k k') (h' : ReportsFrom S calls' k' k'') :
    ReportsFrom S (calls ++ calls') k k'' := by
  obtain ⟨n, rfl, hcalls⟩ := h
  obtain ⟨n', rfl, hcalls'⟩ := h'
  refine ⟨n + n', Nat.add_assoc k n n', ?_⟩
  rw [← List.range'_append_1]
  exact List.rel_append hcalls hcalls'

theorem ReportsFrom.single {c : ReadyCall} (h : c.Reports S k) : ReportsFrom S [c] k (k + 1) :=
  ⟨1, rfl, .cons h .nil⟩

/-! ### One parse -/

namespace ParseAt

/-- The call at the first packet of the next frame. -/
theorem isRange (q : ParseAt S L a g j s) (hj : j ≤ a.tail) (hframe : S.frameOf j ≠ S.frameOf g) :
    ReadyCall.IsRange S ⟨s.jb, s.startDropIndex, uint16Dec s.index, s.curFrameSize⟩ g j := by
  have hgj : g < j := lt_of_le_of_ne q.le fun h => hframe (h ▸ rfl)
  have hwidth := q.refines.window.width
  have hlast := q.frame (j - 1) (by omega) (by omega)
  have hnext := S.frameOf_succ (j - 1)
  rw [Nat.sub_add_cancel (by omega), hlast.2] at hnext
  simp only at hwidth
  exact
    { lt := hgj
      width := by omega
      starts := q.refines.starts_head
      frame := fun i hi hij => (q.frame i hi hij).2
      next := hnext.resolve_left hframe
      startIndex := q.startDropIndex
      endIndex := q.uint16Dec_index hgj
      frameSize := q.size
      stored := fun i hi hij => by
        rw [q.refines.table i hi (by simp only; omega), if_pos (q.frame i hi hij).1] }

/-- **The calls of the parse loop**: one for each frame before the first missing packet. -/
theorem loopCalls_reports (hdepay : S.DepaysFrom cb) (hready : cb.AlwaysReady) {earliest : ℕ}
    (he : earliest ≤ S.timeAt a.tail % 4294967296 - L) (n : ℕ) (q : ParseAt S L a g j s)
    (hn : j + n = a.tail + 1) :
    ReportsFrom S (loopCalls cb false earliest n s) (S.frameOf g)
      (S.frameOf (S.frameStart (firstMissing a.arrived n j - 1))) := by
  induction n generalizing g j s with
  | zero =>
    have hg : g ≤ a.tail := q.refines.window.le
    rw [firstMissing, q.frameStart_eq (by omega)]
    exact .nil _
  | succ n ih =>
    have hj : j ≤ a.tail := by omega
    rw [firstMissing, loopCalls]
    by_cases hmem : j ∈ a.arrived
    · have hstored := q.tableAt_mem hj hmem
      rw [if_pos hmem]
      by_cases hframe : S.frameOf j = S.frameOf g
      · obtain ⟨s', hbody, q'⟩ := q.parseBody_same hdepay hj hmem hframe earliest
        rw [bodyCalls_same hstored (q.headTimestamp_eq hframe).symm, hbody]
        exact ih q' (by omega)
      · -- the frame that starts with packet `g` is delivered
        obtain ⟨s', hbody, q'⟩ := q.parseBody_next hdepay hready hj hmem hframe earliest
        have hrange := q.isRange hj hframe
        rw [bodyCalls_complete hstored (q.headTimestamp_ne hj hframe) (q.complete hrange.lt), hbody]
        refine (ReportsFrom.single ⟨g, j, hrange, rfl⟩).append ?_
        rw [← hrange.next]
        exact ih q' (by omega)
    · have hgj : g < j := lt_of_le_of_ne q.le fun h =>
        hmem (h ▸ q.refines.arrived_of_le g le_rfl)
      rw [if_neg hmem, bodyCalls_none (by rw [q.tableAt hj, if_neg hmem]),
        q.parseBody_missing hj hmem he, q.frameStart_eq hgj]
      exact .nil _

end ParseAt

theorem parseCalls_open (cb : JbCallbacks) (jb : JitterBuffer) :
    parseCalls cb jb false =
      if jb.tailTimestamp = 0 then []
      else loopCalls cb false jb.earliestAllowedTimestamp jb.parseCount jb.parseInit := by
  unfold parseCalls
  split_ifs
  · rfl
  · cases parseLoop cb false jb.earliestAllowedTimestamp jb.parseCount jb.parseInit <;> simp

namespace Refines

variable {i : ℕ}

/-- **The calls of a parse.** -/
theorem parseCalls_reports (r : Refines S L jb a) (hdepay : S.DepaysFrom cb)
    (hready : cb.AlwaysReady) :
    ReportsFrom S (parseCalls cb jb false) (S.frameOf a.head)
      (S.frameOf (S.settle a).head) := by
  have hle := r.window.le
  rw [parseCalls_open, r.window.tailTs, ← S.ts_eq]
  unfold RtpStream.settle
  split_ifs with hzero
  · exact .nil _
  · rw [r.parseCount_eq]
    exact ParseAt.loopCalls_reports hdepay hready r.earliestAllowedTimestamp_le
      (a.tail + 1 - a.head) r.parseAt_init (by omega)

theorem pushCalls_reports (r : Refines S L jb a) (hL : L < 4294967295) (hdepay : S.DepaysFrom cb)
    (hready : cb.AlwaysReady) (ha : S.Admits L a i) :
    ReportsFrom S (pushCalls cb jb (S.packet i)) (S.frameOf a.head)
      (S.frameOf (S.arrive a i).head) := by
  obtain ⟨jb', haccept, hstore⟩ := r.pushAccept_admits hL ha
  rw [pushCalls, haccept]
  exact hstore.parseCalls_reports hdepay hready

theorem runCalls_reports (r : Refines S L jb a) (hL : L < 4294967295) (hdepay : S.DepaysFrom cb)
    (hready : cb.AlwaysReady) {l : List ℕ} (h : AllSteps S.arrive (S.Admits L) a l) :
    ReportsFrom S (runCalls cb jb (l.map S.packet)) (S.frameOf a.head)
      (S.frameOf (l.foldl S.arrive a).head) := by
  induction l generalizing jb a with
  | nil => exact .nil _
  | cons i l ih =>
    obtain ⟨hi, hl⟩ := h
    obtain ⟨jb', hpush, hr⟩ := r.push hL hdepay hready hi
    rw [List.map_cons, runCalls, List.foldl_cons, hpush]
    exact (r.pushCalls_reports hL hdepay hready hi).append (ih hr hl)

end Refines

/-- **The calls of a run from a new buffer** are for the first frames, one for each. -/
theorem runCalls_first (hL : L < 4294967295) (c : ℕ) (hdepay : S.DepaysFrom cb)
    (hready : cb.AlwaysReady) {l : List ℕ} (h : AllSteps S.arrive (S.Admits L) Held.first l) :
    ReportsFrom S (runCalls cb (.empty L c) ((0 :: l).map S.packet)) 0
      (S.frameOf (l.foldl S.arrive Held.first).head) := by
  obtain ⟨jb₁, haccept, hstore⟩ := pushAccept_first_refines S L c
  obtain ⟨jb', hpush, hr⟩ := push_first hdepay hready c
  have hfirst := hstore.parseCalls_reports hdepay hready
  rw [settle_first] at hfirst
  rw [List.map_cons, runCalls, pushCalls, haccept, hpush]
  have hzero : S.frameOf Held.first.head = 0 := S.frameOf_zero
  rw [hzero] at hfirst
  have hrest := hr.runCalls_reports hL hdepay hready h
  rw [hzero] at hrest
  exact hfirst.append hrest

/-! ### Filling a frame -/

namespace JitterBuffer

variable {fill : DepayFillFn} {packets : List RtpPacket} {index : Nat}

/-- What the depayloader writes for a packet if there is room. -/
def FillsWith (fill : DepayFillFn) (p : RtpPacket) (bytes : List UInt8) : Prop :=
  ∀ room : UInt32, bytes.length ≤ room.toNat →
    fill p.payload p.payloadLength room = ⟨.success, UInt32.ofNat bytes.length, bytes⟩

/-- **The loop of `jitterBufferFillFrameData`** writes what the depayloader makes of the packets,
one behind the other. -/
theorem fillLoop_packets {data : List (List UInt8)}
    (hdata : List.Forall₂ (FillsWith fill) packets data) (hindex : index < 65536)
    (hstored : jb.places index packets.length = packets.map some) (s : FillState)
    (hroom : data.flatten.length ≤ s.remainingFrameSize.toNat) :
    fillLoop fill jb packets.length index s =
      (.success, ⟨s.curPtrInFrame + data.flatten.length,
        s.remainingFrameSize - UInt32.ofNat data.flatten.length,
        storeBytes s.frame s.curPtrInFrame data.flatten, s.visited ++ packets⟩) := by
  induction hdata generalizing index s with
  | nil => simp [fillLoop]
  | @cons p bytes packets data hp hdata ih =>
    rw [List.length_cons, places_succ hindex, List.map_cons] at hstored
    obtain ⟨hfirst, hrest⟩ := List.cons.inj hstored
    rw [List.flatten_cons, List.length_append] at hroom ⊢
    have hlt := s.remainingFrameSize.toNat_lt
    have hlen : (UInt32.ofNat bytes.length).toNat = bytes.length := by
      rw [UInt32.toNat_ofNat', Nat.mod_eq_of_lt (by omega)]
    have hsub : (s.remainingFrameSize - UInt32.ofNat bytes.length).toNat =
        s.remainingFrameSize.toNat - bytes.length := by
      rw [UInt32.toNat_sub_of_le _ _ (by rw [UInt32.le_iff_toNat_le, hlen]; omega), hlen]
    have hnext : uint16Inc index < 65536 := Nat.mod_lt _ (by decide)
    rw [List.length_cons, fillLoop, hfirst]
    dsimp only
    rw [hp s.remainingFrameSize (by omega)]
    dsimp only
    rw [ih hnext hrest _ (by dsimp only; rw [hsub]; omega)]
    dsimp only
    rw [hlen, storeBytes_append, Nat.add_assoc, List.append_assoc, List.singleton_append,
      UInt32.ofNat_add, sub_sub]

end JitterBuffer

end KvsWebrtc
