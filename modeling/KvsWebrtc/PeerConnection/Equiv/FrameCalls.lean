import KvsWebrtc.JitterBuffer.Equiv.Delivery
import KvsWebrtc.PeerConnection.Equiv.Receive
import KvsWebrtc.PeerConnection.Frames

/-!
# What the application gets of a frame

`readyCalls` are the calls of `onFrameReadyFunc` while buffers come in: those of the pushes of the
packets that are handed to the transceiver (`readyCalls_eq`).  A call for a frame of the stream
hands what the depayloader makes of its packets to the application (`onFrameReadyFunc_reports`).
-/

namespace KvsWebrtc

open JitterBuffer

/-- The calls that the transceiver of index `i` gets while the buffers come in. -/
def readyCalls (env : ReceiverEnv) (i : Nat) : Nat → List Transceiver → List (List UInt8) →
    List ReadyCall
  | _, _, [] => []
  | call, ts, buffer :: buffers =>
    (match handedOver env (ts.map Transceiver.jitterBufferSsrc) call buffer, ts[i]? with
      | some (j, p), some t => if j = i then pushCalls t.callbacks t.jitterBuffer p else []
      | _, _ => []) ++
    readyCalls env i (call + 1) (sendPacketToRtpReceiver env call buffer ts).2 buffers

/-- **The calls are those of the pushes**, as long as the callbacks succeed. -/
theorem readyCalls_eq (env : ReceiverEnv) {i call : Nat} {ts : List Transceiver} {t : Transceiver}
    {buffers : List (List UInt8)} (ht : ts[i]? = some t) {l₀ : List RtpPacket}
    (hl : Stores l₀ t.jitterBuffer) (hcb : Succeeds t.callbacks
      (l₀ ++ handedTo env (ts.map Transceiver.jitterBufferSsrc) i call buffers)) :
    readyCalls env i call ts buffers =
      runCalls t.callbacks t.jitterBuffer
        (handedTo env (ts.map Transceiver.jitterBufferSsrc) i call buffers) := by
  induction buffers generalizing call ts t l₀ with
  | nil => rfl
  | cons buffer buffers ih =>
    have hssrcs := sendPacketToRtpReceiver_ssrcs env call buffer ts
    have hstep := sendPacketToRtpReceiver_eq env call buffer ts
    rw [readyCalls, handedTo]
    rw [handedTo] at hcb
    generalize (sendPacketToRtpReceiver env call buffer ts).2 = ts' at hssrcs hstep
    rcases hover : handedOver env (ts.map Transceiver.jitterBufferSsrc) call buffer with _ | ⟨j, p⟩
    · rw [hover] at hstep hcb
      dsimp only at hstep hcb ⊢
      rw [List.nil_append, ← hssrcs]
      exact ih (hstep ▸ ht) hl (by rwa [hssrcs])
    · rw [hover] at hstep hcb
      dsimp only at hstep hcb ⊢
      have hget : ts'[i]? = some (if j = i then (t.receive p).2 else t) := by
        rw [hstep, List.getElem?_modify, ht]
        split_ifs <;> rfl
      rw [ht]
      dsimp only
      split_ifs at hget hcb ⊢ with hij
      · obtain ⟨hreceive, hl'⟩ := receive_succeeds hl (hcb.mono (by simp; tauto))
        rw [runCalls, ← hssrcs]
        congr 1
        rw [hreceive] at hget
        exact ih hget hl' (by rw [hssrcs]; exact hcb.mono (by simp))
      · rw [List.nil_append, ← hssrcs]
        exact ih hget hl (by rwa [hssrcs])

/-! ### One frame -/

variable {S : RtpStream} {fill : DepayFillFn} {c : ReadyCall} {g j : ℕ}

theorem sum_size_eq {data : ℕ → List UInt8} (hsize : ∀ i, S.size i = UInt32.ofNat (data i).length)
    (g n : ℕ) :
    ∑ i ∈ Finset.Ico g (g + n), S.size i = UInt32.ofNat
    (((List.range' g n).map data).flatten.length) := by
  induction n with
  | zero => simp
  | succ n ih =>
    rw [← Nat.add_assoc, Finset.sum_Ico_succ_top (Nat.le_add_right g n), ih, hsize,
      List.range'_1_concat, List.map_append, List.flatten_append, List.length_append,
      UInt32.ofNat_add, List.map_singleton, List.flatten_singleton]

theorem JitterBuffer.ReadyCall.IsRange.places_eq (h : c.IsRange S g j) :
    c.jb.places c.startIndex (j - g) = ((List.range' g (j - g)).map S.packet).map some := by
  have hlt := h.lt
  rw [JitterBuffer.places, List.range'_eq_map_range, List.map_map, List.map_map]
  refine List.map_congr_left fun k hk => ?_
  have hk := List.mem_range.mp hk
  rw [Function.comp_apply, Function.comp_apply, ← h.stored (g + k) (by omega) (by omega),
    h.startIndex, RtpStream.posAt, RtpStream.posAt]
  congr 1
  omega

theorem JitterBuffer.ReadyCall.IsRange.dropCount_eq (h : c.IsRange S g j) :
    dropCount c.startIndex c.endIndex = j - g := by
  have hlt := h.lt
  have hwidth := h.width
  rw [dropCount, h.startIndex, h.endIndex, RtpStream.posAt, RtpStream.posAt]
  omega

theorem map_storeBytes (frame : Nat → UInt8) (bytes : List UInt8) :
    (List.range bytes.length).map (storeBytes frame 0 bytes) = bytes := by
  apply List.ext_getElem (by simp)
  intro k hk _
  have hlt : k < bytes.length := by simpa using hk
  simp [storeBytes, hlt]

theorem FrameReceiver.reserve_spec {f : FrameReceiver} (hbuffer : f.peerFrameBuffer.isSome = true)
    {frameSize : UInt32} (hsize : frameSize.toNat * 3 / 2 < 2 ^ 32)
    {allocated : Option (Nat → UInt8)} (hallocated : allocated.isSome = true) :
    frameSize ≤ (f.reserve frameSize allocated).peerFrameBufferSize ∧
      (f.reserve frameSize allocated).peerFrameBuffer.isSome = true ∧
      (f.reserve frameSize allocated).jitterBufferEmittedCount = f.jitterBufferEmittedCount := by
  rw [reserve]
  split_ifs with hgrow
  · refine ⟨?_, hallocated, rfl⟩
    change frameSize ≤ grownSize frameSize
    rw [UInt32.le_iff_toNat_le, grownSize, UInt32.toNat_ofNat', Nat.mod_eq_of_lt hsize]
    omega
  · exact ⟨UInt32.not_lt.mp hgrow, hbuffer, rfl⟩

/-- **A frame of the stream** is handed to the application. -/
theorem FrameReceiver.onFrameReadyFunc_range (h : c.IsRange S g j) {data : ℕ → List UInt8}
    (hsize : ∀ i, S.size i = UInt32.ofNat (data i).length)
    (hfill : ∀ i, FillsWith fill (S.packet i) (data i)) {bytes : List UInt8}
    (hbytes : ((List.range' g (j - g)).map data).flatten = bytes)
    (hlen : bytes.length * 3 / 2 < 2 ^ 32) {f : FrameReceiver}
    (hbuffer : f.peerFrameBuffer.isSome = true) {allocated : Option (Nat → UInt8)}
    (hallocated : allocated.isSome = true) :
    (f.onFrameReadyFunc fill c allocated).1 = .ok
        { index := f.jitterBufferEmittedCount.toUInt32
          decodingTs := (S.packet g).header.timestamp.toUInt64 * hundredsOfNanosInAMillisecond
          presentationTs := (S.packet g).header.timestamp.toUInt64 * hundredsOfNanosInAMillisecond
          frameData := bytes } ∧
      (f.onFrameReadyFunc fill c allocated).2.peerFrameBuffer.isSome = true ∧
      (f.onFrameReadyFunc fill c allocated).2.jitterBufferEmittedCount =
        f.jitterBufferEmittedCount + 1 := by
  have hlt := h.lt
  have hframeSize : c.frameSize = UInt32.ofNat bytes.length := by
    rw [h.frameSize, ← hbytes, ← sum_size_eq hsize, Nat.add_sub_cancel' hlt.le]
  have htoNat : c.frameSize.toNat = bytes.length := by
    rw [hframeSize, UInt32.toNat_ofNat', Nat.mod_eq_of_lt (by omega)]
  have hfirst : c.jb.pkgBufferHashTable c.startIndex = some (S.packet g) := by
    rw [h.startIndex]
    exact h.stored g le_rfl hlt
  obtain ⟨hroom, hsome, hcount⟩ := @FrameReceiver.reserve_spec
    { f with jitterBufferEmittedCount := f.jitterBufferEmittedCount + 1 } hbuffer c.frameSize
    (by rwa [htoNat]) allocated hallocated
  -- the buffer is large enough, and each packet fills its part of it
  have hdata : List.Forall₂ (FillsWith fill) ((List.range' g (j - g)).map S.packet)
      ((List.range' g (j - g)).map data) := by
    rw [List.forall₂_map_left_iff, List.forall₂_map_right_iff]
    exact List.forall₂_same.mpr fun i _ => hfill i
  rw [onFrameReadyFunc, hfirst]
  dsimp only
  generalize FrameReceiver.reserve _ c.frameSize allocated = f₁ at hroom hsome hcount ⊢
  obtain ⟨frame, hframe⟩ := Option.isSome_iff_exists.mp hsome
  have hplaces := h.places_eq
  have hstart : c.startIndex < 65536 := by
    rw [h.startIndex]
    exact Nat.mod_lt _ (by decide)
  have hloop := fillLoop_packets hdata hstart (by rwa [List.length_map, List.length_range'])
    ⟨0, c.frameSize, frame, []⟩ (by rw [hbytes]; exact htoNat.ge)
  rw [List.length_map, List.length_range', hbytes] at hloop
  rw [hframe]
  dsimp only
  rw [if_pos hroom, jitterBufferFillFrameData, h.dropCount_eq, hloop]
  dsimp only
  rw [← hframeSize, if_pos (by rw [sub_self, sub_zero])]
  refine ⟨?_, rfl, hcount⟩
  rw [htoNat, map_storeBytes]

/-! ### A run -/

/-- What the application gets for frame `k` of a stream, if the first frame is numbered `count`. -/
def Frame.sent (count : UInt64) (time : ℕ → ℕ) (contents : ℕ → List UInt8) (k : ℕ) : Frame where
  index := (count + UInt64.ofNat k).toUInt32
  decodingTs := (UInt32.ofNat (time k)).toUInt64 * hundredsOfNanosInAMillisecond
  presentationTs := (UInt32.ofNat (time k)).toUInt64 * hundredsOfNanosInAMillisecond
  frameData := contents k

theorem RtpStream.timestamp_eq (S : RtpStream) (i : ℕ) :
    (S.packet i).header.timestamp = UInt32.ofNat (S.time (S.frameOf i)) := by
  apply UInt32.toNat_inj.mp
  rw [UInt32.toNat_ofNat']
  exact S.ts_packet i

/-- **The calls for frames one after the other** hand these to the application. -/
theorem FrameReceiver.onFrames_reports {data : ℕ → List UInt8} {contents : ℕ → List UInt8}
    (hsize : ∀ i, S.size i = UInt32.ofNat (data i).length)
    (hfill : ∀ i, FillsWith fill (S.packet i) (data i))
    (hbytes : ∀ {c : ReadyCall} {g j : ℕ}, c.IsRange S g j →
      ((List.range' g (j - g)).map data).flatten = contents (S.frameOf g))
    (hlen : ∀ k, (contents k).length * 3 / 2 < 2 ^ 32) {allocated : Nat → Option (Nat → UInt8)}
    (hallocated : ∀ m, (allocated m).isSome = true) (count : UInt64) {calls : List ReadyCall}
    {k n : ℕ} (hcalls : List.Forall₂ (ReadyCall.Reports S) calls (List.range' k n))
    {f : FrameReceiver} (hbuffer : f.peerFrameBuffer.isSome = true)
    (hcount : f.jitterBufferEmittedCount = count + UInt64.ofNat k) (m : ℕ) :
    f.onFrames fill allocated m calls =
      (List.range' k n).map fun k => .ok (Frame.sent count S.time contents k) := by
  induction n generalizing calls k f m with
  | zero =>
    rw [List.range'_zero] at hcalls
    obtain rfl := List.forall₂_nil_right_iff.mp hcalls
    rfl
  | succ n ih =>
    rw [List.range'_succ] at hcalls ⊢
    obtain ⟨c, calls, hc, hrest, rfl⟩ := List.forall₂_cons_right_iff.mp hcalls
    obtain ⟨g, j, hrange, rfl⟩ := hc
    obtain ⟨hframe, hbuffer', hcount'⟩ := onFrameReadyFunc_range hrange hsize hfill (hbytes hrange)
      (hlen _) hbuffer (hallocated m)
    rw [onFrames, List.map_cons, hframe, hcount, S.timestamp_eq]
    congr 1
    refine ih hrest hbuffer' ?_ (m + 1)
    rw [hcount', hcount, UInt64.ofNat_add, add_assoc]
    rfl

end KvsWebrtc
