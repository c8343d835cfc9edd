import KvsWebrtc.JitterBuffer.Equiv.Ownership
import KvsWebrtc.PeerConnection.Receive

/-!
# Every received packet is freed exactly once

A run of `sendPacketToRtpReceiver` gives each transceiver a run of packets of its own
(`receiveAll_getElem?`).  If the callbacks succeed, no push fails, the packets are owned by the
jitter buffer alone, and freeing a buffer that can be closed frees what is left
(`packets_freed_once`).
-/

namespace KvsWebrtc

open JitterBuffer
open Rtp (minHeaderLength)

def handedOver (env : ReceiverEnv) (ssrcs : List UInt32) (call : Nat) (buffer : List UInt8) :
    Option (Nat × RtpPacket) :=
  if buffer.length < minHeaderLength then none
  else
    (ssrcs.findIdx? (· = ssrcOf buffer)).bind fun i =>
      match env.decryptSrtpPacket call buffer with
      | .error _ => none
      | .ok bytes =>
        match env.createRtpPacketFromBytes call bytes with
        | .error _ => none
        | .ok p => some (i, p)

/-- The packets that a run of calls hands to the transceiver of index `i`. -/
def handedTo (env : ReceiverEnv) (ssrcs : List UInt32) (i : Nat) : Nat → List (List UInt8) →
    List RtpPacket
  | _, [] => []
  | call, buffer :: buffers =>
    match handedOver env ssrcs call buffer with
    | some (j, p) =>
      if j = i then p :: handedTo env ssrcs i (call + 1) buffers
      else handedTo env ssrcs i (call + 1) buffers
    | none => handedTo env ssrcs i (call + 1) buffers

variable {env : ReceiverEnv} {ts : List Transceiver} {call : Nat} {buffer : List UInt8}

/-! ### One call -/

/-- The packet is the allocation of the call, and goes to the first transceiver with its SSRC. -/
theorem of_handedOver {ssrcs : List UInt32} {i : Nat} {p : RtpPacket}
    (h : handedOver env ssrcs call buffer = some (i, p)) :
    ssrcs.findIdx? (· = ssrcOf buffer) = some i ∧ p.addr = call := by
  unfold handedOver at h
  split_ifs at h
  obtain ⟨j, hj, h⟩ := Option.bind_eq_some_iff.mp h
  cases hdec : env.decryptSrtpPacket call buffer with
  | error e =>
    rw [hdec] at h
    cases h
  | ok bytes =>
    rw [hdec] at h
    dsimp only at h
    cases hcreate : env.createRtpPacketFromBytes call bytes with
    | error e =>
      rw [hcreate] at h
      cases h
    | ok q =>
      rw [hcreate] at h
      obtain ⟨rfl, rfl⟩ := Prod.mk.inj (Option.some.inj h)
      exact ⟨hj, env.addr_eq hcreate⟩

/-- **One call** changes at most the transceiver that the packet is handed to. -/
theorem sendPacketToRtpReceiver_eq (env : ReceiverEnv) (call : Nat) (buffer : List UInt8)
    (ts : List Transceiver) :
    (sendPacketToRtpReceiver env call buffer ts).2 =
      match handedOver env (ts.map Transceiver.jitterBufferSsrc) call buffer with
      | some (i, p) => ts.modify i fun t => (t.receive p).2
      | none => ts := by
  unfold sendPacketToRtpReceiver handedOver
  split_ifs with hlen
  · rfl
  · induction ts with
    | nil => rfl
    | cons t ts ih =>
      rw [receiveLoop, List.map_cons, List.findIdx?_cons]
      by_cases hssrc : t.jitterBufferSsrc = ssrcOf buffer
      · rw [if_pos hssrc, if_pos (by simpa using hssrc), Option.bind_some]
        cases env.decryptSrtpPacket call buffer with
        | error e => rfl
        | ok bytes =>
          dsimp only
          cases env.createRtpPacketFromBytes call bytes with
          | error e => rfl
          | ok p => rfl
      · rw [if_neg hssrc, if_neg (by simpa using hssrc)]
        dsimp only
        rw [ih]
        cases (ts.map Transceiver.jitterBufferSsrc).findIdx? (· = ssrcOf buffer) with
        | none => rfl
        | some i =>
          simp only [Option.map_some, Option.bind_some]
          cases env.decryptSrtpPacket call buffer with
          | error e => rfl
          | ok bytes =>
            dsimp only
            cases env.createRtpPacketFromBytes call bytes with
            | error e => rfl
            | ok p => rfl

theorem receive_ssrc (t : Transceiver) (p : RtpPacket) :
    (t.receive p).2.jitterBufferSsrc = t.jitterBufferSsrc := by
  unfold Transceiver.receive
  dsimp only
  split_ifs <;> rfl

theorem sendPacketToRtpReceiver_ssrcs (env : ReceiverEnv) (call : Nat) (buffer : List UInt8)
    (ts : List Transceiver) :
    (sendPacketToRtpReceiver env call buffer ts).2.map Transceiver.jitterBufferSsrc =
      ts.map Transceiver.jitterBufferSsrc := by
  rw [sendPacketToRtpReceiver_eq]
  rcases handedOver env (ts.map Transceiver.jitterBufferSsrc) call buffer with _ | ⟨i, p⟩
  · rfl
  · apply List.ext_getElem?
    intro j
    rw [List.getElem?_map, List.getElem?_map, List.getElem?_modify]
    cases ts[j]? with
    | none => rfl
    | some t =>
      by_cases hij : i = j
      · simp [hij, receive_ssrc]
      · simp [hij]

/-! ### Runs -/

/-- **A run of calls, seen by one transceiver**: it receives the packets handed to it, in order. -/
theorem receiveAll_getElem? (env : ReceiverEnv) (call : Nat) (ts : List Transceiver)
    (buffers : List (List UInt8)) (i : Nat) :
    (receiveAll env call ts buffers)[i]? = ts[i]?.map fun t =>
      (handedTo env (ts.map Transceiver.jitterBufferSsrc) i call buffers).foldl
        (fun t p => (t.receive p).2) t := by
  induction buffers generalizing call ts with
  | nil =>
    rw [receiveAll, handedTo]
    exact Option.map_id'.symm
  | cons buffer buffers ih =>
    rw [receiveAll, ih, sendPacketToRtpReceiver_ssrcs, sendPacketToRtpReceiver_eq, handedTo]
    rcases handedOver env (ts.map Transceiver.jitterBufferSsrc) call buffer with _ | ⟨j, p⟩
    · rfl
    · dsimp only
      rw [List.getElem?_modify]
      cases ts[i]? with
      | none => rfl
      | some t =>
        by_cases hij : j = i
        · simp [hij]
        · simp [hij]

/-- The packets of a run are distinct allocations, numbered by their calls. -/
theorem addr_of_mem_handedTo (env : ReceiverEnv) (ssrcs : List UInt32) (i call : Nat)
    (buffers : List (List UInt8)) :
    (handedTo env ssrcs i call buffers).Pairwise (fun p q => p.addr ≠ q.addr) ∧
      ∀ p ∈ handedTo env ssrcs i call buffers, call ≤ p.addr := by
  induction buffers generalizing call with
  | nil => exact ⟨.nil, fun p hp => absurd hp List.not_mem_nil⟩
  | cons buffer buffers ih =>
    obtain ⟨hpair, hle⟩ := ih (call + 1)
    have hrest : ∀ p ∈ handedTo env ssrcs i (call + 1) buffers, call ≤ p.addr :=
      fun p hp => Nat.le_of_succ_le (hle p hp)
    rw [handedTo]
    cases hover : handedOver env ssrcs call buffer with
    | none => exact ⟨hpair, hrest⟩
    | some r =>
      obtain ⟨j, p⟩ := r
      dsimp only
      split_ifs with hij
      · have haddr : p.addr = call := (of_handedOver hover).2
        refine ⟨List.pairwise_cons.mpr ⟨fun q hq => ?_, hpair⟩, fun q hq => ?_⟩
        · have := hle q hq
          omega
        · rcases List.mem_cons.mp hq with rfl | hq
          · omega
          · exact hrest q hq
      · exact ⟨hpair, hrest⟩

theorem mem_handedTo_append {ssrcs : List UInt32} {i : Nat} {buffers₁ buffers₂ : List (List UInt8)}
    {p : RtpPacket} (h : p ∈ handedTo env ssrcs i call buffers₁) :
    p ∈ handedTo env ssrcs i call (buffers₁ ++ buffers₂) := by
  induction buffers₁ generalizing call with
  | nil => exact absurd h List.not_mem_nil
  | cons buffer buffers₁ ih =>
    rw [List.cons_append, handedTo]
    rw [handedTo] at h
    generalize handedOver env ssrcs call buffer = handed at h
    rcases handed with _ | ⟨j, q⟩
    · exact ih h
    · dsimp only at h ⊢
      split_ifs at h ⊢ with hij
      · rcases List.mem_cons.mp h with rfl | h
        · exact List.mem_cons_self
        · exact List.mem_cons_of_mem _ (ih h)
      · exact ih h

theorem Succeeds.mono {cb : JbCallbacks} {l l' : List RtpPacket} (h : Succeeds cb l')
    (hl : ∀ p ∈ l, p ∈ l') : Succeeds cb l :=
  { h with depay := fun p hp => h.depay p (hl p hp) }

/-- A packet is pushed if the callbacks succeed. -/
theorem receive_succeeds {l : List RtpPacket} {t : Transceiver} {p : RtpPacket}
    (hl : Stores l t.jitterBuffer) (hcb : Succeeds t.callbacks (l ++ [p])) :
    (t.receive p).2 = { t with
  jitterBuffer := (jitterBufferPush t.callbacks t.jitterBuffer p).jb } ∧
      Stores (l ++ [p]) (jitterBufferPush t.callbacks t.jitterBuffer p).jb := by
  constructor
  · unfold Transceiver.receive
    dsimp only
    rw [push_status hl hcb]
    rfl
  · rw [jitterBufferPush_jb]
    exact (hl.pushAccept p).parse

theorem foldl_receive {l₀ : List RtpPacket} {t : Transceiver} (hl : Stores l₀ t.jitterBuffer)
    (l : List RtpPacket) (hcb : Succeeds t.callbacks (l₀ ++ l)) :
    l.foldl (fun t p => (t.receive p).2) t =
      { t with jitterBuffer := pushAll t.callbacks t.jitterBuffer l } := by
  induction l generalizing l₀ t with
  | nil => rfl
  | cons p l ih =>
    obtain ⟨hreceive, hl'⟩ := receive_succeeds hl (hcb.mono (by simp; tauto))
    rw [List.foldl_cons, hreceive, pushAll_cons]
    exact ih hl' (hcb.mono (by simp))

/-- **Every packet is freed exactly once**: for a transceiver with a new jitter buffer and callbacks
that succeed on the packets handed to it, after every call of a run each packet handed over so far
is stored and not freed, or not stored and freed once; and if the buffer can be closed, then freeing
it empties its table and leaves every packet freed exactly once. -/
theorem packets_freed_once (env : ReceiverEnv) (ts : List Transceiver)
    (buffers : List (List UInt8)) (i : Nat) {t : Transceiver} (ht : ts[i]? = some t)
    {maxLatency clockRate : UInt32}
    (hcreate : createJitterBuffer maxLatency clockRate = .ok t.jitterBuffer)
    (hcb : Succeeds t.callbacks (handedTo env (ts.map Transceiver.jitterBufferSsrc) i 0 buffers))
    (hdropped : ∀ trace a b timestamp,
      t.callbacks.onFrameDroppedFn trace a b timestamp = .success)
    (hclose : ∀ t', (receiveAll env 0 ts buffers)[i]? = some t' →
      Closable t'.callbacks t'.jitterBuffer) :
    (∀ buffers₁ buffers₂, buffers = buffers₁ ++ buffers₂ →
      ∃ t', (receiveAll env 0 ts buffers₁)[i]? = some t' ∧
        Owned (handedTo env (ts.map Transceiver.jitterBufferSsrc) i 0 buffers₁) t'.jitterBuffer) ∧
    ∃ t', (receiveAll env 0 ts buffers)[i]? = some t' ∧
      (∀ x, (freeJitterBuffer t'.callbacks t'.jitterBuffer).pkgBufferHashTable x = none) ∧
      ∀ p ∈ handedTo env (ts.map Transceiver.jitterBufferSsrc) i 0 buffers,
        (freeJitterBuffer t'.callbacks t'.jitterBuffer).freedCount p.addr = 1 := by
  obtain ⟨L, c, hjb, -, -⟩ := createJitterBuffer_ok hcreate
  have hempty : Stores [] t.jitterBuffer := by
    rw [hjb]
    exact stores_empty L c
  have howned : Owned [] t.jitterBuffer := by
    rw [hjb]
    exact owned_empty L c
  -- the buffer after the calls of a prefix of the run
  have hinit : ∀ buffers₁ buffers₂, buffers = buffers₁ ++ buffers₂ →
      ∃ t', (receiveAll env 0 ts buffers₁)[i]? = some t' ∧ t'.callbacks = t.callbacks ∧
        Stores (handedTo env (ts.map Transceiver.jitterBufferSsrc) i 0 buffers₁)
          t'.jitterBuffer ∧
        Owned (handedTo env (ts.map Transceiver.jitterBufferSsrc) i 0 buffers₁)
          t'.jitterBuffer := by
    intro buffers₁ buffers₂ heq
    rw [receiveAll_getElem?, ht, Option.map_some]
    have hcb' : Succeeds t.callbacks ([] ++ handedTo env (ts.map Transceiver.jitterBufferSsrc) i 0
        buffers₁) := by
      refine hcb.mono fun p hp => ?_
      rw [heq]
      exact mem_handedTo_append hp
    rw [foldl_receive hempty _ hcb']
    obtain ⟨hpair, -⟩ := addr_of_mem_handedTo env (ts.map Transceiver.jitterBufferSsrc) i 0 buffers₁
    exact ⟨_, rfl, rfl, hempty.pushAll _,
      howned.pushAll hempty (fun p _ q hq => absurd hq List.not_mem_nil) hpair⟩
  constructor
  · intro buffers₁ buffers₂ heq
    obtain ⟨t', ht', -, -, howned'⟩ := hinit buffers₁ buffers₂ heq
    exact ⟨t', ht', howned'⟩
  · obtain ⟨t', ht', hcallbacks, hstores, howned'⟩ := hinit buffers [] (List.append_nil _).symm
    have htable := free_table hstores (by rwa [hcallbacks]) (by rwa [hcallbacks]) (hclose t' ht')
    refine ⟨t', ht', htable, fun p hp => ?_⟩
    rw [(howned'.free hstores).freed p hp, htable, if_neg (Option.some_ne_none p).symm]

/-- A packet without CSRCs and header extension, read from its bytes. -/
def plainPacket (call : Nat) (bytes : List UInt8) : RtpPacket where
  addr := call
  header := { (default : RtpPacketHeader) with
    version := 2
    sequenceNumber := (bytes.getD 2 0).toUInt16 <<< 8 ||| (bytes.getD 3 0).toUInt16
    timestamp := (bytes.getD 4 0).toUInt32 <<< 24 ||| (bytes.getD 5 0).toUInt32 <<< 16 |||
      (bytes.getD 6 0).toUInt32 <<< 8 ||| (bytes.getD 7 0).toUInt32
    ssrc := ssrcOf bytes }
  payload := bytes.drop 12
  payloadLength := (bytes.drop 12).length.toUInt32
  rawPacket := bytes

def plainEnv : ReceiverEnv where
  decryptSrtpPacket _ bytes := .ok bytes
  createRtpPacketFromBytes call bytes := .ok (plainPacket call bytes)
  addr_eq h := by
    obtain rfl := Except.ok.inj h
    rfl

/-- Packets 1 and 2 of SSRC 7, each a frame of its own. -/
def twoFrames : List (List UInt8) :=
  [[128, 0, 0, 1, 0, 0, 0, 100, 0, 0, 0, 7, 1], [128, 0, 0, 2, 0, 0, 0, 200, 0, 0, 0, 7, 1]]

/-- A transceiver for SSRC 7 before its first packet. -/
def newTransceiver (cb : JbCallbacks) : Transceiver where
  jitterBufferSsrc := 7
  callbacks := cb
  jitterBuffer := .empty 180000 90000

theorem packets_freed_once_twoFrames :
    ∃ t', (receiveAll plainEnv 0 [newTransceiver markCallbacks] twoFrames)[0]? = some t' ∧
      (∀ x, (freeJitterBuffer t'.callbacks t'.jitterBuffer).pkgBufferHashTable x = none) ∧
      (freeJitterBuffer t'.callbacks t'.jitterBuffer).freedCount 0 = 1 ∧
      (freeJitterBuffer t'.callbacks t'.jitterBuffer).freedCount 1 = 1 := by
  have hhanded : handedTo plainEnv ([newTransceiver markCallbacks].map
      Transceiver.jitterBufferSsrc) 0 0 twoFrames =
      [plainPacket 0 twoFrames[0], plainPacket 1 twoFrames[1]] := by
    decide +kernel
  have hclose : ∀ t', (receiveAll plainEnv 0 [newTransceiver markCallbacks] twoFrames)[0]? =
      some t' → Closable t'.callbacks t'.jitterBuffer := by
    intro t' ht'
    have hstores : Stores [] (newTransceiver markCallbacks).jitterBuffer :=
      stores_empty 180000 90000
    rw [receiveAll_getElem?, hhanded, List.getElem?_cons_zero, Option.map_some,
      foldl_receive hstores _ (succeeds_markCallbacks _)] at ht'
    obtain rfl := Option.some.inj ht'
    refine .inr ⟨by decide +kernel, inWindow_of_stores (hstores.pushAll _) ?_, ?_⟩
    · decide +kernel
    · decide +kernel
  obtain ⟨-, t', ht', htable, hfreed⟩ := packets_freed_once plainEnv [newTransceiver markCallbacks]
    twoFrames 0 (t := newTransceiver markCallbacks) rfl
    (show createJitterBuffer 0 90000 = .ok (newTransceiver markCallbacks).jitterBuffer from rfl)
    (succeeds_markCallbacks _) (fun _ _ _ _ => rfl) hclose
  rw [hhanded] at hfreed
  exact ⟨t', ht', htable, hfreed (plainPacket 0 twoFrames[0]) (by simp),
    hfreed (plainPacket 1 twoFrames[1]) (by simp)⟩

def refusingCallbacks : JbCallbacks :=
  { markCallbacks with onFrameReadyFn := fun _ _ _ _ => .other 1 }

/-- The frame of packet 1 is refused, so the push of packet 2 fails after the packet was stored, and
the receiver frees it while it is in the table. -/
theorem stored_packet_freed :
    ¬ ∀ (env : ReceiverEnv) (ts : List Transceiver) (buffers : List (List UInt8)) (i : Nat)
        (t t' : Transceiver) (maxLatency clockRate : UInt32), ts[i]? = some t →
      createJitterBuffer maxLatency clockRate = .ok t.jitterBuffer →
      (receiveAll env 0 ts buffers)[i]? = some t' →
      ∀ p ∈ handedTo env (ts.map Transceiver.jitterBufferSsrc) i 0 buffers,
        t'.jitterBuffer.pkgBufferHashTable p.seq = some p →
        t'.jitterBuffer.freedCount p.addr = 0 := by
  intro h
  have hfreed := h plainEnv [newTransceiver refusingCallbacks] twoFrames 0
    (newTransceiver refusingCallbacks) _ 0 90000 rfl rfl rfl (plainPacket 1 twoFrames[1])
    (by decide +kernel) (by decide +kernel)
  revert hfreed
  decide +kernel

end KvsWebrtc
