import KvsWebrtc.Common.Blocks
import KvsWebrtc.PeerConnection.Equiv.FrameCalls
import KvsWebrtc.PeerConnection.Equiv.FrameSends
import KvsWebrtc.Rtp.Equiv.Restore

/-!
# From `writeFrame` to `onFrame`

The packets of the frames of a run are blocks one behind the other, and so a stream of the jitter
buffer (`Sending.stream`).  If the receiver gets the buffers in an order that its jitter buffer has
room for, between the buffers of other senders, then `onFrame` is called once for each frame before
the first missing packet, in order, with the contents of the frame (`frames_delivered`).  If all
buffers come in order, these are all frames but the last one (`frames_delivered_inOrder`).
-/

namespace KvsWebrtc

open Rtp JitterBuffer KvsRtpTransceiver

/-! ### Streams with the same counters -/

namespace RtpStream

variable {S S' : RtpStream}

theorem frameStart_congr (hframe : S'.frameOf = S.frameOf) (i : ℕ) :
    S'.frameStart i = S.frameStart i := by
  induction i with
  | zero => rfl
  | succ i ih => rw [frameStart, frameStart, hframe, ih]

theorem arrive_congr (hframe : S'.frameOf = S.frameOf) (htime : S'.time = S.time) :
    S'.arrive = S.arrive := by
  have hts : ∀ i, (S'.packet i).ts = (S.packet i).ts := fun i => by
    rw [S'.ts_eq, S.ts_eq, timeAt, timeAt, hframe, htime]
  funext a i
  rw [arrive, arrive, settle, settle, hts, frameStart_congr hframe]

theorem Admits.congr {L : ℕ} {a : Held} {i : ℕ} (hseq : S'.firstSeq = S.firstSeq)
    (hframe : S'.frameOf = S.frameOf) (htime : S'.time = S.time) (h : S.Admits L a i) :
    S'.Admits L a i := by
  have htimeAt : S'.timeAt = S.timeAt := by
    funext j
    rw [timeAt, timeAt, hframe, htime]
  have hposAt : S'.posAt = S.posAt := by
    funext j
    rw [posAt, posAt, hseq]
  have hturnAt : S'.turnAt = S.turnAt := by
    funext j
    rw [turnAt, turnAt, htimeAt]
  have hwrap := h.wrap
  unfold NoDoubleWrap at hwrap
  refine ⟨⟨h.width, by rw [htimeAt]; exact h.turn, by rw [htimeAt]; exact h.span, ?_⟩, h.fresh,
    h.gap⟩
  unfold NoDoubleWrap
  rw [hposAt, hturnAt]
  exact hwrap

theorem allSteps_congr {L : ℕ} {a : Held} {l : List ℕ} (hseq : S'.firstSeq = S.firstSeq)
    (hframe : S'.frameOf = S.frameOf) (htime : S'.time = S.time)
    (h : AllSteps S.arrive (S.Admits L) a l) : AllSteps S'.arrive (S'.Admits L) a l := by
  induction l generalizing a with
  | nil => trivial
  | cons i l ih =>
    refine ⟨h.1.congr hseq hframe htime, ?_⟩
    rw [arrive_congr hframe htime]
    rw [arrive_congr hframe htime] at ih
    exact ih h.2

end RtpStream

theorem nodup_of_allSteps {S : RtpStream} {L : ℕ} {a : Held} {l : List ℕ}
    (h : AllSteps S.arrive (S.Admits L) a l) : l.Nodup ∧ ∀ i ∈ l, i ∉ a.arrived := by
  induction l generalizing a with
  | nil => exact ⟨List.nodup_nil, fun i hi => absurd hi List.not_mem_nil⟩
  | cons i l ih =>
    obtain ⟨hnodup, hnew⟩ := ih h.2
    refine ⟨List.nodup_cons.mpr ⟨fun hi => ?_, hnodup⟩,
      List.forall_mem_cons.mpr ⟨h.1.fresh, fun j hj hmem => ?_⟩⟩
    · exact hnew i hi (Finset.mem_insert_self i _)
    · exact hnew j hj (Finset.mem_insert_of_mem hmem)

/-- Values for the elements of a list without repetitions extend to a function. -/
theorem exists_map_of_forall₂ {α β : Type*} [DecidableEq α] {R : α → β → Prop}
    (hR : ∀ a, ∃ b, R a b) {l : List α} {bs : List β} (h : List.Forall₂ R l bs) (hnodup : l.Nodup) :
    ∃ f : α → β, (∀ a, R a (f a)) ∧ bs = l.map f := by
  induction h with
  | nil =>
    choose f hf using hR
    exact ⟨f, hf, rfl⟩
  | @cons a b l bs hab _ ih =>
    obtain ⟨hnot, hnodup⟩ := List.nodup_cons.mp hnodup
    obtain ⟨f, hf, rfl⟩ := ih hnodup
    refine ⟨Function.update f a b, fun x => ?_, ?_⟩
    · by_cases hx : x = a
      · subst hx
        rwa [Function.update_self]
      · rw [Function.update_of_ne hx]
        exact hf x
    · rw [List.map_cons, Function.update_self]
      congr 1
      refine List.map_congr_left fun x hx => ?_
      rw [Function.update_of_ne]
      rintro rfl
      exact hnot hx

/-! ### The blocks of a stream -/

namespace Blocks

variable (b : Blocks)

/-- The first packet of a frame is the first of its block. -/
theorem offsetAt_of_starts {S : RtpStream} (hframe : S.frameOf = b.blockAt) {i : ℕ}
    (h : S.starts i = true) :
    b.offsetAt i = 0 := by
  obtain ⟨hlt, hpos⟩ := b.locate_spec i
  rw [RtpStream.starts, decide_eq_true_eq, hframe] at h
  rcases Nat.eq_zero_or_pos (b.offsetAt i) with hzero | hpositive
  · exact hzero
  · rcases h with rfl | h
    · omega
    · have hprevious := b.blockAt_start_add (show b.offsetAt i - 1 < b.size (b.blockAt i) by omega)
      rw [show b.start (b.blockAt i) + (b.offsetAt i - 1) = i - 1 by omega] at hprevious
      exact absurd hprevious.symm h

theorem isRange_eq {S : RtpStream} (hframe : S.frameOf = b.blockAt) {c : ReadyCall} {g j : ℕ}
    (h : c.IsRange S g j) : g = b.start (b.blockAt g) ∧ j - g = b.size (b.blockAt g) := by
  have hoffset := b.offsetAt_of_starts hframe h.starts
  have hpos := (b.locate_spec g).2
  rw [hoffset, Nat.add_zero] at hpos
  have hsucc := b.start_succ (b.blockAt g)
  have hnext := h.next
  have hsame := h.frame
  have hlt := h.lt
  rw [hframe] at hnext hsame
  refine ⟨hpos.symm, ?_⟩
  -- the next block starts neither before packet `j` nor behind it
  have hge : j ≤ b.start (b.blockAt g + 1) := by
    by_contra hj
    have hblock := hsame (b.start (b.blockAt g + 1)) (by omega) (by omega)
    rw [b.blockAt_start] at hblock
    omega
  have hle : b.start (b.blockAt g + 1) ≤ j := by
    by_contra hj
    have hblock := b.blockAt_eq (show b.start (b.blockAt g) ≤ j by omega) (by omega)
    omega
  omega

end Blocks

/-! ### Sending -/

def sentPayloads (c : WriteFrame) : List (List UInt8) :=
  match c.payloads with
  | .error _ => []
  | .ok payloads => payloads

/-- The frames that are written, and what the receiver is meant to get of them: `contents k` of
frame `k`. -/
structure Sending (codec : RtcCodec) (mtu : Nat) (calls : ℕ → WriteFrame) (time : ℕ → ℕ)
    (contents : ℕ → List UInt8) : Prop where
  headerSize_lt : codec.headerSize < mtu
  mtu_lt : mtu < 2 ^ 32
  sendsAll : ∀ k, SendsAll (calls k)
  packetizes : ∀ k, ∃ frameData, codec.Packetizes mtu frameData (calls k).payloads ∧
    RtcCodec.Carries mtu codec frameData (contents k)
  payloads_length : ∀ k, (sentPayloads (calls k)).flatten.length + 20 + srtpAuthTagOverhead < 2 ^ 32
  contents_length : ∀ k, (contents k).length * 3 / 2 < 2 ^ 32
  rtpTimestamp : ∀ k, (calls k).rtpTimestamp = UInt32.ofNat (time k)
  time_lt : ∀ k, time k < time (k + 1)
  time_step : ∀ k, time (k + 1) < time k + 2147483648

namespace Sending

variable {codec : RtcCodec} {mtu : Nat} {calls : ℕ → WriteFrame} {time : ℕ → ℕ}
  {contents : ℕ → List UInt8} {t : KvsRtpTransceiver}

theorem gives (h : Sending codec mtu calls time contents) (k : ℕ) :
    (calls k).payloads = .ok (sentPayloads (calls k)) ∧
      0 < (sentPayloads (calls k)).flatten.length ∧
      Restores codec.depayFunc (sentPayloads (calls k)) (contents k) := by
  obtain ⟨frameData, hpacketizes, hcarries⟩ := h.packetizes k
  obtain ⟨payloads, hpayloads, hpos, -, hrestores⟩ :=
    hcarries.gives h.headerSize_lt h.mtu_lt hpacketizes
  have heq : sentPayloads (calls k) = payloads := by rw [sentPayloads, hpayloads]
  rw [heq]
  exact ⟨hpayloads, hpos, hrestores⟩

def blocks (h : Sending codec mtu calls time contents) : Blocks where
  size k := (sentPayloads (calls k)).length
  size_pos k := by
    obtain ⟨-, -, payload, rest, -, -, heq, -⟩ := h.gives k
    rw [heq, List.length_cons]
    exact Nat.succ_pos _

/-- The stream of the packets, as far as their counters go. -/
def stream (h : Sending codec mtu calls time contents) (firstSeq : UInt16) : RtpStream :=
  .ofFrames firstSeq.toNat h.blocks.blockAt time rfl h.blocks.blockAt_succ h.time_lt h.time_step

theorem after_sender (h : Sending codec mtu calls time contents) (order : ByteOrder)
    (htype : t.sender.payloadType < 128) (k : ℕ) : ∃ buffer, (t.after order calls k).sender =
      { t.sender with
      sequenceNumber := t.sender.sequenceNumber + UInt16.ofNat (h.blocks.start k), packetBuffer :=
    buffer } := by
  induction k with
  | zero =>
    refine ⟨t.sender.packetBuffer, ?_⟩
    rw [after, Blocks.start_zero, show UInt16.ofNat 0 = 0 from rfl, UInt16.add_zero]
  | succ k ih =>
    obtain ⟨buffer, hbuffer⟩ := ih
    obtain ⟨hpayloads, hpos, -⟩ := h.gives k
    obtain ⟨-, -, buffer', hstep⟩ := frameSends_reads (t := t.after order calls k) order
      (h.sendsAll k) hpayloads hpos (h.payloads_length k) (by rw [hbuffer]; exact htype)
    refine ⟨buffer', ?_⟩
    rw [after, hstep, hbuffer, h.blocks.start_succ, UInt16.ofNat_add, ← UInt16.add_assoc]
    rfl

/-- What is done to packet `i` before it is sent. -/
def protectAt (h : Sending codec mtu calls time contents) (i : ℕ) : List UInt8 → List UInt8 :=
  ((calls (h.blocks.blockAt i)).outcome (h.blocks.offsetAt i)).protect

theorem keepsHeader (h : Sending codec mtu calls time contents) (i : ℕ) :
    KeepsHeader (h.protectAt i) :=
  (h.sendsAll _).keepsHeader _

/-- **The buffers that are sent**, numbered through: what the receiver reads from each of them. -/
theorem sends_eq (h : Sending codec mtu calls time contents) (order : ByteOrder)
    (htype : t.sender.payloadType < 128) :
    ∃ raw : ℕ → List UInt8,
      (∀ n, t.sends order calls n = (List.range (h.blocks.start n)).map fun i =>
        h.protectAt i (raw i)) ∧
      ∀ i payload, (sentPayloads (calls (h.blocks.blockAt i)))[h.blocks.offsetAt i]? = some
      payload → Reads order (raw i) (t.sender.sequenceNumber + UInt16.ofNat i)
          (UInt32.ofNat (time (h.blocks.blockAt i))) t.sender.ssrc payload := by
  have hframe : ∀ k, ((t.after order calls k).frameSends order (calls k)).length =
        (sentPayloads (calls k)).length ∧
      ∀ j, ∃ raw, ∀ payload, (sentPayloads (calls k))[j]? = some payload →
        ((t.after order calls k).frameSends order (calls k))[j]? =
            some (((calls k).outcome j).protect raw) ∧
          Reads order raw (t.sender.sequenceNumber + UInt16.ofNat (h.blocks.start k + j))
            (UInt32.ofNat (time k)) t.sender.ssrc payload := by
    intro k
    obtain ⟨buffer, hbuffer⟩ := h.after_sender order htype k
    obtain ⟨hpayloads, hpos, -⟩ := h.gives k
    obtain ⟨hlength, hreads, -⟩ := frameSends_reads (t := t.after order calls k) order
      (h.sendsAll k) hpayloads hpos (h.payloads_length k)
      (by rw [hbuffer]; exact htype)
    refine ⟨hlength, fun j => ?_⟩
    rcases hj : (sentPayloads (calls k))[j]? with _ | payload
    · exact ⟨[], fun _ hnone => by cases hnone⟩
    · obtain ⟨raw, hraw, hread⟩ := hreads j payload hj
      rw [hbuffer, h.rtpTimestamp k] at hread
      refine ⟨raw, fun payload' hpayload' => ?_⟩
      obtain rfl := Option.some.inj hpayload'
      rw [UInt16.ofNat_add, ← UInt16.add_assoc]
      exact ⟨hraw, hread⟩
  choose hlength raw hraw using hframe
  refine ⟨fun i => raw (h.blocks.blockAt i) (h.blocks.offsetAt i), fun n => ?_,
    fun i payload hpayload => ?_⟩
  · rw [sends]
    unfold protectAt
    rw [h.blocks.map_range_start fun k j => ((calls k).outcome j).protect (raw k j)]
    congr 1
    funext k
    apply List.ext_getElem
    · rw [hlength k, List.length_map, List.length_range]
      rfl
    · intro j hj _
      obtain ⟨hsent, -⟩ := hraw k j _ (List.getElem?_eq_getElem (hlength k ▸ hj))
      rw [List.getElem?_eq_getElem hj] at hsent
      rw [Option.some.inj hsent, List.getElem_map, List.getElem_range]
  · have hread := (hraw _ _ _ hpayload).2
    rw [(h.blocks.locate_spec i).2] at hread
    exact hread

end Sending

/-! ### Receiving -/

/-- What is used of the receiver: `srtp_unprotect` undoes `srtp_protect`, the packet is read from
its bytes, and the callbacks of the jitter buffer are those of the codec. -/
structure Receiving (order : ByteOrder) (codec : RtcCodec) (calls : ℕ → WriteFrame)
    (env : ReceiverEnv) (cb : JbCallbacks) (fill : DepayFillFn) : Prop where
  decrypts : ∀ call k i raw, Rtp.minHeaderLength ≤ raw.length →
    env.decryptSrtpPacket call (((calls k).outcome i).protect raw) = .ok raw
  creates : ∀ call raw, ∃ memory : RtpPacket, memory.addr = call ∧
    ∀ p, setRtpPacketFromBytes order raw memory = .ok p → p.addr = call →
      env.createRtpPacketFromBytes call raw = .ok p
  sizes : ∀ payload (len : UInt32) d, codec.depayFunc (payload.take len.toNat) none = .ok d →
    cb.depayPayloadFn payload len = .ok (UInt32.ofNat d.naluLength, d.isStart)
  fills : ∀ payload (len room : UInt32) d, codec.depayFunc (payload.take len.toNat)
    (some room.toNat) = .ok d →
    fill payload len room = ⟨.success, UInt32.ofNat d.naluLength, d.naluData⟩
  ready : cb.AlwaysReady

variable {codec : RtcCodec} {calls : ℕ → WriteFrame} {order : ByteOrder} {env : ReceiverEnv}
  {cb : JbCallbacks} {fill : DepayFillFn} {ssrcs : List UInt32} {ssrc : UInt32} {r : ℕ}

namespace Receiving

/-- A packet that carries a payload is depayloaded to its piece of the frame. -/
theorem depay_eq (h : Receiving order codec calls env cb fill) {p : RtpPacket}
      {payload bytes : List UInt8}
    {isStart : Bool} (hpayload : payloadBytes p = payload)
    (hdepays : Depays codec.depayFunc payload isStart bytes) (hlen : bytes.length < 2 ^ 32) :
    cb.depay p = .ok (UInt32.ofNat bytes.length, isStart) ∧ FillsWith fill p bytes := by
  rw [payloadBytes] at hpayload
  constructor
  · exact h.sizes p.payload p.payloadLength ⟨bytes.length, isStart, []⟩
        (by rw [hpayload, hdepays none]; rfl)
  · intro room hroom
    have hfill := h.fills p.payload p.payloadLength room ⟨bytes.length % 2 ^ 32, isStart, bytes⟩ (by
      rw [hpayload, hdepays (some room.toNat)]
      simp only [depayWrite]
      rw [if_pos hroom, if_pos hroom])
    rw [Nat.mod_eq_of_lt hlen] at hfill
    exact hfill

/-- **The packets that are handed over**: those of the buffers with the SSRC, in order. -/
theorem handedTo_forall₂ (h : Receiving order codec calls env cb fill)
    (hindex : ∀ x, ssrcs.findIdx? (· = x) = some r ↔ x = ssrc) {raw : ℕ → List UInt8}
    {sequenceNumber : ℕ → UInt16} {timestamp : ℕ → UInt32} {payload : ℕ → List UInt8}
    (hreads : ∀ i, Reads order (raw i) (sequenceNumber i) (timestamp i) ssrc (payload i))
    {frame offset : ℕ → ℕ}
    (hprotect : ∀ i, KeepsHeader ((calls (frame i)).outcome (offset i)).protect)
    {buffers : List (List UInt8)} {l : List ℕ} (hbuffers : buffers.filter (ssrcOf · = ssrc) =
      l.map fun i => ((calls (frame i)).outcome (offset i)).protect (raw i)) (call : ℕ) :
    List.Forall₂ (fun i p => ∃ memory, setRtpPacketFromBytes order (raw i) memory = .ok p) l
      (handedTo env ssrcs r call buffers) := by
  induction buffers generalizing l call with
  | nil =>
    obtain rfl : l = [] := List.map_eq_nil_iff.mp hbuffers.symm
    exact .nil
  | cons buffer buffers ih =>
    rw [handedTo]
    by_cases hssrc : ssrcOf buffer = ssrc
    · rw [List.filter_cons_of_pos (by simpa using hssrc)] at hbuffers
      cases l with
      | nil => cases hbuffers
      | cons i l =>
        rw [List.map_cons] at hbuffers
        obtain ⟨rfl, hrest⟩ := List.cons.inj hbuffers
        obtain ⟨hlen, -⟩ := (hreads i).ssrcOf_protect (hprotect i)
        obtain ⟨memory, haddr, hcreate⟩ := h.creates call (raw i)
        obtain ⟨p, hp, haddr', -⟩ := (hreads i).decode memory
        rw [handedOver, if_neg (Nat.not_lt.mpr hlen), (hindex _).mpr hssrc, Option.bind_some,
          h.decrypts call _ _ _ (hreads i).minHeaderLength_le]
        dsimp only
        rw [hcreate p hp (haddr'.trans haddr)]
        dsimp only
        rw [if_pos rfl]
        exact .cons ⟨memory, hp⟩ (ih hrest (call + 1))
    · rw [List.filter_cons_of_neg (by simpa using hssrc)] at hbuffers
      have hrest := ih hbuffers (call + 1)
      rcases hover : handedOver env ssrcs call buffer with _ | ⟨j, p⟩
      · exact hrest
      · dsimp only
        rw [if_neg]
        · exact hrest
        · rintro rfl
          exact hssrc ((hindex _).mp (of_handedOver hover).1)

end Receiving

/-! ### From end to end -/

theorem Rtp.Restores.pieces {depay : List UInt8 → Option Nat → Except Failure Depayed}
    {payloads : List (List UInt8)} {contents : List UInt8} (h : Restores depay payloads contents) :
    ∃ pieces : List (List UInt8), pieces.flatten = contents ∧ pieces.length = payloads.length ∧
      ∀ i payload, payloads[i]? = some payload → ∃ isStart,
        Depays depay payload isStart (pieces[i]?.getD []) ∧ (i = 0 → isStart = true) := by
  obtain ⟨first, rest, bytes, pieces, rfl, rfl, hfirst, hrest⟩ := h
  refine ⟨bytes :: pieces, List.flatten_cons, by
    rw [List.length_cons, List.length_cons, hrest.length_eq], ?_⟩
  intro i payload hpayload
  cases i with
  | zero =>
    obtain rfl := Option.some.inj hpayload
    exact ⟨true, hfirst, fun _ => rfl⟩
  | succ i =>
    rw [List.getElem?_cons_succ] at hpayload
    obtain ⟨hi, rfl⟩ := List.getElem?_eq_some_iff.mp hpayload
    obtain ⟨isStart, hdepays⟩ := (List.forall₂_iff_get.mp hrest).2 i hi (hrest.length_eq ▸ hi)
    refine ⟨isStart, ?_, fun h => absurd h (Nat.succ_ne_zero i)⟩
    rw [List.getElem?_cons_succ, List.getElem?_eq_getElem (hrest.length_eq ▸ hi)]
    exact hdepays

/-- The transceiver of index `r` is the first one with the SSRC. -/
structure FirstWith (ts : List Transceiver) (r : ℕ) (receiver : Transceiver) (ssrc : UInt32) :
    Prop where
  get : ts[r]? = some receiver
  ssrc_eq : receiver.jitterBufferSsrc = ssrc
  before : ∀ j < r, ∀ u, ts[j]? = some u → u.jitterBufferSsrc ≠ ssrc

theorem FirstWith.findIdx?_iff {ts : List Transceiver} {receiver : Transceiver}
    (h : FirstWith ts r receiver ssrc) (x : UInt32) :
    (ts.map Transceiver.jitterBufferSsrc).findIdx? (· = x) = some r ↔ x = ssrc := by
  obtain ⟨hr, hget⟩ := List.getElem?_eq_some_iff.mp h.get
  rw [List.findIdx?_eq_some_iff_getElem]
  constructor
  · rintro ⟨hlt, heq, -⟩
    rw [List.getElem_map, hget, h.ssrc_eq, decide_eq_true_eq] at heq
    exact heq.symm
  · rintro rfl
    refine ⟨by rwa [List.length_map], by
      rw [List.getElem_map, hget, h.ssrc_eq]; exact decide_eq_true rfl, ?_⟩
    intro j hj
    rw [List.getElem_map, decide_eq_true_eq]
    exact h.before j hj _ (List.getElem?_eq_getElem _)

variable {mtu : ℕ} {time : ℕ → ℕ} {contents : ℕ → List UInt8}
  {t : KvsRtpTransceiver} {ts : List Transceiver} {receiver : Transceiver}
  {buffers : List (List UInt8)}

/-- Buffers that are among those of a sender are named by their numbers. -/
theorem eq_map_of_map_some {α : Type*} {sent : List α} {item : ℕ → α} {size : ℕ}
    (hsent : sent = (List.range size).map item) {xs : List α} {is : List ℕ}
    (h : xs.map some = is.map fun i => sent[i]?) : xs = is.map item := by
  induction xs generalizing is with
  | nil =>
    obtain rfl : is = [] := List.map_eq_nil_iff.mp h.symm
    rfl
  | cons x xs ih =>
    cases is with
    | nil => cases h
    | cons i is =>
      rw [List.map_cons, List.map_cons] at h
      obtain ⟨hx, hxs⟩ := List.cons.inj h
      obtain ⟨hi, rfl⟩ := List.getElem?_eq_some_iff.mp hx.symm
      rw [List.map_cons, ih hxs]
      simp [hsent]

namespace Sending

def streamOf (h : Sending codec mtu calls time contents) (firstSeq : UInt16)
    (packet : ℕ → RtpPacket) (size : ℕ → UInt32)
    (hseq : ∀ i, (packet i).header.sequenceNumber = firstSeq + UInt16.ofNat i)
    (htime : ∀ i, (packet i).header.timestamp = UInt32.ofNat (time (h.blocks.blockAt i))) :
    RtpStream :=
  { h.stream firstSeq with
    packet := packet
    size := size
    seq_packet := fun i => by
      rw [RtpPacket.seq, hseq i, UInt16.toNat_add, UInt16.toNat_ofNat']
      change _ = (firstSeq.toNat + i) % 65536
      omega
    ts_packet := fun i => by
      rw [RtpPacket.ts, htime i, UInt32.toNat_ofNat']
      rfl }

theorem piece_length (h : Sending codec mtu calls time contents) {pieces : List (List UInt8)}
    {k : ℕ} (hflatten : pieces.flatten = contents k) (j : ℕ) :
    (pieces[j]?.getD []).length < 2 ^ 32 := by
  have hlen := h.contents_length k
  rcases hget : pieces[j]? with _ | piece
  · simp
  · have hle := (List.sublist_flatten_of_mem (List.mem_of_getElem? hget)).length_le
    rw [hflatten] at hle
    rw [Option.getD_some]
    omega

/-- **The pushes of the packets** of the frames: if each of them is depayloaded to its piece of the
frame, the application gets the frames. -/
theorem onFrames_runCalls (h : Sending codec mtu calls time contents) {S : RtpStream}
    (hframe : S.frameOf = h.blocks.blockAt) (htime : S.time = time) {pieces : ℕ → List (List UInt8)}
    (hflatten : ∀ k, (pieces k).flatten = contents k)
    (hlength : ∀ k, (pieces k).length = h.blocks.size k) {data : ℕ → List UInt8}
    (hdata : ∀ i, data i = (pieces (h.blocks.blockAt i))[h.blocks.offsetAt i]?.getD [])
    (hsize : ∀ i, S.size i = UInt32.ofNat (data i).length)
    (hdepay : ∀ i, ∃ isStart, cb.depay (S.packet i) = .ok (UInt32.ofNat (data i).length, isStart) ∧
      (h.blocks.offsetAt i = 0 → isStart = true))
    (hfill : ∀ i, FillsWith fill (S.packet i) (data i)) (hready : cb.AlwaysReady) {L : ℕ}
    (hL : L < 4294967295) (clockRate : ℕ) {l : List ℕ}
    (hsteps : AllSteps S.arrive (S.Admits L) Held.first l) {f : FrameReceiver}
    (hbuffer : f.peerFrameBuffer.isSome = true) {allocated : ℕ → Option (Nat → UInt8)}
    (hallocated : ∀ m, (allocated m).isSome = true) :
    f.onFrames fill allocated 0 (runCalls cb (.empty L clockRate) ((0 :: l).map S.packet)) =
      (List.range (S.frameOf (l.foldl S.arrive Held.first).head)).map fun k =>
        .ok (Frame.sent f.jitterBufferEmittedCount time contents k) := by
  have hdepaysFrom : S.DepaysFrom cb := by
    intro i
    obtain ⟨isStart, heq, hstart⟩ := hdepay i
    exact ⟨isStart, by rw [heq, hsize i], fun hs => hstart (h.blocks.offsetAt_of_starts hframe hs)⟩
  have hbytes : ∀ {c : ReadyCall} {g j : ℕ}, c.IsRange S g j →
      ((List.range' g (j - g)).map data).flatten = contents (S.frameOf g) := by
    intro c g j hrange
    obtain ⟨hg, hj⟩ := h.blocks.isRange_eq hframe hrange
    rw [hframe, ← hflatten, hj]
    congr 1
    apply List.ext_getElem
    · rw [List.length_map, List.length_range', hlength]
    · intro i hi _
      rw [List.length_map, List.length_range'] at hi
      rw [List.getElem_map, List.getElem_range', hdata, Nat.one_mul]
      conv_lhs => rw [hg]
      rw [h.blocks.blockAt_start_add hi, h.blocks.offsetAt_start_add hi,
        List.getElem?_eq_getElem (by rwa [hlength]), Option.getD_some]
  obtain ⟨n, hn, hcalls⟩ := runCalls_first hL clockRate hdepaysFrom hready hsteps
  rw [Nat.zero_add] at hn
  rw [FrameReceiver.onFrames_reports hsize hfill hbytes h.contents_length hallocated
    f.jitterBufferEmittedCount hcalls hbuffer (by rw [show UInt64.ofNat 0 = 0 from rfl, add_zero])
    0, hn, List.range_eq_range', htime]

/-- **The frames before the first missing packet**: the receiver gets the packets numbered by `0 ::
l`. -/
theorem onFrames_readyCalls (h : Sending codec mtu calls time contents)
    (hr : Receiving order codec calls env receiver.callbacks fill)
    (hfirst : FirstWith ts r receiver t.sender.ssrc) {maxLatency clockRate : UInt32}
    (hcreate : createJitterBuffer maxLatency clockRate = .ok receiver.jitterBuffer)
    {raw : ℕ → List UInt8}
    (hreads : ∀ i payload, (sentPayloads (calls (h.blocks.blockAt i)))[h.blocks.offsetAt i]? = some
      payload →
      Reads order (raw i) (t.sender.sequenceNumber + UInt16.ofNat i)
        (UInt32.ofNat (time (h.blocks.blockAt i))) t.sender.ssrc payload) {l : List ℕ}
    (hbuffers : buffers.filter (ssrcOf · = t.sender.ssrc) = (0 :: l).map fun i =>
      h.protectAt i (raw i))
    (hadmits : AllSteps (h.stream t.sender.sequenceNumber).arrive
      ((h.stream t.sender.sequenceNumber).Admits receiver.jitterBuffer.maxLatency) Held.first l)
    {f : FrameReceiver} (hbuffer : f.peerFrameBuffer.isSome = true) {allocated :
      ℕ → Option (Nat → UInt8)}
    (hallocated : ∀ m, (allocated m).isSome = true) :
    f.onFrames fill allocated 0 (readyCalls env r 0 ts buffers) =
      (List.range ((h.stream t.sender.sequenceNumber).frameOf
        (l.foldl (h.stream t.sender.sequenceNumber).arrive Held.first).head)).map fun k =>
          .ok (Frame.sent f.jitterBufferEmittedCount time contents k) := by
  -- the payload and the piece of the frame that packet `i` carries
  have hpieces : ∀ k, ∃ pieces : List (List UInt8), pieces.flatten = contents k ∧
      pieces.length = (sentPayloads (calls k)).length ∧
      ∀ i payload, (sentPayloads (calls k))[i]? = some payload → ∃ isStart,
        Depays codec.depayFunc payload isStart (pieces[i]?.getD []) ∧ (i = 0 → isStart = true) :=
    fun k => (h.gives k).2.2.pieces
  choose pieces hflatten hlength hdepays using hpieces
  have hpayload : ∀ i, ∃ payload,
      (sentPayloads (calls (h.blocks.blockAt i)))[h.blocks.offsetAt i]? = some payload := fun i =>
    ⟨_, List.getElem?_eq_getElem (h.blocks.locate_spec i).1⟩
  choose payload hpayload using hpayload
  have hread := fun i => hreads i _ (hpayload i)
  -- the buffers with the SSRC are those of the packets
  have hnodup : (0 :: l).Nodup := by
    obtain ⟨hl, hnew⟩ := nodup_of_allSteps hadmits
    exact List.nodup_cons.mpr ⟨fun hzero => hnew 0 hzero (by simp [Held.first]), hl⟩
  have hhanded := hr.handedTo_forall₂ hfirst.findIdx?_iff hread h.keepsHeader
    hbuffers 0
  obtain ⟨packet, hpacket, hpackets⟩ := exists_map_of_forall₂
    (fun i => (hread i).decode default |>.imp fun p hp => ⟨default, hp.1⟩) hhanded hnodup
  have hfields : ∀ i, (packet i).header.sequenceNumber = t.sender.sequenceNumber + UInt16.ofNat i ∧
      (packet i).header.timestamp = UInt32.ofNat (time (h.blocks.blockAt i)) ∧
      payloadBytes (packet i) = payload i := by
    intro i
    obtain ⟨memory, hp⟩ := hpacket i
    obtain ⟨p, hdecode, -, hnumber, htimestamp, hbytes, -⟩ := (hread i).decode memory
    obtain rfl := Except.ok.inj (hp.symm.trans hdecode)
    exact ⟨hnumber, htimestamp, hbytes⟩
  -- what becomes of a packet in the callbacks
  have hpiece : ∀ i, ∃ isStart, receiver.callbacks.depay (packet i) =
        .ok (UInt32.ofNat ((pieces (h.blocks.blockAt i))[h.blocks.offsetAt i]?.getD []).length,
          isStart) ∧
      (h.blocks.offsetAt i = 0 → isStart = true) ∧
      FillsWith fill (packet i) ((pieces (h.blocks.blockAt i))[h.blocks.offsetAt i]?.getD []) := by
    intro i
    obtain ⟨isStart, hdepay, hstart⟩ := hdepays _ _ _ (hpayload i)
    obtain ⟨hdepay, hfill⟩ := hr.depay_eq (hfields i).2.2 hdepay (h.piece_length (hflatten _) _)
    exact ⟨isStart, hdepay, hstart, hfill⟩
  obtain ⟨L, c, hjb, hL, -⟩ := createJitterBuffer_ok hcreate
  rw [hjb] at hadmits
  have hsucceeds : Succeeds receiver.callbacks
      ([] ++ handedTo env (ts.map Transceiver.jitterBufferSsrc) r 0 buffers) := by
    refine ⟨hr.ready, fun p hp => ?_⟩
    rw [hpackets, List.nil_append] at hp
    obtain ⟨i, -, rfl⟩ := List.mem_map.mp hp
    obtain ⟨isStart, hdepay, -⟩ := hpiece i
    exact ⟨_, hdepay⟩
  have hstores : Stores [] receiver.jitterBuffer := by
    rw [hjb]
    exact stores_empty L c
  rw [readyCalls_eq env hfirst.get hstores hsucceeds, hpackets, hjb]
  -- the stream of the packets has the counters of the frames
  obtain ⟨S, hpacketS, hsizeS, hseqS, hframeS, htimeS⟩ : ∃ S : RtpStream, S.packet = packet ∧
      (∀ i, S.size i = UInt32.ofNat ((pieces (h.blocks.blockAt i))[h.blocks.offsetAt i]?.getD
      []).length) ∧
      S.firstSeq = (h.stream t.sender.sequenceNumber).firstSeq ∧
      S.frameOf = (h.stream t.sender.sequenceNumber).frameOf ∧
      S.time = (h.stream t.sender.sequenceNumber).time :=
    ⟨h.streamOf t.sender.sequenceNumber packet _ (fun i => (hfields i).1) fun i => (hfields i).2.1,
      rfl, fun _ => rfl, rfl, rfl, rfl⟩
  rw [← hpacketS] at hpiece
  have hsteps := RtpStream.allSteps_congr hseqS hframeS htimeS hadmits
  have hresult := h.onFrames_runCalls hframeS htimeS hflatten hlength (fun _ => rfl) hsizeS
    (fun i => by
      obtain ⟨isStart, hdepay, hstart, -⟩ := hpiece i
      exact ⟨isStart, hdepay, hstart⟩)
    (fun i => (hpiece i).choose_spec.2.2) hr.ready hL c hsteps hbuffer hallocated
  rw [RtpStream.arrive_congr hframeS htimeS, hframeS] at hresult
  rw [← hpacketS]
  exact hresult

end Sending

/-- **Frames are delivered**: the receiver gets the buffers of the sender numbered by `0 :: l`,
between any others, and its jitter buffer admits them in this order.  Then the application gets the
frames before that of the oldest packet that is held: the last complete frame before a missing
packet is not among them. -/
theorem frames_delivered (h : Sending codec mtu calls time contents)
    (htype : t.sender.payloadType < 128)
    (hr : Receiving order codec calls env receiver.callbacks fill)
    (hfirst : FirstWith ts r receiver t.sender.ssrc) {maxLatency clockRate : UInt32}
    (hcreate : createJitterBuffer maxLatency clockRate = .ok receiver.jitterBuffer) {n : ℕ}
    {l : List ℕ} (hbuffers : (buffers.filter (ssrcOf · = t.sender.ssrc)).map some =
      (0 :: l).map fun i => (t.sends order calls n)[i]?)
    (hadmits : AllSteps (h.stream t.sender.sequenceNumber).arrive
      ((h.stream t.sender.sequenceNumber).Admits receiver.jitterBuffer.maxLatency) Held.first l)
    {f : FrameReceiver} (hbuffer : f.peerFrameBuffer.isSome = true) {allocated :
      ℕ → Option (Nat → UInt8)}
    (hallocated : ∀ m, (allocated m).isSome = true) :
    f.onFrames fill allocated 0 (readyCalls env r 0 ts buffers) =
      (List.range ((h.stream t.sender.sequenceNumber).frameOf
        (l.foldl (h.stream t.sender.sequenceNumber).arrive Held.first).head)).map fun k =>
          .ok (Frame.sent f.jitterBufferEmittedCount time contents k) := by
  obtain ⟨raw, hsends, hreads⟩ := h.sends_eq order htype
  exact h.onFrames_readyCalls hr hfirst hcreate hreads (eq_map_of_map_some (hsends n) hbuffers)
    hadmits hbuffer
    hallocated

/-- Buffers in the order of sending fit if the frames are not too long. -/
theorem Sending.oldestHeld_width (h : Sending codec mtu calls time contents) (firstSeq : UInt16)
    (hwidth : ∀ k, (sentPayloads (calls k)).length ≤ 32511) (m : ℕ) :
    m + 1 ≤ (h.stream firstSeq).oldestHeld m + 65022 := by
  have hstart := h.blocks.offsetAt_of_starts (S := h.stream firstSeq) rfl
    ((h.stream firstSeq).starts_oldestHeld m)
  have hframe : h.blocks.blockAt m ≤ h.blocks.blockAt ((h.stream firstSeq).oldestHeld m) + 1 :=
    (h.stream firstSeq).frameOf_le_oldestHeld m
  generalize (h.stream firstSeq).oldestHeld m = o at hstart hframe
  have ho := (h.blocks.locate_spec o).2
  obtain ⟨hlt, hm⟩ := h.blocks.locate_spec m
  have hmono := h.blocks.start_strictMono.monotone hframe
  have hsize : ∀ k, h.blocks.size k ≤ 32511 := hwidth
  have h₁ := hsize (h.blocks.blockAt o)
  have h₂ := hsize (h.blocks.blockAt m)
  rw [h.blocks.start_succ] at hmono
  omega

/-- **All frames but the last one** reach the application if the receiver gets the buffers in the
order of sending. -/
theorem frames_delivered_inOrder (h : Sending codec mtu calls time contents)
    (htype : t.sender.payloadType < 128)
    (hr : Receiving order codec calls env receiver.callbacks fill)
    (hfirst : FirstWith ts r receiver t.sender.ssrc) {maxLatency clockRate : UInt32}
    (hcreate : createJitterBuffer maxLatency clockRate = .ok receiver.jitterBuffer) {n : ℕ}
    (hbuffers : buffers.filter (ssrcOf · = t.sender.ssrc) = t.sends order calls (n + 1))
    (hwidth : ∀ k, (sentPayloads (calls k)).length ≤ 32511) (hlast : time n % 4294967296 ≠ 0)
    {f : FrameReceiver} (hbuffer : f.peerFrameBuffer.isSome = true)
    {allocated : ℕ → Option (Nat → UInt8)} (hallocated : ∀ m, (allocated m).isSome = true) :
    f.onFrames fill allocated 0 (readyCalls env r 0 ts buffers) =
      (List.range n).map fun k => .ok (Frame.sent f.jitterBufferEmittedCount time contents k) := by
  obtain ⟨raw, hsends, hreads⟩ := h.sends_eq order htype
  have hsucc := h.blocks.start_succ n
  have hpos := h.blocks.size_pos n
  obtain ⟨m, hm⟩ : ∃ m, h.blocks.start (n + 1) = m + 1 := ⟨h.blocks.start (n + 1) - 1, by omega⟩
  have hpackets : buffers.filter (ssrcOf · = t.sender.ssrc) =
      (0 :: List.range' 1 m).map fun i => h.protectAt i (raw i) := by
    rw [hbuffers, hsends, hm, range_eq_cons]
  obtain ⟨hsteps, hheld⟩ := @allSteps_inOrder (h.stream t.sender.sequenceNumber)
    receiver.jitterBuffer.maxLatency m fun k _ => h.oldestHeld_width _ hwidth k
  have hblock : h.blocks.blockAt m = n := h.blocks.blockAt_eq (by omega) (by omega)
  have hts : ((h.stream t.sender.sequenceNumber).packet m).ts ≠ 0 := by
    rw [RtpStream.ts_eq]
    change time (h.blocks.blockAt m) % 4294967296 ≠ 0
    rwa [hblock]
  have hhead : (h.stream t.sender.sequenceNumber).frameOf
      ((h.stream t.sender.sequenceNumber).inOrder m).head = n := by
    change (h.stream t.sender.sequenceNumber).frameOf
        ((h.stream t.sender.sequenceNumber).oldestHeld m) = n
    rw [RtpStream.oldestHeld_of_ts_ne _ hts, RtpStream.frameOf_frameStart]
    exact hblock
  have hframes := h.onFrames_readyCalls hr hfirst hcreate hreads hpackets hsteps hbuffer hallocated
  rwa [hheld, hhead] at hframes

/-! ### A sample -/

def sixBytes : AnnexBUnit IsH264Nalu :=
  ⟨true, [0x65, 1, 2, 3, 4, 5], ⟨⟨by decide, by decide, by decide⟩, by decide, by decide, by
  decide⟩⟩

def twoFragments (k : ℕ) : WriteFrame where
  srtpReady := true
  payloads := payloadsOf (createPayloadForH264 5 (annexB [sixBytes]))
  rtpTimestamp := UInt32.ofNat (4294967000 + 3000 * k)
  packetListAllocated := true
  memory _ := default
  outcome _ :=
    { allocated := true
      copied := true
      encrypted := true
      protect := addTag
      sendStatus := .success
      sentTime := 0 }

theorem sentPayloads_twoFragments (k : ℕ) :
    sentPayloads (twoFragments k) = [[0x7c, 0x85, 1, 2, 3], [0x7c, 0x45, 4, 5]] := by
  have h : sentPayloads (twoFragments 0) = [[0x7c, 0x85, 1, 2, 3], [0x7c, 0x45, 4, 5]] := by
    decide +kernel
  exact h

theorem sending_twoFragments : Sending .h264 5 twoFragments (fun k => 4294967000 + 3000 * k)
    (fun _ => [0, 0, 0, 1, 0x65, 1, 2, 3, 4, 5]) where
  headerSize_lt := by decide
  mtu_lt := by decide
  sendsAll _ := ⟨rfl, rfl, fun _ => rfl, fun _ => rfl, fun _ => ⟨rfl, .inl rfl⟩, fun _ =>
    keepsHeader_addTag⟩
  packetizes _ := ⟨annexB [sixBytes], ⟨createPayloadForH264 5 (annexB [sixBytes]), fun _ =>
    ⟨0, rfl⟩, rfl⟩, .h264 [sixBytes] (List.cons_ne_nil _ _) (by decide) (by decide)⟩
  payloads_length k := by
    rw [sentPayloads_twoFragments]
    decide
  contents_length _ := by decide
  rtpTimestamp _ := rfl
  time_lt k := by omega
  time_step k := by omega

def sampleSender : KvsRtpTransceiver :=
  { KvsRtpTransceiver.newTransceiver with
    sender := { KvsRtpTransceiver.newTransceiver.sender with sequenceNumber := 65533, ssrc := 7 } }

/-- An environment that takes the tags off again. -/
def sampleEnv : ReceiverEnv where
  decryptSrtpPacket _ bytes := .ok (bytes.take (bytes.length - srtpAuthTagOverhead))
  createRtpPacketFromBytes call bytes :=
    match setRtpPacketFromBytes .littleEndian bytes { (default : RtpPacket) with addr := call } with
    | .error _ => .error .invalidArg
    | .ok p => .ok { p with addr := call }
  addr_eq := by
    intro call bytes p h
    rcases hset : setRtpPacketFromBytes .littleEndian bytes { (default : RtpPacket) with
      addr := call } with e | q
    · simp [hset] at h
    · rw [hset] at h
      obtain rfl := Except.ok.inj h
      rfl

def h264Callbacks : JbCallbacks :=
  { markCallbacks with
    depayPayloadFn := fun payload len =>
      match depayH264FromRtpPayload (payload.take len.toNat) none with
      | .error _ => .error .invalidArg
      | .ok d => .ok (UInt32.ofNat d.naluLength, d.isStart) }

def h264Fill : DepayFillFn := fun payload len room =>
  match depayH264FromRtpPayload (payload.take len.toNat) (some room.toNat) with
  | .error _ => ⟨.invalidArg, 0, []⟩
  | .ok d => ⟨.success, UInt32.ofNat d.naluLength, d.naluData⟩

theorem receiving_twoFragments :
    Receiving .littleEndian .h264 twoFragments sampleEnv h264Callbacks h264Fill where
  decrypts _ _ _ raw _ := by
    change Except.ok ((addTag raw).take ((addTag raw).length - srtpAuthTagOverhead)) = _
    simp [addTag]
  creates call raw := by
    refine ⟨{ (default : RtpPacket) with addr := call }, rfl, fun p hp haddr => ?_⟩
    simp only [sampleEnv, hp]
    rw [← haddr]
  sizes payload len d hd := by
    replace hd : depayH264FromRtpPayload (payload.take len.toNat) none = .ok d := hd
    simp only [h264Callbacks, hd]
  fills payload len room d hd := by
    replace hd : depayH264FromRtpPayload (payload.take len.toNat) (some room.toNat) = .ok d := hd
    simp only [h264Fill, hd]
  ready _ _ _ _ := rfl

/-- A transceiver that receives, behind one for another SSRC. -/
def sampleReceiver : Transceiver := newTransceiver h264Callbacks

def sampleTransceivers : List Transceiver :=
  [{ sampleReceiver with jitterBufferSsrc := 8 }, sampleReceiver]

theorem createJitterBuffer_sampleReceiver :
    createJitterBuffer 0 90000 = .ok sampleReceiver.jitterBuffer := rfl

theorem firstWith_sampleReceiver : FirstWith sampleTransceivers 1 sampleReceiver 7 where
  get := rfl
  ssrc_eq := rfl
  before j hj u hu := by
    obtain rfl : j = 0 := by omega
    obtain rfl := Option.some.inj hu
    decide

def otherBuffer : List UInt8 := List.replicate 13 8

def sampleFrameReceiver : FrameReceiver := ⟨0, defaultPeerFrameBufferSize, some fun _ => 0⟩

/-- The buffers of three frames, two of them swapped twice, between those of others. -/
def swappedBuffers : List (List UInt8) :=
  otherBuffer :: ([0, 2, 1, 4, 3, 5].map fun i =>
    (sampleSender.sends .littleEndian twoFragments 3).getD i []) ++
    [otherBuffer]

theorem frames_delivered_inOrder_sample :
    sampleFrameReceiver.onFrames h264Fill (fun _ => some fun _ => 0) 0
        (readyCalls sampleEnv 1 0 sampleTransceivers
          (otherBuffer :: sampleSender.sends .littleEndian twoFragments 3)) =
      (List.range 2).map fun k => .ok (Frame.sent 0 (fun k => 4294967000 + 3000 * k)
        (fun _ => [0, 0, 0, 1, 0x65, 1, 2, 3, 4, 5]) k) := by
  refine frames_delivered_inOrder (t := sampleSender) sending_twoFragments
      (by decide) receiving_twoFragments
    firstWith_sampleReceiver createJitterBuffer_sampleReceiver ?_ (fun k => ?_) (by decide) rfl
    fun _ => rfl
  · decide +kernel
  · rw [sentPayloads_twoFragments]
    decide

theorem frames_delivered_sample :
    sampleFrameReceiver.onFrames h264Fill (fun _ => some fun _ => 0) 0
        (readyCalls sampleEnv 1 0 sampleTransceivers swappedBuffers) =
      (List.range 2).map fun k => .ok (Frame.sent 0 (fun k => 4294967000 + 3000 * k)
        (fun _ => [0, 0, 0, 1, 0x65, 1, 2, 3, 4, 5]) k) := by
  have hfits : AllSteps (sending_twoFragments.stream 65533).arrive
      ((sending_twoFragments.stream 65533).Fits 180000) Held.first [2, 1, 4, 3, 5] := by
    decide +kernel
  have hadmits := @RtpStream.allSteps_admits (sending_twoFragments.stream 65533) 180000 Held.first
    [0]
    [2, 1, 4, 3, 5] hfits rfl (by simp [Held.first]) (by decide) ?_
  · have hallocated : ∀ m, ((fun _ => some fun _ => 0 : ℕ → Option (Nat → UInt8)) m).isSome =
          true :=
      fun _ => rfl
    have hhead : (sending_twoFragments.stream 65533).frameOf
        ([2, 1, 4, 3, 5].foldl (sending_twoFragments.stream 65533).arrive Held.first).head = 2 := by
      decide +kernel
    have hframes := frames_delivered (t := sampleSender) (n := 3) (f := sampleFrameReceiver)
      sending_twoFragments (by decide) receiving_twoFragments firstWith_sampleReceiver
      createJitterBuffer_sampleReceiver (show (swappedBuffers.filter (ssrcOf · = 7)).map some = _ by
        decide +kernel) hadmits rfl hallocated
    change _ = (List.range ((sending_twoFragments.stream 65533).frameOf
      ([2, 1, 4, 3, 5].foldl (sending_twoFragments.stream 65533).arrive Held.first).head)).map
      _ at hframes
    rwa [hhead] at hframes
  · intro k i h
    have hk : k < 6 := (List.getElem?_eq_some_iff.mp h).1
    have hmem := List.mem_of_getElem? h
    have hi : i ≤ 5 := by
      simp only [List.cons_append, List.nil_append, List.mem_cons, List.not_mem_nil,
        or_false] at hmem
      omega
    omega

end KvsWebrtc
