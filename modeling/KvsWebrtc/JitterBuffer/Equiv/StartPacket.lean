import KvsWebrtc.Common.Run
import KvsWebrtc.JitterBuffer.Equiv.Touches
import KvsWebrtc.JitterBuffer.Equiv.Walk

/-!
# Reported frames contain their start packet

The parse reports a frame ready when its start flag is set and no packet is missing.  Delivering a
frame clears the flag, dropping one does not, so a frame without its start packet can be reported
after a frame that had one but lost another packet was dropped in the same parse
(`headlessReported`). Otherwise every reported range contains a start packet of its frame
(`frameReady_containsStart`).
-/

namespace KvsWebrtc

open JitterBuffer WindowFrame

/-! ### The condition -/

/-- The start flag left by a dropped frame reaches a frame without start packet that is followed by
another one and has no gap: the frames before it have gaps and are dropped. -/
def inheritsStart (cb : JbCallbacks) (earliest : Nat) : List WindowFrame → Bool
  | f :: g :: fs =>
    if f.hasGap then decide (f.timestamp < earliest) && inheritsStart cb earliest (g :: fs)
    else !f.hasStart cb
  | _ => false

/-- The parse comes to a frame that has a start packet and a gap and has expired, and the start flag
it leaves behind reaches a frame without start packet. -/
def headlessReported (cb : JbCallbacks) (earliest : Nat) : List WindowFrame → Bool
  | f :: g :: fs =>
    (f.timestamp < earliest && f.hasStart cb && f.hasGap && inheritsStart cb earliest (g :: fs)) ||
      ((f.complete cb || f.timestamp < earliest) && headlessReported cb earliest (g :: fs))
  | _ => false

/-- The range of a report holds a start packet, and all packets it holds belong to the same
frame. -/
def HasStart (cb : JbCallbacks) (jb : JitterBuffer) (startIndex endIndex : Nat) : Prop :=
  ∃ p, jb.pkgBufferHashTable p.seq = some p ∧ cb.startsFrame p = true ∧
    seqDist startIndex p.seq ≤ seqDist startIndex endIndex ∧
    ∀ q, jb.pkgBufferHashTable q.seq = some q →
      seqDist startIndex q.seq ≤ seqDist startIndex endIndex → q.ts = p.ts

/-- If the event reports a frame ready, its range holds a start packet. -/
def ReportHasStart (cb : JbCallbacks) (jb : JitterBuffer) : JbEvent → Prop
  | .frameReady startIndex endIndex _ => HasStart cb jb startIndex endIndex
  | _ => True

namespace JitterBuffer

variable {cb : JbCallbacks} {stale : Bool} {earliest : Nat} {jb jb₀ : JitterBuffer}
  {f : WindowFrame} {fs : List WindowFrame} {flow : ParseFlow}

/-! ### The trace -/

theorem removeEntry_trace (jb : JitterBuffer) (index : Nat) :
    ∃ freed, (jb.removeEntry index).trace = jb.trace ++ freed ∧ ∀ e ∈ freed, e.isFrame = false := by
  unfold removeEntry
  split
  · exact ⟨[], by simp, by simp⟩
  · rename_i p _
    exact ⟨[.packetFreed p.addr], rfl, by simp [JbEvent.isFrame]⟩

theorem dropLoop_trace (n index : Nat) (jb : JitterBuffer) :
    ∃ freed, (dropLoop n index jb).trace = jb.trace ++ freed ∧ ∀ e ∈ freed, e.isFrame = false := by
  induction n generalizing index jb with
  | zero => exact ⟨[], by simp [dropLoop], by simp⟩
  | succ n ih =>
    obtain ⟨freed, h, hfreed⟩ := removeEntry_trace jb index
    obtain ⟨freed', h', hfreed'⟩ := ih (uint16Inc index) (jb.removeEntry index)
    refine ⟨freed ++ freed', by rw [dropLoop, h', h, List.append_assoc], fun e he => ?_⟩
    rcases List.mem_append.mp he with he | he
    · exact hfreed e he
    · exact hfreed' e he

theorem moveHead_trace (jb : JitterBuffer) (k : Nat) (p : RtpPacket) (e : JbEvent) :
    ∃ freed, (jb.moveHead k p e).trace = jb.trace ++ e :: freed ∧
      ∀ e' ∈ freed, e'.isFrame = false := by
  obtain ⟨freed, h, hfreed⟩ := dropLoop_trace
    (dropCount jb.headSequenceNumber ((jb.headSequenceNumber + k + 65535) % 65536))
    jb.headSequenceNumber (jb.emit e)
  refine ⟨freed, ?_, hfreed⟩
  unfold moveHead
  rw [processed_trace, jitterBufferDropBufferData_trace, h]
  exact List.append_assoc _ _ _

theorem pushAccept_trace (jb : JitterBuffer) (p : RtpPacket) :
    ∃ freed, (jb.pushAccept p).2.trace = jb.trace ++ freed ∧ ∀ e ∈ freed, e.isFrame = false := by
  rcases pushAccept_cases jb p with ⟨jb₁, t, heq⟩ | ⟨jb₁, jb₂, t, t', heq⟩
  · exact ⟨[.packetFreed p.addr], by rw [heq, ← t.trace]; rfl, by simp [JbEvent.isFrame]⟩
  · obtain ⟨freed, h, hfreed⟩ := removeEntry_trace jb₁ p.seq
    refine ⟨freed, ?_, hfreed⟩
    rw [heq, t'.trace, ← t.trace, ← h, pushStore_trace]

theorem reportHasStart_of_not_frame {e : JbEvent} (h : e.isFrame = false) :
    ReportHasStart cb jb e := by
  cases e with
  | packetFreed addr => trivial
  | frameReady a b size => cases h
  | frameDropped a b ts => cases h

/-! ### One frame -/

/-- The places of the head frame come first in the window. -/
theorem Holds.slots_eq (h : Holds jb₀ jb (f :: fs)) :
    jb.slots = f.places ++ fs.flatMap places := by
  rw [← List.flatMap_cons, ← h.frames, JitterBuffer.frames, flatMap_framesFrom, List.nil_append]

/-- The packets of the head frame, by their distance from the head. -/
theorem Holds.slot_of_lt (h : Holds jb₀ jb (f :: fs)) {j : Nat} (hj : j < f.places.length) :
    j < jb.parseCount ∧ f.places[j]? = some (jb.slot j) := by
  have hlen : j < jb.parseCount := by
    rw [← length_slots, h.slots_eq, List.length_append]
    omega
  refine ⟨hlen, ?_⟩
  rw [← getElem?_slots jb hlen, h.slots_eq, List.getElem?_append_left hj]

theorem Holds.ts_eq (h : Holds jb₀ jb (f :: fs)) {p : RtpPacket} (hp : some p ∈ f.places) :
    p.ts = f.timestamp := by
  have hmem : f ∈ framesFrom jb.headTimestamp [] jb.slots := by
    show f ∈ jb.frames
    rw [h.frames]
    exact List.mem_cons_self
  apply ts_of_mem_framesFrom _ hmem hp
  intro q hq
  exact absurd hq List.not_mem_nil

theorem Holds.timestamp_eq (h : Holds jb₀ jb (f :: fs)) : f.timestamp = jb.headTimestamp := by
  obtain ⟨g, gs, hfs, hg⟩ := framesFrom_ne_nil jb.headTimestamp [] jb.slots
  have hframes : g :: gs = f :: fs := hfs.symm.trans h.frames
  rw [← (List.cons.inj hframes).1, hg]

theorem Holds.expired_iff (h : Holds jb₀ jb (f :: fs)) :
    jb.Expired false earliest ↔ f.timestamp < earliest := by
  unfold Expired
  rw [h.timestamp_eq]
  simp

/-- Reporting a head frame with a start packet reports a range with a start packet. -/
theorem Holds.reportHasStart {l : List RtpPacket} (h : Holds jb₀ jb (f :: fs)) (hl : Stores l jb₀)
    (hstart : f.hasStart cb = true) : ReportHasStart cb jb₀ (jb.readyEvent cb f) := by
  have h1 := h.head_lt
  have hlt := jb.parseCount_lt
  obtain ⟨o, ho, hany⟩ := List.any_eq_true.mp hstart
  obtain ⟨p, rfl, hp⟩ : ∃ p, o = some p ∧ cb.startsFrame p = true := by
    cases o with
    | none => cases hany
    | some p => exact ⟨p, rfl, hany⟩
  obtain ⟨i, hi, hget⟩ := List.getElem_of_mem ho
  -- a place of the frame, read in the buffer the parse started from
  have hplace : ∀ j < f.places.length, jb₀.pkgBufferHashTable
      ((jb.headSequenceNumber + j) % 65536) = jb.slot j ∧ f.places[j]? = some (jb.slot j) := by
    intro j hj
    obtain ⟨hj', hslot⟩ := h.slot_of_lt hj
    exact ⟨(h.kept j hj').symm, hslot⟩
  have hlen := (h.slot_of_lt hi).1
  obtain ⟨htable, hslot⟩ := hplace i hi
  rw [List.getElem?_eq_getElem hi, hget] at hslot
  rw [← Option.some.inj hslot] at htable
  have hseq : p.seq = (jb.headSequenceNumber + i) % 65536 := (hl.stored _ p htable).2
  have hcount : f.places.length ≤ jb.parseCount := by
    rw [← length_slots, h.slots_eq, List.length_append]
    omega
  refine ⟨p, by rw [hseq]; exact htable, hp, ?_, fun q hq hrange => ?_⟩
  · rw [hseq]
    unfold lastOf seqDist
    omega
  · have hq1 := q.seq_lt
    -- `q` is a place of the frame as well
    have hj : seqDist jb.headSequenceNumber q.seq < f.places.length := by
      unfold lastOf seqDist at hrange
      unfold seqDist
      omega
    obtain ⟨htable', hslot'⟩ := hplace _ hj
    have hback : (jb.headSequenceNumber + seqDist jb.headSequenceNumber q.seq) % 65536 = q.seq := by
      unfold seqDist
      omega
    rw [hback, hq] at htable'
    rw [← htable'] at hslot'
    rw [h.ts_eq (List.mem_of_getElem? hslot'), h.ts_eq ho]

/-! ### The parse -/

theorem inheritsStart_gap {g : WindowFrame} (hgap : f.hasGap = true)
    (hage : f.timestamp < earliest) (h : inheritsStart cb earliest (f :: g :: fs) = false) :
    inheritsStart cb earliest (g :: fs) = false := by
  rw [inheritsStart, if_pos hgap, decide_eq_true hage, Bool.true_and] at h
  exact h

theorem hasStart_of_deliverable {g : WindowFrame} (hd : Deliverable cb stale f)
    (h : stale = true → inheritsStart cb earliest (f :: g :: fs) = false) :
    f.hasStart cb = true := by
  obtain ⟨hstart, hgap⟩ := hd
  cases stale with
  | false => exact hstart
  | true =>
    have hnot := h rfl
    rw [inheritsStart, if_neg (by rw [hgap]; decide)] at hnot
    simpa using hnot

theorem headlessReported_pass {g : WindowFrame}
    (hpass : f.complete cb = true ∨ f.timestamp < earliest)
    (h : headlessReported cb earliest (f :: g :: fs) = false) :
    headlessReported cb earliest (g :: fs) = false := by
  rw [headlessReported, Bool.or_eq_false_iff] at h
  have hpass' : (f.complete cb || decide (f.timestamp < earliest)) = true := by
    simpa using hpass
  rw [hpass', Bool.true_and] at h
  exact h.2

/-- A frame that is dropped with its start flag set leaves it to no frame without start packet. -/
theorem inheritsStart_of_drop {g : WindowFrame} (hd : ¬ Deliverable cb stale f)
    (hage : f.timestamp < earliest) (h : headlessReported cb earliest (f :: g :: fs) = false)
    (hstale : stale = true → inheritsStart cb earliest (f :: g :: fs) = false)
    (hflag : (stale || f.hasStart cb) = true) : inheritsStart cb earliest (g :: fs) = false := by
  have hgap : f.hasGap = true := by
    cases hgap : f.hasGap with
    | true => rfl
    | false => exact absurd ⟨hflag, hgap⟩ hd
  cases hstart : f.hasStart cb with
  | true =>
    rw [headlessReported, Bool.or_eq_false_iff, hstart, hgap, decide_eq_true hage] at h
    exact h.1
  | false =>
    rw [hstart, Bool.or_false] at hflag
    exact inheritsStart_gap hgap hage (hstale hflag)

/-- **The reports of a parse loop** that leaves no start flag to a frame without start packet. -/
theorem Settles.reportHasStart {l : List RtpPacket} (hl : Stores l jb₀)
    (h : Settles cb false earliest jb₀ stale fs jb flow)
    (hgood : headlessReported cb earliest fs = false)
    (hstale : stale = true → inheritsStart cb earliest fs = false) :
    ∃ new, flow.jb.trace = jb.trace ++ new ∧ ∀ e ∈ new, ReportHasStart cb jb₀ e := by
  -- after the head frame `f` was reported by `e`, the reports of the rest of the loop follow
  have hcons : ∀ {jb : JitterBuffer} {k : Nat} {p : RtpPacket} {e : JbEvent} {flow : ParseFlow},
      ReportHasStart cb jb₀ e →
      (∃ new, flow.jb.trace = (jb.moveHead k p e).trace ++ new ∧
        ∀ e ∈ new, ReportHasStart cb jb₀ e) →
      ∃ new, flow.jb.trace = jb.trace ++ new ∧ ∀ e ∈ new, ReportHasStart cb jb₀ e := by
    intro jb k p e flow he hnew
    obtain ⟨new, htrace, hnew⟩ := hnew
    obtain ⟨freed, hfreed, hnot⟩ := moveHead_trace jb k p e
    refine ⟨e :: freed ++ new, by rw [htrace, hfreed, List.append_assoc], fun e' he' => ?_⟩
    rcases List.mem_append.mp he' with he' | he'
    · rcases List.mem_cons.mp he' with rfl | he'
      · exact he
      · exact reportHasStart_of_not_frame (hnot e' he')
    · exact hnew e' he'
  have hnone : ∀ jb : JitterBuffer, ∃ new, jb.trace = jb.trace ++ new ∧
      ∀ e ∈ new, ReportHasStart cb jb₀ e := fun jb => ⟨[], by simp, by simp⟩
  induction h with
  | last w => exact hnone _
  | wait hholds hgap hage => exact hnone _
  | stop hholds hd hage hjb =>
    subst hjb
    exact hnone _
  | depayFailed hholds hp hdepay => exact hnone _
  | readyFailed hholds hd hready =>
    refine ⟨[_], rfl, fun e he => ?_⟩
    obtain rfl := List.mem_singleton.mp he
    exact hholds.reportHasStart hl (hasStart_of_deliverable hd hstale)
  | deliver hholds hd hts _ ih =>
    have hstart := hasStart_of_deliverable hd hstale
    refine hcons (hholds.reportHasStart hl hstart) (ih ?_ (fun h => Bool.noConfusion h))
    exact headlessReported_pass (.inl (complete_of_hasStart hstart hd.2)) hgood
  | @drop _ f _ _ jb _ _ hholds hd hage hts _ ih =>
    have hage' := hholds.expired_iff.mp hage
    have hdropped : ReportHasStart cb jb₀ (jb.droppedEvent f) := trivial
    refine hcons hdropped (ih (headlessReported_pass (.inr hage') hgood) ?_)
    exact inheritsStart_of_drop hd hage' hgood hstale

theorem parse_settles (h1 : jb.headSequenceNumber < 65536) (h2 : jb.tailSequenceNumber < 65536)
    (hts : jb.tailTimestamp ≠ 0) :
    ∃ flow, Settles cb false jb.earliestAllowedTimestamp jb false jb.frames jb flow ∧
      (jitterBufferInternalParse cb jb false).2 = flow.jb := by
  have hsettles := @parseLoop_settles cb false false jb.earliestAllowedTimestamp jb jb.parseInit
    [] jb.slots (Walk.init h1 h2)
  rw [length_slots] at hsettles
  refine ⟨_, hsettles, ?_⟩
  unfold jitterBufferInternalParse
  rw [if_neg hts]
  generalize parseLoop cb false jb.earliestAllowedTimestamp jb.parseCount jb.parseInit = flow
  cases flow with
  | next s => rfl
  | stop s => rfl
  | cleanUp status jb' => rfl

theorem parse_reportHasStart {l : List RtpPacket} (hl : Stores l jb)
    (hgood : headlessReported cb jb.earliestAllowedTimestamp jb.frames = false) :
    ∃ new, (jitterBufferInternalParse cb jb false).2.trace = jb.trace ++ new ∧
      ∀ e ∈ new, ReportHasStart cb jb e := by
  by_cases hts : jb.tailTimestamp = 0
  · refine ⟨[], ?_, by simp⟩
    unfold jitterBufferInternalParse
    rw [if_pos hts, List.append_nil]
  · obtain ⟨flow, hsettles, hjb⟩ := @parse_settles cb jb hl.head_lt hl.tail_lt hts
    rw [hjb]
    exact hsettles.reportHasStart hl hgood (fun h => Bool.noConfusion h)

theorem Stores.moveHead {l : List RtpPacket} {k : Nat} {p : RtpPacket} {e : JbEvent}
    (h : Stores l jb) (hk : k < jb.parseCount) : Stores l (jb.moveHead k p e) := by
  obtain ⟨hhead, htail, -⟩ := moveHead_fields jb k p e hk h.head_lt
  refine
    { head_lt := by rw [hhead]; exact Nat.mod_lt _ (by decide)
      tail_lt := by rw [htail]; exact h.tail_lt
      stored := fun x q hq => h.stored x q ?_ }
  rw [← moveHead_table_of_ne_none jb k p e (by rw [hq]; exact Option.some_ne_none q), hq]

theorem Stores.parse {l : List RtpPacket} (h : Stores l jb) :
    Stores l (jitterBufferInternalParse cb jb false).2 := by
  apply parse_induction (I := Stores l) _ _ h.head_lt h.tail_lt h
  · intro jb e h _
    exact h.emit e
  · intro jb k p e h _ hk _ _ _
    exact h.moveHead hk

/-- A run of pushes adds its packets to those that may be stored. -/
theorem Stores.pushAll {l₀ : List RtpPacket} (h : Stores l₀ jb) (l : List RtpPacket) :
    Stores (l₀ ++ l) (pushAll cb jb l) := by
  induction l generalizing jb l₀ with
  | nil => rwa [List.append_nil]
  | cons p l ih =>
    have hnext := ih (@Stores.parse cb _ _ (h.pushAccept p))
    rwa [List.append_assoc, ← jitterBufferPush_jb, ← pushAll_cons] at hnext

end JitterBuffer

def lastEvents (cb : JbCallbacks) (jb : JitterBuffer) (l : List RtpPacket) (p : RtpPacket) :
    List JbEvent :=
  (pushAll cb jb (l ++ [p])).trace.drop (pushAll cb jb l).trace.length

/-- The parse of the push leaves no start flag to a frame without start packet. -/
def NoHeadlessReport (cb : JbCallbacks) (jb : JitterBuffer) (p : RtpPacket) : Prop :=
  headlessReported cb (jb.pushAccept p).2.earliestAllowedTimestamp (jb.pushAccept p).2.frames =
  false

instance (cb : JbCallbacks) (jb : JitterBuffer) (p : RtpPacket) :
    Decidable (NoHeadlessReport cb jb p) := inferInstanceAs (Decidable (_ = _))

/-- **Reported frames contain their start packet**: if no push of a run leaves a start flag to a
frame without start packet, then every range reported ready by a push holds, in the buffer the parse
starts from, a start packet that was pushed, and only packets with its timestamp. -/
theorem frameReady_containsStart (cb : JbCallbacks) {maxLatency clockRate : UInt32}
    {jb : JitterBuffer} (hcreate : createJitterBuffer maxLatency clockRate = .ok jb)
    (l : List RtpPacket)
    (hok : AllSteps (fun jb p => (jitterBufferPush cb jb p).jb) (NoHeadlessReport cb) jb l) :
    ∀ l₁ p l₂, l = l₁ ++ p :: l₂ →
      ∀ startIndex endIndex size,
        .frameReady startIndex endIndex size ∈ lastEvents cb jb l₁ p →
        ∃ q ∈ l₁ ++ [p], cb.startsFrame q = true ∧
          seqDist startIndex q.seq ≤ seqDist startIndex endIndex ∧
          ((pushAll cb jb l₁).pushAccept p).2.pkgBufferHashTable q.seq = some q ∧
          ∀ q', ((pushAll cb jb l₁).pushAccept p).2.pkgBufferHashTable q'.seq = some q' →
            seqDist startIndex q'.seq ≤ seqDist startIndex endIndex → q'.ts = q.ts := by
  intro l₁ p l₂ hl startIndex endIndex size hmem
  obtain ⟨L, c, rfl, -, -⟩ := createJitterBuffer_ok hcreate
  rw [hl, allSteps_append, allSteps_cons] at hok
  have hgood : NoHeadlessReport cb (pushAll cb (.empty L c) l₁) p := hok.2.1
  have hstores := (@Stores.pushAll cb _ [] (stores_empty L c) l₁).pushAccept p
  obtain ⟨freed, hfreed, hnot⟩ := pushAccept_trace (pushAll cb (.empty L c) l₁) p
  obtain ⟨new, hnew, hreport⟩ := @parse_reportHasStart cb _ _ hstores hgood
  have htrace : (pushAll cb (.empty L c) (l₁ ++ [p])).trace =
      (pushAll cb (.empty L c) l₁).trace ++ (freed ++ new) := by
    rw [pushAll_concat, hnew, hfreed, List.append_assoc]
  unfold lastEvents at hmem
  rw [htrace, List.drop_left] at hmem
  rcases List.mem_append.mp hmem with hmem | hmem
  · exact absurd (hnot _ hmem) (by simp [JbEvent.isFrame])
  · obtain ⟨q, hq, hstart, hrange, hsame⟩ := hreport _ hmem
    exact ⟨q, (hstores.stored _ q hq).1, hstart, hrange, hq, hsame⟩

/-- Packet 2 is lost and frame 200 expires with its start packet in the buffer; frame 300 has its
start packet and frame 5000 ends it. -/
def lossyArrivals : List RtpPacket :=
  [markedPacket 1 1 200 true, markedPacket 2 3 200 false, markedPacket 3 4 300 true,
    markedPacket 4 5 5000 true]

theorem frameReady_containsStart_lossyArrivals :
    ∃ jb, createJitterBuffer 100000 90000 = .ok jb ∧
      AllSteps (fun jb p => (jitterBufferPush markCallbacks jb p).jb)
        (NoHeadlessReport markCallbacks) jb lossyArrivals ∧
      ∃ q ∈ lossyArrivals, markCallbacks.startsFrame q = true ∧
        seqDist 4 q.seq ≤ seqDist 4 4 := by
  have hcreate : createJitterBuffer 100000 90000 = .ok (.empty 900 90000) := rfl
  have hok : AllSteps (fun jb p => (jitterBufferPush markCallbacks jb p).jb)
      (NoHeadlessReport markCallbacks) (.empty 900 90000) lossyArrivals := by
    decide +kernel
  obtain ⟨q, hq, hstart, hrange, -⟩ := frameReady_containsStart markCallbacks hcreate lossyArrivals
    hok (lossyArrivals.take 3) (markedPacket 4 5 5000 true) [] rfl 4 4 1 (by decide +kernel)
  exact ⟨_, hcreate, hok, q, hq, hstart, hrange⟩

/-- Frame 200 has its start packet and loses packet 2, frame 300 loses its start packet 4.  Packet 6
makes both expire: frame 200 is dropped and leaves its flag, with which packet 5 alone is
reported. -/
theorem headless_frame_reported :
    ¬ ∀ (cb : JbCallbacks) (maxLatency clockRate : UInt32) (jb : JitterBuffer)
        (l : List RtpPacket) (p : RtpPacket) (startIndex endIndex : Nat) (size : UInt32),
      createJitterBuffer maxLatency clockRate = .ok jb →
      .frameReady startIndex endIndex size ∈ lastEvents cb jb l p →
      ∃ q ∈ l ++ [p], cb.startsFrame q = true ∧
        seqDist startIndex q.seq ≤ seqDist startIndex endIndex := by
  intro h
  have hstart := h markCallbacks 100000 90000 (.empty 900 90000)
    [markedPacket 1 1 200 true, markedPacket 2 3 200 false, markedPacket 3 5 300 false]
    (markedPacket 4 6 5000 true) 5 5 1 rfl (by decide +kernel)
  revert hstart
  decide +kernel

end KvsWebrtc
