import KvsWebrtc.JitterBuffer.Equiv.StartPacket

/-!
# The latency bound

The parse gives up an incomplete frame when its timestamp is numerically below the tail timestamp
minus the maximum latency.  When the timestamps wrapped between the frame and the tail, the
comparison fails and the frame stays.  `agesSeen` says that this does not happen; then after every
push the head frame is the only one or at most the maximum latency old, and every incomplete frame
older than that was reported dropped (`latency_bound_run`).
-/

namespace KvsWebrtc

open JitterBuffer WindowFrame

/-- How far the frame lies behind the tail timestamp `tailTs`, modulo `2^32`. -/
def frameAge (tailTs : Nat) (f : WindowFrame) : Nat :=
  (tailTs + 4294967296 - f.timestamp) % 4294967296

/-- The age test sees every incomplete frame that is too old: behind the first incomplete frame that
it lets stay, and in front of the last frame, no incomplete frame is older than `L`. -/
def agesSeen (cb : JbCallbacks) (tailTs L earliest : Nat) : List WindowFrame → Bool
  | [] => true
  | f :: fs =>
    if f.complete cb || f.timestamp < earliest then agesSeen cb tailTs L earliest fs
    else (f :: fs).dropLast.all fun g => g.complete cb || frameAge tailTs g ≤ L

/-- The callbacks do not fail on the packets of `l`. -/
structure Succeeds (cb : JbCallbacks) (l : List RtpPacket) : Prop where
  ready : ∀ trace startIndex endIndex size,
    cb.onFrameReadyFn trace startIndex endIndex size = .success
  depay : ∀ p ∈ l, ∃ r, cb.depay p = .ok r

/-- The head frame is the only one of the window, or it is at most the maximum latency old. -/
def LatencyBound (jb : JitterBuffer) : Prop :=
  jb.frames.length = 1 ∨
    (jb.tailTimestamp + 4294967296 - jb.headTimestamp) % 4294967296 ≤ jb.maxLatency

/-- The report that frame `f` of the window is dropped, where the frames `before` come before it. -/
def dropReport (jb : JitterBuffer) (before : List WindowFrame) (f : WindowFrame) : JbEvent :=
  .frameDropped ((jb.headSequenceNumber + (before.flatMap places).length) % 65536)
    ((jb.headSequenceNumber + (before.flatMap places).length + f.places.length + 65535) % 65536)
    f.timestamp

/-- Every incomplete frame of `fs` that is older than `L` and followed by another one is reported
dropped in `new`. -/
def OverdueDropped (cb : JbCallbacks) (L : Nat) (jb : JitterBuffer) (fs : List WindowFrame)
    (new : List JbEvent) : Prop :=
  ∀ before f after, fs = before ++ f :: after → after ≠ [] → f.complete cb = false →
    L < frameAge jb.tailTimestamp f → dropReport jb before f ∈ new

namespace JitterBuffer

variable {cb : JbCallbacks} {stale : Bool} {earliest tailTs L : Nat} {jb jb₀ : JitterBuffer}
  {f : WindowFrame} {fs : List WindowFrame} {flow : ParseFlow} {l : List RtpPacket}

/-! ### The condition -/

theorem agesSeen_pass (h : agesSeen cb tailTs L earliest (f :: fs) = true)
    (hpass : f.complete cb = true ∨ f.timestamp < earliest) :
    agesSeen cb tailTs L earliest fs = true := by
  rw [agesSeen, if_pos (by simpa using hpass)] at h
  exact h

theorem agesSeen_stop (h : agesSeen cb tailTs L earliest (f :: fs) = true)
    (hc : f.complete cb = false) (hage : ¬ f.timestamp < earliest) :
    ∀ g ∈ (f :: fs).dropLast, g.complete cb = false → frameAge tailTs g ≤ L := by
  rw [agesSeen, if_neg (by simp [hc, hage])] at h
  intro g hg hincomplete
  have hg' := List.all_eq_true.mp h g hg
  rw [hincomplete, Bool.false_or] at hg'
  exact of_decide_eq_true hg'

theorem mem_dropLast_of_append {α : Type*} {l before after : List α} {a : α}
    (h : l = before ++ a :: after) (hafter : after ≠ []) : a ∈ l.dropLast := by
  rw [h, List.dropLast_append_of_ne_nil (List.cons_ne_nil a after),
    List.dropLast_cons_of_ne_nil hafter]
  simp

theorem incomplete_of_not_deliverable (hd : ¬ Deliverable cb stale f) : f.complete cb = false := by
  cases hc : f.complete cb with
  | false => rfl
  | true =>
    unfold complete at hc
    rw [Bool.and_eq_true] at hc
    refine absurd ⟨?_, by simpa using hc.2⟩ hd
    rw [hc.1, Bool.or_true]

theorem moveHead_maxLatency (jb : JitterBuffer) (k : Nat) (p : RtpPacket) (e : JbEvent) :
    (jb.moveHead k p e).maxLatency = jb.maxLatency := by
  unfold moveHead
  rw [jitterBufferDropBufferData_eq]
  rfl

/-! ### The end of the parse -/

/-- A parse that stops at an incomplete frame which the age test lets stay. -/
theorem latencyBound_stop (h : Holds jb₀ jb (f :: fs))
    (hseen : agesSeen cb jb.tailTimestamp jb.maxLatency earliest (f :: fs) = true)
    (hc : f.complete cb = false) (hage : ¬ jb.Expired false earliest) (new : List JbEvent) :
    LatencyBound jb ∧ OverdueDropped cb jb.maxLatency jb (f :: fs) new := by
  have hyoung := agesSeen_stop hseen hc fun hlt => hage (h.expired_iff.mpr hlt)
  constructor
  · cases fs with
    | nil =>
      left
      rw [h.frames]
      rfl
    | cons g fs =>
      right
      rw [← h.timestamp_eq]
      exact hyoung f (by simp) hc
  · intro before g after heq hafter hincomplete hold
    have := hyoung g (mem_dropLast_of_append heq hafter) hincomplete
    omega

/-- Frames behind the head frame are counted from the new head after it moved. -/
theorem dropReport_moveHead (h : Holds jb₀ jb (f :: fs)) (hlen : f.places.length < jb.parseCount)
    (p : RtpPacket) (e : JbEvent) (before : List WindowFrame) (g : WindowFrame) :
    dropReport (jb.moveHead f.places.length p e) before g = dropReport jb (f :: before) g := by
  obtain ⟨hhead, -⟩ := moveHead_fields jb f.places.length p e hlen h.head_lt
  have hfirst : ∀ m, ((jb.headSequenceNumber + f.places.length) % 65536 + m) % 65536 =
      (jb.headSequenceNumber + (f.places.length + m)) % 65536 := by
    intro m
    omega
  have hlast : ∀ m n, ((jb.headSequenceNumber + f.places.length) % 65536 + m + n + 65535) % 65536 =
      (jb.headSequenceNumber + (f.places.length + m) + n + 65535) % 65536 := by
    intro m n
    omega
  unfold dropReport
  rw [hhead, List.flatMap_cons, List.length_append, hfirst, hlast]

/-- The reports of the parse after the head frame `f` was reported by `e`. -/
theorem overdueDropped_cons {g : WindowFrame} {p : RtpPacket} {e : JbEvent}
    {freed new : List JbEvent} (h : Holds jb₀ jb (f :: g :: fs))
    (hlen : f.places.length < jb.parseCount) (hf : f.complete cb = true ∨ e = jb.droppedEvent f)
    (hnew : OverdueDropped cb L (jb.moveHead f.places.length p e) (g :: fs) new) :
    OverdueDropped cb L jb (f :: g :: fs) (e :: freed ++ new) := by
  obtain ⟨-, -, -, htail, -⟩ := moveHead_fields jb f.places.length p e hlen h.head_lt
  intro before g' after heq hafter hincomplete hold
  cases before with
  | nil =>
    obtain ⟨rfl, -⟩ := List.cons.inj heq
    rcases hf with hf | rfl
    · rw [hf] at hincomplete
      cases hincomplete
    · have hreport : dropReport jb [] f = jb.droppedEvent f := by
        unfold dropReport droppedEvent lastOf
        rw [h.timestamp_eq, List.flatMap_nil, List.length_nil, Nat.add_zero,
          Nat.mod_eq_of_lt h.head_lt]
      rw [hreport]
      exact List.mem_cons_self
  | cons f' before =>
    obtain ⟨rfl, htl⟩ := List.cons.inj heq
    rw [← dropReport_moveHead h hlen p e]
    exact List.mem_append_right _ (hnew before g' after htl hafter hincomplete (by rwa [htail]))

theorem Holds.stored_of_mem (h : Holds jb₀ jb fs) (hl : Stores l jb₀) {p : RtpPacket}
    (hp : some p ∈ jb.slots) : p ∈ l := by
  obtain ⟨j, hj, hget⟩ := List.getElem_of_mem hp
  rw [length_slots] at hj
  have hslot := getElem?_slots jb hj
  rw [List.getElem?_eq_getElem (by rwa [length_slots]), hget, h.kept j hj] at hslot
  exact (hl.stored _ p (Option.some.inj hslot).symm).1

/-- **The latency bound after a parse loop** whose age test sees every frame. -/
theorem Settles.latency (hl : Stores l jb₀) (hcb : Succeeds cb l)
    (h : Settles cb false earliest jb₀ stale fs jb flow)
    (hgood : headlessReported cb earliest fs = false)
    (hstale : stale = true → inheritsStart cb earliest fs = false)
    (hseen : agesSeen cb jb.tailTimestamp jb.maxLatency earliest fs = true) :
    LatencyBound flow.jb ∧ ∃ new, flow.jb.trace = jb.trace ++ new ∧
      OverdueDropped cb jb.maxLatency jb fs new := by
  -- one frame is reported by `e` and leaves the window
  have hstep : ∀ {jb : JitterBuffer} {f g : WindowFrame} {fs : List WindowFrame} {p : RtpPacket}
      {e : JbEvent} {flow : ParseFlow}, Holds jb₀ jb (f :: g :: fs) →
      f.places.length < jb.parseCount → (f.complete cb = true ∨ e = jb.droppedEvent f) →
      (LatencyBound flow.jb ∧ ∃ new,
        flow.jb.trace = (jb.moveHead f.places.length p e).trace ++ new ∧
        OverdueDropped cb (jb.moveHead f.places.length p e).maxLatency
          (jb.moveHead f.places.length p e) (g :: fs) new) →
      LatencyBound flow.jb ∧ ∃ new, flow.jb.trace = jb.trace ++ new ∧
        OverdueDropped cb jb.maxLatency jb (f :: g :: fs) new := by
    intro jb f g fs p e flow hholds hlen hf hrest
    obtain ⟨hbound, new, htrace, hnew⟩ := hrest
    obtain ⟨freed, hfreed, -⟩ := moveHead_trace jb f.places.length p e
    rw [moveHead_maxLatency] at hnew
    refine ⟨hbound, e :: freed ++ new, ?_, overdueDropped_cons hholds hlen hf hnew⟩
    rw [htrace, hfreed, List.append_assoc]
  have hfields : ∀ {jb : JitterBuffer} {f g : WindowFrame} {fs : List WindowFrame},
      Holds jb₀ jb (f :: g :: fs) → f.places.length < jb.parseCount → ∀ p e,
      agesSeen cb jb.tailTimestamp jb.maxLatency earliest (g :: fs) = true →
      agesSeen cb (jb.moveHead f.places.length p e).tailTimestamp
        (jb.moveHead f.places.length p e).maxLatency earliest (g :: fs) = true := by
    intro jb f g fs hholds hlen p e hseen
    obtain ⟨-, -, -, htail, -⟩ := moveHead_fields jb f.places.length p e hlen hholds.head_lt
    rwa [htail, moveHead_maxLatency]
  induction h with
  | @last stale cur s w =>
    have hholds := w.holds
    refine ⟨.inl ?_, [], (List.append_nil _).symm, ?_⟩
    · rw [ParseFlow.jb, hholds.frames]
      rfl
    · intro before f after heq hafter
      exact absurd (mem_dropLast_of_append heq hafter) List.not_mem_nil
  | wait hholds hgap hage =>
    obtain ⟨hbound, hdropped⟩ :=
      latencyBound_stop hholds hseen (incomplete_of_hasGap hgap) hage []
    exact ⟨hbound, [], (List.append_nil _).symm, hdropped⟩
  | stop hholds hd hage hjb =>
    subst hjb
    obtain ⟨hbound, hdropped⟩ :=
      latencyBound_stop hholds hseen (incomplete_of_not_deliverable hd) hage []
    exact ⟨hbound, [], (List.append_nil _).symm, hdropped⟩
  | depayFailed hholds hp hdepay =>
    obtain ⟨r, hr⟩ := hcb.depay _ (hholds.stored_of_mem hl hp)
    rw [hr] at hdepay
    cases hdepay
  | readyFailed hholds hd hready => exact absurd (hcb.ready _ _ _ _) hready
  | deliver hholds hd hlen _ ih =>
    have hc := complete_of_hasStart (hasStart_of_deliverable hd hstale) hd.2
    refine hstep hholds hlen (.inl hc) (ih ?_ (fun h => Bool.noConfusion h) ?_)
    · exact headlessReported_pass (.inl hc) hgood
    · exact hfields hholds hlen _ _ (agesSeen_pass hseen (.inl hc))
  | drop hholds hd hage hlen _ ih =>
    have hage' := hholds.expired_iff.mp hage
    refine hstep hholds hlen (.inr rfl) (ih ?_ ?_ ?_)
    · exact headlessReported_pass (.inr hage') hgood
    · exact inheritsStart_of_drop hd hage' hgood hstale
    · exact hfields hholds hlen _ _ (agesSeen_pass hseen (.inr hage'))

end JitterBuffer

/-! ### Runs -/

/-- The parse sees the age of every frame of the buffer: with tail timestamp 0, which ends the parse
at once, no frame but the last may be too old. -/
def AgeTestOk (cb : JbCallbacks) (jb : JitterBuffer) : Prop :=
  if jb.tailTimestamp = 0 then
    ∀ f ∈ jb.frames.dropLast, frameAge jb.tailTimestamp f ≤ jb.maxLatency
  else
    headlessReported cb jb.earliestAllowedTimestamp jb.frames = false ∧
      agesSeen cb jb.tailTimestamp jb.maxLatency jb.earliestAllowedTimestamp jb.frames = true

instance (cb : JbCallbacks) (jb : JitterBuffer) : Decidable (AgeTestOk cb jb) :=
  inferInstanceAs (Decidable (if jb.tailTimestamp = 0 then
    ∀ f ∈ jb.frames.dropLast, frameAge jb.tailTimestamp f ≤ jb.maxLatency
  else
    headlessReported cb jb.earliestAllowedTimestamp jb.frames = false ∧
      agesSeen cb jb.tailTimestamp jb.maxLatency jb.earliestAllowedTimestamp jb.frames = true))

theorem parse_latency {cb : JbCallbacks} {jb : JitterBuffer} {l : List RtpPacket}
    (hl : Stores l jb) (hcb : Succeeds cb l) (hok : AgeTestOk cb jb) :
    LatencyBound (jitterBufferInternalParse cb jb false).2 ∧
      ∃ new, (jitterBufferInternalParse cb jb false).2.trace = jb.trace ++ new ∧
        OverdueDropped cb jb.maxLatency jb jb.frames new := by
  unfold AgeTestOk at hok
  split_ifs at hok with hts
  · have hparse : (jitterBufferInternalParse cb jb false).2 = jb := by
      unfold jitterBufferInternalParse
      rw [if_pos hts]
    rw [hparse]
    obtain ⟨f, fs, hfs, hf⟩ := framesFrom_ne_nil jb.headTimestamp [] jb.slots
    have hframes : jb.frames = f :: fs := hfs
    refine ⟨?_, [], (List.append_nil _).symm, ?_⟩
    · unfold LatencyBound
      cases fs with
      | nil =>
        left
        rw [hframes]
        rfl
      | cons g fs =>
        right
        rw [← hf]
        apply hok
        rw [hframes]
        simp
    · intro before f after heq hafter _ hold
      have := hok f (mem_dropLast_of_append heq hafter)
      omega
  · obtain ⟨flow, hsettles, hjb⟩ := @parse_settles cb jb hl.head_lt hl.tail_lt hts
    rw [hjb]
    exact hsettles.latency hl hcb hok.1 (fun h => Bool.noConfusion h) hok.2

/-- **The latency bound along runs**: if the callbacks succeed and every push of a run leaves a
buffer in which the parse sees the age of every frame, then after each push the head frame is the
only one or at most the maximum latency old, and the push has reported dropped every incomplete
frame that was older than that and followed by another one. -/
theorem latency_bound_run (cb : JbCallbacks) {maxLatency clockRate : UInt32} {jb : JitterBuffer}
    (hcreate : createJitterBuffer maxLatency clockRate = .ok jb) (l : List RtpPacket)
    (hcb : Succeeds cb l)
    (hok : AllSteps (fun jb p => (jitterBufferPush cb jb p).jb)
      (fun jb p => AgeTestOk cb (jb.pushAccept p).2) jb l) :
    ∀ l₁ p l₂, l = l₁ ++ p :: l₂ →
      LatencyBound (pushAll cb jb (l₁ ++ [p])) ∧
        OverdueDropped cb ((pushAll cb jb l₁).pushAccept p).2.maxLatency
          ((pushAll cb jb l₁).pushAccept p).2 ((pushAll cb jb l₁).pushAccept p).2.frames
          (lastEvents cb jb l₁ p) := by
  intro l₁ p l₂ hl
  obtain ⟨L, c, rfl, -, -⟩ := createJitterBuffer_ok hcreate
  rw [hl, allSteps_append, allSteps_cons] at hok
  have hstep : AgeTestOk cb ((pushAll cb (.empty L c) l₁).pushAccept p).2 := hok.2.1
  have hstores := (@Stores.pushAll cb _ [] (stores_empty L c) l₁).pushAccept p
  have hcb' : Succeeds cb ([] ++ l₁ ++ [p]) :=
    { hcb with
      depay := fun q hq => hcb.depay q (by
        rw [hl]
        simp at hq ⊢
        tauto) }
  obtain ⟨freed, hfreed, -⟩ := pushAccept_trace (pushAll cb (.empty L c) l₁) p
  obtain ⟨hbound, new, hnew, hdropped⟩ := parse_latency hstores hcb' hstep
  refine ⟨by rw [pushAll_concat]; exact hbound, ?_⟩
  intro before f after heq hafter hincomplete hold
  unfold lastEvents
  rw [pushAll_concat, hnew, hfreed, List.append_assoc, List.drop_left]
  exact List.mem_append_right _ (hdropped before f after heq hafter hincomplete hold)

theorem succeeds_markCallbacks (l : List RtpPacket) : Succeeds markCallbacks l :=
  ⟨fun _ _ _ _ => rfl, fun _ _ => ⟨_, rfl⟩⟩

theorem latency_bound_run_lossyArrivals :
    ∃ jb, createJitterBuffer 100000 90000 = .ok jb ∧ Succeeds markCallbacks lossyArrivals ∧
      AllSteps (fun jb p => (jitterBufferPush markCallbacks jb p).jb)
        (fun jb p => AgeTestOk markCallbacks (jb.pushAccept p).2) jb lossyArrivals ∧
      LatencyBound (pushAll markCallbacks jb lossyArrivals) := by
  have hcreate : createJitterBuffer 100000 90000 = .ok (.empty 900 90000) := rfl
  have hcb := succeeds_markCallbacks lossyArrivals
  have hok : AllSteps (fun jb p => (jitterBufferPush markCallbacks jb p).jb)
      (fun jb p => AgeTestOk markCallbacks (jb.pushAccept p).2) (.empty 900 90000)
      lossyArrivals := by
    decide +kernel
  have hrun := latency_bound_run markCallbacks hcreate lossyArrivals hcb hok
    (lossyArrivals.take 3) (markedPacket 4 5 5000 true) [] rfl
  exact ⟨_, hcreate, hcb, hok, hrun.1⟩

/-- Packet 1 is lost and the timestamps wrap behind it: frame `2^32 - 500` is 1100 ticks old at a
maximum latency of 900, but its timestamp is not below that of the tail. -/
theorem wrapped_frame_stays :
    ¬ ∀ (cb : JbCallbacks) (maxLatency clockRate : UInt32) (jb : JitterBuffer)
        (l : List RtpPacket), createJitterBuffer maxLatency clockRate = .ok jb →
      Succeeds cb l →
      l.Pairwise (fun p q => p.seq < q.seq ∧ (q.ts + 4294967296 - p.ts) % 4294967296 < 2147483648) →
      LatencyBound (pushAll cb jb l) := by
  intro h
  have hbound := h markCallbacks 100000 90000 (.empty 900 90000)
    [markedPacket 0 0 4294966796 true, markedPacket 1 2 600 true] rfl (succeeds_markCallbacks _)
    (by decide)
  unfold LatencyBound at hbound
  revert hbound
  decide +kernel

end KvsWebrtc
