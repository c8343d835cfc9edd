import KvsWebrtc.JitterBuffer.Equiv.ParseMoves

/-!
# The parse loop, frame by frame

`Walk` is the loop invariant of `jitterBufferInternalParse`: which places of the current frame were
read, and that the flags and the size say so.  The flag that the frame has its start packet may also
be set without one (`stale`): dropping a frame does not clear it.

`Settles` is the loop seen frame by frame, and `parseLoop_settles` says that it is what the loop
does. Results about the parse are proved by induction on it.
-/

namespace KvsWebrtc.JitterBuffer

open WindowFrame

variable {cb : JbCallbacks} {bufferClosed stale : Bool} {earliest k : Nat} {jb jb₀ : JitterBuffer}
  {s : ParseState} {p : RtpPacket} {e : JbEvent} {cur rest : List (Option RtpPacket)}

theorem slots_moveHead (h1 : jb.headSequenceNumber < 65536) (hk : k < jb.parseCount) :
    (jb.moveHead k p e).slots = jb.slots.drop k := by
  obtain ⟨-, -, -, -, hcount⟩ := moveHead_fields jb k p e hk h1
  apply List.ext_getElem?
  intro j
  rw [List.getElem?_drop]
  by_cases hj : j < jb.parseCount - k
  · rw [getElem?_slots _ (by omega), getElem?_slots _ (by omega), slot_moveHead h1 hk hj]
  · rw [List.getElem?_eq_none (by rw [length_slots]; omega),
      List.getElem?_eq_none (by rw [length_slots]; omega)]

/-- The window of `jb` holds the frames `fs`, and its places are as they were in `jb₀`. -/
structure Holds (jb₀ jb : JitterBuffer) (fs : List WindowFrame) : Prop where
  head_lt : jb.headSequenceNumber < 65536
  tail_lt : jb.tailSequenceNumber < 65536
  frames : jb.frames = fs
  kept : ∀ j < jb.parseCount,
    jb.slot j = jb₀.pkgBufferHashTable ((jb.headSequenceNumber + j) % 65536)

/-- The loop has read the places `cur` of the head frame and has `rest` left. -/
structure Walk (cb : JbCallbacks) (jb₀ : JitterBuffer) (stale : Bool)
    (cur rest : List (Option RtpPacket)) (s : ParseState) : Prop where
  pos : ParsePos rest.length cur.length s
  slots : s.jb.slots = cur ++ rest
  kept : ∀ j < s.jb.parseCount,
    s.jb.slot j = jb₀.pkgBufferHashTable ((s.jb.headSequenceNumber + j) % 65536)
  timestamp : ∀ p, some p ∈ cur → p.ts = s.jb.headTimestamp
  continuous : s.isFrameDataContinuous = !(WindowFrame.mk s.jb.headTimestamp cur).hasGap
  start : s.containStartForEarliestFrame =
    (stale || (WindowFrame.mk s.jb.headTimestamp cur).hasStart cb)
  size : s.curFrameSize = (WindowFrame.mk s.jb.headTimestamp cur).size cb
  /-- The last stored place of the head frame that was read. -/
  last : (∃ p, some p ∈ cur) → ∃ m < cur.length,
    s.lastNonNullIndex = (s.jb.headSequenceNumber + m) % 65536 ∧
      ∀ j < cur.length, m < j → s.jb.slot j = none

theorem Walk.holds (w : Walk cb jb₀ stale cur rest s) :
    Holds jb₀ s.jb (framesFrom s.jb.headTimestamp cur rest) :=
  { head_lt := w.pos.head_lt
    tail_lt := w.pos.tail_lt
    frames := by
      unfold JitterBuffer.frames
      rw [w.slots, framesFrom_append w.timestamp, List.nil_append]
    kept := w.kept }

theorem Walk.init (h1 : jb.headSequenceNumber < 65536) (h2 : jb.tailSequenceNumber < 65536) :
    Walk cb jb false [] jb.slots jb.parseInit :=
  { pos := by
      rw [length_slots]
      exact parsePos_init h1 h2
    slots := (List.nil_append jb.slots).symm
    kept := fun j _ => rfl
    timestamp := fun p hp => absurd hp List.not_mem_nil
    continuous := rfl
    start := rfl
    size := rfl
    last := fun ⟨p, hp⟩ => absurd hp List.not_mem_nil }

theorem Walk.slot_next {o : Option RtpPacket} (w : Walk cb jb₀ stale cur (o :: rest) s) :
    s.jb.slot cur.length = o ∧ s.jb.pkgBufferHashTable s.index = o := by
  have hcount := w.pos.count
  have hget := getElem?_slots s.jb (k := cur.length) (by
    rw [List.length_cons] at hcount
    omega)
  rw [w.slots, List.getElem?_append_right (Nat.le_refl _), Nat.sub_self] at hget
  have hslot : s.jb.slot cur.length = o := (Option.some.inj hget).symm
  refine ⟨hslot, ?_⟩
  rw [w.pos.index, ← slot_eq, hslot]

/-! ### The steps of the loop -/

theorem hasGap_append (ts : Nat) (o : Option RtpPacket) :
    (WindowFrame.mk ts (cur ++ [o])).hasGap = ((WindowFrame.mk ts cur).hasGap || o.isNone) := by
  simp [hasGap]

theorem hasStart_append (ts : Nat) (o : Option RtpPacket) :
    (WindowFrame.mk ts (cur ++ [o])).hasStart cb =
      ((WindowFrame.mk ts cur).hasStart cb || o.any cb.startsFrame) := by
  simp [hasStart]

theorem size_append (ts : Nat) (o : Option RtpPacket) :
    (WindowFrame.mk ts (cur ++ [o])).size cb =
      (WindowFrame.mk ts cur).size cb + cb.placeSize o := by
  simp [WindowFrame.size]

theorem Walk.gap (w : Walk cb jb₀ stale cur (none :: rest) s) :
    Walk cb jb₀ stale (cur ++ [none]) rest
      { s with isFrameDataContinuous := false, index := uint16Inc s.index } := by
  have hindex := w.pos.index
  have hcount := w.pos.count
  refine
    { pos :=
        { head_lt := w.pos.head_lt
          tail_lt := w.pos.tail_lt
          startDropIndex := w.pos.startDropIndex
          index := ?_
          count := ?_ }
      slots := by rw [List.append_assoc]; exact w.slots
      kept := w.kept
      timestamp := fun p hp => w.timestamp p (by simpa using hp)
      continuous := by rw [hasGap_append]; simp
      start := by rw [hasStart_append]; simpa using w.start
      size := by rw [size_append]; simpa [JbCallbacks.placeSize] using w.size
      last := ?_ }
  · simp only [List.length_append, List.length_singleton]
    rw [hindex]
    unfold uint16Inc
    omega
  · rw [List.length_cons] at hcount
    rw [List.length_append, List.length_singleton]
    dsimp only
    omega
  · rintro ⟨p, hp⟩
    obtain ⟨m, hm, hlast, hnone⟩ := w.last ⟨p, by simpa using hp⟩
    simp only [List.length_append, List.length_singleton]
    refine ⟨m, by omega, hlast, fun j hj hmj => ?_⟩
    rcases Nat.lt_succ_iff_lt_or_eq.mp hj with hj | rfl
    · exact hnone j hj hmj
    · exact w.slot_next.1

theorem Walk.depay {size : UInt32} {isStart : Bool}
    (w : Walk cb jb₀ stale cur (some p :: rest) s) (hts : p.ts = s.jb.headTimestamp)
    (hdepay : cb.depay p = .ok (size, isStart)) :
    Walk cb jb₀ stale (cur ++ [some p]) rest
      { s with
        curFrameSize := s.curFrameSize + size
        containStartForEarliestFrame :=
          s.containStartForEarliestFrame || (isStart && s.jb.headTimestamp = p.ts)
        index := uint16Inc s.index
        lastNonNullIndex := s.index } := by
  have hindex := w.pos.index
  -- one more place is walked, one less is left
  have hcount := w.pos.count
  refine
    { pos :=
        { head_lt := w.pos.head_lt
          tail_lt := w.pos.tail_lt
          startDropIndex := w.pos.startDropIndex
          index := ?_
          count := ?_ }
      slots := by rw [List.append_assoc]; exact w.slots
      kept := w.kept
      timestamp := fun q hq => ?_
      continuous := by rw [hasGap_append]; simpa using w.continuous
      start := ?_
      size := by rw [size_append, ← w.size]; simp [JbCallbacks.placeSize, hdepay]
      last := fun _ => ?_ }
  · simp only [List.length_append, List.length_singleton]
    rw [hindex]
    unfold uint16Inc
    omega
  · rw [List.length_cons] at hcount
    rw [List.length_append, List.length_singleton]
    dsimp only
    omega
  · rcases List.mem_append.mp hq with hq | hq
    · exact w.timestamp q hq
    · obtain rfl := Option.some.inj (List.mem_singleton.mp hq)
      exact hts
  · rw [hasStart_append, ← Bool.or_assoc, ← w.start]
    simp [JbCallbacks.startsFrame, hdepay, hts]
  · simp only [List.length_append, List.length_singleton]
    refine ⟨cur.length, by omega, hindex, fun j hj hmj => ?_⟩
    omega

theorem Walk.length_lt {o : Option RtpPacket} (w : Walk cb jb₀ stale cur (o :: rest) s) :
    cur.length < s.jb.parseCount := by
  rw [← length_slots, w.slots, List.length_append, List.length_cons]
  omega

/-- Starting the frame of the packet `p` behind the places read. -/
theorem Walk.advance {s' : ParseState} {stale' : Bool}
    (w : Walk cb jb₀ stale cur (some p :: rest) s)
    (hjb : s'.jb = s.jb.moveHead cur.length p e) (hstart : s'.startDropIndex = s.index)
    (hindex : s'.index = s.index) (hcontinuous : s'.isFrameDataContinuous = true)
    (hstale : s'.containStartForEarliestFrame = stale') (hsize : s'.curFrameSize = 0) :
    Walk cb jb₀ stale' [] (some p :: rest) s' ∧ p.ts = s'.jb.headTimestamp := by
  have hlt := w.length_lt
  have h1 := w.pos.head_lt
  obtain ⟨hhead, -, hts, -, hcount⟩ := moveHead_fields s.jb cur.length p e hlt h1
  refine ⟨?_, by rw [hjb, hts]⟩
  refine
    { pos := w.pos.advance p e hjb hstart hindex
      slots := by rw [hjb, slots_moveHead h1 hlt, w.slots, List.drop_left, List.nil_append]
      kept := fun j hj => ?_
      timestamp := fun q hq => absurd hq List.not_mem_nil
      continuous := by rw [hcontinuous]; rfl
      start := by rw [hstale]; exact (Bool.or_false stale').symm
      size := by rw [hsize]; rfl
      last := fun ⟨q, hq⟩ => absurd hq List.not_mem_nil }
  rw [hjb, hcount] at hj
  rw [hjb, slot_moveHead h1 hlt hj, w.kept _ (by omega), hhead]
  have hplace : ((s.jb.headSequenceNumber + cur.length) % 65536 + j) % 65536 =
      (s.jb.headSequenceNumber + (cur.length + j)) % 65536 := by omega
  rw [hplace]

/-! ### Frame by frame -/

def Deliverable (cb : JbCallbacks) (stale : Bool) (f : WindowFrame) : Prop :=
  (stale || f.hasStart cb) = true ∧ f.hasGap = false

/-- The last sequence number of the head frame `f`. -/
def lastOf (jb : JitterBuffer) (f : WindowFrame) : Nat :=
  (jb.headSequenceNumber + f.places.length + 65535) % 65536

/-- The report that the head frame `f` is ready. -/
def readyEvent (cb : JbCallbacks) (jb : JitterBuffer) (f : WindowFrame) : JbEvent :=
  .frameReady jb.headSequenceNumber (jb.lastOf f) (f.size cb)

/-- The report that the head frame `f` is dropped. -/
def droppedEvent (jb : JitterBuffer) (f : WindowFrame) : JbEvent :=
  .frameDropped jb.headSequenceNumber (jb.lastOf f) jb.headTimestamp

/-- The parse loop, frame by frame, from a buffer that holds the given frames.  The flag tells
whether the frame before left its start flag behind. -/
inductive Settles (cb : JbCallbacks) (bufferClosed : Bool) (earliest : Nat) (jb₀ : JitterBuffer) :
    Bool → List WindowFrame → JitterBuffer → ParseFlow → Prop
  | last {stale : Bool} {cur : List (Option RtpPacket)} {s : ParseState} :
      Walk cb jb₀ stale cur [] s →
      Settles cb bufferClosed earliest jb₀ stale [⟨s.jb.headTimestamp, cur⟩] s.jb (.stop s)
  | wait {stale : Bool} {f : WindowFrame} {fs : List WindowFrame} {jb : JitterBuffer} :
      Holds jb₀ jb (f :: fs) → f.hasGap = true → ¬ jb.Expired bufferClosed earliest →
      Settles cb bufferClosed earliest jb₀ stale (f :: fs) jb (.cleanUp .success jb)
  | stop {stale : Bool} {f g : WindowFrame} {fs : List WindowFrame} {jb : JitterBuffer}
      {s : ParseState} : Holds jb₀ jb (f :: g :: fs) → ¬ Deliverable cb stale f →
      ¬ jb.Expired bufferClosed earliest → s.jb = jb →
      Settles cb bufferClosed earliest jb₀ stale (f :: g :: fs) jb (.stop s)
  | depayFailed {stale : Bool} {fs : List WindowFrame} {jb : JitterBuffer} {p : RtpPacket}
      {status : Status} : Holds jb₀ jb fs → some p ∈ jb.slots →
      cb.depay p = .error status →
      Settles cb bufferClosed earliest jb₀ stale fs jb (.cleanUp status jb)
  | readyFailed {stale : Bool} {f g : WindowFrame} {fs : List WindowFrame} {jb : JitterBuffer}
      {status : Status} : Holds jb₀ jb (f :: g :: fs) → Deliverable cb stale f →
      cb.onFrameReadyFn jb.trace jb.headSequenceNumber (jb.lastOf f) (f.size cb) ≠ .success →
      Settles cb bufferClosed earliest jb₀ stale (f :: g :: fs) jb
        (.cleanUp status (jb.emit (jb.readyEvent cb f)))
  | deliver {stale : Bool} {f g : WindowFrame} {fs : List WindowFrame} {jb : JitterBuffer}
      {p : RtpPacket} {flow : ParseFlow} : Holds jb₀ jb (f :: g :: fs) → Deliverable cb stale f →
      f.places.length < jb.parseCount →
      Settles cb bufferClosed earliest jb₀ false (g :: fs)
        (jb.moveHead f.places.length p (jb.readyEvent cb f)) flow →
      Settles cb bufferClosed earliest jb₀ stale (f :: g :: fs) jb flow
  | drop {stale : Bool} {f g : WindowFrame} {fs : List WindowFrame} {jb : JitterBuffer}
      {p : RtpPacket} {flow : ParseFlow} : Holds jb₀ jb (f :: g :: fs) → ¬ Deliverable cb stale f →
      jb.Expired bufferClosed earliest → f.places.length < jb.parseCount →
      Settles cb bufferClosed earliest jb₀ (stale || f.hasStart cb) (g :: fs)
        (jb.moveHead f.places.length p (jb.droppedEvent f)) flow →
      Settles cb bufferClosed earliest jb₀ stale (f :: g :: fs) jb flow

variable {n : Nat}

theorem framesFrom_ne_nil (ts : Nat) (cur rest : List (Option RtpPacket)) :
    ∃ g fs, framesFrom ts cur rest = g :: fs ∧ g.timestamp = ts := by
  obtain ⟨more, fs, h⟩ := framesFrom_eq_cons ts cur rest
  exact ⟨_, fs, h, rfl⟩

theorem Walk.complete_iff (w : Walk cb jb₀ stale cur rest s) :
    Complete s ↔ Deliverable cb stale ⟨s.jb.headTimestamp, cur⟩ := by
  unfold Complete Deliverable
  rw [w.continuous, w.start, Bool.not_eq_true']

theorem Walk.endIndex (w : Walk cb jb₀ stale cur rest s) :
    uint16Dec s.index = s.jb.lastOf ⟨s.jb.headTimestamp, cur⟩ := uint16Dec_index w.pos

theorem Walk.readyEvent (w : Walk cb jb₀ stale cur rest s) :
    JbEvent.frameReady s.startDropIndex (uint16Dec s.index) s.curFrameSize =
      s.jb.readyEvent cb ⟨s.jb.headTimestamp, cur⟩ := by
  rw [w.pos.startDropIndex, w.endIndex, w.size]
  rfl

theorem Walk.droppedEvent (w : Walk cb jb₀ stale cur rest s) :
    JbEvent.frameDropped s.startDropIndex (uint16Dec s.index) s.jb.headTimestamp =
      s.jb.droppedEvent ⟨s.jb.headTimestamp, cur⟩ := by
  rw [w.pos.startDropIndex, w.endIndex]
  rfl

theorem Walk.delivered_eq (w : Walk cb jb₀ stale cur rest s) :
    delivered { s with lastNonNullIndex := s.index } p =
      s.jb.moveHead cur.length p (s.jb.readyEvent cb ⟨s.jb.headTimestamp, cur⟩) := by
  rw [← w.readyEvent, ← JitterBuffer.delivered_eq w.pos]
  rfl

theorem Walk.dropped_eq (w : Walk cb jb₀ stale cur rest s) :
    dropped { s with lastNonNullIndex := s.index } p =
      s.jb.moveHead cur.length p (s.jb.droppedEvent ⟨s.jb.headTimestamp, cur⟩) := by
  rw [← w.droppedEvent, ← JitterBuffer.dropped_eq w.pos]
  rfl

/-- The loop state after the head frame was delivered. -/
theorem Walk.delivered (w : Walk cb jb₀ stale cur (some p :: rest) s) (hc : Complete s) :
    Walk cb jb₀ false [] (some p :: rest)
      { s with
        jb := s.jb.moveHead cur.length p (s.jb.readyEvent cb ⟨s.jb.headTimestamp, cur⟩)
        startDropIndex := s.index
        containStartForEarliestFrame := false
        curFrameSize := 0
        lastNonNullIndex := s.index } ∧
      p.ts = (s.jb.moveHead cur.length p
        (s.jb.readyEvent cb ⟨s.jb.headTimestamp, cur⟩)).headTimestamp :=
  w.advance rfl rfl rfl hc.2 rfl rfl

/-- The loop state after the head frame was dropped: the start flag is not cleared. -/
theorem Walk.dropped (w : Walk cb jb₀ stale cur (some p :: rest) s) :
    Walk cb jb₀ (stale || (WindowFrame.mk s.jb.headTimestamp cur).hasStart cb) []
      (some p :: rest)
      { s with
        jb := s.jb.moveHead cur.length p (s.jb.droppedEvent ⟨s.jb.headTimestamp, cur⟩)
        isFrameDataContinuous := true
        startDropIndex := s.index
        curFrameSize := 0
        lastNonNullIndex := s.index } ∧
      p.ts = (s.jb.moveHead cur.length p
        (s.jb.droppedEvent ⟨s.jb.headTimestamp, cur⟩)).headTimestamp :=
  w.advance rfl rfl rfl rfl w.start rfl

def parseRest (cb : JbCallbacks) (bufferClosed : Bool) (earliest n : Nat) : ParseFlow → ParseFlow
  | .next s => parseLoop cb bufferClosed earliest n s
  | .stop s => .stop s
  | .cleanUp status jb => .cleanUp status jb

theorem parseLoop_succ : parseLoop cb bufferClosed earliest (n + 1) s =
    parseRest cb bufferClosed earliest n (parseBody cb bufferClosed earliest s) := by
  rw [parseLoop]
  cases parseBody cb bufferClosed earliest s <;> rfl

/-- **The parse loop works frame by frame.** -/
theorem parseLoop_settles (w : Walk cb jb₀ stale cur rest s) :
    Settles cb bufferClosed earliest jb₀ stale (framesFrom s.jb.headTimestamp cur rest) s.jb
      (parseLoop cb bufferClosed earliest rest.length s) := by
  -- induction on the places left; a place of the head frame changes neither buffer nor frames
  induction rest generalizing stale cur s with
  | nil => exact .last w
  | cons o rest ih =>
    have hp := w.slot_next.2
    rw [List.length_cons, parseLoop_succ]
    cases o with
    | none =>
      rw [framesFrom_none]
      by_cases hage : s.jb.Expired bufferClosed earliest
      · rw [parseBody_gap hp hage]
        exact ih w.gap
      · rw [parseBody_wait hp hage]
        have hholds := w.holds
        rw [framesFrom_none] at hholds
        obtain ⟨more, fs, hfs⟩ := framesFrom_eq_cons s.jb.headTimestamp (cur ++ [none]) rest
        rw [hfs] at hholds ⊢
        exact .wait hholds (by simp [hasGap]) hage
    | some p =>
      -- reading `p` as a packet of the head frame
      have hread : ∀ {stale cur s}, Walk cb jb₀ stale cur (some p :: rest) s →
          p.ts = s.jb.headTimestamp →
          Settles cb bufferClosed earliest jb₀ stale
            (framesFrom s.jb.headTimestamp (cur ++ [some p]) rest) s.jb
            (parseRest cb bufferClosed earliest rest.length
              (parseDepay cb { s with lastNonNullIndex := s.index } p)) := by
        intro stale cur s w hts
        rcases hdepay : cb.depay p with status | ⟨size, isStart⟩
        · rw [parseDepay_error hdepay, ← framesFrom_same hts]
          exact .depayFailed w.holds (by rw [w.slots]; simp) hdepay
        · rw [parseDepay_ok hdepay]
          exact ih (w.depay hts hdepay)
      by_cases hts : p.ts = s.jb.headTimestamp
      · rw [parseBody_same hp hts, framesFrom_same hts]
        exact hread w hts
      · have hholds := w.holds
        obtain ⟨g, fs, hfs, -⟩ := framesFrom_ne_nil p.ts [some p] rest
        rw [framesFrom_new hts, hfs] at hholds ⊢
        by_cases hc : Complete s
        · rw [parseBody_deliver hp hts hc]
          have hd := w.complete_iff.mp hc
          by_cases hready : cb.onFrameReadyFn s.jb.trace s.startDropIndex (uint16Dec s.index)
              s.curFrameSize = .success
          · rw [@parseDeliver_success cb { s with lastNonNullIndex := s.index } p hready,
              w.delivered_eq]
            obtain ⟨w', hts'⟩ := w.delivered hc
            have hrest := hread w' hts'
            rw [← hts', List.nil_append, hfs] at hrest
            exact .deliver hholds hd w.length_lt hrest
          · obtain ⟨status, he⟩ := @parseDeliver_failed cb { s with lastNonNullIndex := s.index } p
              hready
            rw [he]
            rw [w.pos.startDropIndex, w.endIndex, w.size] at hready ⊢
            exact .readyFailed hholds hd hready
        · have hd := fun hd => hc (w.complete_iff.mpr hd)
          by_cases hage : s.jb.Expired bufferClosed earliest
          · rw [parseBody_drop hp hts hc hage, parseDrop_eq, w.dropped_eq]
            obtain ⟨w', hts'⟩ := w.dropped
            have hrest := hread w' hts'
            rw [← hts', List.nil_append, hfs] at hrest
            exact .drop hholds hd hage w.length_lt hrest
          · rw [parseBody_stop hp hts hc hage]
            exact .stop hholds hd hage rfl

end KvsWebrtc.JitterBuffer
