import KvsWebrtc.JitterBuffer.Equiv.Drop
import KvsWebrtc.JitterBuffer.Equiv.StartPacket
import KvsWebrtc.JitterBuffer.FrameData

/-!
# The frames that are reported ready

Each call of `onFrameReadyFn` is for a range without gap, all of one timestamp, and gives the sum of
the sizes of its packets (`ReadyCall.IsFrame`), taken in 32 bits.  The parse loop adds the sizes up
on its way; the last frame of a closing buffer is measured again.

`jitterBufferFillFrameData` on such a call depayloads the same packets (`fillLoop_eq`), and fills
the frame if the sum did not overflow.
-/

namespace KvsWebrtc.JitterBuffer

open WindowFrame

variable {cb : JbCallbacks} {bufferClosed stale : Bool} {earliest k m n index : Nat}
  {jb jb₀ : JitterBuffer} {s s' : ParseState} {p : RtpPacket} {cur rest : List (Option RtpPacket)}
  {packets : List RtpPacket}

/-! ### The calls and the trace -/

@[simp] theorem readyEvents_append (l₁ l₂ : List JbEvent) :
    readyEvents (l₁ ++ l₂) = readyEvents l₁ ++ readyEvents l₂ := List.filter_append l₁ l₂

@[simp] theorem readyEvents_frameReady (a b : Nat) (size : UInt32) :
    readyEvents [.frameReady a b size] = [.frameReady a b size] := rfl

@[simp] theorem readyEvents_frameDropped (a b ts : Nat) : readyEvents [.frameDropped a b ts] = [] :=
  rfl

@[simp] theorem emit_trace (jb : JitterBuffer) (e : JbEvent) : (jb.emit e).trace =
    jb.trace ++ [e] := rfl

theorem readyEvents_frameEvents (trace : List JbEvent) :
    readyEvents (frameEvents trace) = readyEvents trace := by
  induction trace with
  | nil => rfl
  | cons e trace ih =>
    cases e <;> simpa [readyEvents, frameEvents, JbEvent.isFrame] using ih

@[simp] theorem readyEvents_drop (jb : JitterBuffer) (startIndex endIndex nextTimestamp : Nat) :
    readyEvents (jb.jitterBufferDropBufferData startIndex endIndex nextTimestamp).trace =
      readyEvents jb.trace := by
  rw [jitterBufferDropBufferData_trace, ← readyEvents_frameEvents, dropLoop_frameEvents,
    readyEvents_frameEvents]

theorem bodyCalls_none (hp : s.jb.pkgBufferHashTable s.index = none) : bodyCalls s = [] := by
  unfold bodyCalls
  rw [hp]

theorem bodyCalls_same (hp : s.jb.pkgBufferHashTable s.index = some p)
    (hts : p.ts = s.jb.headTimestamp) : bodyCalls s = [] := by
  unfold bodyCalls
  rw [hp]
  exact if_neg fun h => h.1 hts

theorem bodyCalls_complete (hp : s.jb.pkgBufferHashTable s.index = some p)
    (hts : p.ts ≠ s.jb.headTimestamp) (hc : Complete s) :
    bodyCalls s = [⟨s.jb, s.startDropIndex, uint16Dec s.index, s.curFrameSize⟩] := by
  unfold bodyCalls
  rw [hp]
  exact if_pos ⟨hts, hc⟩

theorem bodyCalls_incomplete (hp : s.jb.pkgBufferHashTable s.index = some p) (hc : ¬ Complete s) :
    bodyCalls s = [] := by
  unfold bodyCalls
  rw [hp]
  exact if_neg fun h => hc h.2

theorem readyEvents_delivered (s : ParseState) (p : RtpPacket) :
    readyEvents (delivered s p).trace =
      readyEvents s.jb.trace ++ [.frameReady s.startDropIndex
        (uint16Dec s.index) s.curFrameSize] := by
  unfold delivered
  rw [processed_trace, readyEvents_drop, emit_trace, readyEvents_append, readyEvents_frameReady]

theorem readyEvents_dropped (s : ParseState) (p : RtpPacket) :
    readyEvents (dropped s p).trace = readyEvents s.jb.trace := by
  unfold dropped
  rw [processed_trace, readyEvents_drop, emit_trace, readyEvents_append, readyEvents_frameDropped,
    List.append_nil]

theorem readyEvents_parseBody (cb : JbCallbacks) (bufferClosed : Bool) (earliest : Nat)
    (s : ParseState) :
    readyEvents (parseBody cb bufferClosed earliest s).jb.trace =
      readyEvents s.jb.trace ++ (bodyCalls s).map ReadyCall.event := by
  cases hp : s.jb.pkgBufferHashTable s.index with
  | none =>
    rw [bodyCalls_none hp]
    by_cases hage : s.jb.Expired bufferClosed earliest
    · simp [parseBody_gap hp hage, ParseFlow.jb]
    · simp [parseBody_wait hp hage, ParseFlow.jb]
  | some p =>
    by_cases hts : p.ts = s.jb.headTimestamp
    · rw [parseBody_same hp hts, parseDepay_jb, bodyCalls_same hp hts]
      simp
    · by_cases hc : Complete s
      · rw [parseBody_deliver hp hts hc, bodyCalls_complete hp hts hc]
        by_cases hready : cb.onFrameReadyFn s.jb.trace s.startDropIndex (uint16Dec s.index)
            s.curFrameSize = .success
        · rw [@parseDeliver_success cb { s with lastNonNullIndex := s.index } p hready,
            parseDepay_jb]
          exact readyEvents_delivered _ p
        · obtain ⟨e, he⟩ := @parseDeliver_failed cb { s with lastNonNullIndex := s.index } p hready
          rw [he]
          simp [ParseFlow.jb, ReadyCall.event]
      · rw [bodyCalls_incomplete hp hc]
        by_cases hage : s.jb.Expired bufferClosed earliest
        · rw [parseBody_drop hp hts hc hage, parseDrop_eq, parseDepay_jb, List.map_nil,
            List.append_nil]
          exact readyEvents_dropped _ p
        · simp [parseBody_stop hp hts hc hage, ParseFlow.jb]

theorem readyEvents_parseLoop (cb : JbCallbacks) (bufferClosed : Bool) (earliest n : Nat)
    (s : ParseState) :
    readyEvents (parseLoop cb bufferClosed earliest n s).jb.trace =
      readyEvents s.jb.trace ++ (loopCalls cb bufferClosed earliest n s).map ReadyCall.event := by
  induction n generalizing s with
  | zero => simp [parseLoop, loopCalls, ParseFlow.jb]
  | succ n ih =>
    have hbody := readyEvents_parseBody cb bufferClosed earliest s
    rw [parseLoop, loopCalls]
    cases hflow : parseBody cb bufferClosed earliest s with
    | next s' =>
      rw [hflow] at hbody
      dsimp only
      rw [ih, List.map_append, ← List.append_assoc, ← hbody]
      rfl
    | stop s' =>
      rw [hflow] at hbody
      simpa using hbody
    | cleanUp status jb =>
      rw [hflow] at hbody
      simpa using hbody

theorem readyEvents_parseLastFrame (cb : JbCallbacks) (s : ParseState) :
    readyEvents (parseLastFrame cb s).2.trace =
      readyEvents s.jb.trace ++ (lastCalls s (closeLoop cb s.jb
        (dropCount s.startDropIndex s.lastNonNullIndex) s.startDropIndex 0)).map
          ReadyCall.event := by
  rcases hclose : closeLoop cb s.jb (dropCount s.startDropIndex s.lastNonNullIndex) s.startDropIndex
    0
    with e | ⟨index, size⟩
  · rw [parseLastFrame, lastCalls, hclose]
    simp
  · rw [parseLastFrame, lastCalls, hclose]
    dsimp only
    by_cases hindex : uint16Dec index = s.lastNonNullIndex
    · have hready := readyEvents_append s.jb.trace
        [.frameReady s.startDropIndex s.lastNonNullIndex size]
      rw [readyEvents_frameReady, ← emit_trace] at hready
      rw [if_pos hindex, if_pos hindex, List.map_singleton, ReadyCall.event, ← hready]
      split
      · exact readyEvents_drop _ _ _ _
      · rfl
    · have hdropped := readyEvents_append s.jb.trace
        [.frameDropped s.startDropIndex (uint16Dec index) s.jb.headTimestamp]
      rw [readyEvents_frameDropped, ← emit_trace] at hdropped
      rw [if_neg hindex, if_neg hindex, List.map_nil, ← hdropped]
      split
      · exact readyEvents_drop _ _ _ _
      · rfl

/-- **The calls are those in the trace.** -/
theorem readyEvents_parse (cb : JbCallbacks) (jb : JitterBuffer) (bufferClosed : Bool) :
    readyEvents (jitterBufferInternalParse cb jb bufferClosed).2.trace =
      readyEvents jb.trace ++ (parseCalls cb jb bufferClosed).map ReadyCall.event := by
  have hloop := readyEvents_parseLoop cb bufferClosed jb.earliestAllowedTimestamp jb.parseCount
    jb.parseInit
  unfold jitterBufferInternalParse parseCalls
  split_ifs
  · simp
  · cases hflow : parseLoop cb bufferClosed jb.earliestAllowedTimestamp jb.parseCount
      jb.parseInit with
    | cleanUp status jb' =>
      rw [hflow] at hloop
      simpa [ParseFlow.jb, parseInit] using hloop
    | next s =>
      rw [hflow] at hloop
      dsimp only
      split_ifs
      · rw [readyEvents_parseLastFrame, List.map_append, ← List.append_assoc]
        exact congrArg (· ++ _) hloop
      · simpa [ParseFlow.jb, parseInit] using hloop
    | stop s =>
      rw [hflow] at hloop
      dsimp only
      split_ifs
      · rw [readyEvents_parseLastFrame, List.map_append, ← List.append_assoc]
        exact congrArg (· ++ _) hloop
      · simpa [ParseFlow.jb, parseInit] using hloop

/-! ### Ranges of sequence numbers -/

/-- The sequence numbers of the circular range from `startIndex` to `endIndex`, both included. -/
def seqRange (startIndex endIndex : Nat) : List Nat :=
  (List.range (seqDist startIndex endIndex + 1)).map fun k => (startIndex + k) % 65536

/-- The `n` places of the table from `startIndex` on. -/
def places (jb : JitterBuffer) (startIndex n : Nat) : List (Option RtpPacket) :=
  (List.range n).map fun k => jb.pkgBufferHashTable ((startIndex + k) % 65536)

theorem places_succ (hindex : index < 65536) :
    jb.places index (n + 1) = jb.pkgBufferHashTable index :: jb.places (uint16Inc index) n := by
  have hnext : ∀ k, (index + (k + 1)) % 65536 = (uint16Inc index + k) % 65536 := by
    intro k
    unfold uint16Inc
    omega
  simp [places, List.range_succ_eq_map, Nat.mod_eq_of_lt hindex, Function.comp_def, hnext]

theorem map_seqRange (startIndex endIndex : Nat) :
    (seqRange startIndex endIndex).map jb.pkgBufferHashTable =
      jb.places startIndex (seqDist startIndex endIndex + 1) := by
  simp [seqRange, places]

theorem Walk.places (w : Walk cb jb₀ stale cur rest s) (hn : n ≤ cur.length) :
    s.jb.places s.startDropIndex n = cur.take n := by
  have hlen : n ≤ s.jb.parseCount := by
    rw [← length_slots, w.slots, List.length_append]
    omega
  have htake : cur.take n = s.jb.slots.take n := by
    rw [w.slots, List.take_append_of_le_length hn]
  rw [htake, JitterBuffer.slots, ← List.map_take, List.take_range, Nat.min_eq_left hlen,
    w.pos.startDropIndex]
  rfl

/-! ### What a call reports -/

def Depayed (cb : JbCallbacks) (p : RtpPacket) : Prop :=
  ∃ isStart, cb.depay p = .ok (cb.placeSize (some p), isStart)

theorem depayed_of_ok {size : UInt32} {isStart : Bool} (h : cb.depay p = .ok (size, isStart)) :
    Depayed cb p := ⟨isStart, by simp [JbCallbacks.placeSize, h]⟩

def totalSize (cb : JbCallbacks) (places : List (Option RtpPacket)) : Nat :=
  (places.map fun o => (cb.placeSize o).toNat).sum

/-- The call is for the frame of the given packets: they are what the table holds in the range, they
have one timestamp, and the size is the sum of theirs in 32 bits. -/
structure ReadyCall.IsFrame (cb : JbCallbacks) (c : ReadyCall) (packets : List RtpPacket) :
    Prop where
  startIndex_lt : c.startIndex < 65536
  endIndex_lt : c.endIndex < 65536
  stored : (seqRange c.startIndex c.endIndex).map c.jb.pkgBufferHashTable = packets.map some
  length_lt : packets.length < 65536
  timestamp : ∀ p ∈ packets, ∀ q ∈ packets, p.ts = q.ts
  depayed : ∀ p ∈ packets, Depayed cb p
  frameSize : c.frameSize.toNat = totalSize cb (packets.map some) % 2 ^ 32

theorem toNat_addSizes (places : List (Option RtpPacket)) (size : UInt32) :
    (places.foldl (fun size o => size + cb.placeSize o) size).toNat =
      (size.toNat + totalSize cb places) % 2 ^ 32 := by
  induction places generalizing size with
  | nil => simp [totalSize, Nat.mod_eq_of_lt size.toNat_lt]
  | cons o places ih =>
    rw [List.foldl_cons, ih, UInt32.toNat_add]
    simp only [totalSize, List.map_cons, List.sum_cons]
    omega

theorem exists_packets (h : ∀ o ∈ cur, o.isSome = true) :
    ∃ packets : List RtpPacket, cur = packets.map some := by
  induction cur with
  | nil => exact ⟨[], rfl⟩
  | cons o cur ih =>
    obtain ⟨p, hp⟩ := Option.isSome_iff_exists.mp (h o List.mem_cons_self)
    obtain ⟨packets, hpackets⟩ := ih fun o ho => h o (List.mem_cons_of_mem _ ho)
    exact ⟨p :: packets, by rw [hp, hpackets, List.map_cons]⟩

/-- The first places of the current frame, all stored, make a frame. -/
theorem Walk.isFrame {size : UInt32} (w : Walk cb jb₀ stale cur rest s) (hm : m < cur.length)
    (hcur : cur.take (m + 1) = packets.map some) (hdepay : ∀ p ∈ packets, Depayed cb p)
    (hsize : size.toNat = totalSize cb (packets.map some) % 2 ^ 32) :
    ReadyCall.IsFrame cb
      ⟨s.jb, s.startDropIndex, (s.jb.headSequenceNumber + m) % 65536, size⟩ packets := by
  have hstart : s.startDropIndex < 65536 := w.pos.startDropIndex ▸ w.pos.head_lt
  have hcount := s.jb.parseCount_lt
  have hlen : cur.length ≤ s.jb.parseCount := by
    rw [← length_slots, w.slots, List.length_append]
    omega
  have hdist : seqDist s.startDropIndex ((s.jb.headSequenceNumber + m) % 65536) = m := by
    rw [← w.pos.startDropIndex]
    unfold seqDist
    omega
  have hlength : packets.length = m + 1 := by
    have htake := congrArg List.length hcur
    rw [List.length_take, List.length_map] at htake
    omega
  have hts : ∀ p ∈ packets, p.ts = s.jb.headTimestamp := by
    intro p hp
    have hmem : some p ∈ cur.take (m + 1) := by
      rw [hcur]
      exact List.mem_map_of_mem hp
    exact w.timestamp p (List.mem_of_mem_take hmem)
  exact
    { startIndex_lt := hstart
      endIndex_lt := Nat.mod_lt _ (by decide)
      stored := by rw [map_seqRange, hdist, w.places hm, hcur]
      length_lt := by omega
      timestamp := fun p hp q hq => (hts p hp).trans (hts q hq).symm
      depayed := hdepay
      frameSize := hsize }

/-! ### The parse loop -/

/-- What else the loop knows of the places read. -/
structure Measured (cb : JbCallbacks) (stale : Bool) (cur : List (Option RtpPacket))
    (s : ParseState) :
    Prop where
  depayed : ∀ p, some p ∈ cur → Depayed cb p
  /-- A start flag that was left behind is not seen before a place is read. -/
  read : stale = true → cur ≠ []
  last : (∃ p, some p ∈ cur) → s.jb.pkgBufferHashTable s.lastNonNullIndex ≠ none

theorem measured_init (cb : JbCallbacks) (jb : JitterBuffer) : Measured cb false [] jb.parseInit :=
  { depayed := fun _ hp => absurd hp List.not_mem_nil
    read := fun h => Bool.noConfusion h
    last := fun ⟨_, hp⟩ => absurd hp List.not_mem_nil }

theorem Measured.gap (hm : Measured cb stale cur s) : Measured cb stale (cur ++ [none])
    { s with isFrameDataContinuous := false, index := uint16Inc s.index } :=
  { depayed := fun p hp => hm.depayed p (by simpa using hp)
    read := fun _ => by simp
    last := fun ⟨p, hp⟩ => hm.last ⟨p, by simpa using hp⟩ }

/-- Reading a packet of the head frame, as the first of it or behind the places `cur`. -/
theorem Walk.depay_next (w : Walk cb jb₀ stale cur (some p :: rest) s)
    (hcur : ∀ q, some q ∈ cur → Depayed cb q) (hts : p.ts = s.jb.headTimestamp)
    (h : parseDepay cb { s with lastNonNullIndex := s.index } p = .next s') :
    Walk cb jb₀ stale (cur ++ [some p]) rest s' ∧ Measured cb stale (cur ++ [some p]) s' := by
  rcases hdepay : cb.depay p with status | ⟨size, isStart⟩
  · rw [parseDepay_error hdepay] at h
    cases h
  · rw [parseDepay_ok hdepay] at h
    obtain rfl := ParseFlow.next.inj h
    refine ⟨w.depay hts hdepay, ?_⟩
    exact
      { depayed := fun q hq => by
          rcases List.mem_append.mp hq with hq | hq
          · exact hcur q hq
          · obtain rfl := Option.some.inj (List.mem_singleton.mp hq)
            exact depayed_of_ok hdepay
        read := fun _ => by simp
        last := fun _ => by
          dsimp only
          rw [w.slot_next.2]
          exact Option.some_ne_none p }

/-- The places of a complete frame hold packets, and there is at least one. -/
theorem Walk.complete (w : Walk cb jb₀ stale cur rest s) (hm : Measured cb stale cur s)
    (hc : Complete s) : cur ≠ [] ∧ ∃ packets : List RtpPacket, cur = packets.map some := by
  obtain ⟨hstart, hgap⟩ := w.complete_iff.mp hc
  constructor
  · rintro rfl
    have hstale : stale = true := by simpa [hasStart] using hstart
    exact hm.read hstale rfl
  · refine exists_packets fun o ho => ?_
    have hno := List.any_eq_false.mp hgap o ho
    rwa [Option.isNone_iff_eq_none, ← ne_eq, Option.ne_none_iff_isSome] at hno

/-- **The call that delivers a frame.** -/
theorem Walk.deliver_isFrame (w : Walk cb jb₀ stale cur rest s) (hm : Measured cb stale cur s)
    (hc : Complete s) : ∃ packets,
      ReadyCall.IsFrame cb ⟨s.jb, s.startDropIndex, uint16Dec s.index, s.curFrameSize⟩ packets := by
  obtain ⟨hne, packets, hpackets⟩ := w.complete hm hc
  have hpos := List.length_pos_iff.mpr hne
  have hend : uint16Dec s.index = (s.jb.headSequenceNumber + (cur.length - 1)) % 65536 := by
    rw [uint16Dec_index w.pos]
    omega
  rw [hend]
  refine ⟨packets, w.isFrame (by omega) ?_ ?_ ?_⟩
  · rw [Nat.sub_add_cancel hpos, List.take_length, hpackets]
  · intro p hp
    refine hm.depayed p ?_
    rw [hpackets]
    exact List.mem_map_of_mem hp
  · rw [w.size, ← hpackets, WindowFrame.size, toNat_addSizes]
    simp

/-- **One iteration of the parse loop** makes a call for a frame only, and goes on to the next
place. -/
theorem Walk.step {o : Option RtpPacket} (w : Walk cb jb₀ stale cur (o :: rest) s)
    (hm : Measured cb stale cur s) (bufferClosed : Bool) (earliest : Nat) :
    (∀ c ∈ bodyCalls s, ∃ packets, c.IsFrame cb packets) ∧
      (∀ s', parseBody cb bufferClosed earliest s = .next s' →
        ∃ stale' cur', Walk cb jb₀ stale' cur' rest s' ∧ Measured cb stale' cur' s') ∧
      (bufferClosed = true → ∀ s', parseBody cb bufferClosed earliest s ≠ .stop s') := by
  have hp := w.slot_next.2
  cases o with
  | none =>
    rw [bodyCalls_none hp]
    refine ⟨fun c hc => absurd hc List.not_mem_nil, ?_⟩
    by_cases hage : s.jb.Expired bufferClosed earliest
    · rw [parseBody_gap hp hage]
      refine ⟨fun s' h => ?_, fun _ s' h => ParseFlow.noConfusion h⟩
      obtain rfl := ParseFlow.next.inj h
      exact ⟨stale, cur ++ [none], w.gap, hm.gap⟩
    · rw [parseBody_wait hp hage]
      exact ⟨fun s' h => ParseFlow.noConfusion h, fun _ s' h => ParseFlow.noConfusion h⟩
  | some p =>
    have hnil : ∀ q, some q ∈ ([] : List (Option RtpPacket)) → Depayed cb q :=
      fun q hq => absurd hq List.not_mem_nil
    by_cases hts : p.ts = s.jb.headTimestamp
    · rw [bodyCalls_same hp hts, parseBody_same hp hts]
      refine ⟨fun c hc => absurd hc List.not_mem_nil, fun s' h => ?_,
        fun _ s' h => absurd h parseDepay_ne_stop⟩
      exact ⟨stale, _, w.depay_next hm.depayed hts h⟩
    · by_cases hc : Complete s
      · rw [bodyCalls_complete hp hts hc, parseBody_deliver hp hts hc]
        refine ⟨fun c hmem => ?_, ?_⟩
        · obtain rfl := List.mem_singleton.mp hmem
          exact w.deliver_isFrame hm hc
        · by_cases hready : cb.onFrameReadyFn s.jb.trace s.startDropIndex (uint16Dec s.index)
              s.curFrameSize = .success
          · rw [@parseDeliver_success cb { s with lastNonNullIndex := s.index } p hready,
              w.delivered_eq]
            refine ⟨fun s' h => ?_, fun _ s' h => absurd h parseDepay_ne_stop⟩
            obtain ⟨w', hts'⟩ := w.delivered hc
            exact ⟨false, _, w'.depay_next hnil hts' h⟩
          · obtain ⟨e, he⟩ := @parseDeliver_failed cb { s with
              lastNonNullIndex := s.index } p hready
            rw [he]
            exact ⟨fun s' h => ParseFlow.noConfusion h, fun _ s' h => ParseFlow.noConfusion h⟩
      · rw [bodyCalls_incomplete hp hc]
        refine ⟨fun c hmem => absurd hmem List.not_mem_nil, ?_⟩
        by_cases hage : s.jb.Expired bufferClosed earliest
        · rw [parseBody_drop hp hts hc hage, parseDrop_eq, w.dropped_eq]
          refine ⟨fun s' h => ?_, fun _ s' h => absurd h parseDepay_ne_stop⟩
          obtain ⟨w', hts'⟩ := w.dropped
          exact ⟨_, _, w'.depay_next hnil hts' h⟩
        · rw [parseBody_stop hp hts hc hage]
          refine ⟨fun s' h => ParseFlow.noConfusion h, fun hclosed s' h => ?_⟩
          exact absurd (.inr hclosed) hage

/-- **The calls of the parse loop** are for frames, and a closing buffer is read to its end. -/
theorem Walk.run (w : Walk cb jb₀ stale cur rest s) (hm : Measured cb stale cur s)
    (bufferClosed : Bool) (earliest : Nat) :
    (∀ c ∈ loopCalls cb bufferClosed earliest rest.length s, ∃ packets, c.IsFrame cb packets) ∧
      (bufferClosed = true → ∀ s', parseLoop cb bufferClosed earliest rest.length s = .stop s' →
        ∃ stale' cur', Walk cb jb₀ stale' cur' [] s' ∧ Measured cb stale' cur' s') := by
  induction rest generalizing stale cur s with
  | nil =>
    refine ⟨fun c hc => absurd hc List.not_mem_nil, fun _ s' h => ?_⟩
    obtain rfl := ParseFlow.stop.inj h
    exact ⟨stale, cur, w, hm⟩
  | cons o rest ih =>
    obtain ⟨hcalls, hnext, hstop⟩ := w.step hm bufferClosed earliest
    rw [List.length_cons, loopCalls, parseLoop]
    cases hflow : parseBody cb bufferClosed earliest s with
    | next s' =>
      obtain ⟨stale', cur', w', hm'⟩ := hnext s' hflow
      obtain ⟨hcalls', hlast⟩ := ih w' hm'
      refine ⟨fun c hc => ?_, hlast⟩
      rcases List.mem_append.mp hc with hc | hc
      · exact hcalls c hc
      · exact hcalls' c hc
    | stop s' =>
      refine ⟨fun c hc => hcalls c (by simpa using hc), fun hclosed => ?_⟩
      exact absurd hflow (hstop hclosed s')
    | cleanUp status jb =>
      exact ⟨fun c hc => hcalls c (by simpa using hc), fun _ s' h => ParseFlow.noConfusion h⟩

theorem parseLoop_ne_next (n : Nat) (s : ParseState) :
    parseLoop cb bufferClosed earliest n s ≠ .next s' := by
  induction n generalizing s with
  | zero => exact fun h => ParseFlow.noConfusion h
  | succ n ih =>
    rw [parseLoop]
    cases parseBody cb bufferClosed earliest s with
    | next s₁ => exact ih s₁
    | stop s₁ => exact fun h => ParseFlow.noConfusion h
    | cleanUp status jb => exact fun h => ParseFlow.noConfusion h

/-! ### The last frame of a closing buffer -/

/-- How the loop over the last frame ends: every place is stored, or one is empty and the loop stops
behind it. -/
theorem closeLoop_cases {size size' : UInt32} {index' : Nat} (hindex : index < 65536)
    (h : closeLoop cb jb n index size = .ok (index', size')) :
    (∃ packets : List RtpPacket, jb.places index n = packets.map some ∧
      (∀ p ∈ packets, Depayed cb p) ∧
      size' = (packets.map some).foldl (fun size o => size + cb.placeSize o) size) ∨
    ∃ k < n, jb.pkgBufferHashTable ((index + k) % 65536) = none ∧
      index' = (index + k + 1) % 65536 := by
  induction n generalizing index size with
  | zero =>
    obtain ⟨-, rfl⟩ := Prod.mk.inj (Except.ok.inj h)
    exact .inl ⟨[], rfl, fun p hp => absurd hp List.not_mem_nil, rfl⟩
  | succ n ih =>
    have hnext : uint16Inc index < 65536 := Nat.mod_lt _ (by decide)
    rw [closeLoop] at h
    cases hp : jb.pkgBufferHashTable index with
    | none =>
      rw [hp] at h
      obtain ⟨rfl, rfl⟩ := Prod.mk.inj (Except.ok.inj h)
      refine .inr ⟨0, Nat.succ_pos n, ?_, rfl⟩
      rw [Nat.add_zero, Nat.mod_eq_of_lt hindex, hp]
    | some p =>
      simp only [hp] at h
      rcases hdepay : cb.depay p with status | ⟨partialFrameSize, isStart⟩
      · rw [hdepay] at h
        cases h
      · rw [hdepay] at h
        rcases ih hnext h with ⟨packets, hplaces, hall, hsize⟩ | ⟨k, hk, hnone, hindex'⟩
        · refine .inl ⟨p :: packets, ?_, ?_, ?_⟩
          · rw [places_succ hindex, hp, hplaces, List.map_cons]
          · rintro q (_ | ⟨_, hq⟩)
            · exact depayed_of_ok hdepay
            · exact hall q hq
          · simpa [JbCallbacks.placeSize, hdepay] using hsize
        · refine .inr ⟨k + 1, by omega, ?_, ?_⟩
          · rw [← hnone]
            unfold uint16Inc
            congr 1
            omega
          · rw [hindex']
            unfold uint16Inc
            omega

theorem Walk.exists_packet (w : Walk cb jb₀ stale cur rest s) (hsize : s.curFrameSize ≠ 0) :
    ∃ p, some p ∈ cur := by
  by_contra hnone
  have hzero : ∀ o ∈ cur, cb.placeSize o = 0 := by
    intro o ho
    cases o with
    | none => rfl
    | some p => exact absurd ⟨p, ho⟩ hnone
  have htotal : totalSize cb cur = 0 := by
    rw [totalSize, List.map_congr_left fun o ho => by rw [hzero o ho]]
    simp
  apply hsize
  rw [w.size, WindowFrame.size, ← UInt32.toNat_inj, toNat_addSizes, htotal]
  rfl

/-- **The call for the last frame of a closing buffer.** -/
theorem Walk.last_isFrame (w : Walk cb jb₀ stale cur [] s) (hm : Measured cb stale cur s)
    (hsize : s.curFrameSize ≠ 0) :
    ∀ c ∈ lastCalls s (closeLoop cb s.jb (dropCount s.startDropIndex s.lastNonNullIndex)
      s.startDropIndex 0), ∃ packets, c.IsFrame cb packets := by
  have hpacket := w.exists_packet hsize
  obtain ⟨m, hlen, hlast, -⟩ := w.last hpacket
  have hstored := hm.last hpacket
  have hstart : s.startDropIndex < 65536 := w.pos.startDropIndex ▸ w.pos.head_lt
  have hcount := s.jb.parseCount_lt
  have hcur : cur.length = s.jb.parseCount := by
    rw [← length_slots, w.slots, List.append_nil]
  have hn : dropCount s.startDropIndex s.lastNonNullIndex = m + 1 := by
    have hhead := w.pos.head_lt
    rw [hlast, w.pos.startDropIndex]
    unfold dropCount
    omega
  intro c hc
  rw [hn] at hc
  rcases hloop : closeLoop cb s.jb (m + 1) s.startDropIndex 0 with e | ⟨index, size⟩
  · rw [hloop, lastCalls] at hc
    exact absurd hc List.not_mem_nil
  · rw [hloop, lastCalls] at hc
    split_ifs at hc with hindex
    · obtain rfl := List.mem_singleton.mp hc
      rcases closeLoop_cases hstart hloop with ⟨packets, hplaces, hall, rfl⟩ | ⟨k, hk, hnone, rfl⟩
      · rw [hlast]
        refine ⟨packets, w.isFrame hlen ?_ hall ?_⟩
        · rw [← w.places hlen, hplaces]
        · rw [toNat_addSizes]
          simp
      · -- the loop stops at an empty place, which is then not the last stored one
        rw [hlast, w.pos.startDropIndex] at hindex
        have hk : k = m := by
          unfold uint16Dec at hindex
          omega
        rw [hlast, ← hk, ← w.pos.startDropIndex] at hstored
        exact absurd hnone hstored
    · exact absurd hc List.not_mem_nil

/-! ### The whole parse -/

/-- **The calls of a parse are for frames.** -/
theorem parseCalls_isFrame (hhead : jb.headSequenceNumber < 65536)
    (htail : jb.tailSequenceNumber < 65536) :
    ∀ c ∈ parseCalls cb jb bufferClosed, ∃ packets, c.IsFrame cb packets := by
  have hrun := (Walk.init hhead htail).run (measured_init cb jb) bufferClosed
    jb.earliestAllowedTimestamp
  rw [length_slots] at hrun
  obtain ⟨hloop, hclose⟩ := hrun
  intro c hc
  unfold parseCalls at hc
  split_ifs at hc
  · exact absurd hc List.not_mem_nil
  · rcases List.mem_append.mp hc with hc | hc
    · exact hloop c hc
    · cases hflow : parseLoop cb bufferClosed jb.earliestAllowedTimestamp jb.parseCount
          jb.parseInit with
      | cleanUp status jb' =>
        rw [hflow] at hc
        exact absurd hc List.not_mem_nil
      | next s => exact absurd hflow (parseLoop_ne_next _ _)
      | stop s =>
        rw [hflow] at hc
        dsimp only at hc
        split_ifs at hc with hclosed
        · obtain ⟨stale, cur, w, hm⟩ := hclose hclosed.1 s hflow
          exact w.last_isFrame hm hclosed.2 c hc
        · exact absurd hc List.not_mem_nil

/-! ### Filling the frame -/

@[simp] theorem storeBytes_nil (frame : Nat → UInt8) (offset : Nat) :
    storeBytes frame offset [] = frame := by
  ext i
  simp [storeBytes]

theorem storeBytes_append (frame : Nat → UInt8) (offset : Nat) (a b : List UInt8) :
    storeBytes (storeBytes frame offset a) (offset + a.length) b = storeBytes frame offset
    (a ++ b) := by
  ext i
  unfold storeBytes
  by_cases hi : offset ≤ i
  · by_cases ha : offset + a.length ≤ i
    · have hsub : i - (offset + a.length) = i - offset - a.length := by omega
      rw [if_pos ha, if_pos hi, if_pos hi, List.getElem?_append_right (by omega), hsub,
        List.getElem?_eq_none (by omega : a.length ≤ i - offset), Option.getD_none]
    · rw [if_neg ha, if_pos hi, if_pos hi, List.getElem?_append_left (by omega)]
  · rw [if_neg (by omega), if_neg hi, if_neg hi]

/-- Where it measures a packet, the depayloader fills in that many bytes, given the room. -/
def Agrees (cb : JbCallbacks) (fill : DepayFillFn) : Prop :=
  ∀ payload payloadLength size isStart room,
    cb.depayPayloadFn payload payloadLength = .ok (size, isStart) → size ≤ room →
    ∃ bytes : List UInt8, bytes.length = size.toNat ∧
      fill payload payloadLength room = ⟨.success, size, bytes⟩

variable {fill : DepayFillFn}

/-- **The loop of `jitterBufferFillFrameData`** depayloads the packets one behind the other. -/
theorem fillLoop_eq (hagree : Agrees cb fill) (hindex : index < 65536)
    (hstored : jb.places index packets.length = packets.map some)
    (hdepay : ∀ p ∈ packets, Depayed cb p) (s : FillState)
    (hroom : totalSize cb (packets.map some) ≤ s.remainingFrameSize.toNat) :
    ∃ (bytes : List UInt8) (remaining : UInt32),
      bytes.length = totalSize cb (packets.map some) ∧
      remaining.toNat + totalSize cb (packets.map some) = s.remainingFrameSize.toNat ∧
      fillLoop fill jb packets.length index s =
        (.success, ⟨s.curPtrInFrame + totalSize cb (packets.map some), remaining,
          storeBytes s.frame s.curPtrInFrame bytes, s.visited ++ packets⟩) := by
  induction packets generalizing index s with
  | nil => exact ⟨[], s.remainingFrameSize, rfl, by simp [totalSize], by simp [fillLoop, totalSize]⟩
  | cons p packets ih =>
    rw [List.length_cons, places_succ hindex, List.map_cons] at hstored
    obtain ⟨hp, hrest⟩ := List.cons.inj hstored
    have htotal : totalSize cb ((p :: packets).map some) =
        (cb.placeSize (some p)).toNat + totalSize cb (packets.map some) := rfl
    rw [htotal] at hroom ⊢
    obtain ⟨isStart, hsize⟩ := hdepay p List.mem_cons_self
    have hle : cb.placeSize (some p) ≤ s.remainingFrameSize := by
      rw [UInt32.le_iff_toNat_le]
      omega
    obtain ⟨bytes, hbytes, hfill⟩ := hagree _ _ _ _ _ hsize hle
    have hsub := UInt32.toNat_sub_of_le _ _ hle
    have hnext : uint16Inc index < 65536 := Nat.mod_lt _ (by decide)
    obtain ⟨more, remaining, hmore, hremaining, hloop⟩ :=
      ih hnext hrest (fun q hq => hdepay q (List.mem_cons_of_mem _ hq))
        ⟨s.curPtrInFrame + (cb.placeSize (some p)).toNat, s.remainingFrameSize - cb.placeSize
        (some p), storeBytes s.frame s.curPtrInFrame bytes, s.visited ++ [p]⟩
        (by dsimp only; omega)
    refine ⟨bytes ++ more, remaining, ?_, ?_, ?_⟩
    · rw [List.length_append, hbytes, hmore]
    · dsimp only at hremaining
      omega
    · rw [List.length_cons, fillLoop, hp]
      dsimp only
      rw [hfill]
      dsimp only
      rw [hloop, ← hbytes, storeBytes_append, hbytes]
      simp [Nat.add_assoc]

/-- `jitterBufferFillFrameData` on the range of the call and with a buffer of its size depayloads
the packets, in order, and fills the buffer. -/
def ReadyCall.FillsExactly (c : ReadyCall) (fill : DepayFillFn) (packets : List RtpPacket) : Prop :=
  ∀ frame, ∃ bytes : List UInt8, bytes.length = c.frameSize.toNat ∧
    jitterBufferFillFrameData fill c.jb frame c.frameSize c.startIndex c.endIndex =
      ⟨.success, c.frameSize, storeBytes frame 0 bytes, packets⟩

theorem ReadyCall.IsFrame.fillsExactly {c : ReadyCall} (h : c.IsFrame cb packets)
    (hagree : Agrees cb fill) (hsmall : totalSize cb (packets.map some) < 2 ^ 32) :
    c.FillsExactly fill packets := by
  intro frame
  have hsize : c.frameSize.toNat = totalSize cb (packets.map some) := by
    rw [h.frameSize, Nat.mod_eq_of_lt hsmall]
  have hstored := h.stored
  rw [map_seqRange] at hstored
  have hlen : seqDist c.startIndex c.endIndex + 1 = packets.length := by
    simpa [places] using congrArg List.length hstored
  have hnotFull : ¬ FullRange c.startIndex c.endIndex := by
    have hlt := h.length_lt
    have hstart := h.startIndex_lt
    unfold FullRange uint16Dec
    unfold seqDist at hlen
    omega
  rw [hlen] at hstored
  obtain ⟨bytes, remaining, hbytes, hremaining, hloop⟩ :=
    fillLoop_eq hagree h.startIndex_lt hstored h.depayed ⟨0, c.frameSize, frame, []⟩
      (Nat.le_of_eq hsize.symm)
  have hzero : remaining = 0 := by
    rw [← UInt32.toNat_inj]
    dsimp only at hremaining
    rw [hsize] at hremaining
    simpa using hremaining
  refine ⟨bytes, hbytes.trans hsize.symm, ?_⟩
  rw [jitterBufferFillFrameData, dropCount_of_not_full h.startIndex_lt h.endIndex_lt hnotFull, hlen,
    hloop, hzero]
  simp

/-- A state in which the buffer is parsed has its window between sequence numbers. -/
theorem Reachable.window (h : Reachable cb jb) :
    jb.headSequenceNumber < 65536 ∧ jb.tailSequenceNumber < 65536 := by
  obtain ⟨maxLatency, clockRate, jb₀, l, hcreate, hjb⟩ := h
  obtain ⟨L, c, rfl, -, -⟩ := createJitterBuffer_ok hcreate
  have hall := @Stores.pushAll cb _ _ (stores_empty L c) l
  rcases hjb with rfl | ⟨p, rfl⟩
  · exact ⟨hall.head_lt, hall.tail_lt⟩
  · exact ⟨(hall.pushAccept p).head_lt, (hall.pushAccept p).tail_lt⟩

/-- **The frames a parse reports ready**, in any state and whatever the callbacks answer: the range
of each call holds packets of one timestamp and no gap, and the size is their sum in 32 bits.  Where
the sum fits, filling the frame visits these packets and fills it. -/
theorem ready_frames (hjb : Reachable cb jb) (bufferClosed : Bool) :
    readyEvents (jitterBufferInternalParse cb jb bufferClosed).2.trace =
        readyEvents jb.trace ++ (parseCalls cb jb bufferClosed).map ReadyCall.event ∧
      ∀ c ∈ parseCalls cb jb bufferClosed, ∃ packets, c.IsFrame cb packets ∧
        (totalSize cb (packets.map some) < 2 ^ 32 → ∀ fill, Agrees cb fill →
          c.FillsExactly fill packets) := by
  obtain ⟨hhead, htail⟩ := hjb.window
  refine ⟨readyEvents_parse cb jb bufferClosed, fun c hc => ?_⟩
  obtain ⟨packets, hframe⟩ := parseCalls_isFrame hhead htail c hc
  exact ⟨packets, hframe, fun hsmall fill hagree => hframe.fillsExactly hagree hsmall⟩

/-- The buffer with a frame of two packets when the first packet of the next one was accepted. -/
def twoPacketFrame (cb : JbCallbacks) : JitterBuffer :=
  ((pushAll cb (.empty 180000 90000) [markedPacket 1 10 200 true,
  markedPacket 2 11 200 false]).pushAccept
    (markedPacket 3 12 300 true)).2

theorem reachable_twoPacketFrame (cb : JbCallbacks) : Reachable cb (twoPacketFrame cb) :=
  ⟨20000000, 90000, _, _, rfl, .inr ⟨_, rfl⟩⟩

/-- A depayloader that copies the byte of a `markedPacket`. -/
def markFill : DepayFillFn := fun payload _ room =>
  if 1 ≤ room then ⟨.success, 1, [payload.headD 0]⟩ else ⟨.bufferTooSmall, 0, []⟩

theorem agrees_markFill : Agrees markCallbacks markFill := by
  intro payload payloadLength size isStart room hsize hroom
  obtain ⟨rfl, -⟩ := Prod.mk.inj (Except.ok.inj hsize)
  exact ⟨[payload.headD 0], rfl, if_pos hroom⟩

theorem ready_frames_twoPacketFrame :
    Agrees markCallbacks markFill ∧
      readyEvents (jitterBufferInternalParse markCallbacks (twoPacketFrame markCallbacks)
        false).2.trace = readyEvents (twoPacketFrame markCallbacks).trace ++
            (parseCalls markCallbacks (twoPacketFrame markCallbacks) false).map ReadyCall.event ∧
        ∀ c ∈ parseCalls markCallbacks (twoPacketFrame markCallbacks) false,
          ∃ packets, c.IsFrame markCallbacks packets ∧
            (totalSize markCallbacks (packets.map some) < 2 ^ 32 → ∀ fill,
              Agrees markCallbacks fill →
              c.FillsExactly fill packets) :=
  ⟨agrees_markFill, ready_frames (reachable_twoPacketFrame markCallbacks) false⟩

/-- A depayloader that gives each packet a size of 2^31. -/
def hugeCallbacks : JbCallbacks :=
  { markCallbacks with depayPayloadFn := fun payload _ => .ok (0x80000000, payload = [1]) }

/-- Two sizes of 2^31 are reported as 0. -/
theorem size_not_sum_hugeCallbacks :
    Reachable hugeCallbacks (twoPacketFrame hugeCallbacks) ∧
      ¬ ∀ c ∈ parseCalls hugeCallbacks (twoPacketFrame hugeCallbacks) false,
        c.frameSize.toNat = totalSize hugeCallbacks
          ((seqRange c.startIndex c.endIndex).map c.jb.pkgBufferHashTable) := by
  refine ⟨reachable_twoPacketFrame hugeCallbacks, fun hall => ?_⟩
  have hne : (parseCalls hugeCallbacks (twoPacketFrame hugeCallbacks) false).all (fun c =>
      c.frameSize.toNat == totalSize hugeCallbacks
        ((seqRange c.startIndex c.endIndex).map c.jb.pkgBufferHashTable)) = false := by
        decide +kernel
  obtain ⟨c, hc, hsize⟩ := List.all_eq_false.mp hne
  exact hsize (beq_iff_eq.mpr (hall c hc))

end KvsWebrtc.JitterBuffer
