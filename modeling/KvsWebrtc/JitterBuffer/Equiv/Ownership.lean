import KvsWebrtc.JitterBuffer.Equiv.Latency

/-!
# Who owns a packet

`Owned handed jb`: every packet handed to the buffer is stored in the table and not freed, or not
stored and freed exactly once.  Storing, discarding, moving the head and dropping a range keep it,
so pushing and closing do, whatever the callbacks answer (`Owned.push`, `Owned.free`).

`freeJitterBuffer` relies on its parse to empty the table, because its own sweep from 0 to 65535
does nothing (`sweep_table`).  `Closable` says when the parse does.
-/

namespace KvsWebrtc.JitterBuffer

open WindowFrame

def freedCount (jb : JitterBuffer) (addr : Nat) : Nat := jb.trace.count (.packetFreed addr)

/-- The packets `handed` to the buffer are distinct allocations, each stored under its sequence
number and not freed, or not stored and freed exactly once. -/
structure Owned (handed : List RtpPacket) (jb : JitterBuffer) : Prop where
  distinct : ∀ p ∈ handed, ∀ q ∈ handed, p.addr = q.addr → p = q
  stored : ∀ x q, jb.pkgBufferHashTable x = some q → q ∈ handed ∧ q.seq = x
  freed : ∀ p ∈ handed,
    jb.freedCount p.addr = if jb.pkgBufferHashTable p.seq = some p then 0 else 1
  fresh : ∀ addr, (∀ p ∈ handed, p.addr ≠ addr) → jb.freedCount addr = 0

variable {cb : JbCallbacks} {handed : List RtpPacket} {jb jb₀ jb' : JitterBuffer} {p : RtpPacket}

theorem owned_empty (L c : Nat) : Owned [] (JitterBuffer.empty L c) :=
  { distinct := fun p hp => absurd hp List.not_mem_nil
    stored := fun x q hq => by cases hq
    freed := fun p hp => absurd hp List.not_mem_nil
    fresh := fun _ _ => rfl }

/-- Ownership is about the table and the trace only. -/
theorem Owned.congr (h : Owned handed jb) (htable : jb'.pkgBufferHashTable = jb.pkgBufferHashTable)
    (htrace : jb'.trace = jb.trace) : Owned handed jb' := by
  have hcount : ∀ addr, jb'.freedCount addr = jb.freedCount addr := by
    intro addr
    unfold freedCount
    rw [htrace]
  exact
    { distinct := h.distinct
      stored := by rw [htable]; exact h.stored
      freed := by
        intro p hp
        rw [htable, hcount]
        exact h.freed p hp
      fresh := by
        intro addr haddr
        rw [hcount]
        exact h.fresh addr haddr }

theorem freedCount_emit (jb : JitterBuffer) (addr addr' : Nat) :
    (jb.emit (.packetFreed addr)).freedCount addr' =
      jb.freedCount addr' + if addr = addr' then 1 else 0 := by
  unfold freedCount emit
  rw [List.count_append, List.count_singleton]
  simp

theorem Owned.report (h : Owned handed jb) {e : JbEvent} (he : e.isFrame = true) :
    Owned handed (jb.emit e) := by
  have hcount : ∀ addr, (jb.emit e).freedCount addr = jb.freedCount addr := by
    intro addr
    unfold freedCount emit
    rw [List.count_append, List.count_singleton]
    cases e with
    | packetFreed a => cases he
    | frameReady a b size => rfl
    | frameDropped a b ts => rfl
  exact
    { distinct := h.distinct
      stored := h.stored
      freed := by
        intro p hp
        rw [hcount]
        exact h.freed p hp
      fresh := by
        intro addr haddr
        rw [hcount]
        exact h.fresh addr haddr }

theorem Owned.removeEntry (h : Owned handed jb) (index : Nat) :
    Owned handed (jb.removeEntry index) := by
  cases hq : jb.pkgBufferHashTable index with
  | none =>
    have hsame : jb.removeEntry index = jb := by
      unfold JitterBuffer.removeEntry
      rw [hq]
    rw [hsame]
    exact h
  | some q =>
    have htable := removeEntry_table jb index
    -- one packet is freed, and its entry is the one that is cleared
    have hcount : ∀ addr, (jb.removeEntry index).freedCount addr =
        jb.freedCount addr + if q.addr = addr then 1 else 0 := by
      intro addr
      rw [← freedCount_emit]
      unfold JitterBuffer.removeEntry freedCount
      rw [hq]
    obtain ⟨hmem, hseq⟩ := h.stored index q hq
    refine
      { distinct := h.distinct
        stored := fun x r hr => ?_
        freed := fun r hr => ?_
        fresh := fun addr haddr => ?_ }
    · rw [htable] at hr
      by_cases hx : x = index
      · rw [hx, Function.update_self] at hr
        cases hr
      · rw [Function.update_of_ne hx] at hr
        exact h.stored x r hr
    · rw [hcount, htable, h.freed r hr]
      by_cases hrq : r = q
      · -- the packet that is freed was stored
        subst hrq
        rw [hseq, hq, Function.update_self]
        simp
      · have haddr : q.addr ≠ r.addr := fun heq => hrq (h.distinct q hmem r hr heq).symm
        by_cases hx : r.seq = index
        · rw [hx, hq, Function.update_self]
          simp [haddr, Ne.symm hrq]
        · rw [Function.update_of_ne hx, if_neg haddr]
          rfl
    · rw [hcount, h.fresh addr haddr, if_neg (haddr q hmem)]

theorem Owned.dropLoop (h : Owned handed jb) (n index : Nat) :
    Owned handed (dropLoop n index jb) := by
  induction n generalizing index jb with
  | zero => exact h
  | succ n ih => exact ih (h.removeEntry index) (uint16Inc index)

theorem Owned.dropBufferData (h : Owned handed jb) (startIndex endIndex nextTimestamp : Nat) :
    Owned handed (jb.jitterBufferDropBufferData startIndex endIndex nextTimestamp) := by
  obtain ⟨htable, htrace⟩ := table_of_eq
    (jitterBufferDropBufferData_eq jb startIndex endIndex nextTimestamp)
  exact (h.dropLoop _ _).congr htable htrace

theorem Owned.moveHead (h : Owned handed jb) {e : JbEvent} (he : e.isFrame = true) (k : Nat)
    (p : RtpPacket) : Owned handed (jb.moveHead k p e) := by
  unfold JitterBuffer.moveHead
  exact ((h.report he).dropBufferData _ _ _).congr (processed_table _) (processed_trace _)

/-! ### Accepting a packet -/

def IsNew (handed : List RtpPacket) (p : RtpPacket) : Prop := ∀ q ∈ handed, q.addr ≠ p.addr

theorem Owned.distinct_append (h : Owned handed jb) (hnew : IsNew handed p) :
    ∀ q ∈ handed ++ [p], ∀ r ∈ handed ++ [p], q.addr = r.addr → q = r := by
  intro q hq r hr heq
  rw [List.mem_append, List.mem_singleton] at hq hr
  rcases hq with hq | rfl
  · rcases hr with hr | rfl
    · exact h.distinct q hq r hr heq
    · exact absurd heq (hnew q hq)
  · rcases hr with hr | rfl
    · exact absurd heq.symm (hnew r hr)
    · rfl

theorem Owned.not_stored (h : Owned handed jb) (hnew : IsNew handed p) (x : Nat) :
    jb.pkgBufferHashTable x ≠ some p :=
  fun hx => hnew p (h.stored x p hx).1 rfl

theorem Owned.discard (h : Owned handed jb) (hnew : IsNew handed p) :
    Owned (handed ++ [p]) (jb.emit (.packetFreed p.addr)) := by
  refine
    { distinct := h.distinct_append hnew
      stored := fun x q hq => ⟨List.mem_append_left _ (h.stored x q hq).1, (h.stored x q hq).2⟩
      freed := fun q hq => ?_
      fresh := fun addr haddr => ?_ }
  · rw [freedCount_emit, emit_table]
    rcases List.mem_append.mp hq with hq | hq
    · rw [h.freed q hq, if_neg (Ne.symm (hnew q hq))]
      rfl
    · obtain rfl := List.mem_singleton.mp hq
      rw [h.fresh q.addr hnew, if_pos rfl, if_neg (h.not_stored hnew _)]
  · rw [freedCount_emit, if_neg (haddr p (by simp)),
      h.fresh addr fun q hq => haddr q (List.mem_append_left _ hq)]

theorem Owned.store (h : Owned handed jb) (hnew : IsNew handed p) :
    Owned (handed ++ [p]) (jb.pushStore p) := by
  have h' := h.removeEntry p.seq
  have htable := pushStore_table jb p
  have htable' := removeEntry_table jb p.seq
  have hcount : ∀ addr, (jb.pushStore p).freedCount addr =
      (jb.removeEntry p.seq).freedCount addr := by
    intro addr
    unfold freedCount
    rw [pushStore_trace]
  refine
    { distinct := h.distinct_append hnew
      stored := fun x q hq => ?_
      freed := fun q hq => ?_
      fresh := fun addr haddr => ?_ }
  · rw [htable] at hq
    by_cases hx : x = p.seq
    · rw [hx, Function.update_self] at hq
      obtain rfl := Option.some.inj hq
      exact ⟨by simp, hx.symm⟩
    · rw [Function.update_of_ne hx] at hq
      exact ⟨List.mem_append_left _ (h.stored x q hq).1, (h.stored x q hq).2⟩
  · rw [hcount, htable]
    rcases List.mem_append.mp hq with hq | hq
    · rw [h'.freed q hq, htable']
      by_cases hx : q.seq = p.seq
      · -- the packet that `p` replaces is gone in both tables
        have hne : p ≠ q := fun heq => hnew q hq (by rw [heq])
        rw [hx, Function.update_self, Function.update_self]
        simp [hne]
      · rw [Function.update_of_ne hx, Function.update_of_ne hx]
    · obtain rfl := List.mem_singleton.mp hq
      rw [Function.update_self, if_pos rfl]
      exact h'.fresh q.addr hnew
  · rw [hcount]
    exact h'.fresh addr fun q hq => haddr q (List.mem_append_left _ hq)

theorem Owned.pushAccept (h : Owned handed jb) (hnew : IsNew handed p) :
    Owned (handed ++ [p]) (jb.pushAccept p).2 := by
  rcases pushAccept_cases jb p with ⟨jb₁, t, heq⟩ | ⟨jb₁, jb₂, t, t', heq⟩
  · rw [heq]
    exact (h.congr t.table t.trace).discard hnew
  · rw [heq]
    exact ((h.congr t.table t.trace).store hnew).congr t'.table t'.trace

/-- **A push keeps the books**, whatever the callbacks answer. -/
theorem Owned.push {l : List RtpPacket} (h : Owned handed jb) (hl : Stores l jb)
    (hnew : IsNew handed p) : Owned (handed ++ [p]) (jitterBufferPush cb jb p).jb := by
  have hstores := hl.pushAccept p
  rw [jitterBufferPush_jb]
  apply parse_induction (I := Owned (handed ++ [p])) _ _ hstores.head_lt hstores.tail_lt
    (h.pushAccept hnew)
  · intro jb e h he
    exact h.report he
  · intro jb k q e h _ _ he _ _
    exact h.moveHead he k q

theorem Owned.pushAll (h : Owned handed jb) (hl : Stores handed jb) {l : List RtpPacket}
    (hnew : ∀ p ∈ l, IsNew handed p) (hpair : l.Pairwise fun p q => p.addr ≠ q.addr) :
    Owned (handed ++ l) (pushAll cb jb l) := by
  induction l generalizing handed jb with
  | nil => rwa [List.append_nil]
  | cons p l ih =>
    have hp := hnew p List.mem_cons_self
    obtain ⟨hfirst, hpair⟩ := List.pairwise_cons.mp hpair
    have hl' := @Stores.parse cb _ _ (hl.pushAccept p)
    rw [← jitterBufferPush_jb] at hl'
    have hnext := ih (h.push hl hp) hl' ?_ hpair
    · rwa [List.append_assoc, ← pushAll_cons] at hnext
    · intro q hq r hr
      rcases List.mem_append.mp hr with hr | hr
      · exact hnew q (List.mem_cons_of_mem _ hq) r hr
      · obtain rfl := List.mem_singleton.mp hr
        exact hfirst q hq

/-- The parse loop returns no error if no callback does. -/
theorem Settles.status {l : List RtpPacket} {bufferClosed stale : Bool} {earliest : Nat}
    {fs : List WindowFrame} {flow : ParseFlow} (hl : Stores l jb₀) (hcb : Succeeds cb l)
    (h : Settles cb bufferClosed earliest jb₀ stale fs jb flow) :
    (∃ s, flow = .stop s) ∨ ∃ jb', flow = .cleanUp .success jb' := by
  induction h with
  | last w => exact .inl ⟨_, rfl⟩
  | wait hholds hgap hage => exact .inr ⟨_, rfl⟩
  | stop hholds hd hage hjb => exact .inl ⟨_, rfl⟩
  | depayFailed hholds hp hdepay =>
    obtain ⟨r, hr⟩ := hcb.depay _ (hholds.stored_of_mem hl hp)
    rw [hr] at hdepay
    cases hdepay
  | readyFailed hholds hd hready => exact absurd (hcb.ready _ _ _ _) hready
  | deliver hholds hd hlen _ ih => exact ih
  | drop hholds hd hage hlen _ ih => exact ih

/-- A push returns no error if no callback does. -/
theorem push_status {l : List RtpPacket} (hl : Stores l jb) (hcb : Succeeds cb (l ++ [p])) :
    (jitterBufferPush cb jb p).status = .success := by
  have hstores := hl.pushAccept p
  have hparse : (jitterBufferInternalParse cb (jb.pushAccept p).2 false).1 = .success := by
    generalize (jb.pushAccept p).2 = accepted at hstores
    have hsettles := @parseLoop_settles cb false false accepted.earliestAllowedTimestamp accepted
      accepted.parseInit [] accepted.slots (Walk.init hstores.head_lt hstores.tail_lt)
    rw [length_slots] at hsettles
    unfold jitterBufferInternalParse
    split_ifs
    · rfl
    · rcases hsettles.status hstores hcb with ⟨s, hflow⟩ | ⟨jb', hflow⟩
      · rw [hflow]
        rfl
      · rw [hflow]
  rw [← hparse]
  unfold jitterBufferPush
  obtain ⟨discarded, jb'⟩ := jb.pushAccept p
  dsimp only

/-! ### Closing the buffer -/

section Induction

variable {I : JitterBuffer → Prop}
  (hreport : ∀ jb e, I jb → e.isFrame = true → I (jb.emit e))
  (hdrop : ∀ jb startIndex endIndex nextTimestamp, I jb →
    I (jb.jitterBufferDropBufferData startIndex endIndex nextTimestamp))

include hreport hdrop

theorem parseLastFrame_induction {s : ParseState} (h : I s.jb) : I (parseLastFrame cb s).2 := by
  rw [parseLastFrame]
  rcases closeLoop cb s.jb (dropCount s.startDropIndex s.lastNonNullIndex) s.startDropIndex 0 with
    e | ⟨index, size⟩
  · exact h
  · dsimp only
    split_ifs
    · have hready := hreport _ (.frameReady s.startDropIndex s.lastNonNullIndex size) h rfl
      split
      · exact hdrop _ _ _ _ hready
      · exact hready
    · have hdropped := hreport _
        (.frameDropped s.startDropIndex (uint16Dec index) s.jb.headTimestamp) h rfl
      split
      · exact hdrop _ _ _ _ hdropped
      · exact hdropped

/-- **What reports and drops preserve, closing the buffer preserves.** -/
theorem free_induction
    (hadvance : ∀ jb k p e, I jb → e.isFrame = true → I (jb.moveHead k p e))
    (h1 : jb.headSequenceNumber < 65536) (h2 : jb.tailSequenceNumber < 65536) (h : I jb) :
    I (freeJitterBuffer cb jb) := by
  have hparse : I (jitterBufferInternalParse cb jb true).2 := by
    have hloop : I (parseLoop cb true jb.earliestAllowedTimestamp jb.parseCount
        jb.parseInit).jb :=
      (parseLoop_induction hreport (fun jb k p e h _ _ he _ _ => hadvance jb k p e h he)
        jb.parseCount (parsePos_init h1 h2) h).1
    unfold jitterBufferInternalParse
    split_ifs with hzero
    · exact h
    · generalize parseLoop cb true jb.earliestAllowedTimestamp jb.parseCount jb.parseInit = flow
        at hloop
      cases flow with
      | cleanUp status jb' => exact hloop
      | next s =>
        dsimp only
        split_ifs
        · exact parseLastFrame_induction hreport hdrop hloop
        · exact hloop
      | stop s =>
        dsimp only
        split_ifs
        · exact parseLastFrame_induction hreport hdrop hloop
        · exact hloop
  unfold freeJitterBuffer
  exact hdrop _ _ _ _ hparse

end Induction

/-- **Closing the buffer keeps the books**, whatever the callbacks answer. -/
theorem Owned.free {l : List RtpPacket} (h : Owned handed jb) (hl : Stores l jb) :
    Owned handed (freeJitterBuffer cb jb) := by
  apply free_induction (I := Owned handed) _ _ _ hl.head_lt hl.tail_lt h
  · intro jb e h he
    exact h.report he
  · intro jb a b ts h
    exact h.dropBufferData a b ts
  · intro jb k q e h he
    exact h.moveHead he k q

theorem free_table_of_empty {l : List RtpPacket} (hl : Stores l jb)
    (h : ∀ x, jb.pkgBufferHashTable x = none) (x : Nat) :
    (freeJitterBuffer cb jb).pkgBufferHashTable x = none := by
  revert x
  apply free_induction (I := fun jb => ∀ x, jb.pkgBufferHashTable x = none) _ _ _ hl.head_lt
    hl.tail_lt h
  · intro jb e h _
    exact h
  · intro jb a b ts h x
    by_contra hne
    rw [jitterBufferDropBufferData_table_of_ne_none jb hne] at hne
    exact hne (h x)
  · intro jb k p e h _ x
    by_contra hne
    rw [moveHead_table_of_ne_none jb k p e hne] at hne
    exact hne (h x)

/-- Every stored packet lies in the window that a parse reads. -/
def InWindow (jb : JitterBuffer) : Prop :=
  ∀ x, jb.pkgBufferHashTable x ≠ none → x < 65536 ∧ seqDist jb.headSequenceNumber x < jb.parseCount

/-- Closing the buffer empties the table: nothing is stored, or the parse reads all that is stored,
is not stopped by tail timestamp 0, and the last frame has a size. -/
def Closable (cb : JbCallbacks) (jb : JitterBuffer) : Prop :=
  (∀ x, jb.pkgBufferHashTable x = none) ∨
    (jb.tailTimestamp ≠ 0 ∧ InWindow jb ∧ ∀ f ∈ jb.frames.getLast?, f.size cb ≠ 0)

theorem inWindow_of_stores {l : List RtpPacket} (hl : Stores l jb)
    (h : ∀ q ∈ l, jb.pkgBufferHashTable q.seq = some q →
      seqDist jb.headSequenceNumber q.seq < jb.parseCount) : InWindow jb := by
  intro x hx
  obtain ⟨q, hq⟩ := Option.ne_none_iff_exists'.mp hx
  obtain ⟨hmem, rfl⟩ := hl.stored x q hq
  exact ⟨q.seq_lt, h q hmem hq⟩

/-- The sweep of `freeJitterBuffer` over all sequence numbers removes nothing: its loop ends before
its first iteration. -/
theorem sweep_table (jb : JitterBuffer) (nextTimestamp : Nat) :
    (jb.jitterBufferDropBufferData 0 maxRtpSequenceNum nextTimestamp).pkgBufferHashTable =
      jb.pkgBufferHashTable :=
  (table_of_eq (jitterBufferDropBufferData_eq jb 0 maxRtpSequenceNum nextTimestamp)).1

theorem InWindow.moveHead {k : Nat} {e : JbEvent} (h : InWindow jb)
    (h1 : jb.headSequenceNumber < 65536) (hk : k < jb.parseCount) :
    InWindow (jb.moveHead k p e) := by
  have hlt := jb.parseCount_lt
  obtain ⟨hhead, -, -, -, hcount⟩ := moveHead_fields jb k p e hk h1
  intro x hx
  have hx' := hx
  rw [moveHead_table_of_ne_none jb k p e hx] at hx'
  obtain ⟨hlt', hin⟩ := h x hx'
  refine ⟨hlt', ?_⟩
  rw [moveHead_table jb k p e (by omega) h1 hlt'] at hx
  have hge : ¬ seqDist jb.headSequenceNumber x < k := fun h => hx (if_pos h)
  rw [hhead, hcount]
  unfold seqDist at hin hge ⊢
  omega

/-- The parse loop of a closing buffer reads the whole window and ends in its last frame. -/
theorem Settles.close {l : List RtpPacket} {stale : Bool} {earliest : Nat} {fs : List WindowFrame}
    {flow : ParseFlow} (hl : Stores l jb₀) (hcb : Succeeds cb l)
    (h : Settles cb true earliest jb₀ stale fs jb flow) (hin : InWindow jb) :
    ∃ s stale' cur, flow = .stop s ∧ Walk cb jb₀ stale' cur [] s ∧
      fs.getLast? = some ⟨s.jb.headTimestamp, cur⟩ ∧ InWindow s.jb := by
  have hclosed : ∀ jb : JitterBuffer, jb.Expired true earliest := fun jb => .inr rfl
  induction h with
  | last w => exact ⟨_, _, _, rfl, w, rfl, hin⟩
  | wait hholds hgap hage => exact absurd (hclosed _) hage
  | stop hholds hd hage hjb => exact absurd (hclosed _) hage
  | depayFailed hholds hp hdepay =>
    obtain ⟨r, hr⟩ := hcb.depay _ (hholds.stored_of_mem hl hp)
    rw [hr] at hdepay
    cases hdepay
  | readyFailed hholds hd hready => exact absurd (hcb.ready _ _ _ _) hready
  | deliver hholds hd hlen _ ih =>
    obtain ⟨s, stale', cur, hflow, w, hlast, hin'⟩ := ih (hin.moveHead hholds.head_lt hlen)
    exact ⟨s, stale', cur, hflow, w, by rw [List.getLast?_cons_cons]; exact hlast, hin'⟩
  | drop hholds hd hage hlen _ ih =>
    obtain ⟨s, stale', cur, hflow, w, hlast, hin'⟩ := ih (hin.moveHead hholds.head_lt hlen)
    exact ⟨s, stale', cur, hflow, w, by rw [List.getLast?_cons_cons]; exact hlast, hin'⟩

theorem closeLoop_ok (hdepay : ∀ x p, jb.pkgBufferHashTable x = some p → ∃ r, cb.depay p = .ok r)
    (n index : Nat) (size : UInt32) : ∃ r, closeLoop cb jb n index size = .ok r := by
  induction n generalizing index size with
  | zero => exact ⟨_, rfl⟩
  | succ n ih =>
    rw [closeLoop]
    cases hp : jb.pkgBufferHashTable index with
    | none => exact ⟨_, rfl⟩
    | some p =>
      obtain ⟨⟨partialFrameSize, isStart⟩, hr⟩ := hdepay index p hp
      simp only [hr]
      exact ih _ _

/-- The last frame of a closing buffer leaves the table up to its last stored packet. -/
theorem parseLastFrame_table {s : ParseState}
    (hready : ∀ trace a b size, cb.onFrameReadyFn trace a b size = .success)
    (hdropped : ∀ trace a b ts, cb.onFrameDroppedFn trace a b ts = .success)
    (hdepay : ∀ x p, s.jb.pkgBufferHashTable x = some p → ∃ r, cb.depay p = .ok r) :
    ∃ e, (parseLastFrame cb s).2 = (s.jb.emit e).jitterBufferDropBufferData s.startDropIndex
      s.lastNonNullIndex s.jb.headTimestamp := by
  obtain ⟨⟨index, size⟩, hr⟩ := closeLoop_ok hdepay
    (dropCount s.startDropIndex s.lastNonNullIndex) s.startDropIndex 0
  rw [parseLastFrame]
  rw [hr]
  dsimp only
  split_ifs
  · rw [hready]
    exact ⟨_, rfl⟩
  · rw [hdropped]
    exact ⟨_, rfl⟩

theorem Walk.dropped_all {stale : Bool} {cur : List (Option RtpPacket)} {s : ParseState}
    (w : Walk cb jb₀ stale cur [] s) (hin : InWindow s.jb) (e : JbEvent) (nextTimestamp x : Nat) :
    ((s.jb.emit e).jitterBufferDropBufferData s.startDropIndex s.lastNonNullIndex
      nextTimestamp).pkgBufferHashTable x = none := by
  by_contra hne
  have hkept := jitterBufferDropBufferData_table_of_ne_none (s.jb.emit e) hne
  rw [emit_table] at hkept
  obtain ⟨hx, hdist⟩ := hin x (by rwa [← hkept])
  have h1 := w.pos.head_lt
  have hlt := s.jb.parseCount_lt
  -- `x` is a stored place of the last frame, so it does not lie behind the last stored one
  obtain ⟨q, hq⟩ := Option.ne_none_iff_exists'.mp
    (by rwa [← hkept] : s.jb.pkgBufferHashTable x ≠ none)
  have hslot : s.jb.slot (seqDist s.jb.headSequenceNumber x) = some q := by
    have hback : (s.jb.headSequenceNumber + seqDist s.jb.headSequenceNumber x) % 65536 = x := by
      unfold seqDist
      omega
    rw [slot_eq, hback, hq]
  have hlen : cur.length = s.jb.parseCount := by
    rw [← length_slots, w.slots, List.append_nil]
  have hmem : some q ∈ cur := by
    have hget := getElem?_slots s.jb hdist
    rw [w.slots, List.append_nil, hslot] at hget
    exact List.mem_of_getElem? hget
  obtain ⟨m, hm, hlast, hnone⟩ := w.last ⟨q, hmem⟩
  have hle : seqDist s.jb.headSequenceNumber x ≤ m := by
    by_contra hgt
    have := hnone _ (by omega) (Nat.lt_of_not_le hgt)
    rw [hslot] at this
    cases this
  rw [jitterBufferDropBufferData_table _ _ _ (by rw [w.pos.startDropIndex]; exact h1) hx,
    w.pos.startDropIndex, hlast] at hne
  refine hne (if_pos ?_)
  unfold dropCount
  omega

/-- **Closing empties the table** of a buffer that can be closed. -/
theorem free_table {l : List RtpPacket} (hl : Stores l jb) (hcb : Succeeds cb l)
    (hdropped : ∀ trace a b ts, cb.onFrameDroppedFn trace a b ts = .success)
    (hclose : Closable cb jb) (x : Nat) : (freeJitterBuffer cb jb).pkgBufferHashTable x = none := by
  rcases hclose with hempty | ⟨hts, hin, hsize⟩
  · exact free_table_of_empty hl hempty x
  · unfold freeJitterBuffer
    rw [sweep_table]
    have hsettles := @parseLoop_settles cb true false jb.earliestAllowedTimestamp jb jb.parseInit
      [] jb.slots (Walk.init hl.head_lt hl.tail_lt)
    rw [length_slots] at hsettles
    obtain ⟨s, stale, cur, hflow, w, hlast, hin'⟩ := hsettles.close hl hcb hin
    have hcur : s.curFrameSize ≠ 0 := by
      rw [w.size]
      exact hsize _ hlast
    have hparse : (jitterBufferInternalParse cb jb true).2 = (parseLastFrame cb s).2 := by
      unfold jitterBufferInternalParse
      rw [if_neg hts, hflow]
      dsimp only
      rw [if_pos ⟨rfl, hcur⟩]
    have hdepay : ∀ x p, s.jb.pkgBufferHashTable x = some p → ∃ r, cb.depay p = .ok r := by
      intro x p hp
      obtain ⟨hx, hdist⟩ := hin' x (by rw [hp]; exact Option.some_ne_none p)
      have hback : (s.jb.headSequenceNumber + seqDist s.jb.headSequenceNumber x) % 65536 = x := by
        have := w.pos.head_lt
        unfold seqDist
        omega
      have hkept := w.kept _ hdist
      rw [slot_eq, hback, hp] at hkept
      exact hcb.depay p (hl.stored x p hkept.symm).1
    obtain ⟨e, hlastFrame⟩ := parseLastFrame_table hcb.ready hdropped hdepay
    rw [hparse, hlastFrame]
    exact w.dropped_all hin' e _ x

end KvsWebrtc.JitterBuffer
