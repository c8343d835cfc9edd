import KvsWebrtc.Common.Fifo
import KvsWebrtc.Crypto.IOBuffer

/-!
# The buffer of DTLS bytes is a queue

`Holds b q`: the buffer holds the queue `q`.  Each call keeps it (`ioBufferWrite_holds`,
`ioBufferRead_holds`), so the buffer refines a queue (`refines_queue`), and what holds along every
run follows from that.
-/

namespace KvsWebrtc.Crypto

/-- The allocations succeed. -/
structure Allocator.Succeeds (allocator : Allocator) : Prop where
  malloc : ∀ n, (allocator.malloc n).isSome
  realloc : ∀ raw n, (allocator.realloc raw n).isSome

def IOBufferCall.onQueue : IOBufferCall → Fifo.Call UInt8
  | .write _ pData => .push pData
  | .read bufferLen => .pop bufferLen
  | .reset => .clear

/-- The allocation of a write succeeds, and the bytes that it adds to those that are in the buffer,
the consumed ones included, are less than `2 ^ 32`. -/
def IOBufferCall.HasRoom (pBuffer : IOBuffer) : IOBufferCall → Prop
  | .write allocator pData => allocator.Succeeds ∧ pBuffer.len + pData.length < 2 ^ 32
  | .read _ | .reset => True

namespace IOBuffer

variable {b : IOBuffer} {q : List UInt8}

def unread (b : IOBuffer) : List UInt8 := (b.raw.take b.len).drop b.off

/-- The buffer holds the queue. -/
structure Holds (b : IOBuffer) (q : List UInt8) : Prop where
  off_le : b.off ≤ b.len
  len_le : b.len ≤ b.cap
  cap_lt : b.cap < 2 ^ 32
  length_raw : b.raw.length = b.cap
  unread_eq : b.unread = q

theorem Holds.length (h : Holds b q) : q.length = b.len - b.off := by
  have := h.len_le
  have := h.length_raw
  rw [← h.unread_eq, unread, List.length_drop, List.length_take]
  omega

theorem sub_mod {m n : Nat} (hle : m ≤ n) (hn : n < 2 ^ 32) :
    (n + 2 ^ 32 - m) % 2 ^ 32 = n - m := by
  rw [show n + 2 ^ 32 - m = n - m + 2 ^ 32 by omega, Nat.add_mod_right, Nat.mod_eq_of_lt (by omega)]

/-! ### The calls -/

theorem createIOBuffer_holds {allocator : Allocator} (ha : allocator.Succeeds) {initialCap : Nat}
    (hcap : initialCap < 2 ^ 32) :
    ∃ b, createIOBuffer allocator initialCap = .ok b ∧ Holds b [] := by
  rw [createIOBuffer]
  split
  · obtain ⟨raw, hraw⟩ := Option.isSome_iff_exists.mp (ha.malloc initialCap)
    rw [hraw]
    exact ⟨_, rfl, Nat.le_refl 0, Nat.zero_le _, hcap, allocator.length_malloc _ _ hraw, rfl⟩
  · exact ⟨_, rfl, Nat.le_refl 0, Nat.le_refl 0, by decide, rfl, rfl⟩

theorem ioBufferReset_holds (h : Holds b q) : Holds b.ioBufferReset [] :=
  ⟨Nat.le_refl 0, Nat.zero_le _, h.cap_lt, h.length_raw, rfl⟩

theorem copyIn_holds (h : Holds b q) {pData : List UInt8} (hroom : b.len + pData.length ≤ b.cap) :
    ∃ b', b.copyIn pData = (.ok (), b') ∧ Holds b' (q ++ pData) := by
  have hoff := h.off_le
  have hcap := h.cap_lt
  have hraw := h.length_raw
  have htake : (b.raw.take b.len).length = b.len := by
    rw [List.length_take]
    omega
  rw [copyIn, if_neg (by omega), Nat.mod_eq_of_lt (by omega)]
  refine ⟨_, rfl, Nat.le_add_right_of_le hoff, hroom, hcap, ?_, ?_⟩
  · show (b.raw.take b.len ++ pData ++ b.raw.drop (b.len + pData.length)).length = b.cap
    rw [List.length_append, List.length_append, htake, List.length_drop]
    omega
  · show ((b.raw.take b.len ++ pData ++ b.raw.drop _).take (b.len + pData.length)).drop b.off = _
    rw [List.take_left' (by rw [List.length_append, htake]),
      List.drop_append_of_le_length (by omega), ← h.unread_eq, unread]

theorem grow_holds (h : Holds b q) {allocator : Allocator} {raw : List UInt8} {newCap : Nat}
    (hraw : allocator.realloc b.raw newCap = some raw)
    (hgrow : b.cap ≤ newCap) (hcap : newCap < 2 ^ 32) :
    Holds { b with raw := raw, cap := newCap } q := by
  have hlen := h.len_le
  have hkept : raw.take b.len = b.raw.take b.len := by
    have hall := allocator.take_realloc _ _ _ hraw
    rw [h.length_raw, List.take_of_length_le (i := newCap)
      (by rw [h.length_raw]; exact hgrow)] at hall
    calc raw.take b.len =
      (raw.take b.cap).take b.len := by rw [List.take_take, Nat.min_eq_left hlen]
      _ = b.raw.take b.len := by rw [hall]
  refine ⟨h.off_le, Nat.le_trans hlen hgrow, hcap, allocator.length_realloc _ _ _ hraw, ?_⟩
  show (raw.take b.len).drop b.off = q
  rw [hkept]
  exact h.unread_eq

theorem ioBufferWrite_holds (h : Holds b q) {allocator : Allocator} (ha : allocator.Succeeds)
    {pData : List UInt8} (hroom : b.len + pData.length < 2 ^ 32) :
    ∃ b', b.ioBufferWrite allocator pData = (.ok (), b') ∧ Holds b' (q ++ pData) := by
  have hlen := h.len_le
  rw [ioBufferWrite, sub_mod hlen h.cap_lt, Nat.mod_eq_of_lt hroom]
  by_cases hfree : b.cap - b.len < pData.length
  · obtain ⟨raw, hraw⟩ := Option.isSome_iff_exists.mp (ha.realloc b.raw (b.len + pData.length))
    simp only [if_pos hfree, hraw]
    exact copyIn_holds (grow_holds h hraw (by omega) hroom) (Nat.le_refl _)
  · simp only [if_neg hfree]
    exact copyIn_holds h (by omega)

theorem ioBufferRead_holds (h : Holds b q) (bufferLen : Nat) :
    ∃ b', b.ioBufferRead bufferLen = (.ok (q.take bufferLen), b') ∧ Holds b'
    (q.drop bufferLen) := by
  have hoff := h.off_le
  have hlen := h.len_le
  have hcap := h.cap_lt
  have hraw := h.length_raw
  have hq := h.length
  have hout : (b.raw.drop b.off).take (min bufferLen (b.len - b.off)) = q.take bufferLen := by
    rw [← h.unread_eq, unread, List.drop_take, List.take_take]
  rw [ioBufferRead, sub_mod hoff (by omega)]
  simp only
  rw [if_neg (by omega), Nat.mod_eq_of_lt (by omega), hout]
  by_cases hall : b.off + min bufferLen (b.len - b.off) = b.len
  · -- everything is read, so that the cursors go back
    rw [if_pos hall, List.drop_eq_nil_of_le (by omega)]
    exact ⟨_, rfl, Nat.le_refl 0, Nat.zero_le _, hcap, hraw, rfl⟩
  · rw [if_neg hall]
    have hoff' : b.off + min bufferLen (b.len - b.off) ≤ b.len := by omega
    refine ⟨_, rfl, hoff', hlen, hcap, hraw, ?_⟩
    show (b.raw.take b.len).drop (b.off + min bufferLen (b.len - b.off)) = q.drop bufferLen
    have hmin : min bufferLen (b.len - b.off) = bufferLen := by omega
    rw [← h.unread_eq, unread, List.drop_drop, hmin]

/-! ### Runs -/

/-- **The buffer refines a queue of bytes.** -/
theorem refines_queue :
    Fifo.Refines IOBuffer.call IOBufferCall.onQueue Holds IOBufferCall.HasRoom := by
  intro b q c h hroom
  cases c with
  | write allocator pData =>
    obtain ⟨ha, hroom⟩ := hroom
    obtain ⟨b', hwrite, hb'⟩ := ioBufferWrite_holds h ha hroom
    refine ⟨b', ?_, hb'⟩
    show ((b.ioBufferWrite allocator pData).1.map (fun _ => []),
        (b.ioBufferWrite allocator pData).2) = _
    rw [hwrite]
    rfl
  | read bufferLen => exact ioBufferRead_holds h bufferLen
  | reset => exact ⟨_, rfl, ioBufferReset_holds h⟩

end IOBuffer

/-- A buffer, with the bytes that were written to it and read from it since the last reset. -/
abbrev Traffic := Fifo.Ledger IOBuffer UInt8

def Traffic.step : Traffic → IOBufferCall → Traffic :=
  Fifo.Ledger.step IOBuffer.call IOBufferCall.onQueue

def Traffic.start (b : IOBuffer) : Traffic := { state := b, pushed := [], popped := [] }

/-- Between two calls: the cursors are in order, and what was read is what was written first,
followed in the buffer by the rest. -/
structure Traffic.InOrder (t : Traffic) : Prop where
  off_le : t.state.off ≤ t.state.len
  len_le : t.state.len ≤ t.state.cap
  isPrefix : t.popped <+: t.pushed
  conserved : t.pushed = t.popped ++ t.state.unread

/-- What a call returns: a read the oldest of the bytes that were written and not read, as many as
were asked for and are there. -/
def Traffic.Answers (t : Traffic) : IOBufferCall → Prop
  | .write allocator pData => (t.state.ioBufferWrite allocator pData).1 = .ok ()
  | .read bufferLen =>
    ∃ out, (t.state.ioBufferRead bufferLen).1 = .ok out ∧ out <+: t.unread ∧
      out.length = min bufferLen t.unread.length
  | .reset => True

theorem Traffic.inOrder_of_balanced {t : Traffic} (h : t.Balanced IOBuffer.Holds) : t.InOrder := by
  have hprefix := h.isPrefix
  obtain ⟨q, hq, hpushed⟩ := h
  exact ⟨hq.off_le, hq.len_le, hprefix, by rw [hq.unread_eq, hpushed]⟩

theorem Traffic.answers_of_output {t : Traffic} {c : IOBufferCall}
    (h : (t.state.call c).1 = .ok (Fifo.output t.unread c.onQueue)) : t.Answers c := by
  cases c with
  | write allocator pData =>
    have hmap : (t.state.ioBufferWrite allocator pData).1.map (fun _ => ([] : List UInt8)) =
        .ok [] := h
    show (t.state.ioBufferWrite allocator pData).1 = .ok ()
    cases hwrite : (t.state.ioBufferWrite allocator pData).1 with
    | error e =>
      rw [hwrite] at hmap
      cases hmap
    | ok u => rfl
  | read bufferLen => exact ⟨_, h, List.take_prefix _ _, List.length_take⟩
  | reset => trivial

/-- **A buffer is a queue of bytes.**  Along every run of a buffer the cursors are in order and what
was read is a prefix of what was written, and every read returns the oldest bytes that are there. -/
theorem ioBuffer_fifo {allocator : Allocator} (ha : allocator.Succeeds) {initialCap : Nat}
    (hcap : initialCap < 2 ^ 32) :
    ∃ b, createIOBuffer allocator initialCap = .ok b ∧
      ∀ calls, AllSteps Traffic.step (fun t c => c.HasRoom t.state) (Traffic.start b) calls →
        Along Traffic.step Traffic.InOrder (Traffic.start b) calls ∧
          AllSteps Traffic.step Traffic.Answers (Traffic.start b) calls := by
  obtain ⟨b, hb, hholds⟩ := IOBuffer.createIOBuffer_holds ha hcap
  have hstart : (Traffic.start b).Balanced IOBuffer.Holds := ⟨[], hholds, rfl⟩
  refine ⟨b, hb, fun calls hroom => ⟨?_, ?_⟩⟩
  · exact (IOBuffer.refines_queue.along hstart hroom).mono fun _ => Traffic.inOrder_of_balanced
  · exact (IOBuffer.refines_queue.allSteps hstart hroom).mono fun _ _ => Traffic.answers_of_output

def zeroAllocator : Allocator where
  malloc n := some (List.replicate n 0)
  realloc raw n := some (raw.take n ++ List.replicate (n - raw.length) 0)
  length_malloc n raw h := by
    obtain rfl := Option.some.inj h
    exact List.length_replicate
  length_realloc raw n raw' h := by
    obtain rfl := Option.some.inj h
    rw [List.length_append, List.length_take, List.length_replicate]
    omega
  take_realloc raw n raw' h := by
    obtain rfl := Option.some.inj h
    rcases Nat.le_total n raw.length with hle | hle
    · rw [Nat.sub_eq_zero_of_le hle, List.replicate_zero, List.append_nil, List.take_take,
        Nat.min_eq_right hle]
    · rw [List.take_of_length_le hle, List.take_left]

theorem zeroAllocator_succeeds : zeroAllocator.Succeeds := ⟨fun _ => rfl, fun _ _ => rfl⟩

/-- A buffer of two bytes that grows, is drained and is used again. -/
def sampleCalls : List IOBufferCall :=
  [.write zeroAllocator [1, 2, 3], .read 2, .write zeroAllocator [4], .read 5,
  .write zeroAllocator [5], .reset]

theorem ioBuffer_fifo_sampleCalls :
    ∃ b, createIOBuffer zeroAllocator 2 = .ok b ∧
      Along Traffic.step Traffic.InOrder (Traffic.start b) sampleCalls ∧
        AllSteps Traffic.step Traffic.Answers (Traffic.start b) sampleCalls := by
  obtain ⟨b, hb, hcalls⟩ := ioBuffer_fifo zeroAllocator_succeeds (show 2 < 2 ^ 32 by decide)
  obtain rfl : b = { off := 0, len := 0, cap := 2, raw := [0, 0] } := (Except.ok.inj hb).symm
  have hroom : ∀ n, n < 2 ^ 32 → zeroAllocator.Succeeds ∧ n < 2 ^ 32 :=
    fun n hn => ⟨zeroAllocator_succeeds, hn⟩
  exact ⟨_, hb, hcalls sampleCalls
    ⟨hroom _ (by decide), trivial, hroom _ (by decide), trivial, hroom _ (by decide), trivial,
    trivial⟩⟩

end KvsWebrtc.Crypto
