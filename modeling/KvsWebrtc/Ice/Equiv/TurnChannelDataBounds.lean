import KvsWebrtc.Ice.Equiv.TurnChannelData
import KvsWebrtc.Ice.TurnChannelData

/-!
# When handling channel data is safe

`handleChannelData_safe_iff` says for every state that a connection can be left in, and for every
received buffer, when a call returns, keeps to its buffers, makes progress and reports data that are
there.  Over TCP it does unless one to three bytes of a header are pending, or the call comes to a
header that the buffer does not hold or whose length field is close to 2^16 (`HeaderOk`).
-/

namespace KvsWebrtc.Ice

variable {α : Type}

/-! ### Safe calls -/

def Goes (st : LoopState α) : Prop := st.remainingBufLen ≠ 0 ∧ st.found = none

/-- The states in which the iterations from a state on start. -/
inductive Iterates : LoopState α → LoopState α → Prop
  | here {st : LoopState α} (hgo : Goes st) : Iterates st st
  | next {st st₁ st' : LoopState α} (hgo : Goes st) (hstep : loopStep st = .ok st₁)
      (h : Iterates st₁ st') : Iterates st st'

/-- An iteration keeps to the buffers, and so do the data of a message that it finds. -/
structure StepInside (st : LoopState α) : Prop where
  read : (iterationAccesses st).read ≤ st.cur.length
  recvDataBuffer : (iterationAccesses st).recvDataBuffer ≤ recvDataBufferSize
  completeChannelDataBuffer : (iterationAccesses st).completeChannelDataBuffer ≤
  completeChannelDataBufferSize
  data : ∀ st' x, loopStep st = .ok st' → st'.found = some x →
    channelDataHeaderLen + x.size ≤ messageRoom st

/-- A call keeps to the buffers; over UDP the data of the message are among the received bytes. -/
def KeepsInside (conn : TurnConnection α) (buffer behind : List UInt8) : KvsSocketProtocol → Prop
  | .tcp => ∀ st, Iterates (startState conn buffer) st → StepInside st
  | .udp => ∀ x, channelDataAt conn (buffer ++ behind) = some x →
      channelDataHeaderLen + x.size ≤ buffer.length

/-- A call returns, keeps to the buffers, and has processed a part of the received bytes if it
succeeds. -/
structure HandlesSafely (protocol : KvsSocketProtocol) (conn : TurnConnection α)
    (buffer behind : List UInt8) :
    Prop where
  ends : ∃ fuel r, turnConnectionHandleChannelData protocol fuel conn buffer behind = some r
  inside : KeepsInside conn buffer behind protocol
  processed : ∀ fuel found processed last,
    turnConnectionHandleChannelData protocol fuel conn buffer behind =
        some (.ok (found, processed, last)) →
      1 ≤ processed ∧ processed ≤ buffer.length

/-! ### The condition -/

/-- The buffers that start with the messages to which a call comes in a buffer.  Behind a message
the call goes on if the message is complete and its channel unknown. -/
def messageStarts (conn : TurnConnection α) (b : List UInt8) : List (List UInt8) :=
  if b.head? ≠ some channelDataFirstByte then []
  else if conn.knowsChannel b = false ∧ messageLen b ≠ 0 ∧ messageLen b ≤ b.length then
    b :: messageStarts conn (b.drop (messageLen b))
  else [b]
termination_by b.length
decreasing_by
  rw [List.length_drop]
  omega

def behindPending (conn : TurnConnection α) (buffer : List UInt8) : List UInt8 :=
  let part := conn.recvDataBuffer
  if part = [] then buffer
  else if conn.knowsChannel part ∨ recvDataBufferSize < messageLen part then []
  else buffer.drop (messageLen part - part.length)

/-- The header is there, and its length does not overflow when it is rounded up, or it is one of a
message of an unknown channel that is skipped as one without data.  In the last case, which takes a
buffer of almost 2^32 bytes, data of that length are there. -/
def HeaderOk (conn : TurnConnection α) (len : Nat) (b : List UInt8) : Prop :=
  channelDataHeaderLen ≤ b.length ∧
    (int16At b 2 < 0xFFF9 ∨
      (0xFFFD ≤ int16At b 2 ∧ conn.knowsChannel b = false) ∨
      (conn.knowsChannel b = true ∧ b.length < len ∧ channelDataHeaderLen + lengthField b ≤
      b.length))

/-- No part of a header is pending, and the headers to which the call comes are fine.  Over UDP a
message to a known channel is complete. -/
def Manageable (conn : TurnConnection α) (buffer behind : List UInt8) : KvsSocketProtocol → Prop
  | .tcp => (conn.recvDataBuffer = [] ∨ channelDataHeaderLen ≤ conn.recvDataBuffer.length) ∧
      ∀ b ∈ messageStarts conn (behindPending conn buffer), HeaderOk conn buffer.length b
  | .udp => conn.knowsChannel (buffer ++ behind) = true →
      channelDataHeaderLen + lengthField buffer ≤ buffer.length

/-! ### Runs of the loop -/

/-- The loop is safe from a state on, in a call that is given `len` bytes. -/
structure SafeFrom (len : Nat) (st : LoopState α) : Prop where
  ends : ∃ fuel r, tcpLoop fuel st = some r
  inside : ∀ st', Iterates st st' → StepInside st'
  processed : ∀ fuel st', tcpLoop fuel st = some (.ok st') → st'.remainingBufLen < len

variable {len : Nat} {st st' : LoopState α}

theorem not_goes_iff : ¬ Goes st ↔ st.remainingBufLen = 0 ∨ st.found.isSome := by
  rw [Goes, not_and_or, not_not, ← ne_eq, ← Option.isSome_iff_ne_none]

theorem tcpLoop_of_not_goes (h : ¬ Goes st) (fuel : Nat) : tcpLoop fuel st = some (.ok st) := by
  cases fuel <;> rw [tcpLoop, if_pos (not_goes_iff.mp h)]

theorem tcpLoop_zero_of_goes (h : Goes st) : tcpLoop 0 st = none := by
  rw [tcpLoop, if_neg fun hend => not_goes_iff.mpr hend h]

theorem tcpLoop_of_ok (h : Goes st) (hstep : loopStep st = .ok st') (fuel : Nat) :
    tcpLoop (fuel + 1) st = tcpLoop fuel st' := by
  rw [tcpLoop, if_neg fun hend => not_goes_iff.mpr hend h]
  simp only [hstep]

theorem tcpLoop_of_error (h : Goes st) {e : Status × TurnConnection α}
    (hstep : loopStep st = .error e) (fuel : Nat) : tcpLoop (fuel + 1) st = some (.error e) := by
  rw [tcpLoop, if_neg fun hend => not_goes_iff.mpr hend h]
  simp only [hstep]

theorem safeFrom_done (h : ¬ Goes st) : SafeFrom len st ↔ st.remainingBufLen < len := by
  constructor
  · exact fun hsafe => hsafe.processed 0 st (tcpLoop_of_not_goes h 0)
  · refine fun hlt => ⟨⟨0, _, tcpLoop_of_not_goes h 0⟩, fun st' hst => ?_, fun fuel st' hloop => ?_⟩
    · cases hst with
      | here hgo => exact absurd hgo h
      | next hgo => exact absurd hgo h
    · rw [tcpLoop_of_not_goes h] at hloop
      cases hloop
      exact hlt

theorem safeFrom_step (h : Goes st) (hstep : loopStep st = .ok st') :
    SafeFrom len st ↔ StepInside st ∧ SafeFrom len st' := by
  have hloop := tcpLoop_of_ok h hstep
  constructor
  · rintro ⟨⟨fuel, r, hr⟩, hinside, hprocessed⟩
    refine ⟨hinside st (.here h), ?_, fun st'' hst => hinside st'' (.next h hstep hst), ?_⟩
    · cases fuel with
      | zero =>
        rw [tcpLoop_zero_of_goes h] at hr
        cases hr
      | succ fuel => exact ⟨fuel, r, hloop fuel ▸ hr⟩
    · exact fun fuel st'' hst => hprocessed (fuel + 1) st'' ((hloop fuel).trans hst)
  · rintro ⟨hinside, ⟨fuel, r, hr⟩, hrest, hprocessed⟩
    refine ⟨⟨fuel + 1, r, (hloop fuel).trans hr⟩, fun st'' hst => ?_, fun fuel st'' hst => ?_⟩
    · cases hst with
      | here => exact hinside
      | next _ hstep' hst =>
        rw [hstep] at hstep'
        cases hstep'
        exact hrest st'' hst
    · cases fuel with
      | zero =>
        rw [tcpLoop_zero_of_goes h] at hst
        cases hst
      | succ fuel => exact hprocessed fuel st'' (hloop fuel ▸ hst)

theorem safeFrom_error (h : Goes st) {e : Status × TurnConnection α}
    (hstep : loopStep st = .error e) :
    SafeFrom len st ↔ StepInside st := by
  have hloop := tcpLoop_of_error h hstep
  constructor
  · exact fun hsafe => hsafe.inside st (.here h)
  · refine fun hinside => ⟨⟨1, _, hloop 0⟩, fun st' hst => ?_, fun fuel st' hst => ?_⟩
    · cases hst with
      | here => exact hinside
      | next _ hstep' =>
        rw [hstep] at hstep'
        cases hstep'
    · cases fuel with
      | zero =>
        rw [tcpLoop_zero_of_goes h] at hst
        cases hst
      | succ fuel =>
        rw [hloop] at hst
        cases hst

/-- An iteration that changes nothing is repeated forever. -/
theorem not_safeFrom_of_stuck (h : Goes st) (hstep : loopStep st = .ok st) : ¬ SafeFrom len st := by
  rintro ⟨⟨fuel, r, hr⟩, -, -⟩
  induction fuel with
  | zero =>
    rw [tcpLoop_zero_of_goes h] at hr
    cases hr
  | succ fuel ih =>
    rw [tcpLoop_of_ok h hstep] at hr
    exact ih hr

/-! ### Headers -/

theorem int16At_lt (b : List UInt8) (i : Nat) : int16At b i < 2 ^ 16 := by
  have h₀ := (b.getD i 0).toNat_lt
  have h₁ := (b.getD (i + 1) 0).toNat_lt
  rw [int16At]
  omega

theorem messageLen_of_lt {b : List UInt8} (h : int16At b 2 < 0xFFF9) :
    channelDataHeaderLen + lengthField b ≤ messageLen b := by
  simp only [messageLen, lengthField, roundUp4, channelDataHeaderLen]
  split_ifs <;> omega

theorem messageLen_eq_zero {b : List UInt8} (h : 0xFFF9 ≤ int16At b 2) (h' : int16At b 2 < 0xFFFD) :
    messageLen b = 0 := by
  simp only [messageLen, lengthField, roundUp4, channelDataHeaderLen]
  split_ifs <;> omega

theorem messageLen_eq_header {b : List UInt8} (h : 0xFFFD ≤ int16At b 2) :
    messageLen b = channelDataHeaderLen := by
  have hlt := int16At_lt b 2
  simp only [messageLen, lengthField, roundUp4, channelDataHeaderLen]
  split_ifs <;> omega

theorem lengthField_of_large {b : List UInt8} (h : 0xFFF9 ≤ int16At b 2) :
    lengthField b = 2 ^ 32 - 2 ^ 16 + int16At b 2 := by
  rw [lengthField, if_neg (by omega)]

theorem channelDataAt_eq_none {conn : TurnConnection α} {b : List UInt8}
    (h : conn.knowsChannel b = false) :
    channelDataAt conn b = none := by
  have hnone : conn.turnConnectionGetPeerWithChannelNumber (int16At b 0) = none :=
    Option.isSome_eq_false_iff.mp h |> Option.isNone_iff_eq_none.mp
  rw [channelDataAt, hnone]
  rfl

theorem channelDataAt_of_knowsChannel {conn : TurnConnection α} {b : List UInt8}
    (h : conn.knowsChannel b = true) :
    ∃ x, channelDataAt conn b = some x ∧ x.size = lengthField b := by
  obtain ⟨peer, hpeer⟩ := Option.isSome_iff_exists.mp h
  rw [channelDataAt, hpeer]
  exact ⟨_, rfl, rfl⟩

theorem stepInside_of_accesses {read written completed : Nat}
    (h : iterationAccesses st = ⟨read, written, completed⟩)
    (hread : read ≤ st.cur.length) (hwritten : written ≤ recvDataBufferSize)
    (hcompleted : completed ≤ completeChannelDataBufferSize)
    (hdata : ∀ st' x, loopStep st = .ok st' → st'.found = some x →
      channelDataHeaderLen + x.size ≤ messageRoom st) : StepInside st where
  read := by rwa [h]
  recvDataBuffer := by rwa [h]
  completeChannelDataBuffer := by rwa [h]
  data := hdata

/-! ### The start of a message -/

section Start

variable {conn : TurnConnection α} {cur : List UInt8} {remainingMsgSize : Nat}

def atStart (conn : TurnConnection α) (cur : List UInt8) (remainingMsgSize : Nat) : LoopState α :=
  { conn, cur, remainingBufLen := cur.length, remainingMsgSize, found := none }

theorem goes_atStart (hne : cur ≠ []) : Goes (atStart conn cur remainingMsgSize) :=
  ⟨fun h => hne (List.length_eq_zero_iff.mp h), rfl⟩

theorem loopStep_atStart (hempty : conn.recvDataBuffer = []) :
    loopStep (atStart conn cur remainingMsgSize) =
      if cur.head? ≠ some channelDataFirstByte then .error (.turnMissingChannelDataHeader, conn)
      else if messageLen cur ≤ cur.length then
        .ok ⟨conn, cur.drop (messageLen cur), cur.length - messageLen cur, remainingMsgSize,
          channelDataAt conn cur⟩
      else if recvDataBufferSize < cur.length then .error (.bufferTooSmall, conn)
      else .ok ⟨conn.holding cur, [], 0, remainingMsgSize, none⟩ := by
  rw [loopStep, if_neg (by simp [atStart, hempty])]
  simp only [startMessage, atStart, messageLen, TurnConnection.holding, List.take_length,
    List.drop_length, ge_iff_le, gt_iff_lt]
  rfl

theorem accesses_atStart (hempty : conn.recvDataBuffer = []) :
    iterationAccesses (atStart conn cur remainingMsgSize) =
      if cur.head? ≠ some channelDataFirstByte then ⟨1, 0, 0⟩
      else if messageLen cur ≤ cur.length then ⟨channelDataHeaderLen, 0, 0⟩
      else if recvDataBufferSize < cur.length then ⟨channelDataHeaderLen, 0, 0⟩
      else ⟨max channelDataHeaderLen cur.length, cur.length, 0⟩ := by
  rw [iterationAccesses, if_neg (by simp [atStart, hempty])]
  rfl

theorem messageRoom_atStart (hempty : conn.recvDataBuffer = []) :
    messageRoom (atStart conn cur remainingMsgSize) = cur.length := by
  rw [messageRoom, if_neg (by simp [atStart, hempty])]
  rfl

/-- Something else than channel data. -/
theorem safeFrom_missingHeader (hempty : conn.recvDataBuffer = []) (hne : cur ≠ [])
    (hhead : cur.head? ≠ some channelDataFirstByte) :
    SafeFrom len (atStart conn cur remainingMsgSize) := by
  have hstep : loopStep (atStart conn cur remainingMsgSize) =
      .error (.turnMissingChannelDataHeader, conn) := by
    rw [loopStep_atStart hempty, if_pos hhead]
  have haccesses : iterationAccesses (atStart conn cur remainingMsgSize) = ⟨1, 0, 0⟩ := by
    rw [accesses_atStart hempty, if_pos hhead]
  refine (safeFrom_error (goes_atStart hne) hstep).mpr
    (stepInside_of_accesses haccesses (List.length_pos_iff.mpr hne) (Nat.zero_le _)
    (Nat.zero_le _) ?_)
  intro st' x h
  rw [hstep] at h
  cases h

/-- A header that is cut off is read behind the buffer. -/
theorem not_safeFrom_shortHeader (hempty : conn.recvDataBuffer = []) (hne : cur ≠ [])
    (hhead : cur.head? = some channelDataFirstByte) (hshort : cur.length < channelDataHeaderLen) :
    ¬ SafeFrom len (atStart conn cur remainingMsgSize) := by
  intro hsafe
  have hread : (iterationAccesses (atStart conn cur remainingMsgSize)).read ≤ cur.length :=
    (hsafe.inside _ (.here (goes_atStart hne))).read
  rw [accesses_atStart hempty, if_neg (not_not_intro hhead)] at hread
  split_ifs at hread <;> dsimp only at hread <;> omega

/-- A message that is not complete is kept, if it is not too long. -/
theorem safeFrom_incomplete (hempty : conn.recvDataBuffer = [])
    (hhead : cur.head? = some channelDataFirstByte) (hheader : channelDataHeaderLen ≤ cur.length)
    (hlen : cur.length ≤ len) (hmsg : cur.length < messageLen cur) :
    SafeFrom len (atStart conn cur remainingMsgSize) := by
  have hpos : 0 < cur.length := Nat.lt_of_lt_of_le (by decide) hheader
  have hgo : Goes (atStart conn cur remainingMsgSize) :=
    goes_atStart (List.ne_nil_of_length_pos hpos)
  have hstep := @loopStep_atStart α conn cur remainingMsgSize hempty
  have haccesses := @accesses_atStart α conn cur remainingMsgSize hempty
  rw [if_neg (not_not_intro hhead), if_neg (Nat.not_le.mpr hmsg)] at hstep haccesses
  by_cases hlong : recvDataBufferSize < cur.length
  · rw [if_pos hlong] at hstep haccesses
    refine (safeFrom_error hgo hstep).mpr
      (stepInside_of_accesses haccesses hheader (Nat.zero_le _) (Nat.zero_le _) ?_)
    intro st' x h
    rw [hstep] at h
    cases h
  · rw [if_neg hlong] at hstep haccesses
    refine (safeFrom_step hgo hstep).mpr
      ⟨stepInside_of_accesses haccesses (Nat.max_le.mpr ⟨hheader, Nat.le_refl _⟩)
      (Nat.not_lt.mp hlong)
        (Nat.zero_le _) ?_, (safeFrom_done fun hgo => hgo.1 rfl).mpr (Nat.lt_of_lt_of_le hpos hlen)⟩
    intro st' x h hx
    rw [hstep] at h
    cases h
    cases hx

theorem loopStep_whole (hempty : conn.recvDataBuffer = [])
    (hhead : cur.head? = some channelDataFirstByte) (hmsg : messageLen cur ≤ cur.length) :
    loopStep (atStart conn cur remainingMsgSize) =
      .ok ⟨conn, cur.drop (messageLen cur), cur.length - messageLen cur, remainingMsgSize,
        channelDataAt conn cur⟩ := by
  rw [loopStep_atStart hempty, if_neg (not_not_intro hhead), if_pos hmsg]

theorem stepInside_whole (hempty : conn.recvDataBuffer = [])
    (hhead : cur.head? = some channelDataFirstByte) (hheader : channelDataHeaderLen ≤ cur.length)
    (hmsg : messageLen cur ≤ cur.length) :
    StepInside (atStart conn cur remainingMsgSize) ↔
      (conn.knowsChannel cur = true → channelDataHeaderLen + lengthField cur ≤ cur.length) := by
  have hstep := @loopStep_whole α conn cur remainingMsgSize hempty hhead hmsg
  have haccesses : iterationAccesses (atStart conn cur remainingMsgSize) =
      ⟨channelDataHeaderLen, 0, 0⟩ := by
    rw [accesses_atStart hempty, if_neg (not_not_intro hhead), if_pos hmsg]
  constructor
  · intro hinside hknown
    obtain ⟨x, hx, hsize⟩ := channelDataAt_of_knowsChannel hknown
    have hdata := hinside.data _ x hstep hx
    rwa [hsize, messageRoom_atStart hempty] at hdata
  · intro hfits
    refine stepInside_of_accesses haccesses hheader (Nat.zero_le _) (Nat.zero_le _) ?_
    intro st' x h hx
    rw [hstep] at h
    cases h
    rw [messageRoom_atStart hempty]
    cases hknown : conn.knowsChannel cur with
    | false =>
      rw [channelDataAt_eq_none hknown] at hx
      cases hx
    | true =>
      obtain ⟨y, hy, hsize⟩ := channelDataAt_of_knowsChannel hknown
      obtain rfl := Option.some.inj (hy.symm.trans hx)
      rw [hsize]
      exact hfits hknown

/-- The length field of a header on which a message of a known channel is safe. -/
theorem headerOk_known (hlen : len < 2 ^ 32) (hle : cur.length ≤ len)
    (hheader : channelDataHeaderLen ≤ cur.length)
    (hknown : conn.knowsChannel cur = true) (hmsg : messageLen cur ≤ cur.length) :
    (channelDataHeaderLen + lengthField cur ≤ cur.length ∧ cur.length - messageLen cur < len) ↔
      HeaderOk conn len cur := by
  have hfield := int16At_lt cur 2
  simp only [HeaderOk, hknown, hheader, true_and, reduceCtorEq, and_false, false_or]
  simp only [channelDataHeaderLen] at hheader ⊢
  by_cases hsmall : int16At cur 2 < 0xFFF9
  · have hmessage := messageLen_of_lt hsmall
    simp only [channelDataHeaderLen] at hmessage
    exact ⟨fun _ => .inl hsmall, fun _ => ⟨by omega, by omega⟩⟩
  · have hlarge := lengthField_of_large (Nat.not_lt.mp hsmall)
    by_cases hzero : int16At cur 2 < 0xFFFD
    · rw [messageLen_eq_zero (Nat.not_lt.mp hsmall) hzero]
      omega
    · rw [messageLen_eq_header (Nat.not_lt.mp hzero)]
      omega

theorem headerOk_unknown (hheader : channelDataHeaderLen ≤ cur.length)
    (hknown : conn.knowsChannel cur = false) : HeaderOk conn len cur ↔ messageLen cur ≠ 0 := by
  simp only [HeaderOk, hknown, hheader, true_and, and_true, reduceCtorEq, false_and, or_false]
  by_cases hsmall : int16At cur 2 < 0xFFF9
  · have hmessage := messageLen_of_lt hsmall
    simp only [channelDataHeaderLen] at hmessage
    omega
  · by_cases hzero : int16At cur 2 < 0xFFFD
    · rw [messageLen_eq_zero (Nat.not_lt.mp hsmall) hzero]
      omega
    · rw [messageLen_eq_header (Nat.not_lt.mp hzero)]
      simp only [channelDataHeaderLen]
      omega

theorem headerOk_incomplete (hheader : channelDataHeaderLen ≤ cur.length)
    (hmsg : cur.length < messageLen cur) : HeaderOk conn len cur := by
  refine ⟨hheader, .inl ?_⟩
  by_contra hlarge
  by_cases hzero : int16At cur 2 < 0xFFFD
  · rw [messageLen_eq_zero (Nat.not_lt.mp hlarge) hzero] at hmsg
    omega
  · rw [messageLen_eq_header (Nat.not_lt.mp hzero)] at hmsg
    omega

/-- **The start of a message**: the loop is safe from there on if the headers to which it comes are
fine. -/
theorem safeFrom_atStart_iff (hempty : conn.recvDataBuffer = []) (hne : cur ≠ [])
    (hle : cur.length ≤ len) (hlen : len < 2 ^ 32) :
    SafeFrom len (atStart conn cur remainingMsgSize) ↔ ∀ b ∈ messageStarts conn cur,
      HeaderOk conn len b := by
  induction cur using messageStarts.induct conn with
  | case1 cur hhead =>
    rw [messageStarts, if_pos hhead]
    exact ⟨fun _ _ hb => absurd hb List.not_mem_nil, fun _ =>
      safeFrom_missingHeader hempty hne hhead⟩
  | case2 cur hhead hskip ih =>
    -- a message of an unknown channel, behind which the loop goes on
    obtain ⟨hunknown, hzero, hmsg⟩ := hskip
    rw [not_not] at hhead
    rw [messageStarts, if_neg (not_not_intro hhead), if_pos ⟨hunknown, hzero, hmsg⟩,
      List.forall_mem_cons]
    by_cases hheader : channelDataHeaderLen ≤ cur.length
    · have hstep := @loopStep_whole α conn cur remainingMsgSize hempty hhead hmsg
      have hinside := (@stepInside_whole α conn cur remainingMsgSize hempty hhead hheader hmsg).mpr
        (fun hknown => by rw [hunknown] at hknown; cases hknown)
      rw [channelDataAt_eq_none hunknown, ← List.length_drop] at hstep
      rw [safeFrom_step (goes_atStart hne) hstep, headerOk_unknown hheader hunknown]
      refine and_congr (iff_of_true hinside hzero) ?_
      by_cases hrest : cur.drop (messageLen cur) = []
      · rw [hrest, messageStarts, if_pos (by simp), safeFrom_done fun hgo => hgo.1 rfl]
        have hpos := List.length_pos_iff.mpr hne
        exact iff_of_true (Nat.lt_of_lt_of_le hpos hle) fun _ hb => absurd hb List.not_mem_nil
      · exact ih hrest (by rw [List.length_drop]; omega)
    · exact iff_of_false (not_safeFrom_shortHeader hempty hne hhead (Nat.not_le.mp hheader))
        fun hok => hheader hok.1.1
  | case3 cur hhead hstop =>
    rw [not_not] at hhead
    rw [messageStarts, if_neg (not_not_intro hhead), if_neg hstop, List.forall_mem_singleton]
    by_cases hheader : channelDataHeaderLen ≤ cur.length
    · by_cases hmsg : messageLen cur ≤ cur.length
      · have hstep := @loopStep_whole α conn cur remainingMsgSize hempty hhead hmsg
        cases hknown : conn.knowsChannel cur with
        | true =>
          obtain ⟨x, hx, -⟩ := channelDataAt_of_knowsChannel hknown
          rw [safeFrom_step (goes_atStart hne) hstep, stepInside_whole hempty hhead hheader hmsg,
            safeFrom_done (fun hgo => by rw [Goes, hx] at hgo; cases hgo.2),
            ← headerOk_known hlen hle hheader hknown hmsg]
          simp only [hknown, forall_const]
        | false =>
          -- a message of an unknown channel is not skipped if its length has wrapped to zero
          have hzero : messageLen cur = 0 := by
            by_contra hzero
            exact hstop ⟨hknown, hzero, hmsg⟩
          rw [headerOk_unknown hheader hknown]
          rw [channelDataAt_eq_none hknown, hzero, List.drop_zero, Nat.sub_zero] at hstep
          exact iff_of_false (not_safeFrom_of_stuck (goes_atStart hne) hstep) (not_not_intro hzero)
      · exact iff_of_true (safeFrom_incomplete hempty hhead hheader hle (Nat.not_le.mp hmsg))
          (headerOk_incomplete hheader (Nat.not_le.mp hmsg))
    · exact iff_of_false (not_safeFrom_shortHeader hempty hne hhead (Nat.not_le.mp hheader))
        fun hok => hheader hok.1

end Start

/-! ### A pending message -/

/-- What may be pending: a part of a header, or a message that is not complete. -/
def PendingOk (part : List UInt8) : Prop :=
  part.length < channelDataHeaderLen ∨ (part.length ≤ recvDataBufferSize ∧
    part.length < messageLen part)

section Pending

variable {conn : TurnConnection α} {part buffer : List UInt8}

theorem messageLen_of_pending (hheader : channelDataHeaderLen ≤ part.length)
    (hmsg : part.length < messageLen part) :
    messageLen part = roundUp4 (lengthField part) + channelDataHeaderLen := by
  simp only [messageLen, roundUp4, channelDataHeaderLen] at hheader hmsg ⊢
  omega

theorem remainingMsgSize_of_pending (hheader : channelDataHeaderLen ≤ part.length)
    (hmsg : part.length < messageLen part) :
    (roundUp4 (lengthField part) + 2 ^ 32 - (part.length - channelDataHeaderLen)) % 2 ^ 32 =
      messageLen part - part.length := by
  have hlt : messageLen part < 2 ^ 32 := Nat.mod_lt _ (by decide)
  have heq := messageLen_of_pending hheader hmsg
  simp only [channelDataHeaderLen] at heq hheader ⊢
  omega

theorem loopStep_pending (hheader : channelDataHeaderLen ≤ part.length)
    (hsize : part.length ≤ recvDataBufferSize) (hmsg : part.length < messageLen part) :
    loopStep (startState (conn.holding part) buffer) =
      if recvDataBufferSize < part.length + min (messageLen part - part.length) buffer.length then
        .error (.bufferTooSmall, conn.holding [])
      else if messageLen part - part.length ≤ buffer.length then
        .ok ⟨conn.holding [], buffer.drop (messageLen part - part.length),
          buffer.length - (messageLen part - part.length), messageLen part - part.length,
          channelDataAt conn (part ++ buffer.take (messageLen part - part.length))⟩
      else .ok ⟨conn.holding (part ++ buffer), [], 0, messageLen part - part.length, none⟩ := by
  have hne : part.length ≠ 0 := Nat.ne_of_gt (Nat.lt_of_lt_of_le (by decide) hheader)
  have hlt : messageLen part < 2 ^ 32 := Nat.mod_lt _ (by decide)
  have heq := messageLen_of_pending hheader hmsg
  simp only [loopStep, continueMessage, startState, TurnConnection.holding, if_pos hne, ge_iff_le,
    if_pos hheader, remainingMsgSize_of_pending hheader hmsg, ← heq, Nat.mod_eq_of_lt hlt,
    gt_iff_lt]
  by_cases hlong : recvDataBufferSize < part.length + min (messageLen part - part.length)
    buffer.length
  · rw [if_pos hlong, if_pos (by omega)]
  · rw [if_neg hlong, if_neg (by omega)]
    by_cases hfits : messageLen part - part.length ≤ buffer.length
    · rw [if_pos hfits, Nat.min_eq_left hfits, if_pos]
      · rfl
      · rw [List.length_append, List.length_take, Nat.min_eq_left hfits]
        omega
    · rw [if_neg hfits, Nat.min_eq_right (Nat.le_of_not_le hfits), List.take_length,
        List.drop_length, Nat.sub_self, if_neg]
      rw [List.length_append]
      omega

theorem accesses_pending (hheader : channelDataHeaderLen ≤ part.length)
    (hsize : part.length ≤ recvDataBufferSize) (hmsg : part.length < messageLen part) :
    iterationAccesses (startState (conn.holding part) buffer) =
      if recvDataBufferSize < part.length + min (messageLen part - part.length) buffer.length then
        ⟨0, 0, 0⟩
      else
        ⟨min (messageLen part - part.length) buffer.length,
          part.length + min (messageLen part - part.length) buffer.length,
          if messageLen part - part.length ≤ buffer.length ∧ conn.knowsChannel part then
            messageLen part
          else 0⟩ := by
  have hne : part.length ≠ 0 := Nat.ne_of_gt (Nat.lt_of_lt_of_le (by decide) hheader)
  simp only [iterationAccesses, continueAccesses, startState, TurnConnection.holding, if_pos hne,
    ge_iff_le, if_pos hheader, remainingMsgSize_of_pending hheader hmsg, gt_iff_lt]
  by_cases hlong : recvDataBufferSize < part.length + min (messageLen part - part.length)
    buffer.length
  · rw [if_pos hlong, if_pos (by omega)]
  · rw [if_neg hlong, if_neg (by omega)]
    by_cases hfits : messageLen part - part.length ≤ buffer.length
    · have hend : part.length + min (messageLen part - part.length) buffer.length =
          messageLen part := by omega
      simp only [hend, hfits, true_and]
      rfl
    · have hend : part.length + min (messageLen part - part.length) buffer.length ≠
          messageLen part := by omega
      simp only [hend, hfits, false_and, if_false]

/-- A pending message that fits into the buffer is short. -/
theorem lengthField_of_pending (hsize : messageLen part ≤ recvDataBufferSize)
    (hmsg : part.length < messageLen part) (hheader : channelDataHeaderLen ≤ part.length) :
    channelDataHeaderLen + lengthField part ≤ completeChannelDataBufferSize ∧
      messageLen part ≤ completeChannelDataBufferSize := by
  have hlt := int16At_lt part 2
  simp only [messageLen, lengthField, roundUp4, channelDataHeaderLen, recvDataBufferSize,
    completeChannelDataBufferSize] at hsize hmsg hheader ⊢
  split_ifs at hsize hmsg ⊢ <;> omega

theorem lengthField_append (hheader : channelDataHeaderLen ≤ part.length) (rest : List UInt8) :
    lengthField (part ++ rest) = lengthField part := by
  rw [lengthField, int16At_append_left (Nat.lt_of_lt_of_le (by decide) hheader), lengthField]

theorem knowsChannel_append (hheader : channelDataHeaderLen ≤ part.length) (rest : List UInt8) :
    conn.knowsChannel (part ++ rest) = conn.knowsChannel part := by
  rw [TurnConnection.knowsChannel, int16At_append_left (Nat.lt_of_lt_of_le (by decide) hheader),
    TurnConnection.knowsChannel]

theorem messageStarts_holding (conn : TurnConnection α) (part b : List UInt8) :
    messageStarts (conn.holding part) b = messageStarts conn b := by
  induction b using messageStarts.induct conn with
  | case1 b hhead => rw [messageStarts, if_pos hhead, messageStarts, if_pos hhead]
  | case2 b hhead hskip ih =>
    have hskip' : (conn.holding part).knowsChannel b = false ∧ messageLen b ≠ 0 ∧
        messageLen b ≤ b.length := hskip
    rw [messageStarts, if_neg hhead, if_pos hskip', ih]
    symm
    rw [messageStarts, if_neg hhead, if_pos hskip]
  | case3 b hhead hstop =>
    have hstop' : ¬ ((conn.holding part).knowsChannel b = false ∧ messageLen b ≠ 0 ∧
        messageLen b ≤ b.length) :=
      hstop
    rw [messageStarts, if_neg hhead, if_neg hstop', messageStarts, if_neg hhead, if_neg hstop]

/-- **A pending message** does no harm, and behind it the call comes to the start of the next
one. -/
theorem safeFrom_pending_iff (hheader : channelDataHeaderLen ≤ part.length)
    (hsize : part.length ≤ recvDataBufferSize) (hmsg : part.length < messageLen part)
    (hne : buffer ≠ []) (hlen : buffer.length < 2 ^ 32) :
    SafeFrom buffer.length (startState (conn.holding part) buffer) ↔
      ∀ b ∈ messageStarts conn (behindPending (conn.holding part) buffer),
        HeaderOk conn buffer.length b := by
  have hpart : part ≠ [] := List.ne_nil_of_length_pos (Nat.lt_of_lt_of_le (by decide) hheader)
  have hpos := List.length_pos_iff.mpr hne
  have hgo : Goes (startState (conn.holding part) buffer) := ⟨Nat.ne_of_gt hpos, rfl⟩
  have hstep := @loopStep_pending α conn part buffer hheader hsize hmsg
  have haccesses := @accesses_pending α conn part buffer hheader hsize hmsg
  -- a message that has started is put together in `completeChannelDataBuffer`
  have hroom : messageRoom (startState (conn.holding part) buffer) =
      completeChannelDataBufferSize := by
    rw [messageRoom, if_pos]
    exact fun h => hpart (List.length_eq_zero_iff.mp h)
  have hnil : ∀ b ∈ messageStarts conn [], HeaderOk conn buffer.length b := by
    rw [messageStarts, if_pos (by simp)]
    exact fun _ hb => absurd hb List.not_mem_nil
  have hbehind : behindPending (conn.holding part) buffer =
      if conn.knowsChannel part ∨ recvDataBufferSize < messageLen part then []
      else buffer.drop (messageLen part - part.length) := by
    rw [behindPending]
    exact if_neg hpart
  by_cases hlong : recvDataBufferSize < part.length + min (messageLen part - part.length)
    buffer.length
  · -- the message is dropped, and the call fails
    rw [if_pos hlong] at hstep haccesses
    rw [hbehind, if_pos (.inr (by omega))]
    refine iff_of_true ((safeFrom_error hgo hstep).mpr
      (stepInside_of_accesses haccesses (Nat.zero_le _) (Nat.zero_le _) (Nat.zero_le _) ?_)) hnil
    intro st' x h
    rw [hstep] at h
    cases h
  rw [if_neg hlong] at hstep haccesses
  by_cases hfits : messageLen part - part.length ≤ buffer.length
  · -- the message is complete
    have hmax : messageLen part ≤ recvDataBufferSize := by omega
    obtain ⟨hdata, hcomplete⟩ := lengthField_of_pending hmax hmsg hheader
    rw [if_pos hfits] at hstep
    rw [Nat.min_eq_left hfits] at haccesses
    have hinside : StepInside (startState (conn.holding part) buffer) := by
      refine stepInside_of_accesses haccesses hfits (by omega) (by split_ifs <;> omega) ?_
      intro st' x h hx
      rw [hstep] at h
      cases h
      rw [hroom]
      obtain ⟨peer, -, rfl⟩ := Option.map_eq_some_iff.mp hx
      rwa [lengthField_append hheader]
    rw [safeFrom_step hgo hstep, iff_true_intro hinside, true_and, hbehind]
    cases hknown : conn.knowsChannel part with
    | true =>
      obtain ⟨x, hx, -⟩ := @channelDataAt_of_knowsChannel α conn _
        ((knowsChannel_append hheader (buffer.take (messageLen part - part.length))).trans hknown)
      rw [safeFrom_done (fun hgo => by rw [Goes, hx] at hgo; cases hgo.2), if_pos (.inl rfl)]
      exact iff_of_true (by dsimp only; omega) hnil
    | false =>
      rw [channelDataAt_eq_none ((knowsChannel_append hheader _).trans hknown), ← List.length_drop,
        if_neg (by simpa using hmax)]
      by_cases hrest : buffer.drop (messageLen part - part.length) = []
      · rw [hrest, safeFrom_done fun hgo => hgo.1 rfl]
        exact iff_of_true hpos hnil
      · have hstart := @safeFrom_atStart_iff α buffer.length (conn.holding []) _
          (messageLen part - part.length) rfl hrest (by rw [List.length_drop]; omega) hlen
        rw [messageStarts_holding] at hstart
        exact hstart
  · -- all bytes are kept
    rw [if_neg hfits] at hstep
    rw [Nat.min_eq_right (Nat.le_of_not_le hfits)] at haccesses
    have hrest : behindPending (conn.holding part) buffer = [] := by
      rw [hbehind]
      split_ifs
      · rfl
      · exact List.drop_eq_nil_of_le (Nat.le_of_not_le hfits)
    rw [hrest]
    have hinside : StepInside (startState (conn.holding part) buffer) := by
      refine stepInside_of_accesses haccesses (Nat.le_refl _) (by omega) ?_ ?_
      · rw [if_neg (fun h => hfits h.1)]
        exact Nat.zero_le _
      · intro st' x h hx
        rw [hstep] at h
        cases h
        cases hx
    have hdone := (safeFrom_step hgo hstep).mpr ⟨hinside,
      (safeFrom_done fun hgo => hgo.1 rfl).mpr hpos⟩
    exact iff_of_true hdone hnil

end Pending

/-! ### What calls leave -/

def lastConnection :
    Except (Status × TurnConnection α) (Option (TurnChannelData α) × Nat × TurnConnection α) →
      TurnConnection α
  | .error e => e.2
  | .ok (_, _, conn) => conn

/-- The states in which calls leave a connection, whatever they receive.  Peers are added between
the calls. -/
inductive Reachable : TurnConnection α → Prop
  | created (peers : List α) (hpeers : peers.length ≤ defaultTurnMaxPeerCount) :
  Reachable ⟨peers, hpeers, []⟩
  | addPeers {conn : TurnConnection α} (h : Reachable conn) (peers : List α)
      (hpeers : peers.length ≤ defaultTurnMaxPeerCount) :
      Reachable ⟨peers, hpeers, conn.recvDataBuffer⟩
  | received {conn : TurnConnection α} {protocol : KvsSocketProtocol} {fuel : Nat} {buffer behind :
    List UInt8}
      {r : Except (Status × TurnConnection α) (Option (TurnChannelData α) × Nat × TurnConnection α)}
      (h : Reachable conn) (hr : turnConnectionHandleChannelData protocol fuel conn buffer behind =
      some r) :
      Reachable (lastConnection r)

/-- What holds between the iterations of a call.  Bytes are pending when an iteration starts only if
it is the first. -/
structure LoopInv (st : LoopState α) : Prop where
  pending : PendingOk st.conn.recvDataBuffer
  remaining : st.cur.length = st.remainingBufLen
  first : st.conn.recvDataBuffer = [] ∨ st.remainingMsgSize = 0 ∨ st.remainingBufLen = 0

theorem pendingOk_nil : PendingOk [] := .inl (by decide)

theorem LoopInv.eq_atStart (h : LoopInv st) (hgo : Goes st) :
    st = atStart st.conn st.cur st.remainingMsgSize := by
  obtain ⟨conn, cur, remainingBufLen, remainingMsgSize, found⟩ := st
  obtain rfl : cur.length = remainingBufLen := h.remaining
  obtain rfl : found = none := hgo.2
  rfl

/-- **One iteration** keeps the invariant, and if the call fails what is pending is fine. -/
theorem LoopInv.loopStep (h : LoopInv st) (hgo : Goes st) :
    (∃ e, loopStep st = .error e ∧ PendingOk e.2.recvDataBuffer) ∨
      ∃ st', loopStep st = .ok st' ∧ LoopInv st' := by
  rw [h.eq_atStart hgo]
  by_cases hempty : st.conn.recvDataBuffer = []
  · rw [loopStep_atStart hempty]
    have hconn : PendingOk st.conn.recvDataBuffer := h.pending
    split_ifs with hhead hmsg hlong
    · exact .inl ⟨_, rfl, hconn⟩
    · exact .inr ⟨_, rfl, hconn, List.length_drop, .inl hempty⟩
    · exact .inl ⟨_, rfl, hconn⟩
    · refine .inr ⟨_, rfl, ?_, rfl, .inr (.inr rfl)⟩
      exact .inr ⟨Nat.not_lt.mp hlong, Nat.not_le.mp hmsg⟩
  · have hzero : st.remainingMsgSize = 0 :=
      (h.first.resolve_left hempty).resolve_right hgo.1
    rw [hzero]
    by_cases hheader : channelDataHeaderLen ≤ st.conn.recvDataBuffer.length
    · obtain ⟨hsize, hmsg⟩ := h.pending.resolve_left (Nat.not_lt.mpr hheader)
      have hstep := @loopStep_pending α st.conn st.conn.recvDataBuffer st.cur hheader hsize hmsg
      split_ifs at hstep with hlong hfits
      · exact .inl ⟨_, hstep, pendingOk_nil⟩
      · exact .inr ⟨_, hstep, pendingOk_nil, List.length_drop, .inl rfl⟩
      · refine .inr ⟨_, hstep, .inr ⟨?_, ?_⟩, rfl, .inr (.inr rfl)⟩
        · show (st.conn.recvDataBuffer ++ st.cur).length ≤ recvDataBufferSize
          rw [List.length_append]
          omega
        · show (st.conn.recvDataBuffer ++ st.cur).length <
              messageLen (st.conn.recvDataBuffer ++ st.cur)
          rw [messageLen, lengthField_append hheader, ← messageLen, List.length_append]
          omega
    · -- a part of a header is pending, and the iteration changes nothing
      have hpart : st.conn.recvDataBuffer.length ≠ 0 ∧ st.conn.recvDataBuffer.length < 4 :=
        ⟨fun hlen => hempty (List.length_eq_zero_iff.mp hlen), Nat.not_le.mp hheader⟩
      refine .inr ⟨_, @loopStep_stuck α st.conn st.conn.recvDataBuffer st.cur hpart, ?_⟩
      exact ⟨h.pending, rfl, .inr (.inl rfl)⟩

theorem tcpLoop_pending {fuel : Nat} {r : Except (Status × TurnConnection α) (LoopState α)}
    (h : LoopInv st) (hr : tcpLoop fuel st = some r) :
    (∀ e, r = .error e → PendingOk e.2.recvDataBuffer) ∧
      ∀ st', r = .ok st' → PendingOk st'.conn.recvDataBuffer := by
  induction fuel generalizing st with
  | zero =>
    by_cases hgo : Goes st
    · rw [tcpLoop_zero_of_goes hgo] at hr
      cases hr
    · obtain rfl := Option.some.inj ((tcpLoop_of_not_goes hgo 0).symm.trans hr)
      exact ⟨fun e he => (by cases he), fun st' hst' => Except.ok.inj hst' ▸ h.pending⟩
  | succ fuel ih =>
    by_cases hgo : Goes st
    · rcases h.loopStep hgo with ⟨e, hstep, he⟩ | ⟨st', hstep, hst'⟩
      · obtain rfl := Option.some.inj ((tcpLoop_of_error hgo hstep fuel).symm.trans hr)
        exact ⟨fun e' he' => Except.error.inj he' ▸ he, fun st' hst' => by cases hst'⟩
      · rw [tcpLoop_of_ok hgo hstep] at hr
        exact ih hst' hr
    · obtain rfl := Option.some.inj ((tcpLoop_of_not_goes hgo _).symm.trans hr)
      exact ⟨fun e he => (by cases he), fun st' hst' => Except.ok.inj hst' ▸ h.pending⟩

/-- **What is pending** between two calls. -/
theorem Reachable.pendingOk {conn : TurnConnection α} (h : Reachable conn) :
    PendingOk conn.recvDataBuffer := by
  induction h with
  | created => exact pendingOk_nil
  | addPeers _ _ _ ih => exact ih
  | @received conn protocol fuel buffer behind r _ hr ih =>
    rw [turnConnectionHandleChannelData.eq_def] at hr
    by_cases hne : buffer = []
    · rw [if_pos hne] at hr
      cases hr
      exact ih
    rw [if_neg hne] at hr
    cases protocol with
    | udp =>
      cases hr
      exact ih
    | tcp =>
      obtain ⟨q, hq, rfl⟩ := Option.map_eq_some_iff.mp hr
      have hpending := tcpLoop_pending ⟨ih, rfl, .inr (.inl rfl)⟩ hq
      cases q with
      | error e => exact hpending.1 e rfl
      | ok st => exact hpending.2 st rfl

/-! ### Calls -/

section Calls

variable {conn : TurnConnection α} {buffer : List UInt8}

theorem safe_iff_safeFrom (hne : buffer ≠ []) (behind : List UInt8) :
    HandlesSafely .tcp conn buffer behind ↔ SafeFrom buffer.length (startState conn buffer) := by
  have hcall : ∀ fuel, turnConnectionHandleChannelData .tcp fuel conn buffer behind =
      (tcpLoop fuel (startState conn buffer)).map fun r =>
        r.map fun st => (st.found, buffer.length - st.remainingBufLen, st.conn) := by
    intro fuel
    rw [turnConnectionHandleChannelData, if_neg hne]
    rfl
  constructor
  · rintro ⟨⟨fuel, r, hr⟩, hinside, hprocessed⟩
    refine ⟨?_, hinside, fun fuel st hst => ?_⟩
    · rw [hcall] at hr
      obtain ⟨q, hq, -⟩ := Option.map_eq_some_iff.mp hr
      exact ⟨fuel, q, hq⟩
    · obtain ⟨hone, -⟩ := hprocessed fuel st.found (buffer.length - st.remainingBufLen) st.conn
        (by rw [hcall, hst]; rfl)
      omega
  · rintro ⟨⟨fuel, r, hr⟩, hinside, hprocessed⟩
    refine ⟨⟨fuel, _, by rw [hcall, hr]; rfl⟩, hinside, fun fuel found processed last hst => ?_⟩
    rw [hcall] at hst
    obtain ⟨q, hq, hmap⟩ := Option.map_eq_some_iff.mp hst
    cases q with
    | error e => cases hmap
    | ok st =>
      have hlt := hprocessed fuel st hq
      obtain rfl : buffer.length - st.remainingBufLen = processed :=
        congrArg (fun p => p.2.1) (Except.ok.inj hmap)
      omega

theorem tcp_safe_iff (hpending : PendingOk conn.recvDataBuffer) (hne : buffer ≠ [])
    (hlen : buffer.length < 2 ^ 32)
    (behind : List UInt8) :
    HandlesSafely .tcp conn buffer behind ↔ Manageable conn buffer behind .tcp := by
  rw [safe_iff_safeFrom hne, Manageable]
  by_cases hempty : conn.recvDataBuffer = []
  · have hbehind : behindPending conn buffer = buffer := if_pos hempty
    rw [hbehind, and_iff_right (.inl hempty)]
    exact safeFrom_atStart_iff hempty hne (Nat.le_refl _) hlen
  by_cases hheader : channelDataHeaderLen ≤ conn.recvDataBuffer.length
  · obtain ⟨hsize, hmsg⟩ := hpending.resolve_left (Nat.not_lt.mpr hheader)
    rw [and_iff_right (.inr hheader)]
    exact @safeFrom_pending_iff α conn _ _ hheader hsize hmsg hne hlen
  · have hpart : conn.recvDataBuffer.length ≠ 0 ∧ conn.recvDataBuffer.length < 4 :=
      ⟨fun hzero => hempty (List.length_eq_zero_iff.mp hzero), Nat.not_le.mp hheader⟩
    have hgo : Goes (startState conn buffer) :=
      ⟨fun hzero => hne (List.length_eq_zero_iff.mp hzero), rfl⟩
    exact iff_of_false (not_safeFrom_of_stuck hgo (@loopStep_stuck α conn _ buffer hpart))
      fun h => h.1.elim hempty hheader

theorem udp_safe_iff (hne : buffer ≠ []) (behind : List UInt8) :
    HandlesSafely .udp conn buffer behind ↔ Manageable conn buffer behind .udp := by
  have hcall : ∀ fuel, turnConnectionHandleChannelData .udp fuel conn buffer behind =
      some (.ok (channelDataAt conn (buffer ++ behind), buffer.length, conn)) := by
    intro fuel
    rw [turnConnectionHandleChannelData, if_neg hne]
  have hpos := List.length_pos_iff.mpr hne
  have hfield : channelDataHeaderLen ≤ buffer.length → lengthField (buffer ++ behind) =
      lengthField buffer :=
    fun hheader => lengthField_append hheader behind
  constructor
  · intro hsafe hknown
    obtain ⟨x, hx, hsize⟩ := channelDataAt_of_knowsChannel hknown
    have hfits := hsafe.inside x hx
    rwa [hsize, hfield (by omega)] at hfits
  · intro hfits
    refine ⟨⟨0, _, hcall 0⟩, fun x hx => ?_, fun fuel found processed last hst => ?_⟩
    · cases hknown : conn.knowsChannel (buffer ++ behind) with
      | false =>
        rw [channelDataAt_eq_none hknown] at hx
        cases hx
      | true =>
        have hdata := hfits hknown
        obtain ⟨y, hy, hsize⟩ := channelDataAt_of_knowsChannel hknown
        obtain rfl := Option.some.inj (hy.symm.trans hx)
        rwa [hsize, hfield (by omega)]
    · rw [hcall] at hst
      cases hst
      exact ⟨hpos, Nat.le_refl _⟩

/-- **Channel data**: whatever calls have left, a call returns, keeps to its buffers, makes progress
and reports data that are there if and only if the received bytes are manageable. -/
theorem handleChannelData_safe_iff (h : Reachable conn) (protocol : KvsSocketProtocol)
    (hne : buffer ≠ []) (hlen : buffer.length < 2 ^ 32) (behind : List UInt8) :
    HandlesSafely protocol conn buffer behind ↔ Manageable conn buffer behind protocol := by
  cases protocol with
  | tcp => exact tcp_safe_iff h.pendingOk hne hlen behind
  | udp => exact udp_safe_iff hne behind

theorem handleChannelData_safe_iff_message :
    HandlesSafely .tcp onePeer [0x40, 1, 0, 4, 1, 2, 3, 4] [] ↔
      Manageable onePeer [0x40, 1, 0, 4, 1, 2, 3, 4] [] .tcp :=
  handleChannelData_safe_iff (.created [()] (by decide)) .tcp (by decide) (by decide) []

end Calls

/-- A header with a length close to 2^16: nothing is processed, and data of almost 2^32 bytes are
reported. -/
theorem large_length_reported :
    ¬ ∀ (conn : TurnConnection Unit), Reachable conn →
      ∀ (protocol : KvsSocketProtocol) (buffer behind : List UInt8), buffer ≠ [] →
        buffer.length < 2 ^ 32 → HandlesSafely protocol conn buffer behind := by
  intro h
  have hsafe := h onePeer (.created [()] (by decide)) .tcp [0x40, 1, 0xFF, 0xFC] [] (by decide)
    (by decide)
  have hinside : StepInside (atStart onePeer [0x40, 1, 0xFF, 0xFC] 0) :=
    hsafe.inside _ (.here (goes_atStart (by decide)))
  have hdata := (stepInside_whole rfl rfl (by decide) (by decide)).mp hinside (by decide)
  exact absurd hdata (by decide)

end KvsWebrtc.Ice
