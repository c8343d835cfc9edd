import KvsWebrtc.Common.Chunks
import KvsWebrtc.Ice.TurnChannelData
import Mathlib.Data.List.GetD
import Mathlib.Tactic.SplitIfs

/-!
# Reassembly of channel data

A stream of channel data messages is cut into received buffers.  As long as no buffer ends one to
three bytes into a message, the connection holds after each buffer exactly the bytes of the message
that the cut goes through (`feedBuffer_spec`), and all messages come out.  A buffer that ends there
leaves an incomplete header, and the next call never returns (`feedBuffer_stuck`).
-/

namespace KvsWebrtc.Ice

variable {α : Type} {n : Nat}

/-- A channel data message to one of `n` peers, padded to four bytes. -/
structure ChannelMessage (n : Nat) where
  peer : Fin n
  payload : List UInt8
  padding : List UInt8
  payload_lt : payload.length < 2 ^ 16
  padding_length : padding.length = (4 - payload.length % 4) % 4

namespace ChannelMessage

def encode (m : ChannelMessage n) : List UInt8 :=
  [channelDataFirstByte, UInt8.ofNat (m.peer + 1), UInt8.ofNat (m.payload.length / 256),
    UInt8.ofNat m.payload.length] ++ (m.payload ++ m.padding)

theorem length_encode (m : ChannelMessage n) :
    m.encode.length = 4 + m.payload.length + m.padding.length := by
  unfold encode
  simp only [List.length_append, List.length_cons, List.length_nil]
  omega

theorem roundUp4_payload (m : ChannelMessage n) :
    roundUp4 m.payload.length + channelDataHeaderLen = m.encode.length := by
  have hpad := m.padding_length
  have hlt := m.payload_lt
  rw [length_encode]
  unfold roundUp4 channelDataHeaderLen
  omega

end ChannelMessage

def stream (ms : List (ChannelMessage n)) : List UInt8 := ms.flatMap ChannelMessage.encode

/-- The messages that the first `k` bytes of the stream contain. -/
def completed : List (ChannelMessage n) → Nat → List (ChannelMessage n)
  | [], _ => []
  | m :: ms, k => if k < m.encode.length then [] else m :: completed ms (k - m.encode.length)

/-- The bytes of the message that a cut after `k` bytes goes through, up to the cut. -/
def partBytes : List (ChannelMessage n) → Nat → List UInt8
  | [], _ => []
  | m :: ms, k => if k < m.encode.length then m.encode.take k else
    partBytes ms (k - m.encode.length)

namespace TurnConnection

def holding (conn : TurnConnection α) (part : List UInt8) : TurnConnection α :=
  { conn with recvDataBuffer := part }

def channelData (conn : TurnConnection α) (m : ChannelMessage conn.peers.length) :
    TurnChannelData α where
  data := m.payload
  size := m.payload.length
  senderAddr := conn.peers[m.peer]

end TurnConnection

/-! ### Headers -/

variable {conn : TurnConnection α} {m : ChannelMessage conn.peers.length}
  {ms : List (ChannelMessage conn.peers.length)}

theorem int16At_append_left {a b : List UInt8} {i : Nat} (h : i + 1 < a.length) :
    int16At (a ++ b) i = int16At a i := by
  unfold int16At
  rw [List.getD_append _ _ _ _ (by omega), List.getD_append _ _ _ _ (by omega)]

theorem int16At_encode_channel : int16At m.encode 0 = 0x4001 + m.peer := by
  have hlt : (m.peer : Nat) < defaultTurnMaxPeerCount :=
    Nat.lt_of_lt_of_le m.peer.isLt conn.peers_le
  unfold defaultTurnMaxPeerCount at hlt
  unfold ChannelMessage.encode
  rw [int16At_append_left (show 0 + 1 < 4 by decide)]
  unfold int16At channelDataFirstByte
  simp only [List.getD_cons_succ, List.getD_cons_zero, UInt8.toNat_ofNat']
  have h64 : (0x40 : UInt8).toNat = 64 := rfl
  omega

theorem int16At_encode_length : int16At m.encode 2 = m.payload.length := by
  have hlt := m.payload_lt
  unfold ChannelMessage.encode
  rw [int16At_append_left (show 2 + 1 < 4 by decide)]
  unfold int16At
  simp only [List.getD_cons_succ, List.getD_cons_zero, UInt8.toNat_ofNat']
  omega

theorem lengthField_encode (hlen : m.payload.length < 2 ^ 15) :
    lengthField m.encode = m.payload.length := by
  unfold lengthField
  rw [int16At_encode_length, if_pos hlen]

theorem getPeer_encode :
    conn.turnConnectionGetPeerWithChannelNumber (int16At m.encode 0) = some conn.peers[m.peer] := by
  rw [int16At_encode_channel]
  unfold TurnConnection.turnConnectionGetPeerWithChannelNumber
  rw [if_neg (by omega), show 0x4001 + (m.peer : Nat) - 0x4001 = m.peer by omega]
  exact List.getElem?_eq_getElem m.peer.isLt

theorem channelDataAt_encode (hlen : m.payload.length < 2 ^ 15) (part rest : List UInt8) :
    channelDataAt (conn.holding part) (m.encode ++ rest) = some (conn.channelData m) := by
  have hfour : 4 ≤ m.encode.length := by
    rw [ChannelMessage.length_encode]
    omega
  have h0 : int16At (m.encode ++ rest) 0 = int16At m.encode 0 := int16At_append_left (by omega)
  have h2 : lengthField (m.encode ++ rest) = m.payload.length := by
    rw [← lengthField_encode hlen]
    unfold lengthField
    rw [int16At_append_left (by omega)]
  unfold channelDataAt
  rw [h0, h2]
  have hpeer : (conn.holding part).turnConnectionGetPeerWithChannelNumber (int16At m.encode 0) =
      some conn.peers[m.peer] := getPeer_encode
  rw [hpeer, Option.map_some]
  congr 1
  have hdata : ((m.encode ++ rest).drop channelDataHeaderLen).take m.payload.length =
      m.payload := by
    unfold ChannelMessage.encode
    rw [List.append_assoc]
    show ((m.payload ++ m.padding) ++ rest).take m.payload.length = m.payload
    rw [List.append_assoc, List.take_left]
  rw [hdata]
  rfl

/-! ### One call -/

def startState (conn : TurnConnection α) (buffer : List UInt8) : LoopState α :=
  { conn, cur := buffer, remainingBufLen := buffer.length, remainingMsgSize := 0, found := none }

theorem tcpLoop_of_step {st st' : LoopState α} (hgo : st.remainingBufLen ≠ 0 ∧ st.found = none)
    (hstep : loopStep st = .ok st') (hend : st'.remainingBufLen = 0 ∨ st'.found.isSome) (k : Nat) :
    tcpLoop (k + 1) st = some (.ok st') := by
  rw [tcpLoop, if_neg (by rw [hgo.2]; simp [hgo.1]), hstep]
  dsimp only
  rw [tcpLoop.eq_def]
  dsimp only
  rw [if_pos hend]

/-- The length in a buffer that starts with the header of a message. -/
theorem lengthField_of_part {a b : List UInt8} (hlen : m.payload.length < 2 ^ 15)
    (henc : m.encode = a ++ b) (ha : 4 ≤ a.length) : lengthField a = m.payload.length := by
  rw [← lengthField_encode hlen, henc]
  unfold lengthField
  rw [int16At_append_left (by omega)]

/-- With less than a header, the length that is read makes the message look incomplete. -/
theorem roundUp4_of_short {a b : List UInt8} (hlen : m.payload.length < 2 ^ 15)
    (henc : m.encode = a ++ b) (ha : a.length < 4) :
    4 ≤ (roundUp4 (lengthField a) + channelDataHeaderLen) % 2 ^ 32 := by
  have h3 : a.getD 3 0 = 0 := List.getD_eq_default _ _ (by omega)
  have h2 : (a.getD 2 0).toNat < 128 := by
    by_cases h : a.length ≤ 2
    · rw [List.getD_eq_default _ _ h]
      decide
    · have heq : m.encode.getD 2 0 = a.getD 2 0 := by
        rw [henc, List.getD_append _ _ _ _ (by omega)]
      rw [← heq]
      show (UInt8.ofNat (m.payload.length / 256)).toNat < 128
      rw [UInt8.toNat_ofNat']
      omega
  have hfield : lengthField a < 2 ^ 15 := by
    unfold lengthField int16At
    rw [h3, if_pos]
    · show (a.getD 2 0).toNat * 256 + 0 < 2 ^ 15
      omega
    · show (a.getD 2 0).toNat * 256 + 0 < 2 ^ 15
      omega
  unfold roundUp4 channelDataHeaderLen
  omega

theorem length_encode_le : 4 ≤ m.encode.length ∧ m.encode.length ≤ recvDataBufferSize := by
  have hpad := m.padding_length
  have hlt := m.payload_lt
  rw [ChannelMessage.length_encode]
  unfold recvDataBufferSize
  omega

theorem head?_of_append {a b : List UInt8} (henc : m.encode = a ++ b) (ha : a ≠ []) :
    a.head? = some channelDataFirstByte := by
  have hhead : m.encode.head? = some channelDataFirstByte := rfl
  rwa [henc, List.head?_append_of_ne_nil _ ha] at hhead

/-- A call on a buffer that does not reach the end of the message keeps the bytes. -/
theorem loopStep_partial (conn : TurnConnection α) {m : ChannelMessage conn.peers.length}
    {part buffer rest : List UInt8} (hlen : m.payload.length < 2 ^ 15)
    (henc : m.encode = part ++ buffer ++ rest) (hrest : rest ≠ []) (hbuffer : buffer ≠ [])
    (hpart : part.length = 0 ∨ 4 ≤ part.length) :
    ∃ st, loopStep (startState (conn.holding part) buffer) = .ok st ∧
      st.conn = conn.holding (part ++ buffer) ∧ st.remainingBufLen = 0 ∧ st.found = none := by
  obtain ⟨-, hle⟩ := length_encode_le (m := m)
  have hround := m.roundUp4_payload
  have hlenEq : m.encode.length = part.length + buffer.length + rest.length := by
    rw [henc, List.length_append, List.length_append]
  have hrestPos : 0 < rest.length := List.length_pos_iff.mpr hrest
  unfold loopStep startState TurnConnection.holding
  dsimp only
  obtain hzero | hfour := hpart
  · -- the message starts with the buffer
    obtain rfl := List.length_eq_zero_iff.mp hzero
    rw [List.nil_append] at henc
    rw [if_neg (by simp)]
    unfold startMessage
    dsimp only
    rw [if_neg (by rw [head?_of_append henc hbuffer]; simp)]
    -- with or without a whole header, the message seems longer than the buffer
    have hshort : ¬ buffer.length ≥ (roundUp4 (lengthField buffer) + channelDataHeaderLen) %
        2 ^ 32 := by
      by_cases hb : buffer.length < 4
      · have := roundUp4_of_short hlen henc hb
        omega
      · rw [lengthField_of_part hlen henc (by omega), hround]
        unfold recvDataBufferSize at hle
        rw [List.length_nil] at hlenEq
        omega
    rw [if_neg hshort, if_neg (by rw [List.length_nil] at hlenEq; omega)]
    exact ⟨_, rfl, by rw [List.take_length, List.nil_append], rfl, rfl⟩
  · -- the message has started before
    have hfield : lengthField part = m.payload.length :=
      lengthField_of_part hlen (by rw [henc, List.append_assoc]) hfour
    rw [if_pos (by omega)]
    unfold continueMessage
    dsimp only
    rw [if_pos (show part.length ≥ channelDataHeaderLen from hfour), hfield]
    unfold recvDataBufferSize at hle
    have hheader : channelDataHeaderLen = 4 := rfl
    have hcopy : min ((roundUp4 m.payload.length + 2 ^ 32 - (part.length - channelDataHeaderLen)) %
        2 ^ 32) buffer.length = buffer.length := by
      rw [hheader] at hround ⊢
      omega
    rw [hcopy, if_neg (by unfold recvDataBufferSize; omega), List.take_length, hround,
      if_neg (by rw [List.length_append]; omega)]
    exact ⟨_, rfl, rfl, Nat.sub_self _, rfl⟩

/-- A call on a buffer that reaches the end of the message hands it on. -/
theorem loopStep_complete (conn : TurnConnection α) {m : ChannelMessage conn.peers.length}
    {part need : List UInt8} (rest : List UInt8) (hlen : m.payload.length < 2 ^ 15)
    (henc : m.encode = part ++ need) (hpart : part.length = 0 ∨ 4 ≤ part.length) :
    ∃ st, loopStep (startState (conn.holding part) (need ++ rest)) = .ok st ∧
      st.conn = conn.holding [] ∧ st.remainingBufLen = rest.length ∧
      st.found = some (conn.channelData m) := by
  obtain ⟨hge, hle⟩ := length_encode_le (m := m)
  have hround := m.roundUp4_payload
  have hlenEq : m.encode.length = part.length + need.length := by
    rw [henc, List.length_append]
  unfold recvDataBufferSize at hle
  unfold loopStep startState TurnConnection.holding
  dsimp only
  obtain hzero | hfour := hpart
  · obtain rfl := List.length_eq_zero_iff.mp hzero
    rw [List.nil_append] at henc
    rw [← henc, if_neg (by simp)]
    unfold startMessage
    dsimp only
    -- the header lies in the message, not in what follows it
    have hfield : lengthField (m.encode ++ rest) = m.payload.length := by
      rw [← lengthField_encode hlen]
      unfold lengthField
      rw [int16At_append_left (by omega)]
    have hhead : (m.encode ++ rest).head? = some channelDataFirstByte := rfl
    rw [if_neg (by rw [hhead]; simp), hfield, hround, Nat.mod_eq_of_lt (by omega),
      if_pos (by rw [List.length_append]; omega)]
    refine ⟨_, rfl, rfl, ?_, channelDataAt_encode hlen [] rest⟩
    dsimp only
    rw [List.length_append, Nat.add_sub_cancel_left]
  · have hfield : lengthField part = m.payload.length := lengthField_of_part hlen henc hfour
    rw [if_pos (by omega)]
    unfold continueMessage
    dsimp only
    rw [if_pos (show part.length ≥ channelDataHeaderLen from hfour), hfield]
    have hheader : channelDataHeaderLen = 4 := rfl
    -- as many bytes are copied as the message lacks
    have hcopy : min ((roundUp4 m.payload.length + 2 ^ 32 - (part.length - channelDataHeaderLen)) %
        2 ^ 32) (need ++ rest).length = need.length := by
      rw [hheader] at hround ⊢
      rw [List.length_append]
      omega
    rw [hcopy, if_neg (by unfold recvDataBufferSize; omega), List.take_left, ← henc, hround,
      Nat.mod_eq_of_lt (by omega), if_pos rfl]
    refine ⟨_, rfl, rfl, ?_, ?_⟩
    · dsimp only
      rw [List.length_append, Nat.add_sub_cancel_left]
    · have hfound := channelDataAt_encode hlen [] []
      rwa [List.append_nil] at hfound

theorem handle_partial (conn : TurnConnection α) {m : ChannelMessage conn.peers.length}
    (part buffer rest : List UInt8) (hlen : m.payload.length < 2 ^ 15)
    (henc : m.encode = part ++ buffer ++ rest) (hrest : rest ≠ []) (hbuffer : buffer ≠ [])
    (hpart : part.length = 0 ∨ 4 ≤ part.length) (k : Nat) :
    turnConnectionHandleChannelDataTcpMode (k + 1) (conn.holding part) buffer =
      some (.ok (none, buffer.length, conn.holding (part ++ buffer))) := by
  obtain ⟨st, hstep, hconn, hrem, hfound⟩ :=
    loopStep_partial conn hlen henc hrest hbuffer hpart
  have hloop := tcpLoop_of_step ⟨fun h => hbuffer (List.length_eq_zero_iff.mp h), rfl⟩ hstep
    (Or.inl hrem) k
  show (tcpLoop (k + 1) (startState (conn.holding part) buffer)).map _ = _
  rw [hloop]
  show some (Except.ok (st.found, buffer.length - st.remainingBufLen, st.conn)) = _
  rw [hfound, hrem, hconn, Nat.sub_zero]

theorem handle_complete (conn : TurnConnection α) {m : ChannelMessage conn.peers.length}
    {part need : List UInt8} (rest : List UInt8) (hlen : m.payload.length < 2 ^ 15)
    (henc : m.encode = part ++ need) (hneed : need ≠ [])
    (hpart : part.length = 0 ∨ 4 ≤ part.length) (k : Nat) :
    turnConnectionHandleChannelDataTcpMode (k + 1) (conn.holding part) (need ++ rest) =
      some (.ok (some (conn.channelData m), need.length, conn.holding [])) := by
  obtain ⟨st, hstep, hconn, hrem, hfound⟩ :=
    loopStep_complete conn rest hlen henc hpart
  have hne : (need ++ rest).length ≠ 0 := by
    rw [List.length_append]
    have := List.length_pos_iff.mpr hneed
    omega
  have hloop := tcpLoop_of_step ⟨hne, rfl⟩ hstep (Or.inr (by rw [hfound]; rfl)) k
  show (tcpLoop (k + 1) (startState (conn.holding part) (need ++ rest))).map _ = _
  rw [hloop]
  show some (Except.ok (st.found, (need ++ rest).length - st.remainingBufLen, st.conn)) = _
  rw [hfound, hrem, hconn, List.length_append, Nat.add_sub_cancel]

/-! ### A buffer -/

theorem feedBuffer_nil (fuel calls : Nat) (conn : TurnConnection α) :
    feedBuffer fuel calls conn [] = some (.ok ([], conn)) := by
  cases calls <;> rfl

theorem feedBuffer_of_handle {fuel calls processed : Nat} {c c' last : TurnConnection α}
    {buffer : List UInt8} {found : Option (TurnChannelData α)} {rest : List (TurnChannelData α)}
    (hbuffer : buffer ≠ [])
    (hhandle : turnConnectionHandleChannelDataTcpMode fuel c buffer =
      some (.ok (found, processed, c')))
    (hrest : feedBuffer fuel calls c' (buffer.drop processed) = some (.ok (rest, last))) :
    feedBuffer fuel (calls + 1) c buffer = some (.ok (found.toList ++ rest, last)) := by
  cases buffer with
  | nil => exact absurd rfl hbuffer
  | cons b bs =>
    rw [feedBuffer, hhandle]
    dsimp only
    rw [hrest]

theorem stream_cons (m : ChannelMessage n) (ms : List (ChannelMessage n)) :
    stream (m :: ms) = m.encode ++ stream ms := rfl

theorem partBytes_zero (ms : List (ChannelMessage n)) : partBytes ms 0 = [] := by
  cases ms with
  | nil => rfl
  | cons m ms =>
    have hpos : 0 < m.encode.length := by
      rw [ChannelMessage.length_encode]
      omega
    rw [partBytes, if_pos hpos, List.take_zero]

theorem completed_zero (ms : List (ChannelMessage n)) : completed ms 0 = [] := by
  cases ms with
  | nil => rfl
  | cons m ms =>
    have hpos : 0 < m.encode.length := by
      rw [ChannelMessage.length_encode]
      omega
    rw [completed, if_pos hpos]

/-- **A buffer**: after `k` bytes of the stream, unless a header is incomplete, the messages that
the buffer completes are handed on, and the connection holds the bytes of the next one. -/
theorem feedBuffer_spec (conn : TurnConnection α) {ms : List (ChannelMessage conn.peers.length)}
    (fuel : Nat) (hlen : ∀ m ∈ ms, m.payload.length < 2 ^ 15) (k calls : Nat)
    (buffer : List UInt8) {rest : List UInt8} (hstream : (stream ms).drop k = buffer ++ rest)
    (hpart : (partBytes ms k).length = 0 ∨ 4 ≤ (partBytes ms k).length)
    (hcalls : ms.length < calls) :
    ∃ new, completed ms (k + buffer.length) = completed ms k ++ new ∧
      feedBuffer (fuel + 1) calls (conn.holding (partBytes ms k)) buffer =
        some (.ok (new.map conn.channelData,
          conn.holding (partBytes ms (k + buffer.length)))) := by
  induction ms generalizing k calls buffer with
  | nil =>
    have hnil : [] = buffer ++ rest := by
      rw [← hstream]
      exact List.drop_nil.symm
    obtain ⟨rfl, -⟩ := List.append_eq_nil_iff.mp hnil.symm
    exact ⟨[], rfl, feedBuffer_nil _ _ _⟩
  | cons m ms ih =>
    obtain ⟨hm, hms⟩ := List.forall_mem_cons.mp hlen
    obtain ⟨calls, rfl⟩ : ∃ c, calls = c + 1 := ⟨calls - 1, by omega⟩
    rw [List.length_cons] at hcalls
    rw [stream_cons] at hstream
    by_cases hk : k < m.encode.length
    · rw [partBytes, if_pos hk] at hpart ⊢
      rw [List.drop_append_of_le_length (Nat.le_of_lt hk)] at hstream
      by_cases hb : k + buffer.length < m.encode.length
      · -- the buffer ends in the same message
        refine ⟨[], by rw [completed, if_pos hb, completed, if_pos hk]; rfl, ?_⟩
        have htake : buffer = (m.encode.drop k).take buffer.length := by
          have h := congrArg (List.take buffer.length) hstream
          rw [List.take_left, List.take_append_of_le_length (by rw [List.length_drop]; omega)] at h
          exact h.symm
        have hpartEq : m.encode.take (k + buffer.length) = m.encode.take k ++ buffer := by
          rw [List.take_add, ← htake]
        rw [partBytes, if_pos hb, hpartEq]
        by_cases hbuf : buffer = []
        · rw [hbuf, feedBuffer_nil, List.append_nil]
          rfl
        have hhandle := handle_partial conn (m.encode.take k) buffer
          (m.encode.drop (k + buffer.length)) hm
          (by rw [← hpartEq, List.take_append_drop])
          (by intro h; have := List.drop_eq_nil_iff.mp h; omega) hbuf hpart fuel
        refine feedBuffer_of_handle hbuf hhandle ?_
        rw [List.drop_length]
        exact feedBuffer_nil _ _ _
      · -- the buffer completes the message
        have hneed : m.encode.drop k ≠ [] := by
          intro h
          have := List.drop_eq_nil_iff.mp h
          omega
        obtain ⟨buffer', hbuf, hrest⟩ : ∃ buffer', buffer = m.encode.drop k ++ buffer' ∧
            stream ms = buffer' ++ rest := by
          refine ⟨buffer.drop (m.encode.drop k).length, ?_, ?_⟩
          · have h := congrArg (List.take (m.encode.drop k).length) hstream
            rw [List.take_left, List.take_append_of_le_length
              (by rw [List.length_drop]; omega)] at h
            rw [h, List.length_take, List.length_drop, Nat.min_eq_left (by omega),
              List.take_append_drop]
          · have h := congrArg (List.drop (m.encode.drop k).length) hstream
            rw [List.drop_left, List.drop_append_of_le_length
              (by rw [List.length_drop]; omega)] at h
            exact h
        obtain ⟨new, hnew, hfeed⟩ := ih hms 0 calls buffer'
          (by rw [List.drop_zero]; exact hrest) (by rw [partBytes_zero]; exact Or.inl rfl)
          (by omega)
        have hsum : k + buffer.length - m.encode.length = buffer'.length := by
          rw [hbuf, List.length_append, List.length_drop]
          omega
        rw [completed_zero, List.nil_append, Nat.zero_add] at hnew
        rw [partBytes_zero, Nat.zero_add] at hfeed
        refine ⟨m :: new, ?_, ?_⟩
        · rw [completed, if_neg hb, completed, if_pos hk, hsum, hnew]
          rfl
        · rw [partBytes, if_neg hb, hsum, hbuf]
          have hhandle := handle_complete conn buffer' hm
            (List.take_append_drop k m.encode).symm hneed hpart fuel
          -- the rest of the buffer starts the next message
          refine feedBuffer_of_handle (by simp [hneed]) hhandle ?_
          rw [List.drop_left]
          exact hfeed
    · -- the message was complete before
      rw [partBytes, if_neg hk] at hpart ⊢
      rw [List.drop_append, List.drop_eq_nil_of_le (by omega), List.nil_append] at hstream
      obtain ⟨new, hnew, hfeed⟩ := ih hms _ (calls + 1) _ hstream hpart (by omega)
      have hsum : k + buffer.length - m.encode.length = k - m.encode.length + buffer.length := by
        omega
      refine ⟨new, ?_, ?_⟩
      · rw [completed, if_neg (by omega), completed, if_neg hk, hsum, hnew]
        rfl
      · rw [partBytes, if_neg (by omega), hsum]
        exact hfeed

/-! ### A call that does not return -/

/-- An incomplete header: an iteration changes nothing. -/
theorem loopStep_stuck {part buffer : List UInt8} (hpart : part.length ≠ 0 ∧ part.length < 4) :
    loopStep (startState (conn.holding part) buffer) = .ok
    (startState (conn.holding part) buffer) := by
  unfold loopStep startState TurnConnection.holding
  dsimp only
  rw [if_pos hpart.1]
  unfold continueMessage
  dsimp only
  rw [if_neg (show ¬ part.length ≥ channelDataHeaderLen by unfold channelDataHeaderLen; omega)]
  rw [Nat.zero_min, List.take_zero, List.append_nil, List.drop_zero]

/-- **An incomplete header**: the next call never returns. -/
theorem handle_stuck {part buffer : List UInt8} (hpart : part.length ≠ 0 ∧ part.length < 4)
    (hbuffer : buffer ≠ []) (fuel : Nat) :
    turnConnectionHandleChannelDataTcpMode fuel (conn.holding part) buffer = none := by
  have hloop : tcpLoop fuel (startState (conn.holding part) buffer) = none := by
    have hgo : ¬ ((startState (conn.holding part) buffer).remainingBufLen = 0 ∨
        (startState (conn.holding part) buffer).found.isSome) := by
      rintro (h | h)
      · exact hbuffer (List.length_eq_zero_iff.mp h)
      · cases h
    induction fuel with
    | zero => rw [tcpLoop, if_neg hgo]
    | succ fuel ih =>
      rw [tcpLoop, if_neg hgo, loopStep_stuck hpart]
      exact ih
  show (tcpLoop fuel (startState (conn.holding part) buffer)).map _ = none
  rw [hloop]
  rfl

theorem feedBuffer_stuck {part buffer : List UInt8} (hpart : part.length ≠ 0 ∧ part.length < 4)
    (hbuffer : buffer ≠ []) (fuel calls : Nat) :
    feedBuffer fuel calls (conn.holding part) buffer = none := by
  cases buffer with
  | nil => exact absurd rfl hbuffer
  | cons b bs =>
    cases calls with
    | zero => rfl
    | succ calls => rw [feedBuffer, handle_stuck hpart hbuffer]

/-! ### More fuel -/

theorem tcpLoop_mono {k l : Nat} (hkl : k ≤ l) {st : LoopState α}
    {r : Except (Status × TurnConnection α) (LoopState α)} (h : tcpLoop k st = some r) :
    tcpLoop l st = some r := by
  induction k generalizing l st with
  | zero =>
    rw [tcpLoop] at h
    rw [tcpLoop.eq_def]
    dsimp only
    split_ifs at h ⊢
    exact h
  | succ k ih =>
    obtain ⟨l, rfl⟩ : ∃ n, l = n + 1 := ⟨l - 1, by omega⟩
    rw [tcpLoop] at h ⊢
    split_ifs at h ⊢ with hend
    · exact h
    · cases hstep : loopStep st with
      | error e =>
        rw [hstep] at h
        exact h
      | ok st' =>
        rw [hstep] at h
        exact ih (by omega) h

theorem handle_mono {k l : Nat} (hkl : k ≤ l) {c : TurnConnection α} {buffer : List UInt8}
    {r : Except (Status × TurnConnection α) (Option (TurnChannelData α) × Nat × TurnConnection α)}
    (h : turnConnectionHandleChannelDataTcpMode k c buffer = some r) :
    turnConnectionHandleChannelDataTcpMode l c buffer = some r := by
  unfold turnConnectionHandleChannelDataTcpMode at h ⊢
  obtain ⟨q, hq, rfl⟩ := Option.map_eq_some_iff.mp h
  exact Option.map_eq_some_iff.mpr ⟨q, tcpLoop_mono hkl hq, rfl⟩

theorem feedBuffer_mono {fuel fuel' calls calls' : Nat} (hfuel : fuel ≤ fuel')
    (hcalls : calls ≤ calls') {c : TurnConnection α} {buffer : List UInt8}
    {r : Except (Status × TurnConnection α) (List (TurnChannelData α) × TurnConnection α)}
    (h : feedBuffer fuel calls c buffer = some r) : feedBuffer fuel' calls' c buffer = some r := by
  induction calls generalizing calls' c buffer r with
  | zero =>
    cases buffer with
    | nil =>
      rw [feedBuffer_nil] at h ⊢
      exact h
    | cons b bs => cases h
  | succ calls ih =>
    cases buffer with
    | nil =>
      rw [feedBuffer_nil] at h ⊢
      exact h
    | cons b bs =>
      obtain ⟨calls', rfl⟩ : ∃ n, calls' = n + 1 := ⟨calls' - 1, by omega⟩
      rw [feedBuffer] at h ⊢
      cases hhandle : turnConnectionHandleChannelDataTcpMode fuel c (b :: bs) with
      | none =>
        rw [hhandle] at h
        cases h
      | some q =>
        rw [handle_mono hfuel hhandle]
        rw [hhandle] at h
        obtain e | ⟨found, processed, c'⟩ := q
        · exact h
        · dsimp only at h ⊢
          cases hrest : feedBuffer fuel calls c' ((b :: bs).drop processed) with
          | none =>
            rw [hrest] at h
            cases h
          | some q =>
            rw [ih (by omega) hrest]
            rw [hrest] at h
            exact h

/-! ### Sizes that are handed on -/

/-- The size of a message as read from a header: a length from 2^15 on is taken for a negative
one. -/
def ReadSize (size : Nat) : Prop := size < 2 ^ 15 ∨ 2 ^ 16 ≤ size

theorem readSize_lengthField (b : List UInt8) : ReadSize (lengthField b) := by
  unfold lengthField ReadSize
  split_ifs with h
  · exact Or.inl h
  · right
    omega

theorem channelDataAt_size {c : TurnConnection α} {b : List UInt8} {x : TurnChannelData α}
    (h : channelDataAt c b = some x) : ReadSize x.size := by
  unfold channelDataAt at h
  obtain ⟨peer, -, rfl⟩ := Option.map_eq_some_iff.mp h
  exact readSize_lengthField b

theorem loopStep_found {st st' : LoopState α} (h : loopStep st = .ok st') :
    st'.found = st.found ∨ ∃ c b, st'.found = channelDataAt c b := by
  unfold loopStep continueMessage startMessage at h
  dsimp only at h
  split_ifs at h <;> cases h
  all_goals first
    | exact Or.inl rfl
    | exact Or.inr ⟨_, _, rfl⟩

/-- A property of everything that is read from a header holds of what the loop finds. -/
theorem tcpLoop_found {P : TurnChannelData α → Prop}
    (hread : ∀ (c : TurnConnection α) b x, channelDataAt c b = some x → P x) {k : Nat}
    {st st' : LoopState α} (h : tcpLoop k st = some (.ok st'))
    (hst : ∀ x, st.found = some x → P x) :
    ∀ x, st'.found = some x → P x := by
  induction k generalizing st with
  | zero =>
    rw [tcpLoop] at h
    split_ifs at h
    cases h
    exact hst
  | succ k ih =>
    rw [tcpLoop] at h
    split_ifs at h
    · cases h
      exact hst
    · cases hstep : loopStep st with
      | error e =>
        rw [hstep] at h
        cases h
      | ok st₁ =>
        rw [hstep] at h
        refine ih h fun x hx => ?_
        obtain heq | ⟨c, b, heq⟩ := loopStep_found hstep
        · exact hst x (heq.symm.trans hx)
        · exact hread c b x (heq.symm.trans hx)

theorem handle_found {P : TurnChannelData α → Prop}
    (hread : ∀ (c : TurnConnection α) b x, channelDataAt c b = some x → P x) {fuel processed : Nat}
    {c last : TurnConnection α} {buffer : List UInt8} {found : Option (TurnChannelData α)}
    (h : turnConnectionHandleChannelDataTcpMode fuel c buffer =
      some (.ok (found, processed, last))) :
    ∀ x, found = some x → P x := by
  unfold turnConnectionHandleChannelDataTcpMode at h
  obtain ⟨q, hq, hqmap⟩ := Option.map_eq_some_iff.mp h
  obtain e | st := q
  · cases hqmap
  · obtain rfl : st.found = found := congrArg Prod.fst (Except.ok.inj hqmap)
    exact tcpLoop_found hread hq fun x hx => by cases hx

theorem handle_size {fuel processed : Nat}
    {c last : TurnConnection α} {buffer : List UInt8} {x : TurnChannelData α}
    (h : turnConnectionHandleChannelDataTcpMode fuel c buffer =
      some (.ok (some x, processed, last))) :
    ∃ b, x.size = lengthField b := by
  refine handle_found (P := fun x => ∃ b, x.size = lengthField b) (fun c b y hy => ?_) h x rfl
  rw [channelDataAt] at hy
  obtain ⟨peer, -, rfl⟩ := Option.map_eq_some_iff.mp hy
  exact ⟨b, rfl⟩

theorem feedBuffer_size {fuel calls : Nat} {c last : TurnConnection α} {buffer : List UInt8}
    {items : List (TurnChannelData α)}
    (h : feedBuffer fuel calls c buffer = some (.ok (items, last))) :
    ∀ x ∈ items, ReadSize x.size := by
  induction calls generalizing c buffer items with
  | zero =>
    cases buffer with
    | nil =>
      cases h
      intro x hx
      cases hx
    | cons b bs => cases h
  | succ calls ih =>
    cases buffer with
    | nil =>
      cases h
      intro x hx
      cases hx
    | cons b bs =>
      rw [feedBuffer] at h
      cases hhandle : turnConnectionHandleChannelDataTcpMode fuel c (b :: bs) with
      | none =>
        rw [hhandle] at h
        cases h
      | some q =>
        rw [hhandle] at h
        obtain e | ⟨found, processed, c'⟩ := q
        · cases h
        dsimp only at h
        split at h
        · cases h
        · cases h
        · rename_i rest last' hrest
          cases h
          intro x hx
          obtain hx | hx := List.mem_append.mp hx
          · exact handle_found (fun _ _ _ => channelDataAt_size) hhandle x (Option.mem_toList.mp hx)
          · exact ih hrest x hx

/-! ### The received buffers -/

theorem feed_cons_iff {fuel : Nat} {c last : TurnConnection α} {buffer : List UInt8}
    {buffers : List (List UInt8)} {items : List (TurnChannelData α)} :
    feed fuel c (buffer :: buffers) = some (.ok (items, last)) ↔
      ∃ found c' rest, feedBuffer fuel fuel c buffer = some (.ok (found, c')) ∧
        feed fuel c' buffers = some (.ok (rest, last)) ∧ items = found ++ rest := by
  rw [feed]
  constructor
  · intro h
    split at h
    · cases h
    · cases h
    · rename_i found c' hfound
      split at h
      · cases h
      · cases h
      · rename_i rest last' hrest
        cases h
        exact ⟨found, c', rest, hfound, hrest, rfl⟩
  · rintro ⟨found, c', rest, hfound, hrest, rfl⟩
    rw [hfound]
    dsimp only
    rw [hrest]

theorem feed_size {fuel : Nat} {c last : TurnConnection α} {buffers : List (List UInt8)}
    {items : List (TurnChannelData α)} (h : feed fuel c buffers = some (.ok (items, last))) :
    ∀ x ∈ items, ReadSize x.size := by
  induction buffers generalizing c items with
  | nil =>
    cases h
    intro x hx
    cases hx
  | cons buffer buffers ih =>
    obtain ⟨found, c', rest, hfound, hrest, rfl⟩ := feed_cons_iff.mp h
    intro x hx
    obtain hx | hx := List.mem_append.mp hx
    · exact feedBuffer_size hfound x hx
    · exact ih hrest x hx

/-- A cut after `k` bytes of the stream does not go through a header. -/
def CutOk (ms : List (ChannelMessage n)) (k : Nat) : Prop :=
  (partBytes ms k).length = 0 ∨ 4 ≤ (partBytes ms k).length

/-- No buffer ends one to three bytes into a message. -/
def NoHeaderCut (ms : List (ChannelMessage n)) (buffers : List (List UInt8)) : Prop :=
  ∀ ps qs, buffers = ps ++ qs → CutOk ms ps.flatten.length

/-- **The buffers**: without a cut through a header, the messages that they complete are handed
on. -/
theorem feed_spec (conn : TurnConnection α) {ms : List (ChannelMessage conn.peers.length)}
    (hlen : ∀ m ∈ ms, m.payload.length < 2 ^ 15) (k : Nat) {fuel : Nat} (hfuel : ms.length ≤ fuel)
    {buffers : List (List UInt8)} (rest : List UInt8)
    (hstream : (stream ms).drop k = buffers.flatten ++ rest)
    (hcuts : ∀ ps qs, buffers = ps ++ qs → CutOk ms (k + ps.flatten.length)) :
    ∃ new, completed ms (k + buffers.flatten.length) = completed ms k ++ new ∧
      feed (fuel + 1) (conn.holding (partBytes ms k)) buffers =
        some (.ok (new.map conn.channelData,
          conn.holding (partBytes ms (k + buffers.flatten.length)))) := by
  induction buffers generalizing k with
  | nil => exact ⟨[], (List.append_nil _).symm, rfl⟩
  | cons buffer buffers ih =>
    rw [List.flatten_cons, List.append_assoc] at hstream
    obtain ⟨new, hnew, hfeed⟩ := feedBuffer_spec conn fuel hlen _ _ _ hstream
      (hcuts [] (buffer :: buffers) rfl) (Nat.lt_succ_of_le hfuel)
    have hstream' : (stream ms).drop (k + buffer.length) = buffers.flatten ++ rest := by
      rw [← List.drop_drop, hstream, List.drop_left]
    obtain ⟨new', hnew', hfeed'⟩ := ih _ hstream' (by
      intro ps qs heq
      have hcut := hcuts (buffer :: ps) qs (by rw [heq]; rfl)
      rwa [List.flatten_cons, List.length_append, ← Nat.add_assoc] at hcut)
    rw [Nat.add_assoc] at hnew' hfeed'
    refine ⟨new ++ new', ?_, ?_⟩
    · rw [List.flatten_cons, List.length_append, hnew', hnew, List.append_assoc]
    · rw [List.flatten_cons, List.length_append, List.map_append]
      exact feed_cons_iff.mpr ⟨_, _, _, hfeed, hfeed', rfl⟩

/-- **The converse**: if all calls return, no buffer but the last ends in a header. -/
theorem cutOk_of_feed (hlen : ∀ m ∈ ms, m.payload.length < 2 ^ 15) (k : Nat) {fuel : Nat}
    {buffers : List (List UInt8)} (hne : ∀ b ∈ buffers, b ≠ [])
    (hstream : (stream ms).drop k = buffers.flatten) {items : List (TurnChannelData α)}
    {last : TurnConnection α}
    (h : feed fuel (conn.holding (partBytes ms k)) buffers = some (.ok (items, last))) :
    ∀ ps qs, buffers = ps ++ qs → qs ≠ [] → CutOk ms (k + ps.flatten.length) := by
  induction buffers generalizing k items with
  | nil =>
    intro ps qs heq hqs
    exact absurd (List.append_eq_nil_iff.mp heq.symm).2 hqs
  | cons buffer buffers ih =>
    obtain ⟨found, c', rest, hfound, hrest, rfl⟩ := feed_cons_iff.mp h
    -- the first buffer did not find an incomplete header
    have hcut : CutOk ms k := by
      unfold CutOk
      by_contra hbad
      have hpart : (partBytes ms k).length ≠ 0 ∧ (partBytes ms k).length < 4 := by omega
      rw [feedBuffer_stuck hpart (hne buffer List.mem_cons_self)] at hfound
      cases hfound
    rw [List.flatten_cons] at hstream
    obtain ⟨new, -, hfeed⟩ := feedBuffer_spec conn (fuel + ms.length) hlen _ _ _ hstream
      hcut (show ms.length < fuel + ms.length + 1 by omega)
    have hsame := feedBuffer_mono (show fuel ≤ fuel + ms.length + 1 by omega)
      (show fuel ≤ fuel + ms.length + 1 by omega) hfound
    rw [hfeed] at hsame
    cases hsame
    intro ps qs heq hqs
    cases ps with
    | nil => exact hcut
    | cons p ps =>
      obtain ⟨rfl, rfl⟩ := List.cons.inj heq
      have hcut' := ih _ (fun b hb => hne b (List.mem_cons_of_mem buffer hb))
        (by rw [← List.drop_drop, hstream, List.drop_left]) hrest ps qs rfl hqs
      rwa [List.flatten_cons, List.length_append, ← Nat.add_assoc]

theorem partBytes_all (ms : List (ChannelMessage n)) : partBytes ms (stream ms).length = [] := by
  induction ms with
  | nil => rfl
  | cons m ms ih =>
    rw [stream_cons, List.length_append, partBytes, if_neg (by omega), Nat.add_sub_cancel_left]
    exact ih

theorem completed_all (ms : List (ChannelMessage n)) : completed ms (stream ms).length = ms := by
  induction ms with
  | nil => rfl
  | cons m ms ih =>
    rw [stream_cons, List.length_append, completed, if_neg (by omega), Nat.add_sub_cancel_left, ih]

/-- The buffers yield the messages, as does the whole stream at once, and nothing is kept. -/
def Reassembles (conn : TurnConnection α) (ms : List (ChannelMessage conn.peers.length))
    (buffers : List (List UInt8)) : Prop :=
  ∃ fuel last whole,
    feed fuel (conn.holding []) buffers = some (.ok (ms.map conn.channelData, last)) ∧
    last.recvDataBuffer.length = 0 ∧
    feed fuel (conn.holding []) [stream ms] = some (.ok (ms.map conn.channelData, whole))

theorem reassembles_of_noHeaderCut (conn : TurnConnection α)
    {ms : List (ChannelMessage conn.peers.length)} (buffers : List (List UInt8))
    (hlen : ∀ m ∈ ms, m.payload.length < 2 ^ 15) (hflat : buffers.flatten = stream ms)
    (hcuts : NoHeaderCut ms buffers) :
    ∃ last, feed (ms.length + 1) (conn.holding []) buffers =
      some (.ok (ms.map conn.channelData, last)) ∧ last.recvDataBuffer.length = 0 := by
  obtain ⟨new, hnew, hfeed⟩ := feed_spec conn hlen 0
    (Nat.le_refl ms.length) [] (by rw [List.append_nil, hflat, List.drop_zero]) (by
      intro ps qs heq
      rw [Nat.zero_add]
      exact hcuts ps qs heq)
  rw [Nat.zero_add, hflat] at hnew hfeed
  rw [completed_zero, List.nil_append, completed_all] at hnew
  rw [partBytes_zero, partBytes_all, ← hnew] at hfeed
  exact ⟨_, hfeed, rfl⟩

theorem noHeaderCut_single (ms : List (ChannelMessage n)) : NoHeaderCut ms [stream ms] := by
  intro ps qs heq
  left
  cases ps with
  | nil => exact congrArg List.length (partBytes_zero ms)
  | cons p ps =>
    obtain ⟨rfl, hnil⟩ := List.cons.inj heq
    obtain ⟨rfl, -⟩ := List.append_eq_nil_iff.mp hnil.symm
    rw [List.flatten_cons, List.flatten_nil, List.append_nil, partBytes_all]
    rfl

/-- **Reassembly**: for every stream of messages and every way to cut it into received buffers, the
buffers yield the messages if and only if every payload is shorter than 2^15 bytes and no buffer
ends one to three bytes into a message. -/
theorem reassembles_iff (conn : TurnConnection α) (ms : List (ChannelMessage conn.peers.length))
    (buffers : { b : List (List UInt8) // IsChunking b (stream ms) }) :
    Reassembles conn ms buffers ↔
      (∀ m ∈ ms, m.payload.length < 2 ^ 15) ∧ NoHeaderCut ms buffers := by
  obtain ⟨buffers, hchunks⟩ := buffers
  constructor
  · rintro ⟨fuel, last, whole, hfeed, -, -⟩
    have hlen : ∀ m ∈ ms, m.payload.length < 2 ^ 15 := by
      intro m hm
      have hsize : ReadSize m.payload.length := feed_size hfeed _ (List.mem_map_of_mem hm)
      have hlt := m.payload_lt
      unfold ReadSize at hsize
      omega
    refine ⟨hlen, fun ps qs heq => ?_⟩
    by_cases hqs : qs = []
    · left
      rw [hqs, List.append_nil] at heq
      rw [← heq, hchunks.flatten, partBytes_all]
      rfl
    · have hcut := cutOk_of_feed hlen 0 hchunks.ne_nil
        (by rw [List.drop_zero, hchunks.flatten]) (by rw [partBytes_zero]; exact hfeed) ps qs heq
        hqs
      rwa [Nat.zero_add] at hcut
  · rintro ⟨hlen, hcuts⟩
    obtain ⟨last, hfeed, hlast⟩ := reassembles_of_noHeaderCut conn buffers hlen hchunks.flatten
      hcuts
    obtain ⟨whole, hwhole, -⟩ := reassembles_of_noHeaderCut conn [stream ms] hlen
      (by rw [List.flatten_cons, List.flatten_nil, List.append_nil]) (noHeaderCut_single ms)
    exact ⟨_, last, whole, hfeed, hlast, hwhole⟩

def onePeer : TurnConnection Unit where
  peers := [()]
  peers_le := by decide
  recvDataBuffer := []

def shortMessage : ChannelMessage onePeer.peers.length where
  peer := ⟨0, by decide⟩
  payload := [1, 2, 3, 4]
  padding := []
  payload_lt := by decide
  padding_length := rfl

theorem cut_header_not_reassembled :
    ¬ ∀ (conn : TurnConnection Unit) (ms : List (ChannelMessage conn.peers.length))
      (buffers : { b : List (List UInt8) // IsChunking b (stream ms) }),
      Reassembles conn ms buffers := by
  intro h
  have hchunks : IsChunking [[0x40, 1], [0, 4, 1, 2, 3, 4]] (stream [shortMessage]) := by
    refine ⟨?_, by decide⟩
    intro c hc
    rcases List.mem_pair.mp hc with rfl | rfl <;> exact List.cons_ne_nil _ _
  obtain ⟨fuel, last, whole, hfeed, -, -⟩ := h onePeer [shortMessage] ⟨_, hchunks⟩
  have hcut := cutOk_of_feed (k := 0)
    (fun m hm => by rw [List.mem_singleton.mp hm]; decide) hchunks.ne_nil hchunks.flatten.symm hfeed
    [[0x40, 1]] [[0, 4, 1, 2, 3, 4]] rfl (List.cons_ne_nil _ _)
  revert hcut
  unfold CutOk
  decide

end KvsWebrtc.Ice
