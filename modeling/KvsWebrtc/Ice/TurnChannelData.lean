import KvsWebrtc.Ice.Agent

/-!
# Channel data over TCP

`turnConnectionHandleChannelDataTcpMode` of `Ice/TurnConnection.c`, and the loop of its caller that
hands it the rest of a received buffer until all is processed.  The bytes of a message that is not
complete are kept in `recvDataBuffer`, whose length is `currRecvDataLen`.

`getInt16` returns a signed number, so that as an unsigned one a length from 2^15 on is close to
2^32; all arithmetic on lengths is modulo 2^32.  The loop of a call need not end, so it has fuel,
and a call that runs out of it has no result.

`turnConnectionHandleChannelData` of `Ice/TurnConnection.c` for both protocols, and for each
iteration of the loop over TCP what it reads of the received bytes and where it writes.
-/

namespace KvsWebrtc.Ice

/-- `DEFAULT_TURN_MESSAGE_RECV_CHANNEL_DATA_BUFFER_LEN`, the size of the receive buffer. -/
def recvDataBufferSize : Nat := 4 + 65536

/-- `TURN_DATA_CHANNEL_SEND_OVERHEAD`. -/
def channelDataHeaderLen : Nat := 4

/-- `TURN_DATA_CHANNEL_MSG_FIRST_BYTE`. -/
def channelDataFirstByte : UInt8 := 0x40

/-- The part of a TURN connection that channel data uses: the addresses of the peers, in the order
in which they were added, and the incomplete message. -/
structure TurnConnection (α : Type) where
  peers : List α
  peers_le : peers.length ≤ defaultTurnMaxPeerCount
  recvDataBuffer : List UInt8

structure TurnChannelData (α : Type) where
  data : List UInt8
  size : Nat
  senderAddr : α

variable {α : Type}

namespace TurnConnection

/-- `turnConnectionGetPeerWithChannelNumber`: the channel of the `n`-th peer is `0x4000 + n`. -/
def turnConnectionGetPeerWithChannelNumber (conn : TurnConnection α) (channelNumber : Nat) :
    Option α :=
  if channelNumber ≤ 0x4000 then none else conn.peers[channelNumber - 0x4001]?

end TurnConnection

def int16At (b : List UInt8) (i : Nat) : Nat := (b.getD i 0).toNat * 256 + (b.getD (i + 1) 0).toNat

/-- `(UINT32) getInt16(..)` of the length in a header. -/
def lengthField (b : List UInt8) : Nat :=
  if int16At b 2 < 2 ^ 15 then int16At b 2 else 2 ^ 32 - 2 ^ 16 + int16At b 2

/-- `ROUND_UP(n, 4)`. -/
def roundUp4 (n : Nat) : Nat := (n + 3) % 2 ^ 32 / 4 * 4

/-- The message at the start of a buffer, if its channel is known. -/
def channelDataAt (conn : TurnConnection α) (b : List UInt8) : Option (TurnChannelData α) :=
  (conn.turnConnectionGetPeerWithChannelNumber (int16At b 0)).map fun peer =>
    { data := (b.drop channelDataHeaderLen).take (lengthField b)
      size := lengthField b
      senderAddr := peer }

/-- The variables of the loop: `pCurPos`, as the bytes from there on, `remainingBufLen`,
`remainingMsgSize` and the message found, if `channelDataCount` is one. -/
structure LoopState (α : Type) where
  conn : TurnConnection α
  cur : List UInt8
  remainingBufLen : Nat
  remainingMsgSize : Nat
  found : Option (TurnChannelData α)

def continueMessage (st : LoopState α) : Except (Status × TurnConnection α) (LoopState α) :=
  let buf := st.conn.recvDataBuffer
  if buf.length ≥ channelDataHeaderLen then
    let padded := roundUp4 (lengthField buf)
    let remainingMsgSize := (padded + 2 ^ 32 - (buf.length - channelDataHeaderLen)) % 2 ^ 32
    let bytesToCopy := min remainingMsgSize st.remainingBufLen
    let conn := { st.conn with recvDataBuffer := [] }
    if bytesToCopy > recvDataBufferSize - buf.length then .error (.bufferTooSmall, conn)
    else
      let buf := buf ++ st.cur.take bytesToCopy
      let st := { st with
        cur := st.cur.drop bytesToCopy
        remainingBufLen := st.remainingBufLen - bytesToCopy
        remainingMsgSize := remainingMsgSize }
      if buf.length = (padded + channelDataHeaderLen) % 2 ^ 32 then
        .ok { st with conn := conn, found := channelDataAt conn buf }
      else .ok { st with conn := { conn with recvDataBuffer := buf } }
  else
    -- copies what is missing of the header, but by the size left of a message
    let bytesToCopy := min st.remainingMsgSize (channelDataHeaderLen - buf.length)
    .ok { st with
      conn := { st.conn with recvDataBuffer := buf ++ st.cur.take bytesToCopy }
      cur := st.cur.drop bytesToCopy }

/-- One iteration at the start of a message.  If less than a header is left, the length is read from
behind the buffer. -/
def startMessage (st : LoopState α) : Except (Status × TurnConnection α) (LoopState α) :=
  if st.cur.head? ≠ some channelDataFirstByte then .error (.turnMissingChannelDataHeader, st.conn)
  else
    let len := (roundUp4 (lengthField st.cur) + channelDataHeaderLen) % 2 ^ 32
    if st.remainingBufLen ≥ len then
      .ok { st with
        cur := st.cur.drop len
        remainingBufLen := st.remainingBufLen - len
        found := channelDataAt st.conn st.cur }
    else if st.remainingBufLen > recvDataBufferSize then .error (.bufferTooSmall, st.conn)
    else
      .ok { st with
        conn := { st.conn with recvDataBuffer := st.cur.take st.remainingBufLen }
        cur := st.cur.drop st.remainingBufLen
        remainingBufLen := 0 }

def loopStep (st : LoopState α) : Except (Status × TurnConnection α) (LoopState α) :=
  if st.conn.recvDataBuffer.length ≠ 0 then continueMessage st else startMessage st

/-- The loop goes on while bytes are left and no message is found. -/
def tcpLoop : Nat → LoopState α → Option (Except (Status × TurnConnection α) (LoopState α))
  | fuel, st =>
    if st.remainingBufLen = 0 ∨ st.found.isSome then some (.ok st)
    else
      match fuel with
      | 0 => none
      | fuel + 1 =>
        match loopStep st with
        | .error e => some (.error e)
        | .ok st => tcpLoop fuel st

/-- `turnConnectionHandleChannelDataTcpMode`: the message found, the number of bytes processed, and
the connection. -/
def turnConnectionHandleChannelDataTcpMode (fuel : Nat) (conn : TurnConnection α)
    (buffer : List UInt8) :
    Option (Except (Status × TurnConnection α)
      (Option (TurnChannelData α) × Nat × TurnConnection α)) :=
  let st := { conn, cur := buffer, remainingBufLen := buffer.length, remainingMsgSize := 0,
              found := none }
  (tcpLoop fuel st).map fun r =>
    r.map fun st => (st.found, buffer.length - st.remainingBufLen, st.conn)

def feedBuffer (fuel : Nat) : Nat → TurnConnection α → List UInt8 →
    Option (Except (Status × TurnConnection α) (List (TurnChannelData α) × TurnConnection α))
  | _, conn, [] => some (.ok ([], conn))
  | 0, _, _ :: _ => none
  | calls + 1, conn, buffer@(_ :: _) =>
    match turnConnectionHandleChannelDataTcpMode fuel conn buffer with
    | none => none
    | some (.error e) => some (.error e)
    | some (.ok (found, processed, conn)) =>
      match feedBuffer fuel calls conn (buffer.drop processed) with
      | none => none
      | some (.error e) => some (.error e)
      | some (.ok (rest, conn)) => some (.ok (found.toList ++ rest, conn))

/-- The received buffers are processed one after the other. -/
def feed (fuel : Nat) : TurnConnection α → List (List UInt8) →
    Option (Except (Status × TurnConnection α) (List (TurnChannelData α) × TurnConnection α))
  | conn, [] => some (.ok ([], conn))
  | conn, buffer :: buffers =>
    match feedBuffer fuel fuel conn buffer with
    | none => none
    | some (.error e) => some (.error e)
    | some (.ok (found, conn)) =>
      match feed fuel conn buffers with
      | none => none
      | some (.error e) => some (.error e)
      | some (.ok (rest, conn)) => some (.ok (found ++ rest, conn))

/-! ### What handling channel data reads and writes -/

/-- `KVS_SOCKET_PROTOCOL`, as far as a connection to a TURN server has one. -/
inductive KvsSocketProtocol
  | tcp
  | udp
deriving DecidableEq

/-- The size of `completeChannelDataBuffer`, the last of three buffers.  What is allocated for them
is not three times `4 + 65536`, as the macro that stands for this has no parentheses. -/
def completeChannelDataBufferSize : Nat :=
  (4 + 65536 * 2 + 4 + 65536) - (4 + 65536) - recvDataBufferSize

/-- What an iteration reads from `pCurPos` on, and the ends of what it writes to `recvDataBuffer`
and to `completeChannelDataBuffer`. -/
structure Accesses where
  read : Nat
  recvDataBuffer : Nat
  completeChannelDataBuffer : Nat

variable {α : Type}

namespace TurnConnection

def knowsChannel (conn : TurnConnection α) (b : List UInt8) : Bool :=
  (conn.turnConnectionGetPeerWithChannelNumber (int16At b 0)).isSome

end TurnConnection

/-- The length of the message at the start of a buffer with its header, as `UINT32`. -/
def messageLen (b : List UInt8) : Nat := (roundUp4 (lengthField b) + channelDataHeaderLen) % 2 ^ 32

/-- What `continueMessage` accesses. -/
def continueAccesses (st : LoopState α) : Accesses :=
  let buf := st.conn.recvDataBuffer
  if buf.length ≥ channelDataHeaderLen then
    let padded := roundUp4 (lengthField buf)
    let remainingMsgSize := (padded + 2 ^ 32 - (buf.length - channelDataHeaderLen)) % 2 ^ 32
    let bytesToCopy := min remainingMsgSize st.remainingBufLen
    if bytesToCopy > recvDataBufferSize - buf.length then ⟨0, 0, 0⟩
    else
      let currRecvDataLen := buf.length + bytesToCopy
      ⟨bytesToCopy, currRecvDataLen,
        if currRecvDataLen = messageLen buf ∧ st.conn.knowsChannel buf then currRecvDataLen else 0⟩
  else
    let bytesToCopy := min st.remainingMsgSize (channelDataHeaderLen - buf.length)
    ⟨bytesToCopy, buf.length + bytesToCopy, 0⟩

/-- What `startMessage` accesses. -/
def startAccesses (st : LoopState α) : Accesses :=
  if st.cur.head? ≠ some channelDataFirstByte then ⟨1, 0, 0⟩
  else if st.remainingBufLen ≥ messageLen st.cur then ⟨channelDataHeaderLen, 0, 0⟩
  else if st.remainingBufLen > recvDataBufferSize then ⟨channelDataHeaderLen, 0, 0⟩
  else ⟨max channelDataHeaderLen st.remainingBufLen, st.remainingBufLen, 0⟩

def iterationAccesses (st : LoopState α) : Accesses :=
  if st.conn.recvDataBuffer.length ≠ 0 then continueAccesses st else startAccesses st

/-- The number of bytes in the buffer in which an iteration finds a message, from the message on. -/
def messageRoom (st : LoopState α) : Nat :=
  if st.conn.recvDataBuffer.length ≠ 0 then completeChannelDataBufferSize else st.cur.length

/-- `turnConnectionHandleChannelData`: the message found, the number of bytes processed, and the
connection. Over UDP the header may be read from what stands in memory behind the received bytes,
`behind`. -/
def turnConnectionHandleChannelData (protocol : KvsSocketProtocol) (fuel : Nat)
    (conn : TurnConnection α) (buffer behind : List UInt8) :
    Option (Except (Status × TurnConnection α) (Option (TurnChannelData α) × Nat ×
      TurnConnection α)) :=
  if buffer = [] then some (.error (.invalidArg, conn))
  else
    match protocol with
    | .udp => some (.ok (channelDataAt conn (buffer ++ behind), buffer.length, conn))
    | .tcp => turnConnectionHandleChannelDataTcpMode fuel conn buffer

end KvsWebrtc.Ice
