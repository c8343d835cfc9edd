import KvsWebrtc.JitterBuffer.Parse

/-!
# The jitter buffer: handing out a frame

`jitterBufferFillFrameData`, which the application calls from `onFrameReadyFn`, and the calls of
`onFrameReadyFn` that a parse makes.

The trace of the buffer names the calls but not the buffer at the time of the call, which is what
the application sees.  `parseCalls` lists the calls with it; it follows `jitterBufferInternalParse`
and reads what that computes.
-/

namespace KvsWebrtc

/-- What a call of `depayPayloadFn` with an output buffer leaves: its status, `*pDepayloadedLength`
and the bytes written from the start of the output on. -/
structure DepayResult where
  status : Status
  depayloadedLength : UInt32
  bytes : List UInt8

/-- `depayPayloadFn(payload, payloadLength, pOutput, &length, NULL)`, where `length` is the room in
the output before the call. -/
abbrev DepayFillFn := List UInt8 → UInt32 → UInt32 → DepayResult

/-- The bytes written into the frame buffer from `offset` on. -/
def storeBytes (frame : Nat → UInt8) (offset : Nat) (bytes : List UInt8) : Nat → UInt8 := fun i =>
  if offset ≤ i then (bytes[i - offset]?).getD (frame i) else frame i

namespace JitterBuffer

/-- The local variables of `jitterBufferFillFrameData`: `pCurPtrInFrame` as an offset, and the frame
buffer.  `visited` are the packets depayloaded so far. -/
structure FillState where
  curPtrInFrame : Nat
  remainingFrameSize : UInt32
  frame : Nat → UInt8
  visited : List RtpPacket

/-- The loop of `jitterBufferFillFrameData`, with `n` indices left. -/
def fillLoop (fill : DepayFillFn) (jb : JitterBuffer) : Nat → Nat → FillState → Status × FillState
  | 0, _, s => (.success, s)
  | n + 1, index, s =>
    match jb.pkgBufferHashTable index with
    | none => (.hashKeyNotPresent, s)
    | some p =>
      let r := fill p.payload p.payloadLength s.remainingFrameSize
      let s := { s with
        frame := storeBytes s.frame s.curPtrInFrame r.bytes
        visited := s.visited ++ [p] }
      match r.status with
      | .success =>
        fillLoop fill jb n (uint16Inc index)
          { s with
            curPtrInFrame := s.curPtrInFrame + r.depayloadedLength.toNat
            remainingFrameSize := s.remainingFrameSize - r.depayloadedLength }
      | e => (e, s)

/-- The result of `jitterBufferFillFrameData`: its status, `*pFilledSize`, the frame buffer and the
packets that it depayloaded. -/
structure FillResult where
  status : Status
  filledSize : UInt32
  frame : Nat → UInt8
  visited : List RtpPacket

/-- `jitterBufferFillFrameData` with its pointers present.  The loop ends like that of
`jitterBufferDropBufferData`. -/
def jitterBufferFillFrameData (fill : DepayFillFn) (jb : JitterBuffer) (frame : Nat → UInt8)
    (frameSize : UInt32) (startIndex endIndex : Nat) : FillResult :=
  let (status, s) := fillLoop fill jb (dropCount startIndex endIndex) startIndex
    ⟨0, frameSize, frame, []⟩
  ⟨status, frameSize - s.remainingFrameSize, s.frame, s.visited⟩

/-- A call of `onFrameReadyFn`, and the buffer at the call. -/
structure ReadyCall where
  jb : JitterBuffer
  startIndex : Nat
  endIndex : Nat
  frameSize : UInt32

def ReadyCall.event (c : ReadyCall) : JbEvent := .frameReady c.startIndex c.endIndex c.frameSize

def bodyCalls (s : ParseState) : List ReadyCall :=
  match s.jb.pkgBufferHashTable s.index with
  | none => []
  | some p =>
    if p.ts ≠ s.jb.headTimestamp ∧ s.containStartForEarliestFrame ∧ s.isFrameDataContinuous then
      [⟨s.jb, s.startDropIndex, uint16Dec s.index, s.curFrameSize⟩]
    else []

/-- The calls of the parse loop, with `n` indices left. -/
def loopCalls (cb : JbCallbacks) (bufferClosed : Bool) (earliestAllowedTimestamp : Nat) :
    Nat → ParseState → List ReadyCall
  | 0, _ => []
  | n + 1, s =>
    bodyCalls s ++
      match parseBody cb bufferClosed earliestAllowedTimestamp s with
      | .next s => loopCalls cb bufferClosed earliestAllowedTimestamp n s
      | .stop _ => []
      | .cleanUp _ _ => []

/-- The call for the last frame of a closing buffer, from what the loop over that frame computed. -/
def lastCalls (s : ParseState) : Except Status (Nat × UInt32) → List ReadyCall
  | .error _ => []
  | .ok (index, size) =>
    if uint16Dec index = s.lastNonNullIndex then
      [⟨s.jb, s.startDropIndex, s.lastNonNullIndex, size⟩]
    else []

/-- The calls of `onFrameReadyFn` that a parse makes. -/
def parseCalls (cb : JbCallbacks) (jb : JitterBuffer) (bufferClosed : Bool) : List ReadyCall :=
  if jb.tailTimestamp = 0 then []
  else
    loopCalls cb bufferClosed jb.earliestAllowedTimestamp jb.parseCount jb.parseInit ++
      match parseLoop cb bufferClosed jb.earliestAllowedTimestamp jb.parseCount jb.parseInit with
      | .cleanUp _ _ => []
      | .next s | .stop s =>
        if bufferClosed ∧ s.curFrameSize ≠ 0 then
          lastCalls s
            (closeLoop cb s.jb (dropCount s.startDropIndex s.lastNonNullIndex) s.startDropIndex 0)
        else []

def pushCalls (cb : JbCallbacks) (jb : JitterBuffer) (p : RtpPacket) : List ReadyCall :=
  parseCalls cb (jb.pushAccept p).2 false

def runCalls (cb : JbCallbacks) : JitterBuffer → List RtpPacket → List ReadyCall
  | _, [] => []
  | jb, p :: l => pushCalls cb jb p ++ runCalls cb (jitterBufferPush cb jb p).jb l

/-- The calls of `onFrameReadyFn` in a trace. -/
def readyEvents (trace : List JbEvent) : List JbEvent :=
  trace.filter fun e =>
    match e with
    | .frameReady _ _ _ => true
    | _ => false

/-- A state in which the buffer is parsed: after a run of pushes, and after the next packet was
accepted. -/
def Reachable (cb : JbCallbacks) (jb : JitterBuffer) : Prop :=
  ∃ maxLatency clockRate jb₀ l, createJitterBuffer maxLatency clockRate = .ok jb₀ ∧
    (jb = pushAll cb jb₀ l ∨ ∃ p, jb = ((pushAll cb jb₀ l).pushAccept p).2)

end JitterBuffer

end KvsWebrtc
