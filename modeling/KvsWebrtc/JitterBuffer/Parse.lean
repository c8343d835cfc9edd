import KvsWebrtc.JitterBuffer.Basic

/-!
# The jitter buffer: parsing, pushing and freeing

`jitterBufferInternalParse`, `jitterBufferDropBufferData`, `jitterBufferPush` and
`freeJitterBuffer`.  A `for` loop over 16-bit indices whose bound is an inequality runs as often
as the circular distance of its bounds, so each loop is a structural recursion on that distance.

A `CHK` that fails jumps to `CleanUp`; `ParseFlow.cleanUp` is that jump, with the status returned.
Operations of the packet table do not fail: an entry is looked up before it is read or removed,
and removed before it is put.
-/

namespace KvsWebrtc

def uint16Dec (a : Nat) : Nat := (a + 65535) % 65536

/-- `(UINT16) (a + 1)`. -/
def uint16Inc (a : Nat) : Nat := (a + 1) % 65536

namespace JitterBuffer

def emit (jb : JitterBuffer) (e : JbEvent) : JitterBuffer := { jb with trace := jb.trace ++ [e] }

/-- Frees the packet stored at `index`, if any, and removes the entry. -/
def removeEntry (jb : JitterBuffer) (index : Nat) : JitterBuffer :=
  match jb.pkgBufferHashTable index with
  | none => jb
  | some p =>
    { jb.emit (.packetFreed p.addr) with
      pkgBufferHashTable := Function.update jb.pkgBufferHashTable index none }

/-- The loop of `jitterBufferDropBufferData`, with `n` indices left. -/
def dropLoop : Nat → Nat → JitterBuffer → JitterBuffer
  | 0, _, jb => jb
  | n + 1, index, jb => dropLoop n (uint16Inc index) (jb.removeEntry index)

/-- How often the loop of `jitterBufferDropBufferData` runs: it stops when `UINT16_DEC(index)` is
`endIndex`. -/
def dropCount (startIndex endIndex : Nat) : Nat := (endIndex + 1 + 65536 - startIndex) % 65536

/-- The end of `jitterBufferDropBufferData`: the new head and the exit checks. -/
def finishDrop (jb : JitterBuffer) (endIndex nextTimestamp : Nat) : JitterBuffer :=
  let jb := { jb with
    headTimestamp := nextTimestamp
    headSequenceNumber := uint16Inc endIndex }
  (jb.exitTimestampOverflowCheck).2.exitSequenceNumberOverflowCheck.2

/-- Removes the packets from `startIndex` to `endIndex`; `nextTimestamp` is the timestamp of the
next earliest frame. -/
def jitterBufferDropBufferData (jb : JitterBuffer) (startIndex endIndex nextTimestamp : Nat) :
    JitterBuffer :=
  (dropLoop (dropCount startIndex endIndex) startIndex jb).finishDrop endIndex nextTimestamp

/-- The local variables of `jitterBufferInternalParse` that live across iterations. -/
structure ParseState where
  jb : JitterBuffer
  index : Nat
  startDropIndex : Nat
  isFrameDataContinuous : Bool
  containStartForEarliestFrame : Bool
  curFrameSize : UInt32
  lastNonNullIndex : Nat

/-- How an iteration of the parse loop ends. -/
inductive ParseFlow
  | next (s : ParseState)
  | stop (s : ParseState)
  | cleanUp (status : Status) (jb : JitterBuffer)

/-- The end of an iteration over a stored packet: depayload it without output. -/
def parseDepay (cb : JbCallbacks) (s : ParseState) (p : RtpPacket) : ParseFlow :=
  match cb.depay p with
  | .error e => .cleanUp e s.jb
  | .ok (partialFrameSize, isStart) =>
    .next { s with
      curFrameSize := s.curFrameSize + partialFrameSize
      containStartForEarliestFrame :=
        s.containStartForEarliestFrame || (isStart && s.jb.headTimestamp = p.ts)
      index := uint16Inc s.index }

/-- Delivers the frame that ends before `s.index`. -/
def parseDeliver (cb : JbCallbacks) (s : ParseState) (p : RtpPacket) : ParseFlow :=
  let endIndex := uint16Dec s.index
  let jb := s.jb.emit (.frameReady s.startDropIndex endIndex s.curFrameSize)
  match cb.onFrameReadyFn s.jb.trace s.startDropIndex endIndex s.curFrameSize with
  | .success =>
    let jb := jb.jitterBufferDropBufferData s.startDropIndex endIndex p.ts
    parseDepay cb
      { s with
        jb := { jb with firstFrameProcessed := true }
        startDropIndex := s.index
        containStartForEarliestFrame := false
        curFrameSize := 0 } p
  | e => .cleanUp e jb

/-- Drops the incomplete frame that ends before `s.index`.  The status of the callback is
ignored. -/
def parseDrop (cb : JbCallbacks) (s : ParseState) (p : RtpPacket) : ParseFlow :=
  let endIndex := uint16Dec s.index
  let jb := s.jb.emit (.frameDropped s.startDropIndex endIndex s.jb.headTimestamp)
  let jb := jb.jitterBufferDropBufferData s.startDropIndex endIndex p.ts
  parseDepay cb
    { s with
      jb := { jb with firstFrameProcessed := true }
      isFrameDataContinuous := true
      startDropIndex := s.index
      curFrameSize := 0 } p

def parseBody (cb : JbCallbacks) (bufferClosed : Bool) (earliestAllowedTimestamp : Nat)
    (s : ParseState) : ParseFlow :=
  match s.jb.pkgBufferHashTable s.index with
  | none =>
    if s.jb.headTimestamp < earliestAllowedTimestamp ∨ bufferClosed = true then
      .next { s with isFrameDataContinuous := false, index := uint16Inc s.index }
    else .cleanUp .success s.jb
  | some p =>
    let s := { s with lastNonNullIndex := s.index }
    if p.ts ≠ s.jb.headTimestamp then
      if s.containStartForEarliestFrame ∧ s.isFrameDataContinuous then parseDeliver cb s p
      else if s.jb.headTimestamp < earliestAllowedTimestamp ∨ bufferClosed = true then
        parseDrop cb s p
      else .stop s
    else parseDepay cb s p

/-- The parse loop, with `n` indices left before `lastIndex`. -/
def parseLoop (cb : JbCallbacks) (bufferClosed : Bool) (earliestAllowedTimestamp : Nat) :
    Nat → ParseState → ParseFlow
  | 0, s => .stop s
  | n + 1, s =>
    match parseBody cb bufferClosed earliestAllowedTimestamp s with
    | .next s => parseLoop cb bufferClosed earliestAllowedTimestamp n s
    | .stop s => .stop s
    | .cleanUp status jb => .cleanUp status jb

/-- The loop that measures the last frame of a closing buffer, with `n` indices left before
`lastNonNullIndex`: the index after the loop and the frame size. -/
def closeLoop (cb : JbCallbacks) (jb : JitterBuffer) :
    Nat → Nat → UInt32 → Except Status (Nat × UInt32)
  | 0, index, size => .ok (index, size)
  | n + 1, index, size =>
    match jb.pkgBufferHashTable index with
    | none => .ok (uint16Inc index, size)
    | some p =>
      match cb.depay p with
      | .error e => .error e
      | .ok (partialFrameSize, _) => closeLoop cb jb n (uint16Inc index) (size + partialFrameSize)

def parseLastFrame (cb : JbCallbacks) (s : ParseState) : Status × JitterBuffer :=
  match closeLoop cb s.jb (dropCount s.startDropIndex s.lastNonNullIndex) s.startDropIndex 0 with
  | .error e => (e, s.jb)
  | .ok (index, size) =>
    if uint16Dec index = s.lastNonNullIndex then
      let jb := s.jb.emit (.frameReady s.startDropIndex s.lastNonNullIndex size)
      match cb.onFrameReadyFn s.jb.trace s.startDropIndex s.lastNonNullIndex size with
      | .success =>
        (.success,
          jb.jitterBufferDropBufferData s.startDropIndex s.lastNonNullIndex jb.headTimestamp)
      | e => (e, jb)
    else
      let jb := s.jb.emit (.frameDropped s.startDropIndex (uint16Dec index) s.jb.headTimestamp)
      match cb.onFrameDroppedFn s.jb.trace s.startDropIndex (uint16Dec index)
          s.jb.headTimestamp with
      | .success =>
        (.success,
          jb.jitterBufferDropBufferData s.startDropIndex s.lastNonNullIndex jb.headTimestamp)
      | e => (e, jb)

/-- `earliestAllowedTimestamp` of `jitterBufferInternalParse`. -/
def earliestAllowedTimestamp (jb : JitterBuffer) : Nat :=
  if jb.tailTimestamp > jb.maxLatency then jb.tailTimestamp - jb.maxLatency else 0

def parseInit (jb : JitterBuffer) : ParseState :=
  { jb := jb
    index := jb.headSequenceNumber
    startDropIndex := jb.headSequenceNumber
    isFrameDataContinuous := true
    containStartForEarliestFrame := false
    curFrameSize := 0
    lastNonNullIndex := 0 }

/-- The number of iterations of the parse loop: from the head to `lastIndex`, which is one past
the tail. -/
def parseCount (jb : JitterBuffer) : Nat :=
  (uint16Inc jb.tailSequenceNumber + 65536 - jb.headSequenceNumber) % 65536

def jitterBufferInternalParse (cb : JbCallbacks) (jb : JitterBuffer) (bufferClosed : Bool) :
    Status × JitterBuffer :=
  if jb.tailTimestamp = 0 then (.success, jb)
  else
    match parseLoop cb bufferClosed jb.earliestAllowedTimestamp jb.parseCount jb.parseInit with
    | .cleanUp status jb => (status, jb)
    | .next s | .stop s =>
      if bufferClosed ∧ s.curFrameSize ≠ 0 then parseLastFrame cb s else (.success, s.jb)

/-- The result of `jitterBufferPush`: its status, `*pPacketDiscarded` and the buffer. -/
structure PushResult where
  status : Status
  discarded : Bool
  jb : JitterBuffer

def pushStart (jb : JitterBuffer) (p : RtpPacket) : JitterBuffer :=
  if jb.started then jb
  else
    { jb with
      started := true
      headSequenceNumber := p.seq
      tailSequenceNumber := p.seq
      headTimestamp := p.ts }

/-- The sequence number part of the tail checks of `jitterBufferPush`. -/
def pushTailSequenceNumber (jb : JitterBuffer) (p : RtpPacket) : JitterBuffer :=
  let (entered, jb) := jb.enterSequenceNumberOverflowCheck p
  if entered then jb else (jb.tailSequenceNumberCheck p).2

/-- The timestamp part of the tail checks of `jitterBufferPush`. -/
def pushTailTimestamp (jb : JitterBuffer) (p : RtpPacket) : JitterBuffer :=
  let (entered, jb) := jb.enterTimestampOverflowCheck p
  if entered then jb else (jb.tailTimestampCheck p).2

/-- The tail checks of `jitterBufferPush`, sequence number first. -/
def pushTail (jb : JitterBuffer) (p : RtpPacket) : JitterBuffer :=
  (jb.pushTailSequenceNumber p).pushTailTimestamp p

def pushStore (jb : JitterBuffer) (p : RtpPacket) : JitterBuffer :=
  let jb := jb.removeEntry p.seq
  { jb with pkgBufferHashTable := Function.update jb.pkgBufferHashTable p.seq (some p) }

/-- The head checks of `jitterBufferPush`. -/
def pushHead (jb : JitterBuffer) (p : RtpPacket) : JitterBuffer :=
  if jb.headCheckingAllowed p then ((jb.headTimestampCheck p).2.headSequenceNumberCheck p).2
  else jb

/-- `jitterBufferPush` up to the parse: the buffer and whether the packet was discarded. -/
def pushAccept (jb : JitterBuffer) (p : RtpPacket) : Bool × JitterBuffer :=
  let (within, jb) := ((jb.pushStart p).pushTail p).withinLatencyTolerance p
  if within then (false, (jb.pushStore p).pushHead p)
  else (true, jb.emit (.packetFreed p.addr))

def jitterBufferPush (cb : JbCallbacks) (jb : JitterBuffer) (p : RtpPacket) : PushResult :=
  let (discarded, jb) := jb.pushAccept p
  let (status, jb) := jitterBufferInternalParse cb jb false
  { status := status, discarded := discarded, jb := jb }

def pushes (cb : JbCallbacks) : JitterBuffer → List RtpPacket → List PushResult
  | _, [] => []
  | jb, p :: l => jitterBufferPush cb jb p :: pushes cb (jitterBufferPush cb jb p).jb l

def pushAll (cb : JbCallbacks) (jb : JitterBuffer) (l : List RtpPacket) : JitterBuffer :=
  l.foldl (fun jb p => (jitterBufferPush cb jb p).jb) jb

/-- `freeJitterBuffer` up to the release of the table: what is still stored then is lost. -/
def freeJitterBuffer (cb : JbCallbacks) (jb : JitterBuffer) : JitterBuffer :=
  let jb := (jitterBufferInternalParse cb jb true).2
  jb.jitterBufferDropBufferData 0 maxRtpSequenceNum 0

end JitterBuffer

end KvsWebrtc
