import KvsWebrtc.Common.Status
import KvsWebrtc.Rtp.RtpPacket
import Mathlib.Data.UInt
import Mathlib.Logic.Function.Basic

/-!
# Rolling buffers

`RollingBuffer` of `Rtcp/RollingBuffer.c`, over any kind of data, and `RtpRollingBuffer` of
`Rtcp/RtpRollingBuffer.c`.  The head and the tail index start at zero and grow by one with each item
that is appended, so the 64-bit numbers of the source cannot wrap in fewer than 2^64 calls; they are
natural numbers here.  `freed` is not in the source: it records what the buffer and its user freed,
in order.
-/

namespace KvsWebrtc

variable {α : Type*}

structure RollingBuffer (α : Type*) where
  capacity : Nat
  headIndex : Nat
  tailIndex : Nat
  dataBuffer : Nat → Option α
  freed : List α

namespace RollingBuffer

def createRollingBuffer (capacity : Nat) : Except Status (RollingBuffer α) :=
  if capacity = 0 then .error .invalidArg
  else .ok
    { capacity := capacity
      headIndex := 0
      tailIndex := 0
      dataBuffer := fun _ => none
      freed := [] }

/-- `ROLLING_BUFFER_MAP_INDEX`. -/
def mapIndex (b : RollingBuffer α) (index : Nat) : Nat := index % b.capacity

def itemAt (b : RollingBuffer α) (index : Nat) : Option α := b.dataBuffer (b.mapIndex index)

def set (b : RollingBuffer α) (index : Nat) (data : Option α) : RollingBuffer α :=
  { b with dataBuffer := Function.update b.dataBuffer (b.mapIndex index) data }

def free (b : RollingBuffer α) (data : Option α) : RollingBuffer α :=
  { b with freed := b.freed ++ data.toList }

def InRange (b : RollingBuffer α) (index : Nat) : Prop :=
  b.headIndex > index ∧ b.tailIndex ≤ index

instance (b : RollingBuffer α) (index : Nat) : Decidable (b.InRange index) :=
  inferInstanceAs (Decidable (_ ∧ _))

def rollingBufferAppendData (b : RollingBuffer α) (data : α) : RollingBuffer α × Nat :=
  if b.headIndex = b.tailIndex then
    ({ b.set b.tailIndex (some data) with headIndex := b.tailIndex + 1 }, b.tailIndex)
  else
    let b :=
      if b.headIndex = b.tailIndex + b.capacity then
        { b.free (b.itemAt b.tailIndex) with tailIndex := b.tailIndex + 1 }
      else b
    ({ b.set b.headIndex (some data) with headIndex := b.headIndex + 1 }, b.headIndex)

/-- Puts data at an index between tail and head, freeing what it replaces. -/
def rollingBufferInsertData (b : RollingBuffer α) (index : Nat) (data : α) :
    Status × RollingBuffer α :=
  if b.InRange index then (.success, (b.free (b.itemAt index)).set index (some data))
  else (.rollingBufferNotInRange, b)

def rollingBufferExtractData (b : RollingBuffer α) (index : Nat) : Option α × RollingBuffer α :=
  if b.InRange index then (b.itemAt index, b.set index none) else (none, b)

def rollingBufferGetSize (b : RollingBuffer α) : Nat := b.headIndex - b.tailIndex

/-- At most `rounds` rounds of the loop of `freeRollingBuffer`. -/
def freeItems : Nat → RollingBuffer α → RollingBuffer α
  | 0, b => b
  | rounds + 1, b =>
    if b.tailIndex < b.headIndex then
      let b := (b.free (b.itemAt b.tailIndex)).set b.tailIndex none
      freeItems rounds { b with tailIndex := b.tailIndex + 1 }
    else b

def freeRollingBuffer (b : RollingBuffer α) : RollingBuffer α := freeItems b.rollingBufferGetSize b

end RollingBuffer

/-- A rolling buffer of packets and the index of the last one. -/
structure RtpRollingBuffer where
  rollingBuffer : RollingBuffer RtpPacket
  lastIndex : Nat

namespace RtpRollingBuffer

open RollingBuffer

/-- `rtpRollingBufferAddRtpPacket`, where `p` is the copy that the source makes. -/
def rtpRollingBufferAddRtpPacket (b : RtpRollingBuffer) (p : RtpPacket) : RtpRollingBuffer :=
  let (rollingBuffer, index) := b.rollingBuffer.rollingBufferAppendData p
  { rollingBuffer := rollingBuffer, lastIndex := index }

/-- `pRollingBuffer->lastIndex - size + 1`: the subtraction may wrap, the sum does not. -/
def startIndex (b : RtpRollingBuffer) : Nat :=
  b.lastIndex + 1 - b.rollingBuffer.rollingBufferGetSize

/-- The index that `rtpRollingBufferGetValidSeqIndexList` computes for a sequence number, if it
takes the packet to be in the buffer. -/
def validSeqIndex (b : RtpRollingBuffer) (seqNum : Nat) : Option Nat :=
  let startSeq := b.startIndex % 65536
  let endSeq := b.lastIndex % 65536
  let crossMaxSeq := startSeq ≥ endSeq
  if (¬ crossMaxSeq ∧ seqNum ≥ startSeq ∧ seqNum ≤ endSeq) ∨ (crossMaxSeq ∧ seqNum ≥ startSeq) then
    some (b.startIndex + seqNum - startSeq)
  else if crossMaxSeq ∧ seqNum ≤ endSeq then some (b.lastIndex - endSeq + seqNum)
  else none

end RtpRollingBuffer

end KvsWebrtc
