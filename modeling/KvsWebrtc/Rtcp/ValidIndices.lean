import KvsWebrtc.Common.Status
import Mathlib.Data.UInt

/-!
# The indices of sequence numbers

`rtpRollingBufferGetValidSeqIndexList` of `Rtcp/RtpRollingBuffer.c` with the widths of the source,
for any last index, size and lists.  Of the buffer it reads the last index and the size.  The list
that is returned holds what has been written of the caller's list of indices; the zero behind the
last one is left out.
-/

namespace KvsWebrtc.ValidIndices

/-- `lastIndex - size + 1`. -/
def firstIndex (lastIndex : UInt64) (size : UInt32) : UInt64 := lastIndex - size.toUInt64 + 1

/-- `startSeq`, by `GET_UINT16_SEQ_NUM`. -/
def startSeq (lastIndex : UInt64) (size : UInt32) : UInt16 := (firstIndex lastIndex size).toUInt16

def endSeq (lastIndex : UInt64) : UInt16 := lastIndex.toUInt16

/-- The index that is computed for a sequence number, if it is taken for one of the buffer. -/
def validSeqIndex (lastIndex : UInt64) (size : UInt32) (seqNum : UInt16) : Option UInt64 :=
  let startSeq := startSeq lastIndex size
  let endSeq := endSeq lastIndex
  let crossMaxSeq := startSeq ≥ endSeq
  if (¬ crossMaxSeq ∧ seqNum ≥ startSeq ∧ seqNum ≤ endSeq) ∨ (crossMaxSeq ∧ seqNum ≥ startSeq) then
    some (firstIndex lastIndex size + seqNum.toUInt64 - startSeq.toUInt64)
  else if crossMaxSeq ∧ seqNum ≤ endSeq then
    some (lastIndex - endSeq.toUInt64 + seqNum.toUInt64)
  else none

/-- The loop over the sequence numbers, with the indices found so far. -/
def validIndexLoop (lastIndex : UInt64) (size validIndexListLen : UInt32) :
    List UInt16 → List UInt64 → List UInt64
  | [], found => found
  | seqNum :: sequenceNumberList, found =>
    match validSeqIndex lastIndex size seqNum with
    | none => validIndexLoop lastIndex size validIndexListLen sequenceNumberList found
    | some index =>
      -- the index is stored, and then the count is compared with the capacity
      if found.length + 1 < validIndexListLen.toNat then
        validIndexLoop lastIndex size validIndexListLen sequenceNumberList (found ++ [index])
      else found ++ [index]

def rtpRollingBufferGetValidSeqIndexList (lastIndex : UInt64) (size : UInt32)
    (sequenceNumberList : List UInt16) (validIndexListLen : UInt32) : List UInt64 :=
  if size > 0 then validIndexLoop lastIndex size validIndexListLen sequenceNumberList [] else []

/-! ### What is meant -/

/-- A buffer of `size` packets whose last index is `lastIndex` stores a packet at the index. -/
def Stored (lastIndex size index : Nat) : Prop := lastIndex < index + size ∧ index ≤ lastIndex

instance (lastIndex size index : Nat) : Decidable (Stored lastIndex size index) :=
  inferInstanceAs (Decidable (_ ∧ _))

def storedIndex (lastIndex size seqNum : Nat) : Option Nat :=
  ((List.range size).map fun i => lastIndex + 1 - size + i).find? fun index =>
  index % 65536 = seqNum

/-- The sizes and indices of buffers. -/
structure IsWindow (lastIndex : UInt64) (size : UInt32) : Prop where
  size_pos : 1 ≤ size.toNat
  size_lt : size.toNat ≤ 65535
  size_le : size.toNat ≤ lastIndex.toNat + 1

/-- The call returns the stored indices of the sequence numbers, in the order of the list and up to
the capacity. -/
def ReturnsStored (lastIndex : UInt64) (size : UInt32) (sequenceNumberList : List UInt16)
    (validIndexListLen : UInt32) : Prop :=
  (rtpRollingBufferGetValidSeqIndexList lastIndex size sequenceNumberList validIndexListLen).map
      UInt64.toNat =
    (sequenceNumberList.filterMap fun seqNum =>
      storedIndex lastIndex.toNat size.toNat seqNum.toNat).take validIndexListLen.toNat

/-- There is room for an index, or none of the numbers has one; and if there is one packet only, the
numbers up to the capacity are that of the packet. -/
def Unambiguous (lastIndex : UInt64) (size : UInt32) (sequenceNumberList : List UInt16)
    (validIndexListLen : UInt32) : Prop :=
  if size = 1 then
    if validIndexListLen = 0 then sequenceNumberList = []
    else ∀ seqNum ∈ sequenceNumberList.take validIndexListLen.toNat, seqNum = endSeq lastIndex
  else validIndexListLen ≠ 0 ∨
    ∀ seqNum ∈ sequenceNumberList, storedIndex lastIndex.toNat size.toNat seqNum.toNat = none

end KvsWebrtc.ValidIndices
