import KvsWebrtc.Common.BigEndian
import Mathlib.Data.UInt

/-!
# The list of a NACK

`rtcpNackListGet` of `Rtcp/RtcpPacket.c` with the widths of the source: the number of sequence
numbers is counted in 16 bits and returned in 32.  The caller's list is given by its capacity, or
missing for a call that only counts; what is written to it is the list of the stores, each with its
index.
-/

namespace KvsWebrtc

def rtcpNackListLen : Nat := 8

namespace NackList

/-- The variables of the loops: `sequenceNumberCount`, and the stores to `pSequenceNumberList`. -/
structure Nacks where
  sequenceNumberCount : UInt16
  stores : List (Nat × UInt16)
deriving DecidableEq

/-- Stores a sequence number, if there is a list and the count is not above the capacity, and counts
it. -/
def Nacks.push (pSequenceNumberListLen : Option UInt32) (s : Nacks) (sequenceNumber : UInt16) :
    Nacks :=
  { sequenceNumberCount := s.sequenceNumberCount + 1
    stores :=
      match pSequenceNumberListLen with
      | none => s.stores
      | some len =>
        if s.sequenceNumberCount.toNat ≤ len.toNat then
          s.stores ++ [(s.sequenceNumberCount.toNat, sequenceNumber)]
        else s.stores }

/-- One round of the outer loop: the PID, and the loop over the bits of the BLP. -/
def Nacks.entry (pSequenceNumberListLen : Option UInt32) (currentSequenceNumber blp : UInt16)
    (s : Nacks) :
    Nacks :=
  (List.range 16).foldl
    (fun s j =>
      if (blp.toNat &&& (1 <<< j)) >>> j ≠ 0 then
        s.push pSequenceNumberListLen (currentSequenceNumber + UInt16.ofNat j + 1)
      else s)
    (s.push pSequenceNumberListLen currentSequenceNumber)

def getInt16 (a b : UInt8) : UInt16 := UInt16.ofNat (beNat [a, b])

/-- The outer loop, over four bytes a round. -/
def nackLoop (pSequenceNumberListLen : Option UInt32) : List UInt8 → Nacks → Nacks
  | a :: b :: c :: d :: rest, s =>
    nackLoop pSequenceNumberListLen rest (s.entry pSequenceNumberListLen (getInt16 a b)
      (getInt16 c d))
  | _, s => s

/-- What a call returns. -/
structure NackResult where
  senderSsrc : UInt32
  receiverSsrc : UInt32
  sequenceNumberListLen : UInt32
  stores : List (Nat × UInt16)
deriving DecidableEq

def rtcpNackListGet (payload : List UInt8) (pSequenceNumberListLen : Option UInt32) :
    Except Status NackResult :=
  if payload.length ≥ rtcpNackListLen ∧ payload.length % 4 = 0 then
    let s := nackLoop pSequenceNumberListLen (payload.drop rtcpNackListLen) ⟨0, []⟩
    .ok {
      senderSsrc := UInt32.ofNat (beNat (bytesAt payload 0 4))
      receiverSsrc := UInt32.ofNat (beNat (bytesAt payload 4 4))
      sequenceNumberListLen := s.sequenceNumberCount.toUInt32
      stores := s.stores }
  else .error .rtcpInputNackListInvalid

/-! ### What is meant -/

/-- The numbers of an entry: the PID, and PID + k for each bit k - 1 of the BLP that is set. -/
def entryNumbers (pid blp : UInt16) : List UInt16 :=
  pid :: (((List.range 16).map (· + 1)).filter fun k => blp.toNat.testBit (k - 1)).map fun k =>
    pid + UInt16.ofNat k

def numbersOf : List UInt8 → List UInt16
  | a :: b :: c :: d :: rest => entryNumbers (getInt16 a b) (getInt16 c d) ++ numbersOf rest
  | _ => []

def nackNumbers (payload : List UInt8) : List UInt16 := numbersOf (payload.drop rtcpNackListLen)

def inOrder (numbers : List UInt16) : List (Nat × UInt16) := numbers.zipIdx.map Prod.swap

/-- The numbers of the payload are stored in order, as far as there is room; the call with a list
returns how many are, and the one without a list how many there are. -/
structure ListsNumbers (payload : List UInt8) (capacity : UInt32) : Prop where
  withList : ∃ r, rtcpNackListGet payload (some capacity) = .ok r ∧
    r.stores = inOrder ((nackNumbers payload).take capacity.toNat) ∧
    (∀ store ∈ r.stores, store.1 < capacity.toNat) ∧ r.sequenceNumberListLen.toNat = r.stores.length
  withoutList : ∃ r, rtcpNackListGet payload none = .ok r ∧ r.stores = [] ∧
    r.sequenceNumberListLen.toNat = (nackNumbers payload).length

end NackList

end KvsWebrtc
