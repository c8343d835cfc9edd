import KvsWebrtc.Common.Status
import Mathlib.Data.List.SplitLengths

/-!
# Packetization of Annex-B streams

`createPayloadForH264` of `Rtp/Codecs/RtpH264Payloader.c` and `createPayloadForH265` of
`Rtp/Codecs/RtpH265Payloader.c` are one program with different header sizes and fragment headers, as
are the functions they call; the program stands here with a `FragmentationUnit` as parameter.

A buffer with its length is the list of its bytes.  Lengths and counts are 32-bit numbers in the
source: sums of them are taken modulo 2^32, and a pointer that has left its buffer makes the next
access fail. A call without a payload buffer only counts; `room` is `none` for it.
-/

namespace KvsWebrtc.Rtp

/-! ### The NAL units of a buffer -/

def leadingZeros (nalus : List UInt8) : Nat := ((nalus.take 4).takeWhile (· == 0)).length

/-- The scanning loop of `getNextNaluLength`, `p` being `pCurrent` as an index: the offset at which
it ends, and the zeros before the `1` there if it ends at a start code. -/
def findStartCode (nalus : List UInt8) (p : Nat) : Except Failure (Nat × Nat) :=
  if p % 2 ^ 32 < nalus.length then
    match _h : nalus[p]? with
    | none => .error .outOfBounds
    | some b =>
      if b = 0 then
        findStartCode nalus (p + 1)
      else if b = 1 ∧ nalus[p - 1]? = some 0 ∧ nalus[p - 2]? = some 0 then
        .ok (p % 2 ^ 32, if nalus[p - 3]? = some 0 then 3 else 2)
      else
        -- a start code that ends after `p` has its zeros after `p` too
        findStartCode nalus (p + 3)
  else .ok (p % 2 ^ 32, 0)
termination_by nalus.length - p
decreasing_by
  all_goals
    have hp := (List.getElem?_eq_some_iff.mp _h).1
    omega

/-- `getNextNaluLength`: where the first NAL unit starts, and its length. -/
def getNextNaluLength (nalus : List UInt8) : Except Failure (Nat × Nat) :=
  let offset := leadingZeros nalus
  if offset < nalus.length ∧ offset < 4 ∧ 2 ≤ offset ∧ nalus[offset]? = some 1 then
    match findStartCode nalus (offset + 1) with
    | .error e => .error e
    | .ok (last, zeroCount) => .ok (offset + 1, min last nalus.length - (offset + 1) - zeroCount)
  else .error (.status .rtpInvalidNalu)

theorem getNextNaluLength_start {nalus : List UInt8} {start len : Nat}
    (h : getNextNaluLength nalus = .ok (start, len)) : 0 < start ∧ 0 < nalus.length := by
  simp only [getNextNaluLength] at h
  split_ifs at h with hcode
  revert h
  cases findStartCode nalus (leadingZeros nalus + 1) with
  | error e => intro h; cases h
  | ok r =>
    intro h
    simp only [Except.ok.injEq, Prod.mk.injEq] at h
    omega

/-! ### The payloads of one NAL unit -/

/-- The space of a `PayloadArray`: `maxPayloadLength` and `maxPayloadSubLenSize`. -/
structure Room where
  maxPayloadLength : Nat
  maxPayloadSubLenSize : Nat
deriving DecidableEq

/-- What a call has counted and written: `payloadLength`, `payloadSubLenSize`, the bytes of the
payload buffer and the lengths in `payloadSubLength`. -/
structure Filled where
  payloadLength : Nat
  payloadSubLenSize : Nat
  payloadBuffer : List UInt8
  payloadSubLength : List Nat
deriving DecidableEq

namespace Filled

def empty : Filled := ⟨0, 0, [], []⟩

/-- Counts one more payload, and writes it if there is a buffer. -/
def addPayload (f : Filled) (room : Option Room) (payload : List UInt8) : Except Failure Filled :=
  let payloadLength := (f.payloadLength + payload.length) % 2 ^ 32
  let payloadSubLenSize := (f.payloadSubLenSize + 1) % 2 ^ 32
  match room with
  | none => .ok { f with payloadLength, payloadSubLenSize }
  | some r =>
    if payloadSubLenSize ≤ r.maxPayloadSubLenSize ∧ payloadLength ≤ r.maxPayloadLength then
      -- the buffers hold no more than `room`, whatever the sums have wrapped to
      if f.payloadBuffer.length + payload.length ≤ r.maxPayloadLength ∧
          f.payloadSubLength.length + 1 ≤ r.maxPayloadSubLenSize then
        .ok ⟨payloadLength, payloadSubLenSize, f.payloadBuffer ++ payload,
          f.payloadSubLength ++ [payload.length]⟩
      else .error .outOfBounds
    else .error (.status .bufferTooSmall)

/-- The totals of two calls, and what they have written one after the other. -/
def append (f g : Filled) : Filled :=
  ⟨(f.payloadLength + g.payloadLength) % 2 ^ 32,
    (f.payloadSubLenSize + g.payloadSubLenSize) % 2 ^ 32,
    f.payloadBuffer ++ g.payloadBuffer, f.payloadSubLength ++ g.payloadSubLength⟩

end Filled

/-- How a codec fragments a NAL unit: the size of a fragment's header, the size of the NAL unit's
own header, which the fragments do not repeat, and the fragment header for a NAL unit and the start
and end bits. -/
structure FragmentationUnit where
  headerSize : Nat
  naluHeaderSize : Nat
  header : List UInt8 → UInt8 → List UInt8

/-- The start and end bits of the fragment for the next `size` bytes.  The start bit goes first, so
that the end bit is not set in a fragment that is the first one. -/
def fragmentFlag (total remaining size : Nat) : UInt8 :=
  if remaining = total then 0x80 else if remaining = size then 0x40 else 0

/-- The loop that writes fragments of at most `maxPayloadSize` bytes, `remaining` being the bytes
from `pCurPtrInNalu` on. -/
def createFragments (fu : FragmentationUnit) (nalu : List UInt8) (room : Option Room)
    (maxPayloadSize : Nat) (hmax : 0 < maxPayloadSize) (remaining : List UInt8) (f : Filled) :
    Except Failure Filled :=
  if _h : remaining = [] then .ok f
  else
    let curPayloadSize := min maxPayloadSize remaining.length
    let flag := fragmentFlag (nalu.length - fu.naluHeaderSize) remaining.length curPayloadSize
    match f.addPayload room (fu.header nalu flag ++ remaining.take curPayloadSize) with
    | .error e => .error e
    | .ok f' => createFragments fu nalu room maxPayloadSize hmax (remaining.drop curPayloadSize) f'
termination_by remaining.length
decreasing_by
  have := List.length_pos_iff.mpr _h
  rw [List.length_drop]
  omega

/-- `createPayloadFromNalu` and `createPayloadFromNaluH265`. -/
def createPayloadFromNaluWith (fu : FragmentationUnit) (mtu : Nat) (nalu : List UInt8)
    (room : Option Room) : Except Failure Filled :=
  if h : fu.headerSize < mtu then
    if nalu.length ≤ mtu then Filled.empty.addPayload room nalu
    else
      createFragments fu nalu room (mtu - fu.headerSize) (Nat.sub_pos_of_lt h)
        (nalu.drop fu.naluHeaderSize) Filled.empty
  else .error (.status .rtpInputMtuTooSmall)

/-! ### The payloads of a buffer -/

def Room.sub (r : Room) (f : Filled) : Room :=
  ⟨r.maxPayloadLength - f.payloadLength, r.maxPayloadSubLenSize - f.payloadSubLenSize⟩

/-- The loop of `createPayloadForH264`, `nalus` being the bytes from `curPtrInNalus` on. -/
def createPayloads (fu : FragmentationUnit) (mtu : Nat) (nalus : List UInt8) (room : Option Room)
    (f : Filled) : Except Failure Filled :=
  match _h : getNextNaluLength nalus with
  | .error e => .error e
  | .ok (startIndex, nextNaluLength) =>
    let cur := nalus.drop startIndex
    if cur = [] then .ok f
    else
      match createPayloadFromNaluWith fu mtu (cur.take nextNaluLength) room with
      | .error e => .error e
      | .ok g =>
        let rest := cur.drop nextNaluLength
        if rest = [] then .ok (f.append g)
        else createPayloads fu mtu rest (room.map (·.sub g)) (f.append g)
termination_by nalus.length
decreasing_by
  have := getNextNaluLength_start _h
  rw [List.length_drop, List.length_drop]
  omega

/-- `createPayloadForH264` and `createPayloadForH265`. -/
def createPayloadForWith (fu : FragmentationUnit) (mtu : Nat) (nalus : List UInt8)
    (room : Option Room) : Except Failure Filled :=
  if fu.headerSize < mtu then createPayloads fu mtu nalus room Filled.empty
  else .error (.status .rtpInputMtuTooSmall)

/-- The two calls of `writeFrame`: the first one gives the sizes of the buffers that the second one
fills.  The payloads are then read off as `constructRtpPackets` does it. -/
def payloadsOf (createPayload : Option Room → Except Failure Filled) :
    Except Failure (List (List UInt8)) :=
  match createPayload none with
  | .error e => .error e
  | .ok sizes =>
    match createPayload (some ⟨sizes.payloadLength, sizes.payloadSubLenSize⟩) with
    | .error e => .error e
    | .ok f => .ok (f.payloadSubLength.splitLengths f.payloadBuffer)

/-! ### Putting the payloads together -/

def start4ByteCode : List UInt8 := [0, 0, 0, 1]

/-- What a depayloader returns: `*pNaluLength`, `*pIsStart` and the bytes written.  What a call that
fails leaves in them is not read by its callers and left out. -/
structure Depayed where
  naluLength : Nat
  isStart : Bool
  naluData : List UInt8
deriving DecidableEq

/-- The end of a depayloader: without a buffer only the length is returned; into a buffer with space
for `size` bytes it writes `write`, if the length it has computed is no more than that. -/
def depayWrite (size : Option Nat) (naluLength : Nat) (isStart : Bool)
    (write : Except Failure (List UInt8)) : Except Failure Depayed :=
  match size with
  | none => .ok ⟨naluLength, isStart, []⟩
  | some size =>
    if naluLength ≤ size then
      match write with
      | .error e => .error e
      | .ok bytes =>
        if bytes.length ≤ size then .ok ⟨bytes.length % 2 ^ 32, isStart, bytes⟩
        else .error .outOfBounds
    else .error (.status .bufferTooSmall)

/-- The calls of the jitter buffer for one payload: the size, then the bytes. -/
def depayOne (depay : List UInt8 → Option Nat → Except Failure Depayed) (payload : List UInt8) :
    Except Failure (List UInt8) :=
  match depay payload none with
  | .error e => .error e
  | .ok d =>
    match depay payload (some d.naluLength) with
    | .error e => .error e
    | .ok d' => .ok d'.naluData

/-- The payloads in order, put one after the other. -/
def depayAll (depay : List UInt8 → Option Nat → Except Failure Depayed) :
    List (List UInt8) → Except Failure (List UInt8)
  | [] => .ok []
  | payload :: payloads =>
    match depayOne depay payload with
    | .error e => .error e
    | .ok bytes =>
      match depayAll depay payloads with
      | .error e => .error e
      | .ok rest => .ok (bytes ++ rest)

/-! ### Annex-B streams -/

/-- What every NAL unit meets, whatever the codec. -/
structure IsNalu (nalu : List UInt8) : Prop where
  ne_nil : nalu ≠ []
  no_startCode : ¬ [0, 0, 1] <:+: nalu
  getLast?_ne : nalu.getLast? ≠ some 0

/-- A NAL unit with the start code before it, which has four bytes or three. -/
structure AnnexBUnit (P : List UInt8 → Prop) where
  fourBytes : Bool
  nalu : List UInt8
  isNalu : P nalu

def startCode (fourBytes : Bool) : List UInt8 := if fourBytes then [0, 0, 0, 1] else [0, 0, 1]

variable {P : List UInt8 → Prop}

def annexB (units : List (AnnexBUnit P)) : List UInt8 :=
  units.flatMap fun u => startCode u.fourBytes ++ u.nalu

/-- The NAL units in order, each preceded by the four-byte start code. -/
def withStart4ByteCodes (units : List (AnnexBUnit P)) : List UInt8 :=
  units.flatMap fun u => start4ByteCode ++ u.nalu

def payloadSize (fu : FragmentationUnit) (mtu : Nat) (nalu : List UInt8) : Nat :=
  if nalu.length ≤ mtu then nalu.length
  else
    let bytes := nalu.length - fu.naluHeaderSize
    let fragments := (bytes + (mtu - fu.headerSize) - 1) / (mtu - fu.headerSize)
    bytes + fu.headerSize * fragments

def totalPayloadSize (fu : FragmentationUnit) (mtu : Nat) (units : List (AnnexBUnit P)) : Nat :=
  (units.map fun u => payloadSize fu mtu u.nalu).sum

/-- The payloads of the stream are no longer than `mtu`, and give the NAL units back. -/
def RoundTrips (createPayload : Nat → List UInt8 → Option Room → Except Failure Filled)
    (depay : List UInt8 → Option Nat → Except Failure Depayed) (mtu : Nat)
    (units : List (AnnexBUnit P)) : Prop :=
  ∃ payloads, payloadsOf (createPayload mtu (annexB units)) = .ok payloads ∧
    (∀ p ∈ payloads, p.length ≤ mtu) ∧
    depayAll depay payloads = .ok (withStart4ByteCodes units)

end KvsWebrtc.Rtp
