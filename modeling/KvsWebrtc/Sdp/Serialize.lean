import KvsWebrtc.PeerConnection.SessionDescription
import KvsWebrtc.Sdp.Description

/-!
# Writing session descriptions

`serializeSessionDescription` of `Sdp/Serialize.c`, which is called twice: without a buffer, to find
out how long the text is, and with one.  The lengths are 32-bit numbers.  The lines of times and of
attributes are written without a look at the space that remains.
-/

namespace KvsWebrtc.Sdp.Wire

open PeerConnection Text

/-- The buffer, unless it is `NULL`, with its size, and what has been written so far. -/
structure SdpOutput where
  memory : Option (List Char)
  bufferSize : Nat
  totalWritten : Nat

namespace SdpOutput

/-- `*pBufferSize - *pTotalWritten`. -/
def remaining (out : SdpOutput) : Nat := (out.bufferSize + 2 ^ 32 - out.totalWritten) % 2 ^ 32

/-- `SNPRINTF` to the output. -/
def print (out : SdpOutput) (text : List Char) : SdpOutput :=
  { out with memory := out.memory.map fun m => snprintf m out.totalWritten out.remaining text }

def advance (out : SdpOutput) (text : List Char) : SdpOutput :=
  { out with totalWritten := (out.totalWritten + text.length) % 2 ^ 32 }

/-- A line, if there is room for it without the zero; what has been printed stays. -/
def writeChecked (out : SdpOutput) (text : List Char) : Except SdpOutput SdpOutput :=
  let printed := out.print text
  if out.memory = none ∨ out.remaining ≥ text.length then .ok (printed.advance text)
    else .error printed

def write (out : SdpOutput) (text : List Char) : Except SdpOutput SdpOutput :=
  .ok ((out.print text).advance text)

end SdpOutput

def sdpLineSeparator : List Char := ['\r', '\n']

/-- `PRIu64`. -/
def printUInt64 (n : UInt64) : List Char := decimal n.toNat

section

variable (out : SdpOutput)

def serializeVersion (version : UInt64) : Except SdpOutput SdpOutput :=
  out.writeChecked ("v=".toList ++ printUInt64 version ++ sdpLineSeparator)

def serializeOrigin (o : SdpOrigin) : Except SdpOutput SdpOutput :=
  let c := o.sdpConnectionInformation
  if o.userName ≠ [] ∧ c.networkType ≠ [] ∧ c.addressType ≠ [] ∧ c.connectionAddress ≠ [] then
    out.writeChecked ("o=".toList ++ spaced [o.userName, printUInt64 o.sessionId,
      printUInt64 o.sessionVersion, c.networkType, c.addressType, c.connectionAddress] ++
      sdpLineSeparator)
  else .ok out

def serializeSessionName (sessionName : List Char) : Except SdpOutput SdpOutput :=
  if sessionName ≠ [] then out.writeChecked ("s=".toList ++ sessionName ++ sdpLineSeparator)
    else .ok out

def serializeTimeDescription (t : SdpTimeDescription) : Except SdpOutput SdpOutput :=
  out.write ("t=".toList ++ spaced [printUInt64 t.startTime, printUInt64 t.stopTime] ++
    sdpLineSeparator)

def serializeAttribute (a : SdpAttribute) : Except SdpOutput SdpOutput :=
  if a.attributeValue = [] then out.write ("a=".toList ++ a.attributeName ++ sdpLineSeparator)
  else out.write ("a=".toList ++ (a.attributeName ++ ':' :: a.attributeValue) ++ sdpLineSeparator)

def serializeMediaName (mediaName : List Char) : Except SdpOutput SdpOutput :=
  if mediaName ≠ [] then out.writeChecked ("m=".toList ++ mediaName ++ sdpLineSeparator)
    else .ok out

def serializeMediaConnectionInformation (c : SdpConnectionInformation) :
    Except SdpOutput SdpOutput :=
  if c.networkType ≠ [] then
    out.writeChecked ("c=".toList ++ spaced [c.networkType, c.addressType, c.connectionAddress] ++
      sdpLineSeparator)
  else .ok out

def serializeMedia (m : SdpMediaDescription) : Except SdpOutput SdpOutput := do
  let out ← serializeMediaName out m.mediaName
  let out ← serializeMediaConnectionInformation out m.sdpConnectionInformation
  m.sdpAttributes.toList.foldlM serializeAttribute out

/-- The lines of `serializeSessionDescription`. -/
def serializeLines (d : SessionDescription) : Except SdpOutput SdpOutput := do
  let out ← serializeVersion out d.version
  let out ← serializeOrigin out d.sdpOrigin
  let out ← serializeSessionName out d.sessionName
  let out ← d.sdpTimeDescription.foldlM serializeTimeDescription out
  let out ← d.sdpAttributes.toList.foldlM serializeAttribute out
  d.mediaDescriptions.foldlM serializeMedia out

end

/-- `serializeSessionDescription`: the status, the buffer and `*sdpBytesLength`, which is the size
of the buffer before. -/
def serializeSessionDescription (d : SessionDescription) (sdpBytes : Option (List Char))
    (sdpBytesLength : Nat) : Status × Option (List Char) × Nat :=
  match serializeLines ⟨sdpBytes, sdpBytesLength, 0⟩ d with
  | .ok out => (.success, out.memory, (out.totalWritten + 1) % 2 ^ 32)
  | .error out => (.bufferTooSmall, out.memory, out.totalWritten)

end KvsWebrtc.Sdp.Wire
