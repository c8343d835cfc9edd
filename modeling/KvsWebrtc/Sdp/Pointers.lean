import KvsWebrtc.Common.Memory
import KvsWebrtc.Sdp.Deserialize

/-!
# Parsing session descriptions by pointers

`Sdp/Deserialize.c` once more, with the pointers and the unsigned lengths of the source.  A pointer
is the list of the characters from it on to the end of the memory, so that a read behind the end is
seen.
-/

namespace KvsWebrtc.Sdp.Wire.Raw

open Memory PeerConnection

def sdpAttributeLength : Nat := 2

/-- The difference of two `UINT32`. -/
def sub32 (m n : Nat) : Nat := (m + 2 ^ 32 - n) % 2 ^ 32

/-- A difference of pointers as a `SIZE_T`. -/
def toSize (n : Int) : Nat := (n % (2 ^ 64 : Nat)).toNat

/-- What stands behind the marker, copied to a field for `length` characters and the zero. -/
def copyLine (length : Nat) (field pch : List Char) (lineLen : Nat) : Except Failure (List Char) :=
  Memory.strncpy (length + 1) field (pch.drop sdpAttributeLength)
    (min maxSdpMediaNameLength (sub32 lineLen sdpAttributeLength))

def parseMediaName (d : SessionDescription) (pch : List Char) (lineLen : Nat) :
    Except Failure SessionDescription :=
  if d.mediaDescriptions.length < maxSdpSessionMediaCount then do
    let mediaName ← copyLine maxSdpMediaNameLength [] pch lineLen
    .ok { d with mediaDescriptions := d.mediaDescriptions ++
      [{ SdpMediaDescription.zero with mediaName := mediaName }] }
  else .error (.status .sessionDescriptionMaxMediaCount)

/-- What `parseSessionAttributes` and `parseMediaAttributes` have in common; `wrap` is the range of
the count. -/
def parseAttribute (wrap : Nat) (a : AttributeArray) (pch : List Char) (lineLen : Nat) :
    Except Failure AttributeArray :=
  if a.count < maxSdpAttributesCount then do
    let slot := a.slots a.count
    match ← strnchr ':' lineLen pch with
    | none =>
      let name ← Memory.strncpy (maxSdpAttributeNameLength + 1) slot.attributeName
          (pch.drop sdpAttributeLength)
        (min maxSdpAttributeNameLength (sub32 lineLen sdpAttributeLength))
      .ok (a.push wrap ⟨name, slot.attributeValue⟩)
    | some search =>
      let name ← Memory.strncpy (maxSdpAttributeNameLength + 1) slot.attributeName
          (pch.drop sdpAttributeLength)
        (toSize ((search : Int) - sdpAttributeLength))
      let value ← Memory.strncpy (maxSdpAttributeValueLength + 1) slot.attributeValue
          (pch.drop (search + 1))
        (toSize (min (maxSdpAttributeValueLength : Int) ((lineLen : Int) - (search + 1))))
      .ok (a.push wrap ⟨name, value⟩)
  else .error (.status .sdpAttributeMaxExceeded)

def parseSessionAttributes (d : SessionDescription) (pch : List Char) (lineLen : Nat) :
    Except Failure SessionDescription := do
  let sdpAttributes ← parseAttribute (2 ^ 16) d.sdpAttributes pch lineLen
  .ok { d with sdpAttributes := sdpAttributes }

def parseMediaAttributes (d : SessionDescription) (pch : List Char) (lineLen : Nat) :
    Except Failure SessionDescription :=
  modifyLastMedia d fun m => do
    let sdpAttributes ← parseAttribute (2 ^ 8) m.sdpAttributes pch lineLen
    .ok { m with sdpAttributes := sdpAttributes }

def whenMarker (marker : Char) (curr : List Char) (d : SessionDescription)
    (parse : SessionDescription → Except Failure SessionDescription) :
    Except Failure SessionDescription := do
  if ← startsWith [marker, '='] curr then parse d else .ok d

/-- The version line.  The status of `STRTOUI64` is not looked at. -/
def parseVersion (pic : Platform) (d : SessionDescription) (curr : List Char) (lineLen : Nat) :
    Except Failure SessionDescription := do
  let text ← readChars (sub32 (min lineLen maxSdpTokenLength) sdpAttributeLength)
      (curr.drop sdpAttributeLength)
  match pic.strtoui64 text with
  | .error _ => .ok d
  | .ok version => .ok { d with version := UInt64.ofNat version }

def parseSessionLine (pic : Platform) (d : SessionDescription) (curr : List Char) (lineLen : Nat) :
    Except Failure SessionDescription := do
  let d ← whenMarker 's' curr d fun d => do
    let sessionName ← copyLine maxSdpSessionNameLength d.sessionName curr lineLen
    .ok { d with sessionName := sessionName }
  let d ← whenMarker 'i' curr d fun d => do
    let sessionInformation ← copyLine maxSdpSessionInformationLength d.sessionInformation curr
        lineLen
    .ok { d with sessionInformation := sessionInformation }
  let d ← whenMarker 'u' curr d fun d => do
    let uri ← copyLine maxSdpSessionNameLength d.uri curr lineLen
    .ok { d with uri := uri }
  let d ← whenMarker 'e' curr d fun d => do
    let emailAddress ← copyLine maxSdpSessionNameLength d.emailAddress curr lineLen
    .ok { d with emailAddress := emailAddress }
  let d ← whenMarker 'p' curr d fun d => do
    let phoneNumber ← copyLine maxSdpSessionNameLength d.phoneNumber curr lineLen
    .ok { d with phoneNumber := phoneNumber }
  let d ← whenMarker 'v' curr d fun d => parseVersion pic d curr lineLen
  whenMarker 'a' curr d fun d => parseSessionAttributes d curr lineLen

def parseMediaLine (d : SessionDescription) (curr : List Char) (lineLen : Nat) :
    Except Failure SessionDescription := do
  let d ← whenMarker 'a' curr d fun d => parseMediaAttributes d curr lineLen
  whenMarker 'i' curr d fun d => modifyLastMedia d fun m => do
    let mediaTitle ← copyLine maxSdpMediaTitleLength m.mediaTitle curr lineLen
    .ok { m with mediaTitle := mediaTitle }

def strippedLength (curr : List Char) (lineLen : Nat) : Except Failure Nat :=
  if 0 < lineLen then
    match curr[lineLen - 1]? with
    | none => .error .outOfBounds
    | some c => .ok (if c = '\r' then lineLen - 1 else lineLen)
  else .ok lineLen

/-- The body of the loop, for a line that ends at `lineLen`. -/
def parseLine (pic : Platform) (d : SessionDescription) (curr : List Char) (lineLen : Nat) :
    Except Failure SessionDescription := do
  let lineLen ← strippedLength curr (lineLen % 2 ^ 32)
  let d ← whenMarker 'm' curr d fun d => parseMediaName d curr lineLen
  if d.mediaDescriptions ≠ [] then parseMediaLine d curr lineLen else
    parseSessionLine pic d curr lineLen

/-- The loop over the lines, with a bound on its rounds; `tail - curr` characters are left. -/
def parseLines (pic : Platform) : Nat → Nat → List Char → SessionDescription →
    Except Failure SessionDescription
  | 0, _, _, d => .ok d
  | rounds + 1, left, curr, d => do
    match ← strnchr '\n' left curr with
    | none => .ok d
    | some next =>
      let d ← parseLine pic d curr next
      parseLines pic rounds (left - (next + 1)) (curr.drop (next + 1)) d

/-- `deserializeSessionDescription`, up to the end or to a number of lines. -/
def deserializeSessionDescription (pic : Platform) (rounds : Nat) (d : SessionDescription)
    (sdpBytes : Option (List Char)) : Except Failure SessionDescription :=
  match sdpBytes with
  | none => .error (.status .sessionDescriptionInvalidSessionDescription)
  | some memory => do
    let tail ← strlen memory
    parseLines pic rounds tail memory d

end KvsWebrtc.Sdp.Wire.Raw
