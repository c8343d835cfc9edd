import KvsWebrtc.PeerConnection.SessionDescription
import KvsWebrtc.Sdp.Description

/-!
# Parsing session descriptions

`deserializeSessionDescription` of `Sdp/Deserialize.c`.  Copying more characters than the array of a
field has fails with `outOfBounds`.  A marker does not end with a carriage return, so that it does
not matter that the source looks for it in the line with the carriage return at its end.
-/

namespace KvsWebrtc.Sdp.Wire

open PeerConnection Text

/-- `STRNCPY` of `n` characters into an array of `size` characters.  There is no zero among them, so
that what the array held behind them stays. -/
def strncpy (size : Nat) (field source : List Char) (n : Nat) : Except Failure (List Char) :=
  if n ≤ size then .ok (source.take n ++ field.drop n) else .error .outOfBounds

/-- What stands behind the marker of a line, copied to a field for `length` characters and the
zero. -/
def copyLine (length : Nat) (field line : List Char) : Except Failure (List Char) :=
  strncpy (length + 1) field (line.drop 2) (min maxSdpMediaNameLength (line.length - 2))

def parseMediaName (d : SessionDescription) (line : List Char) :
    Except Failure SessionDescription :=
  if d.mediaDescriptions.length < maxSdpSessionMediaCount then do
    let mediaName ← copyLine maxSdpMediaNameLength [] line
    .ok { d with mediaDescriptions := d.mediaDescriptions ++
      [{ SdpMediaDescription.zero with mediaName := mediaName }] }
  else .error (.status .sessionDescriptionMaxMediaCount)

/-- What `parseSessionAttributes` and `parseMediaAttributes` have in common; `wrap` is the range of
the count. -/
def parseAttribute (wrap : Nat) (a : AttributeArray) (line : List Char) :
    Except Failure AttributeArray :=
  if a.count < maxSdpAttributesCount then
    let slot := a.slots a.count
    match line.findIdx? (· == ':') with
    | none => do
      let name ← strncpy (maxSdpAttributeNameLength + 1) slot.attributeName (line.drop 2)
        (min maxSdpAttributeNameLength (line.length - 2))
      .ok (a.push wrap ⟨name, slot.attributeValue⟩)
    | some search => do
      let name ← strncpy (maxSdpAttributeNameLength + 1) slot.attributeName (line.drop 2)
          (search - 2)
      let value ← strncpy (maxSdpAttributeValueLength + 1) slot.attributeValue
          (line.drop (search + 1))
        (min maxSdpAttributeValueLength (line.length - (search + 1)))
      .ok (a.push wrap ⟨name, value⟩)
  else .error (.status .sdpAttributeMaxExceeded)

def parseSessionAttributes (d : SessionDescription) (line : List Char) :
    Except Failure SessionDescription := do
  let sdpAttributes ← parseAttribute (2 ^ 16) d.sdpAttributes line
  .ok { d with sdpAttributes := sdpAttributes }

def modifyLastMedia (d : SessionDescription)
    (f : SdpMediaDescription → Except Failure SdpMediaDescription) :
    Except Failure SessionDescription :=
  match d.mediaDescriptions.getLast? with
  | none => .ok d
  | some m => do
    let m ← f m
    .ok { d with mediaDescriptions := d.mediaDescriptions.dropLast ++ [m] }

def parseMediaAttributes (d : SessionDescription) (line : List Char) :
    Except Failure SessionDescription :=
  modifyLastMedia d fun m => do
    let sdpAttributes ← parseAttribute (2 ^ 8) m.sdpAttributes line
    .ok { m with sdpAttributes := sdpAttributes }

def HasMarker (marker : Char) (line : List Char) : Prop := line.take 2 = [marker, '=']

instance (marker : Char) (line : List Char) : Decidable (HasMarker marker line) :=
  inferInstanceAs (Decidable (_ = _))

/-- The version line.  The status of `STRTOUI64` is not looked at. -/
def parseVersion (pic : Platform) (d : SessionDescription) (line : List Char) :
    SessionDescription :=
  match pic.strtoui64 ((line.take (min line.length maxSdpTokenLength)).drop 2) with
  | .error _ => d
  | .ok version => { d with version := UInt64.ofNat version }

def parseSessionLine (pic : Platform) (d : SessionDescription) (line : List Char) :
    Except Failure SessionDescription :=
  if HasMarker 's' line then do
    let sessionName ← copyLine maxSdpSessionNameLength d.sessionName line
    .ok { d with sessionName := sessionName }
  else if HasMarker 'i' line then do
    let sessionInformation ← copyLine maxSdpSessionInformationLength d.sessionInformation line
    .ok { d with sessionInformation := sessionInformation }
  else if HasMarker 'u' line then do
    let uri ← copyLine maxSdpSessionNameLength d.uri line
    .ok { d with uri := uri }
  else if HasMarker 'e' line then do
    let emailAddress ← copyLine maxSdpSessionNameLength d.emailAddress line
    .ok { d with emailAddress := emailAddress }
  else if HasMarker 'p' line then do
    let phoneNumber ← copyLine maxSdpSessionNameLength d.phoneNumber line
    .ok { d with phoneNumber := phoneNumber }
  else if HasMarker 'v' line then .ok (parseVersion pic d line)
  else if HasMarker 'a' line then parseSessionAttributes d line
  else .ok d

def parseMediaLine (d : SessionDescription) (line : List Char) :
    Except Failure SessionDescription :=
  if HasMarker 'a' line then parseMediaAttributes d line
  else if HasMarker 'i' line then
    modifyLastMedia d fun m => do
      let mediaTitle ← copyLine maxSdpMediaTitleLength m.mediaTitle line
      .ok { m with mediaTitle := mediaTitle }
  else .ok d

/-- A round of the loop of `deserializeSessionDescription`. -/
def parseLine (pic : Platform) (d : SessionDescription) (curr : List Char) :
    Except Failure SessionDescription := do
  let line := stripCr curr
  let d ← if HasMarker 'm' line then parseMediaName d line else .ok d
  if d.mediaDescriptions ≠ [] then parseMediaLine d line else parseSessionLine pic d line

def textLines (text : List Char) : List (List Char) := (splitLines text).1

def cString (memory : List Char) : List Char := memory.takeWhile (· != '\x00')

def deserializeSessionDescription (pic : Platform) (d : SessionDescription)
    (sdpBytes : Option (List Char)) :
    Except Failure SessionDescription :=
  match sdpBytes with
  | none => .error (.status .sessionDescriptionInvalidSessionDescription)
  | some memory => (textLines (cString memory)).foldlM (parseLine pic) d

end KvsWebrtc.Sdp.Wire
