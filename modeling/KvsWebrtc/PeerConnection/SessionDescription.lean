import KvsWebrtc.Common.Memory
import KvsWebrtc.Common.Text
import KvsWebrtc.PeerConnection.Jsmn

/-!
# Session descriptions in JSON

`serializeSessionDescriptionInit`, `deserializeSessionDescriptionInit` and
`deserializeRtcIceCandidateInit` of `PeerConnection/SessionDescription.c`.  The number of tokens
that the parser has room for is the platform's.
-/

namespace KvsWebrtc.PeerConnection

open Jsmn Text

inductive SdpType
  | offer
  | answer
deriving DecidableEq

/-- `RtcSessionDescriptionInit`.  A type that is zero is `none`. -/
structure RtcSessionDescriptionInit where
  type : Option SdpType
  sdp : List Char
deriving DecidableEq

def maxSessionDescriptionInitSdpLen : Nat := 25000

def sdpOfferValue : List Char := "offer".toList

def sdpAnswerValue : List Char := "answer".toList

def sdpTypeKey : List Char := "type".toList

def sdpKey : List Char := "sdp".toList

/-- `SESSION_DESCRIPTION_INIT_TEMPLATE_HEAD` for a type. -/
def sessionDescriptionInitTemplateHead (value : List Char) : List Char :=
  "\x7b\"type\": \"".toList ++ value ++ "\", \"sdp\": \"".toList

def sessionDescriptionInitTemplateTail : List Char := "\"\x7d".toList

def sessionDescriptionInitLineEnding : List Char := ['\\', 'r', '\\', 'n']

def sessionDescriptionInitLineEndingWithoutCr : List Char := ['\\', 'n']

/-! ### Serializing -/

/-- `SNPRINTF` to the position `pos` of a memory. -/
def snprintf (memory : List Char) (pos size : Nat) (s : List Char) : List Char :=
  if size = 0 then memory
  else
    let s := s.take (size - 1)
    memory.take pos ++ s ++ '\x00' :: memory.drop (pos + s.length + 1)

/-- The memory behind `sessionDescriptionJSON`, unless that is `NULL`, and the variables of
`serializeSessionDescriptionInit`. -/
structure JsonOutput where
  memory : Option (List Char)
  inputSize : Nat
  sessionDescriptionJSONLen : Nat
deriving DecidableEq

/-- A piece of the output, or what there is if it does not fit. -/
def JsonOutput.write (out : JsonOutput) (s : List Char) : Except JsonOutput JsonOutput :=
  match out.memory with
  | none => .ok { out with sessionDescriptionJSONLen := out.sessionDescriptionJSONLen + s.length }
  | some memory =>
    let size := out.inputSize - out.sessionDescriptionJSONLen
    let memory := snprintf memory out.sessionDescriptionJSONLen size s
    if s.length ≤ size then
      .ok { out with
        memory := some memory
        sessionDescriptionJSONLen := out.sessionDescriptionJSONLen + s.length }
    else .error { out with memory := some memory }

/-- A line without the carriage return at its end. -/
def stripCr (line : List Char) : List Char :=
  if line.getLast? = some '\r' then line.dropLast else line

def serializeLines : Nat → List Char → JsonOutput → Except JsonOutput JsonOutput
  | 0, _, out => .ok out
  | rounds + 1, curr, out =>
    match curr.dropWhile (· != '\n') with
    | [] => .ok out
    | _ :: next => do
      let out ← out.write (stripCr (curr.takeWhile (· != '\n')) ++ sessionDescriptionInitLineEnding)
      serializeLines rounds next out

def serializeSdp (init : RtcSessionDescriptionInit) (out : JsonOutput) :
    Except JsonOutput JsonOutput := do
  let value := if init.type = some .offer then sdpOfferValue else sdpAnswerValue
  let out ← out.write (sessionDescriptionInitTemplateHead value)
  let out ← serializeLines init.sdp.length init.sdp out
  out.write sessionDescriptionInitTemplateTail

def serializeSessionDescriptionInit (init : RtcSessionDescriptionInit) (memory : Option (List Char))
    (inputSize : Nat) : Status × JsonOutput :=
  match serializeSdp init
      { memory := memory, inputSize := inputSize, sessionDescriptionJSONLen := 0 } with
  | .ok out =>
    (.success, { out with sessionDescriptionJSONLen := out.sessionDescriptionJSONLen + 1 })
  | .error out => (.bufferTooSmall, out)

/-! ### Deserializing -/

def tokenText (js : List Char) (token : JsmnToken) : List Char :=
  (js.drop token.start).take (token.finish.getD token.start - token.start)

/-- `STRNCMP(value, sessionDescriptionJSON + token.start, ARRAY_SIZE(value) - 1) == 0`. -/
def tokenStartsWith (js value : List Char) (token : JsmnToken) : Bool :=
  value.isPrefixOf (js.drop token.start)

/-- The loop that replaces the escaped line endings, with a bound on its rounds. -/
def unescapeLines : Nat → List Char → List Char
  | 0, _ => []
  | rounds + 1, curr =>
    match strstr sessionDescriptionInitLineEndingWithoutCr curr with
    | none => []
    | some (line, next) =>
      let line :=
        if 1 < line.length ∧ line.drop (line.length - 2) = ['\\', 'r'] then
          line.take (line.length - 2)
        else line
      line ++ ['\r', '\n'] ++ unescapeLines rounds (next.drop 2)

/-- One round of the loop over the tokens, for a key and its value. -/
def readMember (js : List Char) (init : RtcSessionDescriptionInit) (key value : JsmnToken) :
    Except Failure RtcSessionDescriptionInit :=
  if tokenStartsWith js sdpTypeKey key then
    if tokenStartsWith js sdpOfferValue value then .ok { init with type := some .offer }
    else if tokenStartsWith js sdpAnswerValue value then .ok { init with type := some .answer }
    else .error (.status .sessionDescriptionInitInvalidType)
  else if tokenStartsWith js sdpKey key then
    if maxSessionDescriptionInitSdpLen < (tokenText js value).length then
      .error (.status .sessionDescriptionInitMaxSdpLenExceeded)
    else
      let sdp := unescapeLines (tokenText js value).length (tokenText js value)
      -- an earlier text shows behind this one
      .ok { init with sdp := sdp ++ init.sdp.drop sdp.length }
  else .ok init

/-- The loop over the tokens behind the object.  A key that is the last token has no value to
read. -/
def readMembers (js : List Char) : List JsmnToken → RtcSessionDescriptionInit →
    Except Failure RtcSessionDescriptionInit
  | [], init => .ok init
  | [key], init =>
    if tokenStartsWith js sdpTypeKey key ∨ tokenStartsWith js sdpKey key then .error .outOfBounds
    else .ok init
  | key :: value :: tokens, init => do
    let init ← readMember js init key value
    readMembers js tokens init

/-- `deserializeSessionDescriptionInit` of the first `len` characters of a memory. -/
def deserializeSessionDescriptionInit (numTokens : Nat) (memory : List Char) (len : Nat) :
    Except Failure RtcSessionDescriptionInit :=
  match jsmnParse numTokens (memory.take len) with
  | .ok (object :: first :: tokens) =>
    if object.type ≠ .object then .error (.status .sessionDescriptionInitNotObject)
    else do
      let init ← readMembers memory (first :: tokens) { type := none, sdp := [] }
      if init.sdp = [] then .error (.status .sessionDescriptionInitMissingSdp)
      else if init.type = none then .error (.status .sessionDescriptionInitMissingType)
      else return init
  | _ => .error (.status .invalidApiCallReturnJson)

/-! ### Candidates -/

def maxIceCandidateInitCandidateLen : Nat := 255

def candidateKey : List Char := "candidate".toList

/-- The loop over the tokens behind the object.  The last of them is not taken for a key. -/
def readCandidates (js : List Char) : List JsmnToken → List Char → Except Failure (List Char)
  | key :: value :: tokens, candidate => do
    if ← Memory.startsWith candidateKey (js.drop key.start) then
      let candidate ← Memory.strncpy (maxIceCandidateInitCandidateLen + 1) candidate
          (js.drop value.start)
        (value.finish.getD value.start - value.start)
      readCandidates js tokens candidate
    else readCandidates js tokens candidate
  | _, candidate => .ok candidate

/-- `deserializeRtcIceCandidateInit`: the candidate that is stored. -/
def deserializeRtcIceCandidateInit (numTokens : Nat) (pJson : Option (List Char)) :
    Except Failure (List Char) :=
  match pJson with
  | none => .error (.status .nullArg)
  | some js =>
    match jsmnParse numTokens js with
    | .ok (object :: first :: tokens) =>
      if object.type ≠ .object then .error (.status .iceCandidateInitMalformed)
      else do
        let candidate ← readCandidates js (first :: tokens) []
        if candidate = [] then .error (.status .iceCandidateMissingCandidate) else .ok candidate
    | _ => .error (.status .invalidApiCallReturnJson)

end KvsWebrtc.PeerConnection
