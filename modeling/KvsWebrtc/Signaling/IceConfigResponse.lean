import KvsWebrtc.Signaling.JoinResponse
import KvsWebrtc.Signaling.SendMessage

/-!
# The response with the ICE configuration

`parseIceConfigResponse` of `Signaling/LwsApiCalls.c`.  `STRTOUI64` is a parameter, with the text
between its two pointers.  The entries of `pIceConfigs` that have been counted are a list, the last
one first; the others are zero, and there is nothing to write to where none has been counted.  jsmn
makes no token of an undefined type.
-/

namespace KvsWebrtc.Signaling

open Jsmn
open Relay (bytesOf)

/-- `IceConfigInfo` as it stands in the array: `uriCount` says how many of the `uris` there are. -/
structure IceConfigEntry where
  ttl : Nat
  uriCount : Nat
  uris : List (List UInt8)
  userName : List UInt8
  password : List UInt8
deriving DecidableEq

def emptyIceConfig : IceConfigEntry where
  ttl := 0
  uriCount := 0
  uris := List.replicate maxIceConfigUriCount []
  userName := []
  password := []

/-- The keys that `parseIceConfigResponse` looks for in the list. -/
inductive IceConfigKey
  | userName
  | password
  | ttl
  | uris
deriving DecidableEq

def IceConfigKey.name : IceConfigKey → String
  | userName => "Username"
  | password => "Password"
  | ttl => "Ttl"
  | uris => "Uris"

def iceConfigKeys : List IceConfigKey := [.userName, .password, .ttl, .uris]

/-- Writes to `pIceConfigs[configCount - 1]`. -/
def modifyIceConfig (f : IceConfigEntry → IceConfigEntry) :
    List IceConfigEntry → Except Failure (List IceConfigEntry)
  | [] => .error .outOfBounds
  | iceConfig :: iceConfigs => .ok (f iceConfig :: iceConfigs)

section

variable (lib : Library) (strtoui64 : List UInt8 → Except Status Nat) (response : List UInt8)

def iceConfigKeyOf (token : JsmnToken) : Option IceConfigKey :=
  iceConfigKeys.find? fun key => lib.compareJsonString response token .string key.name

/-- Reads a time to live in seconds, a number of 64 bits. -/
def readTtl (value : JsmnToken) : Except Failure Nat :=
  match strtoui64 ((response.drop value.start).take (strLen value)) with
  | .error _ => .error (.status .invalidApiCallReturnJson)
  | .ok ttl => .ok (ttl * hundredsOfNanosInASecond % 2 ^ 64)

/-- The loop over the tokens behind that of an array of URIs, from the `j`th on. -/
def readUris : Nat → Nat → List JsmnToken → List IceConfigEntry → Except Failure
    (List IceConfigEntry)
  | 0, _, _, iceConfigs => .ok iceConfigs
  | _ + 1, _, [], _ => .error .outOfBounds
  | count + 1, j, uri :: tokens, iceConfigs =>
    if strLen uri ≤ maxIceConfigUriLen then do
      let iceConfigs ← modifyIceConfig
        (fun iceConfig =>
          { iceConfig with
            uris := iceConfig.uris.set j (formatString (strLen uri) (response.drop uri.start))
            uriCount := iceConfig.uriCount + 1 })
        iceConfigs
      readUris count (j + 1) tokens iceConfigs
    else .error (.status .signalingMaxIceUriLen)

def readIceConfigValue (key : IceConfigKey) (tokens : List JsmnToken)
    (iceConfigs : List IceConfigEntry) :
    Except Failure (List IceConfigEntry) :=
  match tokens with
  | [] => .error .outOfBounds
  | value :: tokens =>
    match key with
    | .userName => do
      let userName ← readString response value maxIceConfigUserNameLen
      modifyIceConfig (fun iceConfig => { iceConfig with userName := userName }) iceConfigs
    | .password => do
      let password ← readString response value maxIceConfigCredentialLen
      modifyIceConfig (fun iceConfig => { iceConfig with password := password }) iceConfigs
    | .ttl => do
      let ttl ← readTtl strtoui64 response value
      modifyIceConfig (fun iceConfig => { iceConfig with ttl := ttl }) iceConfigs
    | .uris =>
      if value.type ≠ .array then .error (.status .invalidApiCallReturnJson)
      else if maxIceConfigUriCount < value.size then .error (.status .signalingMaxIceUriCount)
      else readUris response value.size 0 tokens iceConfigs

/-- The tokens behind a key that the loop passes. -/
def iceConfigSkip (key : IceConfigKey) (tokens : List JsmnToken) : Nat :=
  match key, tokens with
  | .uris, value :: _ => value.size + 1
  | _, _ => 1

/-- The loop over the tokens; `skip` of them are passed. -/
def readIceConfigs (maxIceConfigs : Nat) (jsonInIceServerList : Bool) (skip : Nat) :
    List JsmnToken → List IceConfigEntry → Except Failure (List IceConfigEntry)
  | [], iceConfigs => .ok iceConfigs
  | token :: tokens, iceConfigs =>
    match skip with
    | skip + 1 => readIceConfigs maxIceConfigs jsonInIceServerList skip tokens iceConfigs
    | 0 =>
      if jsonInIceServerList then
        if token.type = .object then
          if maxIceConfigs < iceConfigs.length + 1 then .ok iceConfigs
          else readIceConfigs maxIceConfigs true 0 tokens (emptyIceConfig :: iceConfigs)
        else
          match iceConfigKeyOf lib response token with
          | none => readIceConfigs maxIceConfigs true 0 tokens iceConfigs
          | some key =>
            match readIceConfigValue strtoui64 response key tokens iceConfigs with
            | .error e => .error e
            | .ok iceConfigs => readIceConfigs maxIceConfigs true
              (iceConfigSkip key tokens) tokens iceConfigs
      else if lib.compareJsonString response token .string "IceServerList" then
        match tokens.head? with
        | none => .error .outOfBounds
        | some value =>
          if value.type = .array then readIceConfigs maxIceConfigs true 0 tokens iceConfigs
          else .error (.status .invalidApiCallReturnJson)
      else readIceConfigs maxIceConfigs false 0 tokens iceConfigs

/-- `parseIceConfigResponse` of the bytes before the terminating zero, for an array of tokens: the
entries if it succeeds, and what `pIceConfigCount` points to, which is `iceConfigCount` before. -/
def parseIceConfigResponse (numTokens maxIceConfigs iceConfigCount : Nat) :
    Except Failure (List IceConfigEntry) × Nat :=
  if maxIceConfigs = 0 then (.error (.status .invalidArg), iceConfigCount)
  else if response = [] then (.error (.status .invalidApiCallReturnJson), iceConfigCount)
  else
    match jsmnParse numTokens (chars response) with
    | .ok (object :: first :: tokens) =>
      if object.type ≠ .object then (.error (.status .invalidApiCallReturnJson), iceConfigCount)
      else
        match readIceConfigs lib strtoui64 response maxIceConfigs false 0
          (object :: first :: tokens) [] with
        | .error e => (.error e, 0)
        | .ok iceConfigs => (.ok iceConfigs.reverse, iceConfigs.length)
    | _ => (.error (.status .invalidApiCallReturnJson), iceConfigCount)

end

end KvsWebrtc.Signaling
