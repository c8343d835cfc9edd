import KvsWebrtc.Relay.Protocol
import KvsWebrtc.Signaling.CString
import KvsWebrtc.Signaling.IceConfig

/-!
# The response to a join

`parseJoinResponseAndFillIce` of `Signaling/KvsNgtcp2Transport.c`.  The parser looks for quoted keys
from the first object of `iceServers` on, to the end of the response, whatever object they belong
to.  It looks at values in quotes and at arrays of them, and passes over the others.
-/

namespace KvsWebrtc.Signaling

open Relay (bytesOf strstr isSeparator)

def kvsIceTtlSec : UInt64 := 86400

def maxIceConfigUserNameLen : Nat := 256

def maxIceConfigCredentialLen : Nat := 256

def maxIceConfigUriLen : Nat := 127

def quote : UInt8 := '"'.toUInt8

/-- The entry before anything has been read. -/
def joinIceConfigInfo : IceConfigInfo where
  version := signalingIceConfigInfoCurrentVersion
  ttl := kvsIceTtlSec * UInt64.ofNat hundredsOfNanosInASecond
  uris := []
  userName := []
  password := []

namespace IceConfigInfo

/-- The value of a key, if it is in quotes.  The key is told by its first letters. -/
def setValue (info : IceConfigInfo) (key value : List UInt8) : IceConfigInfo :=
  if 2 ≤ value.length ∧ (bytesOf "ttl").isPrefixOf key then
    { info with ttl := UInt64.ofInt (atoi value) * UInt64.ofNat hundredsOfNanosInASecond }
  else if 4 ≤ value.length ∧ (bytesOf "user").isPrefixOf key then
    { info with userName := value.take maxIceConfigUserNameLen }
  else if 4 ≤ value.length ∧ (bytesOf "pass").isPrefixOf key then
    { info with password := value.take maxIceConfigCredentialLen }
  else info

/-- One string of an array, under whatever key. -/
def addUri (info : IceConfigInfo) (uri : List UInt8) : IceConfigInfo :=
  if info.uris.length < maxIceConfigUriCount ∧ uri.length < maxIceConfigUriLen + 1 then
    { info with uris := info.uris ++ [uri.take maxIceConfigUriLen] }
  else info

end IceConfigInfo

/-- The loop over an array, with a bound on its rounds, and what is left behind it.  If a string
does not end, `p` is null and is read nevertheless. -/
def fillUris : Nat → IceConfigInfo → List UInt8 → Except Failure (IceConfigInfo × List UInt8)
  | 0, info, p => .ok (info, p)
  | _ + 1, info, [] => .ok (info, [])
  | fuel + 1, info, c :: p =>
    if c = ']'.toUInt8 then .ok (info, p)
    else if c = quote then
      match strchr quote p with
      | none => .error .outOfBounds
      | some ulen => fillUris fuel (info.addUri (p.take ulen)) (p.drop (ulen + 1))
    else fillUris fuel info p

/-- The loop over the keys, with a bound on its rounds. -/
def fillInfo : Nat → IceConfigInfo → List UInt8 → Except Failure IceConfigInfo
  | 0, info, _ => .ok info
  | _ + 1, info, [] => .ok info
  | fuel + 1, info, c :: p =>
    if c = 0 then .ok info
    else if c = quote then
      match strchr quote p with
      | none => .ok info
      | some i =>
        match (p.drop (i + 1)).dropWhile isSeparator with
        | [] => .ok info
        | d :: val =>
          if d = quote then
            match strchr quote val with
            | none => .ok info
            | some vlen => fillInfo fuel (info.setValue p (val.take vlen)) (val.drop (vlen + 1))
          else if d = '['.toUInt8 then do
            let (info, p) ← fillUris val.length info val
            fillInfo fuel info p
          else fillInfo fuel info (d :: val)
    else fillInfo fuel info p

/-- From the first `c` on. -/
def fromChr (c : UInt8) (p : List UInt8) : Option (List UInt8) := (strchr c p).map p.drop

/-- The first object of `iceServers`. -/
def firstIceServer (json : List UInt8) : Option (List UInt8) := do
  let p ← strstr (bytesOf "\"iceServers\"") json
  let p ← fromChr '['.toUInt8 p
  fromChr '\x7b'.toUInt8 p

def parseJoinResponseAndFillIce (client : IceConfiguration) (json : List UInt8)
    (currentTime : UInt64) :
    Except Failure IceConfiguration :=
  match firstIceServer json with
  | none => .error (.status .signalingGetIceConfigCallFailed)
  | some p => do
    let info ← fillInfo p.length joinIceConfigInfo p
    return { client with
      iceConfigs := [info]
      iceConfigTime := currentTime
      iceConfigExpiration := currentTime + info.ttl }

end KvsWebrtc.Signaling
