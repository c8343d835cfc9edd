import KvsWebrtc.Common.Run
import KvsWebrtc.Rtp.RtpPacket
import KvsWebrtc.Signaling.MessageQueue
import Mathlib.Data.UInt

/-!
# The ICE configuration of the signaling client

`validateIceConfiguration` and the test of `refreshIceConfiguration` in `Signaling/Signaling.c`, and
what `getIceConfigLws` and `sendLwsMessage` of `Signaling/LwsApiCalls.c` do with the configuration.
What the JSON of a response parses to is an input, and so is each reading of the clock.

`IceConfigRun` is a run of a client.  Besides the client it keeps when the last configuration that
passed the validation was fetched, and what has been offered to peers since the beginning.
-/

namespace KvsWebrtc.Signaling

def maxIceConfigCount : Nat := 5

def maxIceConfigUriCount : Nat := 4

def signalingIceConfigInfoCurrentVersion : UInt32 := 0

def iceConfigurationRefreshGracePeriod : UInt64 := 30 * UInt64.ofNat hundredsOfNanosInASecond

structure IceConfigInfo where
  version : UInt32
  ttl : UInt64
  uris : List (List UInt8)
  userName : List UInt8
  password : List UInt8
deriving DecidableEq

/-- The fields of `SignalingClient` about its ICE configuration. -/
structure IceConfiguration where
  /-- The first `iceConfigCount` entries of `iceConfigs`. -/
  iceConfigs : List IceConfigInfo
  iceConfigTime : UInt64
  iceConfigExpiration : UInt64
deriving DecidableEq

def minTtl (iceConfigs : List IceConfigInfo) : UInt64 :=
  iceConfigs.foldl (fun minTtl info => min minTtl info.ttl) (2 ^ 64 - 1)

def IceConfigInfo.error (info : IceConfigInfo) : Option Status :=
  if info.version > signalingIceConfigInfoCurrentVersion then
    some .signalingInvalidIceConfigInfoVersion
  else if info.uris.length = 0 then some .signalingNoConfigUriSpecified
  else if info.uris.length > maxIceConfigUriCount then some .signalingMaxIceUriCount
  else none

/-- What `validateIceConfiguration` finds wrong. -/
def iceConfigError (iceConfigs : List IceConfigInfo) : Option Status :=
  if iceConfigs.length > maxIceConfigCount then some .signalingMaxIceConfigCount
  else if iceConfigs.length = 0 then some .signalingNoConfigSpecified
  else
    match iceConfigs.findSome? IceConfigInfo.error with
    | some status => some status
    | none =>
      if minTtl iceConfigs ≤ iceConfigurationRefreshGracePeriod then
        some .signalingIceTtlLessThanGracePeriod
      else none

/-- `(minTtl - ICE_CONFIGURATION_REFRESH_GRACE_PERIOD)`. -/
def validity (iceConfigs : List IceConfigInfo) : UInt64 :=
  minTtl iceConfigs - iceConfigurationRefreshGracePeriod

namespace IceConfiguration

def validateIceConfiguration (client : IceConfiguration) (currentTime : UInt64) :
    Except Status IceConfiguration :=
  match iceConfigError client.iceConfigs with
  | some status => .error status
  | none =>
    .ok { client with
      iceConfigTime := currentTime
      iceConfigExpiration := currentTime + validity client.iceConfigs }

end IceConfiguration

/-- What comes of a call of the service: no response, one that `parseIceConfigResponse` gives up on,
or the entries that it parses. -/
inductive IceConfigResponse
  | failed
  | malformed
  | parsed (iceConfigs : List IceConfigInfo)
deriving DecidableEq

/-- What an offer says about one server. -/
structure OfferedIceServer where
  password : List UInt8
  ttl : UInt64
  uris : List (List UInt8)
  userName : List UInt8
deriving DecidableEq

namespace IceConfiguration

def getIceConfigLws (client : IceConfiguration) (response : IceConfigResponse)
    (currentTime : UInt64) :
    Status × IceConfiguration :=
  match response with
  | .failed => (.signalingLwsCallFailed, client)
  | .malformed => (.invalidApiCallReturnJson, { client with iceConfigs := [] })
  | .parsed iceConfigs =>
    let client := { client with iceConfigs := iceConfigs }
    match client.validateIceConfiguration currentTime with
    | .error status => (status, client)
    | .ok client => (.success, client)

def needsRefresh (client : IceConfiguration) (curTime : UInt64) : Bool :=
  client.iceConfigs.length = 0 ∨ client.iceConfigExpiration < curTime

/-- The part of `sendLwsMessage` that packages the ICE servers: `curTime` is read before the
configuration is validated, and validating it reads the clock again. -/
def sendIceServers (client : IceConfiguration) (messageType : SignalingMessageType)
    (curTime currentTime : UInt64) : List OfferedIceServer × IceConfiguration :=
  if messageType = .offer ∧ client.iceConfigs.length ≠ 0 ∧ curTime ≤ client.iceConfigExpiration then
    match client.validateIceConfiguration currentTime with
    | .error _ => ([], client)
    | .ok client =>
      (client.iceConfigs.map fun info =>
        { password := info.password
          ttl := (info.ttl - (curTime - client.iceConfigTime)) /
          UInt64.ofNat hundredsOfNanosInASecond
          uris := info.uris
          userName := info.userName },
        client)
  else ([], client)

end IceConfiguration

/-! ### Runs -/

/-- What happens to the configuration. -/
inductive IceConfigEvent
  | fetch (response : IceConfigResponse) (currentTime : UInt64)
  | refresh (curTime : UInt64) (fetched : Option (IceConfigResponse × UInt64))
  | send (messageType : SignalingMessageType) (curTime currentTime : UInt64)
deriving DecidableEq

/-- The servers of one offer, with the time of the offer and the fetch that they come from. -/
structure Offer where
  curTime : UInt64
  fetchTime : UInt64
  fetched : List IceConfigInfo
  servers : List OfferedIceServer
deriving DecidableEq

/-- A client, the last reading of the clock, the last fetch that went through, and all the
offers. -/
structure IceConfigRun where
  client : IceConfiguration
  clock : UInt64
  fetchTime : UInt64
  fetched : List IceConfigInfo
  offers : List Offer
deriving DecidableEq

namespace IceConfigRun

def initial : IceConfigRun where
  client := { iceConfigs := [], iceConfigTime := 0, iceConfigExpiration := 0 }
  clock := 0
  fetchTime := 0
  fetched := []
  offers := []

def fetch (run : IceConfigRun) (response : IceConfigResponse) (currentTime : UInt64) :
    IceConfigRun :=
  let (status, client) := run.client.getIceConfigLws response currentTime
  { run with
    client := client
    clock := currentTime
    fetchTime := if status = .success then currentTime else run.fetchTime
    fetched := if status = .success then client.iceConfigs else run.fetched }

def send (run : IceConfigRun) (messageType : SignalingMessageType) (curTime currentTime : UInt64) :
    IceConfigRun :=
  let (servers, client) := run.client.sendIceServers messageType curTime currentTime
  { run with
    client := client
    clock := currentTime
    offers :=
      if servers = [] then run.offers
      else run.offers ++
        [{ curTime := curTime, fetchTime := run.fetchTime, fetched := run.fetched,
           servers := servers }] }

def step (run : IceConfigRun) : IceConfigEvent → IceConfigRun
  | .fetch response currentTime => run.fetch response currentTime
  | .refresh curTime fetched =>
    if run.client.needsRefresh curTime then
      match fetched with
      | none => { run with clock := curTime }
      | some (response, currentTime) => run.fetch response currentTime
    else { run with clock := curTime }
  | .send messageType curTime currentTime => run.send messageType curTime currentTime

def Timely (run : IceConfigRun) : IceConfigEvent → Prop
  | .fetch _ currentTime => run.clock ≤ currentTime
  | .refresh curTime fetched => run.clock ≤ curTime ∧ ∀ f ∈ fetched, curTime ≤ f.2
  | .send _ curTime currentTime => run.clock ≤ curTime ∧ curTime ≤ currentTime

instance Timely.decidable (run : IceConfigRun) : ∀ event, Decidable (run.Timely event)
  | .fetch _ currentTime => inferInstanceAs (Decidable (run.clock ≤ currentTime))
  | .refresh curTime fetched =>
    inferInstanceAs (Decidable (run.clock ≤ curTime ∧ ∀ f ∈ fetched, curTime ≤ f.2))
  | .send _ curTime currentTime =>
    inferInstanceAs (Decidable (run.clock ≤ curTime ∧ curTime ≤ currentTime))

end IceConfigRun

end KvsWebrtc.Signaling
